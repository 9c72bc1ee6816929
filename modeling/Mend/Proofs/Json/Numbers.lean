import Mend.Json.Reader

namespace Mend.Json

structure IsDigits (ds : List Char) : Prop where
  ne_nil : ds ≠ []
  digit : ∀ c ∈ ds, c.isDigit = true

inductive WholeText : List Char → Prop
  | zero : WholeText ['0']
  | digits {ds : List Char} (h : IsDigits ds) (hzero : ds.head? ≠ some '0') : WholeText ds

inductive FractionText : List Char → List Char → Prop
  | none : FractionText [] []
  | point {ds : List Char} (h : IsDigits ds) : FractionText ('.' :: ds) ds

inductive ExponentText : List Char → Option Int → Prop
  | none : ExponentText [] none
  | bare {m : Char} {ds : List Char} (hm : m = 'e' ∨ m = 'E') (h : IsDigits ds) :
    ExponentText (m :: ds) (some (natOfDigits ds))
  | plus {m : Char} {ds : List Char} (hm : m = 'e' ∨ m = 'E') (h : IsDigits ds) :
    ExponentText (m :: '+' :: ds) (some (natOfDigits ds))
  | minus {m : Char} {ds : List Char} (hm : m = 'e' ∨ m = 'E') (h : IsDigits ds) :
    ExponentText (m :: '-' :: ds) (some (-(natOfDigits ds : Int)))

def sign (negative : Bool) : List Char := if negative then ['-'] else []

/-- The number of given digits; it is whole when there is neither a fraction nor an exponent. -/
def numeral (negative : Bool) (whole frac : List Char) (e? : Option Int) : Number :=
  match frac, e? with
  | [], none => .int (if negative then -(natOfDigits whole : Int) else natOfDigits whole)
  | frac, e? =>
    .real (.ofDecimal negative (natOfDigits (whole ++ frac)) (e?.getD 0 - frac.length))

inductive NumberText : List Char → Number → Prop
  | mk (negative : Bool) {whole f frac x : List Char} {e? : Option Int} (hwhole : WholeText whole)
      (hf : FractionText f frac) (hx : ExponentText x e?)
      (hfew : frac = [] → e? = none → whole.length ≤ maxDigits) :
    NumberText (sign negative ++ (whole ++ (f ++ x))) (numeral negative whole frac e?)

variable {cs r whole frac : List Char} {v : Json} {negative : Bool}

theorem IsDigits.head?_append {ds : List Char} (h : IsDigits ds) (r : List Char) :
    (ds ++ r).head? = ds.head? := by
  obtain ⟨c, ds, rfl⟩ := List.exists_cons_of_ne_nil h.ne_nil
  rfl

theorem digits_fst_append_snd (cs : List Char) : (digits cs).1 ++ (digits cs).2 = cs :=
  List.takeWhile_append_dropWhile

theorem isDigits_digits (cs : List Char) (h : (digits cs).1 ≠ []) : IsDigits (digits cs).1 :=
  ⟨h, fun c hc => List.all_eq_true.1 List.all_takeWhile c hc⟩

theorem fraction_sound (h : fraction cs = (frac, r)) : ∃ f, cs = f ++ r ∧ FractionText f frac := by
  unfold fraction at h
  split at h
  · rename_i cs
    split at h
    · cases h
      exact ⟨[], rfl, .none⟩
    · rename_i hne
      have hds : (digits cs).1 ≠ [] := fun hnil => hne _ (Prod.ext hnil rfl)
      have hdigits := isDigits_digits _ hds
      have happend := digits_fst_append_snd cs
      rw [h] at hdigits happend
      exact ⟨'.' :: frac, congrArg ('.' :: ·) happend.symm, .point hdigits⟩
  · cases h
    exact ⟨[], rfl, .none⟩

def exponentAfter (negative : Bool) (cs : List Char) : Option (Int × List Char) :=
  match digits cs with
  | ([], _) => none
  | (ds, r) => some (if negative then -(natOfDigits ds : Int) else natOfDigits ds, r)

theorem exponent?_mark {m : Char} (hm : m = 'e' ∨ m = 'E') (rest : List Char) :
    exponent? (m :: rest) = match rest with
      | '-' :: r => exponentAfter true r
      | '+' :: r => exponentAfter false r
      | r => exponentAfter false r := by
  unfold exponent?
  dsimp only
  rw [if_pos hm]
  cases rest with
  | nil => rfl
  | cons c rest =>
    by_cases hminus : c = '-'
    · rw [hminus]
      rfl
    · by_cases hplus : c = '+'
      · rw [hplus]
        rfl
      · simp only [List.cons.injEq, hminus, hplus, false_and, imp_self, implies_true]
        rfl

theorem exponentAfter_sound {e : Int} (h : exponentAfter negative cs = some (e, r)) :
    ∃ ds, cs = ds ++ r ∧ IsDigits ds ∧
      e = if negative then -(natOfDigits ds : Int) else natOfDigits ds := by
  unfold exponentAfter at h
  split at h
  · cases h
  · rename_i ds rest hne hdigits
    cases h
    have happend := digits_fst_append_snd cs
    have hds := isDigits_digits cs
    rw [hdigits] at happend hds
    exact ⟨ds, happend.symm, hds hne, rfl⟩

theorem exponent?_sound {e : Int} (h : exponent? cs = some (e, r)) :
    ∃ x, cs = x ++ r ∧ ExponentText x (some e) := by
  cases cs with
  | nil => cases h
  | cons m rest =>
    by_cases hm : m = 'e' ∨ m = 'E'
    · rw [exponent?_mark hm] at h
      split at h
      · obtain ⟨ds, rfl, hds, rfl⟩ := exponentAfter_sound h
        exact ⟨m :: '-' :: ds, rfl, .minus hm hds⟩
      · obtain ⟨ds, rfl, hds, rfl⟩ := exponentAfter_sound h
        exact ⟨m :: '+' :: ds, rfl, .plus hm hds⟩
      · obtain ⟨ds, rfl, hds, rfl⟩ := exponentAfter_sound h
        exact ⟨m :: ds, rfl, .bare hm hds⟩
    · unfold exponent? at h
      dsimp only at h
      rw [if_neg hm] at h
      cases h

def Stops (r : List Char) : Prop :=
  ∀ c, r.head? = some c → c.isDigit = false ∧ c ≠ '.' ∧ c ≠ 'e' ∧ c ≠ 'E'

theorem digits_append {ds : List Char} (hds : ∀ c ∈ ds, c.isDigit = true)
    (hr : ∀ c, r.head? = some c → c.isDigit = false) : digits (ds ++ r) = (ds, r) := by
  induction ds with
  | nil =>
    cases r with
    | nil => rfl
    | cons c r => simp [digits, hr c rfl]
  | cons c ds ih =>
    have hc := hds c List.mem_cons_self
    have hrest := ih fun d hd => hds d (List.mem_cons_of_mem c hd)
    simp only [digits, Prod.mk.injEq] at hrest
    simp [digits, hc, hrest]

theorem fraction_complete {f : List Char} (hf : FractionText f frac)
    (hr : ∀ c, r.head? = some c → c.isDigit = false ∧ c ≠ '.') :
    fraction (f ++ r) = (frac, r) := by
  cases hf with
  | none =>
    cases r with
    | nil => rfl
    | cons c r =>
      rw [List.nil_append, fraction]
      rintro r' ⟨⟩
      exact (hr '.' rfl).2 rfl
  | point h =>
    rw [List.cons_append, fraction, digits_append h.digit fun c hc => (hr c hc).1]
    obtain ⟨c, ds, rfl⟩ := List.exists_cons_of_ne_nil h.ne_nil
    rfl

theorem exponentAfter_complete (negative : Bool) {ds : List Char} (hds : IsDigits ds)
    (hr : ∀ c, r.head? = some c → c.isDigit = false) :
    exponentAfter negative (ds ++ r) =
      some (if negative then -(natOfDigits ds : Int) else natOfDigits ds, r) := by
  rw [exponentAfter, digits_append hds.digit hr]
  obtain ⟨c, ds, rfl⟩ := List.exists_cons_of_ne_nil hds.ne_nil
  rfl

theorem exponent?_complete {x : List Char} {e : Int} (hx : ExponentText x (some e))
    (hr : ∀ c, r.head? = some c → c.isDigit = false) : exponent? (x ++ r) = some (e, r) := by
  cases hx with
  | minus hm h => exact (exponent?_mark hm _).trans (exponentAfter_complete true h hr)
  | plus hm h => exact (exponent?_mark hm _).trans (exponentAfter_complete false h hr)
  | @bare m ds hm h =>
    obtain ⟨c, ds', rfl⟩ := List.exists_cons_of_ne_nil h.ne_nil
    have hc := h.digit c List.mem_cons_self
    refine (exponent?_mark hm _).trans (.trans ?_ (exponentAfter_complete false h hr))
    split
    · rename_i heq
      cases heq
      cases hc
    · rename_i heq
      cases heq
      cases hc
    · rfl

theorem exponent?_eq_none (hr : Stops r) : exponent? r = none := by
  cases r with
  | nil => rfl
  | cons c r =>
    obtain ⟨-, -, he, hE⟩ := hr c rfl
    unfold exponent?
    exact if_neg fun h => h.elim he hE

theorem numberAfter_none {rest : List Char} (hf : fraction cs = (frac, rest))
    (hx : exponent? rest = none) :
    numberAfter negative whole cs =
      if frac = [] ∧ maxDigits < whole.length then .error (.tooManyDigits whole.length)
      else .ok (.num (numeral negative whole frac none), rest) := by
  unfold numberAfter
  rw [hf]
  dsimp only
  rw [hx]
  cases frac with
  | nil => simp [numeral]
  | cons c frac => simp [numeral]

theorem numberAfter_some {rest : List Char} {e : Int} (hf : fraction cs = (frac, rest))
    (hx : exponent? rest = some (e, r)) :
    numberAfter negative whole cs = .ok (.num (numeral negative whole frac (some e)), r) := by
  unfold numberAfter
  rw [hf]
  dsimp only
  rw [hx]
  cases frac with
  | nil => rfl
  | cons c frac => rfl

theorem numberAfter_sound (h : numberAfter negative whole cs = .ok (v, r)) :
    ∃ f frac x e?, cs = f ++ (x ++ r) ∧ FractionText f frac ∧ ExponentText x e? ∧
      (frac = [] → e? = none → whole.length ≤ maxDigits) ∧
      v = .num (numeral negative whole frac e?) := by
  cases hfraction : fraction cs with
  | mk frac rest =>
    obtain ⟨f, rfl, hf⟩ := fraction_sound hfraction
    cases hexponent : exponent? rest with
    | none =>
      rw [numberAfter_none hfraction hexponent] at h
      split at h
      · cases h
      · rename_i hfew
        cases h
        exact ⟨f, frac, [], none, rfl, hf, .none,
          fun hfrac _ => Nat.le_of_not_lt fun hlt => hfew ⟨hfrac, hlt⟩, rfl⟩
    | some p =>
      obtain ⟨e, rest'⟩ := p
      obtain ⟨x, rfl, hx⟩ := exponent?_sound hexponent
      rw [numberAfter_some hfraction hexponent] at h
      cases h
      exact ⟨f, frac, x, some e, rfl, hf, hx, nofun, rfl⟩

theorem exponent_head {x : List Char} {e? : Option Int} (hx : ExponentText x e?) (hr : Stops r) :
    ∀ c, (x ++ r).head? = some c → c.isDigit = false ∧ c ≠ '.' := by
  have hmark : ∀ m : Char, m = 'e' ∨ m = 'E' → m.isDigit = false ∧ m ≠ '.' := by
    rintro m (rfl | rfl)
    all_goals decide
  cases hx with
  | none => exact fun c hc => ⟨(hr c hc).1, (hr c hc).2.1⟩
  | bare hm h =>
    rintro c ⟨⟩
    exact hmark _ hm
  | plus hm h =>
    rintro c ⟨⟩
    exact hmark _ hm
  | minus hm h =>
    rintro c ⟨⟩
    exact hmark _ hm

theorem fraction_head {f x : List Char} {e? : Option Int} (hf : FractionText f frac)
    (hx : ExponentText x e?) (hr : Stops r) :
    ∀ c, (f ++ (x ++ r)).head? = some c → c.isDigit = false := by
  cases hf with
  | none => exact fun c hc => (exponent_head hx hr c hc).1
  | point h =>
    rintro c ⟨⟩
    decide

theorem numberAfter_complete (negative : Bool) {f x : List Char} {e? : Option Int}
    (hf : FractionText f frac) (hx : ExponentText x e?)
    (hfew : frac = [] → e? = none → whole.length ≤ maxDigits) (hr : Stops r) :
    numberAfter negative whole (f ++ (x ++ r)) =
      .ok (.num (numeral negative whole frac e?), r) := by
  have hfraction := fraction_complete hf (exponent_head hx hr)
  cases e? with
  | none =>
    cases hx
    rw [List.nil_append] at hfraction ⊢
    rw [numberAfter_none hfraction (exponent?_eq_none hr), if_neg]
    exact fun h => Nat.not_lt.2 (hfew h.1 rfl) h.2
  | some e =>
    exact numberAfter_some hfraction (exponent?_complete hx fun c hc => (hr c hc).1)

theorem number_zero (negative : Bool) (r : List Char) :
    number (sign negative ++ '0' :: r) = numberAfter negative ['0'] r := by
  cases negative with
  | false => rfl
  | true => rfl

theorem number_body {body : List Char} (hzero : body.head? ≠ some '0')
    (hminus : body.head? = some '-' → negative = true) :
    number (sign negative ++ body) =
      match digits body with
      | ([], _) => fail .valueExpected (sign negative ++ body)
      | (ds, r) => numberAfter negative ds r := by
  cases body with
  | nil =>
    cases negative with
    | false => rfl
    | true => rfl
  | cons c body =>
    have hc : c ≠ '0' := fun hc => hzero (congrArg some hc)
    cases negative with
    | true =>
      change number ('-' :: c :: body) = _
      unfold number
      simp only [List.cons.injEq, hc, false_and, imp_self, implies_true]
      rfl
    | false =>
      have hc' : c ≠ '-' := fun hc => Bool.false_ne_true (hminus (congrArg some hc))
      change number (c :: body) = _
      unfold number
      simp only [List.cons.injEq, hc, hc', false_and, imp_self, implies_true]
      rfl

theorem exists_sign (cs : List Char) :
    ∃ negative body, cs = sign negative ++ body ∧ (body.head? = some '-' → negative = true) := by
  by_cases h : cs.head? = some '-'
  · obtain ⟨body, rfl⟩ := List.head?_eq_some_iff.1 h
    exact ⟨true, body, rfl, fun _ => rfl⟩
  · exact ⟨false, cs, rfl, fun h' => absurd h' h⟩

theorem numberText_of_numberAfter (hwhole : WholeText whole)
    (h : numberAfter negative whole cs = .ok (v, r)) :
    ∃ w n, sign negative ++ (whole ++ cs) = w ++ r ∧ NumberText w n ∧ v = .num n := by
  obtain ⟨f, frac, x, e?, rfl, hf, hx, hfew, rfl⟩ := numberAfter_sound h
  refine ⟨_, _, ?_, .mk negative hwhole hf hx hfew, rfl⟩
  simp only [List.append_assoc]

theorem number_sound (h : number cs = .ok (v, r)) :
    ∃ w n, cs = w ++ r ∧ NumberText w n ∧ v = .num n := by
  obtain ⟨negative, body, rfl, hminus⟩ := exists_sign cs
  by_cases hzero : body.head? = some '0'
  · obtain ⟨rest, rfl⟩ := List.head?_eq_some_iff.1 hzero
    rw [number_zero] at h
    exact numberText_of_numberAfter .zero h
  · rw [number_body hzero hminus] at h
    split at h
    · cases h
    · rename_i ds rest hne hdigits
      have happend := digits_fst_append_snd body
      have hds := isDigits_digits body
      rw [hdigits] at happend hds
      subst happend
      rw [(hds hne).head?_append] at hzero
      exact numberText_of_numberAfter (.digits (hds hne) hzero) h

theorem number_complete {w : List Char} {n : Number} (h : NumberText w n) (hr : Stops r) :
    number (w ++ r) = .ok (.num n, r) := by
  obtain @⟨negative, whole, f, frac, x, e?, hwhole, hf, hx, hfew⟩ := h
  simp only [List.append_assoc]
  have hafter := numberAfter_complete negative hf hx hfew hr
  cases hwhole with
  | zero => exact (number_zero negative _).trans hafter
  | digits hds hzero =>
    rw [number_body, digits_append hds.digit (fraction_head hf hx hr)]
    · obtain ⟨c, ds, rfl⟩ := List.exists_cons_of_ne_nil hds.ne_nil
      exact hafter
    · rwa [hds.head?_append]
    · rw [hds.head?_append]
      exact fun hc => absurd (hds.digit '-' (List.mem_of_head? hc)) (by decide)

theorem NumberText.begins {w : List Char} {n : Number} (h : NumberText w n) :
    ∃ negative c w', w = sign negative ++ c :: w' ∧ c.isDigit = true := by
  obtain @⟨negative, whole, f, frac, x, e?, hwhole, -, -, -⟩ := h
  cases hwhole with
  | zero => exact ⟨negative, '0', f ++ x, rfl, rfl⟩
  | digits hds _ =>
    obtain ⟨c, ds, rfl⟩ := List.exists_cons_of_ne_nil hds.ne_nil
    exact ⟨negative, c, ds ++ (f ++ x), rfl, hds.digit c List.mem_cons_self⟩

end Mend.Json
