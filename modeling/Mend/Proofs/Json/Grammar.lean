import Mend.Proofs.Json.Numbers
import Mend.Proofs.Json.Strings

namespace Mend.Json

def IsSpace (s : List Char) : Prop := ∀ c ∈ s, isSpace c = true

inductive LiteralText : List Char → Json → Prop
  | null : LiteralText ['n', 'u', 'l', 'l'] .null
  | true : LiteralText ['t', 'r', 'u', 'e'] (.bool true)
  | false : LiteralText ['f', 'a', 'l', 's', 'e'] (.bool false)
  | nan : LiteralText ['N', 'a', 'N'] (.num (.real .nan))
  | infinity : LiteralText ['I', 'n', 'f', 'i', 'n', 'i', 't', 'y'] (.num (.real (.inf false)))
  | minusInfinity :
    LiteralText ['-', 'I', 'n', 'f', 'i', 'n', 'i', 't', 'y'] (.num (.real (.inf true)))

inductive ScalarText : List Char → Json → Prop
  | string {w xs : List Char} (h : StringText w xs) : ScalarText ('"' :: w) (.str (.ofList xs))
  | literal {w : List Char} {v : Json} (h : LiteralText w v) : ScalarText w v
  | number {w : List Char} {n : Number} (h : NumberText w n) : ScalarText w (.num n)

inductive Separated {α : Type} (part : List Char → α → Prop) (close : Char) :
    List Char → List α → Prop
  | last {w s : List Char} {a : α} (h : part w a) (hs : IsSpace s) :
    Separated part close (w ++ (s ++ [close])) [a]
  | more {w s s' w' : List Char} {a : α} {as : List α} (h : part w a) (hs : IsSpace s)
      (hs' : IsSpace s') (hrest : Separated part close w' as) :
    Separated part close (w ++ (s ++ ',' :: (s' ++ w'))) (a :: as)

inductive Listed {α : Type} (part : List Char → α → Prop) (close : Char) :
    List Char → List α → Prop
  | empty {s : List Char} (hs : IsSpace s) : Listed part close (s ++ [close]) []
  | parts {s w : List Char} {as : List α} (hs : IsSpace s) (h : Separated part close w as) :
    Listed part close (s ++ w) as

inductive MemberText (item : List Char → Json → Prop) : List Char → String × Json → Prop
  | mk {n xs s s' w : List Char} {v : Json} (hname : StringText n xs) (hs : IsSpace s)
      (hs' : IsSpace s') (hv : item w v) :
    MemberText item ('"' :: (n ++ (s ++ ':' :: (s' ++ w)))) (.ofList xs, v)

inductive BracketText (item : List Char → Json → Prop) : List Char → Json → Prop
  | array {w : List Char} {vs : List Json} (h : Listed item ']' w vs) :
    BracketText item ('[' :: w) (.arr vs)
  | object {w : List Char} {ms : List (String × Json)} (h : Listed (MemberText item) '}' w ms) :
    BracketText item ('{' :: w) (.obj (Fields.ofMembers ms))

def ValueText : Nat → List Char → Json → Prop
  | 0, w, v => ScalarText w v
  | depth + 1, w, v => ScalarText w v ∨ BracketText (ValueText depth) w v

variable {α : Type} {cs r s w : List Char} {v : Json}

theorem exists_space (cs : List Char) : ∃ s, IsSpace s ∧ cs = s ++ skipSpace cs :=
  ⟨cs.takeWhile isSpace, fun c hc => List.all_eq_true.1 List.all_takeWhile c hc,
    List.takeWhile_append_dropWhile.symm⟩

theorem skipSpace_append (hs : IsSpace s) (hr : ∀ c, r.head? = some c → isSpace c = false) :
    skipSpace (s ++ r) = r := by
  rw [skipSpace, List.dropWhile_append_of_pos hs]
  cases r with
  | nil => rfl
  | cons c r => exact List.dropWhile_cons_of_neg (by rw [hr c rfl]; exact Bool.false_ne_true)

theorem skipSpace_cons {c : Char} (hs : IsSpace s) (hc : isSpace c = false) (r : List Char) :
    skipSpace (s ++ c :: r) = c :: r := by
  apply skipSpace_append hs
  rintro x ⟨⟩
  exact hc

theorem IsSpace.skipSpace (hs : IsSpace s) : skipSpace s = [] := by
  have h := skipSpace_append hs (r := []) nofun
  rwa [List.append_nil] at h

theorem not_space_of_isDigit {c : Char} (hc : c.isDigit = true) : isSpace c = false := by
  rw [Bool.eq_false_iff]
  intro h
  simp only [isSpace, Bool.or_eq_true, beq_iff_eq] at h
  rcases h with ((rfl | rfl) | rfl) | rfl
  all_goals cases hc

/-- A text begins neither with space nor with a closing bracket, nor with a mark of byte order. -/
def Begins (w : List Char) : Prop :=
  ∃ c w', w = c :: w' ∧ isSpace c = false ∧ c ≠ '\ufeff' ∧ c ≠ ']' ∧ c ≠ '}'

theorem ScalarText.begins (h : ScalarText w v) :
    Begins w ∧ (∀ r, w ≠ '[' :: r) ∧ ∀ r, w ≠ '{' :: r := by
  have hbegins : ∀ c w', isSpace c = false ∧ c ≠ '\ufeff' ∧ c ≠ ']' ∧ c ≠ '}' → c ≠ '[' →
      c ≠ '{' → Begins (c :: w') ∧ (∀ r, c :: w' ≠ '[' :: r) ∧ ∀ r, c :: w' ≠ '{' :: r :=
    fun c w' hc harray hobject => ⟨⟨c, w', rfl, hc⟩,
      fun r heq => harray (List.head_eq_of_cons_eq heq),
      fun r heq => hobject (List.head_eq_of_cons_eq heq)⟩
  cases h with
  | string h => exact hbegins _ _ (by decide) (by decide) (by decide)
  | literal h =>
    cases h
    all_goals exact hbegins _ _ (by decide) (by decide) (by decide)
  | number h =>
    obtain ⟨negative, c, w', rfl, hc⟩ := h.begins
    cases negative with
    | true => exact hbegins _ _ (by decide) (by decide) (by decide)
    | false =>
      refine hbegins c w' ⟨not_space_of_isDigit hc, ?_, ?_, ?_⟩ ?_ ?_
      all_goals
        rintro rfl
        cases hc

theorem ValueText.begins {depth : Nat} (h : ValueText depth w v) : Begins w := by
  cases depth with
  | zero => exact (ScalarText.begins h).1
  | succ depth =>
    rcases h with h | h
    · exact h.begins.1
    · cases h
      all_goals exact ⟨_, _, rfl, by decide⟩

theorem MemberText.begins {text : List Char → Json → Prop} {m : String × Json}
    (h : MemberText text w m) : Begins w := by
  cases h
  exact ⟨_, _, rfl, by decide⟩

theorem Separated.begins {part : List Char → α → Prop} {close : Char} {as : List α}
    (hpart : ∀ w a, part w a → Begins w) (h : Separated part close w as) : Begins w := by
  cases h with
  | last h _ =>
    obtain ⟨c, w', rfl, hc⟩ := hpart _ _ h
    exact ⟨c, _, rfl, hc⟩
  | more h _ _ _ =>
    obtain ⟨c, w', rfl, hc⟩ := hpart _ _ h
    exact ⟨c, _, rfl, hc⟩

theorem Separated.ends {part : List Char → α → Prop} {close : Char} {as : List α}
    (h : Separated part close w as) : ∃ u, w = u ++ [close] := by
  induction h with
  | @last w s a h hs => exact ⟨w ++ s, by simp⟩
  | @more w s s' w' a as _ _ _ _ ih =>
    obtain ⟨u, rfl⟩ := ih
    exact ⟨w ++ (s ++ ',' :: (s' ++ u)), by simp⟩

theorem Listed.ends {part : List Char → α → Prop} {close : Char} {as : List α}
    (h : Listed part close w as) : ∃ u, w = u ++ [close] := by
  cases h with
  | @empty s hs => exact ⟨s, rfl⟩
  | @parts s w as hs h =>
    obtain ⟨u, rfl⟩ := h.ends
    exact ⟨s ++ u, by simp⟩

theorem ValueText.object_inv {depth : Nat} {fs : Fields} (h : ValueText depth w (.obj fs)) :
    ∃ depth' w' ms, w = '{' :: w' ∧ Listed (MemberText (ValueText depth')) '}' w' ms ∧
      fs = Fields.ofMembers ms := by
  cases depth with
  | zero => nomatch h
  | succ depth =>
    rcases h with h | h
    · nomatch h
    · cases h with
      | object h => exact ⟨depth, _, _, rfl, h, rfl⟩

theorem Begins.append (h : Begins w) (r : List Char) :
    ∀ c, (w ++ r).head? = some c → isSpace c = false := by
  obtain ⟨x, w', rfl, hx, -⟩ := h
  rintro c ⟨⟩
  exact hx

theorem stops_cons {c : Char} (hc : c.isDigit = false ∧ c ≠ '.' ∧ c ≠ 'e' ∧ c ≠ 'E')
    (r : List Char) : Stops (c :: r) := by
  rintro x ⟨⟩
  exact hc

theorem IsSpace.stops (hs : IsSpace s) (hr : Stops r) : Stops (s ++ r) := by
  cases s with
  | nil => exact hr
  | cons c s =>
    have hc := hs c List.mem_cons_self
    refine stops_cons ⟨?_, ?_, ?_, ?_⟩ _
    · rw [Bool.eq_false_iff]
      intro hdigit
      rw [not_space_of_isDigit hdigit] at hc
      cases hc
    all_goals
      rintro rfl
      cases hc

end Mend.Json
