import Mend.Text.Lines

namespace Mend.Text

/-- Every newline stands behind a carriage return, and every carriage return before a newline. -/
structure Crlf (cs : List Char) : Prop where
  behind : ∀ before after, cs = before ++ '\n' :: after → before.getLast? = some '\r'
  before : ∀ before after, cs = before ++ '\r' :: after → after.head? = some '\n'

/-- Passes over a text that follows a carriage return or does not; whether one is left open at the
end, or none if something stands alone. -/
def scan : Bool → List Char → Option Bool
  | opened, [] => some opened
  | opened, c :: cs =>
    if c = '\n' then if opened then scan false cs else none
    else if opened then none
    else scan (c == '\r') cs

variable {cs ds : List Char} {b : Bool}

theorem scan_append (opened : Bool) (cs ds : List Char) :
    scan opened (cs ++ ds) = (scan opened cs).bind (scan · ds) := by
  induction cs generalizing opened with
  | nil => rfl
  | cons c cs ih =>
    simp only [List.cons_append, scan]
    split
    · split
      · exact ih false
      · rfl
    · split
      · rfl
      · exact ih _

theorem eq_of_scan (h : scan false cs = some b) : b = (cs.getLast? == some '\r') := by
  by_cases hcs : cs = []
  · subst hcs
    cases h
    rfl
  · obtain ⟨init, c, rfl⟩ : ∃ init c, cs = init ++ [c] :=
      ⟨_, _, (List.dropLast_concat_getLast hcs).symm⟩
    rw [scan_append] at h
    obtain ⟨opened, -, h⟩ := Option.bind_eq_some_iff.1 h
    rw [List.getLast?_concat]
    simp only [scan] at h
    split at h
    · rename_i hc
      split at h
      · cases h
        rw [hc]
        rfl
      · cases h
    · split at h
      · cases h
      · cases h
        simp

theorem Crlf.head?_eq {before after : List Char} (h : Crlf (before ++ after))
    (hlast : before.getLast? = some '\r') : after.head? = some '\n' := by
  obtain ⟨init, rfl⟩ := List.getLast?_eq_some_iff.1 hlast
  exact h.before init after (List.append_assoc _ _ _)

theorem Crlf.scan_eq {before : List Char} (h : Crlf (before ++ cs)) :
    scan (before.getLast? == some '\r') cs = some false := by
  -- the characters move one by one to those that have been passed
  induction cs generalizing before with
  | nil =>
    rw [scan, Option.some.injEq, beq_eq_false_iff_ne]
    exact fun hlast => nomatch h.head?_eq hlast
  | cons c cs ih =>
    have hnext : Crlf (before ++ [c] ++ cs) := by rwa [List.append_assoc]
    have hrest := ih hnext
    rw [List.getLast?_concat] at hrest
    rw [scan]
    by_cases hc : c = '\n'
    · subst hc
      rw [if_pos rfl, h.behind before cs rfl]
      exact hrest
    · have hlast : (before.getLast? == some '\r') = false :=
        beq_eq_false_iff_ne.2 fun hlast => hc (Option.some.inj (h.head?_eq hlast))
      rw [if_neg hc, hlast]
      exact hrest

theorem crlf_iff_scan : Crlf cs ↔ scan false cs = some false := by
  constructor
  · intro h
    have hscan : scan (([] : List Char).getLast? == some '\r') cs = some false := Crlf.scan_eq h
    exact hscan
  · intro h
    constructor
    · rintro before after rfl
      rw [scan_append] at h
      obtain ⟨opened, hopened, h⟩ := Option.bind_eq_some_iff.1 h
      have hlast := eq_of_scan hopened
      cases opened with
      | false => simp [scan] at h
      | true => exact eq_of_beq hlast.symm
    · rintro before after rfl
      rw [scan_append] at h
      obtain ⟨opened, -, h⟩ := Option.bind_eq_some_iff.1 h
      cases opened with
      | true => simp [scan] at h
      | false =>
        cases after with
        | nil => cases h
        | cons c after =>
          by_cases hc : c = '\n'
          · rw [hc]
            rfl
          · simp [scan, hc] at h

theorem eq_nil_of_scan (h : scan true cs = some b) (hlf : '\n' ∉ cs) : cs = [] := by
  cases cs with
  | nil => rfl
  | cons c cs =>
    have hc : c ≠ '\n' := fun hc => hlf (hc ▸ List.mem_cons_self)
    simp [scan, hc] at h

theorem scan_of_not_mem (hne : cs ≠ []) (hcr : '\r' ∉ cs) (hlf : '\n' ∉ cs) (opened : Bool) :
    scan opened cs = if opened then none else some false := by
  induction cs generalizing opened with
  | nil => exact absurd rfl hne
  | cons c cs ih =>
    rw [List.mem_cons, not_or] at hcr hlf
    have hc : (c == '\r') = false := beq_eq_false_iff_ne.2 (Ne.symm hcr.1)
    rw [scan, if_neg (Ne.symm hlf.1), hc]
    by_cases hcs : cs = []
    · rw [hcs]
      rfl
    · rw [ih hcs hcr.2 hlf.2 false]
      rfl

/-- What may stand between the two characters of a line ending. -/
theorem crlf_around_iff : Crlf ('\r' :: (cs ++ ['\n'])) ↔ scan true cs = some true := by
  have hfirst : scan false ('\r' :: (cs ++ ['\n'])) = scan true (cs ++ ['\n']) := rfl
  rw [crlf_iff_scan, hfirst, scan_append, Option.bind_eq_some_iff]
  constructor
  · rintro ⟨opened, hopened, h⟩
    cases opened with
    | false => cases h
    | true => exact hopened
  · exact fun h => ⟨true, h, rfl⟩

def Terminated : List Line → Prop
  | [] => True
  | l :: ls => scan false l = some (!ls.isEmpty) ∧ Terminated ls

theorem crlf_join_iff (ls : List Line) : Crlf (Lines.join '\n' ls) ↔ Terminated ls := by
  rw [crlf_iff_scan]
  induction ls with
  | nil => exact iff_of_true rfl trivial
  | cons l ls ih =>
    cases ls with
    | nil => simp [Lines.join, Terminated]
    | cons m ls =>
      have hjoin : Lines.join '\n' (l :: m :: ls) = l ++ '\n' :: Lines.join '\n' (m :: ls) := rfl
      rw [Terminated, ← ih, hjoin, scan_append, Option.bind_eq_some_iff]
      constructor
      · rintro ⟨opened, hopened, h⟩
        cases opened with
        | false => simp [scan] at h
        | true => exact ⟨hopened, by simpa [scan] using h⟩
      · rintro ⟨hl, h⟩
        exact ⟨true, hl, by simpa [scan] using h⟩

theorem terminated_append {before after : List Line} (h : after ≠ []) :
    Terminated (before ++ after) ↔
      (∀ l ∈ before, scan false l = some true) ∧ Terminated after := by
  induction before with
  | nil => simp
  | cons l before ih =>
    have hne : (before ++ after).isEmpty = false := by simp [h]
    rw [List.cons_append, Terminated, hne, ih, List.forall_mem_cons, and_assoc]
    rfl

theorem Terminated.of_append {before after : List Line} (h : Terminated (before ++ after)) :
    Terminated after := by
  induction before with
  | nil => exact h
  | cons l before ih => exact ih h.2

theorem Terminated.eq_nil {ls : List Line} (h : Terminated ls)
    (hopen : ∀ l ∈ ls, scan false l = some true) : ls = [] := by
  refine Decidable.byContradiction fun hls => ?_
  obtain ⟨init, l, rfl⟩ : ∃ init l, ls = init ++ [l] :=
    ⟨_, _, (List.dropLast_concat_getLast hls).symm⟩
  have hlast := h.of_append.1
  rw [hopen l List.mem_concat_self] at hlast
  cases hlast

end Mend.Text
