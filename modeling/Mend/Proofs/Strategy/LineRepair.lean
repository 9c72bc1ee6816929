import Mend.Proofs.Strategy.Replay
import Mend.Proofs.Text.Lines

namespace Mend.Strategy

/-- Records of changed lines come from changes that the joined text shows. -/
theorem toText_map_ne_of_lineEdits {edit? : Nat → Line → Option Edit} {f : Line → Line} {n m : Nat}
    (hf : Lines.Exchanges n m f) (hsome : ∀ i l e, edit? i l = some e → f l ≠ l)
    {ls : List Line} (hne : lineEdits edit? 0 ls ≠ []) :
    Lines.toText (ls.map f) ≠ Lines.toText ls := by
  intro h
  -- with the texts the lines are equal, too, as all exchanges change the length the same way
  obtain ⟨e, he⟩ := List.exists_mem_of_ne_nil _ hne
  obtain ⟨j, l, hl, hj, -⟩ := mem_lineEdits he
  have hid : ls.map f = ls.map id := by rw [hf.map_eq_self h, List.map_id]
  exact hsome j l e hj (List.map_inj_left.1 hid l hl)

namespace Blanks

theorem body_append (line : Line) : (body line).1 ++ (body line).2 = line := by
  unfold body
  split
  · rename_i h
    obtain ⟨init, rfl⟩ := List.getLast?_eq_some_iff.1 h
    rw [List.dropLast_concat]
  · exact List.append_nil line

theorem parts (line : Line) :
    ∃ kept gone cr, line = kept ++ gone ++ cr ∧ body line = (kept ++ gone, cr) ∧
      Text.trimRight (kept ++ gone) = kept := by
  obtain ⟨gone, hgone, -⟩ := Text.eq_dropRight_append Text.isBlank (body line).1
  have hbody : Text.trimRight (body line).1 ++ gone = (body line).1 := hgone.symm
  refine ⟨Text.trimRight (body line).1, gone, (body line).2, ?_, ?_, ?_⟩
  · rw [hbody, body_append]
  · rw [hbody]
  · rw [hbody]

theorem clean_eq_of_edit?_eq_none {i : Nat} {line : Line} (h : edit? i line = none) :
    clean line = line := by
  obtain ⟨kept, gone, cr, hline, hbody, hkept⟩ := parts line
  simp only [edit?, hbody, hkept] at h
  split at h
  · rename_i hgone
    rw [clean, hbody, hkept, hline, ← hgone]
  · cases h

theorem clean_ne_of_edit?_eq_some {i : Nat} {line : Line} {e : Edit}
    (h : edit? i line = some e) : clean line ≠ line := by
  obtain ⟨kept, gone, cr, hline, hbody, hkept⟩ := parts line
  intro hclean
  rw [clean, hbody, hkept, hline] at hclean
  have hgone : kept = kept ++ gone := List.append_cancel_right hclean
  simp only [edit?, hbody, hkept] at h
  rw [if_pos hgone] at h
  cases h

theorem edit?_span {i : Nat} {line : Line} {e : Edit} (h : edit? i line = some e) :
    e.line = some ((i : Int) + 1) ∧ e.endLine = none := by
  unfold edit? at h
  dsimp only at h
  split at h
  · cases h
  · cases h
    exact ⟨rfl, rfl⟩

theorem redo?_edit {line : Line} {e : Edit} {before after : List Line}
    (h : edit? before.length line = some e) :
    trailingBlanks.redo? e (before ++ line :: after) = some (before ++ clean line :: after) := by
  obtain ⟨kept, gone, cr, hline, hbody, hkept⟩ := parts line
  simp only [edit?, hbody, hkept, List.drop_left] at h
  rw [clean, hbody, hkept, hline]
  split at h
  · cases h
  · cases h
    apply Edit.amend?_append rfl
    rw [String.toList_ofList]
    exact Edit.cut?_append kept gone cr

theorem editsFrom_eq (i : Nat) (ls : List Line) : editsFrom i ls = lineEdits edit? i ls := by
  induction ls generalizing i with
  | nil => rfl
  | cons l ls ih => rw [editsFrom, lineEdits, ih]

theorem exchanges_clean : Lines.Exchanges 1 0 clean := by
  intro line
  obtain ⟨kept, gone, cr, hline, hbody, hkept⟩ := parts line
  rw [clean, hbody, hkept, hline]
  refine ⟨gone.length, ?_, ?_⟩
  · simp only [List.length_append]
    omega
  · intro hgone
    rw [List.eq_nil_of_length_eq_zero hgone, List.append_nil]

end Blanks

namespace Extension

section
variable {module cs m rest : List Char} {pieces : List Pattern.Piece}

theorem mention?_eq_some_iff : mention? module cs = some (m, rest) ↔
    ∃ q r, isQuote q = true ∧ isQuote r = true ∧ m = q :: (module ++ [r]) ∧
      cs = q :: (module ++ r :: rest) := by
  constructor
  · intro h
    cases cs with
    | nil => cases h
    | cons c cs =>
      simp only [mention?] at h
      split at h
      · rename_i hc
        obtain ⟨hquote, hprefix⟩ := Bool.and_eq_true_iff.1 hc
        obtain ⟨tail, rfl⟩ := List.isPrefixOf_iff_prefix.1 hprefix
        rw [List.drop_left] at h
        split at h
        · split at h
          · rename_i r rest hr
            cases h
            exact ⟨c, r, hquote, hr, rfl, rfl⟩
          · cases h
        · cases h
      · cases h
  · rintro ⟨q, r, hq, hr, rfl, rfl⟩
    simp [mention?, hq, hr]

theorem fill_length_congr (h : m.length = rest.length) :
    (Pattern.Piece.fill pieces m).length = (Pattern.Piece.fill pieces rest).length := by
  induction pieces with
  | nil => rfl
  | cons p pieces ih =>
    simp only [Pattern.Piece.fill, List.flatMap_cons, List.length_append] at ih ⊢
    rw [ih]
    cases p with
    | text t => rfl
    | match_ => rw [h]

theorem renameAll_length {c : Nat} (hfill : ∀ m : List Char, m.length = module.length + 2 →
      (Pattern.Piece.fill pieces m).length = c) (fuel : Nat) (cs : List Char) :
    ∃ k, (renameAll module pieces fuel cs).length + k * (module.length + 2) = cs.length + k * c ∧
      (k = 0 → renameAll module pieces fuel cs = cs) := by
  -- `k` mentions are replaced, each of one length by a text of one length
  induction fuel generalizing cs with
  | zero => exact ⟨0, by simp [renameAll], fun _ => rfl⟩
  | succ fuel ih =>
    cases cs with
    | nil => exact ⟨0, by simp [renameAll], fun _ => rfl⟩
    | cons d cs =>
      cases hm : mention? module (d :: cs) with
      | none =>
        obtain ⟨k, hlen, hk⟩ := ih cs
        refine ⟨k, ?_, ?_⟩
        · simp only [renameAll, hm, List.length_cons]
          omega
        · intro h
          simp only [renameAll, hm, hk h]
      | some r =>
        obtain ⟨m, rest⟩ := r
        obtain ⟨q, r, -, -, hmention, hcs⟩ := mention?_eq_some_iff.1 hm
        have hmlen : m.length = module.length + 2 := by simp [hmention]
        obtain ⟨k, hlen, -⟩ := ih rest
        refine ⟨k + 1, ?_, fun h => absurd h (Nat.succ_ne_zero k)⟩
        have hsum : (d :: cs).length = m.length + rest.length := by
          simp [hcs, hmention]
          omega
        simp only [renameAll, hm, List.length_append, hfill m hmlen, Nat.add_mul, hsum]
        omega

end

theorem exchanges_renameLine (module : List Char) (pieces : List Pattern.Piece) :
    ∃ n m, Lines.Exchanges n m (renameLine module pieces) := by
  refine ⟨module.length + 2,
    (Pattern.Piece.fill pieces (List.replicate (module.length + 2) ' ')).length, ?_⟩
  intro line
  apply renameAll_length
  intro m hm
  apply fill_length_congr
  rw [hm, List.length_replicate]

def edit? (module : List Char) (pieces : List Pattern.Piece) (description : String) (i : Nat)
    (line : Line) : Option Edit :=
  if renameLine module pieces line = line then none
  else
    some { kind := .modify, line := some (i + 1), oldCode := some (.ofList line),
           newCode := some (.ofList (renameLine module pieces line)), description := description }

section
variable {module : List Char} {pieces : List Pattern.Piece} {description : String} {i : Nat}
  {line : Line} {e : Edit}

theorem editsFrom_eq (module : List Char) (pieces : List Pattern.Piece) (description : String)
    (i : Nat) (ls : List Line) :
    editsFrom module pieces description i ls = lineEdits (edit? module pieces description) i ls := by
  induction ls generalizing i with
  | nil => rfl
  | cons l ls ih =>
    simp only [editsFrom, lineEdits, edit?, ih]
    split <;> rfl

theorem editsFrom_eq_nil_iff {ls : List Line} :
    editsFrom module pieces description i ls = [] ↔ ∀ l ∈ ls, renameLine module pieces l = l := by
  induction ls generalizing i with
  | nil => simp [editsFrom]
  | cons l ls ih =>
    rw [editsFrom, List.forall_mem_cons, ← ih (i := i + 1)]
    split
    · rename_i hl
      simp [hl]
    · rename_i hl
      simp [hl]

theorem renameLine_eq_of_edit?_eq_none (h : edit? module pieces description i line = none) :
    renameLine module pieces line = line := by
  simpa [edit?] using h

theorem of_edit?_eq_some (h : edit? module pieces description i line = some e) :
    renameLine module pieces line ≠ line ∧ e.kind = .modify ∧ e.line = some ((i : Int) + 1) ∧
      e.endLine = none ∧ e.newCode = some (.ofList (renameLine module pieces line)) := by
  unfold edit? at h
  split at h
  · cases h
  · rename_i hne
    cases h
    exact ⟨hne, rfl, rfl, rfl, rfl⟩

theorem redo?_edit {extensions : List String} {before after : List Line}
    (h : edit? module pieces description before.length line = some e) :
    (extension extensions).redo? e (before ++ line :: after) =
      some (before ++ renameLine module pieces line :: after) := by
  unfold edit? at h
  split at h
  · cases h
  · cases h
    have hamend : Edit.amend? (before.length + 1) (fun _ => some (renameLine module pieces line))
        (before ++ line :: after) = some (before ++ renameLine module pieces line :: after) :=
      Edit.amend?_append rfl rfl
    simpa [redo?, Edit.span?] using hamend

end

end Extension

end Mend.Strategy
