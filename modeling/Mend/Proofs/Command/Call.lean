import Mend.Command.Call

namespace Mend

namespace FileTree

theorem bytes?_of_follow {t : FileTree} {names rest : List String} {b : ByteArray}
    (h : t.follow names rest = .file b) : t.bytes? (rest.foldl enter names) = some b := by
  induction rest generalizing names with
  | nil => cases h
  | cons n rest ih =>
    rw [follow] at h
    rw [List.foldl_cons]
    split at h
    · exact ih h
    · split at h
      · cases h
      · split at h
        · exact ih h
        · split at h
          · rename_i b' hb
            split at h
            · rename_i hrest
              cases h
              rw [List.isEmpty_iff.1 hrest]
              exact hb
            · cases h
          · cases h

theorem bytes?_of_look {t : FileTree} {path : String} {b : ByteArray}
    (h : t.look path = .file b) : t.bytes? (t.place path) = some b := by
  unfold look at h
  split at h
  · cases h
  · split at h
    · cases h
    · exact bytes?_of_follow h

end FileTree

namespace Command

theorem of_readFile {tree : FileTree} {word : Option String} {path : String} {bytes : ByteArray}
    (h : readFile tree word = .ok (path, bytes)) : tree.bytes? (tree.place path) = some bytes := by
  cases word with
  | none => cases h
  | some word =>
    rw [readFile] at h
    split at h
    · cases h
    · split at h
      · rename_i b hlook
        cases h
        exact FileTree.bytes?_of_look hlook
      · cases h
      · cases h
      · cases h

theorem earliest?_eq_none {gs : List Ranked} (h : earliest? gs = none) : gs = [] := by
  cases gs with
  | nil => rfl
  | cons g gs =>
    rw [earliest?] at h
    split at h
    · split at h <;> cases h
    · cases h

theorem of_take {α : Type} {rank : Nat} {default : α} {e : Except Gap α}
    (h : (take rank default e).1 = []) : e = .ok (take rank default e).2 := by
  cases e with
  | ok a => rfl
  | error g => cases h

theorem Job.bytes_of_ofWords {tree : FileTree} {w : Words} {j : Job}
    (h : Job.ofWords tree w = .ok j) : tree.bytes? (tree.place j.path) = some j.bytes := by
  unfold Job.ofWords at h
  dsimp only at h
  split at h
  · cases h
  · cases h
  · rename_i hnone _
    have hgaps := earliest?_eq_none hnone
    simp only [List.append_eq_nil_iff] at hgaps
    cases h
    exact of_readFile (of_take hgaps.1.1.1.1.1)

theorem Call.atOnce?_ne_fix {w : Words} {debug : Bool} {j : Job} :
    atOnce? w ≠ some (fix debug j) := by
  intro h
  obtain ⟨m, -, hm⟩ := List.exists_of_findSome?_eq_some h
  split at hm
  · cases hm
  · split at hm <;> cases hm

section
variable {tree : FileTree} {debug : Bool} {j : Job}

theorem Call.ofTypes_ne_fix {args : List String} : ofTypes args ≠ fix debug j := by
  intro h
  unfold ofTypes at h
  split at h
  · cases h
  · split at h
    · cases h
    · split at h <;> cases h

theorem Call.ofUnknown_ne_fix {name : String} {args : List String} :
    ofUnknown name args ≠ fix debug j := by
  intro h
  unfold ofUnknown at h
  split at h
  · cases h
  · rename_i w _
    dsimp only at h
    cases hc : atOnce? w with
    | none =>
      rw [hc] at h
      cases h
    | some c =>
      rw [hc, Option.getD_some] at h
      exact atOnce?_ne_fix (h ▸ hc)

theorem Call.bytes_of_ofFix {flag : Bool} {args : List String}
    (h : ofFix tree flag args = fix debug j) : tree.bytes? (tree.place j.path) = some j.bytes := by
  unfold ofFix at h
  split at h
  · cases h
  · split at h
    · cases h
    · split at h
      · rename_i hj
        cases h
        exact Job.bytes_of_ofWords hj
      · rename_i g _
        cases g <;> cases h

theorem Call.bytes_of_ofArguments {args : List String}
    (h : ofArguments tree args = fix debug j) :
    tree.bytes? (tree.place j.path) = some j.bytes := by
  unfold ofArguments at h
  split at h
  · cases h
  · split at h
    · cases h
    · rename_i w _
      unfold ofWords at h
      split at h
      · rename_i hc
        exact absurd (h ▸ hc) atOnce?_ne_fix
      · cases h
      · split at h
        · exact bytes_of_ofFix h
        · split at h
          · exact absurd h ofTypes_ne_fix
          · exact absurd h ofUnknown_ne_fix

end

end Command

end Mend
