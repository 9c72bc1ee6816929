import Mend.Proofs.Strategy.Faithful

namespace Mend.Strategy

/-- The strategies that delete lines. -/
def deletes : Strategy → Bool
  | debugger => true
  | unusedVariable _ => true
  | unusedImport => true
  | unreachable => true
  | _ => false

def Removes (content text : String) (es : List Edit) : Prop :=
  ∃ before gone after e, Lines.ofText content = before ++ gone ++ after ∧ gone ≠ [] ∧
    gone ≠ [[]] ∧ text = Lines.toText (before ++ after) ∧ es = [e] ∧
    e.span? = some ((before.length : Int) + 1, (before.length : Int) + gone.length)

section
variable {s : Strategy} {tree : FileTree} {d : Diagnostic} {context : Option Context}
  {content text summary : String} {es : List Edit}

theorem Removes.of_line {before after : List Line} {line : Line} {e : Edit}
    (hls : Lines.ofText content = before ++ line :: after) (hline : line ≠ [])
    (hspan : e.span? = some ((before.length : Int) + 1, (before.length : Int) + 1)) :
    Removes content (Lines.toText (before ++ after)) [e] :=
  ⟨before, [line], after, e, by simpa using hls, List.cons_ne_nil line [], by simpa using hline,
    rfl, rfl, hspan⟩

theorem removes_of_attempt (hs : s.deletes = true)
    (h : s.attempt tree d content context = .ok (.fixed text summary es)) :
    Removes content text es := by
  cases s with
  | debugger =>
    obtain ⟨before, line, after, hls, hline, hfound, rfl, rfl⟩ :=
      Statement.of_debuggerAttempt (Except.ok.inj h)
    exact .of_line hls (Pattern.ne_nil_of_found rfl hfound) (by simp [Edit.span?, hline])
  | unusedVariable window =>
    obtain ⟨name, before, line, after, hls, -, hdeclares, rfl, rfl⟩ :=
      Unused.of_variableAttempt (Except.ok.inj h)
    exact .of_line hls (Unused.ne_nil_of_declares hdeclares) rfl
  | unusedImport =>
    obtain ⟨name, before, line, after, hls, -, himports, rfl, rfl⟩ :=
      Unused.of_importAttempt (Except.ok.inj h)
    exact .of_line hls (Pattern.ne_nil_of_found rfl (Bool.and_eq_true_iff.1 himports).1) rfl
  | unreachable =>
    obtain ⟨before, gone, after, hls, -, hextent, hgone, rfl, rfl⟩ :=
      Unreachable.of_attempt (Except.ok.inj h)
    exact ⟨before, gone, after, _, hls, hgone, Unreachable.gone_ne_blank hextent, rfl, rfl, rfl⟩
  | _ => cases hs

theorem Removes.length_lt (h : Removes content text es) :
    text.toList.length < content.toList.length := by
  obtain ⟨before, gone, after, e, hls, hgone, hblank, rfl, -, -⟩ := h
  have hsize := Lines.two_le_size hgone hblank
  rw [← Lines.join_ofText content, hls, Lines.toText, String.toList_ofList, Lines.length_join,
    Lines.length_join]
  simp only [Lines.size_append]
  omega

end

namespace Unused

inductive Deletes (content : String) : Nat → Attempt → Prop
  | intro {before after : List Line} {line : Line} (summary : String)
    (hls : Lines.ofText content = before ++ line :: after) :
    Deletes content before.length
      (.fixed (Lines.toText (before ++ after)) summary [deletion before.length line])

theorem deletes_or_decline (test : Line → Bool) {places : List Nat} {content title reason : String}
    (hplaces : ∀ i ∈ places, i < (Lines.ofText content).length) {a : Attempt}
    (h : (match places.find? fun i => test ((Lines.ofText content).getD i []) with
      | some i => Attempt.fixed (Lines.toText ((Lines.ofText content).eraseIdx i)) title
          [deletion i ((Lines.ofText content).getD i [])]
      | none => .decline reason) = a) :
    (∃ i, places.find? (fun i => test ((Lines.ofText content).getD i [])) = some i ∧
        Deletes content i a) ∨
      places.find? (fun i => test ((Lines.ofText content).getD i [])) = none ∧
        a = .decline reason := by
  split at h
  · rename_i i hi
    obtain ⟨before, line, after, hls, rfl⟩ :=
      split_at (hplaces i (List.mem_of_find?_eq_some hi))
    refine .inl ⟨_, hi, ?_⟩
    rw [← h, hls, getD_append, eraseIdx_append]
    exact .intro title hls
  · rename_i hnone
    exact .inr ⟨hnone, h.symm⟩

theorem Deletes.exists_fixed {content : String} {i : Nat} {a : Attempt} (h : Deletes content i a) :
    ∃ text summary es, a = .fixed text summary es := by
  cases h with
  | intro summary _ => exact ⟨_, summary, _, rfl⟩

theorem le_of_find?_eq_some {places : List Nat} {test : Nat → Bool} {i j : Nat}
    (hplaces : places.Pairwise (· < ·)) (h : places.find? test = some i) (hj : j ∈ places)
    (htest : test j = true) : i ≤ j := by
  obtain ⟨-, as, bs, rfl, has⟩ := List.find?_eq_some_iff_append.1 h
  obtain ⟨-, hbs, -⟩ := List.pairwise_append.1 hplaces
  rcases List.mem_append.1 hj with hj | hj
  · simpa [htest] using has j hj
  · rcases List.mem_cons.1 hj with rfl | hj
    · exact Nat.le_refl _
    · exact Nat.le_of_lt (List.rel_of_pairwise_cons hbs hj)

def LineAt (P : Line → Prop) (content : String) (i : Nat) : Prop :=
  ∃ line, (Lines.ofText content)[i]? = some line ∧ P line

theorem lineAt_iff {P : Line → Prop} {content : String} {i : Nat} : LineAt P content i ↔
    i < (Lines.ofText content).length ∧ P ((Lines.ofText content).getD i []) := by
  constructor
  · rintro ⟨line, hline, h⟩
    obtain ⟨hi, -⟩ := List.getElem?_eq_some_iff.1 hline
    refine ⟨hi, ?_⟩
    rwa [List.getD_eq_getElem?_getD, hline]
  · rintro ⟨hi, h⟩
    refine ⟨(Lines.ofText content)[i], List.getElem?_eq_getElem hi, ?_⟩
    rwa [List.getD_eq_getElem?_getD, List.getElem?_eq_getElem hi] at h

end Unused

end Mend.Strategy
