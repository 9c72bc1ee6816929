import Mend.Json.Basic

namespace Mend.Json

theorem int?_eq_some_iff {v : Json} {n : Int} : v.int? = some n ↔ v = .num (.int n) := by
  constructor
  · intro h
    unfold int? at h
    split at h
    · rw [Option.some.inj h]
    · cases h
  · rintro rfl
    rfl

theorem str?_eq_some_iff {v : Json} {s : String} : v.str? = some s ↔ v = .str s := by
  constructor
  · intro h
    unfold str? at h
    split at h
    · rw [Option.some.inj h]
    · cases h
  · rintro rfl
    rfl

namespace Fields

variable {fs gs : Fields} {name old new : String} {v : Json}

theorem get?_cons (name' : String) (v : Json) (fs : Fields) (name : String) :
    get? ((name', v) :: fs) name = if name' = name then some v else get? fs name := rfl

@[simp] theorem get?_append (fs gs : Fields) (name : String) :
    get? (fs ++ gs) name = (get? fs name).or (get? gs name) := by
  induction fs with
  | nil => rfl
  | cons f fs ih =>
    rw [List.cons_append, get?_cons, get?_cons, ih]
    split
    · rfl
    · rfl

def rename (old new : String) (fs : Fields) : Fields :=
  fs.map fun f => (if f.1 = old then new else f.1, f.2)

theorem get?_rename_of_ne (hold : name ≠ old) (hnew : name ≠ new) :
    get? (rename old new fs) name = get? fs name := by
  induction fs with
  | nil => rfl
  | cons f fs ih =>
    obtain ⟨k, v⟩ := f
    rw [rename, List.map_cons, get?_cons, get?_cons]
    by_cases hk : k = old
    · rw [if_pos hk, if_neg hnew.symm, if_neg (hk ▸ hold.symm)]
      exact ih
    · rw [if_neg hk]
      split
      · rfl
      · exact ih

theorem get?_rename_old (hne : new ≠ old) : get? (rename old new fs) old = none := by
  induction fs with
  | nil => rfl
  | cons f fs ih =>
    obtain ⟨k, v⟩ := f
    rw [rename, List.map_cons, get?_cons]
    by_cases hk : k = old
    · rw [if_pos hk, if_neg hne]
      exact ih
    · rw [if_neg hk, if_neg hk]
      exact ih

theorem get?_rename_new (h : get? fs new = none) : get? (rename old new fs) new = get? fs old := by
  induction fs with
  | nil => rfl
  | cons f fs ih =>
    obtain ⟨k, v⟩ := f
    rw [get?_cons] at h
    rw [rename, List.map_cons, get?_cons, get?_cons]
    by_cases hk : k = old
    · rw [if_pos hk, if_pos rfl, if_pos hk]
    · split at h
      · cases h
      · rename_i hnew
        rw [if_neg hk, if_neg hnew, if_neg hk]
        exact ih h

def ofOptions (l : List (String × Option Json)) : Fields :=
  l.filterMap fun f => f.2.map fun v => (f.1, v)

variable {l m : List (String × Option Json)}

theorem ofOptions_cons_none (name : String) (l : List (String × Option Json)) :
    ofOptions ((name, none) :: l) = ofOptions l := rfl

theorem ofOptions_cons_some (name : String) (v : Json) (l : List (String × Option Json)) :
    ofOptions ((name, some v) :: l) = (name, v) :: ofOptions l := rfl

theorem ofOptions_cons (name : String) (v : Option Json) (l : List (String × Option Json)) :
    ofOptions ((name, v) :: l) = (v.map fun w => (name, w)).toList ++ ofOptions l := by
  cases v with
  | none => rfl
  | some v => rfl

theorem mem_names_of_mem_ofOptions (h : (name, v) ∈ ofOptions l) : name ∈ l.map Prod.fst := by
  obtain ⟨f, hf, hv⟩ := List.mem_filterMap.1 h
  obtain ⟨w, -, heq⟩ := Option.map_eq_some_iff.1 hv
  cases heq
  exact List.mem_map_of_mem hf

theorem eq_of_ofOptions_eq (hnodup : (l.map Prod.fst).Nodup)
    (hnames : l.map Prod.fst = m.map Prod.fst) (h : ofOptions l = ofOptions m) : l = m := by
  induction l generalizing m with
  | nil => exact (List.map_eq_nil_iff.1 hnames.symm).symm
  | cons f l ih =>
    cases m with
    | nil => cases hnames
    | cons g m =>
      obtain ⟨name, v⟩ := f
      obtain ⟨name', w⟩ := g
      obtain ⟨rfl, hrest⟩ := List.cons.inj hnames
      obtain ⟨hnew, hothers⟩ := List.nodup_cons.1 hnodup
      cases v with
      | none =>
        cases w with
        | none => rw [ih hothers hrest h]
        | some w =>
          rw [ofOptions_cons_none, ofOptions_cons_some] at h
          have hmem : (name, w) ∈ ofOptions l := h ▸ List.mem_cons_self
          exact absurd (mem_names_of_mem_ofOptions hmem) hnew
      | some v =>
        cases w with
        | none =>
          rw [ofOptions_cons_none, ofOptions_cons_some] at h
          have hmem : (name, v) ∈ ofOptions m := h ▸ List.mem_cons_self
          rw [hrest] at hnew
          exact absurd (mem_names_of_mem_ofOptions hmem) hnew
        | some w =>
          rw [ofOptions_cons_some, ofOptions_cons_some] at h
          obtain ⟨heq, htail⟩ := List.cons.inj h
          cases heq
          rw [ih hothers hrest htail]

end Fields

end Mend.Json
