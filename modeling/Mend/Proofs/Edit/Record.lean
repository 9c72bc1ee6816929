import Mend.Edit
import Mend.Proofs.Json.Fields

namespace Mend.Edit

open Json (Fields)

variable {fs gs : Fields} {name : String} {other : Option String} {e : Edit}

namespace Kind

def Named (v : Option Json) (k : Kind) : Prop :=
  ∃ s, v = some (.str s) ∧ Text.lower (Text.trimmed s) = k.name

theorem find?_name_eq_some_iff {s : String} {k : Kind} :
    list.find? (·.name == s) = some k ↔ s = k.name := by
  constructor
  · intro h
    have hname := List.find?_some h
    exact (beq_iff_eq.1 hname).symm
  · rintro rfl
    cases k <;> decide

theorem ofJson_of_named {v : Option Json} {k : Kind} (h : Named v k) :
    ofJson (v.getD .null) = k := by
  obtain ⟨s, rfl, hs⟩ := h
  have hfind : list.find? (·.name == Text.lower (Text.trimmed s)) = some k :=
    find?_name_eq_some_iff.2 hs
  rw [Option.getD_some, ofJson, hfind]
  rfl

theorem ofJson_of_not_named {v : Option Json} (h : ∀ k, ¬ Named v k) :
    ofJson (v.getD .null) = modify := by
  cases v with
  | none => rfl
  | some v =>
    cases v with
    | str s =>
      have hfind : list.find? (·.name == Text.lower (Text.trimmed s)) = none := by
        rw [Option.eq_none_iff_forall_ne_some]
        intro k hk
        exact h k ⟨s, rfl, find?_name_eq_some_iff.1 hk⟩
      rw [Option.getD_some, ofJson, hfind]
      rfl
    | null => rfl
    | bool b => rfl
    | num n => rfl
    | arr items => rfl
    | obj fields => rfl

theorem named_self (k : Kind) : Named (some (.str k.name)) k := by
  refine ⟨k.name, rfl, ?_⟩
  cases k <;> decide +kernel

theorem ofJson_name (k : Kind) : ofJson (.str k.name) = k :=
  ofJson_of_named (v := some (.str k.name)) (named_self k)

end Kind

@[simp] theorem get?_intField (name : String) (v : Option Int) (other : String) :
    Fields.get? (intField name v) other =
      if name = other then v.map fun n => .num (.int n) else none := by
  cases v with
  | none => exact (ite_self none).symm
  | some n => rfl

@[simp] theorem get?_textField (name : String) (v : Option String) (other : String) :
    Fields.get? (textField name v) other = if name = other then v.map .str else none := by
  cases v with
  | none => exact (ite_self none).symm
  | some s => rfl

theorem bind_int?_map (v : Option Int) : (v.map fun n => Json.num (.int n)).bind Json.int? = v := by
  cases v with
  | none => rfl
  | some n => rfl

theorem bind_str?_map (v : Option String) : (v.map Json.str).bind Json.str? = v := by
  cases v with
  | none => rfl
  | some s => rfl

theorem ofFields_toFields (e : Edit) : ofFields e.toFields = e := by
  simp [ofFields, toFields, intOf?, textOf?, valueOf?, Fields.get?_cons, Kind.ofJson_name,
    bind_int?_map, bind_str?_map]

theorem toFields_injective {d e : Edit} (h : d.toFields = e.toFields) : d = e := by
  rw [← ofFields_toFields d, h, ofFields_toFields]

/-- The fields hold a value under a name, or under its other spelling if the name is absent. -/
def Has (fs : Fields) (name : String) (other : Option String) (v : Json) : Prop :=
  fs.get? name = some v ∨ fs.get? name = none ∧ ∃ o, other = some o ∧ fs.get? o = some v

theorem valueOf?_eq_some_iff {v : Json} :
    valueOf? fs name other = some v ↔ Has fs name other v := by
  rw [valueOf?, Option.or_eq_some_iff, Option.bind_eq_some_iff]
  rfl

theorem intOf?_eq_some_iff {n : Int} :
    intOf? fs name other = some n ↔ Has fs name other (.num (.int n)) := by
  simp only [intOf?, Option.bind_eq_some_iff, Json.int?_eq_some_iff, valueOf?_eq_some_iff,
    exists_eq_right]

theorem textOf?_eq_some_iff {s : String} :
    textOf? fs name other = some s ↔ Has fs name other (.str s) := by
  simp only [textOf?, Option.bind_eq_some_iff, Json.str?_eq_some_iff, valueOf?_eq_some_iff,
    exists_eq_right]

/-- The edit has the values of the fields that fit, and nothing else: a place is a whole number, and
all else is text. -/
structure ReadFrom (fs : Fields) (e : Edit) : Prop where
  kind : ∀ k, Kind.Named (fs.get? "type") k → e.kind = k
  otherKind : (∀ k, ¬ Kind.Named (fs.get? "type") k) → e.kind = .modify
  line : ∀ n, e.line = some n ↔ Has fs "line" none (.num (.int n))
  column : ∀ n, e.column = some n ↔ Has fs "column" none (.num (.int n))
  text : ∀ s, e.text = some s ↔ Has fs "text" none (.str s)
  oldCode : ∀ s, e.oldCode = some s ↔ Has fs "oldCode" (some "old_code") (.str s)
  newCode : ∀ s, e.newCode = some s ↔ Has fs "newCode" (some "new_code") (.str s)
  file : ∀ s, e.file = some s ↔ Has fs "file" none (.str s)
  endLine : ∀ n, e.endLine = some n ↔ Has fs "endLine" (some "end_line") (.num (.int n))
  description : ∀ s, e.description = some s ↔ Has fs "description" none (.str s)

theorem readFrom_ofFields (fs : Fields) : ReadFrom fs (ofFields fs) where
  kind := fun _ => Kind.ofJson_of_named
  otherKind := Kind.ofJson_of_not_named
  line := fun _ => intOf?_eq_some_iff
  column := fun _ => intOf?_eq_some_iff
  text := fun _ => textOf?_eq_some_iff
  oldCode := fun _ => textOf?_eq_some_iff
  newCode := fun _ => textOf?_eq_some_iff
  file := fun _ => textOf?_eq_some_iff
  endLine := fun _ => intOf?_eq_some_iff
  description := fun _ => textOf?_eq_some_iff

def names : List String :=
  ["type", "line", "column", "text", "oldCode", "old_code", "newCode", "new_code", "file",
    "endLine", "end_line", "description"]

def spellings : List (String × String) :=
  [("old_code", "oldCode"), ("new_code", "newCode"), ("end_line", "endLine")]

theorem ofFields_congr (h : ∀ name ∈ names, fs.get? name = gs.get? name) :
    ofFields fs = ofFields gs := by
  simp only [names, List.forall_mem_cons] at h
  simp [ofFields, intOf?, textOf?, valueOf?, h]

theorem ofFields_rename {old new : String} (h : (old, new) ∈ spellings)
    (hnew : fs.get? new = none) : ofFields (fs.rename old new) = ofFields fs := by
  simp only [spellings, List.mem_cons, Prod.mk.injEq, List.not_mem_nil, or_false] at h
  rcases h with ⟨rfl, rfl⟩ | ⟨rfl, rfl⟩ | ⟨rfl, rfl⟩ <;>
    simp [ofFields, intOf?, textOf?, valueOf?, Fields.get?_rename_of_ne, Fields.get?_rename_old,
      Fields.get?_rename_new, hnew]

/-- Edits and objects: an edit is read back as it was; of every object the fields are read that fit,
and what is read is read back again. Other names than those that are looked up do not matter, and
neither does the spelling of a name. -/
theorem ofFields_reads :
    (∀ e : Edit, ofFields e.toFields = e) ∧
    (∀ fs, ReadFrom fs (ofFields fs)) ∧
    (∀ fs, ofFields (ofFields fs).toFields = ofFields fs) ∧
    (∀ fs gs : Fields, (∀ name ∈ names, fs.get? name = gs.get? name) → ofFields fs = ofFields gs) ∧
    (∀ (fs : Fields) (old new : String), (old, new) ∈ spellings → fs.get? new = none →
      ofFields (fs.rename old new) = ofFields fs) :=
  ⟨ofFields_toFields, readFrom_ofFields, fun _ => ofFields_toFields _, fun _ _ => ofFields_congr,
    fun _ _ _ => ofFields_rename⟩

theorem ofFields_reads_deletion :
    let fs : Fields := [("type", .str " Delete "), ("line", .num 3), ("column", .bool true),
      ("end_line", .num 5), ("newCode", .null), ("new_code", .str "x")]
    let noted : Fields := ("note", .str "y") :: fs
    (∀ name ∈ names, noted.get? name = fs.get? name) ∧ ofFields noted = ofFields fs ∧
      ("end_line", "endLine") ∈ spellings ∧ fs.get? "endLine" = none ∧
      ofFields (fs.rename "end_line" "endLine") = ofFields fs ∧
      ofFields fs = { kind := .delete, line := some 3, endLine := some 5 } := by
  intro fs noted
  obtain ⟨-, -, -, hcongr, hrename⟩ := ofFields_reads
  have hnames : ∀ name ∈ names, noted.get? name = fs.get? name := by
    simp [names, noted, fs, Fields.get?_cons]
  have hspelling : ("end_line", "endLine") ∈ spellings := by decide
  refine ⟨hnames, hcongr noted fs hnames, hspelling, rfl, hrename fs _ _ hspelling rfl, ?_⟩
  decide +kernel

end Mend.Edit
