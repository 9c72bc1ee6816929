import Mend.Log

/-! Forms: texts with slots in them. A form is written as a template whose braces mark the slots,
and filling the template puts each value in its slot as it stands. Values are not read again, so
that a brace in a value is a brace. -/

namespace Mend.Log

namespace Form

inductive Part
  | text (s : String)
  | slot (name : String)
  deriving DecidableEq, Repr

def isBrace (c : Char) : Bool := c == '\x7b' || c == '\x7d'

/-- A brace that stands for itself is written twice. -/
def doubled (cs : List Char) : List Char := cs.flatMap fun c => if isBrace c then [c, c] else [c]

/-- Characters that end the name of a slot, or may not stand in it. -/
def isNameEnd (c : Char) : Bool := isBrace c || c == ':' || c == '!' || c == '['

namespace Part

def template : Part → List Char
  | text s => doubled s.toList
  | slot name => '\x7b' :: (name.toList ++ ['\x7d'])

def filled (value : String → String) : Part → String
  | text s => s
  | slot name => value name

def isSimple : Part → Bool
  | text _ => true
  | slot name => name != "" && name.toList.all (!isNameEnd ·)

end Part

end Form

structure Form where
  parts : List Form.Part
  simple : ∀ p ∈ parts, p.isSimple = true

namespace Form

def template (form : Form) : List Char := form.parts.flatMap Part.template

def filled (form : Form) (value : String → String) : String :=
  String.join (form.parts.map (Part.filled value))

def put (value : String → String) (f : Field) : Except Problem (List Char) :=
  .ok (value (.ofList f.name)).toList

section
variable {p : Field → Except Problem (List Char)} {name cs rest : List Char}
  {value : String → String}

theorem fill_doubled (cs rest : List Char) :
    fill p .text (doubled cs ++ rest) = (fill p .text rest).map (cs ++ ·) := by
  induction cs with
  | nil =>
    cases h : fill p .text rest with
    | error e => exact h
    | ok shown => exact h
  | cons c cs ih =>
    have hcons : fill p .text (doubled (c :: cs) ++ rest) =
        (fill p .text (doubled cs ++ rest)).map (c :: ·) := by
      by_cases hopen : c = '\x7b'
      · subst hopen
        rfl
      by_cases hclose : c = '\x7d'
      · subst hclose
        rfl
      have hplain : isBrace c = false := by simp [isBrace, hopen, hclose]
      simp [doubled, hplain, fill, Place.next, hopen, hclose]
    rw [hcons, ih]
    cases fill p .text rest with
    | error e => rfl
    | ok shown => rfl

theorem inName_of_not_isNameEnd {c : Char} (hc : isNameEnd c = false) :
    inName name c = .ok (.inside (.name (name ++ [c]))) := by
  simp only [isNameEnd, isBrace, Bool.or_eq_false_iff, beq_eq_false_iff_ne] at hc
  simp [inName, hc]

theorem fill_name (hcs : ∀ c ∈ cs, isNameEnd c = false) :
    fill p (.name name) (cs ++ '\x7d' :: rest) =
      fill p (.name (name ++ cs)) ('\x7d' :: rest) := by
  induction cs generalizing name with
  | nil => rw [List.nil_append, List.append_nil]
  | cons c cs ih =>
    rw [List.forall_mem_cons] at hcs
    rw [List.cons_append, fill, Place.next, inName_of_not_isNameEnd hcs.1]
    dsimp only
    rw [ih hcs.2, List.append_assoc]
    rfl

theorem fill_slot (hne : cs ≠ []) (hcs : ∀ c ∈ cs, isNameEnd c = false) :
    fill (put value) .text ('\x7b' :: (cs ++ '\x7d' :: rest)) =
      (fill (put value) .text rest).map ((value (.ofList cs)).toList ++ ·) := by
  cases cs with
  | nil => exact absurd rfl hne
  | cons c cs =>
    rw [List.forall_mem_cons] at hcs
    have hopen : c ≠ '\x7b' := by
      rintro rfl
      cases hcs.1
    have hfirst : fill (put value) .text ('\x7b' :: (c :: cs ++ '\x7d' :: rest)) =
        fill (put value) (.name [c]) (cs ++ '\x7d' :: rest) := by
      rw [fill]
      change fill (put value) .opening (c :: (cs ++ '\x7d' :: rest)) = _
      rw [fill, Place.next, if_neg hopen, inName_of_not_isNameEnd hcs.1]
      rfl
    rw [hfirst, fill_name hcs.2]
    rfl

theorem fill_parts {parts : List Part} (h : ∀ part ∈ parts, part.isSimple = true) :
    fill (put value) .text (parts.flatMap Part.template) =
      .ok (String.join (parts.map (Part.filled value))).toList := by
  induction parts with
  | nil => rfl
  | cons part parts ih =>
    rw [List.forall_mem_cons] at h
    rw [List.flatMap_cons, List.map_cons, String.toList_join, List.flatMap_cons,
      ← String.toList_join]
    cases part with
    | text s =>
      rw [Part.template, fill_doubled, ih h.2]
      rfl
    | slot name =>
      obtain ⟨hne, hplain⟩ := Bool.and_eq_true_iff.1 h.1
      have hchars : ∀ c ∈ name.toList, isNameEnd c = false := fun c hc => by
        simpa using List.all_eq_true.1 hplain c hc
      have hlist : name.toList ≠ [] := fun hnil =>
        bne_iff_ne.1 hne (String.toList_eq_nil_iff.1 hnil)
      rw [Part.template, List.cons_append, List.append_assoc, List.singleton_append,
        fill_slot hlist hchars, ih h.2, String.ofList_toList]
      rfl

/-- Filling the template of a form gives the form with its values. -/
theorem fill_template (form : Form) (value : String → String) :
    fill (put value) .text form.template = .ok (form.filled value).toList :=
  fill_parts form.simple

end

end Form

end Mend.Log
