import Mend.Proofs.Catalog.Registration
import Mend.Proofs.Number.Order
import Mend.Proofs.Pattern.Matching

namespace Mend.Catalog

variable {S : Type} {c : Catalog S} {ts done rest : List (Template S)} {t u b : Template S}
  {d : Diagnostic}

/-- The template is the first of the most confident ones of a list. -/
def Leads (t : Template S) (ts : List (Template S)) : Prop :=
  ∃ before after, ts = before ++ t :: after ∧
    (∀ u ∈ before, Number.lt u.confidence t.confidence = true) ∧
    ∀ u ∈ after, Number.le u.confidence t.confidence = true

theorem Leads.le (h : Leads b ts) (hb : Number.Placed b.confidence) (hu : u ∈ ts) :
    Number.le u.confidence b.confidence = true := by
  obtain ⟨before, after, rfl, hbefore, hafter⟩ := h
  rcases List.mem_append.1 hu with hu | hu
  · exact Number.le_of_lt (hbefore u hu)
  rcases List.mem_cons.1 hu with rfl | hu
  · exact Number.le_refl hb
  · exact hafter u hu

theorem Leads.stays (h : Leads b done) (ht : Number.le t.confidence b.confidence = true) :
    Leads b (done ++ [t]) := by
  obtain ⟨before, after, rfl, hbefore, hafter⟩ := h
  refine ⟨before, after ++ [t], List.append_assoc _ _ _, hbefore, fun u hu => ?_⟩
  rcases List.mem_append.1 hu with hu | hu
  · exact hafter u hu
  · rw [List.mem_singleton.1 hu]
    exact ht

theorem Leads.passes (h : Leads b done) (ht : Number.lt b.confidence t.confidence = true) :
    Leads t (done ++ [t]) := by
  refine ⟨done, [], rfl, fun u hu => ?_, List.forall_mem_nil _⟩
  exact Number.lt_of_le_of_lt (h.le (Number.placed_of_lt_left ht) hu) ht

/-- The best template so far leads what was looked at; in the end that is the whole list. -/
theorem leads_of_strongest_some (h : Leads b done) (hb : Number.Placed b.confidence)
    (hrest : ∀ u ∈ rest, Number.Placed u.confidence) :
    ∃ t, strongest (some b) rest = some t ∧ Leads t (done ++ rest) := by
  induction rest generalizing b done with
  | nil => exact ⟨b, rfl, by rwa [List.append_nil]⟩
  | cons u rest ih =>
    have hu := hrest u List.mem_cons_self
    have hothers : ∀ v ∈ rest, Number.Placed v.confidence :=
      fun v hv => hrest v (List.mem_cons_of_mem u hv)
    rw [strongest, List.append_cons]
    by_cases hlt : Number.lt b.confidence u.confidence = true
    · rw [if_pos hlt]
      exact ih (h.passes hlt) hu hothers
    · rw [if_neg hlt]
      exact ih (h.stays (Number.le_of_not_lt hb hu hlt)) hb hothers

theorem leads_of_strongest (hts : ∀ u ∈ ts, Number.Placed u.confidence) (hne : ts ≠ []) :
    ∃ t, strongest none ts = some t ∧ Leads t ts := by
  cases ts with
  | nil => exact absurd rfl hne
  | cons b rest =>
    have hb : Leads b [b] := ⟨[], [], rfl, List.forall_mem_nil _, List.forall_mem_nil _⟩
    exact leads_of_strongest_some hb (hts b List.mem_cons_self)
      fun u hu => hts u (List.mem_cons_of_mem b hu)

/-- Of two leading templates the one that comes first is not behind the other. -/
theorem Leads.unique (ht : Leads t ts) (hu : Leads u ts) : t = u := by
  obtain ⟨before, after, hts, hbefore, hafter⟩ := ht
  obtain ⟨before', after', hts', hbefore', hafter'⟩ := hu
  rw [hts] at hts'
  rcases List.append_eq_append_iff.1 hts' with ⟨mid, rfl, hmid⟩ | ⟨mid, rfl, hmid⟩
  · cases mid with
    | nil => exact List.head_eq_of_cons_eq hmid
    | cons v mid =>
      obtain ⟨rfl, rfl⟩ := List.cons.inj hmid
      exact absurd (hbefore' t (by simp)) (Number.not_lt_of_le (hafter u (by simp)))
  · cases mid with
    | nil => exact (List.head_eq_of_cons_eq hmid).symm
    | cons v mid =>
      obtain ⟨rfl, rfl⟩ := List.cons.inj hmid
      exact absurd (hbefore u (by simp)) (Number.not_lt_of_le (hafter' t (by simp)))

theorem strongest_eq_some_iff (hts : ∀ u ∈ ts, Number.Placed u.confidence) :
    strongest none ts = some t ↔ Leads t ts := by
  constructor
  · intro h
    have hne : ts ≠ [] := by
      rintro rfl
      cases h
    obtain ⟨u, hu, hleads⟩ := leads_of_strongest hts hne
    rw [hu] at h
    cases h
    exact hleads
  · intro h
    have hne : ts ≠ [] := by
      rintro rfl
      obtain ⟨before, after, hnil, -⟩ := h
      simp at hnil
    obtain ⟨u, hu, hleads⟩ := leads_of_strongest hts hne
    rw [hu, h.unique hleads]

theorem strongest_ne_none (b : Template S) (ts : List (Template S)) :
    strongest (some b) ts ≠ none := by
  induction ts generalizing b with
  | nil => exact Option.some_ne_none b
  | cons u ts ih => exact ih _

theorem strongest_eq_none_iff : strongest none ts = none ↔ ts = [] := by
  cases ts with
  | nil => exact iff_of_true rfl rfl
  | cons b rest => exact iff_of_false (strongest_ne_none b rest) (List.cons_ne_nil b rest)

theorem leads_filter_iff (p : Template S → Bool) :
    Leads t (ts.filter p) ↔ p t = true ∧ ∃ before after, ts = before ++ t :: after ∧
      (∀ u ∈ before, p u = true → Number.lt u.confidence t.confidence = true) ∧
      ∀ u ∈ after, p u = true → Number.le u.confidence t.confidence = true := by
  constructor
  · rintro ⟨before, after, hts, hbefore, hafter⟩
    obtain ⟨l, rest, rfl, rfl, hrest⟩ := List.filter_eq_append_iff.1 hts
    obtain ⟨skipped, after', rfl, hskipped, ht, rfl⟩ := List.filter_eq_cons_iff.1 hrest
    refine ⟨ht, l ++ skipped, after', (List.append_assoc _ _ _).symm, fun u hu hpu => ?_,
      fun u hu hpu => hafter u (List.mem_filter.2 ⟨hu, hpu⟩)⟩
    rcases List.mem_append.1 hu with hu | hu
    · exact hbefore u (List.mem_filter.2 ⟨hu, hpu⟩)
    · exact absurd hpu (hskipped u hu)
  · rintro ⟨ht, before, after, rfl, hbefore, hafter⟩
    refine ⟨before.filter p, after.filter p, ?_, fun u hu => ?_, fun u hu => ?_⟩
    · rw [List.filter_append, List.filter_cons_of_pos ht]
    · obtain ⟨hu, hpu⟩ := List.mem_filter.1 hu
      exact hbefore u hu hpu
    · obtain ⟨hu, hpu⟩ := List.mem_filter.1 hu
      exact hafter u hu hpu

/-- A match of the template's pattern begins at some place of the message; a missing message is
empty. -/
def Matches (t : Template S) (d : Diagnostic) : Prop :=
  ∃ before after, (d.message.getD "").toList = before ++ after ∧
    ∃ k, k ∈ t.pattern.ends { before := before.reverse, after := after }

theorem matchesMessage_iff : t.matchesMessage d = true ↔ Matches t d := Expression.found_iff

/-- No matching template of the list has a higher confidence, and none that comes earlier has the
same. -/
def Best (d : Diagnostic) (t : Template S) (ts : List (Template S)) : Prop :=
  Matches t d ∧ (∀ u ∈ ts, Matches u d → ¬ Number.lt t.confidence u.confidence = true) ∧
    ∃ before after, ts = before ++ t :: after ∧
      ∀ u ∈ before, Matches u d → u.confidence.place? ≠ t.confidence.place?

theorem leads_matching_iff (hts : ∀ u ∈ ts, Number.Placed u.confidence) :
    Leads t (ts.filter (·.matchesMessage d)) ↔ Best d t ts := by
  rw [leads_filter_iff]
  constructor
  · rintro ⟨ht, before, after, rfl, hbefore, hafter⟩
    refine ⟨matchesMessage_iff.1 ht, fun u hu hmatch => Number.not_lt_of_le ?_,
      before, after, rfl, fun u hu hmatch => ?_⟩
    · rcases List.mem_append.1 hu with hu | hu
      · exact Number.le_of_lt (hbefore u hu (matchesMessage_iff.2 hmatch))
      rcases List.mem_cons.1 hu with rfl | hu
      · exact Number.le_refl (hts u (by simp))
      · exact hafter u hu (matchesMessage_iff.2 hmatch)
    · exact (Number.lt_iff_le_and_place?_ne.1 (hbefore u hu (matchesMessage_iff.2 hmatch))).2
  · rintro ⟨ht, hhigh, before, after, rfl, hbefore⟩
    have hle : ∀ u ∈ before ++ t :: after, u.matchesMessage d = true →
        Number.le u.confidence t.confidence = true := fun u hu hmatch =>
      Number.le_of_not_lt (hts t (by simp)) (hts u hu) (hhigh u hu (matchesMessage_iff.1 hmatch))
    refine ⟨matchesMessage_iff.2 ht, before, after, rfl, fun u hu hmatch => ?_,
      fun u hu => hle u (by simp [hu])⟩
    exact Number.lt_iff_le_and_place?_ne.2
      ⟨hle u (by simp [hu]) hmatch, hbefore u hu (matchesMessage_iff.1 hmatch)⟩

theorem Holds.placed (h : Holds c ts) (k : Category) :
    ∀ u ∈ c.bucket k, Number.Placed u.confidence := by
  intro u hu
  rw [h.bucket] at hu
  exact Number.placed_of_le_right (h.graded u (List.mem_filter.1 hu).1).1

theorem Holds.classify_eq_some_iff (h : Holds c ts) (d : Diagnostic) (t : Template S) :
    c.classify d = some t ↔ ∃ k, d.category? = some k ∧ Best d t (c.bucket k) := by
  unfold classify
  cases d.category? with
  | none => exact iff_of_false nofun nofun
  | some k =>
    have hplaced := h.placed k
    have hmatching : ∀ u ∈ (c.bucket k).filter (·.matchesMessage d), Number.Placed u.confidence :=
      fun u hu => hplaced u (List.mem_filter.1 hu).1
    dsimp only
    rw [strongest_eq_some_iff hmatching, leads_matching_iff hplaced]
    constructor
    · intro hbest
      exact ⟨k, rfl, hbest⟩
    · rintro ⟨k', hk, hbest⟩
      cases hk
      exact hbest

theorem classify_eq_none_iff (c : Catalog S) (d : Diagnostic) :
    c.classify d = none ↔
      d.category? = none ∨ ∃ k, d.category? = some k ∧ ∀ t ∈ c.bucket k, ¬ Matches t d := by
  unfold classify
  cases d.category? with
  | none => exact iff_of_true rfl (.inl rfl)
  | some k =>
    dsimp only
    rw [strongest_eq_none_iff, List.filter_eq_nil_iff]
    simp only [matchesMessage_iff, reduceCtorEq, false_or, Option.some.injEq, exists_eq_left']

/-- A diagnostic is given to the best template of its category, if a template matches at all; the
templates stand in the order of their adding, each with the pattern that its source is read as. -/
theorem classify_of_performAll {steps : List (Step S)} {ts : List (Template S)} {c : Catalog S}
    (h : empty.performAll steps = (ts, c)) (d : Diagnostic) :
    (∀ t, c.classify d = some t ↔ ∃ k, d.category? = some k ∧ Best d t (c.bucket k)) ∧
    (c.classify d = none ↔
      d.category? = none ∨ ∃ k, d.category? = some k ∧ ∀ t ∈ c.bucket k, ¬ Matches t d) ∧
    (∀ k, c.bucket k = ts.filter (·.category = k)) ∧
    (∀ t ∈ ts, Pattern.read t.source.toList = .ok t.pattern) ∧
    (c.isAutoFixable d = true ↔ ∃ t, c.classify d = some t ∧ t.autoFixable = true) := by
  have hholds := holds_performAll steps
  rw [h] at hholds
  exact ⟨hholds.classify_eq_some_iff d, classify_eq_none_iff c d, hholds.bucket,
    hholds.read, Option.any_eq_true _ _⟩

theorem classify_of_performAll_tie :
    let source := "[a-z]+ is not defined"
    let pattern : Expression := .all
      (.repeated (.one (.listed .full false [.range 97 122])) 1 none .most ::
        Expression.letters " is not defined")
    let declared (name : String) (confidence : Number) : Declaration :=
      ⟨name, .ok .style, source, .ok (.decline "no"), .num confidence, true⟩
    let t (name : String) (confidence : Number) : Template :=
      ⟨name, .style, source, pattern, .decline "no", confidence, true⟩
    let d : Diagnostic := ⟨.known .style, some "foo is not defined", "a.js", 1, .low, 1, ""⟩
    let c := (empty.performAll
      [.declare (declared "weak" 0), .declare (declared "first" 1), .declare (declared "second" 1),
        .freeze, .declare (declared "late" 1)]).2
    (∃ k, d.category? = some k ∧ Best d (t "first" 1) (c.bucket k)) ∧
      c.bucket .style = [t "weak" 0, t "first" 1, t "second" 1] := by
  intro source pattern declared t d c
  have hts : (empty.performAll
      [.declare (declared "weak" 0), .declare (declared "first" 1), .declare (declared "second" 1),
        .freeze, .declare (declared "late" 1)]).1 =
      [t "weak" 0, t "first" 1, t "second" 1] := by
    decide +kernel
  have hclassify : c.classify d = some (t "first" 1) := by decide +kernel
  obtain ⟨hsome, -, hbucket, -⟩ := classify_of_performAll (c := c) (Prod.ext hts rfl) d
  constructor
  · exact (hsome _).1 hclassify
  · rw [hbucket]
    decide +kernel

end Mend.Catalog
