import Mend.Proofs.Catalog.Selection
import Mend.Proofs.Pattern.PhrasingSource
import Mend.Proofs.Workshop.WellFormed

namespace Mend

/-- The diagnostic with its message between two texts. -/
def Diagnostic.within (d : Diagnostic) (before after : String) : Diagnostic :=
  { d with message := some (before ++ d.message.getD "" ++ after) }

theorem Diagnostic.text_within (d : Diagnostic) (before after : String) :
    (d.within before after).text = before.toList ++ (d.text ++ after.toList) := by
  simp [Diagnostic.within, Diagnostic.text]

namespace Catalog

open Text (SameButCase)

/-- The patterns of the catalog are written with letters, gaps and bars alone. -/
def Phrased (c : Catalog) : Prop := ∀ t ∈ c.list, Pattern.spellsPhrasing t.source.toList = true

section
variable {c : Catalog} {ts : List Template} {t u : Template} {d e : Diagnostic}

theorem phrased_builtin : builtin.Phrased := by
  have hall : builtin.list.all (fun t => Pattern.spellsPhrasing t.source.toList) = true := by
    decide +kernel
  exact List.all_eq_true.1 hall

theorem Registered.read (h : c.Registered) :
    ∀ t ∈ c.list, Pattern.read t.source.toList = .ok t.pattern := by
  cases h with
  | builtin =>
    have hall : ∀ t ∈ Catalog.builtin.list,
        (Pattern.read t.source.toList).toOption = some t.pattern := by
      decide +kernel
    intro t ht
    have hread := hall t ht
    cases hp : Pattern.read t.source.toList with
    | error f =>
      rw [hp] at hread
      cases hread
    | ok p =>
      rw [hp] at hread
      cases hread
      rfl
  | performed steps =>
    have hholds := holds_performAll steps
    exact fun t ht => hholds.read t (hholds.list_perm.mem_iff.1 ht)

theorem Registered.isPhrasing (h : c.Registered) (hphrased : c.Phrased) (ht : t ∈ c.list) :
    t.pattern.IsPhrasing := by
  obtain ⟨p, hp, hphrasing⟩ := Pattern.read_of_spellsPhrasing (hphrased t ht)
  rw [h.read t ht] at hp
  cases hp
  exact hphrasing

theorem strongest_filter_mono {p q : Template → Bool}
    (hts : ∀ u ∈ ts, Number.Placed u.confidence) (himp : ∀ u ∈ ts, p u = true → q u = true)
    (h : strongest none (ts.filter p) = some t) :
    t ∈ ts ∧ ∃ u, strongest none (ts.filter q) = some u ∧ u ∈ ts ∧
      Number.le t.confidence u.confidence = true := by
  obtain ⟨ht, hpt⟩ := List.mem_filter.1 (mem_of_strongest h)
  have hqt : t ∈ ts.filter q := List.mem_filter.2 ⟨ht, himp t ht hpt⟩
  have hplaced : ∀ u ∈ ts.filter q, Number.Placed u.confidence :=
    fun u hu => hts u (List.mem_filter.1 hu).1
  obtain ⟨u, hstrongest, hleads⟩ := leads_of_strongest hplaced (List.ne_nil_of_mem hqt)
  have hu := mem_of_strongest hstrongest
  exact ⟨ht, u, hstrongest, (List.mem_filter.1 hu).1, hleads.le (hplaced u hu) hqt⟩

/-- Where every match of one diagnostic is a match of another of the same category, so is its
template, or a surer one. -/
theorem classify_mono (hc : ∀ t ∈ c.list, Number.Placed t.confidence)
    (hcategory : e.category? = d.category?)
    (himp : ∀ t ∈ c.list, t.matchesMessage d = true → t.matchesMessage e = true)
    (h : c.classify d = some t) :
    ∃ k u, d.category? = some k ∧ t ∈ c.bucket k ∧ c.classify e = some u ∧ u ∈ c.bucket k ∧
      Number.le t.confidence u.confidence = true := by
  unfold classify at h
  cases hk : d.category? with
  | none =>
    rw [hk] at h
    cases h
  | some k =>
    rw [hk] at h
    obtain ⟨ht, u, hu, hmem, hle⟩ := strongest_filter_mono
      (fun u hu => hc u (mem_list_of_mem_bucket hu))
      (fun u hu => himp u (mem_list_of_mem_bucket hu)) h
    refine ⟨k, u, rfl, ht, ?_, hmem, hle⟩
    rw [classify, hcategory, hk]
    exact hu

theorem classify_congr (hcategory : d.category? = e.category?)
    (hmatch : ∀ t ∈ c.list, t.matchesMessage d = t.matchesMessage e) :
    c.classify d = c.classify e := by
  rw [classify, classify, hcategory]
  cases e.category? with
  | none => rfl
  | some k =>
    dsimp only
    rw [List.filter_congr fun t ht => hmatch t (mem_list_of_mem_bucket ht)]

end

/-- Text around a message never takes its template away, unless for one of the same category that
is at least as sure; and the case of ASCII letters in a message does not count. -/
theorem classify_within {c : Catalog} (hc : c.Registered) (hphrased : c.Phrased) :
    builtin.Registered ∧ builtin.Phrased ∧
    (∀ d t before after, c.classify d = some t → ∃ k u, d.category? = some k ∧ t ∈ c.bucket k ∧
      c.classify (d.within before after) = some u ∧ u ∈ c.bucket k ∧
      Number.le t.confidence u.confidence = true) ∧
    ∀ m m' : String, SameButCase m.toList m'.toList →
      (∀ t ∈ c.list, t.matchesText m.toList = t.matchesText m'.toList) ∧
      ∀ d : Diagnostic, c.classify { d with message := some m } =
        c.classify { d with message := some m' } := by
  refine ⟨.builtin, phrased_builtin, ?_, ?_⟩
  · intro d t before after h
    have hplaced : ∀ t ∈ c.list, Number.Placed t.confidence :=
      fun t ht => Number.placed_of_le_right (hc.graded t ht).low
    have hcategory : (d.within before after).category? = d.category? := rfl
    apply classify_mono hplaced hcategory ?_ h
    intro u hu hmatch
    rw [Template.matchesMessage, Diagnostic.text_within]
    exact (hc.isPhrasing hphrased hu).found rfl hmatch before.toList after.toList
  · intro m m' hcase
    have hmatch (t : Template) (ht : t ∈ c.list) :
        t.matchesText m.toList = t.matchesText m'.toList :=
      (hc.isPhrasing hphrased ht).found_congr hcase
    exact ⟨hmatch, fun d => classify_congr rfl hmatch⟩

theorem classify_within_surer :
    let declared (name source : String) (confidence : Number) : Declaration :=
      ⟨name, .ok .style, source, .ok (.decline "no"), .num confidence, true⟩
    let c := (empty.performAll
      [.declare (declared "weak" "bad.*quotes|\\$\x7b" 0), .declare (declared "sure" "lint" 1)]).2
    let d : Diagnostic := ⟨.known .style, some "bad 'quotes'", "a.js", 1, .low, 1, ""⟩
    c.Registered ∧ c.Phrased ∧
      (∃ t u, c.classify d = some t ∧ c.classify (d.within "\nLint: " " (1)") = some u ∧
        t.name = "weak" ∧ u.name = "sure" ∧ Number.le t.confidence u.confidence = true) ∧
      c.classify { d with message := some "BAD 'Quotes'" } = c.classify d := by
  intro declared c d
  have hc : c.Registered := .performed _
  have hphrased : c.Phrased := by
    have hall : ∀ t ∈ c.list, Pattern.spellsPhrasing t.source.toList = true := by decide +kernel
    exact hall
  obtain ⟨-, -, hwithin, hcase⟩ := classify_within hc hphrased
  have hweak : (c.classify d).map (·.name) = some "weak" := by decide +kernel
  have hsure : (c.classify (d.within "\nLint: " " (1)")).map (·.name) = some "sure" := by
    decide +kernel
  obtain ⟨t, ht, hweak⟩ := Option.map_eq_some_iff.1 hweak
  obtain ⟨k, u, -, -, hu, -, hle⟩ := hwithin d t "\nLint: " " (1)" ht
  rw [hu] at hsure
  refine ⟨hc, hphrased, ⟨t, u, ht, hu, hweak, Option.some.inj hsure, hle⟩, ?_⟩
  exact (hcase "BAD 'Quotes'" "bad 'quotes'" (by decide +kernel)).2 d

end Catalog

end Mend
