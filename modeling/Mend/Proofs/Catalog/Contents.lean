import Mathlib.Data.List.Induction
import Mathlib.Data.List.Perm.Basic
import Mathlib.Data.List.Nodup
import Mend.Proofs.Catalog.Registration

namespace Mend.Catalog

variable {S : Type} {c : Catalog S} {ts : List (Template S)} {d : Declaration S}

theorem nodup_eraseDups {α : Type} [DecidableEq α] (xs : List α) : xs.eraseDups.Nodup := by
  induction xs using List.reverseRecOn with
  | nil => exact List.nodup_nil
  | append_singleton xs x ih =>
    rw [eraseDups_concat]
    split
    · exact ih
    · rename_i h
      rw [List.nodup_append]
      refine ⟨ih, List.nodup_singleton x, ?_⟩
      rintro y hy z hz rfl
      rw [List.mem_singleton.1 hz] at hy
      exact h (List.mem_eraseDups.1 hy)

theorem flatMap_filter_perm (ks : List Category) (hks : ks.Nodup) (ts : List (Template S))
    (h : ∀ t ∈ ts, t.category ∈ ks) :
    (ks.flatMap fun k => ts.filter (·.category = k)).Perm ts := by
  induction ks generalizing ts with
  | nil =>
    rw [List.eq_nil_iff_forall_not_mem.2 fun t ht => List.not_mem_nil (h t ht)]
    exact .refl _
  | cons k ks ih =>
    obtain ⟨hk, hks⟩ := List.nodup_cons.1 hks
    have hothers : ∀ k' ∈ ks, (ts.filter fun t => !decide (t.category = k)).filter
        (·.category = k') = ts.filter (·.category = k') := by
      intro k' hk'
      rw [List.filter_filter]
      apply List.filter_congr
      intro t _
      by_cases htk : t.category = k
      · have : t.category ≠ k' := by
          rintro rfl
          exact hk (htk ▸ hk')
        simp [this]
      · simp [htk]
    have hrest := ih hks (ts.filter fun t => !decide (t.category = k)) fun t ht => by
      obtain ⟨ht, htk⟩ := List.mem_filter.1 ht
      exact (List.mem_cons.1 (h t ht)).resolve_left (by simpa using htk)
    rw [List.flatMap_cons]
    refine .trans ?_ (List.filter_append_perm (·.category = k) ts)
    refine List.Perm.append_left _ (.trans ?_ hrest)
    rw [List.flatMap_congr hothers]

theorem Holds.list (h : Holds c ts) : c.list = (ts.map (·.category)).eraseDups.flatMap fun k =>
    ts.filter (·.category = k) := by
  rw [Catalog.list, h.buckets, grouped, List.flatMap_map]

theorem Holds.list_perm (h : Holds c ts) : c.list.Perm ts := by
  rw [h.list]
  exact flatMap_filter_perm _ (nodup_eraseDups _) ts fun t ht =>
    List.mem_eraseDups.2 (List.mem_map_of_mem ht)

theorem count_eq_length (bs : List (Category × List (Template S))) :
    count bs = (bs.flatMap (·.2)).length := by
  induction bs with
  | nil => rfl
  | cons b bs ih => rw [count, List.flatMap_cons, List.length_append, ih]

theorem Holds.size (h : Holds c ts) : c.size = ts.length :=
  (count_eq_length c.buckets).trans h.list_perm.length_eq

theorem ne_dot_of_mem_name {k : Category} {x : Char} (h : x ∈ k.name.toList) :
    (x != '.') = true := by
  have hall : k.name.toList.all (· != '.') = true := by
    cases k
    all_goals decide
  exact List.all_eq_true.1 hall x h

theorem qualifiedName_injective {t u : Template S} (h : t.qualifiedName = u.qualifiedName) :
    t.category = u.category ∧ t.name = u.name := by
  have htext : t.category.name.toList ++ '.' :: t.name.toList =
      u.category.name.toList ++ '.' :: u.name.toList := by
    have := congrArg String.toList h
    simpa [Template.qualifiedName, String.toList_append] using this
  have hname : t.category.name.toList = u.category.name.toList := by
    have := congrArg (List.takeWhile (· != '.')) htext
    rw [List.takeWhile_append_of_pos fun x => ne_dot_of_mem_name,
      List.takeWhile_append_of_pos fun x => ne_dot_of_mem_name] at this
    simpa using this
  rw [hname] at htext
  refine ⟨Category.name_injective (String.toList_injective hname), String.toList_injective ?_⟩
  exact List.tail_eq_of_cons_eq (List.append_cancel_left htext)

theorem Holds.eq_of_key (h : Holds c ts) {t u : Template S} (ht : t ∈ ts) (hu : u ∈ ts)
    (hcategory : t.category = u.category) (hname : t.name = u.name) : t = u :=
  List.inj_on_of_nodup_map h.keys ht hu (Prod.ext hcategory hname)

theorem Holds.qualifiedNames (h : Holds c ts) : c.qualifiedNames.Nodup := by
  refine ((h.list_perm.map _).nodup_iff).2 (List.Nodup.map_on ?_ h.keys.of_map)
  intro t ht u hu heq
  obtain ⟨hcategory, hname⟩ := qualifiedName_injective heq
  exact h.eq_of_key ht hu hcategory hname

theorem mem_of_get? {k : Category} {name : String} {t : Template S} (h : c.get? k name = some t) :
    t ∈ c.bucket k ∧ t.name = name := by
  have hname := List.find?_some h
  exact ⟨List.mem_of_find?_eq_some h, of_decide_eq_true hname⟩

theorem Holds.get?_eq_some_iff (h : Holds c ts) (k : Category) (name : String) (t : Template S) :
    c.get? k name = some t ↔ t ∈ ts ∧ t.category = k ∧ t.name = name := by
  have hbucket : ∀ u, u ∈ c.bucket k ↔ u ∈ ts ∧ u.category = k := by
    intro u
    rw [h.bucket, List.mem_filter, decide_eq_true_iff]
  constructor
  · intro hget
    obtain ⟨hmem, hname⟩ := mem_of_get? hget
    exact ⟨((hbucket t).1 hmem).1, ((hbucket t).1 hmem).2, hname⟩
  · rintro ⟨ht, hk, hname⟩
    have hsome : (c.get? k name).isSome = true := by
      rw [get?, List.find?_isSome]
      exact ⟨t, (hbucket t).2 ⟨ht, hk⟩, decide_eq_true hname⟩
    obtain ⟨u, hu⟩ := Option.isSome_iff_exists.1 hsome
    obtain ⟨hmem, huname⟩ := mem_of_get? hu
    obtain ⟨hu', huk⟩ := (hbucket u).1 hmem
    rw [hu, h.eq_of_key hu' ht (huk.trans hk.symm) (huname.trans hname.symm)]

/-- A catalog that has lived through some steps, with the templates that were added. It refuses a
declaration for one of the reasons of registration, and stays as it is; the error is one of
registration unless the declaration fails for a foreign reason. -/
theorem contents_of_performAll {steps : List (Step S)} {ts : List (Template S)} {c : Catalog S}
    (h : empty.performAll steps = (ts, c)) :
    (∀ d t, (c.declare d).1 = .ok t ↔ d.Describes t ∧ ¬ Refuses c ts d) ∧
    (∀ d, (∃ e, (c.declare d).1 = .error e) ↔ Refuses c ts d) ∧
    (∀ d e, (c.declare d).1 = .error e →
      (c.declare d).2 = c ∧ (e.isForeign = true ↔ d.Foreign)) ∧
    (c.frozen = true ↔ .freeze ∈ steps) ∧
    (ts.map fun t => (t.category, t.name)).Nodup ∧
    c.qualifiedNames.Nodup ∧
    c.size = ts.length ∧
    (∀ k name t, c.get? k name = some t ↔ t ∈ ts ∧ t.category = k ∧ t.name = name) ∧
    c.list = ((ts.map (·.category)).eraseDups.flatMap fun k => ts.filter (·.category = k)) ∧
    (.freeze ∈ steps → ∀ more, c.performAll more = ([], c)) := by
  have hholds := holds_performAll steps
  have hfrozen := holds_empty.performAll_frozen_iff steps
  rw [h] at hholds hfrozen
  replace hfrozen := hfrozen.trans (or_iff_right Bool.false_ne_true)
  exact ⟨fun d => (hholds.declared d).ok_iff, fun d => (hholds.declared d).error_iff,
    fun d e => (hholds.declared d).of_error, hfrozen, hholds.keys, hholds.qualifiedNames,
    hholds.size, hholds.get?_eq_some_iff, hholds.list,
    fun hmem => hholds.performAll_of_frozen (hfrozen.2 hmem)⟩

theorem contents_of_performAll_debugger :
    let drop : Declaration := ⟨"drop", .ok .style, "debugger", .ok .debugger, .num 1, true⟩
    let many : Declaration :=
      ⟨"many", .ok .style, "a\x7b4294967295\x7d", .ok .debugger, .num 1, true⟩
    let c := (empty.performAll [.declare drop, .declare many, .declare drop, .freeze]).2
    c.size = 1 ∧ (∃ e, (empty.declare many).1 = .error e ∧ e.isForeign = true) ∧
      c.performAll [.declare drop] = ([], c) := by
  intro drop many c
  let t : Template := ⟨"drop", .style, "debugger", .phrase "debugger", .debugger, 1, true⟩
  have hts : (empty.performAll [.declare drop, .declare many, .declare drop, .freeze]).1 = [t] := by
    decide +kernel
  have hread : Pattern.read many.source.toList = .error ⟨.tooManyCopies, none⟩ := by
    decide +kernel
  obtain ⟨-, -, -, -, -, -, hsize, -, -, hfreeze⟩ := contents_of_performAll (Prod.ext hts rfl)
  have hempty : (empty : Catalog Strategy).performAll [] = ([], empty) := rfl
  obtain ⟨-, hrefuses, herror, -⟩ := contents_of_performAll hempty
  refine ⟨hsize, ?_, hfreeze (by simp) _⟩
  obtain ⟨e, he⟩ := (hrefuses many).2 (.flawed (.pattern _ hread))
  exact ⟨e, he, (herror many e he).2.2 (.pattern _ hread rfl)⟩

end Mend.Catalog
