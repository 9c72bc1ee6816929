import Mathlib.Data.List.Dedup
import Mathlib.Data.List.Basic
import Mend.Catalog.Basic
import Mend.Proofs.Template

/-! Registration step by step. What a catalog holds is told by the list of the templates that were
added to it: its buckets are that list sorted by category, and a declaration that is refused leaves
it as it was. -/

namespace Mend

namespace Catalog

variable {S : Type} {c : Catalog S} {ts : List (Template S)} {k : Category} {d : Declaration S}

/-- Templates by category, the categories in the order in which they first come up. -/
def grouped (ts : List (Template S)) : List (Category × List (Template S)) :=
  (ts.map (·.category)).eraseDups.map fun k => (k, ts.filter (·.category = k))

theorem lookup_grouped (ts : List (Template S)) (k : Category) :
    (grouped ts).lookup k =
      if k ∈ ts.map (·.category) then some (ts.filter (·.category = k)) else none := by
  by_cases h : k ∈ ts.map (·.category)
  · rw [if_pos h, grouped]
    exact List.lookup_graph (fun k => ts.filter (·.category = k)) (List.mem_eraseDups.2 h)
  · rw [if_neg h, List.lookup_eq_none_iff]
    intro b hb
    obtain ⟨k', hk', rfl⟩ := List.mem_map.1 hb
    rw [bne_iff_ne]
    rintro rfl
    exact h (List.mem_eraseDups.1 hk')

theorem filter_eq_nil_of_not_mem (h : k ∉ ts.map (·.category)) :
    ts.filter (·.category = k) = [] := by
  rw [List.filter_eq_nil_iff]
  intro t ht hk
  exact h (List.mem_map.2 ⟨t, ht, of_decide_eq_true hk⟩)

/-- The templates of the list are what was added to the catalog, in the order of their adding. -/
structure Holds (c : Catalog S) (ts : List (Template S)) : Prop where
  buckets : c.buckets = grouped ts
  keys : (ts.map fun t => (t.category, t.name)).Nodup
  described : ∀ t ∈ ts, ∃ d : Declaration S, d.Describes t

theorem holds_empty : Holds (empty : Catalog S) [] where
  buckets := rfl
  keys := List.nodup_nil
  described := List.forall_mem_nil _

theorem Holds.freeze (h : Holds c ts) : Holds c.freeze ts := ⟨h.buckets, h.keys, h.described⟩

theorem Holds.graded (h : Holds c ts) :
    ∀ t ∈ ts, Number.le 0 t.confidence = true ∧ Number.le t.confidence 1 = true := by
  intro t ht
  obtain ⟨d, hd⟩ := h.described t ht
  exact ⟨hd.low, hd.high⟩

theorem Holds.read (h : Holds c ts) :
    ∀ t ∈ ts, Pattern.read t.source.toList = .ok t.pattern := by
  intro t ht
  obtain ⟨d, hd⟩ := h.described t ht
  rw [hd.source]
  exact hd.pattern

theorem Holds.bucket (h : Holds c ts) (k : Category) :
    c.bucket k = ts.filter (·.category = k) := by
  rw [Catalog.bucket, h.buckets, lookup_grouped]
  by_cases hk : k ∈ ts.map (·.category)
  · rw [if_pos hk, Option.getD_some]
  · rw [if_neg hk, Option.getD_none, filter_eq_nil_of_not_mem hk]

theorem bucket_withBucket (c : Catalog S) (k k' : Category) :
    (c.withBucket k).bucket k' = c.bucket k' := by
  unfold withBucket
  split
  · rfl
  · rename_i h
    rw [bucket, bucket, List.lookup_append]
    cases hk : c.buckets.lookup k' with
    | some ts => rfl
    | none =>
      rw [Option.none_or, List.lookup_cons]
      cases k' == k with
      | true => rfl
      | false => rfl

theorem withBucket_of_any {name : String} (h : (c.bucket k).any (·.name = name) = true) :
    c.withBucket k = c := by
  unfold withBucket
  cases hk : c.buckets.lookup k with
  | some ts => rfl
  | none =>
    rw [bucket, hk] at h
    cases h

theorem eraseDups_concat {α : Type} [DecidableEq α] (xs : List α) (x : α) :
    (xs ++ [x]).eraseDups = if x ∈ xs then xs.eraseDups else xs.eraseDups ++ [x] := by
  rw [List.eraseDups_append]
  by_cases h : x ∈ xs
  · have hold : [x].removeAll xs = [] := by
      rw [List.removeAll, List.filter_eq_nil_iff]
      simpa using h
    rw [if_pos h, hold]
    exact List.append_nil _
  · have hnew : [x].removeAll xs = [x] := by
      rw [List.removeAll, List.filter_eq_self]
      simpa using h
    rw [if_neg h, hnew]
    rfl

theorem Holds.withBucket (h : Holds c ts) (k : Category) :
    (c.withBucket k).buckets = (ts.map (·.category) ++ [k]).eraseDups.map fun k' =>
      (k', ts.filter (·.category = k')) := by
  rw [eraseDups_concat, Catalog.withBucket, h.buckets, lookup_grouped]
  by_cases hk : k ∈ ts.map (·.category)
  · rw [if_pos hk, if_pos hk, Option.isSome_some, if_pos rfl, h.buckets]
    rfl
  · rw [if_neg hk, if_neg hk, Option.isSome_none, if_neg Bool.false_ne_true, List.map_append,
      List.map_singleton, filter_eq_nil_of_not_mem hk]
    rfl

theorem Holds.push (h : Holds c ts) (t : Template S) :
    ((c.withBucket t.category).push t).buckets = grouped (ts ++ [t]) := by
  rw [Catalog.push, h.withBucket, grouped, List.map_append, List.map_map]
  apply List.map_congr_left
  intro k' _
  rw [List.filter_append]
  by_cases hk : t.category = k'
  · simp [hk]
  · simp [hk, Ne.symm hk]

theorem Holds.any_bucket_iff (h : Holds c ts) (k : Category) (name : String) :
    (c.bucket k).any (·.name = name) = true ↔ ∃ t ∈ ts, t.category = k ∧ t.name = name := by
  simp only [h.bucket, List.any_eq_true, List.mem_filter, decide_eq_true_eq, and_assoc]

theorem Holds.snoc (h : Holds c ts) {t : Template S} (hnew : ∀ u ∈ ts, u.category = t.category →
    u.name ≠ t.name) (ht : d.Describes t) :
    Holds ((c.withBucket t.category).push t) (ts ++ [t]) where
  buckets := h.push t
  keys := by
    rw [List.map_append, List.nodup_append]
    refine ⟨h.keys, List.nodup_singleton _, ?_⟩
    intro key hkey key' hkey' heq
    obtain ⟨u, hu, rfl⟩ := List.mem_map.1 hkey
    rw [List.mem_singleton.1 hkey'] at heq
    exact hnew u hu (congrArg Prod.fst heq) (congrArg Prod.snd heq)
  described := List.forall_mem_append.2 ⟨h.described, List.forall_mem_singleton.2 ⟨d, ht⟩⟩

/-- The reasons for which a catalog refuses a declaration: a part of the declaration, the catalog
being frozen, or a template of the same category and name. -/
inductive Refuses (c : Catalog S) (ts : List (Template S)) (d : Declaration S) : Prop
  | flawed (h : d.Flawed)
  | frozen (h : c.frozen = true)
  | taken (t : Template S) (ht : t ∈ ts) (hcategory : d.category = .ok t.category)
      (hname : d.name = t.name)

inductive Declared (c : Catalog S) (ts : List (Template S)) (d : Declaration S) :
    Except RegistrationError (Template S) × Catalog S → Prop
  | added (t : Template S) (c' : Catalog S) (h : d.Describes t) (hopen : c.frozen = false)
      (hnew : ∀ u ∈ ts, u.category = t.category → u.name ≠ t.name) (hholds : Holds c' (ts ++ [t]))
      (hopen' : c'.frozen = false) : Declared c ts d (.ok t, c')
  | refused (e : RegistrationError) (h : Refuses c ts d)
      (hforeign : e.isForeign = true ↔ d.Foreign) : Declared c ts d (.error e, c)

theorem withBucket_frozen (c : Catalog S) (k : Category) : (c.withBucket k).frozen = c.frozen := by
  unfold withBucket
  split
  · rfl
  · rfl

theorem Holds.declared (h : Holds c ts) (d : Declaration S) : Declared c ts d (c.declare d) := by
  have hd := d.checked
  unfold declare
  generalize d.check = r at hd
  cases hd with
  | flawed e hflawed hforeign => exact .refused e (.flawed hflawed) hforeign
  | sound t ht =>
    have hown : ∀ e : RegistrationError, e.isForeign = false → (e.isForeign = true ↔ d.Foreign) :=
      fun e he => iff_of_false (by rw [he]; exact Bool.false_ne_true) ht.not_foreign
    dsimp only
    unfold register
    by_cases hfrozen : c.frozen = true
    · rw [if_pos hfrozen]
      exact .refused _ (.frozen hfrozen) (hown _ rfl)
    rw [if_neg hfrozen]
    dsimp only
    rw [bucket_withBucket]
    by_cases hany : (c.bucket t.category).any (·.name = t.name) = true
    -- The bucket is made before names are compared, but where the name is taken there is one.
    · rw [if_pos hany, withBucket_of_any hany]
      obtain ⟨u, hu, hcategory, hname⟩ := (h.any_bucket_iff t.category t.name).1 hany
      refine .refused _ (.taken u hu ?_ ?_) (hown _ rfl)
      · rw [ht.category, hcategory]
      · rw [← ht.name, hname]
    · rw [if_neg hany]
      have hnew : ∀ u ∈ ts, u.category = t.category → u.name ≠ t.name :=
        fun u hu hcategory hname => hany ((h.any_bucket_iff _ _).2 ⟨u, hu, hcategory, hname⟩)
      have hopen : c.frozen = false := Bool.eq_false_iff.2 hfrozen
      exact .added t _ ht hopen hnew (h.snoc hnew ht)
        ((withBucket_frozen c t.category).trans hopen)

theorem not_refuses {t : Template S} (ht : d.Describes t) (hopen : c.frozen = false)
    (hnew : ∀ u ∈ ts, u.category = t.category → u.name ≠ t.name) : ¬ Refuses c ts d := by
  intro h
  cases h with
  | flawed h => exact ht.not_flawed h
  | frozen h =>
    rw [hopen] at h
    cases h
  | taken u hu hcategory hname =>
    rw [ht.category] at hcategory
    exact hnew u hu (Except.ok.inj hcategory).symm (hname.symm.trans ht.name.symm)

section

variable {r : Except RegistrationError (Template S) × Catalog S}

theorem Declared.error_iff (hr : Declared c ts d r) :
    (∃ e, r.1 = .error e) ↔ Refuses c ts d := by
  cases hr with
  | refused e h _ => exact iff_of_true ⟨e, rfl⟩ h
  | added t c' ht hopen hnew _ _ => exact iff_of_false nofun (not_refuses ht hopen hnew)

theorem Declared.ok_iff (hr : Declared c ts d r) (t : Template S) :
    r.1 = .ok t ↔ d.Describes t ∧ ¬ Refuses c ts d := by
  cases hr with
  | refused e h _ => exact iff_of_false nofun fun h' => h'.2 h
  | added u c' hu hopen hnew _ _ =>
    constructor
    · rintro ⟨⟩
      exact ⟨hu, not_refuses hu hopen hnew⟩
    · rintro ⟨ht, -⟩
      exact congrArg Except.ok (hu.unique ht)

theorem Declared.of_error {e : RegistrationError} (hr : Declared c ts d r) (h : r.1 = .error e) :
    r.2 = c ∧ (e.isForeign = true ↔ d.Foreign) := by
  cases hr with
  | refused e' _ hforeign =>
    cases h
    exact ⟨rfl, hforeign⟩
  | added t c' _ _ _ _ _ => cases h

end

inductive Step (S : Type := Strategy)
  | declare (d : Declaration S)
  | freeze

/-- The template that a step adds, if it adds one, and the catalog behind the step. -/
def perform (c : Catalog S) : Step S → Option (Template S) × Catalog S
  | .declare d => ((c.declare d).1.toOption, (c.declare d).2)
  | .freeze => (none, c.freeze)

def performAll (c : Catalog S) : List (Step S) → List (Template S) × Catalog S
  | [] => ([], c)
  | s :: steps =>
    let rest := (c.perform s).2.performAll steps
    ((c.perform s).1.toList ++ rest.1, rest.2)

inductive Performed (c : Catalog S) (ts : List (Template S)) :
    Step S → Option (Template S) × Catalog S → Prop
  | added (d : Declaration S) (t : Template S) (c' : Catalog S) (hopen : c.frozen = false)
      (hholds : Holds c' (ts ++ [t])) (hopen' : c'.frozen = false) :
    Performed c ts (.declare d) (some t, c')
  | refused (d : Declaration S) : Performed c ts (.declare d) (none, c)
  | frozen : Performed c ts .freeze (none, c.freeze)

theorem Holds.performed (h : Holds c ts) (s : Step S) : Performed c ts s (c.perform s) := by
  cases s with
  | freeze => exact .frozen
  | declare d =>
    have hd := h.declared d
    unfold Catalog.perform
    dsimp only
    generalize c.declare d = r at hd
    cases hd with
    | added t c' _ hopen _ hholds hopen' => exact .added d t c' hopen hholds hopen'
    | refused e _ _ => exact .refused d

theorem Performed.holds {s : Step S} {r : Option (Template S) × Catalog S} (hs : Performed c ts s r)
    (h : Holds c ts) : Holds r.2 (ts ++ r.1.toList) := by
  cases hs with
  | added d t c' _ hholds _ => exact hholds
  | refused d =>
    rw [Option.toList_none, List.append_nil]
    exact h
  | frozen =>
    rw [Option.toList_none, List.append_nil]
    exact h.freeze

theorem Performed.frozen_iff {s : Step S} {r : Option (Template S) × Catalog S}
    (hs : Performed c ts s r) : r.2.frozen = true ↔ c.frozen = true ∨ .freeze = s := by
  cases hs with
  | added d t c' hopen _ hopen' => simp [hopen, hopen']
  | refused d => simp
  | frozen => simp [freeze]

theorem Performed.of_frozen {s : Step S} {r : Option (Template S) × Catalog S}
    (hs : Performed c ts s r) (h : c.frozen = true) : r = (none, c) := by
  cases hs with
  | added d t c' hopen _ _ =>
    rw [h] at hopen
    cases hopen
  | refused d => rfl
  | frozen =>
    cases c
    cases h
    rfl

theorem Holds.performAll (h : Holds c ts) (steps : List (Step S)) :
    Holds (c.performAll steps).2 (ts ++ (c.performAll steps).1) := by
  induction steps generalizing c ts with
  | nil =>
    change Holds c (ts ++ [])
    rw [List.append_nil]
    exact h
  | cons s steps ih =>
    have hrest := ih ((h.performed s).holds h)
    rw [List.append_assoc] at hrest
    exact hrest

theorem Holds.performAll_frozen_iff (h : Holds c ts) (steps : List (Step S)) :
    (c.performAll steps).2.frozen = true ↔ c.frozen = true ∨ .freeze ∈ steps := by
  induction steps generalizing c ts with
  | nil => exact (or_iff_left List.not_mem_nil).symm
  | cons s steps ih =>
    have hs := h.performed s
    have hrest := ih (hs.holds h)
    rw [hs.frozen_iff, or_assoc, ← List.mem_cons] at hrest
    exact hrest

theorem Holds.performAll_of_frozen (h : Holds c ts) (hc : c.frozen = true)
    (steps : List (Step S)) : c.performAll steps = ([], c) := by
  induction steps with
  | nil => rfl
  | cons s steps ih =>
    unfold Catalog.performAll
    rw [(h.performed s).of_frozen hc]
    dsimp only
    rw [ih]
    rfl

theorem holds_performAll (steps : List (Step S)) :
    Holds (empty.performAll steps).2 (empty.performAll steps).1 :=
  holds_empty.performAll steps

end Catalog

end Mend
