import Mathlib.Algebra.BigOperators.Group.List.Basic
import Mathlib.Algebra.Field.Basic
import Mathlib.Data.List.Induction
import Mend.Proofs.Tally.Order

/-! A tally under calls to record, to take a snapshot and to reset. A snapshot sums up what was
recorded since the last reset, in whichever order, and is not touched by what is called after it. -/

namespace Mend

namespace Counts

variable {name : String} {names more : List String} {c d : Counts}

/-- The counts say how often each name is in the list, and say so once for each name in it. -/
structure Histogram (names : List String) (c : Counts) : Prop where
  nodup : c.names.Nodup
  lookup : ∀ name, List.lookup name c = if name ∈ names then some (names.count name) else none

theorem histogram_nil : Histogram [] [] := ⟨List.nodup_nil, fun _ => rfl⟩

theorem Histogram.count_eq (h : Histogram names c) (name : String) :
    count name c = names.count name := by
  rw [count_eq_lookup, h.lookup name]
  split
  · rfl
  · rename_i hname
    exact (List.count_eq_zero.2 hname).symm

theorem Histogram.increment (h : Histogram names c) (name : String) :
    Histogram (name :: names) (increment name c) where
  nodup := nodup_increment name h.nodup
  lookup other := by
    rw [lookup_increment, h.count_eq, h.lookup]
    by_cases hname : other = name
    · simp [hname]
    · simp [hname, Ne.symm hname]

theorem Histogram.same (h : Histogram names c) (h' : Histogram more d) (hperm : names.Perm more) :
    Same c d := by
  intro name
  rw [h.lookup, h'.lookup, hperm.count_eq]
  simp [hperm.mem_iff]

end Counts

namespace Tally

variable {α : Type}

inductive Call (α : Type)
  | record (now : String) (e : Entry α)
  | snapshot
  | reset

namespace Call

def isReset : Call α → Bool
  | record .. => false
  | snapshot => false
  | reset => true

def isSnapshot : Call α → Bool
  | record .. => false
  | snapshot => true
  | reset => false

def recorded? : Call α → Option (String × Entry α)
  | record now e => some (now, e)
  | snapshot => none
  | reset => none

end Call

/-- A tally and the snapshots taken of it, the earliest first. -/
structure Watched (α : Type) where
  tally : Tally α
  taken : List (Snapshot α)

/-- What is recorded since the last reset, the latest first. -/
def recorded (calls : List (Call α)) : List (String × Entry α) :=
  (calls.reverse.takeWhile (!·.isReset)).filterMap Call.recorded?

def entered (calls : List (Call α)) : List (Entry α) := (recorded calls).map Prod.snd

inductive Counter
  | total
  | successful
  | failed
  | autoFixable
  | byTemplate
  | byModel
  | errorType (name : String)
  | complexity (name : String)

def Counter.counts : Counter → Entry α → Bool
  | total, _ => true
  | successful, e => e.success
  | failed, e => !e.success
  | autoFixable, e => e.autoFixable
  | byTemplate, e => e.method == some "template"
  | byModel, e => e.method == some "ai"
  | errorType name, e => label e.errorType == name
  | complexity name, e => label e.complexity == name

def Snapshot.read (s : Snapshot α) : Counter → Nat
  | .total => s.total
  | .successful => s.successful
  | .failed => s.failed
  | .autoFixable => s.autoFixable
  | .byTemplate => s.byTemplate
  | .byModel => s.byModel
  | .errorType name => s.byErrorType.count name
  | .complexity name => s.byComplexity.count name

structure Snapshot.Agrees (s s' : Snapshot α) : Prop where
  counters : ∀ k, s.read k = s'.read k
  errorTypes : s.byErrorType.Same s'.byErrorType
  complexities : s.byComplexity.Same s'.byComplexity

section
variable [Zero α] [Add α]

def sumOf (xs : List α) : α := xs.foldr (fun x s => s + x) 0

def ofRecorded : List (String × Entry α) → Tally α
  | [] => empty
  | r :: rs => (ofRecorded rs).record r.1 r.2

def Watched.start : Watched α := ⟨empty, []⟩

variable [Div α] [NatCast α]

def Watched.call (w : Watched α) : Call α → Watched α
  | .record now e => { w with tally := w.tally.record now e }
  | .snapshot => { w with taken := w.taken ++ [w.tally.snapshot] }
  | .reset => { w with tally := empty }

def Watched.run (calls : List (Call α)) : Watched α := calls.foldl Watched.call .start

def shown (calls : List (Call α)) : Snapshot α := (Watched.run calls).tally.snapshot

def mean (xs : List α) : α := if xs = [] then 0 else sumOf xs / (xs.length : α)

/-- The snapshot is that of the entries, the latest first. -/
structure Snapshot.SumsUp (es : List (Entry α)) (s : Snapshot α) : Prop where
  counters : ∀ k : Counter, s.read k = es.countP k.counts
  errorTypes : s.byErrorType.Histogram (es.map (label ·.errorType))
  complexities : s.byComplexity.Histogram (es.map (label ·.complexity))
  averageConfidence : s.averageConfidence = mean (es.map (·.confidence))

end

section
variable (calls before : List (Call α)) (c : Call α)

@[simp] theorem recorded_concat : recorded (calls ++ [c]) =
    match c with
    | .record now e => (now, e) :: recorded calls
    | .snapshot => recorded calls
    | .reset => [] := by
  rw [recorded, List.reverse_concat]
  cases c with
  | record now e => rfl
  | snapshot => rfl
  | reset => rfl

theorem recorded_append {more : List (Call α)} (h : ∀ c ∈ more, c.isReset = false) :
    recorded (before ++ more) = more.reverse.filterMap Call.recorded? ++ recorded before := by
  have hmore : ∀ c ∈ more.reverse, (!c.isReset) = true := by simpa using h
  rw [recorded, List.reverse_append, List.takeWhile_append_of_pos hmore, List.filterMap_append]
  rfl

theorem recorded_filter : recorded (calls.filter (!·.isSnapshot)) = recorded calls := by
  induction calls using List.reverseRecOn with
  | nil => rfl
  | append_singleton calls c ih =>
    rw [List.filter_append, recorded_concat]
    cases c with
    | record now e => exact (recorded_concat _ _).trans (congrArg (List.cons (now, e)) ih)
    | snapshot => exact (congrArg recorded (List.append_nil _)).trans ih
    | reset => exact recorded_concat _ _

end

theorem SumsUp.read [Zero α] [Div α] [NatCast α] {es : List (Entry α)} {t : Tally α}
    (h : SumsUp es t) (k : Counter) : t.snapshot.read k = es.countP k.counts := by
  cases k with
  | total => exact h.total.trans (congrFun List.countP_true es).symm
  | successful => exact h.successful
  | failed => exact h.failed
  | autoFixable => exact h.autoFixable
  | byTemplate => exact h.methods "template"
  | byModel => exact h.methods "ai"
  | errorType name => exact h.errorTypes name
  | complexity name => exact h.complexities name

section
variable [Zero α] [Add α] (rs : List (String × Entry α))

theorem sumsUp_ofRecorded : SumsUp (rs.map Prod.snd) (ofRecorded rs) := by
  induction rs with
  | nil => exact sumsUp_empty
  | cons r rs ih => exact ih.record r.1 r.2

theorem errorTypes_ofRecorded :
    (ofRecorded rs).byErrorType.Histogram ((rs.map Prod.snd).map (label ·.errorType)) := by
  induction rs with
  | nil => exact Counts.histogram_nil
  | cons r rs ih => exact ih.increment (label r.2.errorType)

theorem complexities_ofRecorded :
    (ofRecorded rs).byComplexity.Histogram ((rs.map Prod.snd).map (label ·.complexity)) := by
  induction rs with
  | nil => exact Counts.histogram_nil
  | cons r rs ih => exact ih.increment (label r.2.complexity)

theorem confidenceSum_ofRecorded :
    (ofRecorded rs).confidenceSum = sumOf ((rs.map Prod.snd).map (·.confidence)) := by
  induction rs with
  | nil => rfl
  | cons r rs ih => exact congrArg (· + r.2.confidence) ih

theorem lastTime_ofRecorded : (ofRecorded rs).lastTime = rs.head?.map Prod.fst := by
  cases rs with
  | nil => rfl
  | cons r rs => rfl

variable [Div α] [NatCast α]

theorem averageConfidence_ofRecorded :
    (ofRecorded rs).averageConfidence = mean ((rs.map Prod.snd).map (·.confidence)) := by
  rw [averageConfidence, mean, confidenceSum_ofRecorded, (sumsUp_ofRecorded rs).total]
  simp

theorem sumsUp_snapshot : (ofRecorded rs).snapshot.SumsUp (rs.map Prod.snd) where
  counters := (sumsUp_ofRecorded rs).read
  errorTypes := errorTypes_ofRecorded rs
  complexities := complexities_ofRecorded rs
  averageConfidence := averageConfidence_ofRecorded rs

theorem Snapshot.SumsUp.agrees {es fs : List (Entry α)} {s s' : Snapshot α}
    (h : s.SumsUp es) (h' : s'.SumsUp fs) (hperm : es.Perm fs) : s.Agrees s' where
  counters k := by rw [h.counters, h'.counters, hperm.countP_eq]
  errorTypes := h.errorTypes.same h'.errorTypes (hperm.map _)
  complexities := h.complexities.same h'.complexities (hperm.map _)

variable (calls before more : List (Call α))

theorem Watched.run_append : run (before ++ more) = more.foldl call (run before) :=
  List.foldl_append

theorem Watched.run_tally : (run calls).tally = ofRecorded (recorded calls) := by
  induction calls using List.reverseRecOn with
  | nil => rfl
  | append_singleton calls c ih =>
    rw [run_append, List.foldl_cons, List.foldl_nil]
    cases c with
    | record now e => simp [call, ofRecorded, ih]
    | snapshot => simp [call, ih]
    | reset => simp [call, ofRecorded]

theorem Watched.taken_call (w : Watched α) (c : Call α) : w.taken <+: (w.call c).taken := by
  cases c with
  | record now e => exact List.prefix_rfl
  | snapshot => exact List.prefix_append w.taken _
  | reset => exact List.prefix_rfl

theorem Watched.taken_foldl (w : Watched α) : w.taken <+: (more.foldl call w).taken := by
  induction more generalizing w with
  | nil => exact List.prefix_rfl
  | cons c more ih => exact (w.taken_call c).trans (ih (w.call c))

theorem Watched.taken_run : (run (before ++ .snapshot :: more)).taken[(run before).taken.length]? =
    some (shown before) := by
  obtain ⟨rest, hrest⟩ := taken_foldl more ((run before).call .snapshot)
  rw [run_append, List.foldl_cons, ← hrest, List.getElem?_append_left (by simp [call])]
  exact List.getElem?_concat_length

theorem sumsUp_shown : (shown calls).SumsUp (entered calls) := by
  rw [shown, Watched.run_tally]
  exact sumsUp_snapshot (recorded calls)

theorem read_le_of_append {more : List (Call α)} (h : ∀ c ∈ more, c.isReset = false) (k : Counter) :
    (shown before).read k ≤ (shown (before ++ more)).read k := by
  rw [(sumsUp_shown before).counters, (sumsUp_shown (before ++ more)).counters, entered, entered,
    recorded_append before h, List.map_append, List.countP_append]
  exact Nat.le_add_left _ _

end

section
variable {K : Type} [Field K]

theorem sumOf_eq (xs : List K) : sumOf xs = xs.sum := by
  induction xs with
  | nil => rfl
  | cons x xs ih => rw [List.sum_cons, ← ih, add_comm]; rfl

theorem mean_eq (xs : List K) : mean xs = xs.sum / (xs.length : K) := by
  rw [mean, sumOf_eq]
  split
  · rename_i h
    rw [h, List.sum_nil, zero_div]
  · rfl

end

/-- Each snapshot sums up what was recorded since the last reset, and stays as it was when more is
called; the snapshots that were taken do not show in what the tally says, no number gets smaller but
by a reset, and the order of the records does not matter. Where sums and quotients are exact, the
average is the mean of the confidences, in whichever order. -/
theorem snapshots_sum_up {α K : Type} [Zero α] [Add α] [Div α] [NatCast α] [Field K] :
    (∀ before more : List (Call α), (shown before).SumsUp (entered before) ∧
      (shown before).lastTime = (recorded before).head?.map Prod.fst ∧
      (Watched.run (before ++ .snapshot :: more)).taken[(Watched.run before).taken.length]? =
        some (shown before)) ∧
    (∀ calls : List (Call α),
      (Watched.run (calls.filter (!·.isSnapshot))).tally = (Watched.run calls).tally) ∧
    (∀ before more : List (Call α), (∀ c ∈ more, c.isReset = false) →
      ∀ k, (shown before).read k ≤ (shown (before ++ more)).read k) ∧
    (∀ one other : List (Call α), (entered one).Perm (entered other) →
      (shown one).Agrees (shown other)) ∧
    (∀ calls : List (Call K), (shown calls).averageConfidence =
      ((entered calls).map (·.confidence)).sum / ((entered calls).length : K)) ∧
    ∀ one other : List (Call K), (entered one).Perm (entered other) →
      (shown one).averageConfidence = (shown other).averageConfidence := by
  have hmean : ∀ calls : List (Call K), (shown calls).averageConfidence =
      ((entered calls).map (·.confidence)).sum / ((entered calls).length : K) := by
    intro calls
    rw [(sumsUp_shown calls).averageConfidence, mean_eq, List.length_map]
  refine ⟨fun before more => ⟨sumsUp_shown before, ?_, Watched.taken_run before more⟩, ?_,
    fun before more => read_le_of_append before, ?_, hmean, ?_⟩
  · rw [shown, Watched.run_tally]
    exact lastTime_ofRecorded (recorded before)
  · intro calls
    rw [Watched.run_tally, Watched.run_tally, recorded_filter]
  · intro one other hperm
    exact (sumsUp_shown one).agrees (sumsUp_shown other) hperm
  · intro one other hperm
    rw [hmean, hmean, (hperm.map _).sum_eq, hperm.length_eq]

end Tally

end Mend
