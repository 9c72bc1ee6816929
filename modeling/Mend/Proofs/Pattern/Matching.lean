import Mend.Pattern.Expression

/-! Where a match of an expression may end, the preferred place first. The search for a match tries
these places in turn: fuel is never used up, and what is behind a match decides which one is
taken. -/

namespace Mend

namespace Progress

/-- The place `t` is past some of the text that is left at `s`. -/
def Onward (s t : Progress) : Prop :=
  ∃ w, s.after = w ++ t.after ∧ t.before = w.reverse ++ s.before

section
variable {s t u : Progress}

theorem Onward.of_eq (hafter : t.after = s.after) (hbefore : t.before = s.before) : s.Onward t :=
  ⟨[], hafter.symm, hbefore⟩

theorem Onward.refl (s : Progress) : s.Onward s := .of_eq rfl rfl

theorem Onward.trans (h : s.Onward t) (h' : t.Onward u) : s.Onward u := by
  obtain ⟨v, hv, hvb⟩ := h
  obtain ⟨w, hw, hwb⟩ := h'
  refine ⟨v ++ w, ?_, ?_⟩
  · rw [hv, hw, List.append_assoc]
  · rw [hwb, hvb, List.reverse_append, List.append_assoc]

theorem Onward.length_le (h : s.Onward t) : t.after.length ≤ s.after.length := by
  obtain ⟨w, hw, -⟩ := h
  rw [hw, List.length_append]
  exact Nat.le_add_left _ _

theorem past?_eq_some {c : CharSet} (h : s.past? c = some t) : ∃ x rest, s.after = x :: rest ∧
    c.has x = true ∧ t = { s with before := x :: s.before, after := rest } := by
  unfold past? at h
  split at h
  · cases h
  · rename_i x rest hafter
    split at h
    · rename_i hx
      exact ⟨x, rest, hafter, hx, (Option.some.inj h).symm⟩
    · cases h

theorem onward_past? {c : CharSet} (h : s.past? c = some t) : s.Onward t := by
  obtain ⟨x, rest, hafter, -, rfl⟩ := past?_eq_some h
  exact ⟨[x], hafter, rfl⟩

theorem onward_pastAll? {f : Folding} {cs : List Char} (h : s.pastAll? f cs = some t) :
    s.Onward t := by
  induction cs generalizing s with
  | nil =>
    cases h
    exact .refl _
  | cons c cs ih =>
    unfold pastAll? at h
    split at h
    · cases h
    · rename_i x rest hafter
      split at h
      · have hpast : s.Onward { s with before := x :: s.before, after := rest } :=
          ⟨[x], hafter, rfl⟩
        exact hpast.trans (ih h)
      · cases h

end

end Progress

namespace Expression

/-- For every place the places where a match from there may end, the preferred one first. -/
abbrev Ends := Progress → List Progress

namespace Ends

def first (f : Ends) : Ends := fun s => (f s).head?.toList

def times (f : Ends) : Nat → Ends
  | 0, s => [s]
  | n + 1, s => (f s).flatMap (times f n)

/-- Further copies, as few as possible if they are lazy. Behind a copy that takes no text there is
no other. -/
def more (f : Ends) (lazy : Bool) (high : Option Nat) (s : Progress) : List Progress :=
  if high = some 0 then [s]
  else
    let copies := (f s).flatMap fun t =>
      if t.after.length < s.after.length then more f lazy (high.map (· - 1)) t else [t]
    if lazy then s :: copies else copies ++ [s]
termination_by s.after.length

def copies (f : Ends) (lazy : Bool) (low : Nat) (high : Option Nat) : Ends := fun s =>
  (f.times low s).flatMap (f.more lazy (high.map (· - low)))

def Forward (f : Ends) : Prop := ∀ s, ∀ t ∈ f s, s.Onward t

end Ends

/-- The places where a match may end. -/
def ends : Expression → Ends
  | empty, s => [s]
  | one c, s => (s.past? c).toList
  | anchor a, s => if s.holds a then [s] else []
  | seq p q, s => (p.ends s).flatMap q.ends
  | alt p q, s => p.ends s ++ q.ends s
  | repeated p low high .most, s => p.ends.copies false low high s
  | repeated p low high .least, s => p.ends.copies true low high s
  | repeated p low high .final, s => (p.ends.first.copies false low high).first s
  | group n p, s => (p.ends (s.begin n)).map (·.close n)
  | again n f, s => ((s.group? n).bind fun cs => s.pastAll? f cs).toList
  | look behind negated p, s =>
    let seen := ((behind.map (s.back? ·)).getD (some s)).bind fun t => (p.ends t).head?
    if negated then if seen.isSome then [] else [s]
    else seen.toList.map fun t => { s with begun := t.begun, ended := t.ended }
  | final p, s => p.ends.first s
  | ifGroup n p q, s => if (s.group? n).isSome then p.ends s else q.ends s

/-- The matcher tries the ends in turn, each with what has to follow. -/
def Tries (p : Matcher) (f : Ends) : Prop := ∀ s k, p s k = (f s).findSome? k

section
variable {p q : Matcher} {f g : Ends} {lazy : Bool} {fuel : Nat} {high last : Option Nat}
  {s t : Progress} {k : Sequel}

theorem mem_of_mem_head? {ts : List Progress} (h : t ∈ ts.head?.toList) : t ∈ ts :=
  List.mem_of_mem_head? (Option.mem_toList.1 h)

namespace Ends

theorem Forward.first (hf : f.Forward) : f.first.Forward :=
  fun s t ht => hf s t (mem_of_mem_head? ht)

theorem Forward.times (hf : f.Forward) (n : Nat) : (f.times n).Forward := by
  induction n with
  | zero =>
    intro s t ht
    rw [List.mem_singleton.1 ht]
    exact .refl s
  | succ n ih =>
    intro s t ht
    obtain ⟨u, hu, ht⟩ := List.mem_flatMap.1 ht
    exact (hf s u hu).trans (ih u t ht)

theorem mem_more : t ∈ f.more lazy high s ↔ t = s ∨ high ≠ some 0 ∧ ∃ u ∈ f s,
    (u.after.length < s.after.length ∧ t ∈ f.more lazy (high.map (· - 1)) u) ∨
      (¬ u.after.length < s.after.length ∧ t = u) := by
  rw [more]
  by_cases hhigh : high = some 0
  · rw [if_pos hhigh, List.mem_singleton]
    exact (or_iff_left fun h => h.1 hhigh).symm
  · have hcopies : t ∈ ((f s).flatMap fun t =>
        if t.after.length < s.after.length then f.more lazy (high.map (· - 1)) t else [t]) ↔
        ∃ u ∈ f s, (u.after.length < s.after.length ∧ t ∈ f.more lazy (high.map (· - 1)) u) ∨
          (¬ u.after.length < s.after.length ∧ t = u) := by
      simp only [List.mem_flatMap]
      refine exists_congr fun u => and_congr_right fun _ => ?_
      by_cases hlt : u.after.length < s.after.length <;> simp [hlt]
    rw [if_neg hhigh, ← hcopies, and_iff_right hhigh]
    cases lazy with
    | true => exact List.mem_cons
    | false => exact List.mem_append.trans (or_comm.trans (or_congr_left List.mem_singleton))

theorem Forward.more (hf : f.Forward) (lazy : Bool) (high : Option Nat) :
    Forward (f.more lazy high) := by
  intro s t ht
  induction hn : s.after.length using Nat.strongRecOn generalizing s high with
  | _ n ih =>
    rcases mem_more.1 ht with rfl | ⟨-, u, hu, ⟨hlt, ht⟩ | ⟨-, rfl⟩⟩
    · exact .refl _
    · exact (hf s u hu).trans (ih _ (hn ▸ hlt) _ _ ht rfl)
    · exact hf s _ hu

theorem Forward.copies (hf : f.Forward) (lazy : Bool) (low : Nat) (high : Option Nat) :
    (f.copies lazy low high).Forward := by
  intro s t ht
  obtain ⟨u, hu, ht⟩ := List.mem_flatMap.1 ht
  exact (hf.times low s u hu).trans (hf.more lazy _ u t ht)

end Ends

theorem forward_ends (p : Expression) : p.ends.Forward := by
  induction p with
  | empty =>
    intro s t ht
    rw [List.mem_singleton.1 ht]
    exact .refl s
  | one c =>
    intro s t ht
    exact Progress.onward_past? (Option.mem_toList.1 ht)
  | anchor a =>
    intro s t ht
    rw [ends] at ht
    split at ht
    · rw [List.mem_singleton.1 ht]
      exact .refl s
    · cases ht
  | seq p q ihp ihq =>
    intro s t ht
    obtain ⟨u, hu, ht⟩ := List.mem_flatMap.1 ht
    exact (ihp s u hu).trans (ihq u t ht)
  | alt p q ihp ihq =>
    intro s t ht
    exact (List.mem_append.1 ht).elim (ihp s t) (ihq s t)
  | repeated p low high m ih =>
    cases m with
    | most => exact ih.copies false low high
    | least => exact ih.copies true low high
    | final => exact (ih.first.copies false low high).first
  | group n p ih =>
    intro s t ht
    obtain ⟨u, hu, rfl⟩ := List.mem_map.1 ht
    have hbegin : s.Onward (s.begin n) := .of_eq rfl rfl
    exact (hbegin.trans (ih _ u hu)).trans (.of_eq rfl rfl)
  | again n f =>
    intro s t ht
    obtain ⟨cs, -, ht⟩ := Option.bind_eq_some_iff.1 (Option.mem_toList.1 ht)
    exact Progress.onward_pastAll? ht
  | look behind negated p _ =>
    intro s t ht
    rw [ends] at ht
    split at ht
    · split at ht
      · cases ht
      · rw [List.mem_singleton.1 ht]
        exact .refl s
    · obtain ⟨u, -, rfl⟩ := List.mem_map.1 ht
      exact .of_eq rfl rfl
  | final p ih => exact ih.first
  | ifGroup n p q ihp ihq =>
    intro s t ht
    rw [ends] at ht
    split at ht
    · exact ihp s t ht
    · exact ihq s t ht

theorem findSome?_flatMap (ts : List Progress) (f : Ends) (k : Sequel) :
    (ts.flatMap f).findSome? k = ts.findSome? fun t => (f t).findSome? k := by
  induction ts with
  | nil => rfl
  | cons t ts ih =>
    rw [List.flatMap_cons, List.findSome?_append, ih, List.findSome?_cons]
    cases (f t).findSome? k <;> rfl

theorem findSome?_toList (o : Option Progress) (k : Sequel) : o.toList.findSome? k = o.bind k := by
  cases o with
  | none => rfl
  | some t => exact List.findSome?_singleton

theorem findSome?_some (ts : List Progress) : ts.findSome? some = ts.head? := by
  cases ts <;> rfl

theorem findSome?_congr {ts : List Progress} {k k' : Sequel} (h : ∀ t ∈ ts, k t = k' t) :
    ts.findSome? k = ts.findSome? k' := by
  induction ts with
  | nil => rfl
  | cons t ts ih =>
    rw [List.forall_mem_cons] at h
    rw [List.findSome?_cons, List.findSome?_cons, h.1, ih h.2]

theorem Tries.first (hp : Tries p f) : Tries (first p) f.first := by
  intro s k
  rw [Ends.first, findSome?_toList, ← findSome?_some, ← hp]
  rfl

theorem Tries.times (hp : Tries p f) (n : Nat) : Tries (times p n) (f.times n) := by
  induction n with
  | zero => exact fun s k => List.findSome?_singleton.symm
  | succ n ih =>
    intro s k
    rw [Ends.times, findSome?_flatMap, Expression.times, hp]
    exact congrArg (fun k => (f s).findSome? k) (funext fun t => ih t k)

theorem more_of_isOver (h : isOver high last s = true) : more p lazy fuel high last s k = k s := by
  cases fuel with
  | zero => rfl
  | succ fuel =>
    rw [more, if_pos h]
    cases lazy with
    | true => exact Option.or_none
    | false => rfl

/-- Fuel for all of the text that is left is enough. The copy before, if any, took text. -/
theorem Tries.more (hp : Tries p f) (hf : f.Forward) (hfuel : s.after.length < fuel)
    (hlast : ∀ n ∈ last, s.after.length < n) :
    more p lazy fuel high last s k = (f.more lazy high s).findSome? k := by
  induction fuel generalizing high last s with
  | zero => cases hfuel
  | succ fuel ih =>
    have hopen : last ≠ some s.after.length := fun h => Nat.lt_irrefl _ (hlast _ h)
    rw [Ends.more]
    by_cases hhigh : high = some 0
    · rw [if_pos hhigh, more_of_isOver (by rw [isOver, hhigh]; rfl), List.findSome?_singleton]
    · have hover : isOver high last s = false := by
        rw [isOver, beq_false_of_ne hhigh, beq_false_of_ne hopen]
        rfl
      have hcopies : p s (fun t => Expression.more p lazy fuel (high.map (· - 1))
          (some s.after.length) t k) = ((f s).flatMap fun t =>
            if t.after.length < s.after.length then f.more lazy (high.map (· - 1)) t
            else [t]).findSome? k := by
        rw [hp, findSome?_flatMap]
        refine findSome?_congr fun t ht => ?_
        have hle := (hf s t ht).length_le
        by_cases hlt : t.after.length < s.after.length
        · rw [if_pos hlt]
          exact ih (by omega) fun n hn => Option.some.inj hn ▸ hlt
        · have heq : t.after.length = s.after.length := by omega
          rw [if_neg hlt, List.findSome?_singleton]
          apply more_of_isOver
          rw [isOver, heq, beq_self_eq_true, Bool.or_true]
      rw [if_neg hhigh, Expression.more, hover, if_neg Bool.false_ne_true, hcopies]
      cases lazy with
      | true =>
        rw [if_pos rfl, List.findSome?_cons]
        cases k s <;> rfl
      | false =>
        rw [if_neg Bool.false_ne_true, List.findSome?_append, List.findSome?_singleton]
        rfl

theorem Tries.copies (hp : Tries p f) (hf : f.Forward) (lazy : Bool) (low : Nat)
    (high : Option Nat) : Tries (copies p lazy low high) (f.copies lazy low high) := by
  intro s k
  rw [Ends.copies, findSome?_flatMap, Expression.copies, hp.times]
  exact congrArg (fun k => (f.times low s).findSome? k)
    (funext fun t => hp.more hf (by omega) nofun)

/-- The search tries the ends of an expression in turn. -/
theorem tries_run (p : Expression) : Tries p.run p.ends := by
  induction p with
  | empty => exact fun s k => List.findSome?_singleton.symm
  | one c => exact fun s k => (findSome?_toList _ k).symm
  | anchor a =>
    intro s k
    rw [run, ends]
    split
    · exact List.findSome?_singleton.symm
    · rfl
  | seq p q ihp ihq =>
    intro s k
    rw [run, ends, findSome?_flatMap, ihp]
    exact congrArg (fun k => (p.ends s).findSome? k) (funext fun t => ihq t k)
  | alt p q ihp ihq =>
    intro s k
    rw [run, ends, List.findSome?_append, ihp, ihq]
  | repeated p low high m ih =>
    have hforward := forward_ends p
    cases m with
    | most => exact ih.copies hforward false low high
    | least => exact ih.copies hforward true low high
    | final => exact (ih.first.copies hforward.first false low high).first
  | group n p ih =>
    intro s k
    rw [run, ends, List.findSome?_map, ih]
    rfl
  | again n f => exact fun s k => (findSome?_toList _ k).symm
  | look behind negated p ih =>
    intro s k
    have hseen : (fun t => p.run t some) = fun t => (p.ends t).head? :=
      funext fun t => (ih t some).trans (findSome?_some _)
    rw [run, ends, hseen]
    generalize ((behind.map (s.back? ·)).getD (some s)).bind (fun t => (p.ends t).head?) = seen
    cases negated <;> cases seen <;> first | rfl | exact List.findSome?_singleton.symm
  | final p ih => exact ih.first
  | ifGroup n p q ihp ihq =>
    intro s k
    rw [run, ends]
    split
    · exact ihp s k
    · exact ihq s k

end

section
variable {p : Expression} {cs : List Char}

theorem isSome_run_some {s : Progress} : (p.run s some).isSome = true ↔ ∃ t, t ∈ p.ends s := by
  rw [tries_run, findSome?_some]
  cases p.ends s with
  | nil => exact iff_of_false Bool.false_ne_true nofun
  | cons t ts => exact iff_of_true rfl ⟨t, List.mem_cons_self⟩

theorem foundAfter_iff {before : List Char} : p.foundAfter before cs = true ↔
    ∃ a b, cs = a ++ b ∧ ∃ t, t ∈ p.ends { before := a.reverse ++ before, after := b } := by
  induction cs generalizing before with
  | nil =>
    rw [foundAfter, isSome_run_some]
    constructor
    · exact fun h => ⟨[], [], rfl, h⟩
    · rintro ⟨a, b, hcs, h⟩
      obtain ⟨rfl, rfl⟩ := List.append_eq_nil_iff.1 hcs.symm
      exact h
  | cons c cs ih =>
    rw [foundAfter, Bool.or_eq_true, isSome_run_some, ih]
    constructor
    · rintro (h | ⟨a, b, rfl, h⟩)
      · exact ⟨[], c :: cs, rfl, h⟩
      · exact ⟨c :: a, b, rfl, by simpa using h⟩
    · rintro ⟨a, b, hcs, h⟩
      cases a with
      | nil => exact .inl (by rw [hcs]; exact h)
      | cons d a =>
        obtain ⟨rfl, rfl⟩ := List.cons.inj hcs
        exact .inr ⟨a, b, rfl, by simpa using h⟩

/-- An expression is found in a text where a match begins at some place of it. -/
theorem found_iff : p.found cs = true ↔
    ∃ a b, cs = a ++ b ∧ ∃ t, t ∈ p.ends { before := a.reverse, after := b } := by
  rw [found, foundAfter_iff]
  simp only [List.append_nil]

end

end Expression

end Mend
