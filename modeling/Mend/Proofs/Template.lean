import Mend.Template

namespace Mend

namespace Declaration

variable {S : Type}

/-- A template with the parts that are declared, all of them sound. -/
structure Describes (d : Declaration S) (t : Template S) : Prop where
  name : t.name = d.name
  named : d.name ≠ ""
  category : d.category = .ok t.category
  source : t.source = d.source
  pattern : Pattern.read d.source.toList = .ok t.pattern
  strategy : d.strategy = .ok t.strategy
  confidence : d.confidence = .num t.confidence
  low : Number.le 0 t.confidence = true
  high : Number.le t.confidence 1 = true
  autoFixable : t.autoFixable = d.autoFixable

/-- A part of the declaration is not sound. A confidence has to be a number, no truth value, from
zero to one. -/
inductive Flawed (d : Declaration S) : Prop
  | pattern (f : Pattern.Fault) (h : Pattern.read d.source.toList = .error f)
  | name (h : d.name = "")
  | category (v : Json) (h : d.category = .error v)
  | strategy (v : Json) (h : d.strategy = .error v)
  | confidence (h : ∀ n, d.confidence = .num n →
      ¬ (Number.le 0 n = true ∧ Number.le n 1 = true))

/-- The declaration fails for a reason that is none of registration: its pattern holds numbers,
flags or a depth that cannot be dealt with, or all of it is sound but a confidence that is neither a
number nor a truth value. -/
inductive Foreign (d : Declaration S) : Prop
  | pattern (f : Pattern.Fault) (h : Pattern.read d.source.toList = .error f)
      (hbeyond : f.isBeyond = true)
  | confidence (p : Expression) (k : Category) (s : S)
      (hpattern : Pattern.read d.source.toList = .ok p) (hname : d.name ≠ "")
      (hcategory : d.category = .ok k) (hstrategy : d.strategy = .ok s)
      (hnumber : ∀ n, d.confidence ≠ .num n) (hbool : ∀ b, d.confidence ≠ .bool b)

inductive Checked (d : Declaration S) : Except RegistrationError (Template S) → Prop
  | sound (t : Template S) (h : d.Describes t) : Checked d (.ok t)
  | flawed (e : RegistrationError) (h : d.Flawed) (hforeign : e.isForeign = true ↔ d.Foreign) :
    Checked d (.error e)

variable {d : Declaration S}

theorem Foreign.of_read {p : Expression} (h : d.Foreign)
    (hp : Pattern.read d.source.toList = .ok p) :
    d.name ≠ "" ∧ (∃ k, d.category = .ok k) ∧ (∃ s, d.strategy = .ok s) ∧
      (∀ n, d.confidence ≠ .num n) ∧ ∀ b, d.confidence ≠ .bool b := by
  cases h with
  | pattern f h =>
    rw [hp] at h
    cases h
  | confidence p k s _ hname hcategory hstrategy hnumber hbool =>
    exact ⟨hname, ⟨k, hcategory⟩, ⟨s, hstrategy⟩, hnumber, hbool⟩

theorem Describes.unique {t u : Template S} (ht : d.Describes t) (hu : d.Describes u) : t = u := by
  obtain ⟨name, category, source, pattern, strategy, confidence, autoFixable⟩ := t
  obtain ⟨name', category', source', pattern', strategy', confidence', autoFixable'⟩ := u
  congr
  · exact ht.name.trans hu.name.symm
  · exact Except.ok.inj (ht.category.symm.trans hu.category)
  · exact ht.source.trans hu.source.symm
  · exact Except.ok.inj (ht.pattern.symm.trans hu.pattern)
  · exact Except.ok.inj (ht.strategy.symm.trans hu.strategy)
  · exact Json.num.inj (ht.confidence.symm.trans hu.confidence)
  · exact ht.autoFixable.trans hu.autoFixable.symm

theorem Describes.not_flawed {t : Template S} (ht : d.Describes t) : ¬ d.Flawed := by
  intro h
  cases h with
  | pattern f h =>
    rw [ht.pattern] at h
    cases h
  | name h => exact ht.named h
  | category v h =>
    rw [ht.category] at h
    cases h
  | strategy v h =>
    rw [ht.strategy] at h
    cases h
  | confidence h => exact h _ ht.confidence ⟨ht.low, ht.high⟩

theorem Describes.not_foreign {t : Template S} (h : d.Describes t) : ¬ d.Foreign :=
  fun hforeign => (hforeign.of_read h.pattern).2.2.2.1 _ h.confidence

theorem checked_of_unreadable {f : Pattern.Fault} (h : Pattern.read d.source.toList = .error f) :
    d.Checked d.check := by
  unfold check
  rw [h]
  refine .flawed _ (.pattern f h) ?_
  by_cases hf : f.isBeyond = true
  · rw [if_pos hf]
    exact iff_of_true rfl (.pattern f h hf)
  · rw [if_neg hf]
    refine iff_of_false Bool.false_ne_true fun hforeign => ?_
    cases hforeign with
    | pattern f' h' hf' =>
      rw [h] at h'
      cases h'
      exact hf hf'
    | confidence _ _ _ hp =>
      rw [h] at hp
      cases hp

theorem checkConfidence_cases (d : Declaration S) :
    (∃ n, d.checkConfidence = .ok n ∧ d.confidence = .num n ∧
      Number.le 0 n = true ∧ Number.le n 1 = true) ∨
    ∃ e, d.checkConfidence = .error e ∧
      (∀ n, d.confidence = .num n → ¬ (Number.le 0 n = true ∧ Number.le n 1 = true)) ∧
      (e.isForeign = true ↔ (∀ n, d.confidence ≠ .num n) ∧ ∀ b, d.confidence ≠ .bool b) := by
  unfold checkConfidence
  cases hc : d.confidence with
  | num n =>
    dsimp only
    by_cases hn : (Number.le 0 n && Number.le n 1) = true
    · rw [if_pos hn]
      exact .inl ⟨n, rfl, rfl, Bool.and_eq_true_iff.1 hn⟩
    · rw [if_neg hn]
      refine .inr ⟨_, rfl, ?_, iff_of_false Bool.false_ne_true fun h => h.1 n rfl⟩
      intro m hm
      cases hm
      exact fun h => hn (Bool.and_eq_true_iff.2 h)
  | bool b => exact .inr ⟨_, rfl, nofun, iff_of_false Bool.false_ne_true fun h => h.2 b rfl⟩
  | null => exact .inr ⟨_, rfl, nofun, iff_of_true rfl ⟨nofun, nofun⟩⟩
  | str s => exact .inr ⟨_, rfl, nofun, iff_of_true rfl ⟨nofun, nofun⟩⟩
  | arr items => exact .inr ⟨_, rfl, nofun, iff_of_true rfl ⟨nofun, nofun⟩⟩
  | obj fields => exact .inr ⟨_, rfl, nofun, iff_of_true rfl ⟨nofun, nofun⟩⟩

theorem checked (d : Declaration S) : d.Checked d.check := by
  cases hp : Pattern.read d.source.toList with
  | error f => exact checked_of_unreadable hp
  | ok p =>
    unfold check
    rw [hp]
    dsimp only
    by_cases hname : d.name = ""
    · rw [if_pos hname]
      exact .flawed _ (.name hname)
        (iff_of_false Bool.false_ne_true fun h => (h.of_read hp).1 hname)
    rw [if_neg hname]
    cases hcategory : d.category with
    | error v =>
      refine .flawed _ (.category v hcategory) (iff_of_false Bool.false_ne_true fun h => ?_)
      obtain ⟨-, ⟨k, hk⟩, -⟩ := h.of_read hp
      rw [hcategory] at hk
      cases hk
    | ok k =>
      cases hstrategy : d.strategy with
      | error v =>
        refine .flawed _ (.strategy v hstrategy) (iff_of_false Bool.false_ne_true fun h => ?_)
        obtain ⟨-, -, ⟨s, hs⟩, -⟩ := h.of_read hp
        rw [hstrategy] at hs
        cases hs
      | ok s =>
        dsimp only
        rcases d.checkConfidence_cases with ⟨n, hn, hnum, hlow, hhigh⟩ | ⟨e, he, hout, hforeign⟩
        · rw [hn]
          exact .sound _ ⟨rfl, hname, hcategory, rfl, hp, hstrategy, hnum, hlow, hhigh, rfl⟩
        · rw [he]
          refine .flawed _ (.confidence hout) (hforeign.trans ⟨fun h => ?_, fun h => ?_⟩)
          · exact .confidence p k s hp hname hcategory hstrategy h.1 h.2
          · exact (h.of_read hp).2.2.2

end Declaration

end Mend
