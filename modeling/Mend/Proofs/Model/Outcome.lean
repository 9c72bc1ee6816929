import Mend.Proofs.Model.Reply
import Mend.Proofs.Number.Order

namespace Mend

namespace Reply

/-- The fields name a repair and its explanation, texts that are not empty. -/
structure Usable (fs : Json.Fields) (fix explanation : String) : Prop where
  getFix : Json.Fields.get? fs "fix" = some (.str fix)
  fixFilled : fix ≠ ""
  getExplanation : Json.Fields.get? fs "explanation" = some (.str explanation)
  explanationFilled : explanation ≠ ""

variable {fs : Json.Fields} {fix explanation : String} {v : Json} {p : Payload}

theorem Usable.unique {fix' explanation' : String} (h : Usable fs fix explanation)
    (h' : Usable fs fix' explanation') : fix = fix' ∧ explanation = explanation' := by
  have hfix := h.getFix.symm.trans h'.getFix
  have hexplanation := h.getExplanation.symm.trans h'.getExplanation
  cases hfix
  cases hexplanation
  exact ⟨rfl, rfl⟩

theorem value_eq_iff {name : String} (hv : v ≠ .null) :
    value fs name = v ↔ Json.Fields.get? fs name = some v := by
  rw [value]
  cases Json.Fields.get? fs name with
  | none => exact iff_of_false hv.symm nofun
  | some w => exact ⟨congrArg some, Option.some.inj⟩

theorem ofJson_of_usable (h : Usable fs fix explanation) :
    Payload.ofJson (.obj fs) = .ok ⟨fix, explanation, fs⟩ := by
  have hfix : value fs "fix" = .str fix := (value_eq_iff (v := .str fix) nofun).2 h.getFix
  have hexplanation : value fs "explanation" = .str explanation :=
    (value_eq_iff (v := .str explanation) nofun).2 h.getExplanation
  simp [Payload.ofJson, hfix, hexplanation, Json.isFilled, h.fixFilled, h.explanationFilled]

theorem usable_of_ofJson (h : Payload.ofJson v = .ok p) :
    v = .obj p.fields ∧ Usable p.fields p.fix p.explanation := by
  unfold Payload.ofJson at h
  split at h
  · rename_i fs
    split at h
    · cases h
    · rename_i hfilled
      split at h
      · rename_i fix explanation hfix hexplanation
        cases h
        rw [hfix, hexplanation] at hfilled
        simp only [Json.isFilled, Bool.or_eq_true, Bool.not_eq_true', bne_eq_false_iff_eq,
          not_or] at hfilled
        exact ⟨rfl, (value_eq_iff (v := .str fix) nofun).1 hfix, hfilled.1,
          (value_eq_iff (v := .str explanation) nofun).1 hexplanation, hfilled.2⟩
      · cases h
  · cases h

/-- The confidence for a value that may be missing: a number is kept from zero to one and moved to
the nearer end from outside; for anything else there is a default. -/
structure Clamped (v : Option Json) (x : Number) : Prop where
  low : Number.le 0 x = true
  high : Number.le x 1 = true
  within : ∀ n, v = some (.num n) → Number.le 0 n = true → Number.le n 1 = true →
    x.place? = n.place?
  below : ∀ n, v = some (.num n) → Number.lt n 0 = true → x = .real .zero
  above : ∀ n, v = some (.num n) → Number.lt 1 n = true → x = .real .one
  other : (∀ n, v = some (.num n) → n.isNan = true) → x = defaultConfidence

theorem clamp_num {n x default : Number} (h : clamp (.num n) default = .ok x) :
    (n.isNan = true ∧ x = default) ∨
    (Number.Placed n ∧ Number.le n 0 = true ∧ x = .real .zero) ∨
    (Number.Placed n ∧ ¬ Number.le n 0 = true ∧ Number.le 1 n = true ∧ x = .real .one) ∨
    (Number.Placed n ∧ ¬ Number.le n 0 = true ∧ ¬ Number.le 1 n = true ∧
      ∃ y, n.toReal? = some y ∧ x = .real y) := by
  unfold clamp at h
  dsimp only at h
  by_cases hnan : n.isNan = true
  · rw [if_pos hnan] at h
    cases h
    exact .inl ⟨hnan, rfl⟩
  have hplaced : Number.Placed n := Number.placed_iff_not_isNan.2 (Bool.eq_false_iff.2 hnan)
  rw [if_neg hnan] at h
  cases hreal : n.toReal? with
  | none =>
    rw [hreal] at h
    cases h
  | some y =>
    rw [hreal] at h
    dsimp only at h
    by_cases hlow : Number.le n 0 = true
    · rw [if_pos hlow] at h
      cases h
      exact .inr (.inl ⟨hplaced, hlow, rfl⟩)
    rw [if_neg hlow] at h
    by_cases hhigh : Number.le 1 n = true
    · rw [if_pos hhigh] at h
      cases h
      exact .inr (.inr (.inl ⟨hplaced, hlow, hhigh, rfl⟩))
    rw [if_neg hhigh] at h
    cases h
    exact .inr (.inr (.inr ⟨hplaced, hlow, hhigh, y, rfl, rfl⟩))

theorem eq_of_toReal?_of_between {n : Number} {y : Binary64} (hlow : ¬ Number.le n 0 = true)
    (hhigh : ¬ Number.le 1 n = true) (hreal : n.toReal? = some y) : n = .real y := by
  cases n with
  | real x => exact congrArg Number.real (Option.some.inj hreal)
  | int m =>
    have h0 : ¬ m ≤ 0 := fun h => hlow (Number.le_int_iff.2 h)
    have h1 : ¬ 1 ≤ m := fun h => hhigh (Number.le_int_iff.2 h)
    omega

theorem clamped_default {v : Option Json} (h : ∀ n, v = some (.num n) → n.isNan = true) :
    Clamped v defaultConfidence := by
  have hplace : ∀ n, v = some (.num n) → ¬ Number.Placed n := by
    intro n hn hplaced
    rw [Number.placed_iff_not_isNan, h n hn] at hplaced
    cases hplaced
  exact {
    low := by decide +kernel
    high := by decide +kernel
    within := fun n hn hlow _ => absurd (Number.placed_of_le_right hlow) (hplace n hn)
    below := fun n hn hlt => absurd (Number.placed_of_lt_left hlt) (hplace n hn)
    above := fun n hn hlt => absurd (Number.placed_of_le_right (Number.le_of_lt hlt)) (hplace n hn)
    other := fun _ => rfl }

theorem Clamped.of_num {n x : Number} (hplaced : Number.Placed n) (hlow : Number.le 0 x = true)
    (hhigh : Number.le x 1 = true)
    (hwithin : Number.le 0 n = true → Number.le n 1 = true → x.place? = n.place?)
    (hbelow : Number.lt n 0 = true → x = .real .zero)
    (habove : Number.lt 1 n = true → x = .real .one) : Clamped (some (.num n)) x where
  low := hlow
  high := hhigh
  within := by
    rintro m ⟨⟩
    exact hwithin
  below := by
    rintro m ⟨⟩
    exact hbelow
  above := by
    rintro m ⟨⟩
    exact habove
  other := by
    intro h
    rw [Number.placed_iff_not_isNan, h n rfl] at hplaced
    cases hplaced

theorem clamped_num {n x : Number} (h : clamp (.num n) defaultConfidence = .ok x) :
    Clamped (some (.num n)) x := by
  have hzero : Number.place? 0 = Number.place? (.real .zero) := by decide +kernel
  have hone : Number.place? 1 = Number.place? (.real .one) := by decide +kernel
  have hends : ¬ Number.le 1 0 = true := by decide +kernel
  rcases clamp_num h with ⟨hnan, rfl⟩ | ⟨hplaced, hlow, rfl⟩ | ⟨hplaced, hlow, hhigh, rfl⟩ |
    ⟨hplaced, hlow, hhigh, y, hy, rfl⟩
  · apply clamped_default
    rintro m ⟨⟩
    exact hnan
  · refine .of_num hplaced (by decide +kernel) (by decide +kernel) (fun hn _ => ?_) (fun _ => rfl)
      fun hn => absurd (Number.le_trans (Number.le_of_lt hn) hlow) hends
    rw [← hzero]
    exact Number.place?_eq_of_le_of_le hn hlow
  · refine .of_num hplaced (by decide +kernel) (by decide +kernel) (fun _ hn => ?_)
      (fun hn => absurd (Number.le_of_lt hn) hlow) fun _ => rfl
    rw [← hone]
    exact Number.place?_eq_of_le_of_le hhigh hn
  · rw [← eq_of_toReal?_of_between hlow hhigh hy]
    refine .of_num hplaced (Number.le_of_not_le hplaced ⟨_, rfl⟩ hlow)
      (Number.le_of_not_le ⟨_, rfl⟩ hplaced hhigh) (fun _ _ => rfl)
      (fun hn => absurd (Number.le_of_lt hn) hlow) fun hn => absurd (Number.le_of_lt hn) hhigh

theorem clamped_of_clamp {v : Option Json} {x : Number}
    (h : clamp (v.getD .null) defaultConfidence = .ok x) : Clamped v x := by
  have hother (hv : ∀ n, v ≠ some (.num n)) : Clamped v defaultConfidence :=
    clamped_default fun n hn => absurd hn (hv n)
  cases v with
  | none =>
    cases h
    exact hother nofun
  | some w =>
    cases w with
    | num n => exact clamped_num h
    | null =>
      cases h
      exact hother nofun
    | bool b =>
      cases h
      exact hother nofun
    | str s =>
      cases h
      exact hother nofun
    | arr items =>
      cases h
      exact hother nofun
    | obj fields =>
      cases h
      exact hother nofun

end Reply

def Json.isObject : Json → Bool
  | .obj _ => true
  | _ => false

theorem Reply.edits_arr (items : List Json) :
    ∃ objects : List Json.Fields, items.filter Json.isObject = objects.map Json.obj ∧
      Reply.edits (.arr items) = objects.map Edit.ofFields := by
  induction items with
  | nil => exact ⟨[], rfl, rfl⟩
  | cons v items ih =>
    obtain ⟨objects, hobjects, hedits⟩ := ih
    cases v with
    | obj fs =>
      refine ⟨fs :: objects, ?_, ?_⟩
      · rw [List.filter_cons_of_pos rfl, hobjects, List.map_cons]
      · rw [List.map_cons, ← hedits]
        rfl
    | null => exact ⟨objects, hobjects, hedits⟩
    | bool b => exact ⟨objects, hobjects, hedits⟩
    | num n => exact ⟨objects, hobjects, hedits⟩
    | str s => exact ⟨objects, hobjects, hedits⟩
    | arr items => exact ⟨objects, hobjects, hedits⟩

theorem Reply.edits_of_not_arr {v : Option Json} (h : ∀ items, v ≠ some (.arr items)) :
    Reply.edits (v.getD .null) = [] := by
  cases v with
  | none => rfl
  | some w =>
    cases w with
    | arr items => exact absurd rfl (h items)
    | null => rfl
    | bool b => rfl
    | num n => rfl
    | str s => rfl
    | obj fields => rfl

theorem Reply.warnings_eq_nil {v : Option Json} (h : ∀ items, v ≠ some (.arr items))
    (hempty : ∀ s, v = some (.str s) → s = "") : Reply.warnings (v.getD .null) = [] := by
  cases v with
  | none => rfl
  | some w =>
    cases w with
    | arr items => exact absurd rfl (h items)
    | str s => exact if_pos (hempty s rfl)
    | null => rfl
    | bool b => rfl
    | num n => rfl
    | obj fields => rfl

namespace Proposal

variable {now : String} {d : Diagnostic} {c : Completion} {p : Proposal} {fs : Json.Fields}
  {fix explanation : String}

/-- The proposal says what the fields of a usable reply say. -/
structure Faithful (fs : Json.Fields) (fix explanation : String) (p : Proposal) : Prop where
  fix : p.fix? = some fix
  explanation : p.explanation? = some explanation
  confidence : Reply.Clamped (Json.Fields.get? fs "confidence") p.confidence
  edits : ∀ items, Json.Fields.get? fs "changes" = some (.arr items) →
    ∃ objects : List Json.Fields, items.filter Json.isObject = objects.map Json.obj ∧
      p.edits = objects.map Edit.ofFields
  noEdits : (∀ items, Json.Fields.get? fs "changes" ≠ some (.arr items)) → p.edits = []
  warnings : ∀ items, Json.Fields.get? fs "warnings" = some (.arr items) →
    p.warnings = (items.filter Json.isFilled).map Json.text
  warning : ∀ s, Json.Fields.get? fs "warnings" = some (.str s) → s ≠ "" → p.warnings = [s]
  noWarnings : (∀ items, Json.Fields.get? fs "warnings" ≠ some (.arr items)) →
    (∀ s, Json.Fields.get? fs "warnings" = some (.str s) → s = "") → p.warnings = []
  complexity : ∃ source, p.provenance? = some source ∧ source.complexity = Complexity.assess p.edits
  reason : p.reason? = none
  reply : p.reply? = none

/-- The proposal keeps the reply and says that it could not be used, and nothing else. -/
structure Rejected (raw : String) (p : Proposal) : Prop where
  fix : p.fix? = none
  explanation : p.explanation? = none
  confidence : p.confidence = .real .zero
  edits : p.edits = []
  warnings : p.warnings = []
  provenance : p.provenance? = none
  reason : ∃ text, p.reason? = some ("Failed to parse AI response: " ++ text)
  reply : p.reply? = some raw

theorem rejected_failed (raw text : String) :
    Rejected raw (.failed ("Failed to parse AI response: " ++ text) (some raw)) :=
  ⟨rfl, rfl, rfl, rfl, rfl, rfl, ⟨text, rfl⟩, rfl⟩

theorem faithful_ofPayload (h : ofPayload now d c ⟨fix, explanation, fs⟩ = .ok p) :
    Faithful fs fix explanation p ∧ p.isRepair = true := by
  unfold ofPayload at h
  cases hclamp : Reply.clamp (Reply.value fs "confidence") Reply.defaultConfidence with
  | error f =>
    rw [hclamp] at h
    cases h
  | ok confidence =>
    rw [hclamp] at h
    cases h
    exact ⟨{
      fix := rfl
      explanation := rfl
      confidence := Reply.clamped_of_clamp hclamp
      edits := by
        intro items hitems
        have hvalue : Reply.value fs "changes" = .arr items := by rw [Reply.value, hitems]; rfl
        rw [edits, hvalue]
        exact Reply.edits_arr items
      noEdits := by
        intro hnone
        rw [edits, Reply.value]
        exact Reply.edits_of_not_arr hnone
      warnings := by
        intro items hitems
        rw [warnings, Reply.value, hitems]
        rfl
      warning := by
        intro s hs hfilled
        rw [warnings, Reply.value, hs]
        exact if_neg hfilled
      noWarnings := by
        intro hnone hempty
        rw [warnings, Reply.value]
        exact Reply.warnings_eq_nil hnone hempty
      complexity := ⟨_, rfl, rfl⟩
      reason := rfl
      reply := rfl }, rfl⟩

theorem ofCompletion_cases (h : ofCompletion now d c = .ok p) :
    (∃ fs fix explanation, Reply.decoded c.content = .ok (.obj fs) ∧
      Reply.Usable fs fix explanation ∧ Faithful fs fix explanation p ∧ p.isRepair = true) ∨
    ((∀ fs fix explanation, Reply.decoded c.content = .ok (.obj fs) →
      ¬ Reply.Usable fs fix explanation) ∧ Rejected c.content p ∧ p.isRepair = false) := by
  unfold ofCompletion at h
  cases hdecoded : Reply.decoded c.content with
  | error e =>
    cases e with
    | malformed problem line column offset =>
      rw [Reply.payload_of_malformed hdecoded] at h
      cases h
      exact .inr ⟨nofun, rejected_failed _ _, rfl⟩
    | tooDeep inArray =>
      rw [Reply.payload_of_tooDeep hdecoded] at h
      cases h
    | tooManyDigits digits =>
      rw [Reply.payload_of_tooManyDigits hdecoded] at h
      cases h
  | ok v =>
    rw [Reply.payload_of_ok hdecoded] at h
    cases hpayload : Reply.Payload.ofJson v with
    | error problem =>
      rw [hpayload] at h
      cases h
      refine .inr ⟨fun fs fix explanation hv husable => ?_, rejected_failed _ _, rfl⟩
      cases hv
      rw [Reply.ofJson_of_usable husable] at hpayload
      cases hpayload
    | ok payload =>
      rw [hpayload] at h
      obtain ⟨rfl, husable⟩ := Reply.usable_of_ofJson hpayload
      exact .inl ⟨_, _, _, rfl, husable, faithful_ofPayload h⟩

theorem faithful_of_usable (h : ofCompletion now d c = .ok p)
    (hdecoded : Reply.decoded c.content = .ok (.obj fs))
    (husable : Reply.Usable fs fix explanation) :
    Faithful fs fix explanation p ∧ p.isRepair = true := by
  rcases ofCompletion_cases h with ⟨fs', fix', explanation', hdecoded', husable', hfaithful⟩ |
    ⟨hunusable, -⟩
  · rw [hdecoded] at hdecoded'
    cases hdecoded'
    obtain ⟨rfl, rfl⟩ := husable.unique husable'
    exact hfaithful
  · exact absurd husable (hunusable fs fix explanation hdecoded)

/-- A completion that comes to a proposal comes to a repair exactly if its text can be used; the
repair says what the text says, and otherwise the text is kept. -/
theorem ofCompletion_outcome (h : ofCompletion now d c = .ok p) :
    (p.isRepair = true ↔ ∃ fs fix explanation, Reply.decoded c.content = .ok (.obj fs) ∧
      Reply.Usable fs fix explanation) ∧
    (∀ fs fix explanation, Reply.decoded c.content = .ok (.obj fs) →
      Reply.Usable fs fix explanation → Faithful fs fix explanation p) ∧
    (p.isRepair = false → Rejected c.content p) := by
  refine ⟨⟨fun hrepair => ?_, ?_⟩, ?_, fun hfalse => ?_⟩
  · rcases ofCompletion_cases h with ⟨fs, fix, explanation, hdecoded, husable, -⟩ | ⟨-, -, hfalse⟩
    · exact ⟨fs, fix, explanation, hdecoded, husable⟩
    · rw [hrepair] at hfalse
      cases hfalse
  · rintro ⟨fs, fix, explanation, hdecoded, husable⟩
    exact (faithful_of_usable h hdecoded husable).2
  · exact fun fs fix explanation hdecoded husable => (faithful_of_usable h hdecoded husable).1
  · rcases ofCompletion_cases h with ⟨_, _, _, _, _, _, hrepair⟩ | ⟨-, hrejected, -⟩
    · rw [hrepair] at hfalse
      cases hfalse
    · exact hrejected

theorem ofCompletion_outcome_fenced :
    let d : Diagnostic := ⟨.known .style, some "bad quotes", "a.js", 1, .low, 1, ""⟩
    let c : Completion := ⟨"Here:\n```json\n\x7b\"fix\": \"x\", \"explanation\": \"y\", " ++
      "\"confidence\": 3, \"changes\": [\x7b\"type\": \"insert\", \"line\": 1\x7d, 5], " ++
      "\"warnings\": [\"w\", \"\", 0, true]\x7d\n```", "m", 0, 0, .real .zero, ""⟩
    let es : List Edit := [{ kind := .insert, line := some 1 }]
    let p : Proposal := .repaired "x" "y" (.real .one) es ["w", "True"] (provenance "now" d c es)
    ofCompletion "now" d c = .ok p ∧ ∃ fs fix explanation,
      Reply.decoded c.content = .ok (.obj fs) ∧ Reply.Usable fs fix explanation ∧
        Faithful fs fix explanation p := by
  intro d c es p
  have hp : ofCompletion "now" d c = .ok p := by decide +kernel
  obtain ⟨hrepair, hfaithful, -⟩ := ofCompletion_outcome hp
  obtain ⟨fs, fix, explanation, hdecoded, husable⟩ := hrepair.1 rfl
  exact ⟨hp, fs, fix, explanation, hdecoded, husable, hfaithful _ _ _ hdecoded husable⟩

end Proposal

end Mend
