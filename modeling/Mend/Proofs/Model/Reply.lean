import Mend.Model.Proposal
import Mend.Proofs.Number.Binary64

namespace Mend

namespace Reply

def decoded (raw : String) : Except Json.ReadError Json := Json.read (.ofList (unwrap raw.toList))

/-- The reply asks more of the reader than it can do, or its confidence is a whole number that has
no double. -/
inductive Escapes (raw : String) : Prop
  | tooDeep (inArray : Bool) (h : decoded raw = .error (.tooDeep inArray))
  | tooManyDigits (digits : Nat) (h : decoded raw = .error (.tooManyDigits digits))
  | confidence (v : Json) (p : Payload) (n : Int) (hv : decoded raw = .ok v)
      (hp : Payload.ofJson v = .ok p) (hn : value p.fields "confidence" = .num (.int n))
      (hbeyond : 2 ^ 1024 ≤ n.natAbs + 2 ^ 970)

variable {raw : String}

theorem Escapes.of_decoded {v : Json} (h : Escapes raw) (hv : decoded raw = .ok v) :
    ∃ p, Payload.ofJson v = .ok p ∧ ∃ n : Int, value p.fields "confidence" = .num (.int n) ∧
      2 ^ 1024 ≤ n.natAbs + 2 ^ 970 := by
  cases h with
  | tooDeep _ h =>
    rw [h] at hv
    cases hv
  | tooManyDigits _ h =>
    rw [h] at hv
    cases hv
  | confidence u p n hu hp hn hbeyond =>
    rw [hu] at hv
    cases hv
    exact ⟨p, hp, n, hn, hbeyond⟩

theorem not_escapes_of_malformed {p : Json.Problem} {line column offset : Nat}
    (h : decoded raw = .error (.malformed p line column offset)) : ¬ Escapes raw := by
  intro hescapes
  cases hescapes with
  | tooDeep _ h' =>
    rw [h] at h'
    cases h'
  | tooManyDigits _ h' =>
    rw [h] at h'
    cases h'
  | confidence _ _ _ h' =>
    rw [h] at h'
    cases h'

theorem payload_of_ok {v : Json} (h : decoded raw = .ok v) :
    payload raw = .ok (Payload.ofJson v) := by
  rw [decoded] at h
  unfold payload
  rw [h]

theorem payload_of_malformed {p : Json.Problem} {line column offset : Nat}
    (h : decoded raw = .error (.malformed p line column offset)) :
    payload raw = .ok (.error (.malformed (.malformed p line column offset))) := by
  rw [decoded] at h
  unfold payload
  rw [h]

theorem payload_of_tooDeep {inArray : Bool} (h : decoded raw = .error (.tooDeep inArray)) :
    payload raw = .error (.unreadable (.tooDeep inArray)) := by
  rw [decoded] at h
  unfold payload
  rw [h]

theorem payload_of_tooManyDigits {digits : Nat}
    (h : decoded raw = .error (.tooManyDigits digits)) :
    payload raw = .error (.unreadable (.tooManyDigits digits)) := by
  rw [decoded] at h
  unfold payload
  rw [h]

theorem clamp_of_toReal? {n : Number} {x : Binary64} (h : n.toReal? = some x)
    (default : Number) : ∃ y, clamp (.num n) default = .ok y := by
  unfold clamp
  dsimp only
  split
  · exact ⟨_, rfl⟩
  · rw [h]
    dsimp only
    split
    · exact ⟨_, rfl⟩
    · split
      · exact ⟨_, rfl⟩
      · exact ⟨_, rfl⟩

theorem clamp_of_beyond {n : Int} (h : 2 ^ 1024 ≤ n.natAbs + 2 ^ 970) (default : Number) :
    clamp (.num (.int n)) default = .error .outOfRange := by
  have hreal : (Number.int n).toReal? = none := (Binary64.ofInt?_eq_none_iff n).2 h
  have hnan : ¬ (Number.int n).isNan = true := Bool.false_ne_true
  unfold clamp
  dsimp only
  rw [if_neg hnan, hreal]

theorem clamp_cases (v : Json) (default : Number) :
    (∃ n : Int, v = .num (.int n) ∧ 2 ^ 1024 ≤ n.natAbs + 2 ^ 970) ∨
      ∃ y, clamp v default = .ok y := by
  cases v with
  | num n =>
    cases hreal : n.toReal? with
    | some x => exact .inr (clamp_of_toReal? hreal default)
    | none =>
      cases n with
      | int n => exact .inl ⟨n, rfl, (Binary64.ofInt?_eq_none_iff n).1 hreal⟩
      | real x => cases hreal
  | null => exact .inr ⟨_, rfl⟩
  | bool b => exact .inr ⟨_, rfl⟩
  | str s => exact .inr ⟨_, rfl⟩
  | arr items => exact .inr ⟨_, rfl⟩
  | obj fields => exact .inr ⟨_, rfl⟩

theorem splitFirst?_ones {c : Char} (hc : c ≠ '1') (needle : List Char) (n : Nat) :
    Text.splitFirst? (c :: needle) (List.replicate n '1') = none := by
  induction n with
  | zero => rfl
  | succ n ih =>
    have hprefix : (c :: needle).isPrefixOf ('1' :: List.replicate n '1') = false := by
      simp [List.isPrefixOf, hc]
    rw [List.replicate_succ, Text.splitFirst?, hprefix, ih]
    rfl

theorem trim_ones (n : Nat) : Text.trim (List.replicate n '1') = List.replicate n '1' := by
  have hright : ∀ m, Text.trimRight (List.replicate m '1') = List.replicate m '1' := by
    intro m
    induction m with
    | zero => rfl
    | succ m ih =>
      rw [List.replicate_succ, Text.trimRight, Text.dropRight]
      rw [Text.trimRight] at ih
      rw [ih]
      cases m with
      | zero => rfl
      | succ m => rfl
  cases n with
  | zero => rfl
  | succ n => exact hright (n + 1)

theorem unwrap_ones (n : Nat) : unwrap (List.replicate n '1') = List.replicate n '1' := by
  have hjson : inside? jsonFence (List.replicate n '1') = none := by
    rw [inside?, show jsonFence = '\x60' :: jsonFence.tail from rfl,
      splitFirst?_ones (by decide)]
    rfl
  have hfence : inside? fence (List.replicate n '1') = none := by
    rw [inside?, show fence = '\x60' :: fence.tail from rfl, splitFirst?_ones (by decide)]
    rfl
  rw [unwrap, hjson, hfence, trim_ones]
  rfl

theorem number_ones {n : Nat} (h : Json.maxDigits < n + 1) :
    Json.number ('1' :: List.replicate n '1') = .error (.tooManyDigits (n + 1)) := by
  have hdigits : Json.digits ('1' :: List.replicate n '1') = ('1' :: List.replicate n '1', []) := by
    rw [← List.replicate_succ, Json.digits]
    simp
  have hafter : Json.numberAfter false ('1' :: List.replicate n '1') [] =
      .error (.tooManyDigits (n + 1)) := by
    simp [Json.numberAfter, Json.fraction, Json.exponent?, h]
  simp [Json.number, hdigits, hafter]

theorem document_ones {n : Nat} (h : Json.maxDigits < n + 1) :
    Json.document ('1' :: List.replicate n '1') = .error (.tooManyDigits (n + 1)) := by
  have hvalue (size : Nat) :
      Json.value size Json.maxDepth (Json.skipSpace ('1' :: List.replicate n '1')) =
        Json.number ('1' :: List.replicate n '1') := rfl
  unfold Json.document
  split
  · rename_i heq
    exact absurd (List.cons.inj heq).1 (by decide)
  · rw [hvalue, number_ones h]
    rfl

theorem escapes_ones {n : Nat} (h : Json.maxDigits < n) :
    Escapes (.ofList (List.replicate n '1')) := by
  cases n with
  | zero => cases h
  | succ n =>
    apply Escapes.tooManyDigits (n + 1)
    rw [decoded, String.toList_ofList, unwrap_ones, Json.read, String.toList_ofList,
      List.replicate_succ, document_ones h]
    rfl

end Reply

namespace Proposal

variable {now : String} {d : Diagnostic} {c : Completion}

inductive Reading (c : Completion) : Except Reply.Fault Proposal → Prop
  | escaped (f : Reply.Fault) (h : Reply.Escapes c.content) : Reading c (.error f)
  | unusable (reason : String) (h : ¬ Reply.Escapes c.content) :
    Reading c (.ok (.failed reason (some c.content)))
  | usable (p : Reply.Payload) (confidence : Number) (edits : List Edit) (warnings : List String)
      (provenance : Provenance) (h : ¬ Reply.Escapes c.content) :
    Reading c (.ok (.repaired p.fix p.explanation confidence edits warnings provenance))

theorem Reading.escapes_or {outcome : Except Reply.Fault Proposal} (h : Reading c outcome) :
    (Reply.Escapes c.content ∧ ∃ f, outcome = .error f) ∨
      (¬ Reply.Escapes c.content ∧ ∃ p, outcome = .ok p) := by
  cases h with
  | escaped f h => exact .inl ⟨h, f, rfl⟩
  | unusable reason h => exact .inr ⟨h, _, rfl⟩
  | usable p confidence edits warnings provenance h => exact .inr ⟨h, _, rfl⟩

theorem reading_ofPayload {v : Json} {p : Reply.Payload} (hv : Reply.decoded c.content = .ok v)
    (hp : Reply.Payload.ofJson v = .ok p) : Reading c (ofPayload now d c p) := by
  unfold ofPayload
  cases Reply.clamp_cases (Reply.value p.fields "confidence") Reply.defaultConfidence with
  | inl h =>
    obtain ⟨n, hn, hbeyond⟩ := h
    rw [hn, Reply.clamp_of_beyond hbeyond]
    exact .escaped _ (.confidence v p n hv hp hn hbeyond)
  | inr h =>
    obtain ⟨y, hy⟩ := h
    rw [hy]
    apply Reading.usable
    intro hescapes
    obtain ⟨q, hq, n, hn, hbeyond⟩ := hescapes.of_decoded hv
    rw [hp] at hq
    cases hq
    rw [hn, Reply.clamp_of_beyond hbeyond] at hy
    cases hy

theorem reading_ofCompletion (now : String) (d : Diagnostic) (c : Completion) :
    Reading c (ofCompletion now d c) := by
  unfold ofCompletion
  cases hdecoded : Reply.decoded c.content with
  | error e =>
    cases e with
    | malformed p line column offset =>
      rw [Reply.payload_of_malformed hdecoded]
      exact .unusable _ (Reply.not_escapes_of_malformed hdecoded)
    | tooDeep inArray =>
      rw [Reply.payload_of_tooDeep hdecoded]
      exact .escaped _ (.tooDeep _ hdecoded)
    | tooManyDigits digits =>
      rw [Reply.payload_of_tooManyDigits hdecoded]
      exact .escaped _ (.tooManyDigits _ hdecoded)
  | ok v =>
    rw [Reply.payload_of_ok hdecoded]
    cases hp : Reply.Payload.ofJson v with
    | error problem =>
      apply Reading.unusable
      intro hescapes
      obtain ⟨q, hq, -⟩ := hescapes.of_decoded hdecoded
      rw [hp] at hq
      cases hq
    | ok p => exact reading_ofPayload hdecoded hp

end Proposal

end Mend
