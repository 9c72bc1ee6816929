import Mend.Proofs.Json.Quotes
import Mend.Proofs.Model.Outcome

namespace Mend

namespace Reply

variable {cs q a r : List Char} {fs : Json.Fields} {fix explanation : String} {raw : String}

theorem exists_before (mark cs : List Char) : ∃ t, cs = before mark cs ++ t := by
  unfold before
  cases hsplit : Text.splitFirst? mark cs with
  | none => exact ⟨[], (List.append_nil cs).symm⟩
  | some p => exact ⟨_, Text.eq_of_splitFirst? hsplit⟩

theorem eq_of_inside? {mark : List Char} (h : inside? mark cs = some q) :
    ∃ a s t, cs = a ++ (mark ++ (s ++ (q ++ t))) ∧ ∀ c ∈ s, Text.isBlank c = true := by
  obtain ⟨⟨a, b⟩, hsplit, rfl⟩ := Option.map_eq_some_iff.1 h
  obtain ⟨t, ht⟩ := exists_before fence b
  obtain ⟨s, t', htrim, hs, -⟩ := Text.eq_trim_append (before fence b)
  refine ⟨a, s, t' ++ t, ?_, hs⟩
  have hb : b = s ++ (Text.trim (before fence b) ++ (t' ++ t)) := by
    calc b = before fence b ++ t := ht
      _ = s ++ (Text.trim (before fence b) ++ t') ++ t := congrArg (· ++ t) htrim
      _ = s ++ (Text.trim (before fence b) ++ (t' ++ t)) := by simp only [List.append_assoc]
  rw [Text.eq_of_splitFirst? hsplit, ← hb]

theorem inside?_eq_none_iff {mark : List Char} :
    inside? mark cs = none ↔ Text.occurs mark cs = false := by
  rw [inside?, Option.map_eq_none_iff, Text.splitFirst?_eq_none_iff]

theorem not_occurs_jsonFence (h : Text.occurs fence cs = false) :
    Text.occurs jsonFence cs = false := by
  rw [Bool.eq_false_iff] at h ⊢
  intro hjson
  obtain ⟨a, b, rfl⟩ := (Text.occurs_iff _ _).1 hjson
  refine h ((Text.occurs_iff _ _).2 ⟨a, "json".toList ++ b, ?_⟩)
  rw [show jsonFence = fence ++ "json".toList from rfl]
  simp only [List.append_assoc]

theorem unwrap_of_unfenced (h : Text.occurs fence cs = false) : unwrap cs = Text.trim cs := by
  rw [unwrap, inside?_eq_none_iff.2 h, inside?_eq_none_iff.2 (not_occurs_jsonFence h)]
  rfl

theorem unwrap_of_fenced (h : Text.occurs fence cs = true) :
    ∃ mark a s t, (mark = jsonFence ∨ mark = fence) ∧
      cs = a ++ (mark ++ (s ++ (unwrap cs ++ t))) ∧ ∀ c ∈ s, Text.isBlank c = true := by
  cases hjson : inside? jsonFence cs with
  | some q =>
    obtain ⟨a, s, t, hcs, hs⟩ := eq_of_inside? hjson
    have hunwrap : unwrap cs = q := by
      rw [unwrap, hjson]
      rfl
    exact ⟨jsonFence, a, s, t, .inl rfl, by rwa [hunwrap], hs⟩
  | none =>
    cases hfence : inside? fence cs with
    | some q =>
      obtain ⟨a, s, t, hcs, hs⟩ := eq_of_inside? hfence
      have hunwrap : unwrap cs = q := by
        rw [unwrap, hjson, hfence]
        rfl
      exact ⟨fence, a, s, t, .inr rfl, by rwa [hunwrap], hs⟩
    | none =>
      rw [inside?_eq_none_iff.1 hfence] at h
      cases h

theorem isBlank_of_isSpace {c : Char} (h : Json.isSpace c = true) : Text.isBlank c = true := by
  simp only [Json.isSpace, Bool.or_eq_true, beq_iff_eq] at h
  rcases h with ((rfl | rfl) | rfl) | rfl
  all_goals rfl

theorem document_trim (h : Json.document cs = .ok (.obj fs)) :
    Json.document (Text.trim cs) = .ok (.obj fs) := by
  obtain ⟨s, w, s', rfl, hs, hv, hs'⟩ := Json.document_eq_ok_iff.1 h
  obtain ⟨depth, w', ms, rfl, hlisted, -⟩ := hv.object_inv
  obtain ⟨u, rfl⟩ := hlisted.ends
  have htrim : Text.trim (s ++ ('{' :: (u ++ ['}']) ++ s')) = '{' :: (u ++ ['}']) := by
    rw [List.cons_append, List.append_assoc]
    exact Text.trim_append (fun c hc => isBlank_of_isSpace (hs c hc))
      (fun c hc => isBlank_of_isSpace (hs' c hc)) (by decide) (by decide)
  rw [htrim, Json.document_eq_ok_iff]
  exact ⟨[], _, [], by rw [List.nil_append, List.append_nil], nofun, hv, nofun⟩

theorem inside_of_mark {m : Json.Mode} {mark : List Char} (hmark : mark = jsonFence ∨ mark = fence)
    (h : m.run? (mark ++ cs) ≠ none) : Json.Mode.inside.run? cs ≠ none := by
  -- Outside of strings no such character may stand, and behind a backslash it escapes nothing.
  rcases hmark with rfl | rfl
  all_goals
    cases m with
    | outside => exact absurd rfl h
    | inside => exact h
    | escaped => exact absurd rfl h

theorem inside_of_blanks {s : List Char} (hs : ∀ c ∈ s, Text.isBlank c = true) :
    Json.Mode.inside.run? (s ++ cs) = Json.Mode.inside.run? cs := by
  induction s with
  | nil => rfl
  | cons c s ih =>
    have hc : c ≠ '"' ∧ c ≠ '\\' := by
      have hblank := hs c List.mem_cons_self
      constructor
      all_goals
        rintro rfl
        revert hblank
        decide
    rw [List.cons_append, Json.inside_of_ne hc]
    exact ih fun d hd => hs d (List.mem_cons_of_mem c hd)

theorem inside_unwrap {v : Json} (h : Json.document cs = .ok v)
    (hfence : Text.occurs fence cs = true) : Json.Mode.inside.run? (unwrap cs) ≠ none := by
  have hbalanced := Json.balanced_of_document h
  obtain ⟨mark, a, s, t, hmark, hcs, hs⟩ := unwrap_of_fenced hfence
  generalize unwrap cs = q at hcs
  subst hcs
  rw [Json.Balanced, Json.run?_append, Option.bind_eq_some_iff] at hbalanced
  obtain ⟨m, -, hm⟩ := hbalanced
  have hinside : Json.Mode.inside.run? (s ++ (q ++ t)) ≠ none :=
    inside_of_mark hmark (by rw [hm]; exact Option.some_ne_none _)
  rw [inside_of_blanks hs, Json.run?_append] at hinside
  intro hq
  rw [hq] at hinside
  exact hinside rfl

theorem not_usable_of_fenced {v : Json} (h : Json.document cs = .ok v)
    (hfence : Text.occurs fence cs = true)
    (hread : Json.document (unwrap cs) = .ok (.obj fs)) : ¬ Usable fs fix explanation := by
  intro husable
  have houtside : Json.Mode.outside.run? (unwrap cs) ≠ none := by
    rw [Json.balanced_of_document hread]
    exact Option.some_ne_none _
  have hplain := Json.plain_of_both houtside (inside_unwrap h hfence)
  rcases Json.mem_of_document (c := 'x') hread husable.getFix (by decide) with hx | hescape
  · exact absurd (hplain 'x' hx) (by decide)
  · exact absurd (hplain '\\' hescape) (by decide)

end Reply

namespace Proposal

variable {now : String} {d : Diagnostic} {c : Completion} {fs : Json.Fields}
  {fix explanation : String}

theorem decoded_of_unfenced (hread : Json.read c.content = .ok (.obj fs))
    (hfence : Text.occurs Reply.fence c.content.toList = false) :
    Reply.decoded c.content = .ok (.obj fs) := by
  rw [Reply.decoded, Json.read_eq_ok_iff, String.toList_ofList, Reply.unwrap_of_unfenced hfence]
  exact Reply.document_trim (Json.read_eq_ok_iff.1 hread)

theorem not_usable_decoded {v : Json} (hread : Json.read c.content = .ok v)
    (hfence : Text.occurs Reply.fence c.content.toList = true) (fs : Json.Fields)
    (fix explanation : String) (hdecoded : Reply.decoded c.content = .ok (.obj fs)) :
    ¬ Reply.Usable fs fix explanation := by
  rw [Reply.decoded, Json.read_eq_ok_iff, String.toList_ofList] at hdecoded
  exact Reply.not_usable_of_fenced (Json.read_eq_ok_iff.1 hread) hfence hdecoded

theorem exists_of_decoded (now : String) (d : Diagnostic)
    (hdecoded : Reply.decoded c.content = .ok (.obj fs))
    (hrange : ∀ n : Int, Json.Fields.get? fs "confidence" = some (.num (.int n)) →
      n.natAbs + 2 ^ 970 < 2 ^ 1024) : ∃ p, ofCompletion now d c = .ok p := by
  rcases (reading_ofCompletion now d c).escapes_or with ⟨hescapes, -⟩ | ⟨-, hp⟩
  · obtain ⟨payload, hpayload, n, hn, hbeyond⟩ := hescapes.of_decoded hdecoded
    obtain ⟨hfields, -⟩ := Reply.usable_of_ofJson hpayload
    cases hfields
    have hget := (Reply.value_eq_iff (v := .num (.int n)) nofun).1 hn
    exact absurd hbeyond (Nat.not_le.2 (hrange n hget))
  · exact hp

/-- A reply that is an object with a repair and an explanation comes to just this repair if no
fence occurs in it; with a fence in one of its strings it does not come to a repair. -/
theorem ofCompletion_bare (hread : Json.read c.content = .ok (.obj fs))
    (husable : Reply.Usable fs fix explanation)
    (hrange : ∀ n : Int, Json.Fields.get? fs "confidence" = some (.num (.int n)) →
      n.natAbs + 2 ^ 970 < 2 ^ 1024) :
    ((∃ p, ofCompletion now d c = .ok p ∧ p.fix? = some fix ∧ p.explanation? = some explanation) ↔
      Text.occurs Reply.fence c.content.toList = false) ∧
    (Text.occurs Reply.fence c.content.toList = true →
      ∀ p, ofCompletion now d c = .ok p → Rejected c.content p) := by
  have hrejected : Text.occurs Reply.fence c.content.toList = true →
      ∀ p, ofCompletion now d c = .ok p → Rejected c.content p := by
    intro hfence p hp
    rcases ofCompletion_cases hp with ⟨fs', fix', explanation', hdecoded, husable', -⟩ |
      ⟨-, hrejected, -⟩
    · exact absurd husable' (not_usable_decoded hread hfence fs' fix' explanation' hdecoded)
    · exact hrejected
  refine ⟨⟨?_, fun hfence => ?_⟩, hrejected⟩
  · rintro ⟨p, hp, hfix, -⟩
    rw [Bool.eq_false_iff]
    intro hfence
    rw [(hrejected hfence p hp).fix] at hfix
    cases hfix
  · have hdecoded := decoded_of_unfenced hread hfence
    obtain ⟨p, hp⟩ := exists_of_decoded now d hdecoded hrange
    obtain ⟨hfaithful, -⟩ := faithful_of_usable hp hdecoded husable
    exact ⟨p, hp, hfaithful.fix, hfaithful.explanation⟩

theorem ofCompletion_bare_fenceInText :
    let d : Diagnostic := ⟨.known .typing, some "m", "a.ts", 2, .low, 1, ""⟩
    let outcome (text : String) := ofCompletion "now" d ⟨text, "m", 0, 0, .real .zero, ""⟩
    (∃ p, outcome "\x7b\"fix\": \"x\", \"explanation\": \"use json\"\x7d" = .ok p ∧
      p.fix? = some "x" ∧ p.explanation? = some "use json") ∧
    ∀ p, outcome "\x7b\"fix\": \"x\", \"explanation\": \"use ```json\"\x7d" = .ok p →
      Rejected "\x7b\"fix\": \"x\", \"explanation\": \"use ```json\"\x7d" p := by
  intro d outcome
  have hplain : Json.read "\x7b\"fix\": \"x\", \"explanation\": \"use json\"\x7d" =
      .ok (.obj [("fix", .str "x"), ("explanation", .str "use json")]) := by
    with_unfolding_all rfl
  have hfenced : Json.read "\x7b\"fix\": \"x\", \"explanation\": \"use ```json\"\x7d" =
      .ok (.obj [("fix", .str "x"), ("explanation", .str "use ```json")]) := by
    with_unfolding_all rfl
  constructor
  · exact (ofCompletion_bare (c := ⟨_, "m", 0, 0, .real .zero, ""⟩) hplain
      ⟨rfl, by decide, rfl, by decide⟩ nofun).1.2 (by decide +kernel)
  · exact (ofCompletion_bare (c := ⟨_, "m", 0, 0, .real .zero, ""⟩) hfenced
      ⟨rfl, by decide, rfl, by decide⟩ nofun).2 (by decide +kernel)

end Proposal

end Mend
