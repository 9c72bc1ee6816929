import Mend.Model.Settings

namespace Mend.Settings

variable {α : Type} {fs : Json.Fields} {name : String} {read : Json → Except Cause α}
  {default a : α}

theorem of_take (h : take fs name read default = ([], a)) : a = default ∨ ∃ v, read v = .ok a := by
  unfold take at h
  split at h
  · cases h
    exact .inl rfl
  · rename_i v hv
    split at h
    · rename_i b hb
      cases h
      exact .inr ⟨v, hb⟩
    · cases h

theorem Field.of_wholeWithin {least most : Nat} {v : Json} {n : Int}
    (h : wholeWithin least most v = .ok n) : least ≤ n ∧ n ≤ most := by
  unfold wholeWithin at h
  cases hwhole : whole v with
  | error c =>
    rw [hwhole] at h
    cases h
  | ok m =>
    rw [hwhole] at h
    simp only [bind, Except.bind, atMost] at h
    by_cases hmost : (most : Int) < m
    · rw [if_pos hmost] at h
      cases h
    · rw [if_neg hmost] at h
      dsimp only [atLeast] at h
      split at h
      · cases h
      · cases h
        omega

theorem Field.of_realAbove {bound : Nat} {v : Json} {x : Binary64}
    (h : realAbove bound v = .ok x) : Number.lt (.int bound) (.real x) = true := by
  unfold realAbove at h
  cases hreal : real v with
  | error c =>
    rw [hreal] at h
    cases h
  | ok y =>
    rw [hreal] at h
    simp only [bind, Except.bind] at h
    split at h
    · rename_i hlt
      cases h
      exact hlt
    · cases h

variable {s : Settings}

/-- Every field of the settings was taken without a problem, and no other name was given. -/
structure Taken (fs : Json.Fields) (s : Settings) : Prop where
  enabled : take fs "enabled" Field.truth false = ([], s.enabled)
  vendor : take fs "provider" (Field.oneOf vendors) "anthropic" = ([], s.vendor)
  model : take fs "model" Field.text none = ([], s.model)
  keyName : take fs "api_key_env" Field.text none = ([], s.keyName)
  maxTokens : take fs "max_tokens" (Field.wholeFrom 1) 2000 = ([], s.maxTokens)
  maxRetries : take fs "max_retries" (Field.wholeWithin 0 10) 3 = ([], s.maxRetries)
  timeout : take fs "api_timeout" (Field.realAbove 0) (.ofRatio false 30 1) = ([], s.timeout)
  baseDelay : take fs "retry_base_delay" (Field.realFrom 0) .one = ([], s.baseDelay)
  maxRelatedFiles :
    take fs "max_related_files" (Field.wholeWithin 0 20) 3 = ([], s.maxRelatedFiles)
  maxDependencies :
    take fs "max_dependencies" (Field.wholeWithin 0 100) 10 = ([], s.maxDependencies)
  maxParallel : take fs "max_parallel_calls" (Field.wholeWithin 1 20) 5 = ([], s.maxParallel)
  strangers : strangers fs = []

theorem taken_of_read (h : Settings.read fs = .ok s) : Taken fs s := by
  unfold Settings.read at h
  dsimp only at h
  split at h
  · rename_i hnone
    simp only [List.append_eq_nil_iff] at hnone
    obtain ⟨⟨⟨⟨⟨⟨⟨⟨⟨⟨⟨h₁, h₂⟩, h₃⟩, h₄⟩, h₅⟩, h₆⟩, h₇⟩, h₈⟩, h₉⟩, h₁₀⟩, h₁₁⟩, hstrangers⟩ := hnone
    cases h
    exact ⟨Prod.ext h₁ rfl, Prod.ext h₂ rfl, Prod.ext h₃ rfl, Prod.ext h₄ rfl, Prod.ext h₅ rfl,
      Prod.ext h₆ rfl, Prod.ext h₇ rfl, Prod.ext h₈ rfl, Prod.ext h₉ rfl, Prod.ext h₁₀ rfl,
      Prod.ext h₁₁ rfl, hstrangers⟩
  · cases h

theorem Taken.maxRetries_mem (h : Taken fs s) : 0 ≤ s.maxRetries ∧ s.maxRetries ≤ 10 := by
  rcases of_take h.maxRetries with hdefault | ⟨v, hv⟩
  · rw [hdefault]
    decide
  · exact Field.of_wholeWithin hv

theorem Taken.timeout_pos (h : Taken fs s) : Number.lt 0 (.real s.timeout) = true := by
  rcases of_take h.timeout with hdefault | ⟨v, hv⟩
  · rw [hdefault]
    decide +kernel
  · exact Field.of_realAbove hv

end Mend.Settings
