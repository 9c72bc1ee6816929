import Mend.Proofs.Model.Fence
import Mend.Proofs.Text.Occurrence
import Mend.Proofs.Text.Trimming

/-! Replies with something around them. What is taken out of a reply holds no fence and no blank at
its ends, so that nothing more can be taken out of it. An object is taken out as it is, whether it
stands alone, between fences in the middle of a text, or behind a fence that is not closed. -/

namespace Mend

namespace Reply

/-- A text as a model presents it: alone, or with prose and fences around it. -/
inductive Presents (p : List Char) : List Char → Prop
  | bare : Presents p p
  | announced {a s : List Char} (ha : '`' ∉ a) (hs : '`' ∉ s) :
    Presents p (a ++ '\n' :: (jsonFence ++ '\n' :: (p ++ '\n' :: (fence ++ '\n' :: s))))
  | fenced {a s : List Char} (ha : '`' ∉ a) (hs : '`' ∉ s) :
    Presents p (a ++ '\n' :: (fence ++ '\n' :: (p ++ '\n' :: (fence ++ '\n' :: s))))
  | unclosed {a : List Char} (ha : '`' ∉ a) :
    Presents p (a ++ '\n' :: (jsonFence ++ '\n' :: p))

section
variable {mark cs p t a : List Char}

theorem occurs_fence_before (cs : List Char) : Text.occurs fence (before fence cs) = false := by
  unfold before
  cases hsplit : Text.splitFirst? fence cs with
  | none => exact (Text.splitFirst?_eq_none_iff _ _).1 hsplit
  | some r => exact Text.occurs_before (by decide) hsplit

theorem occurs_trim (h : Text.occurs mark cs = false) : Text.occurs mark (Text.trim cs) = false := by
  rw [Bool.eq_false_iff] at h ⊢
  obtain ⟨s, t, hcs, -, -⟩ := Text.eq_trim_append cs
  intro hoccurs
  rw [hcs] at h
  exact h (Text.occurs_of_part hoccurs s t)

theorem inside?_eq (mark cs : List Char) : inside? mark cs = none ∨
    ∃ q, inside? mark cs = some (Text.trim q) ∧ Text.occurs fence q = false := by
  cases hsplit : Text.splitFirst? mark cs with
  | none => exact .inl (by rw [inside?, hsplit]; rfl)
  | some r =>
    refine .inr ⟨before fence r.2, ?_, occurs_fence_before r.2⟩
    rw [inside?, hsplit]
    rfl

/-- What is taken out of a reply is a text without fences, trimmed. -/
theorem exists_unwrap_eq (cs : List Char) :
    ∃ q, unwrap cs = Text.trim q ∧ Text.occurs fence q = false := by
  rw [unwrap]
  obtain hjson | ⟨q, hjson, hq⟩ := inside?_eq jsonFence cs
  · rw [hjson, Option.none_or]
    obtain hfence | ⟨q, hfence, hq⟩ := inside?_eq fence cs
    · rw [hfence]
      exact ⟨cs, rfl, inside?_eq_none_iff.1 hfence⟩
    · exact ⟨q, by rw [hfence]; rfl, hq⟩
  · exact ⟨q, by rw [hjson]; rfl, hq⟩

theorem occurs_unwrap (cs : List Char) : Text.occurs fence (unwrap cs) = false := by
  obtain ⟨q, hq, hfence⟩ := exists_unwrap_eq cs
  rw [hq]
  exact occurs_trim hfence

theorem unwrap_unwrap (cs : List Char) : unwrap (unwrap cs) = unwrap cs := by
  obtain ⟨q, hq, hfence⟩ := exists_unwrap_eq cs
  rw [hq, unwrap_of_unfenced (occurs_trim hfence), Text.trim_trim]

theorem occurs_prose (ha : '`' ∉ a) : Text.occurs fence a = false :=
  Text.occurs_eq_false_of_not_mem (by decide) ha

theorem inside?_presented (hmark : '\n' ∉ mark) (ha : Text.occurs mark a = false) :
    inside? mark (a ++ '\n' :: (mark ++ cs)) = some (Text.trim (before fence cs)) := by
  rw [inside?, Text.splitFirst?_append_cons hmark ha, Text.splitFirst?_append]
  rfl

theorem before_closed (hp : Text.occurs fence p = false) :
    before fence ('\n' :: (p ++ '\n' :: (fence ++ cs))) = '\n' :: (p ++ ['\n']) := by
  have hp' : Text.occurs fence ('\n' :: p) = false := hp
  rw [before, ← List.cons_append, Text.splitFirst?_append_cons (by decide) hp',
    Text.splitFirst?_append]
  rfl

theorem before_unclosed (hp : Text.occurs fence p = false) : before fence ('\n' :: p) = '\n' :: p := by
  have hnone : Text.splitFirst? fence ('\n' :: p) = none :=
    (Text.splitFirst?_eq_none_iff _ _).2 hp
  rw [before, hnone]

theorem isBlank_newline : ∀ c ∈ ['\n'], Text.isBlank c = true :=
  List.forall_mem_singleton.2 (by decide)

theorem trim_closed (p : List Char) : Text.trim ('\n' :: (p ++ ['\n'])) = Text.trim p :=
  Text.trim_around isBlank_newline isBlank_newline

theorem trim_unclosed (p : List Char) : Text.trim ('\n' :: p) = Text.trim p := by
  have h : Text.trim (['\n'] ++ (p ++ [])) = Text.trim p :=
    Text.trim_around isBlank_newline nofun
  rwa [List.append_nil] at h

theorem unwrap_of_presents (hp : Text.occurs fence p = false) (h : Presents p t) :
    unwrap t = Text.trim p := by
  cases h with
  | bare => exact unwrap_of_unfenced hp
  | announced ha _ =>
    rw [unwrap, inside?_presented (by decide) (not_occurs_jsonFence (occurs_prose ha)),
      before_closed hp, trim_closed]
    rfl
  | @fenced a s ha hs =>
    have hjson : inside? jsonFence
        (a ++ '\n' :: (fence ++ '\n' :: (p ++ '\n' :: (fence ++ '\n' :: s)))) = none := by
      have hfence : Text.occurs jsonFence fence = false := by decide
      rw [inside?_eq_none_iff]
      simp only [Text.occurs_append_cons (show '\n' ∉ jsonFence by decide), hfence,
        not_occurs_jsonFence (occurs_prose ha), not_occurs_jsonFence (occurs_prose hs),
        not_occurs_jsonFence hp, Bool.or_false]
    rw [unwrap, hjson, inside?_presented (by decide) (occurs_prose ha), before_closed hp,
      trim_closed]
    rfl
  | unclosed ha =>
    rw [unwrap, inside?_presented (by decide) (not_occurs_jsonFence (occurs_prose ha)),
      before_unclosed hp, trim_unclosed]
    rfl

end

end Reply

namespace Proposal

/-- Without the reply that a failed proposal keeps. -/
def withoutReply : Proposal → Proposal
  | failed reason _ => failed reason none
  | p => p

theorem ofCompletion_congr {now : String} {d : Diagnostic} {c : Completion} {t u : String}
    (h : Reply.unwrap t.toList = Reply.unwrap u.toList) :
    (ofCompletion now d { c with content := t }).map withoutReply =
      (ofCompletion now d { c with content := u }).map withoutReply := by
  have hpayload : Reply.payload t = Reply.payload u := by
    unfold Reply.payload
    rw [h]
  unfold ofCompletion
  dsimp only
  rw [hpayload]
  cases Reply.payload u with
  | error fault => rfl
  | ok result =>
    cases result with
    | error problem => rfl
    | ok payload => rfl

/-- Nothing more can be taken out of what was taken out of a reply; and a text without fences is taken
out of all the ways to present it, which come to the same proposal but for the reply in it. -/
theorem unwrap_presented (now : String) (d : Diagnostic) (c : Completion) :
    (∀ t, Text.occurs Reply.fence (Reply.unwrap t) = false ∧
      (Reply.unwrap t).head?.any Text.isBlank = false ∧
      (Reply.unwrap t).getLast?.any Text.isBlank = false ∧
      Reply.unwrap (Reply.unwrap t) = Reply.unwrap t) ∧
    ∀ p, Text.occurs Reply.fence p = false →
      (∀ t, Reply.Presents p t → Reply.unwrap t = Text.trim p) ∧
      ∀ t u : String, Reply.Presents p t.toList → Reply.Presents p u.toList →
        (ofCompletion now d { c with content := t }).map withoutReply =
          (ofCompletion now d { c with content := u }).map withoutReply := by
  refine ⟨fun t => ?_, fun p hp => ⟨fun t => Reply.unwrap_of_presents hp, ?_⟩⟩
  · obtain ⟨q, hq, -⟩ := Reply.exists_unwrap_eq t
    refine ⟨Reply.occurs_unwrap t, ?_, ?_, Reply.unwrap_unwrap t⟩
    · rw [hq]
      exact Text.head?_trim q
    · rw [hq]
      exact Text.getLast?_trim q
  · intro t u ht hu
    apply ofCompletion_congr
    rw [Reply.unwrap_of_presents hp ht, Reply.unwrap_of_presents hp hu]

end Proposal

end Mend
