import Mend.Strategy.Basic

namespace Mend.Strategy

inductive Rounds (s : Strategy) (tree : FileTree) (d : Diagnostic) (context : Option Context) :
    String → List (List Edit) → String → Prop
  | done (content : String) : Rounds s tree d context content [] content
  | more {content text last summary : String} {es : List Edit} {rounds : List (List Edit)}
    (h : s.attempt tree d content context = .ok (.fixed text summary es))
    (t : Rounds s tree d context text rounds last) :
    Rounds s tree d context content (es :: rounds) last

def Declines (s : Strategy) (tree : FileTree) (d : Diagnostic) (context : Option Context)
    (content : String) : Prop :=
  ∃ reason suggestion summary,
    s.attempt tree d content context = .ok (.declined reason suggestion summary)

def Settles (s : Strategy) (tree : FileTree) (d : Diagnostic) (context : Option Context)
    (content : String) : Prop :=
  ∃ rounds last, Rounds s tree d context content rounds last ∧ Declines s tree d context last

section
variable {s : Strategy} {tree : FileTree} {d : Diagnostic} {context : Option Context}
  {content text last summary : String} {es : List Edit} {rounds more : List (List Edit)}

theorem Rounds.trans (h : Rounds s tree d context content rounds text)
    (t : Rounds s tree d context text more last) :
    Rounds s tree d context content (rounds ++ more) last := by
  induction h with
  | done _ => exact t
  | more h _ ih => exact .more h (ih t)

theorem Settles.of_declines (h : Declines s tree d context content) :
    Settles s tree d context content :=
  ⟨[], content, .done content, h⟩

theorem Settles.of_fixed (h : s.attempt tree d content context = .ok (.fixed text summary es))
    (t : Settles s tree d context text) : Settles s tree d context content := by
  obtain ⟨rounds, last, hrounds, hdeclines⟩ := t
  exact ⟨es :: rounds, last, .more h hrounds, hdeclines⟩

theorem not_declines (h : s.attempt tree d content context = .ok (.fixed text summary es)) :
    ¬ Declines s tree d context content := by
  rintro ⟨reason, suggestion, summary', hdeclined⟩
  rw [h] at hdeclined
  cases hdeclined

theorem Settles.exists_answer (h : Settles s tree d context content) :
    ∃ a, s.attempt tree d content context = .ok a := by
  obtain ⟨rounds, last, hrounds, reason, suggestion, summary, hdeclined⟩ := h
  cases hrounds with
  | done _ => exact ⟨_, hdeclined⟩
  | more h _ => exact ⟨_, h⟩

theorem settles_of_measure (P : String → Prop) (measure : String → Nat)
    (hstep : ∀ content, P content → Declines s tree d context content ∨
      ∃ text summary es, s.attempt tree d content context = .ok (.fixed text summary es) ∧
        P text ∧ measure text < measure content)
    (h : P content) : Settles s tree d context content := by
  induction hn : measure content using Nat.strongRecOn generalizing content with
  | ind n ih =>
    rcases hstep content h with hdeclines | ⟨text, summary, es, hfixed, htext, hlt⟩
    · exact .of_declines hdeclines
    · rw [hn] at hlt
      exact .of_fixed hfixed (ih (measure text) hlt htext rfl)

theorem not_settles_of_invariant (P : String → Prop)
    (hstep : ∀ content, P content →
      ∃ text summary es, s.attempt tree d content context = .ok (.fixed text summary es) ∧ P text)
    (h : P content) : ¬ Settles s tree d context content := by
  rintro ⟨rounds, last, hrounds, hdeclines⟩
  induction hrounds with
  | done content =>
    obtain ⟨text, summary, es, hfixed, -⟩ := hstep content h
    exact not_declines hfixed hdeclines
  | more hfixed _ ih =>
    obtain ⟨text, summary, es, hfixed', htext⟩ := hstep _ h
    rw [hfixed] at hfixed'
    cases hfixed'
    exact ih htext hdeclines

end

end Mend.Strategy
