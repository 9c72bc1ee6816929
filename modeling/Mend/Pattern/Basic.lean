import Mend.Pattern.CharSet

/-!
Patterns over text. A pattern is matched at a cursor, a place in a text of which the character
before it is known; `Pattern.ends` gives every place where a match may end, the preferred one
first, and `Pattern.Spans` says the same as a relation. `mem_ends` ties the two.
-/

namespace Mend

/-- A place in a text: the character before it, and the text after it. -/
structure Cursor where
  prev : Option Char
  rest : List Char
  deriving DecidableEq, Repr

namespace Cursor

def places (prev : Option Char) : List Char → List Cursor
  | [] => [⟨prev, []⟩]
  | c :: cs => ⟨prev, c :: cs⟩ :: places (some c) cs

def wordBefore (k : Cursor) : Bool := k.prev.any Text.isWord

def wordAfter (k : Cursor) : Bool := k.rest.head?.any Text.isWord

def atBoundary (k : Cursor) : Bool := k.wordBefore != k.wordAfter

def atEnd (k : Cursor) : Bool := k.rest == [] || k.rest == ['\n']

end Cursor

inductive Pattern
  | empty
  | one (s : CharSet)
  /-- Any number of characters of a set, as many as possible preferred. -/
  | many (s : CharSet)
  | boundary
  | beginning
  | ending
  | seq (p q : Pattern)
  /-- The first pattern preferred. -/
  | alt (p q : Pattern)
  deriving DecidableEq, Repr

namespace Pattern

/-- The places in a run of characters of a set, the last one first, before those of `found`. -/
def runEnds (s : CharSet) (found : List Cursor) (prev : Option Char) : List Char → List Cursor
  | [] => ⟨prev, []⟩ :: found
  | c :: cs =>
    if s.has c then runEnds s (⟨prev, c :: cs⟩ :: found) (some c) cs
    else ⟨prev, c :: cs⟩ :: found

def ends : Pattern → Cursor → List Cursor
  | empty, k => [k]
  | one s, k =>
    match k.rest with
    | [] => []
    | c :: cs => if s.has c then [⟨some c, cs⟩] else []
  | many s, k => runEnds s [] k.prev k.rest
  | boundary, k => if k.atBoundary then [k] else []
  | beginning, k => if k.prev.isNone then [k] else []
  | ending, k => if k.atEnd then [k] else []
  | seq p q, k => (p.ends k).flatMap q.ends
  | alt p q, k => p.ends k ++ q.ends k

def startsAt (p : Pattern) (k : Cursor) : Bool := !(p.ends k).isEmpty

inductive Spans : Pattern → Cursor → Cursor → Prop
  | empty (k : Cursor) : Spans .empty k k
  | one {s : CharSet} {c : Char} (prev : Option Char) (cs : List Char) (h : s.has c = true) :
    Spans (.one s) ⟨prev, c :: cs⟩ ⟨some c, cs⟩
  | manyNil (s : CharSet) (k : Cursor) : Spans (.many s) k k
  | manyCons {s : CharSet} {c : Char} {prev : Option Char} {cs : List Char} {k : Cursor}
    (h : s.has c = true) (t : Spans (.many s) ⟨some c, cs⟩ k) :
    Spans (.many s) ⟨prev, c :: cs⟩ k
  | boundary {k : Cursor} (h : k.atBoundary = true) : Spans .boundary k k
  | beginning {k : Cursor} (h : k.prev = none) : Spans .beginning k k
  | ending {k : Cursor} (h : k.atEnd = true) : Spans .ending k k
  | seq {p q : Pattern} {i j k : Cursor} (s : Spans p i j) (t : Spans q j k) :
    Spans (.seq p q) i k
  | left {p q : Pattern} {i j : Cursor} (s : Spans p i j) : Spans (.alt p q) i j
  | right {p q : Pattern} {i j : Cursor} (s : Spans q i j) : Spans (.alt p q) i j

theorem mem_runEnds (s : CharSet) (found : List Cursor) (prev : Option Char) (cs : List Char)
    (k : Cursor) :
    k ∈ runEnds s found prev cs ↔ Spans (.many s) ⟨prev, cs⟩ k ∨ k ∈ found := by
  induction cs generalizing prev found with
  | nil =>
    simp only [runEnds, List.mem_cons]
    constructor
    · rintro (rfl | h)
      · exact .inl (.manyNil _ _)
      · exact .inr h
    · rintro (h | h)
      · cases h
        exact .inl rfl
      · exact .inr h
  | cons c cs ih =>
    unfold runEnds
    split
    · rename_i hc
      rw [ih, List.mem_cons]
      constructor
      · rintro (h | rfl | h)
        · exact .inl (.manyCons hc h)
        · exact .inl (.manyNil _ _)
        · exact .inr h
      · rintro (h | h)
        · cases h with
          | manyNil => exact .inr (.inl rfl)
          | manyCons _ t => exact .inl t
        · exact .inr (.inr h)
    · rename_i hc
      rw [List.mem_cons]
      constructor
      · rintro (rfl | h)
        · exact .inl (.manyNil _ _)
        · exact .inr h
      · rintro (h | h)
        · cases h with
          | manyNil => exact .inl rfl
          | manyCons h _ => exact absurd h hc
        · exact .inr h

theorem mem_ends (p : Pattern) (i j : Cursor) : j ∈ p.ends i ↔ Spans p i j := by
  induction p generalizing i j with
  | empty =>
    simp only [ends, List.mem_singleton]
    exact ⟨fun h => h ▸ .empty _, fun h => by cases h; rfl⟩
  | one s =>
    obtain ⟨prev, rest⟩ := i
    cases rest with
    | nil =>
      simp only [ends, List.not_mem_nil, false_iff]
      intro h
      cases h
    | cons c cs =>
      simp only [ends]
      split
      · rename_i hc
        rw [List.mem_singleton]
        exact ⟨fun h => h ▸ .one _ _ hc, fun h => by cases h; rfl⟩
      · rename_i hc
        simp only [List.not_mem_nil, false_iff]
        intro h
        cases h with
        | one _ _ h => exact hc h
  | many s => simp [ends, mem_runEnds]
  | boundary =>
    simp only [ends]
    split
    · rename_i h
      rw [List.mem_singleton]
      exact ⟨fun e => by cases e; exact .boundary h, fun h => by cases h; rfl⟩
    · rename_i h
      simp only [List.not_mem_nil, false_iff]
      intro t
      cases t with
      | boundary t => exact h t
  | beginning =>
    simp only [ends, Option.isNone_iff_eq_none]
    split
    · rename_i h
      rw [List.mem_singleton]
      exact ⟨fun e => by cases e; exact .beginning h, fun h => by cases h; rfl⟩
    · rename_i h
      simp only [List.not_mem_nil, false_iff]
      intro t
      cases t with
      | beginning t => exact h t
  | ending =>
    simp only [ends]
    split
    · rename_i h
      rw [List.mem_singleton]
      exact ⟨fun e => by cases e; exact .ending h, fun h => by cases h; rfl⟩
    · rename_i h
      simp only [List.not_mem_nil, false_iff]
      intro t
      cases t with
      | ending t => exact h t
  | seq p q ihp ihq =>
    simp only [ends, List.mem_flatMap]
    constructor
    · rintro ⟨k, hk, hj⟩
      exact .seq ((ihp _ _).1 hk) ((ihq _ _).1 hj)
    · intro h
      cases h with
      | seq s t => exact ⟨_, (ihp _ _).2 s, (ihq _ _).2 t⟩
  | alt p q ihp ihq =>
    simp only [ends, List.mem_append, ihp, ihq]
    constructor
    · rintro (h | h)
      · exact .left h
      · exact .right h
    · intro h
      cases h with
      | left h => exact .inl h
      | right h => exact .inr h

theorem startsAt_iff (p : Pattern) (k : Cursor) : p.startsAt k = true ↔ ∃ j, Spans p k j := by
  simp only [startsAt, Bool.not_eq_true', ← mem_ends]
  cases h : p.ends k with
  | nil => simp
  | cons j js => exact ⟨fun _ => ⟨j, .head _⟩, fun _ => rfl⟩

def all : List Pattern → Pattern
  | [] => .empty
  | [p] => p
  | p :: ps => .seq p (all ps)

def any : List Pattern → Pattern
  | [] => .empty
  | [p] => p
  | p :: ps => .alt p (any ps)

def optional (p : Pattern) : Pattern := .alt p .empty

def exactly (cs : List Char) : Pattern := all (cs.map fun c => .one (.only c))

def word (s : String) : Pattern := exactly s.toList

def phrase (s : String) : Pattern := all (s.toList.map fun c => .one (.letter c))

def gap : Pattern := .many .inLine

def blanks : Pattern := .many .blank

def someBlanks : Pattern := .seq (.one .blank) (.many .blank)

end Pattern

structure Capture where
  opening : Pattern
  closing : Pattern

namespace Capture

/-- The characters up to the first place where the closing pattern matches, `done` of them read,
last one first. -/
def upTo (closing : Pattern) (done : List Char) : List Char → Option (List Char)
  | [] => none
  | c :: cs =>
    if c = '\n' then none
    else if closing.startsAt ⟨some c, cs⟩ then some (c :: done).reverse
    else upTo closing (c :: done) cs

def at? (c : Capture) (k : Cursor) : Option (List Char) :=
  (c.opening.ends k).findSome? fun j => upTo c.closing [] j.rest

def name? (c : Capture) (cs : List Char) : Option (List Char) :=
  (Cursor.places none cs).findSome? c.at?

def firstName? (captures : List Capture) (cs : List Char) : Option (List Char) :=
  (captures.findSome? (·.name? cs)).map Text.trim

end Capture

end Mend
