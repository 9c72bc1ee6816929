import Mend.Pattern.Problem

namespace Mend.Pattern

structure Token where
  text : List Char
  position : Nat
  deriving DecidableEq, Repr

def tokens (position : Nat) : List Char → List Token × Bool
  | [] => ([], false)
  | ['\\'] => ([], true)
  | '\\' :: c :: cs =>
    let (ts, d) := tokens (position + 2) cs
    (⟨['\\', c], position⟩ :: ts, d)
  | c :: cs =>
    let (ts, d) := tokens (position + 1) cs
    (⟨[c], position⟩ :: ts, d)

/-- A source that is being read: the tokens left, its length, and whether a lone backslash
follows the last token. -/
structure Source where
  left : List Token
  length : Nat
  dangling : Bool

namespace Source

abbrev Step := Except Fault

def failAt (p : Problem) (position : Nat) : Step α := .error ⟨p, some position⟩

def fail (p : Problem) : Step α := .error ⟨p, none⟩

/-- A lone backslash is noticed when it comes next. -/
def check (s : Source) : Step Source :=
  if s.left.isEmpty && s.dangling then failAt .danglingEscape (s.length - 1) else .ok s

def ofText (cs : List Char) : Step Source :=
  let (ts, d) := tokens 0 cs
  check ⟨ts, cs.length, d⟩

def peek? (s : Source) : Option (List Char) := s.left.head?.map (·.text)

def position (s : Source) : Nat :=
  match s.left with
  | t :: _ => t.position
  | [] => s.length

def skip (s : Source) : Step Source := check { s with left := s.left.tail }

def nextIs (s : Source) (c : Char) : Bool := s.peek? == some [c]

def nextIn (s : Source) (p : Char → Bool) : Bool :=
  match s.peek? with
  | some [c] => p c
  | _ => false

def accept (s : Source) (c : Char) : Step (Bool × Source) :=
  if s.nextIs c then s.skip.map (true, ·) else .ok (false, s)

def takeIn (s : Source) (p : Char → Bool) : Nat → Step (List Char × Source)
  | 0 => .ok ([], s)
  | n + 1 =>
    match s.peek? with
    | some [c] =>
      if p c then do
        let (cs, s) ← takeIn (← s.skip) p n
        return (c :: cs, s)
      else .ok ([], s)
    | _ => .ok ([], s)

/-- The text of the tokens up to a terminator, `done` so far. -/
def upToFrom (what : String) (terminator : Char) (done : List Char) : Nat → Source →
    Step (List Char × Source)
  | 0, s => failAt (.missing what) s.position
  | fuel + 1, s =>
    match s.peek? with
    | none =>
      if done.isEmpty then failAt (.missing what) s.position
      else failAt (.unclosedName (.singleton terminator)) (s.position - done.length)
    | some t => do
      let s ← s.skip
      if t = [terminator] then
        if done.isEmpty then failAt (.missing what) (s.position - 1) else return (done, s)
      else upToFrom what terminator (done ++ t) fuel s

def upTo (s : Source) (what : String) (terminator : Char) : Step (List Char × Source) :=
  upToFrom what terminator [] (s.left.length + 1) s

/-- Passes over tokens, the last of which is one of those looked for; whether there is one. -/
def skipPast (last : List Char → Bool) : Nat → Source → Step (Bool × Source)
  | 0, s => .ok (false, s)
  | fuel + 1, s =>
    match s.peek? with
    | none => .ok (false, s)
    | some t => do
      let s ← s.skip
      if last t then return (true, s) else skipPast last fuel s

end Source

end Mend.Pattern
