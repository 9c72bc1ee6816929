import Mend.Pattern.Basic

/-!
Expressions: patterns with groups, which remember what they matched. A match is looked for by trying
what may come first and then all that may follow it; where nothing follows, the next way to begin is
tried. `Expression.run` is given what has to follow as a function of how far the match has come.
-/

namespace Mend

inductive Anchor
  | beginning
  | lineBeginning
  /-- The end of the text, or a newline there. -/
  | ending
  | lineEnding
  | textEnding
  /-- A word begins or ends, of ASCII characters or of any. -/
  | boundary (ascii : Bool)
  | noBoundary (ascii : Bool)
  deriving DecidableEq, Repr

/-- How a repetition goes about it: as much as possible, as little as possible, or as much as
possible once and for all. -/
inductive Manner
  | most
  | least
  | final
  deriving DecidableEq, Repr

def Manner.name : Manner → String
  | most => "MAX_REPEAT"
  | least => "MIN_REPEAT"
  | final => "POSSESSIVE_REPEAT"

inductive Expression
  | empty
  | one (s : CharSet)
  | anchor (a : Anchor)
  | seq (p q : Expression)
  /-- The first expression preferred. -/
  | alt (p q : Expression)
  | repeated (p : Expression) (low : Nat) (high : Option Nat) (m : Manner)
  | group (n : Nat) (p : Expression)
  /-- What a group has matched. -/
  | again (n : Nat) (f : Folding)
  /-- The expression matches here, or behind a number of characters, or it does not. -/
  | look (behind : Option Nat) (negated : Bool) (p : Expression)
  /-- The preferred match of an expression and no other. -/
  | final (p : Expression)
  /-- One of two expressions, by whether a group has matched. -/
  | ifGroup (n : Nat) (p q : Expression)
  deriving DecidableEq, Repr

/-- How far a match has come: the text before the place, nearest character first, the text after it,
and for every group the text that was left when it last began, and when it last ended. -/
structure Progress where
  before : List Char
  after : List Char
  begun : List (Nat × List Char) := []
  ended : List (Nat × List Char) := []

namespace Progress

def begin (n : Nat) (s : Progress) : Progress := { s with begun := (n, s.after) :: s.begun }

def close (n : Nat) (s : Progress) : Progress := { s with ended := (n, s.after) :: s.ended }

/-- What a group has matched, if it has begun and has ended behind its beginning. -/
def group? (n : Nat) (s : Progress) : Option (List Char) := do
  let rest ← s.begun.lookup n
  let left ← s.ended.lookup n
  -- a possessive repetition may leave a group that ends before it begins; that a search may fail
  -- with an internal error then is left out
  if left.length ≤ rest.length then some (rest.take (rest.length - left.length)) else none

def past? (c : CharSet) (s : Progress) : Option Progress :=
  match s.after with
  | [] => none
  | x :: xs => if c.has x then some { s with before := x :: s.before, after := xs } else none

def pastAll? (f : Folding) : List Char → Progress → Option Progress
  | [], s => some s
  | c :: cs, s =>
    match s.after with
    | [] => none
    | x :: xs =>
      if f.lower c = f.lower x then pastAll? f cs { s with before := x :: s.before, after := xs }
      else none

def back? : Nat → Progress → Option Progress
  | 0, s => some s
  | n + 1, s =>
    match s.before with
    | [] => none
    | x :: xs => back? n { s with before := xs, after := x :: s.after }

def isWordAt (ascii : Bool) (c : Option Char) : Bool := c.any (CharKind.word.has ascii)

def atBoundary (ascii : Bool) (s : Progress) : Bool :=
  isWordAt ascii s.before.head? != isWordAt ascii s.after.head?

def holds (s : Progress) : Anchor → Bool
  | .beginning => s.before.isEmpty
  | .lineBeginning => s.before.head?.all (· == '\n')
  | .ending => s.after == [] || s.after == ['\n']
  | .lineEnding => s.after.head?.all (· == '\n')
  | .textEnding => s.after.isEmpty
  | .boundary ascii => s.atBoundary ascii
  -- in the empty text there is not even a place that is no boundary
  | .noBoundary ascii => !(s.before.isEmpty && s.after.isEmpty) && !s.atBoundary ascii

end Progress

namespace Expression

abbrev Sequel := Progress → Option Progress

abbrev Matcher := Progress → Sequel → Option Progress

def first (p : Matcher) : Matcher := fun s k => (p s some).bind k

def times (p : Matcher) : Nat → Matcher
  | 0, s, k => k s
  | n + 1, s, k => p s fun t => times p n t k

/-- No more copies: as many as there may be, or the last one, which began with `last` characters
left, took no text. -/
def isOver (high : Option Nat) (last : Option Nat) (s : Progress) : Bool :=
  high == some 0 || last == some s.after.length

/-- The first of two results, or the second; the other way round if they are swapped. -/
@[macro_inline]
def inTurn (swapped : Bool) (a b : Option Progress) : Option Progress :=
  if swapped then b.or a else a.or b

/-- Further copies, as few as possible if it is lazy. -/
def more (p : Matcher) (lazy : Bool) : (fuel : Nat) → (high last : Option Nat) → Matcher
  | 0, _, _, s, k => k s
  | fuel + 1, high, last, s, k =>
    inTurn lazy
      (if isOver high last s then none
      else p s fun t => more p lazy fuel (high.map (· - 1)) (some s.after.length) t k)
      (k s)

/-- At least `low` and at most `high` copies. Every copy behind the least ones takes text, but for
the last one. -/
def copies (p : Matcher) (lazy : Bool) (low : Nat) (high : Option Nat) : Matcher := fun s k =>
  times p low s fun t => more p lazy (t.after.length + 2) (high.map (· - low)) none t k

def run : Expression → Matcher
  | empty, s, k => k s
  | one c, s, k => (s.past? c).bind k
  | anchor a, s, k => if s.holds a then k s else none
  | seq p q, s, k => p.run s fun t => q.run t k
  | alt p q, s, k => (p.run s k).or (q.run s k)
  | repeated p low high .most, s, k => copies p.run false low high s k
  | repeated p low high .least, s, k => copies p.run true low high s k
  | repeated p low high .final, s, k => first (copies (first p.run) false low high) s k
  | group n p, s, k => p.run (s.begin n) fun t => k (t.close n)
  | again n f, s, k => ((s.group? n).bind fun cs => s.pastAll? f cs).bind k
  | look behind negated p, s, k =>
    let seen := ((behind.map (s.back? ·)).getD (some s)).bind fun t => p.run t some
    if negated then if seen.isSome then none else k s
    else seen.bind fun t => k { s with begun := t.begun, ended := t.ended }
  | final p, s, k => first p.run s k
  | ifGroup n p q, s, k => if (s.group? n).isSome then p.run s k else q.run s k

def all : List Expression → Expression
  | [] => .empty
  | [p] => p
  | p :: ps => .seq p (all ps)

def any : List Expression → Expression
  | [] => .empty
  | [p] => p
  | p :: ps => .alt p (any ps)

def letters (s : String) : List Expression := s.toList.map fun c => .one (.letter c)

def phrase (s : String) : Expression := all (letters s)

def gap : Expression := .repeated (.one .inLine) 0 none .most

/-- The expression matches in the rest of a text, `before` having been passed. -/
def foundAfter (p : Expression) (before : List Char) : List Char → Bool
  | [] => (p.run { before, after := [] } some).isSome
  | c :: cs => (p.run { before, after := c :: cs } some).isSome || p.foundAfter (c :: before) cs

def found (p : Expression) (cs : List Char) : Bool := p.foundAfter [] cs

end Expression

end Mend
