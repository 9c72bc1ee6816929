import Mend.Pattern.Expression
import Mend.Pattern.Source
import Mend.Text.Name

namespace Mend.Pattern

open Source (failAt)

structure Modes where
  ignoresCase : Bool
  /-- A line begins and ends where a text does. -/
  multiline : Bool
  /-- A dot takes newlines too. -/
  dotAll : Bool
  ascii : Bool
  /-- Blanks and comments mean nothing. -/
  verbose : Bool

namespace Modes

def folding (m : Modes) : Folding :=
  if m.ignoresCase then if m.ascii then .ascii else .full else .exact

def dot (m : Modes) : CharSet := if m.dotAll then .listed .exact true [] else .inLine

def beginning (m : Modes) : Anchor := if m.multiline then .lineBeginning else .beginning

def ending (m : Modes) : Anchor := if m.multiline then .lineEnding else .ending

end Modes

structure Flags where
  on : List Char
  off : List Char
  /-- They hold for the whole of the pattern. -/
  isGlobal : Bool

namespace Flags

def isFlag (t : List Char) : Bool :=
  match t with
  | [c] => "iLmsxatu".toList.contains c
  | _ => false

def isExclusive (c : Char) : Bool := "aLu".toList.contains c

/-- A flag that holds for a whole pattern or not at all. -/
def holdsForAll (c : Char) : Bool := c == 't'

def isLetter : List Char → Bool
  | [c] => Text.isLetter c
  | _ => false

/-- The next token, which has to be a flag or one of the characters that end a run of flags. -/
def nextToken (missing ends : String) (s : Source) : Source.Step (Char × Source) := do
  match s.peek? with
  | none => failAt (.missing missing) s.position
  | some t =>
    let start := s.position
    let s ← s.skip
    match t with
    | [c] =>
      if ends.toList.contains c || isFlag t then return (c, s)
      else failAt (if isLetter t then .unknownFlag else .missing missing) start
    | _ => failAt (.missing missing) start

/-- Flags from `c` on that are turned on, and the character behind them. -/
def readOn (on : List Char) (c : Char) : Nat → Source → Source.Step (List Char × Char × Source)
  | 0, s => failAt .unexpectedEnd s.position
  | fuel + 1, s => do
    if c = 'L' then failAt .localeFlag s.position
    if isExclusive c && on.any fun d => isExclusive d && d != c then
      failAt .exclusiveFlags s.position
    let (d, s) ← nextToken "-, : or )" ")-:" s
    if isFlag [d] then readOn (c :: on) d fuel s else return (c :: on, d, s)

/-- Flags from `c` on that are turned off, up to a colon. -/
def readOff (off : List Char) (c : Char) : Nat → Source → Source.Step (List Char × Source)
  | 0, s => failAt .unexpectedEnd s.position
  | fuel + 1, s => do
    if isExclusive c then failAt .exclusiveFlagOff s.position
    let (d, s) ← nextToken ":" ":" s
    if isFlag [d] then readOff (c :: off) d fuel s else return (c :: off, s)

def read (c : Char) (s : Source) : Source.Step (Flags × Source) := do
  let fuel := s.left.length + 1
  let (on, last, s) ← if c = '-' then pure ([], c, s) else readOn [] c fuel s
  if last = ')' then return (⟨on, [], true⟩, s)
  if on.any holdsForAll then failAt .globalFlagOn (s.position - 1)
  if last = ':' then return (⟨on, [], false⟩, s)
  let (d, s) ← nextToken "flag" "" s
  let (off, s) ← readOff [] d fuel s
  if off.any holdsForAll then failAt .globalFlagOff (s.position - 1)
  if on.any off.contains then failAt .flagOnAndOff (s.position - 1)
  return (⟨on, off, false⟩, s)

def change (f : Flags) (m : Modes) : Modes :=
  let turned (c : Char) (mode : Bool) : Bool := (mode || f.on.contains c) && !f.off.contains c
  { ignoresCase := turned 'i' m.ignoresCase, multiline := turned 'm' m.multiline
    dotAll := turned 's' m.dotAll, verbose := turned 'x' m.verbose
    ascii := f.on.contains 'a' || (m.ascii && !f.on.contains 'u') }

end Flags

end Mend.Pattern
