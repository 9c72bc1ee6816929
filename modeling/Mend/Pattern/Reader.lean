import Mend.Pattern.Escape
import Mend.Pattern.Flags
import Mend.Pattern.Groups

/-!
Reading patterns. A source is made of characters, sets of them in brackets, `.` for any character of
a line, repetition by `*`, `+`, `?` or `{m,n}`, `|` between alternatives, anchors, and groups in
parentheses, which may also look ahead or behind, refer to other groups or change flags; a backslash
takes the next character for itself or gives it a meaning. Letters match without regard to case
unless a flag says so.
-/

namespace Mend.Pattern

open Source (failAt fail)

def escapePart (m : Modes) (c : Char) (start : Nat) (g : Groups) (s : Source) :
    Source.Step (Part × Source) := do
  let number (n : Nat) : Part := .ofNumber m.folding n
  if c = 'b' then return (.anchor (.boundary m.ascii), s)
  if c = 'A' then return (.anchor .beginning, s)
  if c = 'B' then return (.anchor (.noBoundary m.ascii), s)
  if c = 'Z' then return (.anchor .textEnding, s)
  if let some k := kindEscape? m.ascii c then return (.ofSet (.listed m.folding false [k]), s)
  if let some d := controlEscape? c then return (number d.toNat, s)
  if let some step := letterEscape? c start s then return (← step).map number id
  if c = '0' then
    let (ds, s) ← s.takeIn isOctal 2
    return (number (octal ds), s)
  if c.isDigit then
    let (r, _, s) ← digitEscape c s
    match r with
    | .inl n => return (number n, s)
    | .inr n =>
      if n ≤ g.opened then return (← g.mention m.folding n start s.position, s)
      else failAt (.noGroup n) (start + 1)
  if c.isAlpha then badEscape ['\\', c] start
  return (number c.toNat, s)

def setMember (ascii : Bool) (t : List Char) (start : Nat) (s : Source) :
    Source.Step (Member × Source) :=
  match t with
  | ['\\', c] => memberEscape ascii c start s
  | t =>
    let n := (t.head?.map Char.toNat).getD 0
    .ok (.code n, s)

/-- Reads the members of a set to its closing bracket, from behind the opening one at `start`. -/
def setEnd (ascii : Bool) (start : Nat) (done : List Member) :
    Nat → Source → Source.Step (List Member × Source)
  | 0, _ => failAt .unclosedSet start
  | fuel + 1, s => do
    let some t := s.peek? | failAt .unclosedSet start
    let at₁ := s.position
    let s ← s.skip
    if t = [']'] && !done.isEmpty then return (done, s)
    let (low, s) ← setMember ascii t at₁ s
    let (ranged, s) ← s.accept '-'
    if !ranged then setEnd ascii start (low :: done) fuel s
    else
      let some u := s.peek? | failAt .unclosedSet start
      let at₂ := s.position
      let s ← s.skip
      if u = [']'] then return (.code '-'.toNat :: low :: done, s)
      let (high, s) ← setMember ascii u at₂ s
      let bad := Problem.badRange (.ofList t) (.ofList u)
      match low, high with
      | .code a, .code b =>
        if b < a then failAt bad (s.position - (t.length + 1 + u.length))
        else setEnd ascii start (.range a b :: done) fuel s
      | _, _ => failAt bad (s.position - (t.length + 1 + u.length))

def setPart (m : Modes) (start : Nat) (s : Source) : Source.Step (Part × Source) := do
  let (negated, s) ← s.accept '^'
  let (members, s) ← setEnd m.ascii start [] (s.left.length + 1) s
  return (.ofMembers m.folding negated members.reverse.eraseDups, s)

/-- More copies than this cannot be counted. -/
def maxCount : Nat := Nat.pow 2 32 - 1

/-- A number of copies, none if it is left out. -/
def count? (ds : List Char) : Source.Step (Option Nat) :=
  if ds.isEmpty then .ok none
  else if Json.maxDigits < ds.length then fail (.tooManyDigits ds.length)
  else if maxCount ≤ decimal ds then fail .tooManyCopies
  else .ok (some (decimal ds))

/-- The bounds of a repetition in braces, from behind the opening one; none if it is no
repetition. -/
def bounds? (s : Source) : Source.Step (Option (Nat × Option Nat × Source)) := do
  let start := s.position
  let (low, s) ← s.takeIn (·.isDigit) s.length
  let (comma, s) ← s.accept ','
  let (high, s) ← if comma then s.takeIn (·.isDigit) s.length else pure (low, s)
  let (closed, s) ← s.accept '}'
  if !closed then return none
  let low := (← count? low).getD 0
  let high ← count? high
  if high.any (· < low) then failAt .minAboveMax start
  return some (low, high, s)

/-- Repeats the last part read; the mark of the repetition stands at `start`. -/
def repeatPart (done : List Part) (low : Nat) (high : Option Nat) (start : Nat) (g : Groups)
    (s : Source) : Source.Step (List Part × Source) := do
  match done with
  | [] => failAt .nothingToRepeat start
  | p :: rest =>
    if p.kind = .anchor then failAt .nothingToRepeat start
    if p.kind = .repetition then failAt .multipleRepeat start
    let (least, s) ← s.accept '?'
    let (final, s) ← if least then pure (false, s) else s.accept '+'
    let manner : Manner := if least then .least else if final then .final else .most
    return (p.repeated low high manner (g.flags.contains 't') :: rest, s)

inductive Opening
  /-- A group that has a number and perhaps a name. -/
  | numbered (name : Option String)
  | plain
  | final
  | flagged (f : Flags)
  | look (behind negated : Bool)
  /-- Alternatives of which one holds if the group of a number has matched. -/
  | conditional (number : Nat)
  /-- Something that is complete: a part, or nothing. -/
  | complete (p : Option Part)

def groupName (terminator : Char) (s : Source) : Source.Step (String × Source) := do
  let (name, s) ← s.upTo "group name" terminator
  if Text.isName name then return (.ofList name, s)
  else failAt (.badGroupName (.ofList name)) (s.position - (name.length + 1))

def namedRecall (m : Modes) (g : Groups) (s : Source) : Source.Step (Part × Source) := do
  let (name, s) ← groupName ')' s
  let start := s.position - (name.length + 1)
  match g.number? name with
  | none => failAt (.unknownGroup name) start
  | some n => return (← g.mention m.folding n start s.position, s)

def maxGroups : Nat := Nat.pow 2 30 - 1

def condition (g : Groups) (s : Source) : Source.Step (Nat × Groups × Source) := do
  let (name, s) ← s.upTo "group name" ')'
  let start := s.position - (name.length + 1)
  if Text.isName name then
    match g.number? (.ofList name) with
    | none => failAt (.unknownGroup (.ofList name)) start
    | some n =>
      g.checkLook n s.position
      return (n, g, s)
  else
    match groupNumber? name with
    | none => failAt (.badGroupName (.ofList name)) start
    | some 0 => failAt .zeroGroup start
    | some n =>
      if maxGroups ≤ n then failAt (.noGroup n) start
      g.checkLook n s.position
      return (n, g.await n start, s)

def unknownExtension (t : List Char) (s : Source) : Source.Step α :=
  failAt (.unknownExtension (.ofList t)) (s.position - (t.length + 1))

def required (s : Source) : Source.Step (List Char × Source) := do
  let some t := s.peek? | failAt .unexpectedEnd s.position
  return (t, ← s.skip)

/-- What follows an opening parenthesis and a question mark; the parenthesis stands at `start`. -/
def extension (m : Modes) (start : Nat) (g : Groups) (s : Source) :
    Source.Step (Opening × Groups × Source) := do
  let (t, s) ← required s
  match t with
  | [':'] => return (.plain, g, s)
  | ['>'] => return (.final, g, s)
  | ['='] => return (.look false false, g, s)
  | ['!'] => return (.look false true, g, s)
  | ['#'] =>
    let (closed, s) ← s.skipPast (· == [')']) (s.left.length + 1)
    if closed then return (.complete none, g, s) else failAt .unclosedComment start
  | ['<'] =>
    let (u, s) ← required s
    if u = ['='] then return (.look true false, g, s)
    if u = ['!'] then return (.look true true, g, s)
    unknownExtension ('<' :: u) s
  | ['P'] =>
    let (u, s) ← required s
    match u with
    | ['<'] =>
      let (name, s) ← groupName '>' s
      return (.numbered (some name), g, s)
    | ['='] =>
      let (p, s) ← namedRecall m g s
      return (.complete (some p), g, s)
    | u => unknownExtension ('P' :: u) s
  | ['('] =>
    let (n, g, s) ← condition g s
    return (.conditional n, g, s)
  | [c] =>
    if c = '-' || Flags.isFlag [c] then
      let (f, s) ← Flags.read c s
      return (.flagged f, g, s)
    else unknownExtension [c] s
  | t => unknownExtension t s

def opening (m : Modes) (start : Nat) (g : Groups) (s : Source) :
    Source.Step (Opening × Groups × Source) := do
  let (extended, s) ← s.accept '?'
  if extended then extension m start g s else return (.numbered none, g, s)

def closing (start : Nat) (s : Source) : Source.Step Source := do
  let (closed, s) ← s.accept ')'
  if closed then return s else failAt .unclosed start

/-- Blanks and comments of a source in which they mean nothing. -/
def isFiller (c : Char) : Bool := " \t\n\r\x0b\x0c".toList.contains c

/-- Where in a pattern a sequence stands: how it is read and matched, the number of groups around
it, and whether alternatives stand before it. -/
structure Place where
  modes : Modes
  depth : Nat
  first : Bool

namespace Place

def outermost (p : Place) : Bool := p.depth == 0

def inner (p : Place) (modes : Modes) : Place := ⟨modes, p.depth + 1, false⟩

end Place

-- At most this many groups stand inside each other. The number stands for the limit on recursion,
-- which leaves the fewer levels the deeper the caller stands.
def maxNesting : Nat := 480

mutual

/-- Alternatives up to the end or a closing parenthesis; those `done` come last one first. -/
def alternatives : (fuel : Nat) → Place → List Part → Groups → Source →
    Source.Step (Part × Groups × Source)
  | 0, _, _, _, s => failAt .unexpectedEnd s.position
  | fuel + 1, at_, done, g, s => do
    let (p, g, s) ← sequence fuel at_ [] g s
    let (more, s) ← s.accept '|'
    let modes := if at_.outermost then g.modes else at_.modes
    if more then alternatives fuel { at_ with modes, first := false } (p :: done) g s
    else return (.choice modes.folding (p :: done).reverse, g, s)

/-- Parts up to the end, a bar or a closing parenthesis; those `done` come last one first. -/
def sequence : (fuel : Nat) → Place → List Part → Groups → Source →
    Source.Step (Part × Groups × Source)
  | 0, _, _, _, s => failAt .unexpectedEnd s.position
  | fuel + 1, at_, done, g, s => do
    let start := s.position
    match s.peek? with
    | none | some ['|'] | some [')'] => return (.sequence done.reverse, g, s)
    | some t =>
      let s ← s.skip
      match t with
      | ['\\', c] =>
        let (p, s) ← escapePart at_.modes c start g s
        sequence fuel at_ (p :: done) g s
      | t =>
        match t with
        | ['['] =>
          let (p, s) ← setPart at_.modes start s
          sequence fuel at_ (p :: done) g s
        | ['*'] =>
          let (done, s) ← repeatPart done 0 none start g s
          sequence fuel at_ done g s
        | ['+'] =>
          let (done, s) ← repeatPart done 1 none start g s
          sequence fuel at_ done g s
        | ['?'] =>
          let (done, s) ← repeatPart done 0 (some 1) start g s
          sequence fuel at_ done g s
        | ['{'] =>
          match ← if s.nextIs '}' then pure none else bounds? s with
          | none => sequence fuel at_ (.ofNumber at_.modes.folding '{'.toNat :: done) g s
          | some (low, high, s) =>
            let (done, s) ← repeatPart done low high start g s
            sequence fuel at_ done g s
        | ['.'] => sequence fuel at_ (.ofSet at_.modes.dot :: done) g s
        | ['^'] => sequence fuel at_ (.anchor at_.modes.beginning :: done) g s
        | ['$'] => sequence fuel at_ (.anchor at_.modes.ending :: done) g s
        | ['('] =>
          let (o, g, s) ← opening at_.modes start g s
          match o with
          | .flagged ⟨on, _, true⟩ =>
            if !at_.first || !done.isEmpty then failAt .lateFlags start
            let g := { g with flags := on ++ g.flags }
            sequence fuel { at_ with modes := g.modes } done g s
          | .complete p => sequence fuel at_ (p.toList ++ done) g s
          | o =>
            let (p, g, s) ← group fuel at_ o start g s
            sequence fuel at_ (p :: done) g s
        | [c] =>
          if at_.modes.verbose && isFiller c then sequence fuel at_ done g s
          else if at_.modes.verbose && c = '#' then
            let (_, s) ← s.skipPast (· == ['\n']) (s.left.length + 1)
            sequence fuel at_ done g s
          else sequence fuel at_ (.ofNumber at_.modes.folding c.toNat :: done) g s
        | _ => sequence fuel at_ done g s

/-- What stands in a group, from behind its opening at `start`, and the closing parenthesis; the
group stands at a place. -/
def group : (fuel : Nat) → Place → Opening → (start : Nat) → Groups → Source →
    Source.Step (Part × Groups × Source)
  | 0, _, _, _, _, s => failAt .unexpectedEnd s.position
  | fuel + 1, at_, o, start, g, s => do
    if at_.depth = maxNesting then fail .tooDeep
    let inside := at_.inner at_.modes
    match o with
    | .numbered name =>
      let (n, g) ← g.openGroup name (s.position - ((name.map String.length).getD 0 + 1))
      let (p, g, s) ← alternatives fuel inside [] g s
      let s ← closing start s
      return (p.enclosed (.group n), g.close n p.width, s)
    | .flagged f =>
      let (p, g, s) ← alternatives fuel (at_.inner (f.change at_.modes)) [] g s
      return (p.enclosed id, g, ← closing start s)
    | .look behind negated =>
      let outer := g.look
      let (p, g, s) ← alternatives fuel inside [] (if behind then g.enterLook else g) s
      let g := if behind then { g with look := outer } else g
      return (p.look behind negated, g, ← closing start s)
    | .conditional n =>
      let (yes, g, s) ← sequence fuel inside [] g s
      let (more, s) ← s.accept '|'
      let (no, g, s) ← if more then sequence fuel inside [] g s else pure (.empty, g, s)
      if more && s.nextIs '|' then failAt .thirdBranch s.position
      return (yes.ifGroup n no, g, ← closing start s)
    | .final =>
      let (p, g, s) ← alternatives fuel inside [] g s
      return (p.final, g, ← closing start s)
    | _ =>
      let (p, g, s) ← alternatives fuel inside [] g s
      return (p, g, ← closing start s)

end

def checkWhole (p : Part) (g : Groups) (s : Source) : Source.Step Unit := do
  if g.flags.contains 'a' && g.flags.contains 'u' then fail .clashingFlags
  if s.peek?.isSome then failAt .unbalanced s.position
  if let some (n, position) := g.missing? then failAt (.noGroup n) position
  if let some flaw := p.flaw then fail flaw

def read (source : List Char) : Except Fault Expression := do
  let s ← Source.ofText source
  let g : Groups := {}
  let (p, g, s) ← alternatives (3 * source.length + 3) ⟨g.modes, 0, true⟩ [] g s
  checkWhole p g s
  return p.searched g.modes.ascii

end Mend.Pattern
