import Mend.Pattern.Escape
import Mend.Text.Name

namespace Mend.Pattern

inductive Piece
  | text (cs : List Char)
  | match_
  deriving DecidableEq, Repr

inductive ReplacementError
  | fault (f : Fault)
  | unknownGroup (name : String)
  deriving DecidableEq, Repr

namespace Piece

def step (e : Source.Step α) : Except ReplacementError α := e.mapError .fault

def escaped (c : Char) (start : Nat) (s : Source) : Except ReplacementError (Piece × Source) := do
  if c = 'g' then
    let (opened, s) ← step (s.accept '<')
    if !opened then step (Source.failAt (.missing "<") s.position)
    let (name, s) ← step (s.upTo "group name" '>')
    if Text.isName name then throw (.unknownGroup (.ofList name))
    match groupNumber? name with
    | none =>
      step (Source.failAt (.badGroupName (.ofList name)) (s.position - (name.length + 1)))
    | some 0 => return (match_, s)
    | some n => step (Source.failAt (.noGroup n) (s.position - (name.length + 1)))
  if c = '0' then
    let (ds, s) ← step (s.takeIn isOctal 2)
    return (text [Char.ofNat (octal ds)], s)
  if c.isDigit then
    let (r, _, s) ← step (digitEscape c s)
    match r with
    | .inl n => return (text [Char.ofNat n], s)
    | .inr n => step (Source.failAt (.noGroup n) (start + 1))
  if let some d := controlEscape? c then return (text [d], s)
  if c.isAlpha then step (Source.failAt (.badEscape (.ofList ['\\', c])) start)
  return (text ['\\', c], s)

def readFrom : (fuel : Nat) → Source → Except ReplacementError (List Piece)
  | 0, _ => .ok []
  | fuel + 1, s => do
    match s.peek? with
    | none => return []
    | some t =>
      let start := s.position
      let s ← step s.skip
      match t with
      | ['\\', c] =>
        let (p, s) ← escaped c start s
        return p :: (← readFrom fuel s)
      | t => return text t :: (← readFrom fuel s)

def read (source : List Char) : Except ReplacementError (List Piece) := do
  readFrom (source.length + 1) (← step (Source.ofText source))

def fill (pieces : List Piece) (matched : List Char) : List Char :=
  pieces.flatMap fun
    | text cs => cs
    | match_ => matched

end Piece

def ReplacementError.message (source : List Char) : ReplacementError → String
  | fault f => f.message source
  | unknownGroup name => s!"unknown group name {Text.quoted name}"

end Mend.Pattern
