import Mend.Screen.StyledText
import Mend.Screen.Theme

/-!
Markup: text with styles in square brackets. A tag opens a style, or closes the one it names; a
backslash before a bracket keeps the bracket literal. Text from elsewhere is escaped before it is
put into markup. Reading tells where the marks of a text are, styling what they look like.
-/

namespace Mend.Markup

def isTagStart (c : Char) : Bool :=
  ('a' ≤ c && c ≤ 'z') || c == '#' || c == '/' || c == '@'

def isInside (c : Char) : Bool := c != '[' && c != ']'

/-- The inside of the tag with which the text starts, if it does. -/
def tag? : List Char → Option (List Char)
  | '[' :: c :: cs =>
    if isTagStart c && (cs.dropWhile isInside).head? == some ']' then
      some (c :: cs.takeWhile isInside)
    else none
  | _ => none

inductive Token
  | plain (c : Char)
  /-- Backslashes, and the inside of the tag that follows them. -/
  | tag (slashes : Nat) (inside : List Char)
  deriving DecidableEq, Repr

/-- Splits markup into its parts; `slashes` backslashes were just read, and `skip` characters belong
to a tag that is done with. -/
def tokens (slashes skip : Nat) : List Char → List Token
  | [] => List.replicate slashes (.plain '\\')
  | c :: cs =>
    match skip with
    | skip + 1 => tokens 0 skip cs
    | 0 =>
      match tag? (c :: cs) with
      | some inside => .tag slashes inside :: tokens 0 (inside.length + 1) cs
      | none =>
        if c = '\\' then tokens (slashes + 1) 0 cs
        else List.replicate slashes (.plain '\\') ++ .plain c :: tokens 0 0 cs

def slashes (n : Nat) : List Char := List.replicate n '\\'

def Token.escaped : Token → List Char
  | plain c => [c]
  | tag n inside => slashes (2 * n + 1) ++ '[' :: inside ++ [']']

/-- A single backslash at the end would reach what follows, so it is doubled. -/
def closed (cs : List Char) : List Char :=
  match cs.reverse with
  | ['\\'] => cs ++ ['\\']
  | '\\' :: c :: _ => if c = '\\' then cs else cs ++ ['\\']
  | _ => cs

/-- Text as markup that shows it. -/
def escape (cs : List Char) : List Char := closed ((tokens 0 0 cs).flatMap Token.escaped)

def escaped (s : String) : String := .ofList (escape s.toList)

inductive Problem
  | nothingToClose (place : Nat)
  | notOpen (inside : List Char) (place : Nat)
  | badColor (fault : Color.Fault)
  deriving DecidableEq, Repr

def Problem.message : Problem → String
  | nothingToClose place => s!"closing tag '[/]' at position {place} has nothing to close"
  | notOpen inside place =>
    s!"closing tag '[{String.ofList inside}]' at position {place} doesn't match any open tag"
  | badColor fault => fault.message

/-- A tag that is open: its name in normal form, what stands behind an equals sign, and the place
where it was opened. -/
structure Tag where
  name : String
  value : Option String
  start : Nat
  deriving DecidableEq, Repr

/-- A name that belongs to an event on the screen and not to a style. -/
def Tag.isEvent (t : Tag) : Bool := t.name.startsWith "@"

def Tag.style (t : Tag) : String :=
  match t.value with
  | some v => t.name ++ " " ++ v
  | none => t.name

/-- Characters that a tag was open for, and the style that it names. -/
structure Mark where
  start : Nat
  stop : Nat
  style : String
  deriving DecidableEq, Repr

def Tag.mark (t : Tag) (stop : Nat) : Mark := ⟨t.start, stop, if t.isEvent then "" else t.style⟩

/-- A name as the words of its style, so that all names of one style are the same. -/
def normal (name : List Char) : Except Problem String := do
  match ← (Style.read name).mapError .badColor with
  | some s => return s.text
  | none => return .ofList (Text.lowerList (Text.trim name))

def partsOf (inside : List Char) : List Char × Option String :=
  match inside.dropWhile (· != '=') with
  | _ :: value => (inside.takeWhile (· != '='), some (.ofList value))
  | [] => (inside, none)

def isControl (c : Char) : Bool :=
  c == '\x07' || c == '\x08' || c == '\x0b' || c == '\x0c' || c == '\r'

/-- Literal text: a backslash before a bracket is dropped. -/
def literal : List Char → List Char
  | '\\' :: '[' :: cs => '[' :: literal cs
  | c :: cs => if isControl c then literal cs else c :: literal cs
  | [] => []

structure State where
  text : List Char
  /-- Plain text not yet taken over, the latest character first. -/
  pending : List Char
  /-- The tags that are open, the latest one first. -/
  tags : List Tag
  /-- The marks of closed tags, the latest one first. -/
  marks : List Mark
  place : Nat

def State.start : State := ⟨[], [], [], [], 0⟩

def State.flush (s : State) : State :=
  { s with text := s.text ++ literal s.pending.reverse, pending := [] }

def State.close (s : State) (t : Tag) : State :=
  { s with tags := s.tags.erase t, marks := t.mark s.text.length :: s.marks }

def State.turn (s : State) (inside : List Char) (place : Nat) : Except Problem State :=
  match partsOf inside with
  | ('/' :: name, _) => do
    let name := Text.trim name
    if name.isEmpty then
      match s.tags with
      | [] => .error (.nothingToClose place)
      | t :: _ => return s.close t
    else
      let name ← normal name
      match s.tags.find? (·.name == name) with
      | some t => return s.close t
      | none => .error (.notOpen inside place)
  | (name, value) => do
    return { s with tags := ⟨← normal name, value, s.text.length⟩ :: s.tags }

-- Codes of pictures between colons, such as `:bug:`, are not replaced by the pictures here, and
-- handlers of clicks, `@click`, are read like any other event.
def State.next (s : State) : Token → Except Problem State
  | .plain c => .ok { s with pending := c :: s.pending, place := s.place + 1 }
  | .tag n inside =>
    let s := s.flush
    let s := { s with text := s.text ++ slashes (n / 2) }
    let after := s.place + n + inside.length + 2
    if n % 2 = 1 then
      let shown := ('[' :: inside ++ [']']).filter (!isControl ·)
      .ok { s with text := s.text ++ shown, place := after }
    else do return { ← s.turn inside (s.place + n) with place := after }

/-- Text with its marks; a later mark lies on top of an earlier one. -/
structure Marked where
  text : List Char
  marks : List Mark
  deriving DecidableEq, Repr

/-- The text that was read. Tags that are still open end with the text, and of two marks that start
together the one that ends first lies on top. -/
def State.marked (s : State) : Marked :=
  let s := s.flush
  let stillOpen := s.tags.map (·.mark s.text.length)
  ⟨s.text, (stillOpen.reverse ++ s.marks).mergeSort fun a b => a.start ≤ b.start⟩

def read (cs : List Char) : Except Problem Marked := do
  return (← (tokens 0 0 cs).foldlM State.next State.start).marked

def Mark.span (m : Mark) : Except Problem Span := do
  return ⟨m.start, m.stop, ← (Style.named m.style).mapError .badColor⟩

def Marked.styled (m : Marked) : Except Problem StyledText := do
  return ⟨m.text, ← m.marks.mapM Mark.span⟩

end Mend.Markup
