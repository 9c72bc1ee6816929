import Mend.Log.Layout

/-!
Lines of the log. A line that comes with values is a template: braces mark the fields where values
go, and a brace that stands for itself is written twice. A field names a value or a part of one, and
may say how it is converted and laid out; a layout may have fields of its own. A line made of text
from elsewhere need not be such a template, and then it cannot be logged.
-/

namespace Mend.Log

structure Field where
  name : List Char
  conversion : Option Char := none
  layout : List Char := []

def value? (name : String) : Option Value := if name = "exc_info" then some .truth else none

def numberOf? (name : List Char) : Except Problem (Option Nat) := do
  let (n, rest) ← readNumber name
  return if rest.isEmpty then n else none

def isPartStart (c : Char) : Bool := c == '.' || c == '['

def base (name : List Char) : Except Problem Value := do
  match ← numberOf? name, value? (.ofList name) with
  | some i, _ => .error (.noField i)
  | none, some v => .ok v
  | none, none => .error (if name.isEmpty then .noField 0 else .unknownField (.ofList name))

def namedPart (bracket : Bool) (v : Value) (name : List Char) : Except Problem Value :=
  if bracket then do
    let position ← numberOf? name
    if name.isEmpty then .error .emptyPart else v.item position (.ofList name)
  else if name.isEmpty then .error .emptyPart
  else v.part (.ofList name)

inductive Naming
  | part (name : List Char)
  | item (name : List Char)
  | start

def reach (v : Value) : Naming → List Char → Except Problem Value
  | .start, [] => .ok v
  | .start, c :: cs =>
    if c = '.' then reach v (.part []) cs
    else if c = '[' then reach v (.item []) cs
    else .error .badPartStart
  | .part name, [] => namedPart false v name
  | .part name, c :: cs =>
    if isPartStart c then do
      let w ← namedPart false v name
      reach w (if c = '.' then .part [] else .item []) cs
    else reach v (.part (name ++ [c])) cs
  | .item name, [] => namedPart true v name
  | .item name, c :: cs =>
    if c = ']' then do
      let w ← namedPart true v name
      reach w .start cs
    else reach v (.item (name ++ [c])) cs

def Field.value (f : Field) : Except Problem Value := do
  let v ← base (f.name.takeWhile fun c => !isPartStart c)
  reach v .start (f.name.dropWhile fun c => !isPartStart c)

def convert (v : Value) : Option Char → Except Problem Value
  | none => .ok v
  | some c =>
    if c = 's' then .ok (.text v.shown)
    else if c = 'r' || c = 'a' then .ok (.text v.quoted)
    else .error (.unknownConversion c)

def Field.shown (expand : List Char → Except Problem (List Char)) (f : Field) :
    Except Problem Shown := do
  let v ← convert (← f.value) f.conversion
  let layout ← if f.layout.contains '\x7b' then expand f.layout else .ok f.layout
  Shown.of v layout

inductive Place
  | text
  | opening
  | closing
  | name (name : List Char)
  | bracket (name : List Char)
  | conversion (name : List Char)
  | converted (name : List Char) (mark : Char)
  | layout (f : Field) (depth : Nat)

def Place.atEnd? : Place → Option Problem
  | text => none
  | opening => some .loneOpening
  | closing => some .loneClosing
  | name _ | bracket _ => some .unclosedField
  | conversion _ => some .noConversion
  | converted _ _ | layout _ _ => some .unclosedLayout

inductive Step
  | text (c : Char)
  | field (f : Field)
  | inside (p : Place)

def inName (name : List Char) (c : Char) : Except Problem Step :=
  if c = '\x7b' then .error .nestedOpening
  else if c = '\x7d' then .ok (.field { name })
  else if c = ':' then .ok (.inside (.layout { name } 0))
  else if c = '!' then .ok (.inside (.conversion name))
  else if c = '[' then .ok (.inside (.bracket (name ++ [c])))
  else .ok (.inside (.name (name ++ [c])))

def inLayout (f : Field) (depth : Nat) (c : Char) : Step :=
  let longer := { f with layout := f.layout ++ [c] }
  if c = '\x7b' then .inside (.layout longer (depth + 1))
  else if c = '\x7d' then
    match depth with
    | 0 => .field f
    | d + 1 => .inside (.layout longer d)
  else .inside (.layout longer depth)

def Place.next (c : Char) : Place → Except Problem Step
  | text => .ok (if c = '\x7b' then .inside opening else if c = '\x7d' then .inside closing
      else .text c)
  | opening => if c = '\x7b' then .ok (.text c) else inName [] c
  | closing => if c = '\x7d' then .ok (.text c) else .error .loneClosing
  | name n => inName n c
  | bracket n => .ok (.inside (if c = ']' then name (n ++ [c]) else bracket (n ++ [c])))
  | conversion n => .ok (.inside (converted n c))
  | converted n mark =>
    if c = '\x7d' then .ok (.field { name := n, conversion := some mark })
    else if c = ':' then .ok (.inside (layout { name := n, conversion := some mark } 0))
    else .error .noColon
  | layout f depth => .ok (inLayout f depth c)

def fill (put : Field → Except Problem (List Char)) :
    Place → List Char → Except Problem (List Char)
  | p, [] =>
    match p.atEnd? with
    | some e => .error e
    | none => .ok []
  | p, c :: cs =>
    match p.next c with
    | .error e => .error e
    | .ok (.text c) => (fill put .text cs).map (c :: ·)
    | .ok (.inside p) => fill put p cs
    | .ok (.field f) =>
      match put f with
      | .error e => .error e
      | .ok shown => (fill put .text cs).map (shown ++ ·)

/-- A template with its values, its fields nested less than `levels` deep. -/
def expand : (levels : Nat) → List Char → Except Problem (List Char)
  | 0, _ => .error .tooDeep
  | n + 1, line => fill (fun f => (f.shown (expand n)).map Shown.text) .text line

def problem? (line : String) : Option Problem :=
  match fill (fun f => (f.shown (expand 1)).map fun _ => []) .text line.toList with
  | .ok _ => none
  | .error e => some e

end Mend.Log
