import Mend.Screen.Color

namespace Mend

inductive Attribute
  | bold
  | dim
  | italic
  | underline
  | blink
  | rapidBlink
  | reverse
  | conceal
  | strike
  | doubleUnderline
  | frame
  | encircle
  | overline
  deriving DecidableEq, Repr

namespace Attribute

def list : List Attribute :=
  [bold, dim, italic, underline, blink, rapidBlink, reverse, conceal, strike, doubleUnderline,
   frame, encircle, overline]

def name : Attribute → String
  | bold => "bold"
  | dim => "dim"
  | italic => "italic"
  | underline => "underline"
  | blink => "blink"
  | rapidBlink => "blink2"
  | reverse => "reverse"
  | conceal => "conceal"
  | strike => "strike"
  | doubleUnderline => "underline2"
  | frame => "frame"
  | encircle => "encircle"
  | overline => "overline"

def shortName? : Attribute → Option String
  | bold => some "b"
  | dim => some "d"
  | italic => some "i"
  | underline => some "u"
  | reverse => some "r"
  | conceal => some "c"
  | strike => some "s"
  | doubleUnderline => some "uu"
  | overline => some "o"
  | _ => none

def code : Attribute → String
  | bold => "1"
  | dim => "2"
  | italic => "3"
  | underline => "4"
  | blink => "5"
  | rapidBlink => "6"
  | reverse => "7"
  | conceal => "8"
  | strike => "9"
  | doubleUnderline => "21"
  | frame => "51"
  | encircle => "52"
  | overline => "53"

def ofWord? (word : String) : Option Attribute :=
  list.find? fun a => a.name == word || a.shortName? == some word

end Attribute

structure Style where
  /-- What is turned on or off; the first entry for an attribute counts. -/
  attributes : List (Attribute × Bool) := []
  color : Option Color := none
  background : Option Color := none
  link : Option String := none
  deriving DecidableEq, Repr

namespace Style

def none : Style := {}

def ofColor (c : Color) : Style := { color := some c }

def ofAttribute (a : Attribute) : Style := { attributes := [(a, true)] }

def turn (s : Style) (a : Attribute) (b : Bool) : Style :=
  { s with attributes := (a, b) :: s.attributes }

/-- A style put on top of another one; what it sets wins. -/
def onto (upper lower : Style) : Style where
  attributes := upper.attributes ++ lower.attributes
  color := upper.color.or lower.color
  background := upper.background.or lower.background
  link := upper.link.or lower.link

def codes (s : Style) : List String :=
  ((Attribute.list.filter fun a => s.attributes.lookup a == some true).map Attribute.code) ++
    (s.color.map fun c => toString c.code).toList ++
    (s.background.map fun c => toString c.backgroundCode).toList

def text (s : Style) : String :=
  let attributes := Attribute.list.filterMap fun a =>
    (s.attributes.lookup a).map fun b => if b then a.name else "not " ++ a.name
  let words := attributes ++ (s.color.map (·.name)).toList ++
    (s.background.map fun c => "on " ++ c.name).toList ++ (s.link.map ("link " ++ ·)).toList
  if words.isEmpty then "none" else " ".intercalate words

def wordsOf (cs : List Char) : List (List Char) :=
  (Lines.split ' ' (cs.map fun c => if Text.isBlank c then ' ' else c)).filter (!·.isEmpty)

def addWords (s : Style) : List (List Char) → Except Color.Fault (Option Style)
  | [] => .ok (some s)
  | w :: ws => do
    let word := String.ofList (Text.lowerList w)
    if word = "on" then
      match ws with
      | [] => return .none
      | v :: ws =>
        match ← Color.read v with
        | some c => addWords { s with background := some c } ws
        | .none => return .none
    else if word = "not" then
      match ws with
      | [] => return .none
      | v :: ws =>
        match Attribute.ofWord? (.ofList v) with
        | some a => addWords (s.turn a false) ws
        | .none => return .none
    else if word = "link" then
      match ws with
      | [] => return .none
      | v :: ws => addWords { s with link := some (.ofList v) } ws
    else
      match Attribute.ofWord? word with
      | some a => addWords (s.turn a true) ws
      | .none =>
        match ← Color.read w with
        | some c => addWords { s with color := some c } ws
        | .none => return .none

def read (cs : List Char) : Except Color.Fault (Option Style) :=
  if Text.trim cs = "none".toList then .ok (some none) else addWords none (wordsOf cs)

end Style

end Mend
