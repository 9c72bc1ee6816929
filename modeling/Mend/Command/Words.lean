import Mend.Command.Misuse
import Mend.Text.Similar

/-!
The words of a command line, sorted into options and others. Two hyphens end the options; an option
that needs a value takes what stands behind its equals sign or its letter, or else the next word.
-/

namespace Mend.Command

structure Mention where
  name : String
  value : String
  deriving DecidableEq, Repr

structure Words where
  mentions : List Mention
  others : List String
  deriving DecidableEq, Repr

namespace Words

def withMention (m : Mention) (w : Words) : Words := { w with mentions := m :: w.mentions }

def withOther (s : String) (w : Words) : Words := { w with others := s :: w.others }

inductive Reading
  | complete (m : Mention)
  /-- The value is the next word. -/
  | needsValue (p : Parameter) (written : String)

def isOption : List Char → Bool
  | '-' :: _ :: _ => true
  | _ => false

def readLong (c : Command) (word : List Char) : Except Misuse Reading :=
  let written := String.ofList (word.takeWhile (· != '='))
  let value := (word.dropWhile (· != '=')).tail?
  match c.options.find? (·.spellings.contains written) with
  | none =>
    .error (.unknownOption written (Similar.closest (c.options.flatMap (·.spellings)) written))
  | some p =>
    match p.takesValue, value with
    | true, some v => .ok (.complete ⟨p.name, .ofList v⟩)
    | true, none => .ok (.needsValue p written)
    | false, some _ => .error (.unwantedValue written)
    | false, none => .ok (.complete ⟨p.name, written⟩)

def readShort (c : Command) (letter : Char) (rest : List Char) : Except Misuse Reading :=
  let written := Parameter.shortName letter
  match c.options.find? (·.letter = some letter) with
  | none => .error (.unknownOption written [])
  | some p => .ok (if rest.isEmpty then .needsValue p written else .complete ⟨p.name, .ofList rest⟩)

def read (c : Command) : List Char → Except Misuse Reading
  | '-' :: '-' :: cs => readLong c ('-' :: '-' :: cs)
  | _ :: letter :: cs => readShort c letter cs
  | word => .error (.unknownOption (.ofList word) [])

def sort (c : Command) : List String → Except Misuse Words
  | [] => .ok ⟨[], []⟩
  | w :: ws =>
    if w = "--" then .ok ⟨[], ws⟩
    else if isOption w.toList then
      match read c w.toList with
      | .error e => .error e
      | .ok (.complete m) => (sort c ws).map (withMention m)
      | .ok (.needsValue p written) =>
        match ws with
        | [] => .error (.missingValue written)
        | v :: ws => (sort c ws).map (withMention ⟨p.name, v⟩)
    else if c.mixed then (sort c ws).map (withOther w)
    else .ok ⟨[], w :: ws⟩

def value? (w : Words) (p : Parameter) : Option String :=
  ((w.mentions.filter (·.name == p.name)).getLast?).map (·.value)

def has (w : Words) (p : Parameter) : Bool := (w.value? p).isSome

/-- The rank of an option: options that are given come in the order of their first mention, then
other words, then options that are not given. -/
def rank (w : Words) (p : Parameter) : Nat :=
  let i := w.mentions.findIdx (·.name == p.name)
  if i < w.mentions.length then i else w.mentions.length + 1

def othersRank (w : Words) : Nat := w.mentions.length

end Words

end Mend.Command
