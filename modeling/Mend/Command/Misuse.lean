import Mend.Command.Basic

namespace Mend.Command

inductive Misuse
  /-- A name that no option has, with options of similar names. -/
  | unknownOption (name : String) (similar : List String)
  | missingValue (name : String)
  | unwantedValue (name : String)
  | missingOption (p : Parameter)
  | missingFile
  | notWhole (p : Parameter) (text : String)
  | notOneOf (p : Parameter) (text : String)
  | noSuchFile (path : String)
  | isDirectory (path : String)
  | extraWords (first : String) (others : List String)
  | missingCommand
  /-- A name that no command has, with commands of similar names. -/
  | unknownCommand (name : String) (similar : List String)
  /-- The vendor of models that is asked for is not there. -/
  | unavailable (complaint : String)
  deriving DecidableEq, Repr

namespace Misuse

def suggestion : List String → String
  | [] => ""
  | [name] => s!" Did you mean {Text.quoted name}?"
  | names =>
    let listed := ", ".intercalate ((names.mergeSort (· ≤ ·)).map Text.quoted)
    s!" (Did you mean one of: {listed}?)"

def choices (p : Parameter) : String :=
  match p.value with
  | .oneOf names _ => " Choose from:\n\t" ++ ",\n\t".intercalate names
  | _ => ""

def invalid (hint cause : String) : String := s!"Invalid value for {hint}: {cause}"

def fileHint : String := "'FILE'"

def message : Misuse → String
  | unknownOption name similar => s!"No such option {Text.quoted name}." ++ suggestion similar
  | missingValue name => s!"Option {Text.quoted name} requires an argument."
  | unwantedValue name => s!"Option {Text.quoted name} does not take a value."
  | missingOption p => s!"Missing option {p.hint}." ++ choices p
  | missingFile => s!"Missing argument {fileHint}."
  | notWhole p text => invalid p.hint s!"{Text.quoted text} is not a valid integer."
  | notOneOf p text =>
    let names := ", ".intercalate (p.value.names.map Text.quoted)
    invalid p.hint s!"{Text.quoted text} is not one of {names}."
  | noSuchFile path => invalid fileHint s!"File {Text.quoted path} does not exist."
  | isDirectory path => invalid fileHint s!"File {Text.quoted path} is a directory."
  | extraWords word [] => s!"Got unexpected extra argument ({word})"
  | extraWords word others =>
    let words := " ".intercalate (word :: others)
    s!"Got unexpected extra arguments ({words})"
  | missingCommand => "Missing command."
  | unknownCommand name similar => s!"No such command {Text.quoted name}." ++ suggestion similar
  | unavailable complaint => complaint

/-- An option and its value do not go together; then the use of the command is not told. -/
def isAboutValue : Misuse → Bool
  | missingValue _ | unwantedValue _ => true
  | _ => false

def text (c : Command) (m : Misuse) : String :=
  let use := if m.isAboutValue then "" else s!"{c.usage}\nTry '{c.path} --help' for help.\n\n"
  s!"{use}Error: {m.message}\n"

end Misuse

end Mend.Command
