import Mend.Json.Basic
import Mend.Text.Lowercase
import Mend.Text.Trim

namespace Mend

inductive Edit.Kind
  | insert
  | delete
  | replace
  | modify
  | cleanup
  deriving DecidableEq, Repr

namespace Edit.Kind

def name : Kind → String
  | insert => "insert"
  | delete => "delete"
  | replace => "replace"
  | modify => "modify"
  | cleanup => "cleanup"

def list : List Kind := [insert, delete, replace, modify, cleanup]

/-- The kind a value names; anything else is a modification. -/
def ofJson : Json → Kind
  | .str s => (list.find? (·.name == Text.lower (Text.trimmed s))).getD modify
  | _ => modify

end Edit.Kind

structure Edit where
  kind : Edit.Kind
  /-- Counted from one. -/
  line : Option Int := none
  /-- Counted from zero within the line. -/
  column : Option Int := none
  text : Option String := none
  oldCode : Option String := none
  newCode : Option String := none
  file : Option String := none
  endLine : Option Int := none
  description : Option String := none
  deriving DecidableEq, Repr

namespace Edit

def span? (e : Edit) : Option (Int × Int) := e.line.map fun l => (l, e.endLine.getD l)

def intField (name : String) (v : Option Int) : Json.Fields :=
  match v with
  | some n => [(name, .num (.int n))]
  | none => []

def textField (name : String) (v : Option String) : Json.Fields :=
  match v with
  | some s => [(name, .str s)]
  | none => []

def toFields (e : Edit) : Json.Fields :=
  [("type", .str e.kind.name)] ++ textField "file" e.file ++ intField "line" e.line ++
    intField "endLine" e.endLine ++ intField "column" e.column ++ textField "text" e.text ++
    textField "oldCode" e.oldCode ++ textField "newCode" e.newCode ++
    textField "description" e.description

def toJson (e : Edit) : Json := .obj e.toFields

/-- The value under a name, or under its other spelling if the name is absent. -/
def valueOf? (fs : Json.Fields) (name : String) (other : Option String) : Option Json :=
  (Json.Fields.get? fs name).or (other.bind (Json.Fields.get? fs))

def intOf? (fs : Json.Fields) (name : String) (other : Option String := none) : Option Int :=
  (valueOf? fs name other).bind Json.int?

def textOf? (fs : Json.Fields) (name : String) (other : Option String := none) : Option String :=
  (valueOf? fs name other).bind Json.str?

def ofFields (fs : Json.Fields) : Edit where
  kind := Kind.ofJson ((Json.Fields.get? fs "type").getD .null)
  line := intOf? fs "line"
  column := intOf? fs "column"
  text := textOf? fs "text"
  oldCode := textOf? fs "oldCode" "old_code"
  newCode := textOf? fs "newCode" "new_code"
  file := textOf? fs "file"
  endLine := intOf? fs "endLine" "end_line"
  description := textOf? fs "description"

end Edit

end Mend
