import Mend.Command.Basic
import Mend.Screen.StyledText

namespace Mend.Command

def helpWidth : Nat := 78

def maxColumn : Nat := 30

def paragraph (width : Nat) (text : String) : List String :=
  ((StyledText.ofString text).wrap .fold width).map fun l => .ofList (Text.trimRight l.text)

def indent (n : Nat) (text : String) : String := .ofList (List.replicate n ' ') ++ text

def columnWidth (rows : List (String × String)) : Nat :=
  min ((rows.map (·.1.length)).foldl max 0) maxColumn + 2

/-- The lines of a row; a left text that is too wide has a line of its own. -/
def rowLines (width : Nat) (row : String × String) : List String :=
  let (left, right) := row
  let right := paragraph (helpWidth - width - 2) right
  if left.length + 2 ≤ width then
    match right with
    | [] => [indent 2 left]
    | r :: rs => indent 2 (left ++ indent (width - left.length) r) :: rs.map (indent (width + 2))
  else indent 2 left :: right.map (indent (width + 2))

def listing (title : String) (rows : List (String × String)) : List String :=
  if rows.isEmpty then [] else "" :: (title ++ ":") :: rows.flatMap (rowLines (columnWidth rows))

def valueName : Parameter.Value → String
  | .nothing => ""
  | .whole => " INTEGER"
  | .text => " TEXT"
  | .oneOf names _ => " [" ++ "|".intercalate names ++ "]"

def optionNames (p : Parameter) : String :=
  ", ".intercalate ((p.letter.map Parameter.shortName).toList ++ [" / ".intercalate p.spellings]) ++
    valueName p.value

def remark (p : Parameter) : String :=
  if p.required then "  [required]"
  else match p.default with
    | some d => s!"  [default: {d}]"
    | none => ""

def optionRow (p : Parameter) : String × String := (optionNames p, p.help ++ remark p)

def help (c : Command) : String :=
  let lines := c.usage :: "" :: (paragraph (helpWidth - 2) c.about).map (indent 2) ++
    listing "Options" (c.options.map optionRow) ++ listing "Commands" c.below
  String.join (lines.map (· ++ "\n"))

end Mend.Command
