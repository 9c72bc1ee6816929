import Mend.Screen.StyledText

namespace Mend.Panel

def screenWidth : Nat := 80

def frameWidth : Nat := 4

def rule (n : Nat) : List Char := List.replicate n '─'

/-- The title with a blank on either side, cut to the edge and continued by a rule. -/
def titleRuns (border : Style) (width : Nat) (title : StyledText) : Runs :=
  let room := width - frameWidth
  let flat := title.retext (title.text.map fun c => if c = '\n' then ' ' else c)
  let padded := ((StyledText.blanks 1).append flat.untab).append (.blanks 1)
  let kept := (padded.on border).truncate .fold room
  let rest := (StyledText.mk (rule (room - kept.width)) []).on border
  let edge := if kept.width < room then kept.append rest else kept
  ((edge.dropExcess room).truncate .fold room).runs

def top (border : Style) (width : Nat) (title : Option StyledText) : Runs :=
  match title with
  | none => [⟨border, '╭' :: rule (width - 2) ++ ['╮']⟩]
  | some t => ⟨border, ['╭', '─']⟩ :: titleRuns border width t ++ [⟨border, ['─', '╮']⟩]

def bottom (border : Style) (width : Nat) : Runs := [⟨border, '╰' :: rule (width - 2) ++ ['╯']⟩]

def row (border : Style) (width : Nat) (line : Runs) : Runs :=
  let side : Run := ⟨border, ['│']⟩
  side :: Runs.blanks .none 1 ::
    Runs.fitted (width - frameWidth) line ++ [Runs.blanks .none 1, side]

def frame (border : Style) (width : Nat) (title : Option StyledText) (inside : List Runs) : List Runs :=
  top border width title :: inside.map (row border width) ++ [bottom border width]

end Mend.Panel
