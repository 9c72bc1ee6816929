import Mend.Screen.StyledText

namespace Mend

inductive Table.Alignment
  | left
  | center
  | right
  deriving DecidableEq, Repr

structure Table.Column where
  header : String
  style : Style
  alignment : Table.Alignment
  cells : List StyledText

structure Table where
  title : String
  columns : List Table.Column

namespace Table

def measuredLines (cs : List Char) : List Line :=
  Lines.split '\n' (cs.map fun c => if Text.isLineEnd c then '\n' else c)

def textWidth (t : StyledText) : Nat := ((measuredLines t.text).map Text.width).foldl max 0

def Column.width (c : Column) : Nat :=
  ((c.cells.map textWidth).foldl max (Text.width c.header.toList)) + 2

def total : List Nat → Nat
  | [] => 0
  | w :: ws => w + total ws

/-- Takes what is too much away from the widest width. -/
def fit (room : Nat) (ws : List Nat) : List Nat :=
  let widest := ws.foldl max 0
  let i := ws.findIdx (· == widest)
  ws.set i (widest - (total ws - room))

def indent (n : Nat) (t : StyledText) : StyledText := if n = 0 then t else (StyledText.blanks n).append t

def pad (n : Nat) (t : StyledText) : StyledText := t.append (.blanks n)

def align (a : Alignment) (w : Nat) (t : StyledText) : StyledText :=
  match a with
  | .left => pad (w - t.width) t
  | .center =>
    let t := t.trimRight
    let free := w - t.width
    pad (free - free / 2) (indent (free / 2) t)
  | .right =>
    let t := t.trimRight
    indent (w - t.width) t

def cellLines (style : Style) (a : Alignment) (w : Nat) (t : StyledText) : List Runs :=
  (t.wrap .ellipsis (w - 2)).map fun l =>
    let inner := Runs.fitted (w - 2) (align a (w - 2) l).runs
    Runs.on style (Runs.blanks .none 1 :: inner ++ [Runs.blanks .none 1])

def fill (style : Style) (w height : Nat) (ls : List Runs) : List Runs :=
  ls ++ List.replicate (height - ls.length) [Runs.blanks style w]

structure Cell where
  style : Style
  alignment : Alignment
  width : Nat
  text : StyledText

def rowLines (border : String) (cells : List Cell) : List Runs :=
  let blocks := cells.map fun c => (c, cellLines c.style c.alignment c.width c.text)
  let height := (blocks.map (·.2.length)).foldl max 1
  let blocks := blocks.map fun (c, ls) => fill c.style c.width height ls
  (List.range height).map fun i =>
    Runs.bare border :: blocks.flatMap fun ls => (ls[i]?).getD [] ++ [Runs.bare border]

/-- A border line from its left end, its line, its crossings and its right end. -/
def border (left line cross right : String) (ws : List Nat) : Runs :=
  let parts := ws.map fun w => String.ofList ((List.replicate w line.toList).flatten)
  [Runs.bare (left ++ cross.intercalate parts ++ right)]

def headerStyle : Style := .ofAttribute .bold

def titleStyle : Style := .ofAttribute .italic

def transpose (height : Nat) (columns : List Column) (ws : List Nat) : List (List Cell) :=
  (List.range height).map fun i =>
    (columns.zip ws).map fun (c, w) => ⟨c.style, c.alignment, w, (c.cells[i]?).getD (.ofString "")⟩

def lines (t : Table) (screenWidth : Nat) : List Runs :=
  let borders := t.columns.length + 1
  let ws := fit (screenWidth - borders) (t.columns.map Column.width)
  let height := (t.columns.map (·.cells.length)).foldl max 0
  let header : List Cell := (t.columns.zip ws).map fun (c, w) =>
    ⟨headerStyle, c.alignment, w, .ofString c.header⟩
  Runs.on titleStyle (align .left (total ws + borders) (.ofString t.title)).runs ::
    border "┏" "━" "┳" "┓" ws :: rowLines "┃" header ++
    border "┡" "━" "╇" "┩" ws :: (transpose height t.columns ws).flatMap (rowLines "│") ++
    [border "└" "─" "┴" "┘" ws]

end Table

end Mend
