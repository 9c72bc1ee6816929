import Mend.Screen.Runs
import Mend.Text.Lines
import Mend.Text.Trim

/-!
Text with styles on stretches of it, and its layout: tabs, cuts and the wrapping of lines at blanks.
Places in a text count characters, widths count cells.
-/

namespace Mend

/-- A style on the characters from `start` on and before `stop`. -/
structure Span where
  start : Nat
  stop : Nat
  style : Style
  deriving DecidableEq, Repr

def Span.shift (n : Nat) (s : Span) : Span := ⟨s.start + n, s.stop + n, s.style⟩

structure StyledText where
  text : List Char
  /-- A later span lies on top of an earlier one. -/
  spans : List Span
  deriving DecidableEq, Repr

namespace StyledText

def ofString (s : String) : StyledText := ⟨s.toList, []⟩

def blanks (n : Nat) : StyledText := ⟨List.replicate n ' ', []⟩

def width (t : StyledText) : Nat := Text.width t.text

def append (a b : StyledText) : StyledText :=
  ⟨a.text ++ b.text, a.spans ++ b.spans.map (Span.shift a.text.length)⟩

/-- The text with a style below all others. -/
def on (style : Style) (t : StyledText) : StyledText :=
  ⟨t.text, ⟨0, t.text.length, style⟩ :: t.spans⟩

def clip (n : Nat) (spans : List Span) : List Span :=
  (spans.filter (·.start < n)).map fun s => ⟨s.start, min n s.stop, s.style⟩

def take (n : Nat) (t : StyledText) : StyledText :=
  if t.text.length ≤ n then t else ⟨t.text.take n, clip n t.spans⟩

def retext (cs : List Char) (t : StyledText) : StyledText :=
  ⟨cs, if cs.length < t.text.length then clip cs.length t.spans else t.spans⟩

/-- The characters from `a` on and before `b`, with the spans that reach into them. -/
def slice (a b : Nat) (t : StyledText) : StyledText :=
  let spans := t.spans.map fun s => Span.mk (max a s.start - a) (min b s.stop - a) s.style
  ⟨(t.text.take b).drop a, spans.filter fun s => s.start < s.stop⟩

def divideFrom (t : StyledText) (start : Nat) : List Nat → List StyledText
  | [] => [t.slice start t.text.length]
  | b :: bs => t.slice start b :: divideFrom t b bs

def divide (t : StyledText) (places : List Nat) : List StyledText :=
  if places.isEmpty then [t] else divideFrom t 0 places

/-- The parts that begin at `start` and have the lengths of the given lines. -/
def linesFrom (t : StyledText) (start : Nat) : List Line → List StyledText
  | [] => []
  | l :: ls => t.slice start (start + l.length) :: linesFrom t (start + l.length + 1) ls

def lines (t : StyledText) : List StyledText :=
  match Lines.split '\n' t.text with
  | [_] => [t]
  | ls => linesFrom t 0 ls

def tabSize : Nat := 8

def extend (n : Nat) (t : StyledText) : StyledText :=
  ⟨t.text ++ List.replicate n ' ',
    t.spans.map fun s => if t.text.length ≤ s.stop then ⟨s.start, s.stop + n, s.style⟩ else s⟩

/-- Joins the parts that a line has between tabs, `start` being the place of the first one and `p` the
cells before it: a tab reaches up to the next stop. -/
def untabFrom (t : StyledText) (start p : Nat) : List Line → StyledText
  | [] => ⟨[], []⟩
  | [l] => t.slice start (start + l.length)
  | l :: ls =>
    let part := (t.slice start (start + l.length + 1)).retext (l ++ [' '])
    let q := p + part.width
    let stop := (q + tabSize - 1) / tabSize * tabSize
    (part.extend (stop - q)).append (untabFrom t (start + l.length + 1) stop ls)

def untab (t : StyledText) : StyledText :=
  match Lines.split '\t' t.text with
  | [_] => t
  | ls => untabFrom t 0 0 ls

/-- Adds a character in front of groups that are words with the blanks behind them; the first group
may be blanks alone. -/
def groupBefore (c : Char) : List (List Char) → List (List Char)
  | [] => [[c]]
  | g :: gs =>
    match g.head? with
    | some d => if Text.isBlank c && !Text.isBlank d then [c] :: g :: gs else (c :: g) :: gs
    | none => [c] :: gs

/-- Words with the blanks behind them; blanks at the start belong to the first word. -/
def words (cs : List Char) : List (List Char) :=
  match cs.foldr groupBefore [] with
  | [] => []
  | [g] => if g.all Text.isBlank then [] else [g]
  | g :: h :: gs => if g.all Text.isBlank then (g ++ h) :: gs else g :: h :: gs

inductive Overflow
  /-- It is continued on the next lines. -/
  | fold
  /-- It is cut off. -/
  | ellipsis
  deriving DecidableEq, Repr

def breakAt (start : Nat) : List Nat := if start = 0 then [] else [start]

def breaksOfPieces (start : Nat) : List (List Char) → List Nat × Nat
  | [] => ([], 0)
  | [p] => (breakAt start, Text.width p)
  | p :: ps =>
    let (bs, used) := breaksOfPieces (start + p.length) ps
    (breakAt start ++ bs, used)

/-- The places where lines begin, for words from the place `start` on when `used` cells of the line
are taken. -/
def breaks (mode : Overflow) (w : Nat) (start used : Nat) : List (List Char) → List Nat
  | [] => []
  | word :: rest =>
    let need := Text.width (Text.trimRight word)
    let next := start + word.length
    if used + need ≤ w then breaks mode w next (used + Text.width word) rest
    else if w < need then
      match mode with
      | .fold =>
        let (bs, last) := breaksOfPieces start (Text.chop w [] 0 (Text.clusters word))
        bs ++ breaks mode w next last rest
      | .ellipsis => breakAt start ++ breaks mode w next (Text.width word) rest
    else breakAt start ++ breaks mode w next (Text.width word) rest

/-- Drops blanks at the end that lie beyond `w` characters. -/
def dropExcess (w : Nat) (t : StyledText) : StyledText :=
  let excess := t.text.length - w
  let trailing := t.text.length - (Text.trimRight t.text).length
  t.take (t.text.length - min trailing excess)

def trimRight (t : StyledText) : StyledText := t.take (Text.trimRight t.text).length

/-- Cuts to `w` cells; under `ellipsis` the last one tells that text was cut. -/
def truncate (mode : Overflow) (w : Nat) (t : StyledText) : StyledText :=
  if t.width ≤ w then t
  else match mode with
    | .fold => t.retext (Text.sized w t.text)
    | .ellipsis => t.retext (Text.sized (w - 1) t.text ++ ['…'])

def wrapLine (mode : Overflow) (w : Nat) (line : StyledText) : List StyledText :=
  let line := line.untab
  (line.divide (breaks mode w 0 0 (words line.text))).map fun l => (l.dropExcess w).truncate mode w

def wrap (mode : Overflow) (w : Nat) (t : StyledText) : List StyledText :=
  t.lines.flatMap (wrapLine mode w)

def styleAt (t : StyledText) (n : Nat) : Style :=
  t.spans.foldl (fun s p => if p.start ≤ n && n < p.stop then p.style.onto s else s) .none

/-- The places where a span starts or stops, and both ends of the text. -/
def edges (t : StyledText) : List Nat :=
  (List.range (t.text.length + 1)).filter fun n =>
    n == 0 || n == t.text.length || t.spans.any fun s => s.start == n || s.stop == n

def runsBetween (t : StyledText) : List Nat → Runs
  | a :: b :: rest => ⟨t.styleAt a, (t.text.take b).drop a⟩ :: runsBetween t (b :: rest)
  | _ => []

def runs (t : StyledText) : Runs := runsBetween t t.edges

end StyledText

end Mend
