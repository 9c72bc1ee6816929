import Mend.Screen.Style
import Mend.Text.Cluster

namespace Mend

structure Run where
  style : Style
  text : List Char
  deriving DecidableEq, Repr

abbrev Runs := List Run

namespace Run

def width (r : Run) : Nat := Text.width r.text

def escape (codes : List String) : List Char :=
  '\x1b' :: '[' :: (";".intercalate codes).toList ++ ['m']

def linkMark (target : String) : List Char :=
  "\x1b]8;;".toList ++ target.toList ++ "\x1b\\".toList

def shown (r : Run) : List Char :=
  if r.text.isEmpty then []
  else
    let codes := r.style.codes
    let styled := if codes.isEmpty then r.text else escape codes ++ r.text ++ escape ["0"]
    match r.style.link with
    | some target => linkMark target ++ styled ++ linkMark ""
    | none => styled

end Run

namespace Runs

def plain (rs : Runs) : List Char := rs.flatMap (·.text)

def width : Runs → Nat
  | [] => 0
  | r :: rs => r.width + width rs

def blanks (style : Style) (n : Nat) : Run := ⟨style, List.replicate n ' '⟩

def bare (s : String) : Run := ⟨.none, s.toList⟩

def on (style : Style) (rs : Runs) : Runs := rs.map fun r => ⟨r.style.onto style, r.text⟩

def cut (w : Nat) : Runs → Runs
  | [] => []
  | r :: rs =>
    if r.width < w then r :: cut (w - r.width) rs else [⟨r.style, Text.sized w r.text⟩]

def cropped (w : Nat) (rs : Runs) : Runs := if w < width rs then cut w rs else rs

/-- Runs of `w` cells: they are cut, or filled up with unstyled blanks. -/
def fitted (w : Nat) (rs : Runs) : Runs :=
  if width rs < w then rs ++ [blanks .none (w - width rs)] else cropped w rs

def shown (rs : Runs) : List Char := rs.flatMap Run.shown

def text (w : Nat) (ls : List Runs) : String :=
  .ofList (ls.flatMap fun l => shown (cropped w l) ++ ['\n'])

@[simp] theorem plain_append (a b : Runs) : plain (a ++ b) = plain a ++ plain b := by
  simp [plain]

end Runs

end Mend
