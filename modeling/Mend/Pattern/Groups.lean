import Mend.Pattern.Flags
import Mend.Pattern.Part

namespace Mend.Pattern

structure Groups where
  /-- The flags that are on for the whole of the pattern. -/
  flags : List Char := []
  opened : Nat := 0
  closed : List (Nat × Width) := []
  names : List (String × Nat) := []
  /-- Within a look behind, the number of the first group that opens in it. -/
  look : Option Nat := none
  /-- Groups that have to open sooner or later, with the place where they are mentioned. -/
  awaited : List (Nat × Nat) := []

namespace Groups

open Source (failAt)

def width? (g : Groups) (n : Nat) : Option Width := (g.closed.find? (·.1 == n)).map (·.2)

def number? (g : Groups) (name : String) : Option Nat := (g.names.find? (·.1 == name)).map (·.2)

def modes (g : Groups) : Modes :=
  { ignoresCase := true, multiline := g.flags.contains 'm', dotAll := g.flags.contains 's'
    ascii := g.flags.contains 'a', verbose := g.flags.contains 'x' }

/-- A group opens; `position` is that of its name. -/
def openGroup (g : Groups) (name : Option String) (position : Nat) : Source.Step (Nat × Groups) :=
  let n := g.opened + 1
  match name with
  | none => .ok (n, { g with opened := n })
  | some name =>
    match g.number? name with
    | some earlier => failAt (.doubleGroup name n earlier) position
    | none => .ok (n, { g with opened := n, names := (name, n) :: g.names })

def close (g : Groups) (n : Nat) (w : Width) : Groups := { g with closed := (n, w) :: g.closed }

/-- Within a look behind, only groups that are closed before it can be referred to. -/
def checkLook (g : Groups) (n position : Nat) : Source.Step Unit :=
  match g.look with
  | none => .ok ()
  | some first =>
    if (g.width? n).isNone then failAt .openGroup position
    else if first ≤ n then failAt .sameLook position
    else .ok ()

/-- The part that stands for what a group has matched; `start` is where the group is mentioned and
`position` the place behind it. -/
def mention (g : Groups) (f : Folding) (n start position : Nat) : Source.Step Part := do
  match g.width? n with
  | none => failAt .openGroup start
  | some width =>
    g.checkLook n position
    return .plain (.again n f) width

def enterLook (g : Groups) : Groups := { g with look := g.look.or (some (g.opened + 1)) }

def await (g : Groups) (n position : Nat) : Groups :=
  if g.awaited.any (·.1 == n) then g else { g with awaited := g.awaited ++ [(n, position)] }

def missing? (g : Groups) : Option (Nat × Nat) := g.awaited.find? (g.opened < ·.1)

end Groups

end Mend.Pattern
