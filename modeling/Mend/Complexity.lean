import Mend.Edit
import Mend.Text.Lines

namespace Mend

inductive Complexity
  | simple
  | medium
  | complex
  deriving DecidableEq, Repr

namespace Complexity

def name : Complexity → String
  | simple => "simple"
  | medium => "medium"
  | complex => "complex"

def list : List Complexity := [simple, medium, complex]

def ofName? (s : String) : Option Complexity := list.find? (·.name == s)

def kindWeight : Edit.Kind → Nat
  | .insert => 1
  | .delete => 1
  | .replace => 2
  | _ => 0

def isLong (e : Edit) : Bool :=
  match e.newCode with
  | some s => s != "" && 3 < (Lines.ofText s).length
  | none => false

def weight (e : Edit) : Nat := kindWeight e.kind + if isLong e then 2 else 0

def totalWeight : List Edit → Nat
  | [] => 0
  | e :: es => weight e + totalWeight es

def score (es : List Edit) : Nat :=
  totalWeight es + if 1 < es.length then es.length else 0

def ofScore (n : Nat) : Complexity := if n ≤ 2 then simple else if n ≤ 5 then medium else complex

def assess (es : List Edit) : Complexity := ofScore (score es)

end Complexity

end Mend
