import Mend.Number.Decimal

namespace Mend

inductive Number
  | int (n : Int)
  | real (x : Binary64)
  deriving DecidableEq, Repr, Inhabited

namespace Number

/-- A number's place on the line: an infinity or not, then the units. Not a number has none. -/
def place? : Number → Option (Int × Int)
  | int n => some (0, n * Binary64.scale)
  | real .nan => none
  | real (.inf s) => some (if s then -1 else 1, 0)
  | real (.fin s u) => some (0, if s then -(u : Int) else u)

def le (a b : Number) : Bool :=
  match a.place?, b.place? with
  | some p, some q => p.1 < q.1 || (p.1 == q.1 && p.2 ≤ q.2)
  | _, _ => false

def lt (a b : Number) : Bool :=
  match a.place?, b.place? with
  | some p, some q => p.1 < q.1 || (p.1 == q.1 && p.2 < q.2)
  | _, _ => false

/-- The nearest double; a whole number beyond the range has none. -/
def toReal? : Number → Option Binary64
  | int n => Binary64.ofInt? n
  | real x => some x

def isNan : Number → Bool
  | real .nan => true
  | _ => false

def isZero : Number → Bool
  | int n => n == 0
  | real (.fin _ u) => u == 0
  | real _ => false

/-- Whole numbers multiply exactly; otherwise both factors become doubles. -/
def mul? (a b : Number) : Option Number :=
  match a, b with
  | int m, int n => some (int (m * n))
  | a, b => do return real ((← a.toReal?) * (← b.toReal?))

-- Whole numbers are written out at any length. An interpreter that refuses to write more than 4300
-- digits would raise here, and wherever such a number is put into a message or on the screen.
def text : Number → String
  | int n => .ofList (Decimal.ofInt n)
  | real x => Decimal.text x

instance : OfNat Number n := ⟨int n⟩

end Number

end Mend
