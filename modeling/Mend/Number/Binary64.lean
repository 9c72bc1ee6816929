/-!
Doubles as exact numbers. Every finite double is a whole number of units of `2 ^ -1074`, so it is
kept as a sign and that number; sums, products and quotients are formed exactly and rounded once,
to the nearest double and to the even one of two that are equally near.
-/

namespace Mend

/-- The nearest whole number to `num / den`, the even one of two. -/
def roundDiv (num den : Nat) : Nat :=
  let q := num / den
  let r := num % den
  if 2 * r < den then q
  else if den < 2 * r then q + 1
  else if q % 2 = 0 then q else q + 1

inductive Binary64
  | nan
  | inf (negative : Bool)
  | fin (negative : Bool) (units : Nat)
  deriving DecidableEq, Repr, Inhabited

namespace Binary64

/-- Units in one. -/
def scale : Nat := Nat.pow 2 1074

/-- Units at which the range ends. -/
def limit : Nat := Nat.pow 2 2098

/-- The units of the nearest double to `num / den` units: at most 53 binary digits are kept. -/
def roundUnits (num den : Nat) : Nat :=
  let shift := (num / den).log2 + 1 - 53
  roundDiv num (den * Nat.pow 2 shift) * Nat.pow 2 shift

def ofUnits (negative : Bool) (num den : Nat) : Binary64 :=
  let u := roundUnits num den
  if u < limit then .fin negative u else .inf negative

/-- The double nearest to `num / den`, with the given sign. -/
def ofRatio (negative : Bool) (num den : Nat) : Binary64 :=
  ofUnits negative (num * scale) den

def zero : Binary64 := .fin false 0

def one : Binary64 := .fin false scale

def digitCount (n : Nat) : Nat := (Nat.toDigits 10 n).length

def ofDecimal (negative : Bool) (coefficient : Nat) (exponent : Int) : Binary64 :=
  if coefficient = 0 then .fin negative 0
  else
    let top := digitCount coefficient + exponent
    if 400 < top then .inf negative
    else if top < -400 then .fin negative 0
    else if 0 ≤ exponent then ofRatio negative (coefficient * Nat.pow 10 exponent.toNat) 1
    else ofRatio negative coefficient (Nat.pow 10 (-exponent).toNat)

def finite? : Binary64 → Option Binary64
  | .fin s u => some (.fin s u)
  | _ => none

@[simp] theorem finite?_fin (s : Bool) (u : Nat) : (fin s u).finite? = some (fin s u) := rfl

@[simp] theorem finite?_inf (s : Bool) : (inf s).finite? = none := rfl

def ofInt? (n : Int) : Option Binary64 := (ofRatio (n < 0) n.natAbs 1).finite?

def neg : Binary64 → Binary64
  | .nan => .nan
  | .inf s => .inf !s
  | .fin s u => .fin (!s) u

def add : Binary64 → Binary64 → Binary64
  | .nan, _ => .nan
  | _, .nan => .nan
  | .inf s, .inf t => if s = t then .inf s else .nan
  | .inf s, _ => .inf s
  | _, .inf t => .inf t
  | .fin s u, .fin t v =>
    if s = t then ofUnits s (u + v) 1
    else if v < u then ofUnits s (u - v) 1
    else if u < v then ofUnits t (v - u) 1
    else zero

def mul : Binary64 → Binary64 → Binary64
  | .nan, _ => .nan
  | _, .nan => .nan
  | .inf s, .inf t => .inf (s != t)
  | .inf s, .fin t v => if v = 0 then .nan else .inf (s != t)
  | .fin s u, .inf t => if u = 0 then .nan else .inf (s != t)
  | .fin s u, .fin t v => ofUnits (s != t) (u * v) scale

def div : Binary64 → Binary64 → Binary64
  | .nan, _ => .nan
  | _, .nan => .nan
  | .inf _, .inf _ => .nan
  | .inf s, .fin t _ => .inf (s != t)
  | .fin s _, .inf t => .fin (s != t) 0
  | .fin s u, .fin t v =>
    if v = 0 then (if u = 0 then .nan else .inf (s != t))
    else ofUnits (s != t) (u * scale) v

def ofNat (n : Nat) : Binary64 := (ofInt? n).getD zero

instance : Zero Binary64 := ⟨zero⟩
instance : NatCast Binary64 := ⟨ofNat⟩
instance : Neg Binary64 := ⟨neg⟩
instance : Add Binary64 := ⟨add⟩
instance : Mul Binary64 := ⟨mul⟩
instance : Div Binary64 := ⟨div⟩

end Binary64

end Mend
