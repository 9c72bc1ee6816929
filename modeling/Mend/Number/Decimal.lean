import Mend.Number.Binary64

namespace Mend.Decimal

/-- A decimal `digits * 10 ^ (point - length of digits)`: the point stands after `point` digits. -/
structure Digits where
  digits : List Char
  point : Int

def zeros (n : Nat) : List Char := List.replicate n '0'

def ofNat (n : Nat) : List Char := Nat.toDigits 10 n

def ofInt (n : Int) : List Char :=
  if n < 0 then '-' :: ofNat n.natAbs else ofNat n.natAbs

def trimZeros (ds : List Char) : List Char := (ds.reverse.dropWhile (· == '0')).reverse

/-- The coefficient times a power of ten, without closing zeros. -/
def Digits.ofScaled (c : Nat) (e : Int) : Digits :=
  let ds := ofNat c
  let short := trimZeros ds
  ⟨if short = [] then ['0'] else short, ds.length + e⟩

/-- Numerator and denominator of `u` units times `10 ^ -e`. -/
def gridRatio (u : Nat) (e : Int) : Nat × Nat :=
  if 0 ≤ e then (u, Binary64.scale * Nat.pow 10 e.toNat)
  else (u * Nat.pow 10 (-e).toNat, Binary64.scale)

/-- The number of digits before the point, negative or zero for a value below a tenth or one. -/
def magnitude (u : Nat) : Int :=
  (ofNat (u * Nat.pow 10 400 / Binary64.scale)).length - 400

def readsBack (u c : Nat) (e : Int) : Bool :=
  Binary64.ofDecimal false c e == .fin false u

def neighbour? (u : Nat) (e : Int) : Option Nat :=
  let (num, den) := gridRatio u e
  let low := num / den
  match readsBack u low e, readsBack u (low + 1) e with
  | true, true => some (roundDiv num den)
  | true, false => some low
  | false, true => some (low + 1)
  | false, false => none

def shortestFrom (u : Nat) (e : Int) : Nat → Digits
  | 0 =>
    let (num, den) := gridRatio u e
    .ofScaled (roundDiv num den) e
  | left + 1 =>
    match neighbour? u e with
    | some c => .ofScaled c e
    | none => shortestFrom u (e - 1) left

def shortest (u : Nat) : Digits :=
  if u = 0 then ⟨['0'], 1⟩ else shortestFrom u (magnitude u - 1) 16

/-- The value to `n` significant digits, a half going to the even neighbour. -/
def significant (n : Nat) (u : Nat) : Digits :=
  if u = 0 then ⟨['0'], 1⟩
  else
    let e := magnitude u - n
    let (num, den) := gridRatio u e
    .ofScaled (roundDiv num den) e

structure Layout where
  /-- Positional when the point stands after more than this many digits … -/
  after : Int
  /-- … and at most this many. -/
  upTo : Int
  /-- A whole number keeps a point and a zero. -/
  keepsPoint : Bool

def exponentText (e : Int) : List Char :=
  let ds := ofNat e.natAbs
  (if e < 0 then '-' else '+') :: (if ds.length < 2 then '0' :: ds else ds)

def Layout.render (l : Layout) (d : Digits) : List Char :=
  let n : Int := d.digits.length
  if l.after < d.point ∧ d.point ≤ l.upTo then
    if d.point ≤ 0 then '0' :: '.' :: zeros (-d.point).toNat ++ d.digits
    else if n ≤ d.point then
      d.digits ++ zeros (d.point - n).toNat ++ (if l.keepsPoint then ['.', '0'] else [])
    else d.digits.take d.point.toNat ++ '.' :: d.digits.drop d.point.toNat
  else
    let mark := 'e' :: exponentText (d.point - 1)
    match d.digits with
    | [c] => c :: mark
    | c :: cs => c :: '.' :: cs ++ mark
    | [] => mark

/-- Numbers as they are written in records: positional from `0.0001` up to sixteen digits. -/
def plain : Layout := ⟨-4, 16, true⟩

/-- Numbers as they are written in messages: six digits, positional from `0.0001` up. -/
def brief : Layout := ⟨-4, 6, false⟩

def signed (negative : Bool) (cs : List Char) : List Char := if negative then '-' :: cs else cs

def special (nan infinity : String) (finite : Nat → List Char) : Binary64 → String
  | .nan => nan
  | .inf s => .ofList (signed s infinity.toList)
  | .fin s u => .ofList (signed s (finite u))

def text (x : Binary64) : String := special "nan" "inf" (fun u => plain.render (shortest u)) x

def briefText (x : Binary64) : String :=
  special "nan" "inf" (fun u => brief.render (significant 6 u)) x

/-- Hundredths, thousandths and so on of the value, a half going to the even neighbour. -/
def scaled (places u : Nat) : Nat := roundDiv (u * Nat.pow 10 places) Binary64.scale

def fixedText (places : Nat) (x : Binary64) : String :=
  special "nan" "inf" (fun u =>
    let ds := ofNat (scaled places u)
    let ds := zeros (places + 1 - ds.length) ++ ds
    ds.take (ds.length - places) ++ '.' :: ds.drop (ds.length - places)) x

def round (places : Nat) : Binary64 → Binary64
  | .fin s u => .ofDecimal s (scaled places u) (-(places : Int))
  | x => x

end Mend.Decimal
