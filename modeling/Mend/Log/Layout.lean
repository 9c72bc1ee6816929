import Mend.Log.Value
import Mend.Number.Decimal
import Mend.Text.Kind

namespace Mend.Log

structure Layout where
  fill : Char
  /-- Where the value stands: `<`, `>`, `^`, or `=` with the fill behind the sign. -/
  side : Char
  sign : Option Char
  /-- A negative zero loses its sign. -/
  positiveZero : Bool
  alternate : Bool
  width : Nat
  separator : Option Char
  places : Option Nat
  code : Char
  deriving DecidableEq, Repr

def maxNumber : Nat := Nat.pow 2 63 - 1

def readDigits : List Char → List Nat × List Char
  | [] => ([], [])
  | c :: cs =>
    match Text.digit? c with
    | some d => ((readDigits cs).map (d :: ·) id)
    | none => ([], c :: cs)

def readNumber (cs : List Char) : Except Problem (Option Nat × List Char) :=
  let (ds, rest) := readDigits cs
  let n := ds.foldl (fun n d => 10 * n + d) 0
  if maxNumber < n then .error .tooManyDigits
  else .ok (if ds.isEmpty then none else some n, rest)

namespace Layout

def isSide (c : Char) : Bool := ['<', '>', '=', '^'].contains c

def isSign (c : Char) : Bool := [' ', '+', '-'].contains c

def readSide : List Char → Option Char × Option Char × List Char
  | [] => (none, none, [])
  | [c] => if isSide c then (none, some c, []) else (none, none, [c])
  | c :: s :: cs =>
    if isSide s then (some c, some s, cs)
    else if isSide c then (none, some c, s :: cs)
    else (none, none, c :: s :: cs)

def readOne (p : Char → Bool) : List Char → Option Char × List Char
  | [] => (none, [])
  | c :: cs => if p c then (some c, cs) else (none, c :: cs)

def readSeparator (cs : List Char) : Except Problem (Option Char × List Char) :=
  let (comma, cs) := readOne (· == ',') cs
  let (line, cs) := readOne (· == '_') cs
  match comma, line, cs with
  | some _, some _, _ | none, some _, ',' :: _ => .error .twoSeparators
  | comma, line, cs => .ok (comma <|> line, cs)

def readPlaces : List Char → Except Problem (Option Nat × List Char)
  | '.' :: cs =>
    match readNumber cs with
    | .ok (none, _) => .error .noPlaces
    | r => r
  | cs => .ok (none, cs)

/-- The codes of numbers in groups of three digits, and of those in groups of four. -/
def admits (separator code : Char) : Bool :=
  "defgEG%F".toList.contains code || separator == '_' && "boxX".toList.contains code

def checkSeparator (l : Layout) : Except Problem Layout :=
  match l.separator with
  | none => .ok l
  | some s => if admits s l.code then .ok l else .error (.badSeparator s l.code)

/-- The layout of a value of a kind; side and code are those of the kind if they are left out. -/
def read (kind : String) (side code : Char) (spec : List Char) : Except Problem Layout := do
  let (fill, given, cs) := readSide spec
  let (sign, cs) := readOne isSign cs
  let (positive, cs) := readOne (· == 'z') cs
  let (alternate, cs) := readOne (· == '#') cs
  let (zero, cs) := readOne (fun c => c == '0' && fill.isNone) cs
  let (width, cs) ← readNumber cs
  let (separator, cs) ← readSeparator cs
  let (places, cs) ← readPlaces cs
  let side := given.getD (if zero.isSome && side == '>' then '=' else side)
  let make (code : Char) : Except Problem Layout := checkSeparator
    ⟨(fill <|> zero).getD ' ', side, sign, positive.isSome, alternate.isSome, width.getD 0,
      separator, places, code⟩
  match cs with
  | [] => make code
  | [c] => make c
  | _ => .error (.badLayout (.ofList spec) kind)

def isWholeCode (c : Char) : Bool := "bcdoxXn".toList.contains c

def isRealCode (c : Char) : Bool := "eEfFgG%".toList.contains c

def textProblem? (l : Layout) : Option Problem :=
  if l.code != 's' then some (.unknownCode l.code "str")
  else if l.sign == some ' ' then some .spaceBeforeText
  else if l.sign.isSome then some .signBeforeText
  else if l.positiveZero then some .zeroOfText
  else if l.alternate then some .alternateText
  else if l.side == '=' then some .innerText
  else none

def maxPlaces : Nat := Nat.pow 2 31 - 1

def wholeProblem? (kind : String) (n : Nat) (l : Layout) : Option Problem :=
  if isWholeCode l.code then
    if l.places.isSome then some .placesOfWhole
    else if l.positiveZero then some .zeroOfWhole
    else if l.code != 'c' then none
    else if l.sign.isSome then some .signBeforeCharacter
    else if l.alternate then some .alternateCharacter
    else if 0x10ffff < n then some .noCharacter
    else none
  else if isRealCode l.code then
    if maxPlaces < l.places.getD 0 then some .tooManyPlaces else none
  else some (.unknownCode l.code kind)

/-- A value padded to the width; a fill on the inner side stands behind the sign. -/
def pad (l : Layout) (sign body : List Char) : List Char :=
  let n := l.width - (sign.length + body.length)
  let fill (n : Nat) := List.replicate n l.fill
  match l.side with
  | '<' => sign ++ body ++ fill n
  | '=' => sign ++ fill n ++ body
  | '^' => fill (n / 2) ++ sign ++ body ++ fill (n - n / 2)
  | _ => fill n ++ sign ++ body

def layText (l : Layout) (cs : List Char) : List Char :=
  l.pad [] (match l.places with
    | some n => cs.take n
    | none => cs)

/-- Groups of digits from the right, given in reverse, filled up with zeros to `least` characters. -/
def group (size : Nat) (separator : Char) : (fuel : Nat) → (ds : List Char) → (least : Nat) → List Char
  | 0, _, _ => []
  | fuel + 1, ds, least =>
    let n := min size (max (max ds.length least) 1)
    let part := (ds.take n).reverse
    let filled := List.replicate (n - part.length) '0' ++ part
    if ds.length ≤ n && least ≤ n then filled
    else group size separator fuel (ds.drop n) (least - n - 1) ++ separator :: filled

def groupSize (l : Layout) : Nat := if "boxX".toList.contains l.code then 4 else 3

/-- Digits in groups; a fill of zeros on the inner side is part of them. -/
def grouped (l : Layout) (sign digits rest : List Char) : List Char :=
  match l.separator with
  | none => digits ++ rest
  | some s =>
    let least := if l.side == '=' && l.fill == '0' then l.width - (sign.length + rest.length) else 0
    group l.groupSize s (digits.length + least + 1) digits.reverse least ++ rest

def baseOf : Char → Nat
  | 'b' => 2
  | 'o' => 8
  | 'x' | 'X' => 16
  | _ => 10

def signs (l : Layout) : List Char :=
  (l.sign.filter (· != '-')).toList ++
    (if l.alternate && "boxX".toList.contains l.code then ['0', l.code] else [])

def layWhole (l : Layout) (n : Nat) : List Char :=
  if l.code = 'c' then l.pad [] [Char.ofNat n]
  else
    let digits := Nat.toDigits (baseOf l.code) n
    let digits := if l.code = 'X' then digits.map Char.toUpper else digits
    l.pad l.signs (l.grouped l.signs digits [])

def pointed (l : Layout) (places : List Char) : List Char :=
  if places.isEmpty && !l.alternate then [] else '.' :: places

/-- The number of digits before the last `cut` ones, rounded half to even. -/
def rounded (n cut : Nat) : Nat := roundDiv n (Nat.pow 10 cut)

def scientific (l : Layout) (n places : Nat) (trim : Bool) : List Char × List Char :=
  let size := (Nat.toDigits 10 n).length
  let m := if size ≤ places + 1 then n * Nat.pow 10 (places + 1 - size)
    else rounded n (size - places - 1)
  let ds := Nat.toDigits 10 m
  let exponent := if n = 0 then 0 else size - 1 + (ds.length - (places + 1))
  let behind := ds.tail.take places
  let behind := if n = 0 then Decimal.zeros places else behind
  let behind := if trim then Decimal.trimZeros behind else behind
  let mark := if l.code.isUpper then 'E' else 'e'
  let power := Nat.toDigits 10 exponent
  (ds.take 1, l.pointed behind ++ mark :: '+' :: (if power.length < 2 then '0' :: power else power))

/-- A number laid out as one with places: the digits before the point, and the rest. -/
def layReal (l : Layout) (n : Nat) : List Char × List Char :=
  let places := l.places.getD 6
  match l.code.toLower with
  | 'f' => (Nat.toDigits 10 n, l.pointed (Decimal.zeros places))
  | '%' => (Nat.toDigits 10 (100 * n), l.pointed (Decimal.zeros places) ++ ['%'])
  | 'e' => l.scientific n places false
  | _ =>
    let digits := max places 1
    let size := (Nat.toDigits 10 n).length
    if size ≤ digits then
      (Nat.toDigits 10 n, l.pointed (if l.alternate then Decimal.zeros (digits - size) else []))
    else l.scientific n (digits - 1) (!l.alternate)

def layNumber (l : Layout) (n : Nat) : List Char :=
  if isWholeCode l.code then l.layWhole n
  else
    let (digits, rest) := l.layReal n
    l.pad l.signs (l.grouped l.signs digits rest)

end Layout

/-- A value with the layout in which it is shown; without one it is shown as it is. -/
structure Shown where
  value : Value
  layout : Option Layout := none

namespace Shown

def check (s : Shown) : Option Problem → Except Problem Shown
  | some p => .error p
  | none => .ok s

def ofWhole (v : Value) (n : Nat) (spec : List Char) : Except Problem Shown := do
  let l ← Layout.read v.kindName '>' 'd' spec
  check ⟨v, some l⟩ (l.wholeProblem? v.kindName n)

/-- A value in a layout; kinds other than texts and numbers have no layouts. -/
def of (v : Value) (spec : List Char) : Except Problem Shown :=
  if spec.isEmpty then .ok ⟨v, none⟩
  else match v with
    | .truth => ofWhole v 1 spec
    | .whole n => ofWhole v n spec
    | .text _ => do
      let l ← Layout.read "str" '<' 's' spec
      check ⟨v, some l⟩ l.textProblem?
    | v => .error (.noLayouts v.kindName)

def text (s : Shown) : List Char :=
  match s.layout, s.value with
  | some l, .truth => l.layNumber 1
  | some l, .whole n => l.layNumber n
  | some l, .text cs => l.layText cs
  | _, v => v.shown

end Shown

end Mend.Log
