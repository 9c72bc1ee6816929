import Mend.Json.Reader
import Mend.Number.Whole

namespace Mend.Settings

inductive Cause
  | notOneOf (choices : List String)
  | notText
  | notTruth
  | unreadableTruth
  | notWhole
  | unreadableWhole
  | fractional
  | infinite
  | wholeTooLong
  | notNumber
  | unreadableNumber
  | tooSmall (least : Nat)
  | tooLarge (most : Nat)
  | notAbove (bound : Nat)
  | unknownName
  deriving DecidableEq, Repr

namespace Cause

def code : Cause → String
  | notOneOf _ => "literal_error"
  | notText => "string_type"
  | notTruth => "bool_type"
  | unreadableTruth => "bool_parsing"
  | notWhole => "int_type"
  | unreadableWhole => "int_parsing"
  | fractional => "int_from_float"
  | infinite => "finite_number"
  | wholeTooLong => "int_parsing_size"
  | notNumber => "float_type"
  | unreadableNumber => "float_parsing"
  | tooSmall _ => "greater_than_equal"
  | tooLarge _ => "less_than_equal"
  | notAbove _ => "greater_than"
  | unknownName => "extra_forbidden"

def message : Cause → String
  | notOneOf choices =>
    "Input should be " ++ " or ".intercalate (choices.map fun c => "'" ++ c ++ "'")
  | notText => "Input should be a valid string"
  | notTruth => "Input should be a valid boolean"
  | unreadableTruth => "Input should be a valid boolean, unable to interpret input"
  | notWhole => "Input should be a valid integer"
  | unreadableWhole => "Input should be a valid integer, unable to parse string as an integer"
  | fractional => "Input should be a valid integer, got a number with a fractional part"
  | infinite => "Input should be a finite number"
  | wholeTooLong => "Unable to parse input string as an integer, exceeded maximum size"
  | notNumber => "Input should be a valid number"
  | unreadableNumber => "Input should be a valid number, unable to parse string as a number"
  | tooSmall n => s!"Input should be greater than or equal to {n}"
  | tooLarge n => s!"Input should be less than or equal to {n}"
  | notAbove n => s!"Input should be greater than {n}"
  | unknownName => "Extra inputs are not permitted"

end Cause

namespace Field

def trueWords : List String := ["1", "on", "t", "true", "y", "yes"]

def falseWords : List String := ["0", "off", "f", "false", "n", "no"]

def truthOfWord (s : String) : Except Cause Bool :=
  let word := s.map Char.toLower
  if trueWords.contains word then .ok true
  else if falseWords.contains word then .ok false
  else .error .unreadableTruth

/-- Zero and one are truth values; whole numbers beyond 64 bits are not taken for any at all. -/
def truthOfInt (n : Int) : Except Cause Bool :=
  if n = 0 then .ok false
  else if n = 1 then .ok true
  else if -(Nat.pow 2 63 : Int) ≤ n && n < Nat.pow 2 63 then .error .unreadableTruth
  else .error .notTruth

def wholeOfReal : Binary64 → Except Cause Int
  | .fin negative units =>
    if units % Binary64.scale ≠ 0 then .error .fractional
    else
      let n := units / Binary64.scale
      if Nat.pow 2 63 ≤ n then .error .wholeTooLong
      else .ok (if negative then -(n : Int) else n)
  | _ => .error .infinite

def truth : Json → Except Cause Bool
  | .bool b => .ok b
  | .str s => truthOfWord s
  | .num (.int n) => truthOfInt n
  | .num (.real x) =>
    match wholeOfReal x with
    | .ok n => truthOfInt n
    | .error _ => .error .notTruth
  | _ => .error .notTruth

def text : Json → Except Cause (Option String)
  | .null => .ok none
  | .str s => .ok (some s)
  | _ => .error .notText

def oneOf (choices : List String) : Json → Except Cause String
  | .str s => if choices.contains s then .ok s else .error (.notOneOf choices)
  | _ => .error (.notOneOf choices)

def sign : List Char → Bool × List Char
  | '-' :: cs => (true, cs)
  | '+' :: cs => (false, cs)
  | cs => (false, cs)

def margins (cs : List Char) : List Char :=
  Text.dropRight Whole.isMargin (Text.dropLeft Whole.isMargin cs)

/-- Single underscores between other characters are dropped; others are not allowed. -/
def joined? : List Char → Option (List Char)
  | [] => some []
  | ['_'] => none
  | '_' :: _ => none
  | c :: '_' :: d :: cs => if d = '_' then none else (joined? (d :: cs)).map (c :: ·)
  | c :: cs => (joined? cs).map (c :: ·)

/-- The text before a point that is followed by zeros only, or all of a text without a point. -/
def beforePoint? (cs : List Char) : Option (List Char) :=
  match cs.span (· != '.') with
  | (a, []) => some a
  | (a, _ :: b) => if !b.isEmpty && b.all (· == '0') then some a else none

/-- What follows zeros, and underscores between them, at the beginning of a number; a number that is
zero keeps its last character. -/
def behindZeros (last : Char) : List Char → List Char
  | [] => [last]
  | c :: cs =>
    if c = '0' || c = '_' then behindZeros c cs
    else if c = '.' then last :: c :: cs
    else c :: cs

def withoutZeros : List Char → List Char
  | '0' :: cs => behindZeros '0' cs
  | cs => cs

/-- A number begins with a digit, or with a hyphen that no plus sign precedes. -/
def unsigned? : List Char → Option (List Char)
  | '+' :: '-' :: _ => none
  | '+' :: c :: cs | c :: cs => if c.isDigit || c = '-' then some (c :: cs) else none
  | [] => none

/-- The digits of a whole number. Only zero itself begins with a zero. -/
def wholeDigits? : List Char → Option (List Char)
  | ['0'] => some ['0']
  | '0' :: _ | [] => none
  | ds => if ds.all Char.isDigit then some ds else none

def wholeParts? (cs : List Char) : Option (Bool × List Char) := do
  let cs ← joined? (← beforePoint? (withoutZeros (← unsigned? (margins cs))))
  let (negative, ds) := match cs with
    | '-' :: ds => (true, ds)
    | ds => (false, ds)
  return (negative, ← wholeDigits? ds)

def wholeOfText (s : String) : Except Cause Int :=
  match wholeParts? s.toList with
  | none => .error .unreadableWhole
  | some (negative, ds) =>
    if Json.maxDigits < ds.length + negative.toNat then .error .wholeTooLong
    else
      let n : Int := Json.natOfDigits ds
      .ok (if negative then -n else n)

def whole : Json → Except Cause Int
  | .bool b => .ok (if b then 1 else 0)
  | .num (.int n) => .ok n
  | .num (.real x) => wholeOfReal x
  | .str s => wholeOfText s
  | _ => .error .notWhole

def specialReal? (negative : Bool) (cs : List Char) : Option Binary64 :=
  let word := cs.map Char.toLower
  if word = "inf".toList ∨ word = "infinity".toList then some (.inf negative)
  else if word = "nan".toList then some .nan
  else none

/-- Digits with a point and an exponent, at least one digit before the exponent. -/
def decimalReal? (negative : Bool) (cs : List Char) : Option Binary64 :=
  let (a, rest) := Json.digits cs
  let (b, rest) := match rest with
    | '.' :: r => Json.digits r
    | r => ([], r)
  if a.isEmpty && b.isEmpty then none
  else
    let value (e : Int) : Binary64 :=
      .ofDecimal negative (Json.natOfDigits (a ++ b)) (e - b.length)
    if rest.isEmpty then some (value 0)
    else match Json.exponent? rest with
      | some (e, []) => some (value e)
      | _ => none

def realOfChars? (cs : List Char) : Option Binary64 :=
  let (negative, body) := sign cs
  (specialReal? negative body).or (decimalReal? negative body)

def realOfText (s : String) : Except Cause Binary64 :=
  match (realOfChars? (margins s.toList)).or ((joined? s.toList).bind realOfChars?) with
  | some x => .ok x
  | none => .error .unreadableNumber

def real : Json → Except Cause Binary64
  | .bool b => .ok (if b then .one else .zero)
  | .num n =>
    match n.toReal? with
    | some x => .ok x
    | none => .error .notNumber
  | .str s => realOfText s
  | _ => .error .notNumber

def atMost (most : Nat) (n : Int) : Except Cause Int :=
  if (most : Int) < n then .error (.tooLarge most) else .ok n

def atLeast (least : Nat) (n : Int) : Except Cause Int :=
  if n < least then .error (.tooSmall least) else .ok n

def wholeFrom (least : Nat) (v : Json) : Except Cause Int := do atLeast least (← whole v)

def wholeWithin (least most : Nat) (v : Json) : Except Cause Int := do
  atLeast least (← atMost most (← whole v))

def realFrom (least : Nat) (v : Json) : Except Cause Binary64 := do
  let x ← real v
  if Number.le (.int least) (.real x) then .ok x else .error (.tooSmall least)

def realAbove (bound : Nat) (v : Json) : Except Cause Binary64 := do
  let x ← real v
  if Number.lt (.int bound) (.real x) then .ok x else .error (.notAbove bound)

end Field

end Mend.Settings
