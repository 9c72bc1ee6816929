import Mend.Json.Basic

/-!
Reading structured values. Beside the standard grammar, `NaN`, `Infinity` and `-Infinity` are
numbers; whole numbers of more than 4300 digits and nesting beyond `maxDepth` are refused.

A problem is noted by how much text was left where it arose, and turned into a line and a column at
the end.
-/

namespace Mend.Json

inductive Problem
  | valueExpected
  | nameExpected
  | colonExpected
  | commaExpected
  | extraData
  | unterminated
  | controlCharacter
  | badEscape
  | badUnicodeEscape
  | byteOrderMark
  deriving DecidableEq, Repr

def Problem.message : Problem → String
  | valueExpected => "Expecting value"
  | nameExpected => "Expecting property name enclosed in double quotes"
  | colonExpected => "Expecting ':' delimiter"
  | commaExpected => "Expecting ',' delimiter"
  | extraData => "Extra data"
  | unterminated => "Unterminated string starting at"
  | controlCharacter => "Invalid control character at"
  | badEscape => "Invalid \\escape"
  | badUnicodeEscape => "Invalid \\uXXXX escape"
  | byteOrderMark => "Unexpected UTF-8 BOM (decode using utf-8-sig)"

inductive Stop
  /-- A problem, and how many characters were left where it arose. -/
  | problem (p : Problem) (left : Nat)
  | tooDeep (inArray : Bool)
  | tooManyDigits (digits : Nat)
  deriving DecidableEq, Repr

abbrev Step := Except Stop

def fail (p : Problem) (rest : List Char) : Step α := .error (.problem p rest.length)

def isSpace (c : Char) : Bool := c == ' ' || c == '\t' || c == '\n' || c == '\r'

def skipSpace (cs : List Char) : List Char := cs.dropWhile isSpace

def hexValue? (c : Char) : Option Nat :=
  if c.isDigit then some (c.toNat - 48)
  else if 'a' ≤ c ∧ c ≤ 'f' then some (c.toNat - 87)
  else if 'A' ≤ c ∧ c ≤ 'F' then some (c.toNat - 55)
  else none

def hex4? (a b c d : Char) : Option Nat := do
  return (← hexValue? a) * 4096 + (← hexValue? b) * 256 + (← hexValue? c) * 16 + (← hexValue? d)

def simpleEscape? : Char → Option Char
  | '"' => some '"'
  | '\\' => some '\\'
  | '/' => some '/'
  | 'b' => some '\x08'
  | 'f' => some '\x0c'
  | 'n' => some '\n'
  | 'r' => some '\r'
  | 't' => some '\t'
  | _ => none

-- A half of a surrogate pair is no character of Lean, so where it stands alone the sign for what
-- cannot be shown takes its place. Texts that differ only in such halves are not told apart.
def charOfUnit (n : Nat) : Char :=
  if 0xd800 ≤ n ∧ n < 0xe000 then '\ufffd' else Char.ofNat n

/-- The text of a string, from behind its opening quote; `start` characters were left at the quote
and `done` holds what was read, last character first. -/
def string (start : Nat) (done : List Char) : List Char → Step (String × List Char)
  | [] => .error (.problem .unterminated start)
  | '"' :: cs => .ok (.ofList done.reverse, cs)
  | ['\\'] => .error (.problem .unterminated start)
  | '\\' :: 'u' :: a :: b :: c :: d :: '\\' :: 'u' :: a' :: b' :: c' :: d' :: e' :: cs =>
    match hex4? a b c d with
    | none => fail .badUnicodeEscape ('u' :: a :: b :: c :: d :: '\\' :: 'u' :: a' :: b' :: c' :: d' :: e' :: cs)
    | some high =>
      if 0xd800 ≤ high ∧ high < 0xdc00 then
        match hex4? a' b' c' d' with
        | none => fail .badUnicodeEscape ('u' :: a' :: b' :: c' :: d' :: e' :: cs)
        | some low =>
          if 0xdc00 ≤ low ∧ low < 0xe000 then
            string start
              (Char.ofNat (0x10000 + (high - 0xd800) * 0x400 + (low - 0xdc00)) :: done) (e' :: cs)
          else
            string start (charOfUnit high :: done) ('\\' :: 'u' :: a' :: b' :: c' :: d' :: e' :: cs)
      else
        string start (charOfUnit high :: done) ('\\' :: 'u' :: a' :: b' :: c' :: d' :: e' :: cs)
  | '\\' :: 'u' :: a :: b :: c :: d :: e :: cs =>
    match hex4? a b c d with
    | none => fail .badUnicodeEscape ('u' :: a :: b :: c :: d :: e :: cs)
    | some n => string start (charOfUnit n :: done) (e :: cs)
  | '\\' :: 'u' :: cs => fail .badUnicodeEscape ('u' :: cs)
  | '\\' :: c :: cs =>
    match simpleEscape? c with
    | some d => string start (d :: done) cs
    | none => fail .badEscape ('\\' :: c :: cs)
  | c :: cs =>
    if c.toNat < 0x20 then fail .controlCharacter (c :: cs) else string start (c :: done) cs

def digits (cs : List Char) : List Char × List Char := (cs.takeWhile (·.isDigit), cs.dropWhile (·.isDigit))

def natOfDigits (ds : List Char) : Nat := ds.foldl (fun n d => 10 * n + (d.toNat - 48)) 0

def maxDigits : Nat := 4300

def fraction : List Char → List Char × List Char
  | '.' :: cs =>
    match digits cs with
    | ([], _) => ([], '.' :: cs)
    | r => r
  | cs => ([], cs)

def exponent? (cs : List Char) : Option (Int × List Char) :=
  match cs with
  | m :: rest =>
    if m = 'e' ∨ m = 'E' then
      let (negative, rest) := match rest with
        | '-' :: r => (true, r)
        | '+' :: r => (false, r)
        | r => (false, r)
      match digits rest with
      | ([], _) => none
      | (ds, r) => some (if negative then -(natOfDigits ds : Int) else natOfDigits ds, r)
    else none
  | [] => none

def numberAfter (negative : Bool) (whole rest : List Char) : Step (Json × List Char) :=
  let (frac, rest) := fraction rest
  match frac, exponent? rest with
  | [], none =>
    if maxDigits < whole.length then .error (.tooManyDigits whole.length)
    else
      let n : Int := natOfDigits whole
      .ok (.num (.int (if negative then -n else n)), rest)
  | frac, none =>
    .ok (.num (.real (.ofDecimal negative (natOfDigits (whole ++ frac)) (-frac.length))), rest)
  | frac, some (e, rest) =>
    .ok (.num (.real (.ofDecimal negative (natOfDigits (whole ++ frac)) (e - frac.length))), rest)

/-- A number. A leading zero stands alone before the point. -/
def number (cs : List Char) : Step (Json × List Char) :=
  let (negative, body) := match cs with
    | '-' :: r => (true, r)
    | r => (false, r)
  match body with
  | '0' :: r => numberAfter negative ['0'] r
  | _ =>
    match digits body with
    | ([], _) => fail .valueExpected cs
    | (ds, r) => numberAfter negative ds r

def scalar (cs : List Char) : Step (Json × List Char) :=
  match cs with
  | '"' :: r => do
    let (s, r) ← string cs.length [] r
    return (.str s, r)
  | 'n' :: 'u' :: 'l' :: 'l' :: r => .ok (.null, r)
  | 't' :: 'r' :: 'u' :: 'e' :: r => .ok (.bool true, r)
  | 'f' :: 'a' :: 'l' :: 's' :: 'e' :: r => .ok (.bool false, r)
  | 'N' :: 'a' :: 'N' :: r => .ok (.num (.real .nan), r)
  | 'I' :: 'n' :: 'f' :: 'i' :: 'n' :: 'i' :: 't' :: 'y' :: r => .ok (.num (.real (.inf false)), r)
  | '-' :: 'I' :: 'n' :: 'f' :: 'i' :: 'n' :: 'i' :: 't' :: 'y' :: r =>
    .ok (.num (.real (.inf true)), r)
  | cs => number cs

/-- Parts with commas between them, up to the closing bracket; `done` are those that were read, the
last one first. -/
def separated (read : List Char → Step (α × List Char)) (close : Char) (missing : Problem)
    (done : List α) : Nat → List Char → Step (List α × List Char)
  | 0, cs => fail missing cs
  | fuel + 1, cs => do
    let (a, cs) ← read cs
    match skipSpace cs with
    | [] => fail .commaExpected []
    | c :: cs =>
      if c = close then return ((a :: done).reverse, cs)
      else if c = ',' then separated read close missing (a :: done) fuel (skipSpace cs)
      else fail .commaExpected (c :: cs)

def listed (read : List Char → Step (α × List Char)) (close : Char) (missing : Problem)
    (size : Nat) (cs : List Char) : Step (List α × List Char) :=
  if (skipSpace cs).head? = some close then .ok ([], (skipSpace cs).tail)
  else separated read close missing [] size (skipSpace cs)

def member (item : List Char → Step (Json × List Char)) (cs : List Char) :
    Step ((String × Json) × List Char) :=
  match cs with
  | '"' :: r => do
    let (name, r) ← string cs.length [] r
    match skipSpace r with
    | ':' :: r => (item (skipSpace r)).map fun p => ((name, p.1), p.2)
    | r => fail .colonExpected r
  | cs => fail .nameExpected cs

/-- A value with at most `depth` levels of brackets, in a text of at most `size` characters. -/
def value (size : Nat) : (depth : Nat) → List Char → Step (Json × List Char)
  | 0, cs =>
    match cs with
    | '[' :: _ => .error (.tooDeep true)
    | '{' :: _ => .error (.tooDeep false)
    | cs => scalar cs
  | depth + 1, cs =>
    match cs with
    | '[' :: r =>
      (listed (value size depth) ']' .valueExpected size r).map fun p => (.arr p.1, p.2)
    | '{' :: r =>
      (listed (member (value size depth)) '}' .nameExpected size r).map fun p =>
        (.obj (Fields.ofMembers p.1), p.2)
    | cs => scalar cs

-- The number stands for the limit on recursion, which leaves the fewer levels the deeper the caller
-- stands.
def maxDepth : Nat := 990

def document (cs : List Char) : Except Stop Json :=
  match cs with
  | '\ufeff' :: _ => fail .byteOrderMark cs
  | cs => do
    let (v, rest) ← value cs.length maxDepth (skipSpace cs)
    match skipSpace rest with
    | [] => return v
    | rest => fail .extraData rest

inductive ReadError
  | malformed (problem : Problem) (line column offset : Nat)
  | tooDeep (inArray : Bool)
  | tooManyDigits (digits : Nat)
  deriving DecidableEq, Repr

def ReadError.ofStop (text : List Char) : Stop → ReadError
  | .tooDeep b => .tooDeep b
  | .tooManyDigits n => .tooManyDigits n
  | .problem p left =>
    let offset := text.length - left
    let before := text.take offset
    .malformed p (before.count '\n' + 1)
      ((before.reverse.takeWhile (· != '\n')).length + 1) offset

def ReadError.message : ReadError → String
  | malformed p line column offset => s!"{p.message}: line {line} column {column} (char {offset})"
  | tooDeep true =>
    "maximum recursion depth exceeded while decoding a JSON array from a unicode string"
  | tooDeep false =>
    "maximum recursion depth exceeded while decoding a JSON object from a unicode string"
  | tooManyDigits n =>
    s!"Exceeds the limit ({maxDigits} digits) for integer string conversion: value has {n} " ++
      "digits; use sys.set_int_max_str_digits() to increase the limit"

def read (s : String) : Except ReadError Json :=
  (document s.toList).mapError (ReadError.ofStop s.toList)

end Mend.Json
