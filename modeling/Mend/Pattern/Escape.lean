import Mend.Number.Whole
import Mend.Pattern.CharSet
import Mend.Pattern.Source
import Mend.Text.CharName

/-!
Characters by number, by letter and by name: what a backslash and what follows it stand for. A
number may be one that no character has, so a character is given by its number here.
-/

namespace Mend.Pattern

open Source (failAt)

def isOctal (c : Char) : Bool := '0' ≤ c && c ≤ '7'

def isHex (c : Char) : Bool := c.isDigit || ('a' ≤ c && c ≤ 'f') || ('A' ≤ c && c ≤ 'F')

def digitIn (c : Char) : Nat := if c.isDigit then c.toNat - 48 else c.toLower.toNat - 87

def numberIn (base : Nat) (cs : List Char) : Nat := cs.foldl (fun n c => base * n + digitIn c) 0

def octal : List Char → Nat := numberIn 8

def decimal : List Char → Nat := numberIn 10

def controlEscape? : Char → Option Char
  | 'a' => some '\x07'
  | 'b' => some '\x08'
  | 'f' => some '\x0c'
  | 'n' => some '\n'
  | 'r' => some '\r'
  | 't' => some '\t'
  | 'v' => some '\x0b'
  | '\\' => some '\\'
  | _ => none

def badEscape (text : List Char) (start : Nat) : Source.Step α :=
  failAt (.badEscape (.ofList text)) start

/-- Digits behind a backslash, the first one not zero: a character by its octal number when there
are three octal ones, else the number of a group. -/
def digitEscape (c : Char) (s : Source) : Source.Step ((Nat ⊕ Nat) × Nat × Source) := do
  let (second, s) ← s.takeIn (·.isDigit) 1
  if isOctal c && !second.isEmpty && second.all isOctal && s.nextIn isOctal then
    let (third, s) ← s.takeIn isOctal 1
    let n := octal (c :: second ++ third)
    if 255 < n then
      failAt (.octalTooLarge (.ofList ('\\' :: c :: second ++ third))) (s.position - 4)
    return (.inl n, 4, s)
  return (.inr (decimal (c :: second)), 2 + second.length, s)

def hexEscape (c : Char) (width start : Nat) (s : Source) : Source.Step (Nat × Source) := do
  let (ds, s) ← s.takeIn isHex width
  let text := '\\' :: c :: ds
  if ds.length < width then failAt (.shortEscape (.ofList text)) start
  if 0x10ffff < numberIn 16 ds then badEscape text start
  return (numberIn 16 ds, s)

def nameEscape (s : Source) : Source.Step (Nat × Source) := do
  let (opened, s) ← s.accept '\x7b'
  if !opened then failAt (.missing "\x7b") s.position
  let (name, s) ← s.upTo "character name" '\x7d'
  match Text.charNamed? (.ofList name) with
  | some c => return (c.toNat, s)
  | none => failAt (.unknownChar (.ofList name)) (s.position - (name.length + 4))

def letterEscape? (c : Char) (start : Nat) (s : Source) : Option (Source.Step (Nat × Source)) :=
  match c with
  | 'x' => some (hexEscape c 2 start s)
  | 'u' => some (hexEscape c 4 start s)
  | 'U' => some (hexEscape c 8 start s)
  | 'N' => some (nameEscape s)
  | _ => none

/-- The kind of characters that a letter stands for, a small letter for those of the kind and a
capital for all others. -/
def kindEscape? (ascii : Bool) (c : Char) : Option Member :=
  match c with
  | 'd' => some (.kind .digit ascii false)
  | 'D' => some (.kind .digit ascii true)
  | 's' => some (.kind .blank ascii false)
  | 'S' => some (.kind .blank ascii true)
  | 'w' => some (.kind .word ascii false)
  | 'W' => some (.kind .word ascii true)
  | _ => none

def memberEscape (ascii : Bool) (c : Char) (start : Nat) (s : Source) :
    Source.Step (Member × Source) := do
  let number (n : Nat) : Member := .code n
  if let some d := controlEscape? c then return (number d.toNat, s)
  if let some m := kindEscape? ascii c then return (m, s)
  if let some step := letterEscape? c start s then return (← step).map number id
  if isOctal c then
    let (ds, s) ← s.takeIn isOctal 2
    if 255 < octal (c :: ds) then failAt (.octalTooLarge (.ofList ('\\' :: c :: ds))) start
    return (number (octal (c :: ds)), s)
  if c.isAlphanum then badEscape ['\\', c] start
  return (number c.toNat, s)

/-- The number of a group, written as any whole number may be. -/
def groupNumber? (name : List Char) : Option Nat :=
  (Whole.read (.ofList name)).bind fun n => if n < 0 then none else some n.toNat

end Mend.Pattern
