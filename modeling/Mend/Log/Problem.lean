import Mend.Text.Quoted

namespace Mend.Log

inductive Problem
  | loneOpening
  | loneClosing
  | nestedOpening
  | unclosedField
  | unclosedLayout
  | noConversion
  | noColon
  | tooDeep
  | unknownField (name : String)
  /-- A field by number in a line whose values have names only. -/
  | noField (index : Nat)
  | tooManyDigits
  | emptyPart
  | badPartStart
  | noPart (owner name : String)
  | abstractPart (name : String)
  | noItems (owner : String)
  | noItem (owner : String)
  | noEntry (key : String)
  | badTextIndex
  | badRowIndex
  | unknownConversion (c : Char)
  | noLayouts (kind : String)
  | badLayout (spec kind : String)
  | unknownCode (code : Char) (kind : String)
  | twoSeparators
  | badSeparator (separator code : Char)
  | noPlaces
  | tooManyPlaces
  | spaceBeforeText
  | signBeforeText
  | zeroOfText
  | alternateText
  | innerText
  | placesOfWhole
  | zeroOfWhole
  | signBeforeCharacter
  | alternateCharacter
  | noCharacter
  deriving DecidableEq, Repr

/-- A character, or its number if it is none of those that `isPlain` admits. -/
def shownChar (isPlain : Char → Bool) (c : Char) : String :=
  if isPlain c then .ofList [c] else .ofList ('\\' :: 'x' :: Nat.toDigits 16 c.toNat)

def shownCode : Char → String := shownChar fun c => ' ' < c && c.toNat < 128

def Problem.message : Problem → String
  | loneOpening => "Single '\x7b' encountered in format string"
  | loneClosing => "Single '\x7d' encountered in format string"
  | nestedOpening => "unexpected '\x7b' in field name"
  | unclosedField => "expected '\x7d' before end of string"
  | unclosedLayout => "unmatched '\x7b' in format spec"
  | noConversion => "end of string while looking for conversion specifier"
  | noColon => "expected ':' after conversion specifier"
  | tooDeep => "Max string recursion exceeded"
  | unknownField name => Text.quoted name
  | noField i => s!"Replacement index {i} out of range for positional args tuple"
  | tooManyDigits => "Too many decimal digits in format string"
  | emptyPart => "Empty attribute in format string"
  | badPartStart => "Only '.' or '[' may follow ']' in format field specifier"
  | noPart owner name => s!"{owner} has no attribute '{name}'"
  | abstractPart name => name
  | noItems owner => s!"{owner} is not subscriptable"
  | noItem owner => s!"{owner} index out of range"
  | noEntry key => key
  | badTextIndex => "string indices must be integers, not 'str'"
  | badRowIndex => "tuple indices must be integers or slices, not str"
  | unknownConversion c =>
    let shown := shownChar (fun c => ' ' < c && c.toNat < 127) c
    s!"Unknown conversion specifier {shown}"
  | noLayouts kind => s!"unsupported format string passed to {kind}.__format__"
  | badLayout spec kind => s!"Invalid format specifier '{spec}' for object of type '{kind}'"
  | unknownCode code kind => s!"Unknown format code '{shownCode code}' for object of type '{kind}'"
  | twoSeparators => "Cannot specify both ',' and '_'."
  | badSeparator separator code =>
    s!"Cannot specify '{separator}' with '{shownCode code}'."
  | noPlaces => "Format specifier missing precision"
  | tooManyPlaces => "precision too big"
  | spaceBeforeText => "Space not allowed in string format specifier"
  | signBeforeText => "Sign not allowed in string format specifier"
  | zeroOfText => "Negative zero coercion (z) not allowed in string format specifier"
  | alternateText => "Alternate form (#) not allowed in string format specifier"
  | innerText => "'=' alignment not allowed in string format specifier"
  | placesOfWhole => "Precision not allowed in integer format specifier"
  | zeroOfWhole => "Negative zero coercion (z) not allowed in integer format specifier"
  | signBeforeCharacter => "Sign not allowed with integer format specifier 'c'"
  | alternateCharacter => "Alternate form (#) not allowed with integer format specifier 'c'"
  | noCharacter => "%c arg not in range(0x110000)"

end Mend.Log
