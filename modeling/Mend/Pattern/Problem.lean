import Mend.Text.Quoted

namespace Mend.Pattern

inductive Problem
  | danglingEscape
  | unbalanced
  | unclosed
  | unclosedComment
  | nothingToRepeat
  | multipleRepeat
  | unclosedSet
  | badRange (low high : String)
  | minAboveMax
  | badEscape (text : String)
  | shortEscape (text : String)
  | octalTooLarge (text : String)
  | noGroup (n : Nat)
  | openGroup
  /-- A group that is referred to from the same look behind. -/
  | sameLook
  | zeroGroup
  | unexpectedEnd
  | unknownExtension (text : String)
  | missing (what : String)
  | unclosedName (terminator : String)
  | badGroupName (name : String)
  | unknownGroup (name : String)
  | doubleGroup (name : String) (number earlier : Nat)
  | unknownChar (name : String)
  | thirdBranch
  | lateFlags
  | unknownFlag
  | localeFlag
  | exclusiveFlags
  | globalFlagOn
  | globalFlagOff
  | exclusiveFlagOff
  | flagOnAndOff
  | variableLook
  | distantLook
  | templateRepeat (kind : String)
  /-- More copies than can be counted. -/
  | tooManyCopies
  | tooManyDigits (n : Nat)
  | clashingFlags
  /-- More groups inside each other than can be followed. -/
  | tooDeep
  deriving DecidableEq, Repr

def Problem.message : Problem → String
  | danglingEscape => "bad escape (end of pattern)"
  | unbalanced => "unbalanced parenthesis"
  | unclosed => "missing ), unterminated subpattern"
  | unclosedComment => "missing ), unterminated comment"
  | nothingToRepeat => "nothing to repeat"
  | multipleRepeat => "multiple repeat"
  | unclosedSet => "unterminated character set"
  | badRange low high => s!"bad character range {low}-{high}"
  | minAboveMax => "min repeat greater than max repeat"
  | badEscape t => s!"bad escape {t}"
  | shortEscape t => s!"incomplete escape {t}"
  | octalTooLarge t => s!"octal escape value {t} outside of range 0-0o377"
  | noGroup n => s!"invalid group reference {n}"
  | openGroup => "cannot refer to an open group"
  | sameLook => "cannot refer to group defined in the same lookbehind subpattern"
  | zeroGroup => "bad group number"
  | unexpectedEnd => "unexpected end of pattern"
  | unknownExtension t => s!"unknown extension ?{t}"
  | missing what => s!"missing {what}"
  | unclosedName t => s!"missing {t}, unterminated name"
  | badGroupName n => s!"bad character in group name {Text.quoted n}"
  | unknownGroup n => s!"unknown group name {Text.quoted n}"
  | doubleGroup n number earlier =>
    s!"redefinition of group name {Text.quoted n} as group {number}; was group {earlier}"
  | unknownChar n => s!"undefined character name {Text.quoted n}"
  | thirdBranch => "conditional backref with more than two branches"
  | lateFlags => "global flags not at the start of the expression"
  | unknownFlag => "unknown flag"
  | localeFlag => "bad inline flags: cannot use 'L' flag with a str pattern"
  | exclusiveFlags => "bad inline flags: flags 'a', 'u' and 'L' are incompatible"
  | globalFlagOn => "bad inline flags: cannot turn on global flag"
  | globalFlagOff => "bad inline flags: cannot turn off global flag"
  | exclusiveFlagOff => "bad inline flags: cannot turn off flags 'a', 'u' and 'L'"
  | flagOnAndOff => "bad inline flags: flag turned on and off"
  | variableLook => "look-behind requires fixed-width pattern"
  | distantLook => "looks too much behind"
  | templateRepeat kind => s!"internal: unsupported template operator {kind}"
  | tooManyCopies => "the repetition number is too large"
  | tooManyDigits n =>
    s!"Exceeds the limit (4300 digits) for integer string conversion: value has {n} digits; " ++
      "use sys.set_int_max_str_digits() to increase the limit"
  | clashingFlags => "ASCII and UNICODE flags are incompatible"
  | tooDeep => "maximum recursion depth exceeded"

/-- The problem is not one of how patterns are written, but of the numbers, the flags or the depth of
one. -/
def Problem.isBeyond : Problem → Bool
  | tooManyCopies | tooManyDigits _ | clashingFlags | tooDeep => true
  | _ => false

structure Fault where
  problem : Problem
  position : Option Nat
  deriving DecidableEq, Repr

def Fault.isBeyond (f : Fault) : Bool := f.problem.isBeyond

/-- The message names the line and the column too when the source has several lines. -/
def Fault.message (f : Fault) (source : List Char) : String :=
  match f.position with
  | none => f.problem.message
  | some n =>
    let before := source.take n
    let base := s!"{f.problem.message} at position {n}"
    if source.contains '\n' then
      let line := before.count '\n' + 1
      let column := (before.reverse.takeWhile (· != '\n')).length + 1
      s!"{base} (line {line}, column {column})"
    else base

end Mend.Pattern
