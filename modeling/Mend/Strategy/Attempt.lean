import Mend.Edit
import Mend.Pattern.Replacement

namespace Mend

inductive Attempt
  | fixed (text summary : String) (edits : List Edit)
  | declined (reason : String) (suggestion summary : Option String)
  deriving DecidableEq, Repr

namespace Attempt

def decline (reason : String) : Attempt := .declined reason none none

def text? : Attempt → Option String
  | fixed t _ _ => some t
  | declined .. => none

def edits : Attempt → List Edit
  | fixed _ _ es => es
  | declined .. => []

end Attempt

inductive Strategy.Fault
  /-- A text that cannot stand as a replacement. -/
  | replacement (e : Pattern.ReplacementError) (source : String)
  | nameTooLong (path : String)
  /-- A failure of a strategy that is not one of the library's own. -/
  | foreign (kind text : String)
  deriving DecidableEq, Repr

def Strategy.Fault.message : Strategy.Fault → String
  | replacement e source => e.message source.toList
  | nameTooLong path => s!"[Errno 36] File name too long: {Text.quoted path}"
  | foreign _ text => text

end Mend
