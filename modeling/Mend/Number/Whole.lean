import Mend.Json.Reader
import Mend.Text.Kind
import Mend.Text.Trim

namespace Mend.Whole

/-- Blanks around a number; the separators of records do not count. -/
def isMargin (c : Char) : Bool := Text.isBlank c && !(0x1c ≤ c.toNat && c.toNat ≤ 0x1f)

/-- The values of digits with single underscores between them. -/
def digits? : List Char → Option (List Nat)
  | [] => none
  | [c] => (Text.digit? c).map ([·])
  | c :: '_' :: cs => do return (← Text.digit? c) :: (← digits? cs)
  | c :: cs => do return (← Text.digit? c) :: (← digits? cs)

def natOfDigits (ds : List Nat) : Nat := ds.foldl (fun n d => 10 * n + d) 0

/-- A number without a sign; it may not have too many digits. -/
def nat? (cs : List Char) : Option Nat :=
  match digits? cs with
  | some ds => if ds.length ≤ Json.maxDigits then some (natOfDigits ds) else none
  | none => none

def read (s : String) : Option Int :=
  match Text.dropRight isMargin (Text.dropLeft isMargin s.toList) with
  | '-' :: cs => (nat? cs).map fun n => -(n : Int)
  | '+' :: cs => (nat? cs).map fun n => (n : Int)
  | cs => (nat? cs).map fun n => (n : Int)

end Mend.Whole
