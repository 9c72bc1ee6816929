import Mend.Pattern.Reader
import Mend.Strategy.Basic

namespace Mend

structure Template (S : Type := Strategy) where
  name : String
  category : Category
  source : String
  pattern : Expression
  strategy : S
  /-- From zero to one. -/
  confidence : Number
  /-- Results may be applied without review. -/
  autoFixable : Bool
  deriving DecidableEq, Repr

namespace Template

variable {S : Type}

def qualifiedName (t : Template S) : String := t.category.name ++ "." ++ t.name

def matchesText (t : Template S) (message : List Char) : Bool := t.pattern.found message

def matchesMessage (t : Template S) (d : Diagnostic) : Bool := t.matchesText d.text

end Template

/-- What a template is declared with. A category or a strategy may be some other value. -/
structure Declaration (S : Type := Strategy) where
  name : String
  category : Except Json Category
  source : String
  strategy : Except Json S
  confidence : Json
  autoFixable : Bool

inductive RegistrationError
  /-- A pattern with numbers or flags that cannot be dealt with at all. -/
  | beyondPatterns (fault : Pattern.Fault)
  | badPattern (name source : String) (fault : Pattern.Fault)
  | emptyName
  | badCategory (name : String) (value : Json)
  | badStrategy (name : String) (value : Json)
  | badConfidence (name : String) (value : Json)
  /-- A confidence that cannot be compared with a number. -/
  | incomparable (value : Json)
  | frozen (qualifiedName : String)
  | duplicate (qualifiedName : String)

namespace RegistrationError

/-- The error does not come of registration, but of what it rests on. -/
def isForeign : RegistrationError → Bool
  | beyondPatterns _ | incomparable _ => true
  | _ => false

def message : RegistrationError → String
  | beyondPatterns fault => fault.problem.message
  | badPattern name source fault =>
    s!"Template {Text.quoted name} has an invalid pattern: {fault.message source.toList}"
  | emptyName => "Fix template name must not be empty"
  | badCategory name v => s!"Template {Text.quoted name} has invalid error type {v.shown}"
  | badStrategy name v =>
    s!"Template {Text.quoted name} strategy must be a FixStrategy, got {v.kindName}"
  | badConfidence name v =>
    s!"Template {Text.quoted name} confidence must be within [0, 1], got {v.shown}"
  | incomparable v => s!"'<=' not supported between instances of 'float' and '{v.kindName}'"
  | frozen q => s!"Cannot register {q}: registry is frozen"
  | duplicate q => s!"Duplicate fix template: {q}"

end RegistrationError

namespace Declaration

variable {S : Type}

def checkConfidence (d : Declaration S) : Except RegistrationError Number :=
  match d.confidence with
  | .num n =>
    if Number.le 0 n && Number.le n 1 then .ok n else .error (.badConfidence d.name (.num n))
  | .bool b => .error (.badConfidence d.name (.bool b))
  | v => .error (.incomparable v)

def check (d : Declaration S) : Except RegistrationError (Template S) :=
  match Pattern.read d.source.toList with
  | .error fault =>
    .error (if fault.isBeyond then .beyondPatterns fault else .badPattern d.name d.source fault)
  | .ok pattern =>
    if d.name = "" then .error .emptyName
    else match d.category with
      | .error v => .error (.badCategory d.name v)
      | .ok category =>
        match d.strategy with
        | .error v => .error (.badStrategy d.name v)
        | .ok strategy =>
          match d.checkConfidence with
          | .error e => .error e
          | .ok confidence =>
            .ok ⟨d.name, category, d.source, pattern, strategy, confidence, d.autoFixable⟩

end Declaration

end Mend
