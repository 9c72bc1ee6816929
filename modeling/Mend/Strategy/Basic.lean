import Mend.Strategy.Blanks
import Mend.Strategy.Brackets
import Mend.Strategy.Extension
import Mend.Strategy.MissingName
import Mend.Strategy.Statement
import Mend.Strategy.Terminator
import Mend.Strategy.Unreachable
import Mend.Strategy.Unused

namespace Mend

inductive Strategy
  | terminator (mark : String)
  | brackets
  | unexpectedToken
  | trailingBlanks
  | console
  | debugger
  | unusedVariable (window : Int)
  | unusedImport
  | unreachable
  | extension (extensions : List String)
  | missingName
  /-- Declines every diagnostic. -/
  | decline (reason : String)
  /-- Fails on every diagnostic. -/
  | broken (fault : Mend.Strategy.Fault)
  deriving DecidableEq, Repr

namespace Strategy

def attempt (s : Strategy) (tree : FileTree) (d : Diagnostic) (content : String)
    (context : Option Context) : Except Fault Attempt :=
  match s with
  | terminator mark => .ok (Terminator.attempt mark d content)
  | brackets => .ok (Brackets.attempt content)
  | unexpectedToken => .ok (.decline "Unexpected token errors usually require manual review")
  | trailingBlanks => .ok (Blanks.attempt content)
  | console => .ok (Statement.consoleAttempt d content)
  | debugger => .ok (Statement.debuggerAttempt d content)
  | unusedVariable window => .ok (Unused.variableAttempt window d content)
  | unusedImport => .ok (Unused.importAttempt d content)
  | unreachable => .ok (Unreachable.attempt d content)
  | extension extensions => Extension.attempt extensions tree d content context
  | missingName => .ok (MissingName.attempt d content)
  | decline reason => .ok (.decline reason)
  | broken fault => .error fault

def probes (s : Strategy) (d : Diagnostic) (context : Option Context) : List String :=
  match s with
  | extension extensions => Extension.probes extensions d context
  | _ => []

end Strategy

/-- What strategies of some type do, those of this library or others. -/
class Repairer (S : Type) where
  attempt : S → FileTree → Diagnostic → String → Option Context → Except Strategy.Fault Attempt

instance : Repairer Strategy := ⟨Strategy.attempt⟩

end Mend
