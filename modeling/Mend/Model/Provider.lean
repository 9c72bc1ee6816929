import Mend.Number.Basic

namespace Mend

inductive Failure.Kind
  /-- The library that reaches the provider is missing. -/
  | unavailable
  | provider
  | authentication
  | rateLimit
  | timeout
  | tokenLimit
  | response
  | general
  deriving DecidableEq, Repr

structure Failure where
  kind : Failure.Kind
  message : String
  deriving DecidableEq, Repr

def Failure.isPassing (f : Failure) : Bool :=
  match f.kind with
  | .provider => true
  | .rateLimit => true
  | .timeout => true
  | _ => false

inductive Turn (α : Type)
  | returned (a : α)
  | failed (f : Failure)
  /-- Did not answer in time. -/
  | late (text : String)
  /-- Failed for a reason of its own. -/
  | crashed (kind text : String)
  deriving DecidableEq, Repr

structure Call where
  prompt : String
  system : Option String
  maxTokens : Int
  /-- In seconds. -/
  timeout : Number
  deriving DecidableEq, Repr

structure Completion where
  content : String
  model : String
  inputTokens : Int
  outputTokens : Int
  /-- In dollars. -/
  cost : Number
  provider : String
  deriving DecidableEq, Repr

structure Provider (σ : Type) where
  name : String
  modelName : String
  complete : Call → σ → Turn Completion × σ

end Mend
