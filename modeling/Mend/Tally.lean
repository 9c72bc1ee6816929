import Mend.Number.Basic
import Mend.Json.Basic

/-!
Tallies of requests. Each request is entered once; counts grow until the tally is reset. Confidences
are doubles, but they may be of any kind of number that has sums and quotients.
-/

namespace Mend

structure Tally.Entry (α : Type := Binary64) where
  success : Bool
  autoFixable : Bool
  method : Option String
  errorType : Option String
  complexity : Option String
  confidence : α

/-- Counts by name, in the order in which the names came up. -/
abbrev Counts := List (String × Nat)

def Counts.increment (name : String) : Counts → Counts
  | [] => [(name, 1)]
  | (k, n) :: rest => if k = name then (k, n + 1) :: rest else (k, n) :: increment name rest

def Counts.count (name : String) : Counts → Nat
  | [] => 0
  | (k, n) :: rest => if k = name then n else count name rest

def Counts.sum : Counts → Nat
  | [] => 0
  | c :: cs => c.2 + sum cs

structure Tally (α : Type := Binary64) where
  total : Nat
  successful : Nat
  failed : Nat
  autoFixable : Nat
  byMethod : Counts
  byErrorType : Counts
  byComplexity : Counts
  confidenceSum : α
  lastTime : Option String

namespace Tally

structure Snapshot (α : Type := Binary64) where
  total : Nat
  successful : Nat
  failed : Nat
  autoFixable : Nat
  byTemplate : Nat
  byModel : Nat
  byErrorType : Counts
  byComplexity : Counts
  averageConfidence : α
  lastTime : Option String

section
variable {α : Type}

def empty [Zero α] : Tally α := ⟨0, 0, 0, 0, [], [], [], 0, none⟩

def label (name : Option String) : String :=
  match name with
  | none => "unknown"
  | some s => if s = "" then "unknown" else s

def record [Add α] (t : Tally α) (now : String) (e : Entry α) : Tally α where
  total := t.total + 1
  successful := t.successful + if e.success then 1 else 0
  failed := t.failed + if e.success then 0 else 1
  autoFixable := t.autoFixable + if e.autoFixable then 1 else 0
  byMethod := match e.method with
    | some m => Counts.increment m t.byMethod
    | none => t.byMethod
  byErrorType := Counts.increment (label e.errorType) t.byErrorType
  byComplexity := Counts.increment (label e.complexity) t.byComplexity
  confidenceSum := t.confidenceSum + e.confidence
  lastTime := some now

variable [Zero α] [Div α] [NatCast α]

def averageConfidence (t : Tally α) : α :=
  if t.total = 0 then 0 else t.confidenceSum / (t.total : α)

def snapshot (t : Tally α) : Snapshot α where
  total := t.total
  successful := t.successful
  failed := t.failed
  autoFixable := t.autoFixable
  byTemplate := Counts.count "template" t.byMethod
  byModel := Counts.count "ai" t.byMethod
  byErrorType := t.byErrorType
  byComplexity := t.byComplexity
  averageConfidence := t.averageConfidence
  lastTime := t.lastTime

end

/-- Successes in a hundred requests, to one place. -/
def Snapshot.successRate (s : Snapshot) : Binary64 :=
  if s.total = 0 then 0
  else Decimal.round 1 (s.successful / (s.total : Binary64) * (100 : Nat))

def nat (n : Nat) : Json := .num (.int n)

def countsJson (c : Counts) : Json := .obj (c.map fun e => (e.1, nat e.2))

def Snapshot.toFields (s : Snapshot) : Json.Fields :=
  [("totalFixes", nat s.total), ("successfulFixes", nat s.successful),
    ("failedFixes", nat s.failed), ("autoFixableErrors", nat s.autoFixable),
    ("successRate", .num (.real s.successRate)), ("templateFixes", nat s.byTemplate),
    ("aiFixes", nat s.byModel),
    ("averageConfidence", .num (.real (Decimal.round 2 s.averageConfidence))),
    ("byErrorType", countsJson s.byErrorType), ("byComplexity", countsJson s.byComplexity),
    ("lastFixTime", match s.lastTime with
      | some time => .str time
      | none => .null)]

def toFields (t : Tally) : Json.Fields := t.snapshot.toFields

def toJson (t : Tally) : Json := .obj t.toFields

end Tally

end Mend
