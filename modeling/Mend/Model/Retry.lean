import Mend.Model.Provider
import Mend.Number.Basic

namespace Mend.Retry

structure Policy where
  /-- Attempts after the first one; below zero counts as zero. -/
  maxRetries : Int := 3
  /-- Seconds for one attempt; with none at all, every attempt is late. -/
  timeout : Number := .real (.ofRatio false 30 1)
  baseDelay : Number := .real .one

inductive Stop
  | failure (f : Failure)
  /-- A number beyond the range of doubles. -/
  | outOfRange
  deriving DecidableEq, Repr

def delay? (baseDelay : Number) (attempt : Int) : Option Number :=
  baseDelay.mul? (.int (attempt + 1))

/-- A wait that a double can hold. -/
def wait? (p : Policy) (attempt : Nat) : Option Number := do
  let w ← delay? p.baseDelay attempt
  let _ ← w.toReal?
  return w

def outOfRangeText : String := "int too large to convert to float"

def timedOut (p : Policy) : Stop :=
  match p.timeout.toReal? with
  | some x => .failure ⟨.timeout, s!"Model call timed out after {Decimal.briefText x}s"⟩
  | none => .outOfRange

def wrapped (text : String) : Stop := .failure ⟨.provider, s!"Model call failed: {text}"⟩

def settle (p : Policy) : Turn α → Except Stop α
  | .returned a => .ok a
  | .failed f => .error (.failure f)
  | .late _ => .error (timedOut p)
  | .crashed _ text => .error (wrapped text)

/-- One attempt. A limit that no clock can hold fails before anything is called. -/
def attempt (p : Policy) (call : σ → Turn α × σ) (s : σ) : Except Stop α × σ :=
  if p.timeout.le 0 then (.error (timedOut p), s)
  else match p.timeout.toReal? with
    | none => (.error (wrapped outOfRangeText), s)
    | some _ => (settle p (call s).1, (call s).2)

def repeats : Except Stop α → Bool
  | .error (.failure f) => f.isPassing
  | _ => false

inductive Event
  | attempt
  | wait (w : Number)
  deriving DecidableEq, Repr

def Event.wait? : Event → Option Number
  | attempt => none
  | wait w => some w

def calls (es : List Event) : Nat := es.count .attempt

def waits (es : List Event) : List Number := es.filterMap Event.wait?

structure Trace (α : Type) where
  outcome : Except Stop α
  events : List Event

def Trace.calls (t : Trace α) : Nat := Retry.calls t.events

def Trace.waits (t : Trace α) : List Number := Retry.waits t.events

def Trace.once (outcome : Except Stop α) : Trace α := ⟨outcome, [.attempt]⟩

def Trace.after (w : Number) (t : Trace α) : Trace α :=
  ⟨t.outcome, .attempt :: .wait w :: t.events⟩

/-- Attempts from the one numbered `n` on, `left` repetitions at most. -/
def runFrom (p : Policy) (call : σ → Turn α × σ) (n : Nat) : (left : Nat) → σ → Trace α × σ
  | 0, s =>
    let (r, s) := attempt p call s
    (.once r, s)
  | left + 1, s =>
    let (r, s) := attempt p call s
    if repeats r then
      match wait? p n with
      | some w =>
        let (t, s) := runFrom p call (n + 1) left s
        (t.after w, s)
      | none => (.once (.error .outOfRange), s)
    else (.once r, s)

def run (p : Policy) (call : σ → Turn α × σ) (s : σ) : Trace α × σ :=
  runFrom p call 0 p.maxRetries.toNat s

end Mend.Retry
