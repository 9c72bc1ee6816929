import Mend.Model.Provider
import Mend.Text.Search

namespace Mend

structure Script.Response where
  cue : String
  turn : Turn Completion

structure Script where
  responses : List Script.Response
  /-- Calls so far. -/
  calls : Nat
  latest : Option Call

namespace Script

def start (responses : List Response) : Script := ⟨responses, 0, none⟩

def fallback : Turn Completion := .returned ⟨"\x7b\x7d", "", 0, 0, .real .zero, ""⟩

def take? (prompt : List Char) : List Response → Option (Turn Completion × List Response)
  | [] => none
  | r :: rest =>
    if Text.occurs r.cue.toList prompt then some (r.turn, rest)
    else (take? prompt rest).map fun (t, others) => (t, r :: others)

def complete (c : Call) (s : Script) : Turn Completion × Script :=
  match take? c.prompt.toList s.responses with
  | some (t, others) => (t, ⟨others, s.calls + 1, some c⟩)
  | none => (fallback, ⟨s.responses, s.calls + 1, some c⟩)

def provider (name modelName : String) : Provider Script := ⟨name, modelName, complete⟩

end Script

end Mend
