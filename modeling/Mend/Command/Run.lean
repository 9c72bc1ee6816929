import Mend.Command.Call
import Mend.Command.Help
import Mend.Json.Printer
import Mend.Log
import Mend.Model.Account
import Mend.Screen.Plain
import Mend.Screen.View
import Mend.Text.Utf8
import Mend.Workshop

/-!
Runs of the command line: what is shown, what is complained of and what is written to a file. A file
is written only when that is asked for and a template has repaired it.
-/

namespace Mend.Command

structure World (σ : Type) where
  tree : FileTree
  /-- The vendors whose libraries are there. -/
  installed : List String
  now : String
  /-- The assistant for given settings, and the state in which it starts. -/
  assistant : Settings → Assistant σ
  start : σ

inductive Fault
  | reply (f : Reply.Fault)
  | view (f : View.Fault)
  | log (p : Log.Problem)
  | nullInPath

def Fault.message : Fault → String
  | reply f => f.message
  | view f => f.message
  | log p => p.message
  | nullInPath => "embedded null byte"

structure Change where
  path : String
  text : String
  deriving DecidableEq, Repr

structure Outcome where
  /-- The exit status, if the run comes to its end. -/
  status : Except Fault Nat
  output : String := ""
  complaint : String := ""
  change : Option Change := none

namespace Outcome

def shown (text : String) : Outcome := { status := .ok 0, output := text }

def failed (status : Nat) (text : String) : Outcome :=
  { status := .ok status, complaint := Plain.text text }

def broken (f : Fault) : Outcome := { status := .error f }

def tree (o : Outcome) (t : FileTree) : FileTree :=
  match o.change with
  | some c => t.write c.path c.text.toUTF8
  | none => t

end Outcome

namespace Job

def file (j : Job) : String := (Path.ofString j.path).text

def diagnostic (j : Job) : Diagnostic where
  bucket := .known j.category
  message := j.message
  file := j.file
  line := j.line
  severity := j.severity
  column := 0
  code := ""

def request (j : Job) (content : String) : Request :=
  ⟨j.diagnostic, content, some (.ofFile j.file content)⟩

def settings (j : Job) : Settings :=
  { enabled := true, vendor := j.vendor.name, model := j.model }

/-- The text that repairs the file as a whole, if the report has it; models repair parts only. -/
def repaired? (r : Report) : Option String :=
  if r.success && r.method == some Report.byTemplate then r.fix else none

def change? (j : Job) (r : Report) : Option Change :=
  if j.apply then (repaired? r).map (⟨j.path, ·⟩) else none

def closing (j : Job) (r : Report) : String :=
  if !j.apply || j.json then ""
  else if (repaired? r).isSome then
    let name := r.fixType.getD "None"
    s!"Applied {name} fix to {j.file}\n"
  else "Nothing applied.\n"

def display (j : Job) (r : Report) : Except View.Fault String :=
  if j.json then .ok (r.toJson.pretty ++ "\n")
  else View.report j.diagnostic r (!j.apply) true

-- A change is taken to be made. Were the file one that cannot be written, the run would end with
-- status 1 after the report is shown.
def conclude (j : Job) (r : Report) : Outcome :=
  match j.display r with
  | .error f => .broken (.view f)
  | .ok text =>
    { status := .ok (if r.success then 0 else 1), output := Plain.text (text ++ j.closing r),
      change := j.change? r }

def complaint? (j : Job) (w : World σ) : Option String :=
  if j.assisted then Availability.complaint? w.installed (some j.vendor.name) else none

def assistant? (j : Job) (w : World σ) : Option (Assistant σ) :=
  if j.assisted then some (w.assistant j.settings) else none

def logProblem? (debug : Bool) (workshop : Workshop) (tree : FileTree) (r : Request) :
    Option Log.Problem :=
  if debug then (workshop.faultLine? tree r).bind Log.problem? else none

def repair (w : World σ) (debug : Bool) (j : Job) (content : String) : Outcome :=
  let workshop := Workshop.ofCatalog Catalog.builtin
  let request := j.request content
  match logProblem? debug workshop w.tree request with
  | some p => .broken (.log p)
  | none =>
    match (workshop.answer (j.assistant? w) w.now w.tree request w.start).1.answer with
    | .ok report => j.conclude report
    | .error f => .broken (.reply f)

def run (w : World σ) (debug : Bool) (j : Job) : Outcome :=
  match Utf8.decode j.bytes with
  | .error m => .failed 1 s!"Error: Cannot read {j.file}: not valid UTF-8 ({m.message})\n"
  | .ok content =>
    match j.complaint? w with
    | some complaint => .failed 2 ((Misuse.unavailable complaint).text Command.fix)
    | none => repair w debug j content

end Job

def typesTable : Outcome :=
  match View.catalog Catalog.builtin.list with
  | .ok text => .shown (Plain.text text)
  | .error f => .broken (.view f)

def Call.run (w : World σ) : Call → Outcome
  | help c => .shown c.help
  | version => .shown s!"{top.path}, version {Command.version}\n"
  | types => typesTable
  | fix debug j => j.run w debug
  | empty => .failed 2 top.help
  | misuse c m => .failed 2 (m.text c)
  | nullInPath => .broken .nullInPath

def run (w : World σ) (args : List String) : Outcome := (Call.ofArguments w.tree args).run w

end Mend.Command
