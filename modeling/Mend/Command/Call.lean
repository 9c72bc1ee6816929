import Mend.Command.Words
import Mend.FileTree
import Mend.Number.Whole
import Mend.Text.Fold

namespace Mend.Command

structure Job where
  path : String
  bytes : ByteArray
  line : Int
  category : Category
  message : String
  severity : Severity
  /-- A model may be asked. -/
  assisted : Bool
  vendor : Vendor
  model : Option String
  /-- The file is to be written. -/
  apply : Bool
  json : Bool

inductive Gap
  | misuse (m : Misuse)
  /-- A path with a null character, which cannot be looked up at all. -/
  | nullInPath

abbrev Reader (α : Type) := Option String → Except Gap α

def required (p : Parameter) (read : String → Except Gap α) : Reader α
  | some s => read s
  | none => .error (.misuse (.missingOption p))

def withDefault (default : α) (read : String → Except Gap α) : Reader α
  | some s => read s
  | none => .ok default

def readWhole (p : Parameter) (s : String) : Except Gap Int :=
  match Whole.read s with
  | some n => .ok n
  | none => .error (.misuse (.notWhole p s))

def readOne (p : Parameter) (values : List α) (same : α → String → Bool) (s : String) :
    Except Gap α :=
  match values.find? (same · s) with
  | some a => .ok a
  | none => .error (.misuse (.notOneOf p s))

def readCategory : Reader Category :=
  required typeOption (readOne typeOption Category.list fun c s => Text.foldsTo c.name s)

def readSeverity : Reader Severity :=
  withDefault .medium
    (readOne severityOption Severity.list fun v s => Text.foldsTo v.name s)

def readVendor : Reader Vendor :=
  withDefault .anthropic (readOne vendorOption Vendor.list fun v s => v.name == s)

def readFile (tree : FileTree) : Option String → Except Gap (String × ByteArray)
  | none => .error (.misuse .missingFile)
  | some path =>
    if path.toList.contains '\x00' then .error .nullInPath
    else match tree.look path with
      | .file bytes => .ok (path, bytes)
      | .directory => .error (.misuse (.isDirectory path))
      | .missing | .nameTooLong => .error (.misuse (.noSuchFile path))

abbrev Ranked := Nat × Gap

def take (rank : Nat) (default : α) : Except Gap α → List Ranked × α
  | .ok a => ([], a)
  | .error g => ([(rank, g)], default)

/-- The value of an option; if it has a gap, the default and the gap. -/
def taken (w : Words) (p : Parameter) (default : α) (read : Reader α) : List Ranked × α :=
  take (w.rank p) default (read (w.value? p))

def earliest? : List Ranked → Option Ranked
  | [] => none
  | g :: gs =>
    match earliest? gs with
    | some h => if h.1 < g.1 then some h else some g
    | none => some g

def Job.ofWords (tree : FileTree) (w : Words) : Except Gap Job :=
  let (g₁, path, bytes) :=
    take w.othersRank ("", ByteArray.empty) (readFile tree w.others.head?)
  let (g₂, line) := taken w lineOption 0 (required lineOption (readWhole lineOption))
  let (g₃, category) := taken w typeOption .grammar readCategory
  let (g₄, message) := taken w messageOption "" (required messageOption .ok)
  let (g₅, severity) := taken w severityOption .medium readSeverity
  let (g₆, vendor) := taken w vendorOption .anthropic readVendor
  match earliest? (g₁ ++ g₂ ++ g₃ ++ g₄ ++ g₅ ++ g₆), w.others with
  | some (_, g), _ => .error g
  | none, _ :: word :: words => .error (.misuse (.extraWords word words))
  | none, _ =>
    .ok ⟨path, bytes, line, category, message, severity,
      w.value? modelUseOption == some modelUseOption.name, vendor, w.value? modelOption,
      w.has applyOption, w.has jsonOption⟩

inductive Call
  | help (c : Command)
  | version
  | types
  | fix (debug : Bool) (j : Job)
  /-- There are no words at all. -/
  | empty
  | misuse (c : Command) (m : Misuse)
  | nullInPath

def Call.ofGap : Gap → Call
  | .misuse m => misuse Command.fix m
  | .nullInPath => nullInPath

def Call.ofFix (tree : FileTree) (debug : Bool) (args : List String) : Call :=
  match Words.sort Command.fix args with
  | .error m => misuse Command.fix m
  | .ok w =>
    if w.has helpOption then help Command.fix
    else match Job.ofWords tree w with
      | .ok j => fix debug j
      | .error g => ofGap g

def Call.ofTypes (args : List String) : Call :=
  match Words.sort Command.types args with
  | .error m => misuse Command.types m
  | .ok w =>
    if w.has helpOption then help Command.types
    else match w.others with
      | [] => types
      | word :: words => misuse Command.types (.extraWords word words)

def Call.atOnce? (w : Words) : Option Call :=
  w.mentions.findSome? fun m =>
    if m.name = helpOption.name then some (help top)
    else if m.name = versionOption.name then some version
    else none

/-- A name that no command has; it may still be an option. -/
def Call.ofUnknown (name : String) (args : List String) : Call :=
  match Words.sort top (name :: args) with
  | .error m => misuse top m
  | .ok w =>
    let similar := Similar.closest (top.below.map (·.1)) name
    (atOnce? w).getD (misuse top (.unknownCommand name similar))

def Call.ofWords (tree : FileTree) (w : Words) : Call :=
  match atOnce? w, w.others with
  | some c, _ => c
  | none, [] => misuse top .missingCommand
  | none, name :: args =>
    if name = "fix" then ofFix tree (w.has debugOption) args
    else if name = "types" then ofTypes args
    else ofUnknown name args

def Call.ofArguments (tree : FileTree) (args : List String) : Call :=
  if args.isEmpty then empty
  else match Words.sort top args with
    | .error m => misuse top m
    | .ok w => ofWords tree w

end Mend.Command
