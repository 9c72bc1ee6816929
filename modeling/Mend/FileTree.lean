import Mend.Path

/-!
The files that a repair can see, by the names that lead to them from the root, and the working
directory from which relative paths start. Nothing else is known, so any other path leads nowhere.
-/

namespace Mend

structure FileTree where
  files : List (List String × ByteArray)
  directories : List (List String)
  /-- The names of the working directory. -/
  here : List String
  deriving Inhabited

namespace FileTree

/-- No files. The working directory bears a name that no path spells, so nothing leads back into it
from outside. -/
def empty : FileTree := ⟨[], [], ["."]⟩

inductive Node
  | file (bytes : ByteArray)
  | directory
  | missing
  | nameTooLong

/-- The longest name, and the longest path with its end mark, in bytes. -/
def maxName : Nat := 255

def maxPath : Nat := 4096

def isDirectory (t : FileTree) (names : List String) : Bool :=
  names.isEmpty || names.isPrefixOf t.here || t.directories.any (names.isPrefixOf ·) ||
    t.files.any fun f => names.isPrefixOf f.1 && names.length < f.1.length

def bytes? (t : FileTree) (names : List String) : Option ByteArray :=
  (t.files.find? (·.1 == names)).map (·.2)

def enter (names : List String) (n : String) : List String :=
  if n = "" ∨ n = "." then names
  else if n = ".." then names.dropLast
  else names ++ [n]

def follow (t : FileTree) : List String → List String → Node
  | _, [] => .directory
  | names, n :: rest =>
    let next := enter names n
    if n = "" ∨ n = "." ∨ n = ".." then follow t next rest
    else if maxName < n.utf8ByteSize then .nameTooLong
    else if t.isDirectory next then follow t next rest
    else match t.bytes? next with
      | some b => if rest.isEmpty then .file b else .missing
      | none => .missing

def start (t : FileTree) (path : String) : List String :=
  if Path.rootOf path = "" then t.here else []

def look (t : FileTree) (path : String) : Node :=
  if path = "" ∨ path.toList.contains '\x00' then .missing
  else if maxPath ≤ path.utf8ByteSize then .nameTooLong
  else t.follow (t.start path) (Path.pieces path)

def place (t : FileTree) (path : String) : List String :=
  (Path.pieces path).foldl enter (t.start path)

def withFile (t : FileTree) (path : String) (bytes : ByteArray) : FileTree :=
  { t with files := t.files ++ [(t.place path, bytes)] }

def withDirectory (t : FileTree) (path : String) : FileTree :=
  { t with directories := t.directories ++ [t.place path] }

-- A file that is there can always be written here. Permissions are left out.
def write (t : FileTree) (path : String) (bytes : ByteArray) : FileTree :=
  { t with
    files := t.files.map fun f => if f.1 = t.place path then (f.1, bytes) else f }

theorem bytes?_write_of_ne {t : FileTree} {path : String} {bytes : ByteArray}
    {names : List String} (h : names ≠ t.place path) :
    (t.write path bytes).bytes? names = t.bytes? names := by
  simp only [bytes?, write]
  induction t.files with
  | nil => rfl
  | cons f fs ih =>
    by_cases hf : f.1 = t.place path
    · have hn : (t.place path == names) = false := by simpa using Ne.symm h
      simp only [List.map_cons, hf, ↓reduceIte, List.find?_cons, hn]
      exact ih
    · simp only [List.map_cons, hf, ↓reduceIte, List.find?_cons]
      cases f.1 == names
      · exact ih
      · rfl

theorem bytes?_write_self {t : FileTree} {path : String} {old : ByteArray} (bytes : ByteArray)
    (h : t.bytes? (t.place path) = some old) :
    (t.write path bytes).bytes? (t.place path) = some bytes := by
  simp only [bytes?, write] at h ⊢
  generalize t.place path = names at h ⊢
  generalize t.files = fs at h ⊢
  induction fs with
  | nil => simp at h
  | cons f fs ih =>
    by_cases hf : f.1 = names
    · simp [hf]
    · rw [List.find?_cons, beq_eq_false_iff_ne.2 hf] at h
      simp only [List.map_cons, hf, ↓reduceIte, List.find?_cons, beq_eq_false_iff_ne.2 hf]
      exact ih h

end FileTree

end Mend
