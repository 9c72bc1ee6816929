/-!
Paths. A path is a root, which is empty for a relative path, and the names along the way; empty
names and single dots carry no meaning and are left out, double dots are kept.
-/

namespace Mend

structure Path where
  root : String
  names : List String
  deriving DecidableEq, Repr

namespace Path

def pieces (s : String) : List String := s.splitOn "/"

def rootOf (s : String) : String :=
  match s.toList with
  | '/' :: '/' :: '/' :: _ => "/"
  | '/' :: '/' :: _ => "//"
  | '/' :: _ => "/"
  | _ => ""

def ofString (s : String) : Path :=
  ⟨rootOf s, (pieces s).filter fun n => n != "" && n != "."⟩

def parent (p : Path) : Path := ⟨p.root, p.names.dropLast⟩

def join (p q : Path) : Path := if q.root = "" then ⟨p.root, p.names ++ q.names⟩ else q

def text (p : Path) : String :=
  if p.root = "" ∧ p.names = [] then "." else p.root ++ "/".intercalate p.names

end Path

end Mend
