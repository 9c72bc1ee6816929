import Mend.Number.Basic
import Mend.Text.Quoted

/-!
Structured values. An object keeps its fields in the order of their first appearance and holds one
value per name, the last one given.
-/

namespace Mend

inductive Json
  | null
  | bool (b : Bool)
  | num (n : Number)
  | str (s : String)
  | arr (items : List Json)
  | obj (fields : List (String × Json))
  deriving Inhabited

namespace Json

abbrev Fields := List (String × Json)

/-- Puts a value under a name, in the place of the name's earlier value if there is one. -/
def Fields.put (fs : Fields) (name : String) (v : Json) : Fields :=
  match fs with
  | [] => [(name, v)]
  | (k, w) :: rest => if k = name then (k, v) :: rest else (k, w) :: Fields.put rest name v

def Fields.ofMembers (ms : List (String × Json)) : Fields :=
  ms.foldl (fun fs m => fs.put m.1 m.2) []

def Fields.get? (fs : Fields) (name : String) : Option Json :=
  match fs with
  | [] => none
  | (k, v) :: rest => if k = name then some v else Fields.get? rest name

@[simp] theorem Fields.get?_put (fs : Fields) (n m : String) (v : Json) :
    (Fields.put fs n v).get? m = if n = m then some v else Fields.get? fs m := by
  induction fs with
  | nil => simp [put, get?]
  | cons f rest ih =>
    obtain ⟨k, w⟩ := f
    unfold put
    by_cases h : k = n
    · subst h
      by_cases hm : k = m <;> simp [get?, hm]
    · by_cases hm : k = m
      · subst hm
        simp [get?, h, Ne.symm h]
      · simp [get?, h, hm, ih]

def field? : Json → String → Option Json
  | obj fs, name => Fields.get? fs name
  | _, _ => none

def str? : Json → Option String
  | str s => some s
  | _ => none

/-- A whole number; a truth value or a double is none. -/
def int? : Json → Option Int
  | num (.int n) => some n
  | _ => none

def num? : Json → Option Number
  | num n => some n
  | _ => none

/-- Neither null, false, zero nor empty. -/
def isFilled : Json → Bool
  | null => false
  | bool b => b
  | num n => !n.isZero
  | str s => s != ""
  | arr items => !items.isEmpty
  | obj fields => !fields.isEmpty

def kindName : Json → String
  | null => "NoneType"
  | bool _ => "bool"
  | num (.int _) => "int"
  | num (.real _) => "float"
  | str _ => "str"
  | arr _ => "list"
  | obj _ => "dict"

mutual

/-- A value as it is written inside a message, texts quoted. -/
def shown : Json → String
  | null => "None"
  | bool true => "True"
  | bool false => "False"
  | num n => n.text
  | str s => Text.quoted s
  | arr items => "[" ++ ", ".intercalate (shownItems items) ++ "]"
  | obj fields => "\x7b" ++ ", ".intercalate (shownFields fields) ++ "\x7d"

def shownItems : List Json → List String
  | [] => []
  | v :: rest => shown v :: shownItems rest

def shownFields : List (String × Json) → List String
  | [] => []
  | (k, v) :: rest => (Text.quoted k ++ ": " ++ shown v) :: shownFields rest

end

/-- A value as a message: a text stands for itself. -/
def text : Json → String
  | str s => s
  | v => shown v

end Json

end Mend
