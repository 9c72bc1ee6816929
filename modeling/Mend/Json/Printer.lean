import Mend.Json.Basic

namespace Mend.Json

def escapeUnit (n : Nat) : List Char := '\\' :: 'u' :: Text.hex 4 n

def escape (c : Char) : List Char :=
  if c = '"' then ['\\', '"']
  else if c = '\\' then ['\\', '\\']
  else if c = '\n' then ['\\', 'n']
  else if c = '\r' then ['\\', 'r']
  else if c = '\t' then ['\\', 't']
  else if c = '\x0c' then ['\\', 'f']
  else if c = '\x08' then ['\\', 'b']
  else if 32 ≤ c.toNat ∧ c.toNat < 127 then [c]
  else if c.toNat < 0x10000 then escapeUnit c.toNat
  else
    let n := c.toNat - 0x10000
    escapeUnit (0xd800 + n / 0x400) ++ escapeUnit (0xdc00 + n % 0x400)

def literal (s : String) : String := .ofList ('"' :: s.toList.flatMap escape ++ ['"'])

def numberText : Number → String
  | .real .nan => "NaN"
  | .real (.inf false) => "Infinity"
  | .real (.inf true) => "-Infinity"
  | n => n.text

mutual

def compact : Json → String
  | null => "null"
  | bool b => if b then "true" else "false"
  | num n => numberText n
  | str s => literal s
  | arr items => "[" ++ ",".intercalate (compactItems items) ++ "]"
  | obj fields => "\x7b" ++ ",".intercalate (compactFields fields) ++ "\x7d"

def compactItems : List Json → List String
  | [] => []
  | v :: rest => compact v :: compactItems rest

def compactFields : List (String × Json) → List String
  | [] => []
  | (k, v) :: rest => (literal k ++ ":" ++ compact v) :: compactFields rest

end

def newLine (level : Nat) : String := "\n" ++ .ofList (List.replicate (2 * level) ' ')

mutual

def indented (level : Nat) : Json → String
  | arr [] => "[]"
  | obj [] => "\x7b\x7d"
  | arr items =>
    "[" ++ newLine (level + 1) ++
      ("," ++ newLine (level + 1)).intercalate (indentedItems (level + 1) items) ++
      newLine level ++ "]"
  | obj fields =>
    "\x7b" ++ newLine (level + 1) ++
      ("," ++ newLine (level + 1)).intercalate (indentedFields (level + 1) fields) ++
      newLine level ++ "\x7d"
  | null => "null"
  | bool b => if b then "true" else "false"
  | num n => numberText n
  | str s => literal s

def indentedItems (level : Nat) : List Json → List String
  | [] => []
  | v :: rest => indented level v :: indentedItems level rest

def indentedFields (level : Nat) : List (String × Json) → List String
  | [] => []
  | (k, v) :: rest => (literal k ++ ": " ++ indented level v) :: indentedFields level rest

end

def pretty (v : Json) : String := indented 0 v

end Mend.Json
