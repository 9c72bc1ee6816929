namespace Mend.Plain

def isParameter (c : Char) : Bool := '0' ≤ c && c ≤ '?'

def isIntermediate (c : Char) : Bool := ' ' ≤ c && c ≤ '/'

def isFinal (c : Char) : Bool := '@' ≤ c && c ≤ '~'

/-- The character goes on with a sequence of which `begun` is there. -/
def goesOn (begun : List Char) (c : Char) : Bool :=
  match begun with
  | [] => c == '\x1b'
  | [_] => c == '['
  | _ => isIntermediate c || isParameter c && !begun.any isIntermediate

def ends (begun : List Char) (c : Char) : Bool := 2 ≤ begun.length && isFinal c

def strip (begun : List Char) : List Char → List Char
  | [] => begun
  | c :: cs =>
    if goesOn begun c then strip (begun ++ [c]) cs
    else if ends begun c then strip [] cs
    else if c = '\x1b' then begun ++ strip [c] cs
    else begun ++ c :: strip [] cs

def text (s : String) : String := .ofList (strip [] s.toList)

theorem strip_append {cs : List Char} (h : '\x1b' ∉ cs) (rest : List Char) :
    strip [] (cs ++ rest) = cs ++ strip [] rest := by
  induction cs with
  | nil => rfl
  | cons c cs ih =>
    obtain ⟨hc, hcs⟩ := not_or.1 (mt List.mem_cons.2 h)
    simp [strip, goesOn, ends, Ne.symm hc, ih hcs]

end Mend.Plain
