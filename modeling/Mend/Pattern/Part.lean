import Mend.Pattern.Expression
import Mend.Pattern.Problem

namespace Mend.Pattern

/-- The least and the greatest number of characters that a match takes. -/
structure Width where
  low : Nat
  high : Nat
  deriving DecidableEq, Repr

namespace Width

/-- More than any match takes. -/
def unbounded : Nat := Nat.pow 2 64

def zero : Width := ⟨0, 0⟩

def one : Width := ⟨1, 1⟩

def capped (w : Width) : Width := ⟨min w.low unbounded, min w.high unbounded⟩

def add (v w : Width) : Width := ⟨v.low + w.low, v.high + w.high⟩

def either (v w : Width) : Width := ⟨min v.low w.low, max v.high w.high⟩

def times (w : Width) (low : Nat) : Option Nat → Width
  | some high => ⟨w.low * low, w.high * high⟩
  | none => ⟨w.low * low, if w.high = 0 then 0 else unbounded⟩

end Width

/-- What alternatives are compared by: an item that is told by what it matches, or another one. If
that is a group, the set that its first character is of counts. -/
inductive Item
  | plain (e : Expression)
  | other (lead : Option CharSet := none)
  deriving DecidableEq, Repr

namespace Item

def expression? : Item → Option Expression
  | plain e => some e
  | other _ => none

def lead? : Item → Option CharSet
  | plain (.one c) => some c
  | plain _ => none
  | other lead => lead

/-- The number of items with which all of the lists begin. -/
def shared : List Item → List (List Item) → Nat
  | plain e :: is, rest =>
    if rest.all (·.head? == some (plain e)) then shared is (rest.map List.tail) + 1 else 0
  | _, _ => 0

def members? : List Item → Option (List Member)
  | [plain (.one c)] => c.members?
  | _ => none

/-- The characters that alternatives take of which each takes one. -/
def union? (f : Folding) (alternatives : List (List Item)) : Option CharSet :=
  (alternatives.mapM members?).map fun members => .listed f false members.flatten.eraseDups

end Item

inductive Part.Kind
  | anchor
  | repetition
  | other
  deriving DecidableEq, Repr

structure Part where
  expression : Expression
  width : Width
  items : List Item := [.other]
  kind : Part.Kind := .other
  /-- What is wrong with the part in a pattern that is otherwise well written. -/
  flaw : Option Problem := none

namespace Part

def empty : Part := { expression := .empty, width := .zero, items := [] }

def plain (e : Expression) (w : Width) : Part :=
  { expression := e, width := w, items := [.plain e] }

def ofSet (s : CharSet) : Part := plain (.one s) .one

/-- A character by its number, which may be one that no character has. -/
def ofNumber (f : Folding) (n : Nat) : Part :=
  if h : n.isValidChar then
    match f with
    | .exact => ofSet (.only (Char.ofNatAux n h))
    | .full => ofSet (.letter (Char.ofNatAux n h))
    | .ascii => ofSet (.listed .ascii false [.code n])
  else ofSet (.listed .exact false [.code n])

/-- The set of its members, which is not told as a set if it has one character alone. -/
def ofMembers (f : Folding) (negated : Bool) : List Member → Part
  | [.code n] => if negated then ofSet (.unlike f n) else ofNumber f n
  | members => ofSet (.listed f negated members)

def anchor (a : Anchor) : Part := { plain (.anchor a) .zero with kind := .anchor }

def lead? (p : Part) : Option CharSet := p.items.head?.bind Item.lead?

def orElse (p q : Option Problem) : Option Problem :=
  match p with
  | some e => some e
  | none => q

def sequence : List Part → Part
  | [] => empty
  | [p] => { p with width := p.width.capped, kind := .other }
  | p :: ps =>
    let q := sequence ps
    { expression := .seq p.expression q.expression, width := (p.width.add q.width).capped,
      items := p.items ++ q.items, flaw := orElse p.flaw q.flaw }

/-- Alternatives. What all of them begin with counts as one, and if what is left of them is one
character each, it is a set. -/
def choice (f : Folding) : List Part → Part
  | [] => empty
  | [p] => p
  | p :: ps =>
    let n := Item.shared p.items (ps.map items)
    let front := p.items.take n
    let width := ps.foldl (fun w q => w.either q.width) p.width
    match Item.union? f ((p :: ps).map fun q => q.items.drop n) with
    | some c =>
      { expression := .all (front.filterMap Item.expression? ++ [.one c])
        width, items := front ++ [.plain (.one c)] }
    | none =>
      { expression := .any ((p :: ps).map expression)
        width, items := front ++ [.other], flaw := (p :: ps).findSome? flaw }

def ifGroup (n : Nat) (p q : Part) : Part :=
  { expression := .ifGroup n p.expression q.expression
    width := p.width.either q.width, flaw := orElse p.flaw q.flaw }

def enclosed (e : Expression → Expression) (p : Part) : Part :=
  { p with expression := e p.expression, items := [.other p.lead?] }

def final (p : Part) : Part := { p with expression := .final p.expression, items := [.other] }

/-- A look at what stands before a place has to know how far to go back. -/
def look (behind negated : Bool) (p : Part) : Part :=
  let flaw :=
    if behind && Nat.pow 2 32 ≤ p.width.low then some .distantLook
    else if behind && p.width.low != p.width.high then some .variableLook
    else p.flaw
  { expression := .look (if behind then some p.width.low else none) negated p.expression
    width := .zero, flaw }

def repeated (p : Part) (low : Nat) (high : Option Nat) (m : Manner) (refused : Bool) : Part :=
  { expression := .repeated p.expression low high m
    width := p.width.times low high
    kind := .repetition
    flaw := if refused then some (.templateRepeat m.name) else p.flaw }

/-- The expression that a search looks for. -/
def searched (ascii : Bool) (p : Part) : Expression :=
  match p.lead?.bind (·.asked? ascii) with
  | some c => .seq (.look none false (.one c)) p.expression
  | none => p.expression

end Part

end Mend.Pattern
