import Mend.Text.Fold
import Mend.Text.Kind
import Mend.Text.Trim

namespace Mend

inductive Folding
  | exact
  /-- The small and the capital letters of ASCII. -/
  | ascii
  | full
  deriving DecidableEq, Repr

namespace Folding

def variants (f : Folding) (c : Char) : List Nat :=
  match f with
  | exact => [c.toNat]
  | ascii => [c.toNat, c.toLower.toNat, c.toUpper.toNat]
  | full => Text.sameLetters c

def lower (f : Folding) (c : Char) : Char :=
  match f with
  | exact => c
  | ascii => c.toLower
  | full => Text.lowerChar c

/-- The character of a number is matched by letters of another case too. -/
def isCased (f : Folding) (n : Nat) : Bool :=
  match f with
  | exact => false
  | ascii => n < 128 && (Char.ofNat n).isAlpha
  | full => Text.hasOtherCase (Char.ofNat n)

end Folding

inductive CharKind
  | digit
  | blank
  | word
  deriving DecidableEq, Repr

def CharKind.has (k : CharKind) (ascii : Bool) (c : Char) : Bool :=
  (!ascii || c.toNat < 128) &&
    match k with
    | digit => (Text.digit? c).isSome
    | blank => Text.isBlank c && (!ascii || !Text.within [(0x1c, 0x1f)] c.toNat)
    | word => Text.isWord c

/-- What a set lists: the character of a number, the characters between two of them, or those of a
kind. -/
inductive Member
  | code (n : Nat)
  | range (low high : Nat)
  | kind (k : CharKind) (ascii negated : Bool)
  deriving DecidableEq, Repr

namespace Member

def has (f : Folding) (c : Char) : Member → Bool
  -- beyond U+FFFF the small letter alone is looked up, so that a capital listed there is not found
  | code n => if n ≤ 0xffff then (f.variants c).contains n else (f.lower c).toNat == n
  -- and in a range that goes on there, its capital too, even where only ASCII letters have a case
  | range low high =>
    let within (n : Nat) : Bool := low ≤ n && n ≤ high
    (f.variants c).any within ||
      (f != .exact && 0xffff < high && within (Text.capital (f.lower c)))
  | kind k ascii negated => k.has ascii c != negated

def isCased (f : Folding) : Member → Bool
  | code n => f.isCased n
  | range low high =>
    f != .exact && (0xffff < high || (List.range' low (high + 1 - low)).any f.isCased)
  | kind .. => false

/-- The same member where characters beyond ASCII are told as `ascii` says. -/
def told (ascii : Bool) : Member → Member
  | kind k _ negated => kind k ascii negated
  | m => m

end Member

inductive CharSet
  | only (c : Char)
  /-- A letter without regard to case. -/
  | letter (c : Char)
  /-- Any character but a newline. -/
  | inLine
  | blank
  | among (cs : List Char)
  | notAmong (cs : List Char)
  | listed (f : Folding) (negated : Bool) (members : List Member)
  /-- Any character but the one of a number. -/
  | unlike (f : Folding) (n : Nat)
  deriving DecidableEq, Repr

namespace CharSet

def has : CharSet → Char → Bool
  | only c, x => x == c
  | letter c, x => Text.sameLetter c x
  | inLine, x => x != '\n'
  | blank, x => Text.isBlank x
  | among cs, x => cs.contains x
  | notAmong cs, x => !cs.contains x
  | listed f negated members, x => members.any (·.has f x) != negated
  | unlike f n, x => !(f.variants x).contains n

def members? : CharSet → Option (List Member)
  | only c => some [.code c.toNat]
  | letter c => some [.code c.toNat]
  | listed _ false members => some members
  | _ => none

/-- What a search asks of a character before it tries a match that begins with one of the set.
There kinds are told by the flags of the whole pattern, even where a group has turned them. Where
that makes no difference, or letters count in another case, nothing is asked. -/
def asked? (ascii : Bool) : CharSet → Option CharSet
  | listed f negated members =>
    let told := members.map (·.told ascii)
    if told != members && !members.any (·.isCased f) then some (.listed .exact negated told)
    else none
  | _ => none

end CharSet

end Mend
