namespace Mend.Utf8

inductive Malformed
  /-- A byte that begins no character. -/
  | badStart
  /-- A character that breaks off at the end. -/
  | cutOff
  /-- A byte that cannot go on with the character begun. -/
  | badContinuation
  deriving DecidableEq, Repr

def Malformed.message : Malformed → String
  | badStart => "invalid start byte"
  | cutOff => "unexpected end of data"
  | badContinuation => "invalid continuation byte"

/-- The bytes allowed next, from the least to the greatest. -/
abbrev Owed := UInt8 × UInt8

def tail : Owed := (0x80, 0xbf)

/-- What a first byte is followed by: no surrogates, no character in more bytes than it needs. -/
def owed? (b : UInt8) : Option (List Owed) :=
  if b < 0x80 then some []
  else if b < 0xc2 then none
  else if b < 0xe0 then some [tail]
  else if b = 0xe0 then some [(0xa0, 0xbf), tail]
  else if b = 0xed then some [(0x80, 0x9f), tail]
  else if b < 0xf0 then some [tail, tail]
  else if b = 0xf0 then some [(0x90, 0xbf), tail, tail]
  else if b < 0xf4 then some [tail, tail, tail]
  else if b = 0xf4 then some [(0x80, 0x8f), tail, tail]
  else none

def malformed? : List Owed → List UInt8 → Option Malformed
  | [], [] => none
  | _ :: _, [] => some .cutOff
  | [], b :: bs =>
    match owed? b with
    | some os => malformed? os bs
    | none => some .badStart
  | (least, greatest) :: os, b :: bs =>
    if least ≤ b ∧ b ≤ greatest then malformed? os bs else some .badContinuation

def decode (bytes : ByteArray) : Except Malformed String :=
  match String.fromUTF8? bytes with
  | some s => .ok s
  | none => .error ((malformed? [] bytes.toList).getD .badStart)

theorem decode_eq_ok_iff {bytes : ByteArray} {s : String} :
    decode bytes = .ok s ↔ bytes = s.toUTF8 := by
  unfold decode String.fromUTF8?
  by_cases h : bytes.IsValidUTF8
  · simp only [h, ↓reduceDIte, Except.ok.injEq]
    constructor
    · rintro rfl
      rfl
    · rintro rfl
      rfl
  · simp only [h, ↓reduceDIte, reduceCtorEq, false_iff]
    rintro rfl
    exact h s.isValidUTF8

@[simp] theorem decode_toUTF8 (s : String) : decode s.toUTF8 = .ok s := decode_eq_ok_iff.2 rfl

end Mend.Utf8
