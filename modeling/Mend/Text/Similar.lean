namespace Mend.Similar

variable [BEq α]

def commonStart : List α → List α → Nat
  | a :: as, b :: bs => if a == b then commonStart as bs + 1 else 0
  | _, _ => 0

/-- A stretch common to two words: where it begins in each, and its length. -/
structure Stretch where
  left : Nat
  right : Nat
  length : Nat

def Stretch.longer (s t : Stretch) : Stretch := if s.length < t.length then t else s

/-- The longest stretch; the leftmost one in the first word, and then in the second. -/
def longest (as bs : List α) : Stretch :=
  (List.range as.length).foldl (fun s i =>
    (List.range bs.length).foldl (fun s j => s.longer ⟨i, j, commonStart (as.drop i) (bs.drop j)⟩) s)
    ⟨0, 0, 0⟩

def commonWithin : (fuel : Nat) → List α → List α → Nat
  | 0, _, _ => 0
  | fuel + 1, as, bs =>
    let s := longest as bs
    if s.length = 0 then 0
    else s.length + commonWithin fuel (as.take s.left) (bs.take s.right) +
      commonWithin fuel (as.drop (s.left + s.length)) (bs.drop (s.right + s.length))

def common (as bs : List α) : Nat := commonWithin as.length as bs

structure Score where
  word : String
  shared : Nat
  total : Nat

def score (word other : String) : Score :=
  ⟨word, common word.toList other.toList, word.length + other.length⟩

def Score.isClose (s : Score) : Bool := 3 * s.total ≤ 10 * s.shared

/-- The closer word first; of equally close ones the one that is later in the alphabet. -/
def Score.le (s t : Score) : Bool :=
  t.shared * s.total < s.shared * t.total ||
    (t.shared * s.total == s.shared * t.total && t.word ≤ s.word)

/-- At most three of the words that are close to another one, the closest first. -/
def closest (words : List String) (other : String) : List String :=
  ((((words.map (score · other)).filter Score.isClose).mergeSort Score.le).take 3).map (·.word)

end Mend.Similar
