import Mend.Json.Reader

namespace Mend.Json

/-- A unit is the first half of a pair, and its second half follows. -/
def Paired (high : Nat) (w : List Char) : Prop :=
  (0xd800 ≤ high ∧ high < 0xdc00) ∧ ∃ a b c d low w', w = '\\' :: 'u' :: a :: b :: c :: d :: w' ∧
    hex4? a b c d = some low ∧ 0xdc00 ≤ low ∧ low < 0xe000

/-- The character that two halves stand for. -/
def charOfPair (high low : Nat) : Char :=
  Char.ofNat (0x10000 + (high - 0xd800) * 0x400 + (low - 0xdc00))

/-- A string from behind its opening quote to its closing one, and the characters it stands for. -/
inductive StringText : List Char → List Char → Prop
  | close : StringText ['"'] []
  | plain {w cs : List Char} (x : Char) (hquote : x ≠ '"') (hescape : x ≠ '\\')
      (hcontrol : ¬ x.toNat < 0x20) (h : StringText w cs) : StringText (x :: w) (x :: cs)
  | escape {w cs : List Char} (x y : Char) (hx : simpleEscape? x = some y) (h : StringText w cs) :
    StringText ('\\' :: x :: w) (y :: cs)
  | unit {w cs : List Char} (a b c d : Char) (n : Nat) (hn : hex4? a b c d = some n)
      (hsingle : ¬ Paired n w) (h : StringText w cs) :
    StringText ('\\' :: 'u' :: a :: b :: c :: d :: w) (charOfUnit n :: cs)
  | pair {w cs : List Char} (a b c d a' b' c' d' : Char) (high low : Nat)
      (hhigh : hex4? a b c d = some high) (hhigh' : 0xd800 ≤ high ∧ high < 0xdc00)
      (hlow : hex4? a' b' c' d' = some low) (hlow' : 0xdc00 ≤ low ∧ low < 0xe000)
      (h : StringText w cs) :
    StringText ('\\' :: 'u' :: a :: b :: c :: d :: '\\' :: 'u' :: a' :: b' :: c' :: d' :: w)
      (charOfPair high low :: cs)

variable {w cs r done : List Char} {s : String} {start : Nat}

theorem StringText.ne_nil (h : StringText w cs) : w ≠ [] := by
  cases h
  all_goals exact List.cons_ne_nil _ _

theorem not_stringText_escape : ¬ StringText ['\\'] cs := by
  intro h
  cases h with
  | plain x _ hescape => exact hescape rfl

theorem StringText.unit_inv {w' : List Char} (h : StringText ('\\' :: 'u' :: w') cs) :
    ∃ a b c d e n w'', w' = a :: b :: c :: d :: e :: w'' ∧ hex4? a b c d = some n := by
  cases h with
  | plain x _ hescape => exact absurd rfl hescape
  | escape x y hx => cases hx
  | unit a b c d n hn _ h =>
    obtain ⟨e, w'', rfl⟩ := List.exists_cons_of_ne_nil h.ne_nil
    exact ⟨a, b, c, d, e, n, w'', rfl, hn⟩
  | pair a b c d a' b' c' d' high low hhigh _ _ _ _ =>
    exact ⟨a, b, c, d, '\\', high, _, rfl, hhigh⟩

theorem extend_string {cs' : List Char} {x : Char} {p : List Char}
    (htext : ∀ w xs, cs' = w ++ r → StringText w xs → StringText (p ++ w) (x :: xs))
    (h : ∃ w xs, cs' = w ++ r ∧ StringText w xs ∧ s = .ofList ((x :: done).reverse ++ xs)) :
    ∃ w xs, p ++ cs' = w ++ r ∧ StringText w xs ∧ s = .ofList (done.reverse ++ xs) := by
  obtain ⟨w, xs, hw, hxs, hs⟩ := h
  refine ⟨p ++ w, x :: xs, ?_, htext w xs hw hxs, ?_⟩
  · rw [hw, List.append_assoc]
  · rw [hs, List.reverse_cons, List.append_assoc]
    rfl

theorem string_sound (h : string start done cs = .ok (s, r)) :
    ∃ w xs, cs = w ++ r ∧ StringText w xs ∧ s = .ofList (done.reverse ++ xs) := by
  fun_induction string start done cs with
  | case1 => cases h
  | case2 done cs =>
    cases h
    exact ⟨['"'], [], rfl, .close, by rw [List.append_nil]⟩
  | case3 => cases h
  | case4 => cases h
  | case5 => cases h
  | case6 done a b c d a' b' c' d' e' cs high hhigh hhigh' low hlow hlow' ih =>
    exact extend_string (p := ['\\', 'u', a, b, c, d, '\\', 'u', a', b', c', d'])
      (fun w xs _ hxs => .pair a b c d a' b' c' d' high low hhigh hhigh' hlow hlow' hxs) (ih h)
  | case7 done a b c d a' b' c' d' e' cs high hhigh hhigh' low hlow hlow' ih =>
    refine extend_string (p := ['\\', 'u', a, b, c, d])
      (fun w xs hw hxs => .unit a b c d high hhigh ?_ hxs) (ih h)
    rintro ⟨-, a'', b'', c'', d'', low', w', rfl, hlow'', hrange⟩
    simp only [List.cons_append, List.cons.injEq, true_and] at hw
    obtain ⟨rfl, rfl, rfl, rfl, -⟩ := hw
    rw [hlow] at hlow''
    cases hlow''
    exact hlow' hrange
  | case8 done a b c d a' b' c' d' e' cs high hhigh hhigh' ih =>
    exact extend_string (p := ['\\', 'u', a, b, c, d])
      (fun w xs _ hxs => .unit a b c d high hhigh (fun hpaired => hhigh' hpaired.1) hxs) (ih h)
  | case9 => cases h
  | case10 done a b c d e cs hlone n hn ih =>
    refine extend_string (p := ['\\', 'u', a, b, c, d])
      (fun w xs hw hxs => .unit a b c d n hn ?_ hxs) (ih h)
    rintro ⟨-, a', b', c', d', low, w', rfl, -, -⟩
    obtain ⟨a'', b'', c'', d'', e', -, w'', heq, -⟩ := hxs.unit_inv
    simp only [List.cons.injEq] at heq
    obtain ⟨-, -, -, -, rfl⟩ := heq
    simp only [List.cons_append, List.cons.injEq] at hw
    exact hlone a' b' c' d' e' (w'' ++ r) hw.1 hw.2
  | case11 => cases h
  | case12 done x cs _ _ _ y hy ih =>
    exact extend_string (p := ['\\', x]) (fun w xs _ hxs => .escape x y hy hxs) (ih h)
  | case13 => cases h
  | case14 => cases h
  | case15 done x cs hquote hlone _ _ _ hescape hcontrol ih =>
    have hx : x ≠ '\\' := by
      rintro rfl
      cases cs with
      | nil => exact hlone rfl rfl
      | cons y cs => exact hescape y cs rfl rfl
    exact extend_string (p := [x]) (fun w xs _ hxs => .plain x hquote hx hcontrol hxs) (ih h)

theorem string_unit {a b c d e : Char} {n : Nat} (hn : hex4? a b c d = some n)
    (hlone : ¬ (e = '\\' ∧ ∃ w', cs = 'u' :: w')) :
    string start done ('\\' :: 'u' :: a :: b :: c :: d :: e :: cs) =
      string start (charOfUnit n :: done) (e :: cs) := by
  rw [string]
  · rw [hn]
  · rintro a' b' c' d' e' cs' rfl rfl
    exact hlone ⟨rfl, _, rfl⟩

/-- Of two units that are no pair the first is read by itself too. -/
theorem string_units {a b c d a' b' c' d' e' : Char} {n low : Nat} (hn : hex4? a b c d = some n)
    (hlow : hex4? a' b' c' d' = some low)
    (hsingle : ¬ ((0xd800 ≤ n ∧ n < 0xdc00) ∧ 0xdc00 ≤ low ∧ low < 0xe000)) :
    string start done
        ('\\' :: 'u' :: a :: b :: c :: d :: '\\' :: 'u' :: a' :: b' :: c' :: d' :: e' :: cs) =
      string start (charOfUnit n :: done) ('\\' :: 'u' :: a' :: b' :: c' :: d' :: e' :: cs) := by
  rw [string, hn]
  dsimp only
  by_cases hhigh : 0xd800 ≤ n ∧ n < 0xdc00
  · rw [if_pos hhigh, hlow]
    dsimp only
    rw [if_neg fun hrange => hsingle ⟨hhigh, hrange⟩]
  · rw [if_neg hhigh]

theorem string_extends {xs : List Char} {x : Char}
    (ih : string start (x :: done) (w ++ r) = .ok (.ofList ((x :: done).reverse ++ xs), r)) :
    string start (x :: done) (w ++ r) = .ok (.ofList (done.reverse ++ x :: xs), r) := by
  rw [ih, List.reverse_cons, List.append_assoc]
  rfl

theorem string_complete {xs : List Char} (h : StringText w xs) (start : Nat)
    (done r : List Char) :
    string start done (w ++ r) = .ok (.ofList (done.reverse ++ xs), r) := by
  induction h generalizing done with
  | close =>
    rw [List.append_nil]
    rfl
  | @plain w xs x hquote hescape hcontrol h ih =>
    rw [← string_extends (ih (x :: done)), List.cons_append, string]
    · exact if_neg hcontrol
    · exact hquote
    all_goals
      intros
      contradiction
  | @escape w xs x y hx h ih =>
    have hu : x ≠ 'u' := by
      rintro rfl
      cases hx
    rw [← string_extends (ih (y :: done)), List.cons_append, List.cons_append, string]
    · rw [hx]
    all_goals
      intros
      contradiction
  | @unit w xs a b c d n hn hsingle h ih =>
    rw [← string_extends (ih (charOfUnit n :: done))]
    obtain ⟨e, w, rfl⟩ := List.exists_cons_of_ne_nil h.ne_nil
    -- A unit may follow, with which this one must not make a pair.
    by_cases hlone : e = '\\' ∧ ∃ w', w = 'u' :: w'
    · obtain ⟨rfl, w', rfl⟩ := hlone
      obtain ⟨a', b', c', d', e', low, w'', rfl, hlow⟩ := h.unit_inv
      exact string_units hn hlow fun hpair =>
        hsingle ⟨hpair.1, a', b', c', d', low, _, rfl, hlow, hpair.2⟩
    · refine string_unit hn fun h' => hlone ?_
      obtain ⟨rfl, w', hw'⟩ := h'
      cases w with
      | nil => exact absurd h not_stringText_escape
      | cons x w =>
        exact ⟨rfl, w, congrArg (· :: w) (List.head_eq_of_cons_eq hw')⟩
  | @pair w xs a b c d a' b' c' d' high low hhigh hhigh' hlow hlow' h ih =>
    rw [← string_extends (ih (charOfPair high low :: done))]
    obtain ⟨e, w, rfl⟩ := List.exists_cons_of_ne_nil h.ne_nil
    simp only [List.cons_append]
    rw [string, hhigh]
    dsimp only
    rw [if_pos hhigh', hlow]
    dsimp only
    rw [if_pos hlow']
    rfl

end Mend.Json
