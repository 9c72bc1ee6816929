import Mend.Proofs.Json.Reading

/-! Quotes in the texts of values. Outside of strings only a few characters occur. A text of a value
that stands in a string of another one has outside what the other has inside, so that it holds
hardly anything. -/

namespace Mend.Json

/-- Where a place of a text stands: outside of strings, inside of one, or behind a backslash. -/
inductive Mode
  | outside
  | inside
  | escaped
  deriving DecidableEq

/-- The character may stand outside of strings, and is no quote. -/
def isPlain (c : Char) : Bool :=
  isSpace c || c.isDigit || ['[', ']', '{', '}', ',', ':', '+', '-', '.', 'E', 'I', 'N', 'a', 'e',
    'f', 'i', 'l', 'n', 'r', 's', 't', 'u', 'y'].contains c

namespace Mode

def next? : Mode → Char → Option Mode
  | outside, c => if c = '"' then some inside else if isPlain c then some outside else none
  | inside, c => if c = '"' then some outside else if c = '\\' then some escaped else some inside
  | escaped, c => if c = 'u' ∨ (simpleEscape? c).isSome then some inside else none

def run? (m : Mode) : List Char → Option Mode
  | [] => some m
  | c :: cs => (m.next? c).bind fun m => run? m cs

end Mode

/-- Every string that begins in the text ends in it. -/
def Balanced (w : List Char) : Prop := Mode.outside.run? w = some .outside

variable {w cs s : List Char} {v : Json} {m : Mode}

theorem run?_append (m : Mode) (w cs : List Char) :
    m.run? (w ++ cs) = (m.run? w).bind fun m => m.run? cs := by
  induction w generalizing m with
  | nil => rfl
  | cons c w ih =>
    rw [List.cons_append, Mode.run?, Mode.run?]
    cases m.next? c with
    | none => rfl
    | some m' => exact ih m'

theorem Balanced.append (hw : Balanced w) (hcs : Balanced cs) : Balanced (w ++ cs) := by
  rw [Balanced, run?_append, hw]
  exact hcs

theorem ne_of_isPlain {c : Char} (hc : isPlain c = true) : c ≠ '"' ∧ c ≠ '\\' := by
  constructor
  all_goals
    rintro rfl
    revert hc
    decide

theorem outside_of_isPlain {c : Char} (hc : isPlain c = true) (cs : List Char) :
    Mode.outside.run? (c :: cs) = Mode.outside.run? cs := by
  rw [Mode.run?, Mode.next?, if_neg (ne_of_isPlain hc).1, if_pos hc]
  rfl

theorem inside_of_ne {c : Char} (hc : c ≠ '"' ∧ c ≠ '\\') (cs : List Char) :
    Mode.inside.run? (c :: cs) = Mode.inside.run? cs := by
  rw [Mode.run?, Mode.next?, if_neg hc.1, if_neg hc.2]
  rfl

theorem balanced_of_plain (h : ∀ c ∈ w, isPlain c = true) : Balanced w := by
  induction w with
  | nil => rfl
  | cons c w ih =>
    rw [Balanced, outside_of_isPlain (h c List.mem_cons_self)]
    exact ih fun d hd => h d (List.mem_cons_of_mem c hd)

theorem inside_of_hexValue? {c : Char} {n : Nat} (h : hexValue? c = some n) (cs : List Char) :
    Mode.inside.run? (c :: cs) = Mode.inside.run? cs := by
  refine inside_of_ne ⟨?_, ?_⟩ cs
  all_goals
    rintro rfl
    cases h

theorem hexValue?_of_hex4? {a b c d : Char} {n : Nat} (h : hex4? a b c d = some n) :
    ∃ i j k l, hexValue? a = some i ∧ hexValue? b = some j ∧ hexValue? c = some k ∧
      hexValue? d = some l := by
  simp only [hex4?, Option.bind_eq_bind, Option.bind_eq_some_iff] at h
  obtain ⟨i, hi, j, hj, k, hk, l, hl, -⟩ := h
  exact ⟨i, j, k, l, hi, hj, hk, hl⟩

theorem inside_of_hex4? {a b c d : Char} {n : Nat} (h : hex4? a b c d = some n) (cs : List Char) :
    Mode.inside.run? ('\\' :: 'u' :: a :: b :: c :: d :: cs) = Mode.inside.run? cs := by
  obtain ⟨i, j, k, l, hi, hj, hk, hl⟩ := hexValue?_of_hex4? h
  rw [← inside_of_hexValue? hl cs, ← inside_of_hexValue? hk (d :: cs),
    ← inside_of_hexValue? hj (c :: d :: cs), ← inside_of_hexValue? hi (b :: c :: d :: cs)]
  rfl

theorem StringText.run? {xs : List Char} (h : StringText w xs) :
    Mode.inside.run? w = some .outside := by
  induction h with
  | close => rfl
  | plain x hquote hescape _ _ ih =>
    rw [inside_of_ne ⟨hquote, hescape⟩]
    exact ih
  | @escape w xs x y hx h ih =>
    have hnext : Mode.escaped.next? x = some .inside := by
      rw [Mode.next?, hx]
      exact if_pos (.inr rfl)
    change (Mode.escaped.next? x).bind (fun m => m.run? w) = _
    rw [hnext]
    exact ih
  | unit a b c d n hn _ _ ih =>
    rw [inside_of_hex4? hn]
    exact ih
  | pair a b c d a' b' c' d' high low hhigh _ hlow _ _ ih =>
    rw [inside_of_hex4? hhigh, inside_of_hex4? hlow]
    exact ih

theorem IsSpace.balanced (hs : IsSpace s) : Balanced s := by
  refine balanced_of_plain fun c hc => ?_
  rw [isPlain, hs c hc, Bool.true_or, Bool.true_or]

theorem isPlain_of_isDigit {c : Char} (hc : c.isDigit = true) : isPlain c = true := by
  rw [isPlain, hc, Bool.or_true, Bool.true_or]

theorem balanced_cons {c : Char} (hc : isPlain c = true) (hw : Balanced w) : Balanced (c :: w) :=
  Balanced.append (w := [c]) (balanced_of_plain (by simpa using hc)) hw

theorem IsDigits.balanced (h : IsDigits w) : Balanced w :=
  balanced_of_plain fun c hc => isPlain_of_isDigit (h.digit c hc)

theorem NumberText.balanced {n : Number} (h : NumberText w n) : Balanced w := by
  obtain @⟨negative, whole, f, frac, x, e?, hwhole, hf, hx, -⟩ := h
  have hsign : Balanced (sign negative) := by
    cases negative
    all_goals rfl
  have hwhole' : Balanced whole := by
    cases hwhole with
    | zero => rfl
    | digits h _ => exact h.balanced
  have hf' : Balanced f := by
    cases hf with
    | none => rfl
    | point h => exact balanced_cons rfl h.balanced
  have hmark : ∀ m : Char, m = 'e' ∨ m = 'E' → isPlain m = true := by
    rintro m (rfl | rfl)
    all_goals rfl
  have hx' : Balanced x := by
    cases hx with
    | none => rfl
    | bare hm h => exact balanced_cons (hmark _ hm) h.balanced
    | plus hm h => exact balanced_cons (hmark _ hm) (balanced_cons rfl h.balanced)
    | minus hm h => exact balanced_cons (hmark _ hm) (balanced_cons rfl h.balanced)
  exact hsign.append (hwhole'.append (hf'.append hx'))

theorem ScalarText.balanced (h : ScalarText w v) : Balanced w := by
  cases h with
  | string h => exact h.run?
  | literal h =>
    cases h
    all_goals rfl
  | number h => exact h.balanced

theorem Separated.balanced {α : Type} {part : List Char → α → Prop} {close : Char} {as : List α}
    (hpart : ∀ w a, part w a → Balanced w) (hclose : isPlain close = true)
    (h : Separated part close w as) : Balanced w := by
  induction h with
  | last h hs => exact (hpart _ _ h).append (hs.balanced.append (balanced_cons hclose rfl))
  | more h hs hs' _ ih =>
    exact (hpart _ _ h).append (hs.balanced.append (balanced_cons rfl (hs'.balanced.append ih)))

theorem Listed.balanced {α : Type} {part : List Char → α → Prop} {close : Char} {as : List α}
    (hpart : ∀ w a, part w a → Balanced w) (hclose : isPlain close = true)
    (h : Listed part close w as) : Balanced w := by
  cases h with
  | empty hs => exact hs.balanced.append (balanced_cons hclose rfl)
  | parts hs h => exact hs.balanced.append (h.balanced hpart hclose)

theorem StringText.balanced {xs : List Char} (h : StringText w xs) : Balanced ('"' :: w) := h.run?

theorem MemberText.balanced {item : List Char → Json → Prop} {m : String × Json}
    (hitem : ∀ w v, item w v → Balanced w) (h : MemberText item w m) : Balanced w := by
  obtain @⟨n, xs, s, s', w, v, hname, hs, hs', hv⟩ := h
  have hrest := balanced_cons (c := ':') rfl (hs'.balanced.append (hitem w v hv))
  exact hname.balanced.append (hs.balanced.append hrest)

theorem ValueText.balanced {depth : Nat} (h : ValueText depth w v) : Balanced w := by
  induction depth generalizing w v with
  | zero => exact ScalarText.balanced h
  | succ depth ih =>
    rcases h with h | h
    · exact h.balanced
    cases h with
    | array h => exact balanced_cons rfl (h.balanced (fun _ _ => ih) rfl)
    | object h =>
      exact balanced_cons rfl (h.balanced (fun _ _ => MemberText.balanced fun _ _ => ih) rfl)

theorem balanced_of_document (h : document cs = .ok v) : Balanced cs := by
  obtain ⟨s, w, s', rfl, hs, hv, hs'⟩ := document_eq_ok_iff.1 h
  exact hs.balanced.append (hv.balanced.append hs'.balanced)

/-- A text that can be passed both from outside and from inside of strings holds nothing but quotes
and characters that stand outside: at each place one of the two passages is outside. -/
theorem plain_of_both (houtside : Mode.outside.run? w ≠ none)
    (hinside : Mode.inside.run? w ≠ none) : ∀ c ∈ w, isPlain c = true ∨ c = '"' := by
  induction w with
  | nil => exact List.forall_mem_nil _
  | cons c w ih =>
    rw [List.forall_mem_cons]
    by_cases hquote : c = '"'
    -- At a quote the two passages change places.
    · subst hquote
      exact ⟨.inr rfl, ih hinside houtside⟩
    by_cases hplain : isPlain c = true
    · rw [outside_of_isPlain hplain] at houtside
      rw [inside_of_ne (ne_of_isPlain hplain)] at hinside
      exact ⟨.inl hplain, ih houtside hinside⟩
    · rw [Mode.run?, Mode.next?, if_neg hquote, if_neg hplain] at houtside
      exact absurd rfl houtside

theorem StringText.mem {xs : List Char} {c : Char} (h : StringText w xs) (hc : c ∈ xs) :
    c ∈ w ∨ '\\' ∈ w := by
  induction h with
  | close => cases hc
  | plain x _ _ _ _ ih =>
    rcases List.mem_cons.1 hc with rfl | hc
    · exact .inl List.mem_cons_self
    · exact (ih hc).imp (List.mem_cons_of_mem x) (List.mem_cons_of_mem x)
  | escape => exact .inr List.mem_cons_self
  | unit => exact .inr List.mem_cons_self
  | pair => exact .inr List.mem_cons_self

theorem Separated.mem {α : Type} {part : List Char → α → Prop} {close : Char} {as : List α} {a : α}
    (h : Separated part close w as) (ha : a ∈ as) : ∃ w', part w' a ∧ w' ⊆ w := by
  induction h with
  | @last w s b h hs =>
    rw [List.mem_singleton.1 ha]
    exact ⟨w, h, List.subset_append_left _ _⟩
  | @more w s s' w' b as h hs hs' hrest ih =>
    rcases List.mem_cons.1 ha with rfl | ha
    · exact ⟨w, h, List.subset_append_left _ _⟩
    · obtain ⟨u, hu, hsub⟩ := ih ha
      refine ⟨u, hu, fun c hc => ?_⟩
      simp [hsub hc]

theorem Listed.mem {α : Type} {part : List Char → α → Prop} {close : Char} {as : List α} {a : α}
    (h : Listed part close w as) (ha : a ∈ as) : ∃ w', part w' a ∧ w' ⊆ w := by
  cases h with
  | empty hs => cases ha
  | @parts s w as hs h =>
    obtain ⟨w', hw', hsub⟩ := h.mem ha
    exact ⟨w', hw', List.Subset.trans hsub (List.subset_append_right s w)⟩

theorem get?_foldl_put {ms : List (String × Json)} {fs : Fields} {name : String}
    (h : Fields.get? (ms.foldl (fun fs m => fs.put m.1 m.2) fs) name = some v) :
    Fields.get? fs name = some v ∨ ∃ m ∈ ms, m.1 = name := by
  induction ms generalizing fs with
  | nil => exact .inl h
  | cons m ms ih =>
    rcases ih h with h | ⟨m', hm', hname⟩
    · rw [Fields.get?_put] at h
      by_cases hname : m.1 = name
      · exact .inr ⟨m, List.mem_cons_self, hname⟩
      · rw [if_neg hname] at h
        exact .inl h
    · exact .inr ⟨m', List.mem_cons_of_mem m hm', hname⟩

theorem exists_mem_of_get?_ofMembers {ms : List (String × Json)} {name : String}
    (h : Fields.get? (Fields.ofMembers ms) name = some v) : ∃ m ∈ ms, m.1 = name := by
  rcases get?_foldl_put h with h | h
  · cases h
  · exact h

theorem MemberText.mem {item : List Char → Json → Prop} {m : String × Json} {c : Char}
    (h : MemberText item w m) (hc : c ∈ m.1.toList) : c ∈ w ∨ '\\' ∈ w := by
  obtain @⟨n, xs, s, s', w, v, hname, hs, hs', hv⟩ := h
  rw [String.toList_ofList] at hc
  have hsub : n ⊆ '"' :: (n ++ (s ++ ':' :: (s' ++ w))) := by
    intro x hx
    simp [hx]
  exact (hname.mem hc).imp (fun h => hsub h) fun h => hsub h

theorem ValueText.mem {depth : Nat} {fs : Fields} {name : String} {c : Char}
    (h : ValueText depth w (.obj fs)) (hget : Fields.get? fs name = some v)
    (hc : c ∈ name.toList) : c ∈ w ∨ '\\' ∈ w := by
  obtain ⟨depth, u, ms, rfl, hlisted, rfl⟩ := h.object_inv
  obtain ⟨m, hm, rfl⟩ := exists_mem_of_get?_ofMembers hget
  obtain ⟨w', hw', hsub⟩ := hlisted.mem hm
  have hsub' : w' ⊆ '{' :: u := List.Subset.trans hsub (List.subset_cons_self '{' u)
  exact (hw'.mem hc).imp (fun h => hsub' h) fun h => hsub' h

/-- A character of a name of an object's text stands in the text, or characters are escaped in
it. -/
theorem mem_of_document {fs : Fields} {name : String} {c : Char} (h : document cs = .ok (.obj fs))
    (hget : Fields.get? fs name = some v) (hc : c ∈ name.toList) : c ∈ cs ∨ '\\' ∈ cs := by
  obtain ⟨s, w, s', rfl, hs, hv, hs'⟩ := document_eq_ok_iff.1 h
  have hsub : w ⊆ s ++ (w ++ s') := by
    intro x hx
    simp [hx]
  exact (hv.mem hget hc).imp (fun h => hsub h) fun h => hsub h

end Mend.Json
