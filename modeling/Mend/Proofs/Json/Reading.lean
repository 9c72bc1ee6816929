import Mend.Proofs.Json.Grammar

namespace Mend.Json

variable {α : Type} {cs r s w : List Char} {v : Json}

def Sound (read : List Char → Step (α × List Char)) (text : List Char → α → Prop) : Prop :=
  ∀ cs a r, read cs = .ok (a, r) → ∃ w, cs = w ++ r ∧ text w a

def Complete (read : List Char → Step (α × List Char)) (text : List Char → α → Prop)
    (size : Nat) : Prop :=
  ∀ w a r, text w a → w.length ≤ size → Stops r → read (w ++ r) = .ok (a, r)

theorem scalar_sound : Sound scalar ScalarText := by
  intro cs v r h
  unfold scalar at h
  split at h
  · rename_i cs
    cases hstring : string ('"' :: cs).length [] cs with
    | error e =>
      rw [hstring] at h
      cases h
    | ok p =>
      rw [hstring] at h
      cases h
      obtain ⟨w, xs, rfl, hxs, hs⟩ := string_sound hstring
      rw [hs]
      exact ⟨'"' :: w, rfl, .string hxs⟩
  · cases h
    exact ⟨_, rfl, .literal .null⟩
  · cases h
    exact ⟨_, rfl, .literal .true⟩
  · cases h
    exact ⟨_, rfl, .literal .false⟩
  · cases h
    exact ⟨_, rfl, .literal .nan⟩
  · cases h
    exact ⟨_, rfl, .literal .infinity⟩
  · cases h
    exact ⟨_, rfl, .literal .minusInfinity⟩
  · obtain ⟨w, n, rfl, hn, rfl⟩ := number_sound h
    exact ⟨w, rfl, .number hn⟩

theorem scalar_of_digit {c : Char} (negative : Bool) (hc : c.isDigit = true) (cs : List Char) :
    scalar (sign negative ++ c :: cs) = number (sign negative ++ c :: cs) := by
  cases negative with
  | false =>
    change scalar (c :: cs) = number (c :: cs)
    rw [scalar]
    all_goals
      rintro r ⟨⟩
      cases hc
  | true =>
    change scalar ('-' :: c :: cs) = number ('-' :: c :: cs)
    rw [scalar]
    case x_6 =>
      rintro r ⟨⟩
      cases hc
    all_goals rintro r ⟨⟩

theorem scalar_complete (h : ScalarText w v) (hr : Stops r) : scalar (w ++ r) = .ok (v, r) := by
  cases h with
  | string h =>
    rw [List.cons_append, scalar, string_complete h]
    rfl
  | literal h =>
    cases h
    all_goals rfl
  | number h =>
    obtain ⟨negative, c, w', hw, hc⟩ := h.begins
    rw [← number_complete h hr, hw, List.append_assoc]
    exact scalar_of_digit negative hc (w' ++ r)

theorem map_eq_ok {ε β γ : Type} {f : β → γ} {x : Except ε β} {c : γ} (h : x.map f = .ok c) :
    ∃ b, x = .ok b ∧ f b = c := by
  cases x with
  | error e => cases h
  | ok b => exact ⟨b, rfl, Except.ok.inj h⟩

section
variable {read : List Char → Step (α × List Char)} {part : List Char → α → Prop} {close : Char}
  {done as : List α} {n size : Nat}

theorem separated_of_read (missing : Problem) {a : α} {rest : List Char}
    (h : read cs = .ok (a, rest)) :
    separated read close missing done (n + 1) cs =
      match skipSpace rest with
      | [] => fail .commaExpected []
      | c :: cs =>
        if c = close then .ok ((a :: done).reverse, cs)
        else if c = ',' then separated read close missing (a :: done) n (skipSpace cs)
        else fail .commaExpected (c :: cs) := by
  rw [separated, h]
  rfl

theorem separated_sound (hread : Sound read part) {missing : Problem}
    (h : separated read close missing done n cs = .ok (as, r)) :
    ∃ w bs, cs = w ++ r ∧ Separated part close w bs ∧ as = done.reverse ++ bs := by
  induction n generalizing cs done with
  | zero => cases h
  | succ n ih =>
    cases hpart : read cs with
    | error e =>
      rw [separated, hpart] at h
      cases h
    | ok p =>
      obtain ⟨a, rest⟩ := p
      obtain ⟨w, rfl, hw⟩ := hread cs a rest hpart
      obtain ⟨s, hs, hrest⟩ := exists_space rest
      rw [separated_of_read missing hpart] at h
      cases hskip : skipSpace rest with
      | nil =>
        rw [hskip] at h
        cases h
      | cons c rest' =>
        rw [hskip] at h hrest
        subst hrest
        dsimp only at h
        by_cases hclose : c = close
        · rw [if_pos hclose] at h
          cases h
          subst hclose
          refine ⟨w ++ (s ++ [c]), [a], by simp, .last hw hs, ?_⟩
          rw [List.reverse_cons]
        rw [if_neg hclose] at h
        by_cases hcomma : c = ','
        · rw [if_pos hcomma] at h
          subst hcomma
          obtain ⟨s', hs', hrest'⟩ := exists_space rest'
          obtain ⟨w', bs, heq, hbs, has⟩ := ih h
          rw [heq] at hrest'
          refine ⟨w ++ (s ++ ',' :: (s' ++ w')), a :: bs, ?_, .more hw hs hs' hbs, ?_⟩
          · rw [hrest']
            simp
          · rw [has, List.reverse_cons, List.append_assoc]
            rfl
        · rw [if_neg hcomma] at h
          cases h

theorem separated_complete (missing : Problem) (hread : Complete read part size)
    (hpart : ∀ w a, part w a → Begins w) (hclose : close = ']' ∨ close = '}')
    (h : Separated part close w as) (hsize : w.length ≤ size) {n : Nat} (hn : w.length ≤ n)
    (done : List α) (r : List Char) :
    separated read close missing done n (w ++ r) = .ok (done.reverse ++ as, r) := by
  -- What a part is followed by, space and then a comma or the bracket, goes on with no number.
  have hstop : ∀ r', Stops (close :: r') := by
    intro r'
    rcases hclose with rfl | rfl
    all_goals exact stops_cons (by decide) r'
  have hspace : isSpace close = false := by
    rcases hclose with rfl | rfl
    all_goals rfl
  have hcomma : ',' ≠ close := by
    rcases hclose with rfl | rfl
    all_goals decide
  induction h generalizing n done with
  | @last w s a h hs =>
    simp only [List.length_append, List.length_cons] at hsize hn
    obtain ⟨n, rfl⟩ : ∃ m, n = m + 1 := ⟨n - 1, by omega⟩
    have happend : w ++ (s ++ [close]) ++ r = w ++ (s ++ close :: r) := by simp
    rw [happend, separated_of_read missing (hread w a _ h (by omega) (hs.stops (hstop r))),
      skipSpace_append hs fun c hc => ?_]
    · dsimp only
      rw [if_pos rfl, List.reverse_cons]
    · cases hc
      exact hspace
  | @more w s s' w' a as h hs hs' hrest ih =>
    simp only [List.length_append, List.length_cons] at hsize hn
    obtain ⟨n, rfl⟩ : ∃ m, n = m + 1 := ⟨n - 1, by omega⟩
    have happend : w ++ (s ++ ',' :: (s' ++ w')) ++ r = w ++ (s ++ ',' :: (s' ++ (w' ++ r))) := by
      simp
    have hstops : Stops (s ++ ',' :: (s' ++ (w' ++ r))) := hs.stops (stops_cons (by decide) _)
    rw [happend, separated_of_read missing (hread w a _ h (by omega) hstops),
      skipSpace_append hs fun c hc => ?_]
    · dsimp only
      rw [if_neg hcomma, if_pos rfl, skipSpace_append hs' ((hrest.begins hpart).append r),
        ih (by omega) (by omega), List.reverse_cons, List.append_assoc]
      rfl
    · cases hc
      rfl

theorem listed_sound (hread : Sound read part) (missing : Problem) :
    Sound (listed read close missing size) (Listed part close) := by
  intro cs as r h
  obtain ⟨s, hs, hcs⟩ := exists_space cs
  unfold listed at h
  by_cases hclose : (skipSpace cs).head? = some close
  · rw [if_pos hclose] at h
    cases h
    obtain ⟨r, hskip⟩ := List.head?_eq_some_iff.1 hclose
    rw [hskip] at hcs ⊢
    exact ⟨s ++ [close], by rw [hcs]; simp, .empty hs⟩
  · rw [if_neg hclose] at h
    obtain ⟨w, as, hw, has, rfl⟩ := separated_sound hread h
    rw [hw] at hcs
    exact ⟨s ++ w, by rw [hcs, List.append_assoc], .parts hs has⟩

theorem listed_complete (missing : Problem) (hread : Complete read part size)
    (hpart : ∀ w a, part w a → Begins w) (hclose : close = ']' ∨ close = '}')
    (h : Listed part close w as) (hsize : w.length ≤ size) (r : List Char) :
    listed read close missing size (w ++ r) = .ok (as, r) := by
  unfold listed
  cases h with
  | @empty s hs =>
    have hspace : isSpace close = false := by
      rcases hclose with rfl | rfl
      all_goals rfl
    have hskip : skipSpace (s ++ [close] ++ r) = close :: r := by
      rw [List.append_assoc]
      exact skipSpace_cons hs hspace r
    rw [hskip]
    exact if_pos rfl
  | @parts s w as hs h =>
    rw [List.length_append] at hsize
    have hbegins := h.begins hpart
    have hskip : skipSpace (s ++ w ++ r) = w ++ r := by
      rw [List.append_assoc]
      exact skipSpace_append hs (hbegins.append r)
    rw [hskip, if_neg]
    · exact separated_complete missing hread hpart hclose h (by omega) (by omega) [] r
    · obtain ⟨c, w', rfl, -, -, harray, hobject⟩ := hbegins
      rintro ⟨⟩
      rcases hclose with rfl | rfl
      · exact harray rfl
      · exact hobject rfl

end

section
variable {item : List Char → Step (Json × List Char)} {text : List Char → Json → Prop} {size : Nat}

theorem member_of_string (item : List Char → Step (Json × List Char)) {name : String}
    (h : string ('"' :: cs).length [] cs = .ok (name, r)) :
    member item ('"' :: cs) =
      match skipSpace r with
      | ':' :: r => (item (skipSpace r)).map fun p => ((name, p.1), p.2)
      | r => fail .colonExpected r := by
  rw [member, h]
  rfl

theorem member_sound (hitem : Sound item text) : Sound (member item) (MemberText text) := by
  intro cs m r h
  by_cases hquote : ∃ rest, cs = '"' :: rest
  · obtain ⟨cs, rfl⟩ := hquote
    cases hstring : string ('"' :: cs).length [] cs with
    | error e =>
      rw [member, hstring] at h
      cases h
    | ok p =>
      obtain ⟨name, rest⟩ := p
      obtain ⟨n, xs, rfl, hxs, rfl⟩ := string_sound hstring
      obtain ⟨s, hs, hrest⟩ := exists_space rest
      rw [member_of_string item hstring] at h
      split at h
      · rename_i rest' hskip
        obtain ⟨⟨v, r⟩, hvalue, hm⟩ := map_eq_ok h
        cases hm
        obtain ⟨s', hs', hrest'⟩ := exists_space rest'
        obtain ⟨w, hw, hv⟩ := hitem _ _ _ hvalue
        refine ⟨'"' :: (n ++ (s ++ ':' :: (s' ++ w))), ?_, .mk hxs hs hs' hv⟩
        rw [hrest, hskip, hrest', hw]
        simp
      · cases h
  · rw [member] at h
    · cases h
    · exact not_exists.1 hquote

theorem member_complete (hitem : Complete item text size)
    (htext : ∀ w v, text w v → Begins w) : Complete (member item) (MemberText text) size := by
  intro w m r h hsize hr
  obtain @⟨n, xs, s, s', w, v, hname, hs, hs', hv⟩ := h
  simp only [List.length_append, List.length_cons] at hsize
  have happend : '"' :: (n ++ (s ++ ':' :: (s' ++ w))) ++ r =
      '"' :: (n ++ (s ++ ':' :: (s' ++ (w ++ r)))) := by simp
  have hvalue : item (skipSpace (s' ++ (w ++ r))) = .ok (v, r) := by
    rw [skipSpace_append hs' ((htext w v hv).append r)]
    exact hitem w v r hv (by omega) hr
  rw [happend, member_of_string item (string_complete hname _ [] _), skipSpace_cons hs rfl]
  change (item (skipSpace (s' ++ (w ++ r)))).map _ = _
  rw [hvalue]
  rfl

end

theorem value_of_scalar {size depth : Nat} (harray : ∀ r, cs ≠ '[' :: r)
    (hobject : ∀ r, cs ≠ '{' :: r) : value size depth cs = scalar cs := by
  cases depth with
  | zero =>
    rw [value]
    · exact harray
    · exact hobject
  | succ depth =>
    rw [value]
    · exact harray
    · exact hobject

theorem value_sound (size depth : Nat) : Sound (value size depth) (ValueText depth) := by
  induction depth with
  | zero =>
    intro cs v r h
    unfold value at h
    split at h
    · cases h
    · cases h
    · exact scalar_sound cs v r h
  | succ depth ih =>
    intro cs v r h
    unfold value at h
    split at h
    · obtain ⟨⟨vs, r⟩, hitems, hv⟩ := map_eq_ok h
      cases hv
      obtain ⟨w, rfl, hw⟩ := listed_sound ih _ _ _ _ hitems
      exact ⟨'[' :: w, rfl, .inr (.array hw)⟩
    · obtain ⟨⟨ms, r⟩, hmembers, hv⟩ := map_eq_ok h
      cases hv
      obtain ⟨w, rfl, hw⟩ := listed_sound (member_sound ih) _ _ _ _ hmembers
      exact ⟨'{' :: w, rfl, .inr (.object hw)⟩
    · obtain ⟨w, hw, hv⟩ := scalar_sound cs v r h
      exact ⟨w, hw, .inl hv⟩

theorem value_complete (size depth : Nat) : Complete (value size depth) (ValueText depth) size := by
  have hscalar : ∀ depth w v r, ScalarText w v → Stops r →
      value size depth (w ++ r) = .ok (v, r) := by
    intro depth w v r h hr
    rw [← scalar_complete h hr]
    obtain ⟨⟨c, w', rfl, -⟩, harray, hobject⟩ := h.begins
    apply value_of_scalar
    · rintro r' ⟨⟩
      exact harray w' rfl
    · rintro r' ⟨⟩
      exact hobject w' rfl
  induction depth with
  | zero => exact fun w v r h _ hr => hscalar 0 w v r h hr
  | succ depth ih =>
    intro w v r h hsize hr
    rcases h with h | h
    · exact hscalar _ w v r h hr
    have hbegins : ∀ w v, ValueText depth w v → Begins w := fun _ _ => ValueText.begins
    cases h with
    | @array w vs h =>
      rw [List.length_cons] at hsize
      change (listed (value size depth) ']' .valueExpected size (w ++ r)).map _ = _
      rw [listed_complete .valueExpected ih hbegins (.inl rfl) h (by omega)]
      rfl
    | @object w ms h =>
      rw [List.length_cons] at hsize
      change (listed (member (value size depth)) '}' .nameExpected size (w ++ r)).map _ = _
      rw [listed_complete .nameExpected (member_complete ih hbegins) (fun _ _ => MemberText.begins)
        (.inr rfl) h (by omega)]
      rfl

theorem document_of_value (hbom : ∀ r, cs ≠ '\ufeff' :: r)
    (hvalue : value cs.length maxDepth (skipSpace cs) = .ok (v, r)) :
    document cs = if skipSpace r = [] then .ok v else fail .extraData (skipSpace r) := by
  rw [document]
  · rw [hvalue]
    simp only [bind, Except.bind]
    cases skipSpace r with
    | nil => rfl
    | cons c r => rfl
  · exact hbom

/-- A text is read as a value exactly if it is a text of the value with space around it. -/
theorem document_eq_ok_iff : document cs = .ok v ↔
    ∃ s w s', cs = s ++ (w ++ s') ∧ IsSpace s ∧ ValueText maxDepth w v ∧ IsSpace s' := by
  constructor
  · intro h
    by_cases hbom : ∃ r, cs = '\ufeff' :: r
    · obtain ⟨r, rfl⟩ := hbom
      cases h
    cases hvalue : value cs.length maxDepth (skipSpace cs) with
    | error e =>
      rw [document, hvalue] at h
      · cases h
      · exact not_exists.1 hbom
    | ok p =>
      obtain ⟨v', r⟩ := p
      rw [document_of_value (not_exists.1 hbom) hvalue] at h
      obtain ⟨s, hs, hcs⟩ := exists_space cs
      obtain ⟨w, hw, hv⟩ := value_sound _ _ _ _ _ hvalue
      obtain ⟨s', hs', hr⟩ := exists_space r
      split at h
      · rename_i hend
        cases h
        rw [hend, List.append_nil] at hr
        exact ⟨s, w, s', by rw [hcs, hw, hr], hs, hv, hs'⟩
      · cases h
  · rintro ⟨s, w, s', rfl, hs, hv, hs'⟩
    have hskip : skipSpace (s ++ (w ++ s')) = w ++ s' :=
      skipSpace_append hs (hv.begins.append s')
    have hstops : Stops s' := by
      have h := hs'.stops (r := []) nofun
      rwa [List.append_nil] at h
    have hvalue := value_complete (s ++ (w ++ s')).length maxDepth w v s' hv
      (by simp only [List.length_append]; omega) hstops
    rw [document_of_value ?_ (by rw [hskip, hvalue]), hs'.skipSpace, if_pos rfl]
    intro r hr
    cases s with
    | nil =>
      obtain ⟨c, w', rfl, -, hc, -⟩ := hv.begins
      exact hc (List.head_eq_of_cons_eq hr)
    | cons c s =>
      have hc := hs c List.mem_cons_self
      rw [List.head_eq_of_cons_eq hr] at hc
      cases hc

theorem read_eq_ok_iff {text : String} : read text = .ok v ↔ document text.toList = .ok v := by
  rw [read]
  cases document text.toList with
  | error e => exact iff_of_false nofun nofun
  | ok w => exact ⟨fun h => congrArg _ (Except.ok.inj h), fun h => congrArg _ (Except.ok.inj h)⟩

end Mend.Json
