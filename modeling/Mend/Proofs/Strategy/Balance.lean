import Mend.Proofs.Strategy.Attempt
import Mend.Proofs.Strategy.Rounds
import Mend.Proofs.Text.Lines

/-! Braces balanced round by round. What is counted at the ends of the lines tells how often a text
is repaired: every opening brace raises all counts behind it by one, and when none is negative any
more, every closing brace lowers the last one. -/

namespace Mend.Strategy.Brackets

/-- The count at the end of every line, `before` being the one at the start. -/
def counts (before : Int) : List Line → List Int
  | [] => []
  | l :: ls => (before + balance l) :: counts (before + balance l) ls

def depth : List Int → Nat
  | [] => 0
  | c :: cs => max (-c).toNat (depth cs)

section
variable {ls ms before after : List Line} {line : Line} {n : Int} {i : Nat}

theorem total_append (ls ms : List Line) : total (ls ++ ms) = total ls + total ms := by
  induction ls with
  | nil => simp [total]
  | cons l ls ih => simp [total, ih, Int.add_assoc]

theorem counts_append (n : Int) (ls ms : List Line) :
    counts n (ls ++ ms) = counts n ls ++ counts (n + total ls) ms := by
  induction ls generalizing n with
  | nil => simp [counts, total]
  | cons l ls ih => simp [counts, total, ih, Int.add_assoc]

theorem counts_succ (n : Int) (ls : List Line) :
    counts (n + 1) ls = (counts n ls).map (· + 1) := by
  induction ls generalizing n with
  | nil => rfl
  | cons l ls ih =>
    have hn : n + 1 + balance l = n + balance l + 1 := by omega
    rw [counts, counts, hn, ih, List.map_cons]

theorem getLast?_counts (n : Int) {ls : List Line} (h : ls ≠ []) :
    (counts n ls).getLast? = some (n + total ls) := by
  obtain ⟨init, l, rfl⟩ : ∃ init l, ls = init ++ [l] :=
    ⟨_, _, (List.dropLast_concat_getLast h).symm⟩
  rw [counts_append, total_append]
  simp [counts, total, Int.add_assoc]

theorem depth_append (cs ds : List Int) : depth (cs ++ ds) = max (depth cs) (depth ds) := by
  induction cs with
  | nil => simp [depth]
  | cons c cs ih => simp only [List.cons_append, depth, ih, Nat.max_assoc]

theorem depth_map_succ (cs : List Int) : depth (cs.map (· + 1)) = depth cs - 1 := by
  induction cs with
  | nil => rfl
  | cons c cs ih =>
    simp only [List.map_cons, depth, ih]
    omega

theorem depth_eq_zero_iff {cs : List Int} : depth cs = 0 ↔ ∀ c ∈ cs, 0 ≤ c := by
  induction cs with
  | nil => simp [depth]
  | cons c cs ih =>
    rw [List.forall_mem_cons, ← ih, depth]
    omega

theorem depth_opening (hn : 0 ≤ n) :
    depth (counts n (openingLine :: ls)) = depth (counts n ls) - 1 := by
  have hopening : balance openingLine = 1 := rfl
  simp only [counts, depth, hopening, counts_succ, depth_map_succ]
  omega

theorem split_of_firstNegative? (h : firstNegative? n ls = some i) :
    ∃ before line after, ls = before ++ line :: after ∧ before.length = i ∧
      depth (counts n before) = 0 ∧ n + total (before ++ [line]) < 0 := by
  induction ls generalizing n i with
  | nil => cases h
  | cons l ls ih =>
    simp only [firstNegative?] at h
    split at h
    · rename_i hneg
      cases h
      refine ⟨[], l, ls, rfl, rfl, rfl, ?_⟩
      simp only [List.nil_append, total]
      omega
    · rename_i hnonneg
      obtain ⟨j, hj, rfl⟩ := Option.map_eq_some_iff.1 h
      obtain ⟨before, line, after, rfl, hlen, hdepth, htotal⟩ := ih hj
      refine ⟨l :: before, line, after, rfl, congrArg (· + 1) hlen, ?_, ?_⟩
      · simp only [counts, depth, hdepth]
        omega
      · simp only [List.cons_append, total]
        omega

theorem firstNegative?_eq_none_iff : firstNegative? n ls = none ↔ depth (counts n ls) = 0 := by
  induction ls generalizing n with
  | nil => simp [firstNegative?, counts, depth]
  | cons l ls ih =>
    rw [firstNegative?, counts, depth]
    split
    · rename_i hneg
      simp only [reduceCtorEq, false_iff]
      omega
    · rename_i hnonneg
      rw [Option.map_eq_none_iff, ih]
      omega

/-- A count that never falls below zero is not below zero in the end. -/
theorem total_nonneg (hn : 0 ≤ n) (h : depth (counts n ls) = 0) : 0 ≤ n + total ls := by
  by_cases hls : ls = []
  · subst hls
    simpa [total] using hn
  · have hlast : n + total ls ∈ counts n ls := List.mem_of_getLast? (getLast?_counts n hls)
    exact depth_eq_zero_iff.1 h _ hlast

theorem depth_insert_opening (h : depth (counts 0 before) = 0) :
    depth (counts 0 (before ++ openingLine :: after)) = depth (counts 0 (before ++ after)) - 1 := by
  have htotal : 0 ≤ 0 + total before := total_nonneg (Int.le_refl 0) h
  rw [counts_append, depth_append, depth_opening htotal, h, counts_append, depth_append, h]
  omega

theorem total_insert (before after : List Line) (line : Line) :
    total (before ++ line :: after) = total (before ++ after) + balance line := by
  simp only [total_append, total]
  omega

end

def takeOut? (e : Edit) (ls : List Line) : Option (List Line) := do
  let n ← e.line
  let text ← e.text
  let i ← Lines.index? n ls
  if ls.getD i [] = text.toList then some (ls.eraseIdx i) else none

def takeOutAll? : List Edit → List Line → Option (List Line)
  | [], ls => some ls
  | e :: es, ls => (takeOutAll? es ls).bind (takeOut? e)

theorem takeOutAll?_append (es fs : List Edit) (ls : List Line) :
    takeOutAll? (es ++ fs) ls = (takeOutAll? fs ls).bind (takeOutAll? es) := by
  induction es with
  | nil => simp [takeOutAll?]
  | cons e es ih => simp [takeOutAll?, ih, Option.bind_assoc]

theorem takeOut?_insertion (before after : List Line) (line : Line) :
    takeOut? (insertion (before.length + 1) line) (before ++ line :: after) =
      some (before ++ after) := by
  have hindex : Lines.index? ((before.length : Int) + 1) (before ++ line :: after) =
      some before.length := Edit.index?_append rfl
  simp [takeOut?, insertion, hindex, List.eraseIdx_append]

/-- A text with an opening brace before its first line that ends below zero, and the record. -/
def Opened (content text : String) (e : Edit) : Prop :=
  ∃ before line after, Lines.ofText content = before ++ line :: after ∧
    (∀ c ∈ counts 0 before, 0 ≤ c) ∧ total (before ++ [line]) < 0 ∧
    Lines.ofText text = before ++ openingLine :: line :: after ∧
    e = insertion (before.length + 1) openingLine

/-- A text with a closing brace behind its last line, which is the one before an empty line if the
text ends with a newline, and the record. -/
def Closed (content text : String) (e : Edit) : Prop :=
  ∃ before after, after = (if content.toList.getLast? = some '\n' then [[]] else []) ∧
    Lines.ofText content = before ++ after ∧ Lines.ofText text = before ++ closingLine :: after ∧
    e = insertion (before.length + 1) closingLine

section
variable {before after : List Line} {line new : Line} {content text : String} {e : Edit}

theorem ofText_insert (hls : Lines.ofText content = before ++ after) (h : '\n' ∉ line) :
    Lines.ofText (Lines.toText (before ++ line :: after)) = before ++ line :: after := by
  have hgone : Lines.ofText content = before ++ [] ++ after := by rw [hls, List.append_nil]
  exact Lines.ofText_put hgone h

theorem attempt_opening (h : 0 < depth (counts 0 (Lines.ofText content))) :
    ∃ text e, attempt content = .fixed text "Added missing opening brace" [e] ∧
      Opened content text e := by
  have hne : firstNegative? 0 (Lines.ofText content) ≠ none := by
    rw [ne_eq, firstNegative?_eq_none_iff]
    omega
  obtain ⟨i, hi⟩ := Option.ne_none_iff_exists'.1 hne
  obtain ⟨before, line, after, hls, rfl, hdepth, htotal⟩ := split_of_firstNegative? hi
  rw [Int.zero_add] at htotal
  refine ⟨_, _, ?_, before, line, after, hls, depth_eq_zero_iff.1 hdepth, htotal,
    ofText_insert hls (by decide), rfl⟩
  rw [attempt]
  simp only [hi]
  rw [hls, List.take_left, List.drop_left]

theorem attempt_closing (hdepth : depth (counts 0 (Lines.ofText content)) = 0)
    (htotal : 0 < total (Lines.ofText content)) :
    ∃ text e, attempt content = .fixed text "Added missing closing brace" [e] ∧
      Closed content text e := by
  have hattempt : attempt content = .fixed (Lines.toText (close (Lines.ofText content)).1)
      "Added missing closing brace"
      [insertion (close (Lines.ofText content)).2 closingLine] := by
    rw [attempt]
    simp only [firstNegative?_eq_none_iff.2 hdepth, if_pos htotal]
  refine ⟨_, _, hattempt, ?_⟩
  by_cases hlast : (Lines.ofText content).getLast? = some []
  · obtain ⟨before, hls⟩ := List.getLast?_eq_some_iff.1 hlast
    have hbefore : 0 < before.length := by
      apply List.length_pos_iff.2
      rintro rfl
      rw [hls] at htotal
      cases htotal
    have hends : content.toList.getLast? = some '\n' := by
      rw [Lines.getLast?_eq_newline_iff, hls]
      simp [hbefore]
    have hclose : close (Lines.ofText content) =
        (before ++ closingLine :: [[]], before.length + 1) := by
      rw [close, hlast, hls, List.dropLast_concat]
      simp
    rw [hclose]
    exact ⟨before, _, (if_pos hends).symm, hls, ofText_insert hls (by decide), rfl⟩
  · have hends : content.toList.getLast? ≠ some '\n' := by
      rw [ne_eq, Lines.getLast?_eq_newline_iff]
      exact fun h => hlast h.1
    have hclose : close (Lines.ofText content) =
        (Lines.ofText content ++ [closingLine], (Lines.ofText content).length + 1) := by
      unfold close
      split
      · rename_i h
        exact absurd h hlast
      · rfl
    have hls : Lines.ofText content = Lines.ofText content ++ [] := (List.append_nil _).symm
    rw [hclose]
    exact ⟨_, _, (if_neg hends).symm, hls, ofText_insert hls (by decide), rfl⟩

theorem Opened.depth_eq (h : Opened content text e) :
    depth (counts 0 (Lines.ofText text)) = depth (counts 0 (Lines.ofText content)) - 1 := by
  obtain ⟨before, line, after, hls, hbefore, -, htext, -⟩ := h
  rw [htext, hls, depth_insert_opening (depth_eq_zero_iff.2 hbefore)]

theorem Opened.total_eq (h : Opened content text e) :
    total (Lines.ofText text) = total (Lines.ofText content) + 1 := by
  obtain ⟨before, line, after, hls, -, -, htext, -⟩ := h
  rw [htext, hls, total_insert]
  rfl

theorem Opened.takeOut?_eq (h : Opened content text e) :
    takeOut? e (Lines.ofText text) = some (Lines.ofText content) := by
  obtain ⟨before, line, after, hls, -, -, htext, he⟩ := h
  rw [htext, hls, he, takeOut?_insertion]

theorem Opened.text_eq (h : Opened content text e) : e.text = some "  \x7b" := by
  obtain ⟨before, line, after, -, -, -, -, he⟩ := h
  rw [he]
  rfl

/-- The line that ends below zero is not empty, so the last line is the same with the brace. -/
theorem Opened.ends_iff (h : Opened content text e) :
    text.toList.getLast? = some '\n' ↔ content.toList.getLast? = some '\n' := by
  obtain ⟨before, line, after, hls, hbefore, htotal, htext, -⟩ := h
  have hline : line ≠ [] := by
    rintro rfl
    have hnonneg := total_nonneg (Int.le_refl 0) (depth_eq_zero_iff.2 hbefore)
    have hempty : balance [] = 0 := rfl
    simp only [total_append, total, hempty] at htotal
    omega
  have hlast : (before ++ openingLine :: line :: after).getLast? =
      (before ++ line :: after).getLast? := by
    simp [List.getLast?_append, List.getLast?_cons]
  rw [Lines.getLast?_eq_newline_iff, Lines.getLast?_eq_newline_iff, htext, hls, hlast]
  simp only [List.length_append, List.length_cons]
  cases after with
  | nil => simp [List.getLast?_append, hline]
  | cons l ls =>
    apply and_congr_right
    intro
    rw [List.length_cons]
    omega

theorem Closed.depth_eq (h : Closed content text e)
    (hdepth : depth (counts 0 (Lines.ofText content)) = 0)
    (htotal : 0 < total (Lines.ofText content)) :
    depth (counts 0 (Lines.ofText text)) = 0 := by
  obtain ⟨before, after, hafter, hls, htext, -⟩ := h
  have hclosing : balance closingLine = -1 := rfl
  -- nothing is counted behind the brace
  have hrest : total after = 0 ∧ ∀ n : Int, 0 ≤ n → depth (counts n after) = 0 := by
    rw [hafter]
    split
    · have hempty : balance [] = 0 := rfl
      refine ⟨rfl, fun n hn => ?_⟩
      simp only [counts, depth, hempty]
      omega
    · exact ⟨rfl, fun _ _ => rfl⟩
  rw [hls, counts_append, depth_append] at hdepth
  rw [hls, total_append] at htotal
  simp only [htext, counts_append, depth_append, counts, depth, hclosing]
  rw [hrest.2 _ (by omega)]
  omega

theorem Closed.total_eq (h : Closed content text e) :
    total (Lines.ofText text) = total (Lines.ofText content) - 1 := by
  obtain ⟨before, after, -, hls, htext, -⟩ := h
  rw [htext, hls, total_insert]
  rfl

theorem Closed.takeOut?_eq (h : Closed content text e) :
    takeOut? e (Lines.ofText text) = some (Lines.ofText content) := by
  obtain ⟨before, after, -, hls, htext, he⟩ := h
  rw [htext, hls, he, takeOut?_insertion]

theorem Closed.text_eq (h : Closed content text e) : e.text = some "\x7d" := by
  obtain ⟨before, after, -, -, -, he⟩ := h
  rw [he]
  rfl

theorem Closed.ends_iff (h : Closed content text e) :
    text.toList.getLast? = some '\n' ↔ content.toList.getLast? = some '\n' := by
  obtain ⟨before, after, hafter, -, htext, -⟩ := h
  rw [Lines.getLast?_eq_newline_iff, htext, hafter]
  split
  · rename_i hends
    simp [hends]
  · rename_i hends
    simp [hends, closingLine]

end

section
variable {tree : FileTree} {d : Diagnostic} {context : Option Context}
  {content text last summary : String} {e : Edit} {es fs : List Edit}

theorem attempt_brackets {a : Attempt} (h : attempt content = a) :
    brackets.attempt tree d content context = .ok a :=
  congrArg Except.ok h

/-- Insertions, one in each round, that can be taken out again. -/
def Inserts (tree : FileTree) (d : Diagnostic) (context : Option Context) (content : String)
    (es : List Edit) (last : String) : Prop :=
  Rounds brackets tree d context content (es.map fun e => [e]) last ∧
    takeOutAll? es (Lines.ofText last) = some (Lines.ofText content)

theorem Inserts.done (tree : FileTree) (d : Diagnostic) (context : Option Context)
    (content : String) : Inserts tree d context content [] content :=
  ⟨.done content, rfl⟩

theorem Inserts.more (h : attempt content = .fixed text summary [e])
    (htake : takeOut? e (Lines.ofText text) = some (Lines.ofText content))
    (t : Inserts tree d context text es last) : Inserts tree d context content (e :: es) last := by
  refine ⟨.more (attempt_brackets h) t.1, ?_⟩
  rw [takeOutAll?, t.2]
  exact htake

theorem Inserts.trans (h : Inserts tree d context content es text)
    (t : Inserts tree d context text fs last) :
    Inserts tree d context content (es ++ fs) last := by
  refine ⟨?_, ?_⟩
  · rw [List.map_append]
    exact h.1.trans t.1
  · rw [takeOutAll?_append, t.2]
    exact h.2

theorem opening_rounds (tree : FileTree) (d : Diagnostic) (context : Option Context) {k : Nat}
    (h : depth (counts 0 (Lines.ofText content)) = k) :
    ∃ es last, Inserts tree d context content es last ∧
      es.map Edit.text = List.replicate k (some "  \x7b") ∧
      depth (counts 0 (Lines.ofText last)) = 0 ∧
      total (Lines.ofText last) = total (Lines.ofText content) + k := by
  induction k generalizing content with
  | zero => exact ⟨[], content, .done _ _ _ _, rfl, h, by omega⟩
  | succ k ih =>
    have hpos : 0 < depth (counts 0 (Lines.ofText content)) := by omega
    obtain ⟨text, e, hattempt, hopened⟩ := attempt_opening hpos
    have hdepth := hopened.depth_eq
    have htotal := hopened.total_eq
    rw [h] at hdepth
    obtain ⟨es, last, hinserts, htexts, hlast, htotal'⟩ := ih hdepth
    refine ⟨e :: es, last, .more hattempt hopened.takeOut?_eq hinserts, ?_, hlast, by omega⟩
    rw [List.map_cons, htexts, hopened.text_eq, List.replicate_succ]

theorem closing_rounds (tree : FileTree) (d : Diagnostic) (context : Option Context) {n : Nat}
    (h : depth (counts 0 (Lines.ofText content)) = 0) (hn : total (Lines.ofText content) = n) :
    ∃ es last, Inserts tree d context content es last ∧
      es.map Edit.text = List.replicate n (some "\x7d") ∧
      depth (counts 0 (Lines.ofText last)) = 0 ∧ total (Lines.ofText last) = 0 := by
  induction n generalizing content with
  | zero => exact ⟨[], content, .done _ _ _ _, rfl, h, hn⟩
  | succ n ih =>
    have hpos : 0 < total (Lines.ofText content) := by omega
    obtain ⟨text, e, hattempt, hclosed⟩ := attempt_closing h hpos
    have htotal := hclosed.total_eq
    obtain ⟨es, last, hinserts, htexts, hlast, htotal'⟩ :=
      ih (hclosed.depth_eq h hpos) (by omega)
    refine ⟨e :: es, last, .more hattempt hclosed.takeOut?_eq hinserts, ?_, hlast, htotal'⟩
    rw [List.map_cons, htexts, hclosed.text_eq, List.replicate_succ]

theorem declines_iff : Declines brackets tree d context content ↔
    depth (counts 0 (Lines.ofText content)) = 0 ∧ total (Lines.ofText content) = 0 := by
  constructor
  · intro h
    have hdepth : depth (counts 0 (Lines.ofText content)) = 0 := by
      apply Nat.eq_zero_of_not_pos
      intro hpos
      obtain ⟨text, e, hattempt, -⟩ := attempt_opening hpos
      exact not_declines (attempt_brackets hattempt) h
    have hnonneg := total_nonneg (Int.le_refl 0) hdepth
    have htotal : ¬ 0 < total (Lines.ofText content) := by
      intro hpos
      obtain ⟨text, e, hattempt, -⟩ := attempt_closing hdepth hpos
      exact not_declines (attempt_brackets hattempt) h
    exact ⟨hdepth, by omega⟩
  · rintro ⟨hdepth, htotal⟩
    have hattempt : attempt content = .decline "Could not determine bracket issue location" := by
      rw [attempt]
      simp only [firstNegative?_eq_none_iff.2 hdepth, htotal]
      rfl
    exact ⟨_, _, _, attempt_brackets hattempt⟩

/-- As many opening braces as the counts fall below zero, and then as many closing ones as are
missing in the end. -/
theorem all_rounds (tree : FileTree) (d : Diagnostic) (context : Option Context) {k : Nat} {f : Int}
    (hk : depth (counts 0 (Lines.ofText content)) = k) (hf : total (Lines.ofText content) = f) :
    ∃ es last, Inserts tree d context content es last ∧
      es.map Edit.text =
        List.replicate k (some "  \x7b") ++ List.replicate (k + f).toNat (some "\x7d") ∧
      (es.length : Int) = 2 * k + f ∧
      depth (counts 0 (Lines.ofText last)) = 0 ∧ total (Lines.ofText last) = 0 := by
  obtain ⟨es, text, hopen, htexts, hdepth, htotal⟩ := opening_rounds tree d context hk
  have hnonneg := total_nonneg (Int.le_refl 0) hdepth
  have hleft : total (Lines.ofText text) = ((k + f).toNat : Int) := by omega
  obtain ⟨fs, last, hclose, htexts', hdepth', htotal'⟩ := closing_rounds tree d context hdepth hleft
  have hadded : (es ++ fs).map Edit.text =
      List.replicate k (some "  \x7b") ++ List.replicate (k + f).toNat (some "\x7d") := by
    rw [List.map_append, htexts, htexts']
  have hlen := congrArg List.length hadded
  rw [List.length_map, List.length_append, List.length_append, List.length_replicate,
    List.length_replicate] at hlen
  refine ⟨es ++ fs, last, hopen.trans hclose, hadded, ?_, hdepth', htotal'⟩
  rw [List.length_append]
  omega

/-- What becomes of a text is told by the counts at the ends of its lines, `k` being how far they
fall below zero and `f` the last of them. The repair declines when both are zero. While a count is
negative it adds an opening brace, and then a closing one, so that `2 * k + f` rounds lead to a text
that is balanced, and out of which the added lines can be taken again. -/
theorem balances (tree : FileTree) (d : Diagnostic) (context : Option Context)
    (content : String) :
    let ls := Lines.ofText content
    let k := depth (counts 0 ls)
    let f := total ls
    (counts 0 ls).getLast? = some f ∧
    (Declines brackets tree d context content ↔ k = 0 ∧ f = 0) ∧
    (0 < k → ∃ text e,
      brackets.attempt tree d content context =
          .ok (.fixed text "Added missing opening brace" [e]) ∧
        Opened content text e ∧
        (text.toList.getLast? = some '\n' ↔ content.toList.getLast? = some '\n')) ∧
    (k = 0 → f ≠ 0 → ∃ text e,
      brackets.attempt tree d content context =
          .ok (.fixed text "Added missing closing brace" [e]) ∧
        Closed content text e ∧
        (text.toList.getLast? = some '\n' ↔ content.toList.getLast? = some '\n')) ∧
    ∃ es last,
      Rounds brackets tree d context content (es.map fun e => [e]) last ∧
        (es.length : Int) = 2 * k + f ∧
        es.map Edit.text =
          List.replicate k (some "  \x7b") ++ List.replicate (k + f).toNat (some "\x7d") ∧
        Declines brackets tree d context last ∧
        total (Lines.ofText last) = 0 ∧ (∀ c ∈ counts 0 (Lines.ofText last), 0 ≤ c) ∧
        takeOutAll? es (Lines.ofText last) = some ls := by
  intro ls k f
  refine ⟨?_, declines_iff, ?_, ?_, ?_⟩
  · rw [getLast?_counts 0 (Lines.ofText_ne_nil content), Int.zero_add]
  · intro hk
    obtain ⟨text, e, hattempt, hopened⟩ := attempt_opening hk
    exact ⟨text, e, attempt_brackets hattempt, hopened, hopened.ends_iff⟩
  · intro hk hf
    have hnonneg : 0 ≤ 0 + f := total_nonneg (Int.le_refl 0) hk
    have hpos : 0 < f := by omega
    obtain ⟨text, e, hattempt, hclosed⟩ := attempt_closing hk hpos
    exact ⟨text, e, attempt_brackets hattempt, hclosed, hclosed.ends_iff⟩
  · obtain ⟨es, last, hinserts, hadded, hlen, hdepth, htotal⟩ := all_rounds tree d context rfl rfl
    exact ⟨es, last, hinserts.1, hlen, hadded, declines_iff.2 ⟨hdepth, htotal⟩, htotal,
      depth_eq_zero_iff.1 hdepth, hinserts.2⟩

theorem balances_three :
    let content := "\x7d\x7d\n\x7b\n"
    let d : Diagnostic := ⟨.known .grammar, some "Missing bracket", "a.js", 1, .low, 1, ""⟩
    counts 0 (Lines.ofText content) = [-2, -1, -1] ∧
      ∃ es last, Rounds brackets .empty d none content (es.map fun e => [e]) last ∧
        es.length = 3 ∧
        es.map Edit.text = [some "  \x7b", some "  \x7b", some "\x7d"] ∧
        takeOutAll? es (Lines.ofText last) = some (Lines.ofText content) := by
  intro content d
  obtain ⟨-, -, -, -, es, last, hrounds, hlen, htexts, -, -, -, htake⟩ :=
    balances .empty d none content
  have hdepth : depth (counts 0 (Lines.ofText content)) = 2 := by decide
  have htotal : total (Lines.ofText content) = -1 := by decide
  rw [hdepth, htotal] at hlen htexts
  exact ⟨by decide, es, last, hrounds, Int.ofNat.inj hlen, htexts, htake⟩

end

end Mend.Strategy.Brackets
