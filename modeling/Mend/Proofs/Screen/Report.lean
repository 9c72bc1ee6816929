import Mend.Proofs.Screen.Markup
import Mend.Proofs.Screen.Panel
import Mend.Screen.View

namespace Mend

open Text

namespace Decimal

open Markup (Fixed fixed_digits)

theorem isDigit_ofNat {c : Char} {n : Nat} (h : c ∈ ofNat n) : c.isDigit = true :=
  Nat.isDigit_of_mem_toDigits (by decide) (by decide) h

theorem fixed_signed {cs : List Char} (h : Fixed cs) (negative : Bool) :
    Fixed (signed negative cs) := by
  cases negative with
  | false => exact h
  | true => exact Fixed.append (p := ['-']) (by decide) h

theorem fixed_ofInt (n : Int) : Fixed (ofInt n) := by
  have hdigits : Fixed (ofNat n.natAbs) := fixed_digits fun c => isDigit_ofNat
  unfold ofInt
  split
  · exact fixed_signed hdigits true
  · exact hdigits

theorem fixed_fixedText (places : Nat) (x : Binary64) : Fixed (fixedText places x).toList := by
  unfold fixedText special
  split
  · decide
  · rw [String.toList_ofList]
    exact fixed_signed (by decide) _
  · rename_i s u
    rw [String.toList_ofList]
    apply fixed_signed
    have hdigits (cs : List Char) (h : cs ⊆ zeros (places + 1 - (ofNat (scaled places u)).length) ++
        ofNat (scaled places u)) : Fixed cs := by
      apply fixed_digits
      intro c hc
      rcases List.mem_append.1 (h hc) with hc | hc
      · rw [List.eq_of_mem_replicate hc]
        rfl
      · exact isDigit_ofNat hc
    exact (hdigits _ (List.take_subset ..)).append (Fixed.append (p := ['.'])
      (by decide) (hdigits _ (List.drop_subset ..)))

end Decimal

namespace View

open Markup (Firm Fixed printed Slashed styleNames)

theorem exists_price {cost : Number} (h : cost.toReal? ≠ none) :
    ∃ s, Price.text cost = some s ∧ Fixed s.toList := by
  obtain ⟨x, hx⟩ := Option.ne_none_iff_exists'.1 h
  unfold Price.text
  split
  · exact ⟨_, rfl, by decide⟩
  · refine ⟨_, by rw [hx]; rfl, ?_⟩
    rw [String.toList_append]
    exact Fixed.append (by decide) (Decimal.fixed_fixedText 3 x)

theorem fixed_intText (n : Int) : Fixed (intText n).toList := by
  rw [intText, Number.text, String.toList_ofList]
  exact Decimal.fixed_ofInt n

section
variable {name s p : String} {cs : List Char}

theorem toList_escaped (s : String) : (Markup.escaped s).toList = Markup.escape s.toList :=
  String.toList_ofList

theorem escaped_fixed (hp : Fixed p.toList) : Markup.escaped p = p := by
  rw [Markup.escaped, hp.escape, String.ofList_toList]

theorem firm_styled (h : name ∈ styleNames) (hs : Legible s.toList) (hp : Fixed p.toList) :
    Firm (styled name (Markup.escaped s ++ p)).toList := by
  have hfirm := Markup.firm_styled h hs hp
  simpa [styled, toList_escaped] using hfirm

theorem firm_label (h : name ∈ styleNames) (hp : Fixed p.toList) : Firm (styled name p).toList := by
  have hfirm := Markup.firm_styled h legible_nil hp
  simpa [styled, Markup.escape, Markup.tokens, Markup.closed] using hfirm

theorem firm_escaped (h : name ∈ styleNames) (hs : Legible s.toList) :
    Firm (styled name (Markup.escaped s)).toList := by
  have hfirm := firm_styled (p := "") h hs (by decide)
  rwa [String.append_empty] at hfirm

theorem firm_append {a b : String} (ha : Firm a.toList) (hb : Firm b.toList) : Firm (a ++ b).toList := by
  rw [String.toList_append]
  exact ha.append hb

/-- Markup that ends with a text from elsewhere. -/
structure Ends (markup : String) (cs : List Char) : Prop where
  legible : Legible cs
  firm : ∃ w, Firm w ∧ markup.toList = w ++ Markup.escape cs

theorem Ends.ofFirm (h : Firm s.toList) : Ends s [] where
  legible := legible_nil
  firm := ⟨s.toList, h, (List.append_nil _).symm⟩

theorem Ends.ofText (h : Firm p.toList) (hs : Legible s.toList) :
    Ends (p ++ Markup.escaped s) s.toList where
  legible := hs
  firm := ⟨p.toList, h, by rw [String.toList_append, toList_escaped]⟩

theorem Ends.exists_readText {markup : String} (h : Ends markup cs) : ∃ t lead,
    readText markup = .ok t ∧ Legible t.text ∧ t.All (·.link = none) ∧
      t.text = lead ++ printed cs := by
  obtain ⟨w, hw, hmarkup⟩ := h.firm
  obtain ⟨lead, m, hlead, hread, htext, hmarks⟩ := hw.exists_read h.legible
  obtain ⟨t, hstyled, heq, hlinks⟩ := Markup.Marked.exists_styled hmarks
  rw [← heq] at htext
  refine ⟨t, lead, ?_, ?_, hlinks, htext⟩
  · rw [readText, marked, hmarkup, hread]
    show styledText m = _
    rw [styledText, hstyled]
    rfl
  · rw [htext]
    exact legible_append.2 ⟨hlead, Markup.legible_printed h.legible⟩

end

section
variable {t : StyledText} {w : Nat} {cs : List Char}

def Seen (w : Nat) (ls : List Runs) : Prop := ∀ l ∈ ls, Runs.Clear l ∧ Runs.width l ≤ w

theorem seen_wrap (hw : 3 ≤ w) (h : Legible t.text) (hlinks : t.All (·.link = none)) :
    Seen w ((t.wrap .fold w).map (·.runs)) ∧
      ink (((t.wrap .fold w).map (·.runs)).flatMap Runs.plain) = ink t.text := by
  obtain ⟨hlines, hink⟩ := StyledText.wrap_shows hw h
  have hall := hlinks.wrap .fold w
  constructor
  · intro l hl
    obtain ⟨line, hline, rfl⟩ := List.mem_map.1 hl
    obtain ⟨hwidth, hprint⟩ := hlines line hline
    have hclear := Runs.clear_runs (hall line hline) hprint
    refine ⟨hclear, Nat.le_trans (Runs.width_le hclear.joiner) ?_⟩
    rwa [StyledText.plain_runs]
  · rw [List.flatMap_map, List.flatMap_def, ink_flatten, List.map_map, ← hink]
    congr 1
    apply List.map_congr_left
    intro l _
    rw [Function.comp, StyledText.plain_runs]

theorem Ends.exists_lines {markup : String} (h : Ends markup cs) (hw : 3 ≤ w) : ∃ ls lead,
    Item.lines w (.text markup) = .ok ls ∧ Seen w ls ∧
      ink (ls.flatMap Runs.plain) = lead ++ ink (printed cs) := by
  obtain ⟨t, lead, hread, hlegible, hlinks, htext⟩ := h.exists_readText
  obtain ⟨hseen, hink⟩ := seen_wrap hw hlegible hlinks
  refine ⟨_, ink lead, ?_, hseen, ?_⟩
  · rw [Item.lines, hread]
    rfl
  · rw [hink, htext, ink_append]

theorem exists_lines_framed {s : String} (hs : Legible s.toList)
    (hw : Panel.frameWidth + 3 ≤ w) : ∃ ls,
    Item.lines w (.framed (Markup.escaped s)) = .ok ls ∧ Seen w ls ∧
      (∀ l ∈ ls, Runs.width l = w) ∧
      ink (Panel.inside (ls.map Runs.plain)).flatten = ink (printed s.toList) := by
  obtain ⟨m, hread, hm, hmarks⟩ := Markup.exists_read_escape hs
  obtain ⟨t, hstyled, htext, hlinks⟩ := Markup.Marked.exists_styled hmarks
  rw [hm] at htext
  have hlegible : Legible t.text := by
    rw [htext]
    exact Markup.legible_printed hs
  have hroom : 3 ≤ w - Panel.frameWidth := Nat.le_sub_of_add_le (by rwa [Nat.add_comm])
  have hframe : Panel.frameWidth ≤ w := Nat.le_trans (Nat.le_add_right ..) hw
  obtain ⟨hseen, hink⟩ := seen_wrap hroom hlegible hlinks
  have hwidth : ∀ l ∈ Panel.frame (.ofAttribute .dim) w none _, Runs.width l = w :=
    Panel.width_frame hframe fun l hl => (hseen l hl).2
  have hclear : ∀ l ∈ Panel.frame (.ofAttribute .dim) w none _, Runs.Clear l :=
    Panel.clear_frame rfl (by rintro t ⟨⟩) hseen
  refine ⟨_, ?_, fun l hl => ⟨hclear l hl, Nat.le_of_eq (hwidth l hl)⟩, hwidth, ?_⟩
  · rw [Item.lines, readText, marked, toList_escaped, hread]
    show (styledText m).bind _ = _
    rw [styledText, hstyled]
    rfl
  · rw [Panel.inside_map fun l _ => rfl, Runs.ink_padded fun l hl => (hseen l hl).2, hink, htext]

end

def optional (r : Report) : List (Option String) :=
  [r.fixType, r.method, r.fix, r.description, r.explanation, r.reason, r.suggestion]

/-- The texts that a panel may show are legible. -/
structure Readable (d : Diagnostic) (r : Report) : Prop where
  file : Legible d.file.toList
  bucket : Legible d.bucket.name.toList
  message : ∀ s ∈ d.message, Legible s.toList
  optional : ∀ s, some s ∈ optional r → Legible s.toList
  edits : ∀ e ∈ r.edits, ∀ s, some s ∈ [e.description, e.text, e.newCode] → Legible s.toList
  warnings : ∀ s ∈ r.warnings, Legible s.toList
  hints : ∀ h ∈ r.hints, Legible h.description.toList
  model : ∀ p ∈ r.provenance, Legible p.model.toList

structure InRange (r : Report) : Prop where
  confidence : r.confidence.toReal? ≠ none
  cost : ∀ p ∈ r.provenance, p.cost.toReal? ≠ none

def Item.Told (i : Item) : Prop := ∃ markup cs, i = .text markup ∧ Ends markup cs

theorem mem_of_firstFilled {fields : List (Option String)} {s : String}
    (h : firstFilled fields = some s) : some s ∈ fields := by
  obtain ⟨field, hfield, rfl⟩ := List.mem_filterMap.1 (List.mem_of_find?_eq_some h)
  exact hfield

theorem labelled_told {color label s : String} (h : color ∈ styleNames) (hlabel : Fixed label.toList)
    (hs : Legible s.toList) : (labelled color label s).Told := by
  have hblank : Fixed " ".toList := by decide
  exact ⟨_, _, rfl, Ends.ofText (firm_append (firm_label h hlabel) hblank.firm) hs⟩

section
variable {d : Diagnostic} {r : Report} {m : String} {is : List Item}

theorem Readable.filled (h : Readable d r) {fields : List (Option String)} {s : String}
    (hfields : fields ⊆ View.optional r) (hs : firstFilled fields = some s) : Legible s.toList :=
  h.optional s (hfields (mem_of_firstFilled hs))

theorem Readable.filledOr (h : Readable d r) {fields : List (Option String)} {other : String}
    (hfields : fields ⊆ View.optional r) (hother : Fixed other.toList) :
    Legible ((firstFilled fields).getD other).toList := by
  cases hs : firstFilled fields with
  | none => exact hother.legible
  | some s => exact h.filled hfields hs

theorem Readable.location (h : Readable d r) : Legible d.location.toList := by
  unfold Diagnostic.location
  split
  · exact h.file
  · have hcolon : Fixed ":".toList := by decide
    rw [String.toList_append, String.toList_append]
    exact legible_append.2 ⟨legible_append.2 ⟨h.file, hcolon.legible⟩, (fixed_intText d.line).legible⟩

theorem Readable.exists_headline (h : Readable d r) (hm : d.message = some m) :
    ∃ markup, headline d = .ok (.text markup) ∧ Ends markup m.toList := by
  have hplace : Legible (if d.location = "" then "<unknown>" else d.location).toList := by
    split
    · decide
    · exact h.location
  have hdim : Firm (styled "dim" (Markup.escaped _)).toList := firm_escaped (by decide) hplace
  have hblanks : Fixed "  ".toList := by decide
  unfold headline
  rw [hm]
  exact ⟨_, rfl, Ends.ofText (firm_append hdim hblanks.firm) (h.message m hm)⟩

theorem Readable.exists_successItems (h : Readable d r) (hr : InRange r) :
    ∃ is, successItems r = .ok is ∧ ∀ i ∈ is, i.Told := by
  obtain ⟨x, hx⟩ := Option.ne_none_iff_exists'.1 hr.confidence
  have hmethod : Legible ((firstFilled [r.method]).getD Report.byTemplate).toList :=
    h.filledOr (by simp [View.optional]) (by decide)
  have hgreen : Firm (styled "green" "Fixed").toList :=
    firm_label (by decide) (by decide)
  have hvia : Fixed " via ".toList := by decide
  have hbold : Firm (styled "bold" (Markup.escaped _)).toList := firm_escaped (by decide) hmethod
  have hblank : Fixed " ".toList := by decide
  have hdim : Firm (styled "dim" ("(confidence " ++ Decimal.fixedText 2 x ++ ")")).toList := by
    refine firm_label (by decide) ?_
    rw [String.toList_append, String.toList_append]
    exact (Fixed.append (by decide) (Decimal.fixed_fixedText 2 x)).append (by decide)
  have hline := firm_append (firm_append (firm_append (firm_append hgreen hvia.firm) hbold)
    hblank.firm) hdim
  unfold successItems fixed
  rw [hx]
  refine ⟨_, rfl, List.forall_mem_cons.2 ⟨⟨_, _, rfl, Ends.ofFirm hline⟩, ?_⟩⟩
  intro i hi
  obtain ⟨s, hs, rfl⟩ := Option.map_eq_some_iff.1 (Option.mem_toList.1 hi)
  have hsummary := h.filled (by simp [View.optional]) hs
  exact ⟨_, _, rfl, Ends.ofFirm (firm_escaped (by decide) hsummary)⟩

theorem Readable.failureItems_told (h : Readable d r) : ∀ i ∈ failureItems r, i.Told := by
  have hreason : Legible ((firstFilled [r.reason]).getD "unknown").toList :=
    h.filledOr (by simp [View.optional]) (by decide)
  intro i hi
  rw [failureItems, List.cons_append, List.mem_cons, List.mem_append, Option.mem_toList,
    Option.map_eq_some_iff, List.mem_map] at hi
  rcases hi with rfl | ⟨s, hs, rfl⟩ | ⟨hint, hhint, rfl⟩
  · exact labelled_told (by decide) (by decide) hreason
  · have hsuggestion := h.filled (by simp [View.optional]) hs
    exact labelled_told (by decide) (by decide) hsuggestion
  · exact labelled_told (by decide) (by decide) (h.hints hint hhint)

theorem fixed_spanText (e : Edit) : Fixed (spanText e).toList := by
  have hline : Fixed "line ".toList := by decide
  have hlines : Fixed "lines ".toList := by decide
  have hto : Fixed "-".toList := by decide
  unfold spanText
  split
  · decide
  · rename_i a b _
    split
    · rw [String.toList_append]
      exact hline.append (fixed_intText a)
    · rw [String.toList_append, String.toList_append, String.toList_append]
      exact ((hlines.append (fixed_intText a)).append hto).append (fixed_intText b)

theorem exists_intercalate {sep : String} {parts : List String} (hsep : Fixed sep.toList)
    (hparts : ∀ p ∈ parts, Fixed p.toList) (s : String) : ∃ p, Fixed p.toList ∧
    sep.intercalate ((parts ++ [s]).map Markup.escaped) = p ++ Markup.escaped s := by
  induction parts with
  | nil => exact ⟨"", by decide, String.empty_append.symm⟩
  | cons part parts ih =>
    obtain ⟨hpart, hparts⟩ := List.forall_mem_cons.1 hparts
    obtain ⟨p, hp, heq⟩ := ih hparts
    refine ⟨part ++ sep ++ p, ?_, ?_⟩
    · rw [String.toList_append, String.toList_append]
      exact (hpart.append hsep).append hp
    · cases hmore : parts ++ [s] with
      | nil => exact absurd hmore (List.append_ne_nil_of_right_ne_nil _ (List.cons_ne_nil s []))
      | cons q qs =>
        rw [hmore, List.map_cons] at heq
        rw [List.cons_append, hmore, List.map_cons, List.map_cons, String.intercalate_cons_cons, heq,
          escaped_fixed hpart]
        exact String.append_assoc.symm

theorem exists_editText (e : Edit) : ∃ p, Fixed p.toList ∧ editText e = p ++ Markup.escaped
    (((firstFilled [e.description, e.text, e.newCode]).map firstLine).getD "") := by
  have hkind : Fixed e.kind.name.toList := by
    cases e.kind <;> decide
  have hdot : Fixed " · ".toList := by decide +kernel
  have hparts : ∀ p ∈ [e.kind.name, spanText e].filter (· != ""), Fixed p.toList := by
    intro p hp
    have hmem := (List.mem_filter.1 hp).1
    rw [List.mem_cons, List.mem_singleton] at hmem
    rcases hmem with rfl | rfl
    · exact hkind
    · exact fixed_spanText e
  unfold editText
  generalize ((firstFilled [e.description, e.text, e.newCode]).map firstLine).getD "" = detail
  have hsplit : [e.kind.name, spanText e, detail].filter (· != "") =
      [e.kind.name, spanText e].filter (· != "") ++ [detail].filter (· != "") :=
    List.filter_append [e.kind.name, spanText e] [detail]
  dsimp only
  rw [hsplit]
  generalize [e.kind.name, spanText e].filter (· != "") = parts at hparts ⊢
  by_cases hdetail : detail = ""
  · rw [hdetail, show [""].filter (· != "") = [] from rfl, List.append_nil]
    rcases List.eq_nil_or_concat parts with rfl | ⟨parts, last, rfl⟩
    · exact ⟨"", by decide, rfl⟩
    · rw [List.concat_eq_append] at hparts ⊢
      obtain ⟨hparts, hlast⟩ := List.forall_mem_append.1 hparts
      have hlast : Fixed last.toList := hlast last (List.mem_singleton_self last)
      obtain ⟨p, hp, heq⟩ := exists_intercalate hdot hparts last
      rw [escaped_fixed hlast] at heq
      refine ⟨p ++ last, ?_, heq.trans String.append_empty.symm⟩
      rw [String.toList_append]
      exact hp.append hlast
  · rw [List.filter_cons_of_pos (by simpa using hdetail), List.filter_nil]
    exact exists_intercalate hdot hparts detail

theorem Readable.editItem_told (h : Readable d r) {e : Edit} (he : e ∈ r.edits) :
    (editItem e).Told := by
  obtain ⟨p, hp, htext⟩ := exists_editText e
  have hdetail : Legible
      (((firstFilled [e.description, e.text, e.newCode]).map firstLine).getD "").toList := by
    cases hs : firstFilled [e.description, e.text, e.newCode] with
    | none => exact legible_nil
    | some s =>
      have hlegible := h.edits e he s (mem_of_firstFilled hs)
      refine hlegible.of_subset ?_
      rw [Option.map_some, Option.getD_some, firstLine, String.toList_ofList]
      exact List.takeWhile_subset _
  have hblanks : Fixed "  ".toList := by decide
  have hdash : Firm (styled "dim" "-").toList :=
    firm_label (by decide) (by decide)
  have hblank : Fixed " ".toList := by decide
  have hfirm := firm_append (firm_append (firm_append hblanks.firm hdash) hblank.firm) hp.firm
  have hends := Ends.ofText hfirm hdetail
  rw [String.append_assoc, ← htext] at hends
  exact ⟨_, _, rfl, hends⟩

theorem Readable.exists_costItems (h : Readable d r) (hr : InRange r) :
    ∃ is, costItems r = .ok is ∧ ∀ i ∈ is, i.Told := by
  unfold costItems
  split
  · exact ⟨[], rfl, List.forall_mem_nil _⟩
  · rename_i p hp
    split
    · obtain ⟨cost, hcost, hfixed⟩ := exists_price (hr.cost p hp)
      have hblanks : Fixed "  ".toList := by decide
      have htokens : Fixed " tokens, est. ".toList := by decide
      have hrest : Fixed ("  " ++ (intText (p.inputTokens + p.outputTokens) ++
          (" tokens, est. " ++ cost))).toList := by
        rw [String.toList_append, String.toList_append, String.toList_append]
        exact hblanks.append ((fixed_intText _).append (htokens.append hfixed))
      have hfirm : Firm (styled "dim" _).toList := firm_styled (by decide) (h.model p hp) hrest
      rw [hcost]
      refine ⟨_, rfl, List.forall_mem_singleton.2 ⟨_, _, rfl, Ends.ofFirm ?_⟩⟩
      simpa only [String.append_assoc] using hfirm
    · exact ⟨[], rfl, List.forall_mem_nil _⟩

theorem Readable.exists_items (h : Readable d r) (hm : d.message = some m) (hr : InRange r)
    (showCost : Bool) : ∃ markup is,
    items d r true showCost = .ok (.text markup :: is ++ fixItems r) ∧
      Ends markup m.toList ∧ ∀ i ∈ is, i.Told := by
  obtain ⟨markup, hhead, hends⟩ := h.exists_headline hm
  obtain ⟨outcome, houtcome, houtcomeTold⟩ :
      ∃ is, outcomeItems r = .ok is ∧ ∀ i ∈ is, i.Told := by
    unfold outcomeItems
    split
    · exact h.exists_successItems hr
    · exact ⟨_, rfl, h.failureItems_told⟩
  obtain ⟨cost, hcost, hcostTold⟩ :
      ∃ is, (if showCost then costItems r else .ok []) = .ok is ∧ ∀ i ∈ is, i.Told := by
    split
    · exact h.exists_costItems hr
    · exact ⟨[], rfl, List.forall_mem_nil _⟩
  refine ⟨markup, outcome ++ r.edits.map editItem ++ r.warnings.map (labelled "yellow" "Warning:") ++
    cost, ?_, hends, ?_⟩
  · have hitems : items d r true showCost = (headline d).bind fun head =>
        (outcomeItems r).bind fun outcome =>
          (if showCost then costItems r else .ok []).bind fun cost =>
            .ok (head :: outcome ++ r.edits.map editItem ++
              r.warnings.map (labelled "yellow" "Warning:") ++ cost ++ fixItems r) := by
      cases showCost <;> rfl
    rw [hitems, hhead, houtcome, hcost]
    rfl
  · simp only [List.forall_mem_append, List.forall_mem_map]
    refine ⟨⟨⟨houtcomeTold, fun e he => h.editItem_told he⟩, fun s hs => ?_⟩, hcostTold⟩
    exact labelled_told (by decide) (by decide) (h.warnings s hs)

theorem Readable.exists_fixLines (h : Readable d r) {w : Nat} (hw : Panel.frameWidth + 3 ≤ w) :
    ∃ lss, (fixItems r).mapM (Item.lines w) = .ok lss ∧ Seen w lss.flatten ∧
      (∀ l ∈ lss.flatten, Runs.width l = w) ∧
      ink (Panel.inside (lss.flatten.map Runs.plain)).flatten =
        ink (printed (r.fix.getD "").toList) := by
  by_cases hempty : r.fix.getD "" = ""
  · have hitems : fixItems r = [] := by
      cases hfix : r.fix with
      | none => simp [fixItems, firstFilled, hfix]
      | some s =>
        rw [hfix, Option.getD_some] at hempty
        simp [fixItems, firstFilled, hfix, hempty]
    rw [hitems, hempty]
    exact ⟨[], rfl, List.forall_mem_nil _, List.forall_mem_nil _, rfl⟩
  · obtain ⟨s, hfix⟩ : ∃ s, r.fix = some s := by
      cases hfix : r.fix with
      | none => exact absurd (by rw [hfix]; rfl) hempty
      | some s => exact ⟨s, rfl⟩
    rw [hfix, Option.getD_some] at hempty
    have hitems : fixItems r = [.framed (Markup.escaped s)] := by
      simp [fixItems, firstFilled, hfix, hempty]
    have hs : Legible s.toList := h.optional s (by simp [View.optional, hfix])
    obtain ⟨ls, hls, hseen, hwidth, hink⟩ := exists_lines_framed hs hw
    have hflatten : [ls].flatten = ls := by simp
    refine ⟨[ls], ?_, ?_⟩
    · rw [hitems, List.mapM_cons, hls]
      rfl
    · rw [hflatten, hfix]
      exact ⟨hseen, hwidth, hink⟩

theorem exists_mapM {is : List Item} (h : ∀ i ∈ is, i.Told) {w : Nat} (hw : 3 ≤ w) :
    ∃ lss, is.mapM (Item.lines w) = .ok lss ∧ Seen w lss.flatten := by
  induction is with
  | nil => exact ⟨[], rfl, List.forall_mem_nil _⟩
  | cons i is ih =>
    obtain ⟨⟨markup, cs, rfl, hends⟩, his⟩ := List.forall_mem_cons.1 h
    obtain ⟨ls, -, hls, hseen, -⟩ := hends.exists_lines hw
    obtain ⟨lss, hlss, hseens⟩ := ih his
    refine ⟨ls :: lss, ?_, List.forall_mem_append.2 ⟨hseen, hseens⟩⟩
    rw [List.mapM_cons, hls, hlss]
    rfl

theorem Readable.exists_title (h : Readable d r) : ∃ t, readText (title d r) = .ok t ∧
    Legible t.text ∧ t.All (·.link = none) := by
  have htitle : Legible ((firstFilled [r.fixType]).getD d.bucket.name).toList := by
    cases hs : firstFilled [r.fixType] with
    | none => exact h.bucket
    | some s => exact h.filled (by simp [View.optional]) hs
  have hends : Ends (title d r) [] := Ends.ofFirm (firm_escaped (by decide) htitle)
  obtain ⟨t, -, hread, hlegible, hlinks, -⟩ := hends.exists_readText
  exact ⟨t, hread, hlegible, hlinks⟩

abbrev room : Nat := Panel.screenWidth - Panel.frameWidth

theorem report_of_lines {showCost : Bool} {parts : List Item} {lss : List (List Runs)}
    {t : StyledText} (hparts : items d r true showCost = .ok parts)
    (hlines : parts.mapM (Item.lines room) = .ok lss)
    (htitle : readText (title d r) = .ok t) : report d r true showCost =
      .ok (Runs.text Panel.screenWidth (Panel.frame (.ofColor (borderColor r)) Panel.screenWidth
        (some t) lss.flatten)) := by
  have hreport : report d r true showCost = (items d r true showCost).bind fun parts =>
      (parts.mapM (Item.lines room)).bind fun lss =>
        (readText (title d r)).bind fun t => .ok (Runs.text Panel.screenWidth
          (Panel.frame (.ofColor (borderColor r)) Panel.screenWidth (some t) lss.flatten)) := rfl
  rw [hreport, hparts, Except.bind, hlines, htitle]
  rfl

/-- A panel is drawn whatever its texts say. The message closes its first lines and the repaired text
is all that stands in the frame in its last ones. Either is shown whole unless a backslash in it stands
before a bracket that begins no tag. -/
theorem report_shows (h : Readable d r) (hm : d.message = some m) (hr : InRange r)
    (showCost : Bool) : ∃ out head body tail lead, report d r true showCost = .ok out ∧
      Panel.inside (Runs.seen out) = head ++ body ++ tail ∧
      ink head.flatten = lead ++ ink (printed m.toList) ∧
      ink (Panel.inside tail).flatten = ink (printed (r.fix.getD "").toList) ∧
      ((ink m.toList).Sublist (ink (printed m.toList)) ↔ ¬ Slashed m.toList) ∧
      ((ink (r.fix.getD "").toList).Sublist (ink (Panel.inside tail).flatten) ↔
        ¬ Slashed (r.fix.getD "").toList) ∧
      (¬ Slashed m.toList → ¬ Slashed (r.fix.getD "").toList →
        (ink m.toList ++ ink (r.fix.getD "").toList).Sublist
          (ink (Panel.inside (Runs.seen out)).flatten)) := by
  obtain ⟨markup, is, hitems, hends, htold⟩ := h.exists_items hm hr showCost
  have hw : Panel.frameWidth + 3 ≤ room := by decide
  have hw' : 3 ≤ room := by decide
  obtain ⟨head, lead, hhead, hheadSeen, hheadInk⟩ := hends.exists_lines hw'
  obtain ⟨body, hbody, hbodySeen⟩ := exists_mapM htold hw'
  obtain ⟨tail, htail, htailSeen, hwidth, htailInk⟩ := h.exists_fixLines hw
  obtain ⟨t, htitle, hlegible, hlinks⟩ := h.exists_title
  have hlines : (Item.text markup :: is ++ fixItems r).mapM (Item.lines room) =
      .ok (head :: body ++ tail) := by
    rw [List.mapM_append, List.mapM_cons, hhead, hbody, htail]
    rfl
  have hdrawn := report_of_lines hitems hlines htitle
  rw [List.flatten_append, List.flatten_cons] at hdrawn
  have hseen : Seen room (head ++ body.flatten ++ tail.flatten) :=
    List.forall_mem_append.2 ⟨List.forall_mem_append.2 ⟨hheadSeen, hbodySeen⟩, htailSeen⟩
  have hinside : Panel.inside (Runs.seen (Runs.text Panel.screenWidth (Panel.frame
      (.ofColor (borderColor r)) Panel.screenWidth (some t) _))) = List.map (Runs.padded room) _ :=
    Panel.inside_seen (by decide) rfl (fun u hu => Option.some.inj hu ▸ ⟨hlegible, hlinks⟩) hseen
  -- the inner frame is as wide as the panel inside, so its lines are seen without blanks behind them
  rw [List.map_append, List.map_append, Runs.map_padded hwidth] at hinside
  rw [← Runs.ink_padded fun l hl => (hheadSeen l hl).2] at hheadInk
  have hmessage := Markup.ink_sublist_printed_iff m.toList
  have hfix := Markup.ink_sublist_printed_iff (r.fix.getD "").toList
  refine ⟨_, _, _, _, lead, hdrawn, hinside, hheadInk, htailInk, hmessage, ?_, ?_⟩
  · rw [htailInk]
    exact hfix
  · intro hm hf
    have hhead : (ink m.toList).Sublist (ink (head.map (Runs.padded room)).flatten) := by
      rw [hheadInk]
      exact (hmessage.2 hm).trans (List.sublist_append_right ..)
    have htail : (ink (r.fix.getD "").toList).Sublist
        (ink (tail.flatten.map Runs.plain).flatten) := by
      refine List.Sublist.trans ?_ ((Panel.inside_sublist _).filter _)
      rw [← ink, htailInk]
      exact hfix.2 hf
    rw [hinside, List.flatten_append, List.flatten_append, ink_append, ink_append]
    exact (hhead.trans (List.sublist_append_left ..)).append htail

theorem report_shows_regex :
    let d : Diagnostic := ⟨.known .grammar, some "Missing semicolon.", "a.js", 3, .medium, 1, ""⟩
    let r : Report :=
      { success := true, method := some "template", fix := some "/\\[0]/" }
    ∃ out head body tail lead, report d r true true = .ok out ∧
      Panel.inside (Runs.seen out) = head ++ body ++ tail ∧
      ink head.flatten = lead ++ "Missingsemicolon.".toList ∧
      ink (Panel.inside tail).flatten = "/[0]/".toList := by
  intro d r
  have hreadable : Readable d r := by
    refine ⟨by decide, by decide, ?_, ?_, ?_, ?_, ?_, ?_⟩
    · rintro s ⟨⟩
      decide
    · intro s hs
      obtain rfl | rfl : s = "template" ∨ s = "/\\[0]/" := by simpa [View.optional, r] using hs
      · decide
      · decide
    · exact List.forall_mem_nil _
    · exact List.forall_mem_nil _
    · exact List.forall_mem_nil _
    · rintro p ⟨⟩
  have hrange : InRange r := ⟨by decide, by rintro p ⟨⟩⟩
  obtain ⟨out, head, body, tail, lead, hdrawn, hinside, hmessage, hfix, -⟩ :=
    report_shows hreadable rfl hrange true
  refine ⟨out, head, body, tail, lead, hdrawn, hinside, ?_, ?_⟩
  · have hprinted : ink (printed "Missing semicolon.".toList) = "Missingsemicolon.".toList := by
      decide +kernel
    rw [hmessage, hprinted]
  · rw [hfix]
    decide +kernel

end

end View

end Mend
