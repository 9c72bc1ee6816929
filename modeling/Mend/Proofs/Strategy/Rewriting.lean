import Mend.Proofs.Path
import Mend.Proofs.Pattern.Literal
import Mend.Proofs.Strategy.Mentions
import Mend.Proofs.Strategy.Settling

namespace Mend.Strategy.Extension

open Pattern (IsLiteral Piece)

def IsMention (module cs : List Char) : Prop :=
  ∃ q r rest, isQuote q = true ∧ isQuote r = true ∧ cs = q :: (module ++ r :: rest)

inductive Rewritten (module : List Char) (f : List Char → List Char) :
    List Char → List Char → Prop
  | nil : Rewritten module f [] []
  | mention {q r : Char} {rest new : List Char} (hq : isQuote q = true) (hr : isQuote r = true)
    (t : Rewritten module f rest new) :
    Rewritten module f (q :: (module ++ r :: rest)) (f (q :: (module ++ [r])) ++ new)
  | char {c : Char} {cs new : List Char} (h : ¬ IsMention module (c :: cs))
    (t : Rewritten module f cs new) : Rewritten module f (c :: cs) (c :: new)

def change (module : List Char) (ext : String) (i : Nat) (old new : Line) : Edit :=
  { kind := .modify, line := some (i + 1), oldCode := some (.ofList old),
    newCode := some (.ofList new),
    description := s!"Changed '{String.ofList module}' to '{String.ofList module}{ext}'" }

inductive Rewrites (module : List Char) (ext : String) (f : List Char → List Char) :
    Nat → List Line → List Line → List Edit → Prop
  | nil (i : Nat) : Rewrites module ext f i [] [] []
  | same {i : Nat} {line : Line} {ls news : List Line} {es : List Edit}
    (h : Rewritten module f line line) (t : Rewrites module ext f (i + 1) ls news es) :
    Rewrites module ext f i (line :: ls) (line :: news) es
  | changed {i : Nat} {line new : Line} {ls news : List Line} {es : List Edit}
    (h : Rewritten module f line new) (hne : new ≠ line)
    (t : Rewrites module ext f (i + 1) ls news es) :
    Rewrites module ext f i (line :: ls) (new :: news) (change module ext i line new :: es)

/-- The answer when each mention gives way to what `f` makes of it. -/
inductive Answers (module : List Char) (ext : String) (f : List Char → List Char)
    (content : String) : Attempt → Prop
  | fixed {news : List Line} {es : List Edit}
    (h : Rewrites module ext f 0 (Lines.ofText content) news es) (hes : es ≠ []) :
    Answers module ext f content
      (.fixed (Lines.toText news) s!"Added {ext} extension to import" es)
  | declined (h : Rewrites module ext f 0 (Lines.ofText content) (Lines.ofText content) []) :
    Answers module ext f content
      (.decline s!"Could not locate import of '{String.ofList module}'")

def extended (module : List Char) (ext : String) : List Char :=
  '\'' :: (module ++ (ext.toList ++ ['\'']))

/-- The message names a relative module, and the file beside the importing one that bears its name
has the extension. -/
structure Finds (extensions : List String) (tree : FileTree) (d : Diagnostic)
    (context : Option Context) (module : List Char) (ext : String) : Prop where
  named : moduleMessage.name? d.text = some module
  relative : isRelative module = true
  importer : sourceFile d context ≠ ""
  resolved : resolve tree (Path.ofString (sourceFile d context)).parent (.ofList module)
    extensions = .ok (some ext)

section
variable {module cs new new' : List Char} {ext : String} {f : List Char → List Char}
  {pieces : List Piece} {extensions : List String} {tree : FileTree} {d : Diagnostic}
  {context : Option Context}

theorem Rewritten.unique (h : Rewritten module f cs new) (h' : Rewritten module f cs new') :
    new = new' := by
  induction h generalizing new' with
  | nil =>
    cases h' with
    | nil => rfl
  | @mention q r rest new hq hr t ih =>
    generalize hcs : q :: (module ++ r :: rest) = cs at h'
    cases h' with
    | nil => cases hcs
    | @mention q' r' rest' new' _ _ t' =>
      obtain ⟨rfl, hrest⟩ := List.cons.inj hcs
      obtain ⟨rfl, rfl⟩ := List.cons.inj (List.append_cancel_left hrest)
      rw [ih t']
    | char h _ => exact absurd ⟨q, r, rest, hq, hr, hcs.symm⟩ h
  | @char c cs new h t ih =>
    generalize hcs : c :: cs = ds at h'
    cases h' with
    | nil => cases hcs
    | @mention q' r' rest' new' hq hr t' => exact absurd ⟨q', r', rest', hq, hr, hcs⟩ h
    | char _ t' =>
      obtain ⟨rfl, rfl⟩ := List.cons.inj hcs
      rw [ih t']

theorem rewritten_renameAll {fuel : Nat} (hfuel : cs.length ≤ fuel) :
    Rewritten module (Piece.fill pieces) cs (renameAll module pieces fuel cs) := by
  induction fuel generalizing cs with
  | zero =>
    rw [List.eq_nil_of_length_eq_zero (Nat.le_zero.1 hfuel)]
    exact .nil
  | succ fuel ih =>
    cases cs with
    | nil => exact .nil
    | cons c cs =>
      rw [renameAll]
      split
      · rename_i m rest hm
        obtain ⟨q, r, hq, hr, rfl, hcs⟩ := mention?_eq_some_iff.1 hm
        rw [hcs] at hfuel ⊢
        refine .mention hq hr (ih ?_)
        simp only [List.length_cons, List.length_append] at hfuel
        omega
      · rename_i hnone
        refine .char ?_ (ih (Nat.le_of_succ_le_succ hfuel))
        rw [IsMention, ← mention?_isSome_iff, hnone]
        exact Bool.false_ne_true

theorem rewrites_renameLine (module : List Char) (ext : String) (pieces : List Piece) (i : Nat)
    (ls : List Line) :
    Rewrites module ext (Piece.fill pieces) i ls (ls.map (renameLine module pieces))
      (editsFrom module pieces
        s!"Changed '{String.ofList module}' to '{String.ofList module}{ext}'" i ls) := by
  induction ls generalizing i with
  | nil => exact .nil i
  | cons l ls ih =>
    have hline : Rewritten module (Piece.fill pieces) l (renameLine module pieces l) :=
      rewritten_renameAll (Nat.le_refl _)
    rw [editsFrom, List.map_cons]
    split
    · rename_i hsame
      rw [hsame] at hline ⊢
      exact .same hline (ih (i + 1))
    · rename_i hne
      exact .changed hline hne (ih (i + 1))

theorem Rewrites.eq_of_nil {i : Nat} {ls news : List Line}
    (h : Rewrites module ext f i ls news []) : news = ls := by
  generalize hes : [] = es at h
  induction h with
  | nil _ => rfl
  | same _ _ ih => rw [ih hes]
  | changed _ _ _ _ => cases hes

theorem toList_replacement (module : List Char) (ext : String) :
    s!"'{String.ofList module}{ext}'".toList = extended module ext := by
  simp [toString, extended]

theorem Finds.attempt_of_error (h : Finds extensions tree d context module ext)
    {e : Pattern.ReplacementError} (hread : Piece.read (extended module ext) = .error e)
    (content : String) : (extension extensions).attempt tree d content context =
      .error (.replacement e (.ofList (extended module ext))) := by
  have hattempt := attempt_of_resolve h.named h.relative h.importer h.resolved content
  rw [toList_replacement, hread] at hattempt
  rw [← toList_replacement, String.ofList_toList]
  exact hattempt

theorem Finds.attempt_of_ok (h : Finds extensions tree d context module ext)
    (hread : Piece.read (extended module ext) = .ok pieces) (content : String) :
    ∃ a, (extension extensions).attempt tree d content context = .ok a ∧
      Answers module ext (Piece.fill pieces) content a := by
  have hrewrites := rewrites_renameLine module ext pieces 0 (Lines.ofText content)
  have hattempt := attempt_of_resolve h.named h.relative h.importer h.resolved content
  rw [toList_replacement, hread] at hattempt
  dsimp only at hattempt
  split at hattempt
  · rename_i hnone
    rw [List.isEmpty_iff] at hnone
    rw [hnone] at hrewrites
    rw [hrewrites.eq_of_nil] at hrewrites
    exact ⟨_, hattempt, .declined hrewrites⟩
  · rename_i hsome
    rw [List.isEmpty_iff] at hsome
    exact ⟨_, hattempt, .fixed hrewrites hsome⟩

theorem Answers.of_line {line : Line} {a : Attempt} (hline : '\n' ∉ line)
    (hnew : Rewritten module f line new) (h : Answers module ext f (.ofList line) a) :
    (∃ summary es, a = .fixed (.ofList new) summary es) ∨
      new = line ∧ ∃ reason, a = .decline reason := by
  have hls : Lines.ofText (.ofList line) = [line] := by
    rw [Lines.ofText, String.toList_ofList, Lines.split_eq_singleton hline]
  cases h with
  | @fixed news es h hes =>
    rw [hls] at h
    cases h with
    | same hsame t =>
      cases t
      exact absurd rfl hes
    | changed hchanged _ t =>
      cases t
      rw [hchanged.unique hnew]
      exact .inl ⟨_, _, rfl⟩
  | declined h =>
    rw [hls] at h
    cases h with
    | same hsame _ => exact .inr ⟨hnew.unique hsame, _, rfl⟩

theorem Answers.mention_eq {g : List Char → List Char} {q : Char} {a : Attempt}
    (hq : isQuote q = true) (hline : '\n' ∉ module)
    (h : Answers module ext f (.ofList (q :: (module ++ [q]))) a)
    (h' : Answers module ext g (.ofList (q :: (module ++ [q]))) a) :
    f (q :: (module ++ [q])) = g (q :: (module ++ [q])) := by
  have hone : '\n' ∉ q :: (module ++ [q]) := by
    have hne : q ≠ '\n' := by
      rintro rfl
      cases hq
    simp [hline, hne.symm]
  have hrewritten {f : List Char → List Char} :
      Rewritten module f (q :: (module ++ [q])) (f (q :: (module ++ [q])) ++ []) :=
    .mention hq hq .nil
  rw [← List.append_nil (f _), ← List.append_nil (g _)]
  obtain ⟨summary, es, rfl⟩ | ⟨hsame, reason, rfl⟩ := h.of_line hone hrewritten
  · obtain ⟨_, _, heq⟩ | ⟨_, _, heq⟩ := h'.of_line hone hrewritten
    · exact String.ofList_injective (Attempt.fixed.inj heq).1
    · cases heq
  · obtain ⟨_, _, heq⟩ | ⟨hsame', _, _⟩ := h'.of_line hone hrewritten
    · cases heq
    · exact hsame.trans hsame'.symm

/-- Once the module is found, every text is answered if the module with its extension can be read as
a replacement, and none is otherwise. The mentions give way to what is read. This is the module with
its extension in single quotes, for all texts, exactly when no backslash in it marks anything. -/
theorem attempt_rewrites (h : Finds extensions tree d context module ext) :
    (∀ e, Piece.read (extended module ext) = .error e → ∀ content,
      (extension extensions).attempt tree d content context =
        .error (.replacement e (.ofList (extended module ext)))) ∧
    (∀ pieces, Piece.read (extended module ext) = .ok pieces → ∀ content,
      ∃ a, (extension extensions).attempt tree d content context = .ok a ∧
        Answers module ext (Piece.fill pieces) content a) ∧
    ((∀ content, ∃ a, (extension extensions).attempt tree d content context = .ok a ∧
        Answers module ext (fun _ => extended module ext) content a) ↔
      IsLiteral (extended module ext)) := by
  refine ⟨fun e => h.attempt_of_error, fun pieces => h.attempt_of_ok, ?_⟩
  constructor
  · intro hall
    obtain ⟨hline, -⟩ := not_quote_of_mem h.named h.relative
    cases hread : Piece.read (extended module ext) with
    | error e =>
      obtain ⟨a, ha, -⟩ := hall ""
      rw [h.attempt_of_error hread] at ha
      cases ha
    | ok pieces =>
      -- the two kinds of quotes tell a recalled match from the letters of the replacement
      have hfill {q : Char} (hq : isQuote q = true) :
          Piece.fill pieces (q :: (module ++ [q])) = extended module ext := by
        obtain ⟨a, ha, hanswers⟩ := hall (.ofList (q :: (module ++ [q])))
        obtain ⟨a', ha', hanswers'⟩ := h.attempt_of_ok hread (.ofList (q :: (module ++ [q])))
        obtain rfl : a = a' := Except.ok.inj (ha.symm.trans ha')
        exact hanswers'.mention_eq hq hline hanswers
      refine Piece.isLiteral_of_fill_eq hread ?_ ?_ (hfill (q := '\'') rfl) (hfill (q := '"') rfl)
      · simp
      · simp
  · intro hliteral content
    obtain ⟨pieces, hread, hfill⟩ := Piece.exists_read hliteral
    obtain ⟨a, ha, hanswers⟩ := h.attempt_of_ok hread content
    have hconst : Piece.fill pieces = fun _ => extended module ext := funext hfill
    exact ⟨a, ha, hconst ▸ hanswers⟩

theorem resolve_of_file {base : Path} {name : String} {rest : List String} {bytes : ByteArray}
    (h : tree.look (candidate base name ext) = .file bytes) :
    resolve tree base name (ext :: rest) = .ok (some ext) := by
  unfold resolve
  dsimp only
  rw [h]

theorem attempt_rewrites_plain :
    let tree : FileTree := ⟨[(["a.js"], .empty)], [], []⟩
    let d : Diagnostic :=
      ⟨.known .importing, some "Cannot find module './a'", "b", 1, .low, 1, ""⟩
    Finds [".js"] tree d none "./a".toList ".js" ∧
      ∀ content, ∃ a, (extension [".js"]).attempt tree d content none = .ok a ∧
        Answers "./a".toList ".js" (fun _ => "'./a.js'".toList) content a := by
  intro tree d
  have hcandidate : candidate (Path.ofString "b").parent "./a" ".js" = "a.js" := by
    rw [candidate, Path.ofString, Path.ofString, Path.pieces_eq_split, Path.pieces_eq_split]
    decide
  have hlook : tree.look (candidate (Path.ofString "b").parent "./a" ".js") = .file .empty := by
    rw [hcandidate, FileTree.look, Path.pieces_eq_split]
    rfl
  have hfinds : Finds [".js"] tree d none "./a".toList ".js" :=
    ⟨by decide +kernel, by decide, by decide, resolve_of_file hlook⟩
  have hliteral : IsLiteral (extended "./a".toList ".js") := by
    intro a b hsplit
    have hnone : '\\' ∉ extended "./a".toList ".js" := by decide
    exact absurd (hsplit ▸ List.mem_append_right a List.mem_cons_self) hnone
  exact ⟨hfinds, (attempt_rewrites hfinds).2.2.2 hliteral⟩

end

end Mend.Strategy.Extension
