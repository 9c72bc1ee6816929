import Mend.Proofs.Path
import Mend.Proofs.Pattern.Takes
import Mend.Proofs.Strategy.Rewriting

namespace Mend

theorem Capture.exists_between_of_name? {opening : Pattern} {p : CharSet} {cs name : List Char}
    (h : name? ⟨opening, .one p⟩ cs = some name) : ∃ before lead c after,
      cs = before ++ (lead ++ (name ++ c :: after)) ∧
      opening.Takes before lead (name ++ c :: after) ∧ p.has c = true := by
  have hclosed {done rest name : List Char} (h : upTo (.one p) done rest = some name) :
      ∃ taken c after, name = done.reverse ++ taken ∧ rest = taken ++ c :: after ∧
        p.has c = true := by
    induction rest generalizing done with
    | nil => cases h
    | cons d rest ih =>
      rw [upTo] at h
      split at h
      · cases h
      · split at h
        · rename_i hstarts
          cases h
          obtain ⟨k, hspans⟩ := (Pattern.startsAt_iff _ _).1 hstarts
          cases hspans with
          | @one _ c _ after hc => exact ⟨[d], c, after, by simp, rfl, hc⟩
        · obtain ⟨taken, c, after, rfl, rfl, hc⟩ := ih h
          exact ⟨d :: taken, c, after, by simp, rfl, hc⟩
  obtain ⟨k, hplace, hk⟩ := List.exists_of_findSome?_eq_some h
  obtain ⟨before, rest, rfl, rfl⟩ := Cursor.mem_places_none.1 hplace
  obtain ⟨j, hends, hj⟩ := List.exists_of_findSome?_eq_some hk
  have hspans := (Pattern.mem_ends opening _ _).1 hends
  obtain ⟨lead, rest, rfl, rfl⟩ := hspans.exists_takes rfl
  obtain ⟨_, c, after, rfl, hrest, hc⟩ := hclosed hj
  obtain rfl : rest = name ++ c :: after := hrest
  exact ⟨before, lead, c, after, rfl, hspans, hc⟩

namespace Strategy.Extension

def Names (message module : List Char) : Prop :=
  ∃ before words q r after, message = before ++ (words ++ q :: (module ++ r :: after)) ∧
    words.map Text.foldChar = "cannot find module ".toList.map Text.foldChar ∧
    isQuote q = true ∧ isQuote r = true

/-- The file that imports: the one that is reported, or else the one that is known. -/
inductive Importer (d : Diagnostic) : Option Context → String → Prop
  | reported (context : Option Context) (h : d.file ≠ "") : Importer d context d.file
  | known {c : Context} (hnone : d.file = "") (h : c.filePath ≠ "") :
    Importer d (some c) c.filePath

def beside (source : String) (name : List Char) : Path :=
  let directory := (Path.ofString source).parent
  ⟨directory.root, directory.names ++ (Path.ofString (.ofList name)).names⟩

def test (tree : FileTree) (path : String) : Except Fault Bool :=
  match tree.look path with
  | .file _ => .ok true
  | .nameTooLong => .error (.nameTooLong path)
  | .directory => .ok false
  | .missing => .ok false

/-- The paths that are tested one after the other, the first that is not passed over the last. -/
def untilHit (tree : FileTree) : List String → List String
  | [] => []
  | path :: rest =>
    match test tree path with
    | .ok false => path :: untilHit tree rest
    | _ => [path]

/-- The directory of the source holds a file of the module's name with the extension. -/
def Holds (tree : FileTree) (source : String) (module : List Char) (ext : String) : Prop :=
  ∃ bytes, tree.look (beside source (module ++ ext.toList)).text = .file bytes

def IsFirstHeld (tree : FileTree) (source : String) (module : List Char)
    (extensions : List String) (ext : String) : Prop :=
  ∃ before after, extensions = before ++ ext :: after ∧ Holds tree source module ext ∧
    ∀ e ∈ before, ¬ Holds tree source module e

section
variable {extensions : List String} {tree tree' : FileTree} {d : Diagnostic}
  {context : Option Context} {module : List Char} {base : Path} {source ext path : String}

theorem test_eq_true_iff : test tree path = .ok true ↔ ∃ bytes, tree.look path = .file bytes := by
  unfold test
  cases tree.look path <;> simp

theorem isRelative_iff :
    isRelative module = true ↔ ['.', '/'] <+: module ∨ ['.', '.', '/'] <+: module := by
  simp [isRelative]

/-- What a relative module names is looked for in the directory and never elsewhere. -/
theorem candidate_eq (h : isRelative module = true) (source ext : String) :
    candidate (Path.ofString source).parent (.ofList module) ext =
      (beside source (module ++ ext.toList)).text := by
  have hname : String.ofList module ++ ext = .ofList (module ++ ext.toList) := by simp
  have hroot : (Path.ofString (.ofList (module ++ ext.toList))).root = "" := by
    obtain ⟨rest, rfl⟩ | ⟨rest, rfl⟩ := isRelative_iff.1 h
    all_goals simp [Path.ofString, Path.rootOf]
  rw [candidate, hname, Path.join_of_root_eq hroot]
  rfl

theorem resolve_cons (tree : FileTree) (base : Path) (module : List Char) (ext : String)
    (rest : List String) : resolve tree base (.ofList module) (ext :: rest) =
      match test tree (candidate base (.ofList module) ext) with
      | .ok true => .ok (some ext)
      | .ok false => resolve tree base (.ofList module) rest
      | .error f => .error f := by
  conv_lhs => unfold resolve
  unfold test
  dsimp only
  cases tree.look (candidate base (.ofList module) ext) <;> rfl

theorem exists_first_of_resolve
    (h : resolve tree base (.ofList module) extensions = .ok (some ext)) :
    ∃ before after, extensions = before ++ ext :: after ∧
      test tree (candidate base (.ofList module) ext) = .ok true ∧
      ∀ e ∈ before, test tree (candidate base (.ofList module) e) = .ok false := by
  induction extensions with
  | nil => cases h
  | cons e rest ih =>
    rw [resolve_cons] at h
    cases htest : test tree (candidate base (.ofList module) e) with
    | error f =>
      rw [htest] at h
      cases h
    | ok found =>
      rw [htest] at h
      cases found with
      | true =>
        cases h
        exact ⟨[], rest, rfl, htest, List.forall_mem_nil _⟩
      | false =>
        obtain ⟨before, after, rfl, hhit, hmisses⟩ := ih h
        exact ⟨e :: before, after, rfl, hhit, List.forall_mem_cons.2 ⟨htest, hmisses⟩⟩

/-- The search comes to the same end wherever the tests up to the first hit do. -/
theorem resolve_congr
    (h : ∀ path ∈ untilHit tree (extensions.map (candidate base (.ofList module))),
      test tree' path = test tree path) :
    resolve tree' base (.ofList module) extensions = resolve tree base (.ofList module) extensions := by
  induction extensions with
  | nil => rfl
  | cons ext rest ih =>
    rw [List.map_cons, untilHit] at h
    rw [resolve_cons, resolve_cons]
    cases htest : test tree (candidate base (.ofList module) ext) with
    | error f =>
      rw [htest] at h
      rw [h _ List.mem_cons_self, htest]
    | ok found =>
      rw [htest] at h
      cases found with
      | true => rw [h _ List.mem_cons_self, htest]
      | false =>
        obtain ⟨hhead, hrest⟩ := List.forall_mem_cons.1 h
        rw [hhead, htest]
        exact ih hrest

theorem names_of_name? {message : List Char} (h : moduleMessage.name? message = some module) :
    Names message module := by
  obtain ⟨before, lead, r, after, rfl, htakes, hr⟩ := Capture.exists_between_of_name? h
  obtain ⟨words, quoted, rfl, hwords, hquote⟩ := Pattern.takes_seq.1 htakes
  obtain ⟨q, rfl, hq⟩ := Pattern.takes_one.1 hquote
  refine ⟨before, words, q, r, after, by simp, Pattern.takes_phrase.1 hwords, ?_, ?_⟩
  · simpa [CharSet.has, isQuote] using hq
  · simpa [CharSet.has, isQuote] using hr

theorem importer_iff : Importer d context source ↔ sourceFile d context = source ∧ source ≠ "" := by
  constructor
  · rintro (⟨_, h⟩ | ⟨hnone, h⟩)
    · exact ⟨if_neg h, h⟩
    · exact ⟨if_pos hnone, h⟩
  · rintro ⟨rfl, h⟩
    by_cases hfile : d.file = ""
    · rw [sourceFile, if_pos hfile] at h ⊢
      cases context with
      | none => exact absurd rfl h
      | some c => exact .known hfile h
    · rw [sourceFile, if_neg hfile]
      exact .reported context hfile

/-- The paths that an attempt tests: none unless a relative module and a file that imports are
known. -/
def tests (extensions : List String) (tree : FileTree) (d : Diagnostic) (context : Option Context) :
    List String :=
  match moduleMessage.name? d.text with
  | none => []
  | some module =>
    let source := sourceFile d context
    if isRelative module = true ∧ source ≠ "" then
      untilHit tree (extensions.map fun ext => (beside source (module ++ ext.toList)).text)
    else []

theorem attempt_congr
    (h : ∀ path ∈ tests extensions tree d context, test tree' path = test tree path)
    (content : String) :
    attempt extensions tree' d content context = attempt extensions tree d content context := by
  unfold attempt
  cases hmodule : moduleMessage.name? d.text with
  | none => rfl
  | some module =>
    dsimp only
    by_cases hknown : isRelative module = true ∧ sourceFile d context ≠ ""
    · have hpaths : extensions.map (candidate (Path.ofString (sourceFile d context)).parent
            (.ofList module)) =
          extensions.map fun ext => (beside (sourceFile d context) (module ++ ext.toList)).text :=
        List.map_congr_left fun ext _ => candidate_eq hknown.1 _ ext
      rw [tests, hmodule] at h
      dsimp only at h
      rw [if_pos hknown, ← hpaths] at h
      rw [resolve_congr h]
    · have hdeclined : (!isRelative module || decide (sourceFile d context = "")) = true := by
        by_cases hrelative : isRelative module = true
        · simpa [hrelative] using hknown
        · simp [hrelative]
      rw [if_pos hdeclined, if_pos hdeclined]

theorem isFirstHeld_of_resolve (hrelative : isRelative module = true)
    (h : resolve tree (Path.ofString source).parent (.ofList module) extensions = .ok (some ext)) :
    IsFirstHeld tree source module extensions ext := by
  obtain ⟨before, after, hsplit, hhit, hmisses⟩ := exists_first_of_resolve h
  rw [candidate_eq hrelative, test_eq_true_iff] at hhit
  refine ⟨before, after, hsplit, hhit, fun e he hheld => ?_⟩
  have hmiss := hmisses e he
  rw [candidate_eq hrelative, test_eq_true_iff.2 hheld] at hmiss
  cases hmiss

/-- A repair rewrites the mentions of a relative module that the message names without a quote in
it, with the first extension for which the directory of the importing file holds the file. Where
there is no such module, importing file or extension nothing is repaired. Of the files the answer
depends on no more than the tests tell, made one extension after the other up to the first hit. -/
theorem attempt_resolves (extensions : List String) (tree : FileTree) (d : Diagnostic)
    (content : String) (context : Option Context) :
    let attempts (tree : FileTree) := (extension extensions).attempt tree d content context
    let relative (module : List Char) := ['.', '/'] <+: module ∨ ['.', '.', '/'] <+: module
    (∀ text summary es, attempts tree = .ok (.fixed text summary es) →
      ∃ module source ext pieces, moduleMessage.name? d.text = some module ∧
        Names d.text module ∧ relative module ∧ (∀ c ∈ module, isQuote c = false) ∧
        Importer d context source ∧ IsFirstHeld tree source module extensions ext ∧
        Pattern.Piece.read (extended module ext) = .ok pieces ∧
        Answers module ext (Pattern.Piece.fill pieces) content (.fixed text summary es)) ∧
    (∀ module, moduleMessage.name? d.text = some module →
      (¬ relative module ∨ (¬ ∃ source, Importer d context source) ∨
        ∀ source, Importer d context source → ∀ ext ∈ extensions, ¬ Holds tree source module ext) →
      ∀ text summary es, attempts tree ≠ .ok (.fixed text summary es)) ∧
    ∀ tree', (∀ path ∈ tests extensions tree d context, test tree' path = test tree path) →
      attempts tree' = attempts tree := by
  intro attempts relative
  have hfixed : ∀ text summary es, attempts tree = .ok (.fixed text summary es) →
      ∃ module source ext pieces, moduleMessage.name? d.text = some module ∧
        Names d.text module ∧ relative module ∧ (∀ c ∈ module, isQuote c = false) ∧
        Importer d context source ∧ IsFirstHeld tree source module extensions ext ∧
        Pattern.Piece.read (extended module ext) = .ok pieces ∧
        Answers module ext (Pattern.Piece.fill pieces) content (.fixed text summary es) := by
    intro text summary es h
    obtain ⟨module, ext, pieces, hmodule, hrelative, hsource, hresolve, hread, -⟩ := of_attempt h
    rw [toList_replacement] at hread
    obtain ⟨a, ha, hanswers⟩ :=
      Finds.attempt_of_ok ⟨hmodule, hrelative, hsource, hresolve⟩ hread content
    obtain rfl : a = .fixed text summary es := Except.ok.inj (ha.symm.trans h)
    exact ⟨module, _, ext, pieces, hmodule, names_of_name? hmodule, isRelative_iff.1 hrelative,
      (not_quote_of_mem hmodule hrelative).2, importer_iff.2 ⟨rfl, hsource⟩,
      isFirstHeld_of_resolve hrelative hresolve, hread, hanswers⟩
  refine ⟨hfixed, ?_, fun tree' h => attempt_congr h content⟩
  intro module hmodule hmissing text summary es h
  obtain ⟨module', source, ext, -, hmodule', -, hrelative, -, himporter, hfirst, -⟩ :=
    hfixed text summary es h
  obtain rfl : module = module' := Option.some.inj (hmodule.symm.trans hmodule')
  obtain hno | hno | hno := hmissing
  · exact hno hrelative
  · exact hno ⟨source, himporter⟩
  · obtain ⟨before, after, rfl, hheld, -⟩ := hfirst
    exact hno source himporter ext (List.mem_append_right before List.mem_cons_self) hheld

theorem Answers.ext_eq {content text e : String} {f : List Char → List Char} {es : List Edit}
    (h : Answers module ext f content (.fixed text s!"Added {e} extension to import" es)) :
    e = ext := by
  generalize ha : Attempt.fixed text s!"Added {e} extension to import" es = a at h
  cases h with
  | fixed _ _ =>
    injection ha with _ hsummary
    have hlist := congrArg String.toList hsummary
    simp only [toString, String.toList_append, List.append_cancel_right_eq,
      List.append_cancel_left_eq] at hlist
    exact String.toList_inj.1 hlist
  | declined _ => cases ha

theorem text_beside_up (h : ext ∈ [".ts", ".js", ".jsx"]) :
    (beside "app/main.js" ("../lib".toList ++ ext.toList)).text = "app/../lib" ++ ext := by
  simp only [List.mem_cons, List.not_mem_nil, or_false] at h
  rcases h with rfl | rfl | rfl
  all_goals
    rw [beside, Path.ofString, Path.ofString, Path.pieces_eq_split, Path.pieces_eq_split]
    decide

theorem attempt_resolves_up :
    let tree : FileTree := ⟨[(["lib.jsx"], .empty), (["lib.js"], .empty)], [["app"]], []⟩
    let tree' : FileTree := ⟨[(["lib.js"], ⟨#[10]⟩)], [["app"]], []⟩
    let d : Diagnostic :=
      ⟨.known .importing, some "CANNOT find module \"../lib\"", "", 1, .low, 1, ""⟩
    let context := some (Context.ofFile "app/main.js" "")
    let extensions := [".ts", ".js", ".jsx"]
    let attempts (tree : FileTree) :=
      (extension extensions).attempt tree d "import '../lib'" context
    let a := Attempt.fixed "import '../lib.js'" "Added .js extension to import"
      [change "../lib".toList ".js" 0 "import '../lib'".toList "import '../lib.js'".toList]
    attempts tree = .ok a ∧
      (∃ source, Importer d context source ∧
        IsFirstHeld tree source "../lib".toList extensions ".js") ∧
      (∀ path ∈ tests extensions tree d context, test tree' path = test tree path) ∧
      attempts tree' = .ok a := by
  intro tree tree' d context extensions attempts a
  have hmodule : moduleMessage.name? d.text = some "../lib".toList := by decide +kernel
  have htests : test tree "app/../lib.ts" = .ok false ∧ test tree "app/../lib.js" = .ok true := by
    constructor
    all_goals
      rw [test, FileTree.look, Path.pieces_eq_split]
      rfl
  have htests' : test tree' "app/../lib.ts" = .ok false ∧
      test tree' "app/../lib.js" = .ok true := by
    constructor
    all_goals
      rw [test, FileTree.look, Path.pieces_eq_split]
      rfl
  have hpaths : (extensions.map fun ext =>
        (beside "app/main.js" ("../lib".toList ++ ext.toList)).text) =
      ["app/../lib.ts", "app/../lib.js", "app/../lib.jsx"] := by
    rw [List.map_congr_left fun ext h => text_beside_up h]
    decide
  have hagree : ∀ path ∈ tests extensions tree d context, test tree' path = test tree path := by
    have huntil : untilHit tree ["app/../lib.ts", "app/../lib.js", "app/../lib.jsx"] =
        ["app/../lib.ts", "app/../lib.js"] := by
      rw [untilHit, htests.1]
      dsimp only
      rw [untilHit, htests.2]
    have htested : tests extensions tree d context = ["app/../lib.ts", "app/../lib.js"] := by
      rw [tests, hmodule]
      exact (congrArg (untilHit tree) hpaths).trans huntil
    rw [htested]
    simp [htests, htests']
  have hresolve : resolve tree (Path.ofString "app/main.js").parent (.ofList "../lib".toList)
      extensions = .ok (some ".js") := by
    have hts : "app/../lib" ++ ".ts" = "app/../lib.ts" := by decide
    have hjs : "app/../lib" ++ ".js" = "app/../lib.js" := by decide
    rw [resolve_cons, candidate_eq (by decide), text_beside_up (by decide), hts, htests.1]
    dsimp only
    rw [resolve_cons, candidate_eq (by decide), text_beside_up (by decide), hjs, htests.2]
  have hattempt : attempts tree = .ok a := by
    show attempt extensions tree d "import '../lib'" context = .ok a
    rw [attempt_of_resolve hmodule (by decide) (by decide) hresolve]
    decide +kernel
  obtain ⟨hfixed, -, hcongr⟩ := attempt_resolves extensions tree d "import '../lib'" context
  refine ⟨hattempt, ?_, hagree, (hcongr tree' hagree).trans hattempt⟩
  obtain ⟨module, source, ext, pieces, hmodule', -, -, -, himporter, hfirst, -, hanswers⟩ :=
    hfixed _ _ _ hattempt
  obtain rfl : "../lib".toList = module := Option.some.inj (hmodule.symm.trans hmodule')
  obtain rfl : ".js" = ext := hanswers.ext_eq
  exact ⟨source, himporter, hfirst⟩

end

end Strategy.Extension

end Mend
