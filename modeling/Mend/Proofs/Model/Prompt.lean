import Mend.Model.Assistant
import Mend.Proofs.Log.Form

namespace Mend.Prompt

open Log (Form)

structure AgreeWithin (files dependencies : Nat) (c c' : Context) : Prop where
  filePath : c.filePath = c'.filePath
  fileContent : c.fileContent = c'.fileContent
  project : c.project = c'.project
  framework : c.framework = c'.framework
  relatedFiles : c.relatedFiles.take files = c'.relatedFiles.take files
  dependencies : c.dependencies.take dependencies = c'.dependencies.take dependencies

inductive Shows (f : RelatedFile) : String → Prop
  | content (h : f.content ≠ "") : Shows f ("**" ++ f.path ++ ":**\n```\n" ++ f.content ++ "\n```")
  | empty (h : f.content = "") :
    Shows f ("**" ++ f.path ++ ":**\n```\n// File content not available\n```")

inductive ShowsAll : List RelatedFile → String → Prop
  | last {f : RelatedFile} {s : String} (h : Shows f s) : ShowsAll [f] s
  | more {f : RelatedFile} {fs : List RelatedFile} {s rest : String} (h : Shows f s)
    (t : ShowsAll fs rest) : ShowsAll (f :: fs) (s ++ "\n\n" ++ rest)

structure Unknown (dependencies : Nat) (c : Context) : Prop where
  framework : c.framework.getD "" = ""
  language : c.project.language.getD "" = ""
  runtime : c.project.runtime.getD "" = ""
  conventions : c.project.conventions.getD "" = ""
  dependencies : c.dependencies.take dependencies = []

def form : Form where
  parts := [
    .text (opening ++ "\n" ++ "\n" ++ "**ERROR DETAILS:**" ++ "\n" ++ "- File: "), .slot "file",
    .text ("\n" ++ "- Line: "), .slot "line",
    .text ("\n" ++ "- Error Type: "), .slot "category",
    .text ("\n" ++ "- Error Message: "), .slot "message",
    .text ("\n" ++ "- Severity: "), .slot "severity",
    .text ("\n" ++ "\n" ++ "**CURRENT CODE CONTEXT:**" ++ "\n" ++ "```\n"), .slot "content",
    .text ("\n```" ++ "\n" ++ "\n" ++ "**PROJECT CONTEXT:**" ++ "\n"), .slot "project",
    .text ("\n" ++ "\n" ++ "**RELATED FILES:**" ++ "\n"), .slot "related",
    .text ("\n" ++ "\n" ++ "\n".intercalate instructions)]
  simple := by decide +kernel

def value (d : Diagnostic) (c : Context) (files dependencies : Nat) : String → String
  | "file" => file d c
  | "line" => (Number.int d.line).text
  | "category" => d.bucket.name
  | "message" => d.messageText
  | "severity" => d.severity.name
  | "content" => c.fileContent
  | "project" => projectBlock c.project c.framework c.dependencies dependencies
  | "related" => relatedText c.relatedFiles files
  | _ => ""

section
variable {α : Type} {d : Diagnostic} {c c' : Context} {files dependencies : Nat}

theorem upTo_natCast (n : Nat) (l : List α) : upTo n l = l.take n := by
  rw [upTo, if_pos (Int.natCast_nonneg n), Int.toNat_natCast]

theorem text_eq_filled (d : Diagnostic) (c : Context) (files dependencies : Nat) :
    text d c files dependencies = form.filled (value d c files dependencies) := by
  simp [-String.reduceAppend, text, details, fenced, Form.filled, form, Form.Part.filled, value,
    String.join, String.intercalate_cons_cons, instructions, String.append_assoc]

theorem text_congr (h : AgreeWithin files dependencies c c') :
    text d c files dependencies = text d c' files dependencies := by
  have hblock : projectBlock c.project c.framework c.dependencies dependencies =
      projectBlock c'.project c'.framework c'.dependencies dependencies := by
    simp only [projectBlock, upTo_natCast, h.project, h.framework, h.dependencies]
  have hrelated : relatedText c.relatedFiles files = relatedText c'.relatedFiles files := by
    simp only [relatedText, upTo_natCast, h.relatedFiles]
  simp only [text, file, hblock, hrelated, h.filePath, h.fileContent]

theorem shows_relatedBlock (f : RelatedFile) : Shows f (relatedBlock f) := by
  have hblock (s : String) :
      "**" ++ f.path ++ ":**\n" ++ fenced s = "**" ++ f.path ++ ":**\n```\n" ++ s ++ "\n```" := by
    have hopening : ":**\n```\n" = ":**\n" ++ "```\n" := rfl
    simp only [hopening, fenced, String.append_assoc]
  unfold relatedBlock
  rw [hblock]
  by_cases h : f.content = ""
  · have hmissing : noContent ++ "\n```" = "// File content not available\n```" := rfl
    rw [if_pos h]
    rw [String.append_assoc, String.append_assoc, hmissing]
    exact .empty h
  · rw [if_neg h]
    exact .content h

theorem showsAll_blocks (f : RelatedFile) (fs : List RelatedFile) :
    ShowsAll (f :: fs) ("\n\n".intercalate ((f :: fs).map relatedBlock)) := by
  induction fs generalizing f with
  | nil => exact .last (shows_relatedBlock f)
  | cons g fs ih =>
    rw [List.map_cons, List.map_cons, String.intercalate_cons_cons]
    exact .more (shows_relatedBlock f) (ih g)

theorem showsAll_relatedText {fs : List RelatedFile} (h : fs.take files ≠ []) :
    ShowsAll (fs.take files) (relatedText fs files) := by
  obtain ⟨g, gs, hgs⟩ := List.exists_cons_of_ne_nil h
  rw [relatedText, upTo_natCast, hgs]
  exact showsAll_blocks g gs

theorem Shows.starts {f : RelatedFile} {s : String} (h : Shows f s) :
    "**".toList <+: s.toList := by
  cases h with
  | content _ => simp [String.append_assoc]
  | empty _ => simp [String.append_assoc]

theorem ShowsAll.starts {fs : List RelatedFile} {s : String} (h : ShowsAll fs s) :
    "**".toList <+: s.toList := by
  cases h with
  | last h => exact h.starts
  | more h t =>
    rw [String.toList_append, String.toList_append, List.append_assoc]
    exact h.starts.trans (List.prefix_append _ _)

theorem relatedText_eq_noRelatedFiles_iff {fs : List RelatedFile} :
    relatedText fs files = noRelatedFiles ↔ fs.take files = [] := by
  constructor
  · intro h
    cases hfs : fs.take files with
    | nil => rfl
    | cons f gs =>
      have hne : fs.take files ≠ [] := by simp [hfs]
      have hstarts := (showsAll_relatedText hne).starts
      rw [h] at hstarts
      exact absurd hstarts (by decide)
  · intro h
    rw [relatedText, upTo_natCast, h]

/-- What the lines about the project begin with. -/
def labels : List String :=
  ["- Framework: ", "- Language: ", "- Runtime: ", "- Key Dependencies: ",
    "- Project Conventions: "]

theorem line_eq_nil_iff {label : String} {t : Option String} :
    line label t = [] ↔ t.getD "" = "" := by
  cases t with
  | none => exact iff_of_true rfl rfl
  | some s =>
    rw [line, Option.getD_some]
    split
    · rename_i hs
      exact iff_of_true rfl hs
    · rename_i hs
      exact iff_of_false (List.cons_ne_nil _ _) hs

theorem mem_line {label l : String} {t : Option String} (h : l ∈ line label t) :
    ∃ s, l = label ++ s := by
  cases t with
  | none => cases h
  | some s =>
    rw [line] at h
    split at h
    · cases h
    · exact ⟨s, List.mem_singleton.1 h⟩

theorem dependencyLine_eq_nil_iff {names : List String} :
    dependencyLine names = [] ↔ names = [] := by
  cases names with
  | nil => exact iff_of_true rfl rfl
  | cons n ns => exact iff_of_false (List.cons_ne_nil _ _) (List.cons_ne_nil n ns)

theorem mem_dependencyLine {names : List String} {l : String} (h : l ∈ dependencyLine names) :
    ∃ s, l = "- Key Dependencies: " ++ s := by
  cases names with
  | nil => cases h
  | cons n ns => exact ⟨_, List.mem_singleton.1 h⟩

theorem projectLines_eq_nil_iff :
    projectLines c.project c.framework (c.dependencies.take dependencies) = [] ↔
      Unknown dependencies c := by
  simp only [projectLines, List.append_eq_nil_iff, line_eq_nil_iff, dependencyLine_eq_nil_iff]
  constructor
  · rintro ⟨⟨⟨⟨hframework, hlanguage⟩, hruntime⟩, hdependencies⟩, hconventions⟩
    exact ⟨hframework, hlanguage, hruntime, hconventions, hdependencies⟩
  · rintro ⟨hframework, hlanguage, hruntime, hconventions, hdependencies⟩
    exact ⟨⟨⟨⟨hframework, hlanguage⟩, hruntime⟩, hdependencies⟩, hconventions⟩

theorem exists_label {p : ProjectInfo} {framework : Option String} {names : List String}
    {l : String} (h : l ∈ projectLines p framework names) :
    ∃ label ∈ labels, ∃ s, l = label ++ s := by
  simp only [projectLines, List.mem_append] at h
  rcases h with (((h | h) | h) | h) | h
  · exact ⟨_, by simp [labels], mem_line h⟩
  · exact ⟨_, by simp [labels], mem_line h⟩
  · exact ⟨_, by simp [labels], mem_line h⟩
  · exact ⟨_, by simp [labels], mem_dependencyLine h⟩
  · exact ⟨_, by simp [labels], mem_line h⟩

theorem prefix_intercalate (sep l : String) (ls : List String) :
    l.toList <+: (sep.intercalate (l :: ls)).toList := by
  cases ls with
  | nil =>
    simp only [String.intercalate_singleton, List.prefix_rfl]
  | cons m ms =>
    rw [String.intercalate_cons_cons, String.append_assoc, String.toList_append]
    exact List.prefix_append _ _

theorem projectBlock_eq_noProject_iff :
    projectBlock c.project c.framework c.dependencies dependencies = noProject ↔
      Unknown dependencies c := by
  rw [← projectLines_eq_nil_iff, projectBlock, upTo_natCast]
  cases hlines : projectLines c.project c.framework (c.dependencies.take dependencies) with
  | nil => exact iff_of_true rfl rfl
  | cons l ls =>
    refine iff_of_false (fun heq => ?_) (List.cons_ne_nil l ls)
    obtain ⟨label, hlabel, s, rfl⟩ := exists_label (hlines ▸ List.mem_cons_self)
    have hstarts : label.toList <+: noProject.toList := by
      rw [← heq]
      apply List.IsPrefix.trans _ (prefix_intercalate "\n" _ ls)
      rw [String.toList_append]
      exact List.prefix_append _ _
    have hnone : labels.all (fun label => !label.toList.isPrefixOf noProject.toList) = true := by
      decide
    have hlabel := List.all_eq_true.1 hnone label hlabel
    rw [List.isPrefixOf_iff_prefix.2 hstarts] at hlabel
    cases hlabel

theorem ask_congr {σ : Type} {a : Assistant σ} (hfiles : a.settings.maxRelatedFiles = files)
    (hdependencies : a.settings.maxDependencies = dependencies)
    (h : AgreeWithin files dependencies c c') (now : String) (d : Diagnostic) (s : σ) :
    a.ask now d c s = a.ask now d c' s := by
  have hcall : a.call d c = a.call d c' := by
    simp only [Assistant.call, hfiles, hdependencies, text_congr h]
  simp only [Assistant.ask, hcall]

theorem intercalate_around (sep x y : String) (start middle rest : List String)
    (hstart : start ≠ []) (hmiddle : middle ≠ []) (hrest : rest ≠ []) :
    sep.intercalate (start ++ x :: (middle ++ y :: rest)) =
      sep.intercalate start ++ sep ++ x ++ (sep ++ sep.intercalate middle ++ sep) ++ y ++
        (sep ++ sep.intercalate rest) := by
  have hafter : middle ++ y :: rest ≠ [] := List.append_ne_nil_of_left_ne_nil hmiddle _
  rw [String.intercalate_append_of_ne_nil hstart (List.cons_ne_nil _ _),
    String.intercalate_cons_of_ne_nil hafter,
    String.intercalate_append_of_ne_nil hmiddle (List.cons_ne_nil _ _),
    String.intercalate_cons_of_ne_nil hrest]
  simp only [String.append_assoc]

theorem exists_fenced (d : Diagnostic) (c : Context) (files dependencies : Nat) :
    ∃ before between after, text d c files dependencies =
      before ++ ("```\n" ++ c.fileContent ++ "\n```") ++ between ++
        relatedText c.relatedFiles files ++ after :=
  ⟨_, _, _, intercalate_around "\n" (fenced c.fileContent) (relatedText c.relatedFiles files)
    ([opening, ""] ++ details d (file d c) ++ ["", "**CURRENT CODE CONTEXT:**"])
    ["", "**PROJECT CONTEXT:**",
      projectBlock c.project c.framework c.dependencies dependencies, "", "**RELATED FILES:**"]
    ("" :: instructions) (by simp) (by simp) (by simp)⟩

/-- The prompt tells what is within the caps and nothing else. Texts are copied as they are, braces
included: the form is filled once. The content of the file stands between fences, and so do the
contents of the related files within the cap, in their order. -/
theorem text_within_caps (d : Diagnostic) (c : Context) (files dependencies : Nat) :
    (∀ c', AgreeWithin files dependencies c c' →
      text d c files dependencies = text d c' files dependencies ∧
      ∀ (σ : Type) (a : Assistant σ) (now : String) (s : σ),
        a.settings.maxRelatedFiles = files → a.settings.maxDependencies = dependencies →
        a.ask now d c s = a.ask now d c' s) ∧
    Log.fill (Form.put (value d c files dependencies)) .text form.template =
      .ok (text d c files dependencies).toList ∧
    (∃ before between after, text d c files dependencies =
      before ++ ("```\n" ++ c.fileContent ++ "\n```") ++ between ++
        relatedText c.relatedFiles files ++ after) ∧
    (c.relatedFiles.take files ≠ [] →
      ShowsAll (c.relatedFiles.take files) (relatedText c.relatedFiles files)) ∧
    (relatedText c.relatedFiles files = "No related files provided" ↔
      c.relatedFiles.take files = []) ∧
    (projectBlock c.project c.framework c.dependencies dependencies =
      "- No specific project context available" ↔ Unknown dependencies c) := by
  refine ⟨fun c' h => ⟨text_congr h, fun σ a now s hfiles hdependencies =>
    ask_congr hfiles hdependencies h now d s⟩, ?_, exists_fenced d c files dependencies,
    showsAll_relatedText, relatedText_eq_noRelatedFiles_iff, projectBlock_eq_noProject_iff⟩
  rw [text_eq_filled]
  exact Form.fill_template form _

theorem text_within_caps_braces :
    let d : Diagnostic := ⟨.known .typing, some "no \x7bx\x7d", "a.js", 1, .low, 1, ""⟩
    let first : RelatedFile := ⟨"b.js", "\x7bfile\x7d"⟩
    let c : Context :=
      ⟨"", "\x7b0\x7d", [first, ⟨"c.js", "y"⟩], ⟨none, some "", none⟩, none, ["react"]⟩
    let c' : Context := { c with relatedFiles := [first], dependencies := [] }
    AgreeWithin 1 0 c c' ∧ text d c 1 0 = text d c' 1 0 ∧
      c.relatedFiles.take 1 ≠ [] ∧ ShowsAll [first] (relatedText c.relatedFiles 1) ∧
      projectBlock c.project c.framework c.dependencies 0 =
        "- No specific project context available" := by
  intro d first c c'
  have hagree : AgreeWithin 1 0 c c' := ⟨rfl, rfl, rfl, rfl, rfl, rfl⟩
  have hsome : c.relatedFiles.take 1 ≠ [] := List.cons_ne_nil first []
  obtain ⟨hcongr, -, -, hshows, -, hproject⟩ := text_within_caps d c 1 0
  exact ⟨hagree, (hcongr c' hagree).1, hsome, hshows hsome,
    hproject.2 ⟨rfl, rfl, rfl, rfl, rfl⟩⟩

end

end Mend.Prompt
