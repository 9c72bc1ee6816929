import Mend.Command.Run
import Mend.Proofs.Command.Call
import Mend.Proofs.Path
import Mend.Proofs.Strategy.Confinement
import Mend.Proofs.Text.Bytes
import Mend.Proofs.Workshop.Dispatch

/-! What a run leaves behind. A file is written when a template has repaired its text and the run is
told to apply that, and nothing else writes one; the bytes that are written are those of the repaired
text, and they differ from the old ones in the lines of the records only. -/

namespace Mend

open Workshop (Repairs repairReport)

/-- A report that says it is a template's success is that of a template that repairs the text. -/
theorem Workshop.repairs_of_answer {σ : Type} {w : Workshop} {assistant : Option (Assistant σ)}
    {now : String} {tree : FileTree} {r : Request} {s : σ} {report : Report}
    (h : (w.answer assistant now tree r s).1.answer = .ok report) (hsuccess : report.success = true)
    (hmethod : report.method = some Report.byTemplate) :
    ∃ t text summary es, w.Repairs tree r t text summary es ∧
      report = repairReport t text summary es := by
  by_cases hhelps : w.Helps tree r
  · rw [answer_of_helps hhelps] at h
    obtain ⟨t, text, summary, es, hrepairs⟩ := hhelps
    rw [byTemplate_of_repairs hrepairs] at h
    cases h
    exact ⟨t, text, summary, es, hrepairs, rfl⟩
  -- without a repair the template's report is no success, and a model's report names the model
  · cases assistant with
    | none =>
      have hreport : (w.byTemplate now tree r).1 = report := Except.ok.inj h
      rw [byTemplate_eq] at hreport
      have hdraft : (w.draft tree r).success = true := by
        rwa [← hreport, withHints_success] at hsuccess
      exact absurd (draft_success_iff.1 hdraft) hhelps
    | some a =>
      rw [answer_of_not_helps hhelps] at h
      obtain ⟨p, -, hreport, -⟩ := of_ofExchange h
      have hmodel := (fromModel_withHints r p).method
      rw [← hreport, hmethod] at hmodel
      exact absurd hmodel (by decide)

namespace Command

variable {σ : Type} {w : World σ} {args : List String} {j : Job} {report : Report}

structure Shows (w : World σ) (args : List String) (j : Job) (report : Report) : Prop where
  reached : ∃ debug content, Call.ofArguments w.tree args = .fix debug j ∧
    Utf8.decode j.bytes = .ok content ∧ j.complaint? w = none ∧
    Job.logProblem? debug (.ofCatalog .builtin) w.tree (j.request content) = none ∧
    ((Workshop.ofCatalog .builtin).answer (j.assistant? w) w.now w.tree (j.request content)
      w.start).1.answer = .ok report
  shown : ∃ text, j.display report = .ok text

/-- The job asks for its file to be written, and the report is a template's success. -/
structure Job.Takes (j : Job) (report : Report) : Prop where
  asked : j.apply = true
  success : report.success = true
  method : report.method = some Report.byTemplate

/-- The file of a job holds the reported text. Its lines are touched only where the reported spans
hold them, and no other file is touched. -/
structure Job.Applied (j : Job) (report : Report) (before after : FileTree) : Prop where
  old : before.bytes? (before.place j.path) = some j.bytes
  new : ∃ text, report.fix = some text ∧
    after.bytes? (before.place j.path) = some text.toUTF8 ∧
    Edit.Confined report.edits 1 (Lines.ofBytes j.bytes) (Lines.ofBytes text.toUTF8)
  others : ∀ names, names ≠ before.place j.path → after.bytes? names = before.bytes? names

theorem Shows.run_eq (h : Shows w args j report) :
    ∃ text, j.display report = .ok text ∧ run w args =
      { status := .ok (if report.success then 0 else 1),
        output := Plain.text (text ++ j.closing report), change := j.change? report } := by
  obtain ⟨⟨debug, content, hcall, hdecode, hcomplaint, hlog, hanswer⟩, text, hshown⟩ := h
  refine ⟨text, hshown, ?_⟩
  rw [run, hcall, Call.run, Job.run, hdecode]
  dsimp only
  rw [hcomplaint]
  dsimp only
  rw [Job.repair, hlog]
  dsimp only
  rw [hanswer]
  dsimp only
  rw [Job.conclude, hshown]

theorem typesTable_change : typesTable.change = none := by
  unfold typesTable
  split
  · rfl
  · rfl

/-- A run that shows no report leaves the files alone. -/
theorem shows_or_change_eq_none (w : World σ) (args : List String) :
    (∃ j report, Shows w args j report) ∨ (run w args).change = none := by
  rw [run]
  cases hcall : Call.ofArguments w.tree args with
  | fix debug j =>
    rw [Call.run, Job.run]
    split
    · exact .inr rfl
    · rename_i content hdecode
      split
      · exact .inr rfl
      · rename_i hcomplaint
        rw [Job.repair]
        split
        · exact .inr rfl
        · rename_i hlog
          split
          · rename_i report hanswer
            rw [Job.conclude]
            split
            · exact .inr rfl
            · rename_i text hshown
              exact .inl ⟨j, report, ⟨debug, content, hcall, hdecode, hcomplaint, hlog, hanswer⟩,
                text, hshown⟩
          · exact .inr rfl
  | types => exact .inr typesTable_change
  | help c => exact .inr rfl
  | version => exact .inr rfl
  | empty => exact .inr rfl
  | misuse c m => exact .inr rfl
  | nullInPath => exact .inr rfl

theorem Job.change?_eq_none (h : ¬ j.Takes report) : j.change? report = none := by
  unfold change?
  split
  · rename_i hasked
    unfold repaired?
    split
    · rename_i hrepaired
      rw [Bool.and_eq_true, beq_iff_eq] at hrepaired
      exact absurd ⟨hasked, hrepaired.1, hrepaired.2⟩ h
    · rfl
  · rfl

theorem Job.change?_of_takes {text : String} (h : j.Takes report) (hfix : report.fix = some text) :
    j.change? report = some ⟨j.path, text⟩ := by
  simp [change?, repaired?, h.asked, h.success, h.method, hfix]

theorem Shows.applied (h : Shows w args j report) (htakes : j.Takes report) :
    j.Applied report w.tree ((run w args).tree w.tree) := by
  obtain ⟨shown, -, hrun⟩ := h.run_eq
  obtain ⟨⟨debug, content, hcall, hdecode, -, -, hanswer⟩, -⟩ := h
  obtain ⟨t, text, summary, es, ⟨-, hattempt⟩, rfl⟩ :=
    Workshop.repairs_of_answer hanswer htakes.success htakes.method
  have hold : w.tree.bytes? (w.tree.place j.path) = some j.bytes :=
    Call.bytes_of_ofArguments hcall
  have htree : (run w args).tree w.tree = w.tree.write j.path text.toUTF8 := by
    rw [hrun, Outcome.tree, Job.change?_of_takes htakes rfl]
  rw [htree]
  refine ⟨hold, ⟨text, rfl, FileTree.bytes?_write_self _ hold, ?_⟩, fun names hnames => ?_⟩
  · rw [Utf8.decode_eq_ok_iff.1 hdecode, Lines.ofBytes_toUTF8, Lines.ofBytes_toUTF8]
    exact (Strategy.attempt_confined hattempt).map Lines.encode
  · exact FileTree.bytes?_write_of_ne hnames

theorem Shows.tree_eq (h : Shows w args j report) (htakes : ¬ j.Takes report) :
    (run w args).tree w.tree = w.tree := by
  obtain ⟨shown, -, hrun⟩ := h.run_eq
  rw [hrun, Outcome.tree, Job.change?_eq_none htakes]

def removal : Job :=
  ⟨"a", "debugger\r\nf()".toUTF8, 1, .style, "unexpected debugger", .medium, false, .anthropic,
    none, true, true⟩

def removalArguments : List String :=
  ["fix", "--line", "1", "--type", "style", "--message", "unexpected debugger", "--apply", "--json",
    "a"]

def removalWorld : World Unit where
  tree := ⟨[(["a"], removal.bytes)], [], []⟩
  installed := []
  now := ""
  assistant := fun s => ⟨⟨"", "", fun _ _ => (.late "", ())⟩, s⟩
  start := ()

def removalTemplate : Template :=
  ⟨"no_debugger", .style, "unexpected debugger", .phrase "unexpected debugger", .debugger,
    Catalog.tenths 9, true⟩

def removalReport : Report :=
  repairReport removalTemplate "f()" "Removed debugger statement"
    [{ kind := .delete, line := some 1, text := some "debugger" }]

def removalWords : Words where
  mentions := [⟨"--line", "1"⟩, ⟨"--type", "style"⟩, ⟨"--message", "unexpected debugger"⟩,
    ⟨"--apply", "--apply"⟩, ⟨"--json", "--json"⟩]
  others := ["a"]

theorem pieces_removal : Path.pieces removal.path = ["a"] := by
  have hpath : removal.path = "a" := rfl
  rw [hpath, Path.pieces_eq_split]
  decide

theorem ofArguments_removal :
    Call.ofArguments removalWorld.tree removalArguments = .fix false removal := by
  have hread : readFile removalWorld.tree (some removal.path) = .ok ("a", removal.bytes) := by
    rw [readFile, FileTree.look, pieces_removal]
    rfl
  have hothers : removalWords.others.head? = some removal.path := rfl
  have hjob : Job.ofWords removalWorld.tree removalWords = .ok removal := by
    rw [Job.ofWords, hothers, hread]
    rfl
  have hwords : Words.sort fix removalArguments.tail = .ok removalWords := rfl
  have hfix : Call.ofFix removalWorld.tree false removalArguments.tail = .fix false removal := by
    rw [Call.ofFix, hwords]
    dsimp only
    rw [if_neg (by decide), hjob]
  exact hfix

theorem repairs_removal (tree : FileTree) :
    (Workshop.ofCatalog .builtin).Repairs tree (removal.request "debugger\r\nf()") removalTemplate
      "f()" "Removed debugger statement"
      [{ kind := .delete, line := some 1, text := some "debugger" }] := by
  have hfile : removal.file = "a" := by
    rw [Job.file, Path.ofString, pieces_removal]
    rfl
  refine ⟨?_, rfl⟩
  unfold Job.request Job.diagnostic
  rw [hfile]
  decide +kernel

theorem shows_removal : Shows removalWorld removalArguments removal removalReport := by
  refine ⟨⟨false, "debugger\r\nf()", ofArguments_removal, Utf8.decode_toUTF8 "debugger\r\nf()", rfl,
    rfl, ?_⟩, _, rfl⟩
  have hrepairs := repairs_removal removalWorld.tree
  rw [Workshop.answer_of_helps ⟨_, _, _, _, hrepairs⟩, Workshop.byTemplate_of_repairs hrepairs]
  rfl

/-- Any run leaves the files as they were, or else it applies the template's success that it shows.
A run that shows a report puts out what is displayed of it, and ends with zero just when the report
is a success. -/
theorem run_keeps_or_repairs (w : World σ) (args : List String) :
    ((run w args).tree w.tree = w.tree ∨
      ∃ j report, Shows w args j report ∧ j.Takes report ∧
        j.Applied report w.tree ((run w args).tree w.tree)) ∧
    ∀ j report, Shows w args j report →
      (∃ text, j.display report = .ok text ∧
        (run w args).output = Plain.text (text ++ j.closing report)) ∧
      (run w args).status = .ok (if report.success then 0 else 1) ∧
      (j.Takes report → j.Applied report w.tree ((run w args).tree w.tree)) ∧
      (¬ j.Takes report → (run w args).tree w.tree = w.tree) := by
  refine ⟨?_, fun j report h => ⟨?_, ?_, h.applied, h.tree_eq⟩⟩
  · obtain ⟨j, report, h⟩ | hnone := shows_or_change_eq_none w args
    · by_cases htakes : j.Takes report
      · exact .inr ⟨j, report, h, htakes, h.applied htakes⟩
      · exact .inl (h.tree_eq htakes)
    · left
      rw [Outcome.tree, hnone]
  · obtain ⟨text, hshown, hrun⟩ := h.run_eq
    exact ⟨text, hshown, by rw [hrun]⟩
  · obtain ⟨text, -, hrun⟩ := h.run_eq
    rw [hrun]

theorem run_keeps_or_repairs_removal :
    Shows removalWorld removalArguments removal removalReport ∧ removal.Takes removalReport ∧
      (run removalWorld removalArguments).status = .ok 0 ∧
      ((run removalWorld removalArguments).tree removalWorld.tree).bytes?
        (removalWorld.tree.place removal.path) = some "f()".toUTF8 := by
  have htakes : removal.Takes removalReport := ⟨rfl, rfl, rfl⟩
  obtain ⟨-, h⟩ := run_keeps_or_repairs removalWorld removalArguments
  obtain ⟨-, hstatus, happlied, -⟩ := h removal removalReport shows_removal
  obtain ⟨text, hfix, hnew, -⟩ := (happlied htakes).new
  cases hfix
  exact ⟨shows_removal, htakes, hstatus, hnew⟩

end Command

end Mend
