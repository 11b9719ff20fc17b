import BlockData.Proofs.Formatting.RoundTrip
import BlockData.Proofs.Tool.FileSystem
import BlockData.Tool.Run

/-!
# Runs over files

A run keeps all files, or it succeeds in reformatting a text in place and stores the canonical
text of what it read (`Command.runOn_isRun`). So over any number of runs a file keeps its bytes
until a run rewrites it (`content_systemAfter`), and every path leads where it led. A file that
was rewritten holds a normal form: it has the shape of the text before, passes the check, and
stays as it is when it is reformatted again (`files_change_by_reformatting_only`).

All of this holds for every file system and every printer of JSON values. That a file takes all
of a text or nothing is built into `FileSystem.write`.
-/

namespace BlockData.Tool

/-- The outcome of reformatting a text in place. -/
def Outcome.reformatted (path text : String) : Outcome :=
  { stderr := "Formatted: " ++ path ++ "\n", written := some text }

variable {File : Type} [DecidableEq File]

/-- What a run does: it gives an outcome and leaves files. -/
inductive IsRun (before : FileSystem File) (command : Command) : Outcome → FileSystem File → Prop
  /-- The files stay. If a text was to be stored, the run fails. -/
  | keeps {outcome : Outcome}
      (noRewriting : ∀ path indent, command = .reformat path indent true → outcome.code ≠ 0) :
      IsRun before command outcome before
  /-- A text is reformatted in place. -/
  | rewrites {path source text : String} {indent : Nat} {tree : Node} {file : File}
      (isReformat : command = .reformat path indent true) (leads : before.locate path = .file file)
      (held : before.content file = source.toUTF8) (writable : before.refusal file = none)
      (parsed : parse source = .ok tree) (printed : tree.canonical indent = .ok text) :
      IsRun before command (.reformatted path text) (before.store file text)

namespace IsRun

variable {before after : FileSystem File} {command : Command} {outcome : Outcome}

/-- A run that fails keeps all files. -/
theorem eq_of_fails (run : IsRun before command outcome after) (fails : outcome.code ≠ 0) :
    after = before := by
  cases run with
  | keeps => rfl
  | rewrites => exact absurd rfl fails

/-- A run that does not reformat in place keeps all files. -/
theorem eq_of_other (run : IsRun before command outcome after)
    (other : ∀ path indent, command ≠ .reformat path indent true) : after = before := by
  cases run with
  | keeps => rfl
  | rewrites isReformat => exact absurd isReformat (other _ _)

/-- After a run, every path leads where it led. -/
theorem locate_eq (run : IsRun before command outcome after) : after.locate = before.locate := by
  cases run with
  | keeps => rfl
  | rewrites => rw [FileSystem.locate_store]

/-- A run keeps what a file holds unless it succeeds in reformatting in place what a path to the
file holds. -/
theorem content_eq {file : File} (run : IsRun before command outcome after)
    (untouched : ∀ path indent, command = .reformat path indent true → outcome.code = 0 →
      before.locate path ≠ .file file) : after.content file = before.content file := by
  cases run with
  | keeps => rfl
  | @rewrites path source text indent tree rewritten isReformat leads =>
      refine FileSystem.content_store_of_ne _ _ fun same => ?_
      exact untouched path indent isReformat rfl (same ▸ leads)

end IsRun

variable (printJson : Json → Except String String)

namespace Command

/-- What needs a tree stores nothing if it stores nothing with a tree. -/
theorem written_withTree {path source : String} {use : Node → Outcome}
    (nothing : ∀ tree, (use tree).written = none) : (withTree path source use).written = none := by
  unfold withTree
  cases BlockData.parse source with
  | error error => rfl
  | ok tree => exact nothing tree

/-- What needs a printed tree stores nothing if it stores nothing with its text. -/
theorem written_withText {printed : Except String String} {use : String → Outcome}
    (nothing : ∀ text, (use text).written = none) : (withText printed use).written = none := by
  unfold withText
  cases printed with
  | error message => rfl
  | ok text => exact nothing text

/-- Only reformatting in place stores a text. -/
theorem written_execute {command : Command}
    (other : ∀ path indent, command ≠ .reformat path indent true) (source : Source) :
    (command.execute printJson source).written = none := by
  cases source with
  | missing => rfl
  | unreadable reason => rfl
  | text content =>
      cases command with
      | parse path format => exact written_withTree fun tree => written_withText fun text => rfl
      | check path => exact written_withTree fun tree => rfl
      | tokens path all => rfl
      | reformat path indent write =>
          cases write with
          | true => exact absurd rfl (other path indent)
          | false => exact written_withTree fun tree => written_withText fun text => rfl

/-- Reformatting a text that has a tree gives its canonical text. -/
theorem execute_reformat_of_canonical {source text : String} {tree : Node} {indent : Nat}
    (parsed : BlockData.parse source = .ok tree) (isText : tree.canonical indent = .ok text)
    (path : String) (write : Bool) :
    (reformat path indent write).execute printJson (.text source) =
      if write then .reformatted path text else { stdout := text } := by
  simp only [execute, apply, withTree, parsed, withText, isText, Except.mapError]
  rfl

/-- Reformatting in place fails and stores nothing, or it stores the canonical text. -/
theorem execute_reformat (path : String) (indent : Nat) (source : Source) :
    (((reformat path indent true).execute printJson source).written = none ∧
      ((reformat path indent true).execute printJson source).code ≠ 0) ∨
    ∃ content tree text, source = .text content ∧ BlockData.parse content = .ok tree ∧
      tree.canonical indent = .ok text ∧
      (reformat path indent true).execute printJson source = .reformatted path text := by
  cases source with
  | missing => exact .inl ⟨rfl, nofun⟩
  | unreadable reason => exact .inl ⟨rfl, nofun⟩
  | text content =>
      cases parsed : BlockData.parse content with
      | error error =>
          refine .inl ?_
          rw [execute, apply, withTree, parsed]
          exact ⟨rfl, nofun⟩
      | ok tree =>
          cases printed : tree.canonical indent with
          | error error =>
              refine .inl ?_
              simp only [execute, apply, withTree, parsed, printed]
              exact ⟨rfl, nofun⟩
          | ok text =>
              exact .inr ⟨content, tree, text, rfl, parsed, printed,
                execute_reformat_of_canonical printJson parsed printed path true⟩

variable {printJson} {before : FileSystem File} {command : Command}

/-- A run whose outcome has no text to be stored keeps the files. -/
theorem runOn_of_nothing
    (nothing : (command.execute printJson (before.read command.path)).written = none) :
    command.runOn printJson before =
      (command.execute printJson (before.read command.path), before) := by
  simp [runOn, run, FileSystem.storage, nothing]

/-- A run that does not reformat in place keeps the files. -/
theorem runOn_of_other (command : Command)
    (other : ∀ path indent, command ≠ .reformat path indent true) :
    command.runOn printJson before =
      (command.execute printJson (before.read command.path), before) :=
  runOn_of_nothing (written_execute printJson other _)

/-- A run whose outcome has a text to be stored stores it in the file that it read, or fails and
keeps the files. -/
theorem runOn_of_written {outcome : Outcome} {text : String} {file : File}
    (executed : command.execute printJson (before.read command.path) = outcome)
    (written : outcome.written = some text) (leads : before.locate command.path = .file file) :
    command.runOn printJson before = match before.refusal file with
      | none => (outcome, before.store file text)
      | some reason => (.failure ("writing " ++ command.path ++ ": " ++ reason), before) := by
  cases isRefusal : before.refusal file <;>
    simp [runOn, run, FileSystem.storage, FileSystem.write, executed, written, leads, isRefusal]

/-- A run of the check over a text that has a tree succeeds and keeps the files. -/
theorem runOn_check {path source : String} {tree : Node} (read : before.read path = .text source)
    (parsed : BlockData.parse source = .ok tree) :
    (check path).runOn printJson before = ({ stderr := "OK: " ++ path ++ "\n" }, before) := by
  rw [runOn_of_other (check path) nofun]
  simp only [Command.path, read, execute, apply, withTree, parsed]

/-- A run that prints the canonical text of what it read keeps the files. -/
theorem runOn_print {path source text : String} {indent : Nat} {tree : Node}
    (read : before.read path = .text source) (parsed : BlockData.parse source = .ok tree)
    (isText : tree.canonical indent = .ok text) :
    (reformat path indent false).runOn printJson before = ({ stdout := text }, before) := by
  have executed := execute_reformat_of_canonical printJson parsed isText path false
  rw [← read] at executed
  rw [runOn_of_other (reformat path indent false) nofun]
  exact congrArg (·, before) executed

/-- A run that reformats in place stores the canonical text of what it read. -/
theorem runOn_reformat {path source text : String} {indent : Nat} {tree : Node} {file : File}
    (leads : before.locate path = .file file) (held : before.content file = source.toUTF8)
    (writable : before.refusal file = none) (parsed : BlockData.parse source = .ok tree)
    (isText : tree.canonical indent = .ok text) :
    (reformat path indent true).runOn printJson before =
      (.reformatted path text, before.store file text) := by
  have executed := execute_reformat_of_canonical printJson parsed isText path true
  rw [← FileSystem.read_of_locate leads held] at executed
  rw [runOn_of_written executed rfl leads, writable]
  rfl

variable (printJson) (before) (command)

/-- Every run keeps the files, or reformats a text in place. -/
theorem runOn_isRun :
    IsRun before command (command.runOn printJson before).1 (command.runOn printJson before).2 := by
  by_cases writing : ∃ path indent, command = .reformat path indent true
  · obtain ⟨path, indent, rfl⟩ := writing
    rcases execute_reformat printJson path indent (before.read path) with ⟨nothing, fails⟩ |
      ⟨source, tree, text, read, parsed, printed, executed⟩
    · rw [runOn_of_nothing nothing]
      exact .keeps fun _ _ _ => fails
    · obtain ⟨file, leads, held⟩ := FileSystem.exists_file_of_read read
      rw [runOn_of_written executed rfl leads]
      cases writable : before.refusal file with
      | none => exact .rewrites rfl leads held writable parsed printed
      | some reason => exact .keeps fun _ _ _ => nofun
  · have other : ∀ path indent, command ≠ .reformat path indent true :=
      fun path indent isReformat => writing ⟨path, indent, isReformat⟩
    rw [runOn_of_other command other]
    exact .keeps fun path indent isReformat => absurd isReformat (other path indent)

end Command

/-- The files behind some runs. -/
def systemAfter (initial : FileSystem File) : List Command → FileSystem File
  | [] => initial
  | command :: later => systemAfter (command.runOn printJson initial).2 later

/-- A run rewrites a file: it reformats in place what a path to the file holds, and succeeds. -/
def Rewrites (before : FileSystem File) (command : Command) (file : File) : Prop :=
  ∃ path indent, command = .reformat path indent true ∧
    (command.runOn printJson before).1.code = 0 ∧ before.locate path = .file file

/-- One of some runs rewrites a file. -/
inductive RewritesDuring (file : File) : FileSystem File → List Command → Prop
  | now {before : FileSystem File} {command : Command}
      (rewrites : Rewrites printJson before command file) (later : List Command) :
      RewritesDuring file before (command :: later)
  | later {before : FileSystem File} {command : Command} {later : List Command}
      (rewrites : RewritesDuring file (command.runOn printJson before).2 later) :
      RewritesDuring file before (command :: later)

variable {printJson}

/-- A run keeps what a file holds unless it rewrites the file. -/
theorem content_runOn {before : FileSystem File} {command : Command} {file : File}
    (untouched : ¬ Rewrites printJson before command file) :
    (command.runOn printJson before).2.content file = before.content file := by
  have run := command.runOn_isRun printJson before
  exact run.content_eq fun path indent isReformat succeeds leads =>
    untouched ⟨path, indent, isReformat, succeeds, leads⟩

/-- Over some runs, what a file holds stays until the file is rewritten. -/
theorem content_systemAfter {initial : FileSystem File} {runs : List Command} {file : File}
    (untouched : ¬ RewritesDuring printJson file initial runs) :
    (systemAfter printJson initial runs).content file = initial.content file := by
  induction runs generalizing initial with
  | nil => rfl
  | cons command later inductionHypothesis =>
      have first := content_runOn fun rewrites => untouched (.now rewrites later)
      have others := inductionHypothesis fun rewrites => untouched (.later rewrites)
      rw [systemAfter, others, first]

/-- After some runs, every path leads where it led. -/
theorem locate_systemAfter (initial : FileSystem File) (runs : List Command) :
    (systemAfter printJson initial runs).locate = initial.locate := by
  induction runs generalizing initial with
  | nil => rfl
  | cons command later inductionHypothesis =>
      rw [systemAfter, inductionHypothesis, (command.runOn_isRun printJson initial).locate_eq]

variable (printJson)

/-- What it means that the text at a path is reformatted in place. The file at the path is
rewritten, with the canonical text of the tree of its text, which reformatting without storing
prints. This text has a tree of the same shape. From then on it passes the check, and no file
changes when it is reformatted in place again. -/
structure IsReformatting (before after : FileSystem File) (path : String) (indent : Nat)
    (file : File) (source text : String) : Prop where
  leads : before.locate path = .file file
  rewriting : before.IsRewriting after file source text
  canonical : ∃ tree reparsed, parse source = .ok tree ∧ tree.canonical indent = .ok text ∧
    parse text = .ok reparsed ∧ (Arena.ofNode tree).sameShape (Arena.ofNode reparsed) = true
  printed : let run := (Command.reformat path indent false).runOn printJson before
    run.1.code = 0 ∧ run.1.stdout = text ∧ run.2 = before
  checked : let run := (Command.check path).runOn printJson after
    run.1.code = 0 ∧ run.2 = after
  stable : let run := (Command.reformat path indent true).runOn printJson after
    run.1.code = 0 ∧ run.2 = after

/-- Storing the canonical text of the text at a path reformats it in place. -/
theorem isReformatting_store {before : FileSystem File} {path source text : String} {tree : Node}
    {indent : Nat} {file : File} (leads : before.locate path = .file file)
    (held : before.content file = source.toUTF8) (writable : before.refusal file = none)
    (parsed : parse source = .ok tree) (isText : tree.canonical indent = .ok text) :
    IsReformatting printJson before (before.store file text) path indent file source text := by
  obtain ⟨canonicalText, reparsed, isCanonical, reparse, -, sameShape, again⟩ :=
    parse_canonical parsed indent indent
  obtain rfl : canonicalText = text := Except.ok.inj (isCanonical.symm.trans isText)
  have rewriting := FileSystem.isRewriting_store canonicalText held
  have readBefore := FileSystem.read_of_locate leads held
  have leadsAfter : (before.store file canonicalText).locate path = .file file := by
    rw [FileSystem.locate_store, leads]
  have readAfter := FileSystem.read_of_locate leadsAfter rewriting.holds
  refine ⟨leads, rewriting, ⟨tree, reparsed, parsed, isText, reparse, sameShape⟩, ?_, ?_, ?_⟩
  · rw [Command.runOn_print readBefore parsed isText]
    exact ⟨rfl, rfl, rfl⟩
  · rw [Command.runOn_check readAfter reparse]
    exact ⟨rfl, rfl⟩
  · rw [Command.runOn_reformat leadsAfter rewriting.holds writable reparse (again.trans isText),
      FileSystem.store_store]
    exact ⟨rfl, rfl⟩

/-- A run that succeeds in reformatting in place reformats the text at its path. -/
theorem IsRun.isReformatting {before after : FileSystem File} {path : String} {indent : Nat}
    {outcome : Outcome} (run : IsRun before (.reformat path indent true) outcome after)
    (succeeds : outcome.code = 0) :
    ∃ file source text, IsReformatting printJson before after path indent file source text := by
  cases run with
  | keeps noRewriting => exact absurd succeeds (noRewriting path indent rfl)
  | @rewrites _ source text _ tree file isReformat leads held writable parsed printed =>
      cases isReformat
      exact ⟨file, source, text, isReformatting_store printJson leads held writable parsed printed⟩

/-- Files change by reformatting in place only, and this keeps what their texts mean. Over any
number of runs every path leads where it led, and a file keeps its bytes until a run rewrites
it. A run that fails keeps all files, and so does a run that does not reformat in place. A run
that does, and succeeds, rewrites the file at its path only, with the canonical text of what it
read. -/
theorem files_change_by_reformatting_only (initial : FileSystem File) (earlier : List Command)
    (command : Command) :
    let before := systemAfter printJson initial earlier
    let outcome := (command.runOn printJson before).1
    let after := (command.runOn printJson before).2
    before.locate = initial.locate ∧
    (∀ file, ¬ RewritesDuring printJson file initial earlier →
      before.content file = initial.content file) ∧
    (outcome.code ≠ 0 → after = before) ∧
    ((∀ path indent, command ≠ .reformat path indent true) → after = before) ∧
    ∀ path indent, command = .reformat path indent true → outcome.code = 0 →
      ∃ file source text, IsReformatting printJson before after path indent file source text := by
  intro before outcome after
  have run : IsRun before command outcome after := command.runOn_isRun printJson before
  refine ⟨locate_systemAfter initial earlier, fun file => content_systemAfter, run.eq_of_fails,
    run.eq_of_other, fun path indent isReformat succeeds => ?_⟩
  subst isReformat
  exact run.isReformatting printJson succeeds

/-- Two files, one with a text that has a tree. -/
def twoFiles : Files :=
  ⟨[("a", .file "x   1\n".toUTF8), ("b", .file ")".toUTF8)]⟩

/-- A check, which fails, keeps both files, and reformatting in place behind it rewrites one. -/
theorem twoFiles_change_by_reformatting_only :
    ((Command.check "b").runOn prettyJson twoFiles.system).1.code ≠ 0 ∧
    systemAfter prettyJson twoFiles.system [.check "b"] = twoFiles.system ∧
    IsReformatting prettyJson twoFiles.system
      ((Command.reformat "./a" 2 true).runOn prettyJson twoFiles.system).2
      "./a" 2 "a" "x   1\n" "x 1\n" := by
  have fails : ((Command.check "b").runOn prettyJson twoFiles.system).1.code ≠ 0 := by
    have leads : twoFiles.system.locate "b" = .file "b" := by cbv
    have read : twoFiles.system.read "b" = .text ")" := FileSystem.read_of_locate leads rfl
    have isError : (parse ")").toBool = false := by cbv
    rw [Command.runOn_of_other (.check "b") fun _ _ => Command.noConfusion]
    simp only [Command.path, read, Command.execute, Command.apply, Command.withTree]
    cases isParsed : parse ")" with
    | error error => exact Nat.one_ne_zero
    | ok tree => simp [isParsed, Except.toBool] at isError
  have kept : systemAfter prettyJson twoFiles.system [.check "b"] = twoFiles.system :=
    (files_change_by_reformatting_only prettyJson twoFiles.system [] (.check "b")).2.2.1 fails
  obtain ⟨tree, parsed, isText⟩ : ∃ tree, parse "x   1\n" = .ok tree ∧
      tree.canonical 2 = .ok "x 1\n" := exists_parse_of_map (by cbv)
  have leads : twoFiles.system.locate "./a" = .file "a" := by cbv
  have succeeds :
      ((Command.reformat "./a" 2 true).runOn prettyJson twoFiles.system).1.code = 0 := by
    rw [Command.runOn_reformat leads rfl rfl parsed isText]
    rfl
  obtain ⟨file, source, text, isReformatting⟩ :=
    (files_change_by_reformatting_only prettyJson twoFiles.system [.check "b"]
      (.reformat "./a" 2 true)).2.2.2.2 "./a" 2 rfl (by rwa [kept])
  rw [kept] at isReformatting
  -- The file and its two texts are those that the theorem finds.
  obtain rfl : "a" = file := Target.file.inj (leads.symm.trans isReformatting.leads)
  obtain rfl : "x   1\n" = source := String.toByteArray_inj.mp isReformatting.rewriting.held
  obtain ⟨sameTree, _, sameParsed, sameText, -⟩ := isReformatting.canonical
  rw [parsed] at sameParsed
  cases sameParsed
  rw [isText] at sameText
  cases sameText
  exact ⟨fails, kept, isReformatting⟩

end BlockData.Tool
