/-
A run answers with the lexical definition.

A run reads its arguments, writes to a log, looks for settings in many places
and only then looks at the file to be searched. Looking changes nothing, and a
log beside the file leaves its text, so what is printed depends on the text and
the options alone. A line or a column of zero ends the run before all of that.
-/

import SymbolJump.Proofs.CommandLine.Arguments
import SymbolJump.Proofs.CommandLine.Search
import SymbolJump.Proofs.Settings.Reloading

namespace SymbolJump

/-! ### Looking at a disk -/

/-- Whether a computation leaves the disk as it is. -/
def LeavesDisk {σ α : Type} (computation : StateM σ α) : Prop :=
  ∀ state, (computation.run state).2 = state

section

variable {σ α β : Type}

theorem leavesDisk_pure (value : α) : LeavesDisk (pure value : StateM σ α) := fun _ => rfl

theorem run_bind_eq (computation : StateM σ α) (next : α → StateM σ β) (state : σ) :
    (computation >>= next).run state =
      (next (computation.run state).1).run (computation.run state).2 := rfl

theorem run_bind_of_run {computation : StateM σ α} {state after : σ} {value : α}
    (isRun : computation.run state = (value, after)) (next : α → StateM σ β) :
    (computation >>= next).run state = (next value).run after := by
  rw [run_bind_eq, isRun]

theorem LeavesDisk.run_eq {computation : StateM σ α} (leaves : LeavesDisk computation)
    (state : σ) : computation.run state = ((computation.run state).1, state) :=
  Prod.ext rfl (leaves state)

theorem LeavesDisk.bind {computation : StateM σ α} {next : α → StateM σ β}
    (leaves : LeavesDisk computation) (nextLeaves : ∀ value, LeavesDisk (next value)) :
    LeavesDisk (computation >>= next) := by
  intro state
  rw [run_bind_of_run (leaves.run_eq state)]
  exact nextLeaves _ state

theorem leavesDisk_anyM {test : α → StateM σ Bool} (leaves : ∀ value, LeavesDisk (test value))
    (values : List α) : LeavesDisk (values.anyM test) := by
  induction values with
  | nil => exact leavesDisk_pure false
  | cons value rest ih =>
      refine (leaves value).bind fun isTrue => ?_
      cases isTrue with
      | true => exact leavesDisk_pure true
      | false => exact ih

variable {disk : Disk (StateM σ)} {view : σ → Path → Found}

theorem Disk.Shows.run_contains (shows : disk.Shows view) (path : Path) (state : σ) :
    (disk.contains path).run state = ((view state path).isThere, state) := by
  rw [contains, shows.run_look_bind]
  rfl

theorem Disk.Shows.leavesDisk_contains (shows : disk.Shows view) (path : Path) :
    LeavesDisk (disk.contains path) := by
  intro state
  rw [shows.run_contains]

namespace Settings

theorem leavesDisk_firstMarked? (shows : disk.Shows view) (directories : List Path) :
    LeavesDisk (firstMarked? disk directories) := by
  induction directories with
  | nil => exact leavesDisk_pure none
  | cons directory rest ih =>
      have markLeaves : LeavesDisk (isMarked disk directory) :=
        leavesDisk_anyM (fun marker => shows.leavesDisk_contains (directory.join marker)) markers
      refine markLeaves.bind fun marked => ?_
      cases marked with
      | true => exact leavesDisk_pure (some directory)
      | false => exact ih

theorem leavesDisk_files (shows : disk.Shows view) (environment : Environment) (directory : Path) :
    LeavesDisk (files disk environment directory) := by
  refine LeavesDisk.bind ?_ fun _ => leavesDisk_pure _
  refine (leavesDisk_firstMarked? shows directory.ancestors).bind fun workspace? => ?_
  cases workspace? with
  | none => exact leavesDisk_pure _
  | some workspace => exact leavesDisk_pure _

theorem leavesDisk_load (shows : disk.Shows view) (paths : List Path) :
    LeavesDisk (load disk paths) := by
  intro state
  rw [load, run_loadOver shows]

/-- The settings are looked for in many places, and nothing changes by that. -/
theorem leavesDisk_reloadIn (shows : disk.Shows view) (environment : Environment) (directory : Path)
    (current : Settings) (trigger : Trigger) :
    LeavesDisk (reloadIn disk environment directory current trigger) :=
  (leavesDisk_files shows environment directory).bind fun paths =>
    (leavesDisk_load shows paths).bind fun _ => leavesDisk_pure _

end Settings

namespace CommandLine

/-! ### The log -/

/-- A log that can be opened, and that lies beside a file: writing to it leaves the file's
text. Without a log there is nothing to ask for. -/
structure LogBeside (disk : Disk (StateM σ)) (view : σ → Path → Found) (state : σ)
    (log : Option Path) (file : Path) : Prop where
  opens : ∀ path ∈ log, ((disk.append path "").run state).1 = true
  leavesText : ∀ path ∈ log, ∀ line before text, (view before file).text? = some text →
    (view ((disk.append path line).run before).2 file).text? = some text

theorem logBeside_none (disk : Disk (StateM σ)) (view : σ → Path → Found) (state : σ)
    (file : Path) : LogBeside disk view state none file where
  opens path isLog := by cases isLog
  leavesText path isLog := by cases isLog

variable {state : σ} {request : Request}

theorem run_openLog (beside : LogBeside disk view state request.logFile request.file) :
    ((openLog disk request).run state).1 = true := by
  unfold openLog
  cases isLog : request.logFile with
  | none => rfl
  | some path => exact beside.opens path isLog

theorem text?_openLog (beside : LogBeside disk view state request.logFile request.file)
    {before : σ} {text : String} (isText : (view before request.file).text? = some text) :
    (view ((openLog disk request).run before).2 request.file).text? = some text := by
  unfold openLog
  cases isLog : request.logFile with
  | none => exact isText
  | some path => exact beside.leavesText path isLog "" before text isText

theorem text?_writeLog (beside : LogBeside disk view state request.logFile request.file)
    (lines : List LogLine) {before : σ} {text : String}
    (isText : (view before request.file).text? = some text) :
    (view ((writeLog disk request lines).run before).2 request.file).text? = some text := by
  unfold writeLog
  cases isLog : request.logFile with
  | none => exact isText
  | some path => exact beside.leavesText path isLog _ before text isText

/-! ### The run -/

theorem searchFound_of_text? {found : Found} {text : String} (isText : found.text? = some text)
    (request : Request) : searchFound request found = search request text.toList := by
  cases found with
  | absent => cases isText
  | blocked => cases isText
  | directory => cases isText
  | file bytes => simp only [searchFound, isText]

theorem run_carryOut (shows : disk.Shows view) (request : Request)
    (beside : LogBeside disk view state request.logFile request.file) {text : String}
    (isText : (view state request.file).text? = some text) (environment : Settings.Environment)
    (directory : Path) :
    let due := answer request.file request.language request.back text.toList request.position
    ∃ log, ((carryOut disk environment directory request).run state).1 =
      { code := due.1, output := due.2, log := log } := by
  -- What is looked at is the disk after the log was opened and any warning went there.
  have opens : (openLog disk request).run state =
      (true, ((openLog disk request).run state).2) := Prod.ext (run_openLog beside) rfl
  have openedText := text?_openLog beside isText
  generalize ((openLog disk request).run state).2 = opened at opens openedText
  have reloads := (Settings.leavesDisk_reloadIn shows environment directory {} .alt).run_eq opened
  have writtenText (lines : List LogLine) := text?_writeLog beside lines openedText
  intro due
  unfold carryOut
  rw [run_bind_of_run opens, if_pos rfl, run_bind_of_run reloads, run_bind_eq,
    shows.run_look_bind, searchFound_of_text? (writtenText _)]
  obtain ⟨log, isSearched⟩ := search_eq request text.toList
  rw [isSearched]
  exact ⟨_, rfl⟩

theorem run_of_read (shows : disk.Shows view) {arguments : List String} {options : Options}
    (isRead : Options.read arguments = .ok options) (environment : Settings.Environment)
    (directory : Path) (state : σ) :
    (run disk environment directory arguments).run state =
      match Request.ofOptions? options (view state options.target.toList).isThere with
      | none => ({ code := 1, error := some .zeroBased }, state)
      | some request => (carryOut disk environment directory request).run state := by
  unfold run
  rw [isRead]
  dsimp only
  rw [run_bind_of_run (shows.run_contains options.target.toList state)]
  cases Request.ofOptions? options (view state options.target.toList).isThere <;> rfl

/-- All options can be given. However they are given, a run with a line or a column of zero
ends with an error and touches nothing, and any other prints the answer for the text of the
file, at the line and the column that count and in the language that counts. -/
theorem run_prints_lexical_definition (shows : disk.Shows view)
    (environment : Settings.Environment) (directory : Path) (state : σ) :
    (∀ options : Options, options.Readable → Options.read options.arguments = .ok options) ∧
      ∀ arguments options, Options.read arguments = .ok options →
        let target := Target.read (view state options.target.toList).isThere options.target.toList
        let line := (options.line.or target.line).getD 1
        let column := (options.column.or target.column).getD 1
        let language := options.language.getD (languageOfPath target.path)
        let ran := (run disk environment directory arguments).run state
        (line = 0 ∨ column = 0 → ran = ({ code := 1, error := some .zeroBased }, state)) ∧
          ∀ text, 0 < line → 0 < column → (view state target.path).text? = some text →
            LogBeside disk view state options.logFile target.path →
            let due := answer target.path language options.back text.toList
              ⟨line - 1, column - 1⟩
            ∃ log, ran.1 = { code := due.1, output := due.2, log := log } := by
  refine ⟨fun options readable => options.read_arguments readable, ?_⟩
  intro arguments options isRead target line column language ran
  have isRun := run_of_read shows isRead environment directory state
  constructor
  · intro isZero
    have isNone : Request.ofOptions? options (view state options.target.toList).isThere = none :=
      if_pos isZero
    rw [isNone] at isRun
    exact isRun
  · intro text hasLine hasColumn isText beside
    have isRequest : Request.ofOptions? options (view state options.target.toList).isThere =
        some { file := target.path, position := ⟨line - 1, column - 1⟩, language := language,
               back := options.back, verbosity := options.verbosity,
               logFile := options.logFile } :=
      if_neg (not_or.mpr ⟨Nat.ne_of_gt hasLine, Nat.ne_of_gt hasColumn⟩)
    rw [isRequest] at isRun
    change ∃ log, ((run disk environment directory arguments).run state).1 = _
    rw [isRun]
    exact run_carryOut shows _ beside isText environment directory

end CommandLine

end

namespace CommandLine

def twoLines : FileTree :=
  FileTree.empty.insert "f.py".toList (.file "x = 1\nx".toUTF8)

/-- The caret is asked for past the end of the second line. -/
theorem run_prints_lexical_definition_past_end :
    ∃ log, ((run FileTree.disk { home := ['h'] } ['d'] ["--back", "f.py:2:9"]).run twoLines).1 =
      { code := 0, output := ["f.py:1:1".toList, "f.py:2:2".toList], log := log } := by
  have isRead : Options.read ["--back", "f.py:2:9"] =
      .ok { target := "f.py:2:9", back := true } := by decide +kernel
  have isTarget : Target.read (twoLines.look "f.py:2:9".toList).isThere "f.py:2:9".toList =
      { path := "f.py".toList, line := some 2, column := some 9 } := by decide +kernel
  have isText : (twoLines.look "f.py".toList).text? = some "x = 1\nx" := by decide +kernel
  have isAnswer : answer "f.py".toList "python" true "x = 1\nx".toList ⟨1, 8⟩ =
      (0, ["f.py:1:1".toList, "f.py:2:2".toList]) := by decide +kernel
  have prints := ((run_prints_lexical_definition FileTree.disk_shows { home := ['h'] } ['d']
    twoLines).2 _ _ isRead).2 "x = 1\nx"
  dsimp only at prints
  rw [isTarget] at prints
  have printed := prints (by decide) (by decide) isText (logBeside_none _ _ _ _)
  change ∃ log, _ = Outcome.mk (answer "f.py".toList "python" true "x = 1\nx".toList ⟨1, 8⟩).1
    (answer "f.py".toList "python" true "x = 1\nx".toList ⟨1, 8⟩).2 none none log at printed
  rw [isAnswer] at printed
  exact printed

end CommandLine

end SymbolJump
