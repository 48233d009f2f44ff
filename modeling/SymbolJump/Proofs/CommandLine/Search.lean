/-
A search prints the lexical definition.

Between the request and what is printed lie a content type made from the
language and read back, an editor, a navigator with a history, and two of its
commands. None of them shows in the answer: it is the last definition before
the token at the caret, under the rules of the language, and the caret itself
when the way back is asked for.
-/

import SymbolJump.CommandLine.Run
import SymbolJump.Proofs.Navigator.Keybinding

namespace SymbolJump

open Text

/-! ### Languages and content types -/

namespace Definition

theorem languageOfType_source (language : String) :
    languageOfType (sourceTypePrefix ++ language) =
      if language = "rsrc" then "R" else language := by
  have behind : withoutPrefix? sourceTypePrefix.toList (sourceTypePrefix ++ language).toList =
      some language.toList := by
    rw [String.toList_append, withoutPrefix?,
      if_pos (List.isPrefixOf_iff_prefix.mpr (List.prefix_append _ _)), List.drop_left]
  simp only [languageOfType, behind, Option.getD_some, String.ofList_toList]

theorem Registry.rulesFor_congr (registry : Registry) {language other : String}
    (same : languageKey language = languageKey other) :
    registry.rulesFor language = registry.rulesFor other := by
  simp only [rulesFor, find?, same]

/-- The rules survive the way through a content type, where `rsrc` is another name of R. -/
theorem Registry.rulesFor_typeOfLanguage (registry : Registry) (language : String) :
    registry.rulesFor (languageOfType (typeOfLanguage language)) =
      registry.rulesFor (if language = "rsrc" then "R" else language) := by
  unfold typeOfLanguage
  split
  · next isR =>
      rw [languageOfType_source, if_pos rfl]
      rcases isR with rfl | rfl
      · rfl
      · exact registry.rulesFor_congr (by decide)
  · rw [languageOfType_source]

end Definition

/-! ### Commands on the current file -/

theorem Jumper.usageAtCursor?_file (jumper : FileJumper) :
    (Jumper.file jumper).usageAtCursor? =
      if jumper.editor.tokenAtCursor.isEmpty then none
      else some { token := jumper.editor.tokenAtCursor, cell := some 0 } := by
  simp [usageAtCursor?, activeEditor?, editors, List.findIdx?_cons]

def FileJumper.definitionAtCursor? (jumper : FileJumper) : Option Token :=
  if jumper.editor.tokenAtCursor.isEmpty then none
  else jumper.definition? { token := jumper.editor.tokenAtCursor, cell := some 0 }

theorem FileJumper.jump_definitionAtCursor? {jumper : FileJumper} {token : Token}
    (found : jumper.definitionAtCursor? = some token) :
    jumper.jump (.ofToken token) =
      { jumper with
        editor := { jumper.editor with
          cursor := positionAt jumper.editor.text token.offset, focused := true } } := by
  unfold definitionAtCursor? at found
  split at found
  · cases found
  · have arrived : jumper.editor.arrive (.ofToken token) = _ := Editor.arrive_definition none found
    rw [jump_eq, arrived]

namespace Navigator

theorem jumpAtCursor_of_none {jumper : FileJumper} (missing : jumper.definitionAtCursor? = none)
    (history : History) : jumpAtCursor (.file jumper) history = (false, .file jumper, history) := by
  unfold FileJumper.definitionAtCursor? at missing
  unfold jumpAtCursor
  rw [Jumper.usageAtCursor?_file]
  by_cases isEmpty : jumper.editor.tokenAtCursor.isEmpty = true
  · rw [if_pos isEmpty]
  · rw [if_neg isEmpty] at missing ⊢
    simp only [Jumper.jumpToDefinition, FileJumper.jumpToDefinition_of_none missing]

theorem jumpAtCursor_of_some {jumper : FileJumper} {token : Token}
    (found : jumper.definitionAtCursor? = some token) (history : History) :
    jumpAtCursor (.file jumper) history =
      (true, .file (jumper.jump (.ofToken token)),
        history.store jumper.surface (.ofPosition jumper.editor.cursor)) := by
  unfold FileJumper.definitionAtCursor? at found
  unfold jumpAtCursor
  rw [Jumper.usageAtCursor?_file]
  by_cases isEmpty : jumper.editor.tokenAtCursor.isEmpty = true
  · rw [if_pos isEmpty] at found
    cases found
  · rw [if_neg isEmpty] at found ⊢
    simp only [Jumper.jumpToDefinition, FileJumper.jumpToDefinition_of_some found]

section

variable {navigator : Navigator} {id : String} {entry : OpenFile}

theorem withJumper?_file (isFile : navigator.files.get? id = some entry)
    {move : Jumper → History → Bool × Jumper × History} {moved : Bool} {jumper : FileJumper}
    {history : History}
    (isMove : move (.file entry.jumper) navigator.history = (moved, .file jumper, history)) :
    navigator.withJumper? (.file id) move =
      some (moved, { navigator with
        files := navigator.files.insert id { entry with jumper := jumper }
        history := history }) := by
  simp only [withJumper?, jumper?, isFile, Option.map_some, isMove, setJumper]

theorem execute_fileEditor_of_none (isCurrent : navigator.currentFile = some id)
    (isFile : navigator.files.get? id = some entry)
    (missing : entry.jumper.definitionAtCursor? = none) :
    (navigator.execute .fileEditor).1 = false := by
  have commanded : navigator.currentFor .fileEditor = some (.file id) :=
    congrArg (Option.map Surface.file) isCurrent
  rw [execute_eq rfl commanded, withJumper?_file isFile (jumpAtCursor_of_none missing _)]
  rfl

theorem execute_fileEditor_of_some (isCurrent : navigator.currentFile = some id)
    (isFile : navigator.files.get? id = some entry) {token : Token}
    (found : entry.jumper.definitionAtCursor? = some token) :
    navigator.execute .fileEditor =
      (true, { navigator with
        files := navigator.files.insert id
          { entry with jumper := entry.jumper.jump (.ofToken token) }
        history := navigator.history.store entry.jumper.surface
          (.ofPosition entry.jumper.editor.cursor) }) := by
  have commanded : navigator.currentFor .fileEditor = some (.file id) :=
    congrArg (Option.map Surface.file) isCurrent
  rw [execute_eq rfl commanded, withJumper?_file isFile (jumpAtCursor_of_some found _)]
  rfl

theorem execute_eq_jumpBack {command : JumpCommand} (backward : command.isBack = true)
    {surface : Surface} (isCurrent : navigator.currentFor command = some surface) :
    navigator.execute command =
      (navigator.withJumper? surface Jumper.jumpBack).getD (false, navigator) := by
  unfold execute
  rw [isCurrent, backward]
  rfl

theorem execute_fileEditorBack (isCurrent : navigator.currentFile = some id)
    (isFile : navigator.files.get? id = some entry) {latest : Destination}
    {earlier : List Destination}
    (stacked : navigator.history.stack entry.jumper.surface = latest :: earlier) :
    navigator.execute .fileEditorBack =
      (true, { navigator with
        files := navigator.files.insert id { entry with jumper := entry.jumper.jump latest }
        history := (navigator.history.recollect entry.jumper.surface).2 }) := by
  have commanded : navigator.currentFor .fileEditorBack = some (.file id) :=
    congrArg (Option.map Surface.file) isCurrent
  have isMove : (Jumper.file entry.jumper).jumpBack navigator.history =
      (true, .file (entry.jumper.jump latest),
        (navigator.history.recollect entry.jumper.surface).2) := by
    simp only [Jumper.jumpBack, FileJumper.jumpBack_of_cons stacked]
  rw [execute_eq_jumpBack rfl commanded, withJumper?_file isFile isMove]
  rfl

end

end Navigator

namespace CommandLine

/-! ### The search as a whole -/

/-- The definition of the token at a caret, as the text alone gives it. -/
def lexicalDefinition? (language : String) (text : List Char) (caret : Position) : Option Token :=
  let token := tokenAtPosition text caret
  let rules := Definition.Registry.standard.rulesFor (if language = "rsrc" then "R" else language)
  if token.isEmpty then none else Definition.lastDefinition? rules text token token.offset

/-- A place in a file, counted from one. -/
def shown (file : Path) (position : Position) : List Char :=
  Target.text file (position.line + 1) (position.column + 1)

/-- The exit code and the lines printed for a caret in a text. -/
def answer (file : Path) (language : String) (back : Bool) (text : List Char)
    (position : Position) : Nat × List (List Char) :=
  let caret := clamp text position
  match lexicalDefinition? language text caret with
  | none => (1, [])
  | some found =>
      (0, shown file (positionAt text found.offset) :: if back then [shown file caret] else [])

/-- The file that is searched, as the navigator takes it up. -/
def fileOf (request : Request) (text : List Char) : FileJumper :=
  .ofEditor .standard
    (({ id := editorId
        text := text
        contentType := Definition.typeOfLanguage request.language } : Editor).setCursor
          request.position)
    request.file

theorem definitionAtCursor?_fileOf (request : Request) (text : List Char) :
    (fileOf request text).definitionAtCursor? =
      lexicalDefinition? request.language text (clamp text request.position) := by
  have sameRules : (fileOf request text).rules = Definition.Registry.standard.rulesFor
      (if request.language = "rsrc" then "R" else request.language) := by
    simp only [FileJumper.rules, fileOf, FileJumper.ofEditor, Editor.setCursor,
      Definition.Registry.rulesFor_typeOfLanguage]
  unfold FileJumper.definitionAtCursor? FileJumper.definition?
  rw [sameRules]
  rfl

theorem currentFile_navigatorOf (request : Request) (text : List Char) :
    (navigatorOf request text).currentFile = some editorId := rfl

theorem files_navigatorOf (request : Request) (text : List Char) :
    (navigatorOf request text).files.get? editorId =
      some { jumper := fileOf request text, bridge := none } := rfl

theorem location_eq {navigator : Navigator} {entry : OpenFile}
    (isFile : navigator.files.get? editorId = some entry) (request : Request) :
    location request navigator = [shown request.file entry.jumper.editor.cursor] := by
  unfold location
  rw [isFile]
  rfl

/-- The file once the caret has gone to a definition. -/
def fileAt (request : Request) (text : List Char) (position : Position) : FileJumper :=
  let jumper := fileOf request text
  { jumper with editor := { jumper.editor with cursor := position, focused := true } }

/-- The navigator once the caret has gone to a definition. -/
def navigatorAt (request : Request) (text : List Char) (position : Position) : Navigator :=
  let navigator := navigatorOf request text
  { navigator with
    files := navigator.files.insert editorId
      { jumper := fileAt request text position, bridge := none }
    history := navigator.history.store (fileOf request text).surface
      (.ofPosition (clamp text request.position)) }

theorem files_navigatorAt (request : Request) (text : List Char) (position : Position) :
    (navigatorAt request text position).files.get? editorId =
      some { jumper := fileAt request text position, bridge := none } :=
  Keyed.get?_insert_self _ _ _

theorem execute_navigatorOf {request : Request} {text : List Char} {found : Token}
    (isFound : lexicalDefinition? request.language text (clamp text request.position) =
      some found) :
    (navigatorOf request text).execute .fileEditor =
      (true, navigatorAt request text (positionAt text found.offset)) := by
  rw [← definitionAtCursor?_fileOf] at isFound
  rw [Navigator.execute_fileEditor_of_some (currentFile_navigatorOf request text)
    (files_navigatorOf request text) isFound]
  dsimp only
  rw [FileJumper.jump_definitionAtCursor? isFound]
  rfl

/-- The way back leads to the caret that was asked about. -/
theorem execute_navigatorAt (request : Request) (text : List Char) (position : Position) :
    ∃ returned, (navigatorAt request text position).execute .fileEditorBack = (true, returned) ∧
      location request returned = [shown request.file (clamp text request.position)] := by
  have stacked : (navigatorAt request text position).history.stack
      (fileAt request text position).surface =
        .ofPosition (clamp text request.position) :: [] :=
    History.stack_store_self _ _ _
  -- The stored caret is clamped once more on arrival, and the position was clamped before.
  have isCaret : clamp text (clamp text (clamp text request.position)) =
      clamp text request.position := by
    rw [clamp_clamp, clamp_clamp]
  refine ⟨_, Navigator.execute_fileEditorBack rfl (files_navigatorAt request text position)
    stacked, ?_⟩
  rw [location_eq (Keyed.get?_insert_self _ _ _), FileJumper.jump_eq,
    Editor.arrive_eq_of_caret isCaret]

theorem search_of_none {request : Request} {text : List Char}
    (missing : lexicalDefinition? request.language text (clamp text request.position) = none) :
    search request text = { code := 1, log := [.nothingFound] } := by
  rw [← definitionAtCursor?_fileOf] at missing
  have stays := Navigator.execute_fileEditor_of_none (currentFile_navigatorOf request text)
    (files_navigatorOf request text) missing
  unfold search
  split
  · rfl
  · next moves =>
      rw [moves] at stays
      cases stays

theorem search_of_some {request : Request} {text : List Char} {found : Token}
    (isFound : lexicalDefinition? request.language text (clamp text request.position) =
      some found) :
    search request text =
      { code := 0
        output := shown request.file (positionAt text found.offset) ::
          if request.back then [shown request.file (clamp text request.position)] else [] } := by
  obtain ⟨returned, goesBack, isBack⟩ :=
    execute_navigatorAt request text (positionAt text found.offset)
  have isThere : location request (navigatorAt request text (positionAt text found.offset)) =
      [shown request.file (positionAt text found.offset)] :=
    location_eq (files_navigatorAt request text _) request
  unfold search
  rw [execute_navigatorOf isFound]
  dsimp only
  rw [isThere, goesBack]
  cases request.back with
  | false => rfl
  | true => simp only [if_true, isBack, List.singleton_append]

theorem search_eq (request : Request) (text : List Char) :
    ∃ log, search request text =
      { code := (answer request.file request.language request.back text request.position).1
        output := (answer request.file request.language request.back text request.position).2
        log := log } := by
  unfold answer
  dsimp only
  cases isFound : lexicalDefinition? request.language text (clamp text request.position) with
  | none => exact ⟨_, search_of_none isFound⟩
  | some found => exact ⟨_, search_of_some isFound⟩

end CommandLine

end SymbolJump
