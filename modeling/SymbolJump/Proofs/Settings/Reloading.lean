/-
In effect is the last configuration that was good.

Settings are loaded again and again, each time from files that may be missing,
unreadable, malformed or in order, and each attempt is given the settings that
the one before returned. An attempt with a file that cannot be used, or with a
trigger that is none, changes neither the settings nor the trigger in effect.
All others bring both to the same value. That value depends on nothing but
what the files that are there have under the key of the trigger.
-/

import SymbolJump.FileTree
import SymbolJump.Proofs.Toml.Documents
import SymbolJump.Settings.Load

namespace SymbolJump.Settings

open Toml (merge IsDocument)

/-! ### What files say -/

def document? (found : Found) : Option Toml.Value :=
  found.text?.bind Toml.parse?

/-- The documents of all files that have one, laid over one another. -/
def mergedDocument (found : List Found) : Toml.Value :=
  (found.filterMap document?).foldl (merge mergeDepth) (.table [])

def mergedModifier? (found : List Found) : Option Toml.Value :=
  (mergedDocument found).get? "modifier"

/-- Whether each of several files is missing or holds a document. -/
def Usable (found : List Found) : Prop :=
  ∀ file ∈ found, file ≠ .absent → (document? file).isSome

/-- Whether settings can be had from files: all of them can be used, and what they say about
the trigger names one. -/
def Loads (found : List Found) : Prop :=
  Usable found ∧ ∀ value ∈ mergedModifier? found, (triggerOf? value).isSome

/-- The trigger that files name, the alt key if they name none. -/
def configured (found : List Found) : Trigger :=
  ((mergedModifier? found).bind triggerOf?).getD .alt

/-- What a file that is there says about the trigger, if it can be used. -/
def tells? : Found → Option (Option (Option Toml.Value))
  | .absent => none
  | found => some ((document? found).map (·.get? "modifier"))

def said (found : List Found) : List (Option (Option Toml.Value)) :=
  found.filterMap tells?

theorem tells?_of_present {file : Found} (present : file ≠ .absent) :
    tells? file = some ((document? file).map (·.get? "modifier")) := by
  cases file with
  | absent => exact absurd rfl present
  | blocked => rfl
  | directory => rfl
  | file bytes => rfl

theorem bind_tells? (file : Found) :
    (tells? file).bind id = (document? file).map (·.get? "modifier") := by
  cases file with
  | absent => rfl
  | blocked => rfl
  | directory => rfl
  | file bytes => rfl

/-- Whether files can be used is heard from those that are there. -/
theorem usable_iff (found : List Found) : Usable found ↔ ∀ heard ∈ said found, heard.isSome := by
  constructor
  · intro usable heard member
    obtain ⟨file, isFile, isHeard⟩ := List.mem_filterMap.mp member
    have present : file ≠ .absent := by
      rintro rfl
      cases isHeard
    rw [tells?_of_present present] at isHeard
    cases isHeard
    rw [Option.isSome_map]
    exact usable file isFile present
  · intro allHeard file isFile present
    have heard := allHeard _ (List.mem_filterMap.mpr ⟨file, isFile, tells?_of_present present⟩)
    rw [Option.isSome_map] at heard
    exact heard

instance (found : List Found) : Decidable (Usable found) :=
  decidable_of_iff _ (usable_iff found).symm

instance (found : List Found) : Decidable (Loads found) :=
  inferInstanceAs (Decidable (_ ∧ _))

theorem isDocument_of_document? {found : Found} {document : Toml.Value}
    (isDocument : document? found = some document) : IsDocument document := by
  obtain ⟨text, _, isRead⟩ := Option.bind_eq_some_iff.mp isDocument
  exact Toml.isDocument_of_parse? isRead

theorem map_document? (found : List Found) :
    (found.filterMap document?).map (·.get? "modifier") = (said found).filterMap id := by
  rw [said, List.filterMap_filterMap, List.map_filterMap]
  exact congrArg (List.filterMap · found) (funext fun file => (bind_tells? file).symm)

theorem mergedModifier?_eq (found : List Found) :
    mergedModifier? found =
      ((said found).filterMap id).foldl (Option.merge (merge 2)) none := by
  rw [← map_document?]
  refine Toml.get?_foldl_merge ?_ 2 [] "modifier"
  intro document member
  obtain ⟨file, _, isDocument⟩ := List.mem_filterMap.mp member
  exact isDocument_of_document? isDocument

/-! ### Values laid over one another -/

section

variable {values later : List (Option Toml.Value)}

theorem foldl_merge_eq_none_iff {held : Option Toml.Value} :
    values.foldl (Option.merge (merge 2)) held = none ↔
      held = none ∧ ∀ value ∈ values, value = none := by
  induction values generalizing held with
  | nil => simp
  | cons value rest ih =>
      rw [List.foldl_cons, ih, List.forall_mem_cons]
      cases held <;> cases value <;> simp

theorem merge_string (depth : Nat) (lower : Toml.Value) (name : String) :
    merge depth lower (.string name) = .string name := by
  cases depth <;> cases lower <;> rfl

theorem foldl_merge_of_last_string {held : Option Toml.Value} {name : String}
    (unsaid : ∀ value ∈ later, value = none) :
    (values ++ some (.string name) :: later).foldl (Option.merge (merge 2)) held =
      some (.string name) := by
  rw [List.foldl_append, List.foldl_cons]
  have named : Option.merge (merge 2) (values.foldl (Option.merge (merge 2)) held)
      (some (.string name)) = some (.string name) := by
    cases values.foldl (Option.merge (merge 2)) held with
    | none => rfl
    | some lower => exact congrArg some (merge_string 2 lower name)
  rw [named]
  induction later with
  | nil => rfl
  | cons value rest ih =>
      obtain ⟨isUnsaid, restUnsaid⟩ := List.forall_mem_cons.mp unsaid
      rw [List.foldl_cons, isUnsaid]
      exact ih restUnsaid

end

/-! ### Loading -/

section

variable {look : Path → Found} {paths : List Path}

theorem layer_of_document {file : Found} {upper : Toml.Value}
    (isDocument : document? file = some upper) (document : Toml.Value) (path : Path) :
    layer document path file = .ok (merge mergeDepth document upper) := by
  obtain ⟨text, isText, isRead⟩ := Option.bind_eq_some_iff.mp isDocument
  cases file with
  | absent => cases isText
  | blocked => cases isText
  | directory => cases isText
  | file bytes => simp only [layer, isText, isRead]

theorem layer_of_unusable {file : Found} (present : file ≠ .absent)
    (unusable : document? file = none) (document : Toml.Value) (path : Path) :
    ∃ error, layer document path file = .error error := by
  cases file with
  | absent => exact absurd rfl present
  | blocked => exact ⟨_, rfl⟩
  | directory => exact ⟨_, rfl⟩
  | file bytes =>
      cases isText : (Found.file bytes).text? with
      | none => exact ⟨.unreadable path, by simp only [layer, isText]⟩
      | some text =>
          have malformed : Toml.parse? text = none := by
            rw [document?, isText] at unusable
            exact unusable
          exact ⟨.malformed path, by simp only [layer, isText, malformed]⟩

theorem foldlM_layer_of_usable (usable : Usable (paths.map look)) (document : Toml.Value) :
    paths.foldlM (fun document path => layer document path (look path)) document =
      .ok (((paths.map look).filterMap document?).foldl (merge mergeDepth) document) := by
  induction paths generalizing document with
  | nil => rfl
  | cons path rest ih =>
      obtain ⟨first, restUsable⟩ := List.forall_mem_cons.mp usable
      rw [List.foldlM_cons, List.map_cons]
      cases isDocument : document? (look path) with
      | none =>
          have isAbsent : look path = .absent := by
            refine Classical.byContradiction fun present => ?_
            have isSome := first present
            rw [isDocument] at isSome
            cases isSome
          rw [List.filterMap_cons_none isDocument, isAbsent]
          exact ih restUsable document
      | some upper =>
          rw [List.filterMap_cons_some isDocument, layer_of_document isDocument]
          exact ih restUsable _

theorem foldlM_layer_of_unusable (unusable : ¬Usable (paths.map look)) (document : Toml.Value) :
    ∃ error, paths.foldlM (fun document path => layer document path (look path)) document =
      .error error := by
  induction paths generalizing document with
  | nil => exact absurd (fun _ member => by cases member) unusable
  | cons path rest ih =>
      rw [List.foldlM_cons]
      cases isLayered : layer document path (look path) with
      | error error => exact ⟨error, rfl⟩
      | ok layered =>
          refine ih (fun restUsable => unusable ?_) layered
          refine List.forall_mem_cons.mpr ⟨?_, restUsable⟩
          intro present
          cases isDocument : document? (look path) with
          | some upper => rfl
          | none =>
              obtain ⟨error, isError⟩ := layer_of_unusable present isDocument document path
              rw [isError] at isLayered
              cases isLayered

end

/-! ### One attempt -/

/-- The state of the disk when settings are loaded, and the files they are loaded from. -/
structure Attempt (σ : Type) where
  state : σ
  paths : List Path

def Attempt.found {σ : Type} (view : σ → Path → Found) (attempt : Attempt σ) : List Found :=
  attempt.paths.map (view attempt.state)

section

variable {σ : Type} {disk : Disk (StateM σ)} {view : σ → Path → Found}

/-- Loads the settings once more, on top of what came of the attempt before. -/
def loadAgain (disk : Disk (StateM σ)) (before : Reloaded) (attempt : Attempt σ) : Reloaded :=
  reload before.settings before.trigger ((load disk attempt.paths).run attempt.state).1

/-- A sequence of attempts, from the settings that count without any file. -/
def reloads (disk : Disk (StateM σ)) (attempts : List (Attempt σ)) : Reloaded :=
  attempts.foldl (loadAgain disk) { settings := {}, trigger := .alt }

theorem run_loadOver (shows : disk.Shows view) (document : Toml.Value) (paths : List Path)
    (state : σ) :
    (loadOver disk document paths).run state =
      (paths.foldlM (fun document path => layer document path (view state path)) document,
        state) := by
  induction paths generalizing document with
  | nil => rfl
  | cons path rest ih =>
      rw [loadOver, shows.run_look_bind, List.foldlM_cons]
      cases layer document path (view state path) with
      | error error => rfl
      | ok layered => exact ih layered

theorem loadAgain_of_usable (shows : disk.Shows view) (before : Reloaded) {attempt : Attempt σ}
    (usable : Usable (attempt.found view)) :
    loadAgain disk before attempt =
      reload before.settings before.trigger (.ok (mergedDocument (attempt.found view))) := by
  unfold loadAgain load
  rw [run_loadOver shows, foldlM_layer_of_usable usable]
  rfl

theorem loadAgain_of_unusable (shows : disk.Shows view) (before : Reloaded)
    {attempt : Attempt σ} (unusable : ¬Usable (attempt.found view)) :
    loadAgain disk before attempt =
      { settings := before.settings, trigger := before.trigger, warning := some .unloaded } := by
  obtain ⟨error, isError⟩ := foldlM_layer_of_unusable unusable (.table [])
  unfold loadAgain load
  rw [run_loadOver shows, isError]
  rfl

theorem decode?_of_loads {found : List Found} (loads : Loads found) :
    decode? (mergedDocument found) = some { trigger := configured found } := by
  have named := loads.2
  unfold decode? configured mergedModifier? at *
  cases isModifier : (mergedDocument found).get? "modifier" with
  | none => rfl
  | some value =>
      obtain ⟨trigger, isTrigger⟩ := Option.isSome_iff_exists.mp (named value isModifier)
      simp only [isTrigger, Option.map_some, Option.bind_some, Option.getD_some]

theorem decode?_of_not_loads {found : List Found} (usable : Usable found) (fails : ¬Loads found) :
    decode? (mergedDocument found) = none := by
  have unnamed : ¬∀ value ∈ mergedModifier? found, (triggerOf? value).isSome :=
    fun named => fails ⟨usable, named⟩
  obtain ⟨value, unnamed⟩ := Classical.not_forall.mp unnamed
  obtain ⟨isModifier, notTrigger⟩ := Classical.not_imp.mp unnamed
  change (mergedDocument found).get? "modifier" = some value at isModifier
  simp only [decode?, isModifier, Option.not_isSome_iff_eq_none.mp notTrigger, Option.map_none]

theorem loadAgain_of_loads (shows : disk.Shows view) (before : Reloaded) {attempt : Attempt σ}
    (loads : Loads (attempt.found view)) :
    loadAgain disk before attempt =
      { settings := { trigger := configured (attempt.found view) }
        trigger := configured (attempt.found view) } := by
  rw [loadAgain_of_usable shows before loads.1, reload, decode?_of_loads loads]

theorem loadAgain_of_not_loads (shows : disk.Shows view) (before : Reloaded)
    {attempt : Attempt σ} (fails : ¬Loads (attempt.found view)) :
    ∃ warning, loadAgain disk before attempt =
      { settings := before.settings, trigger := before.trigger, warning := some warning } := by
  by_cases usable : Usable (attempt.found view)
  · refine ⟨.invalid, ?_⟩
    rw [loadAgain_of_usable shows before usable, reload, decode?_of_not_loads usable fails]
  · exact ⟨.unloaded, loadAgain_of_unusable shows before usable⟩

/-- Attempts from which the same is heard are not told apart. -/
theorem loadAgain_congr (shows : disk.Shows view) (before : Reloaded) {attempt other : Attempt σ}
    (same : said (other.found view) = said (attempt.found view)) :
    loadAgain disk before other = loadAgain disk before attempt := by
  have sameModifier : mergedModifier? (other.found view) =
      mergedModifier? (attempt.found view) := by
    rw [mergedModifier?_eq, mergedModifier?_eq, same]
  have sameUse : Usable (other.found view) ↔ Usable (attempt.found view) := by
    rw [usable_iff, usable_iff, same]
  by_cases usable : Usable (attempt.found view)
  · rw [loadAgain_of_usable shows before usable,
      loadAgain_of_usable shows before (sameUse.mpr usable)]
    unfold mergedModifier? at sameModifier
    simp only [reload, decode?, sameModifier]
  · rw [loadAgain_of_unusable shows before usable,
      loadAgain_of_unusable shows before (fun otherUsable => usable (sameUse.mp otherUsable))]

/-! ### Sequences of attempts -/

theorem reloads_append (disk : Disk (StateM σ)) (earlier later : List (Attempt σ)) :
    reloads disk (earlier ++ later) = later.foldl (loadAgain disk) (reloads disk earlier) :=
  List.foldl_append

theorem foldl_loadAgain_of_failed (shows : disk.Shows view) {attempts : List (Attempt σ)}
    (fail : ∀ attempt ∈ attempts, ¬Loads (attempt.found view)) (before : Reloaded) :
    (attempts.foldl (loadAgain disk) before).settings = before.settings ∧
      (attempts.foldl (loadAgain disk) before).trigger = before.trigger := by
  induction attempts generalizing before with
  | nil => exact ⟨rfl, rfl⟩
  | cons attempt rest ih =>
      obtain ⟨fails, restFail⟩ := List.forall_mem_cons.mp fail
      obtain ⟨warning, isKept⟩ := loadAgain_of_not_loads shows before fails
      rw [List.foldl_cons, isKept]
      exact ih restFail _

theorem reloads_congr (shows : disk.Shows view) {attempts others : List (Attempt σ)}
    (same : others.map (fun other => said (other.found view)) =
      attempts.map (fun attempt => said (attempt.found view))) (before : Reloaded) :
    others.foldl (loadAgain disk) before = attempts.foldl (loadAgain disk) before := by
  induction attempts generalizing others before with
  | nil =>
      rw [List.map_nil, List.map_eq_nil_iff] at same
      rw [same]
  | cons attempt rest ih =>
      cases others with
      | nil => cases same
      | cons other others =>
          rw [List.map_cons, List.map_cons] at same
          obtain ⟨sameFirst, sameRest⟩ := List.cons.inj same
          rw [List.foldl_cons, List.foldl_cons, loadAgain_congr shows before sameFirst]
          exact ih sameRest _

/-- What an attempt does to the settings and to the trigger in effect. -/
structure Settles (before after : Reloaded) (found : List Found) : Prop where
  loaded_iff : after.warning = none ↔ Loads found
  applied : Loads found →
    after.settings.trigger = configured found ∧ after.trigger = configured found
  kept : ¬Loads found → after.settings = before.settings ∧ after.trigger = before.trigger

theorem settles_loadAgain (shows : disk.Shows view) (before : Reloaded) (attempt : Attempt σ) :
    Settles before (loadAgain disk before attempt) (attempt.found view) := by
  by_cases loads : Loads (attempt.found view)
  · rw [loadAgain_of_loads shows before loads]
    exact ⟨iff_of_true rfl loads, fun _ => ⟨rfl, rfl⟩, fun fails => absurd loads fails⟩
  · obtain ⟨warning, isKept⟩ := loadAgain_of_not_loads shows before loads
    rw [isKept]
    exact ⟨iff_of_false (Option.some_ne_none warning) loads, fun loaded => absurd loaded loads,
      fun _ => ⟨rfl, rfl⟩⟩

/-- How the documents of files decide on the trigger. -/
structure Decides (found : List Found) : Prop where
  unnamed_iff : mergedModifier? found = none ↔
    ∀ document ∈ found.filterMap document?, document.get? "modifier" = none
  lastString : ∀ earlier document later name,
    found.filterMap document? = earlier ++ document :: later →
    document.get? "modifier" = some (.string name) →
    (∀ other ∈ later, other.get? "modifier" = none) → mergedModifier? found = some (.string name)

theorem decides (found : List Found) : Decides found where
  unnamed_iff := by
    rw [mergedModifier?_eq, ← map_document?, foldl_merge_eq_none_iff]
    simp only [true_and, List.forall_mem_map]
  lastString := by
    intro earlier document later name isSplit isNamed unsaid
    rw [mergedModifier?_eq, ← map_document?, isSplit, List.map_append, List.map_cons, isNamed]
    exact foldl_merge_of_last_string (List.forall_mem_map.mpr unsaid)

/-- Every attempt in a sequence either loads, and then brings the settings and the trigger to
what its files configure, or leaves both as they were. So what counts is what the last attempt
that loaded has configured, and without one the alt key. Attempts may be exchanged for others
from whose files the same is heard about the trigger: files that are missing and keys of other
names do not matter. -/
theorem last_good_configuration_counts (shows : disk.Shows view) (attempts : List (Attempt σ)) :
    (∀ attempt, Settles (reloads disk attempts) (reloads disk (attempts ++ [attempt]))
        (attempt.found view) ∧ Decides (attempt.found view)) ∧
      (∀ earlier good later, attempts = earlier ++ good :: later → Loads (good.found view) →
        (∀ failed ∈ later, ¬Loads (failed.found view)) →
          (reloads disk attempts).settings.trigger = configured (good.found view) ∧
            (reloads disk attempts).trigger = configured (good.found view)) ∧
      ((∀ failed ∈ attempts, ¬Loads (failed.found view)) →
        (reloads disk attempts).settings = {} ∧ (reloads disk attempts).trigger = .alt) ∧
      ∀ others : List (Attempt σ),
        others.map (fun other => said (other.found view)) =
          attempts.map (fun attempt => said (attempt.found view)) →
        reloads disk others = reloads disk attempts := by
  refine ⟨?_, ?_, ?_, fun others same => reloads_congr shows same _⟩
  · intro attempt
    rw [reloads_append]
    exact ⟨settles_loadAgain shows _ attempt, decides _⟩
  · rintro earlier good later rfl loads fail
    have kept := foldl_loadAgain_of_failed shows fail
      (loadAgain disk (reloads disk earlier) good)
    rw [loadAgain_of_loads shows _ loads] at kept
    rw [reloads_append, List.foldl_cons, loadAgain_of_loads shows _ loads]
    exact ⟨congrArg Settings.trigger kept.1, kept.2⟩
  · intro fail
    exact foldl_loadAgain_of_failed shows fail _

end

/-- An attempt with one file and a missing one. -/
def goodAttempt : Attempt FileTree where
  state := FileTree.empty.insert ['u'] (.file "modifier = 'Shift'".toUTF8)
  paths := [['u'], ['w']]

/-- An attempt where the upper file names no key as trigger. -/
def failedAttempt : Attempt FileTree where
  state := (FileTree.empty.insert ['u'] (.file "modifier = 'Meta'".toUTF8)).insert ['w']
    (.file "modifier = 3".toUTF8)
  paths := [['u'], ['w']]

theorem last_good_configuration_counts_after_failure :
    (reloads FileTree.disk [goodAttempt, failedAttempt]).settings.trigger = .shift ∧
      (reloads FileTree.disk [goodAttempt, failedAttempt]).trigger = .shift := by
  have loads : Loads (goodAttempt.found FileTree.look) := by decide +kernel
  have fails : ∀ failed ∈ [failedAttempt], ¬Loads (failed.found FileTree.look) := by
    decide +kernel
  have isShift : configured (goodAttempt.found FileTree.look) = .shift := by decide +kernel
  have counts := (last_good_configuration_counts FileTree.disk_shows
    [goodAttempt, failedAttempt]).2.1 [] goodAttempt [failedAttempt] rfl loads fails
  rw [isShift] at counts
  exact counts

end SymbolJump.Settings
