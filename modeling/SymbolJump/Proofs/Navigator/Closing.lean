/-
Closing a widget takes away what was kept for it, and nothing else.

What a navigator holds for a widget lies in several tables under different
keys, and ids may be shared: a file and a notebook can have the same one, and a
cell can have that of a file. Closing finds the hooks of a widget through the
owners of editors. That no hook of another widget goes with them rests on each
editor having one owner only.
-/

import SymbolJump.Proofs.Navigator.Bookkeeping
import SymbolJump.Proofs.Server.Lifetime

namespace SymbolJump

open Server

/-! ### What is held for a widget -/

structure Holdings where
  jumper : Option Jumper
  bridge : Option NumberedConnection
  owns : String → Bool
  hook : String → Option Hook
  deadline : Option Nat
  isCurrent : Bool
  stack : List Destination

def Holdings.nothing : Holdings where
  jumper := none
  bridge := none
  owns := fun _ => false
  hook := fun _ => none
  deadline := none
  isCurrent := false
  stack := []

namespace Navigator

def bridgeOf? (navigator : Navigator) : Surface → Option NumberedConnection
  | .file id => navigator.bridge? id
  | .notebook _ => none

def deadline? (navigator : Navigator) : Surface → Option Nat
  | .file _ => none
  | .notebook id => navigator.sweeps.deadlines.get? id

def isCurrent (navigator : Navigator) : Surface → Bool
  | .file id => navigator.currentFile = some id
  | .notebook id => navigator.currentNotebook = some id

/-- All that a navigator holds for a widget. Hooks are those of the editors it owns. -/
def holdings (navigator : Navigator) (surface : Surface) : Holdings where
  jumper := navigator.jumper? surface
  bridge := navigator.bridgeOf? surface
  owns := fun editorId => navigator.owners.get? editorId = some surface
  hook := fun editorId =>
    if navigator.owners.get? editorId = some surface then navigator.hooks.table.get? editorId
    else none
  deadline := navigator.deadline? surface
  isCurrent := navigator.isCurrent surface
  stack := navigator.history.stack surface

/-! ### The widget taken out -/

section

variable {navigator removed : Navigator} {surface : Surface}

theorem isCurrent_of_cleared {current : Option String} {id other : String} (apart : other ≠ id) :
    (if current = some id then none else current) = some other ↔ current = some other := by
  constructor
  · intro isCurrent
    exact (current_of_cleared isCurrent).1
  · rintro rfl
    rw [if_neg (fun same => apart (Option.some.inj same))]

theorem frame_of_removeWidget? (isRemoved : navigator.removeWidget? surface = some removed)
    {other : Surface} (apart : other ≠ surface) :
    removed.bridgeOf? other = navigator.bridgeOf? other ∧
      removed.deadline? other = navigator.deadline? other ∧
      removed.isCurrent other = navigator.isCurrent other := by
  cases surface with
  | file id =>
      obtain ⟨entry, _, rfl⟩ := Option.map_eq_some_iff.mp isRemoved
      rw [retire_eq]
      cases other with
      | notebook other => exact ⟨rfl, rfl, rfl⟩
      | file other =>
          have different : other ≠ id := fun same => apart (congrArg Surface.file same)
          refine ⟨?_, rfl, ?_⟩
          · simp only [bridgeOf?, bridge?, Keyed.get?_erase_of_ne _ different]
          · simp only [isCurrent, isCurrent_of_cleared different]
  | notebook id =>
      obtain ⟨jumper, _, rfl⟩ := Option.map_eq_some_iff.mp isRemoved
      cases other with
      | file other => exact ⟨rfl, rfl, rfl⟩
      | notebook other =>
          have different : other ≠ id := fun same => apart (congrArg Surface.notebook same)
          refine ⟨rfl, ?_, ?_⟩
          · simp only [deadline?, Sweeps.cancel, Keyed.get?_erase_of_ne _ different]
          · simp only [isCurrent, isCurrent_of_cleared different]

theorem cleared_of_removeWidget? (isRemoved : navigator.removeWidget? surface = some removed) :
    removed.bridgeOf? surface = none ∧ removed.deadline? surface = none ∧
      removed.isCurrent surface = false := by
  have taken := removed_of_removeWidget? isRemoved
  cases surface with
  | file id =>
      obtain ⟨entry, _, rfl⟩ := Option.map_eq_some_iff.mp isRemoved
      refine ⟨?_, rfl, ?_⟩
      · simp only [bridgeOf?, bridge?, Keyed.get?_erase_self, Option.bind_none]
      · exact decide_eq_false fun isCurrent => (taken.currentFile id isCurrent).2 rfl
  | notebook id =>
      obtain ⟨jumper, _, rfl⟩ := Option.map_eq_some_iff.mp isRemoved
      refine ⟨rfl, ?_, ?_⟩
      · simp only [deadline?, Sweeps.cancel, Keyed.get?_erase_self]
      · exact decide_eq_false fun isCurrent => (taken.currentNotebook id isCurrent).2 rfl

/-- Nothing beside the tables changes, except that a connection joins those that are over. -/
theorem rest_of_removeWidget? (isRemoved : navigator.removeWidget? surface = some removed) :
    removed.host = navigator.host ∧ removed.registry = navigator.registry ∧
      removed.connector = navigator.connector ∧ removed.connected = navigator.connected ∧
      removed.retired = navigator.retired ++ (navigator.bridgeOf? surface).toList.map
        fun bridge => { bridge with connection := bridge.connection.drop } := by
  cases surface with
  | file id =>
      obtain ⟨entry, isEntry, rfl⟩ := Option.map_eq_some_iff.mp isRemoved
      have isBridge : navigator.bridgeOf? (.file id) = entry.bridge := by
        simp only [bridgeOf?, bridge?, isEntry, Option.bind_some]
      rw [isBridge]
      unfold retire
      cases entry.bridge with
      | none => exact ⟨rfl, rfl, rfl, rfl, (List.append_nil _).symm⟩
      | some bridge => exact ⟨rfl, rfl, rfl, rfl, rfl⟩
  | notebook id =>
      obtain ⟨jumper, _, rfl⟩ := Option.map_eq_some_iff.mp isRemoved
      exact ⟨rfl, rfl, rfl, rfl, (List.append_nil _).symm⟩

theorem mem_owned_iff (distinct : navigator.owners.Distinct) {owner : Surface}
    {editorId : String} :
    editorId ∈ navigator.owned owner ↔ navigator.owners.get? editorId = some owner := by
  constructor
  · intro member
    obtain ⟨⟨id, other⟩, isEntry, rfl⟩ := List.mem_map.mp member
    obtain ⟨inOwners, isOwner⟩ := List.mem_filter.mp isEntry
    obtain rfl : other = owner := of_decide_eq_true isOwner
    exact distinct.get?_of_mem inOwners
  · exact mem_owned

/-! ### The closing -/

theorem closed_of_not_open (notOpen : navigator.isOpen surface = false) :
    navigator.closed surface = (false, navigator) := by
  rw [isOpen_eq, Option.isSome_eq_false_iff, Option.isNone_iff_eq_none] at notOpen
  unfold closed
  rw [notOpen]

theorem exists_removeWidget? (isOpen : navigator.isOpen surface = true) :
    ∃ removed, navigator.removeWidget? surface = some removed := by
  cases surface with
  | file id =>
      obtain ⟨entry, isEntry⟩ := Option.isSome_iff_exists.mp isOpen
      exact ⟨_, congrArg (Option.map _) isEntry⟩
  | notebook id =>
      obtain ⟨jumper, isJumper⟩ := Option.isSome_iff_exists.mp isOpen
      exact ⟨_, congrArg (Option.map _) isJumper⟩

/-- A navigator that a widget was taken out of, without the hooks that the widget owned and
without its history. -/
def without (navigator : Navigator) (surface : Surface) (removed : Navigator) : Navigator :=
  { removed with
    hooks := ⟨(navigator.owned surface).foldl Keyed.erase navigator.hooks.table⟩
    owners := (navigator.owned surface).foldl Keyed.erase navigator.owners
    history := (navigator.history.forget surface).2 }

theorem Consistent.closed_of_removeWidget? (consistent : navigator.Consistent)
    (isRemoved : navigator.removeWidget? surface = some removed)
    (isOpen : navigator.isOpen surface = true) :
    navigator.closed surface = (true, navigator.without surface removed) := by
  have taken := removed_of_removeWidget? isRemoved
  rw [isOpen_eq] at isOpen
  obtain ⟨jumper, isJumper⟩ := Option.isSome_iff_exists.mp isOpen
  have sameOwned : removed.owned surface = navigator.owned surface := by
    unfold owned
    rw [taken.owners]
  unfold Navigator.closed without
  simp only [isJumper, isRemoved, unhookOwned_eq, sameOwned, taken.hooks, taken.owners,
    taken.history, consistent.jumperNamed surface jumper isJumper]

theorem owner_without (distinct : navigator.owners.Distinct) (editorId : String) :
    (navigator.without surface removed).owners.get? editorId =
      if navigator.owners.get? editorId = some surface then none
      else navigator.owners.get? editorId := by
  unfold without
  rw [Keyed.get?_foldl_erase]
  simp only [mem_owned_iff distinct]

theorem hook_without (distinct : navigator.owners.Distinct) (editorId : String) :
    (navigator.without surface removed).hooks.table.get? editorId =
      if navigator.owners.get? editorId = some surface then none
      else navigator.hooks.table.get? editorId := by
  unfold without
  rw [Keyed.get?_foldl_erase]
  simp only [mem_owned_iff distinct]

theorem owner_without_ne (distinct : navigator.owners.Distinct) (editorId : String) :
    (navigator.without surface removed).owners.get? editorId ≠ some surface := by
  rw [owner_without distinct]
  split
  · intro impossible
    cases impossible
  · assumption

theorem owner_without_iff (distinct : navigator.owners.Distinct) {other : Surface}
    (apart : other ≠ surface) (editorId : String) :
    (navigator.without surface removed).owners.get? editorId = some other ↔
      navigator.owners.get? editorId = some other := by
  rw [owner_without distinct]
  split
  · next isOwner =>
      rw [isOwner]
      constructor
      · intro impossible
        cases impossible
      · intro same
        exact absurd (Option.some.inj same).symm apart
  · exact Iff.rfl

theorem holdings_without_self (distinct : navigator.owners.Distinct)
    (isRemoved : navigator.removeWidget? surface = some removed) :
    (navigator.without surface removed).holdings surface = .nothing := by
  have taken := removed_of_removeWidget? isRemoved
  obtain ⟨noBridge, noDeadline, notCurrent⟩ := cleared_of_removeWidget? isRemoved
  have notOwner := @owner_without_ne navigator removed surface distinct
  simp only [holdings, Holdings.nothing, Holdings.mk.injEq]
  refine ⟨taken.gone, noBridge, ?_, ?_, noDeadline, notCurrent, History.stack_forget_self _ _⟩
  · funext editorId
    exact decide_eq_false (notOwner editorId)
  · funext editorId
    exact if_neg (notOwner editorId)

theorem holdings_without_of_ne (distinct : navigator.owners.Distinct)
    (isRemoved : navigator.removeWidget? surface = some removed) {other : Surface}
    (apart : other ≠ surface) :
    (navigator.without surface removed).holdings other = navigator.holdings other := by
  have taken := removed_of_removeWidget? isRemoved
  obtain ⟨sameBridge, sameDeadline, sameCurrent⟩ := frame_of_removeWidget? isRemoved apart
  have sameOwner := @owner_without_iff navigator removed surface distinct other apart
  simp only [holdings, Holdings.mk.injEq]
  refine ⟨taken.others other apart, sameBridge, ?_, ?_, sameDeadline, sameCurrent,
    History.stack_forget_of_ne _ apart⟩
  · funext editorId
    exact decide_eq_decide.mpr (sameOwner editorId)
  · funext editorId
    simp only [sameOwner]
    split
    · next isOwner =>
        have notSurface : navigator.owners.get? editorId ≠ some surface := by
          rw [isOwner]
          exact fun same => apart (Option.some.inj same)
        rw [hook_without distinct, if_neg notSurface]
    · rfl

/-! ### Widgets that come again -/

def Action.opens? : Action → Option Surface
  | .fileAdded editor _ => some (.file editor.id)
  | .notebookAdded id _ _ _ => some (.notebook id)
  | _ => none

theorem Consistent.stack_of_not_open (consistent : navigator.Consistent)
    (notOpen : navigator.isOpen surface = false) : navigator.history.stack surface = [] := by
  by_contra stacked
  have isOpen := consistent.stackOpen surface stacked
  rw [notOpen] at isOpen
  cases isOpen

theorem jumper?_of_opens {action : Action} (opens : action.opens? = some surface) :
    ∃ jumper, (navigator.act action).jumper? surface = some jumper ∧ jumper.surface = surface ∧
      (navigator.act action).history = navigator.history := by
  cases action with
  | fileAdded editor path =>
      cases opens
      obtain ⟨bridge, connected, retired, isAfter⟩ := navigator.fileAdded_eq editor path
      simp only [act, isAfter]
      refine ⟨.file (.ofEditor navigator.registry editor path), ?_, rfl, rfl⟩
      simp only [hook, jumper?, Keyed.get?_insert_self, Option.map_some]
  | notebookAdded id path language now =>
      cases opens
      refine ⟨.notebook
        { id := id, path := path, language := language, registry := navigator.registry }, ?_, rfl, rfl⟩
      simp only [act, Navigator.notebookAdded, jumper?, Keyed.get?_insert_self, Option.map_some]
  | _ => cases opens

theorem Consistent.jumpBack_of_opens (consistent : navigator.Consistent)
    (notOpen : navigator.isOpen surface = false) {action : Action}
    (opens : action.opens? = some surface) :
    ∃ jumper, (navigator.act action).jumper? surface = some jumper ∧
      jumper.jumpBack (navigator.act action).history =
        (false, jumper, (navigator.act action).history) := by
  obtain ⟨jumper, isJumper, named, sameHistory⟩ := jumper?_of_opens opens
  have empty : navigator.history.stack jumper.surface = [] := by
    rw [named]
    exact consistent.stack_of_not_open notOpen
  refine ⟨jumper, isJumper, ?_⟩
  rw [sameHistory]
  cases jumper with
  | file jumper => simp only [Jumper.jumpBack, FileJumper.jumpBack_of_nil empty]
  | notebook jumper => simp only [Jumper.jumpBack, NotebookJumper.jumpBack_of_nil empty]

/-! ### Nothing of it and all of the others -/

/-- Two navigators around the closing of an open widget. The hooks on its editors are gone, so
that gestures there have no effect; its connection is dropped and kept among those that are
over; and whenever a widget of its name comes again, it has nothing to return to. -/
structure Vacated (before : Navigator) (surface : Surface) (after : Navigator) : Prop where
  gone : after.isOpen surface = false
  nothing : after.holdings surface = .nothing
  others : ∀ other, other ≠ surface → after.holdings other = before.holdings other
  unhooked : ∀ editorId, before.owners.get? editorId = some surface →
    after.owners.get? editorId = none ∧ after.hooks.isRegistered editorId = false
  bridgeClosed : ∀ bridge, (before.holdings surface).bridge = some bridge →
    ∃ ended, after.retired = before.retired ++ [ended] ∧ ended.number = bridge.number ∧
      ended.connection = bridge.connection.drop ∧ ended.connection.isOpen = false
  noBridge : (before.holdings surface).bridge = none → after.retired = before.retired
  sameHost : after.host = before.host
  sameRegistry : after.registry = before.registry
  sameConnector : after.connector = before.connector
  sameCount : after.connected = before.connected
  deaf : ∀ trigger editorId gesture, before.owners.get? editorId = some surface →
    after.gesture trigger editorId gesture = (false, after)
  unvisited : ∀ (later : List Action) (action : Action),
    (after.run later).isOpen surface = false → action.opens? = some surface →
      ∃ jumper, ((after.run later).act action).jumper? surface = some jumper ∧
        jumper.jumpBack ((after.run later).act action).history =
          (false, jumper, ((after.run later).act action).history)

theorem Consistent.vacated (consistent : navigator.Consistent)
    (isOpen : navigator.isOpen surface = true) :
    ∃ after, navigator.closed surface = (true, after) ∧ Vacated navigator surface after := by
  obtain ⟨removed, isRemoved⟩ := exists_removeWidget? isOpen
  have distinct := consistent.ownersDistinct
  have isClosed := consistent.closed_of_removeWidget? isRemoved isOpen
  have stillConsistent : (navigator.without surface removed).Consistent := by
    have after := consistent.closed surface
    rw [isClosed] at after
    exact after
  obtain ⟨sameHost, sameRegistry, sameConnector, sameCount, retired⟩ :=
    rest_of_removeWidget? isRemoved
  have nothing := holdings_without_self distinct isRemoved
  refine ⟨_, isClosed, ?_⟩
  refine
    { gone := ?_
      nothing := nothing
      others := fun other apart => holdings_without_of_ne distinct isRemoved apart
      unhooked := ?_
      bridgeClosed := ?_
      noBridge := ?_
      sameHost := sameHost
      sameRegistry := sameRegistry
      sameConnector := sameConnector
      sameCount := sameCount
      deaf := ?_
      unvisited := ?_ }
  · rw [isOpen_eq]
    exact congrArg (fun held => held.jumper.isSome) nothing
  · intro editorId isOwner
    unfold Hooks.isRegistered Keyed.contains
    rw [owner_without distinct, hook_without distinct, if_pos isOwner, if_pos isOwner]
    exact ⟨rfl, rfl⟩
  · intro bridge isBridge
    change navigator.bridgeOf? surface = some bridge at isBridge
    rw [isBridge] at retired
    exact ⟨_, retired, rfl, rfl, Exchange.isOpen_close bridge.connection⟩
  · intro isNone
    change navigator.bridgeOf? surface = none at isNone
    rw [isNone] at retired
    exact retired.trans (List.append_nil _)
  · intro trigger editorId gesture isOwner
    unfold Navigator.gesture
    rw [owner_without distinct, if_pos isOwner]
  · intro later action notOpen opens
    have laterConsistent := run_preserves consistent_act stillConsistent later
    exact laterConsistent.jumpBack_of_opens notOpen opens

end

/-- In every state that a navigator can reach, closing a widget that is not open answers no and
changes nothing, and closing an open one answers yes and takes away all that was held for it,
with what is held for any other widget unchanged. -/
theorem closing_vacates_one_widget (registry : Definition.Registry)
    (connector : Option Connector) (host : Host) (actions : List Action) (surface : Surface) :
    let navigator := (fresh registry connector host).run actions
    (navigator.isOpen surface = false ∧ navigator.closed surface = (false, navigator)) ∨
      navigator.isOpen surface = true ∧
        ∃ after, navigator.closed surface = (true, after) ∧ Vacated navigator surface after := by
  intro navigator
  have consistent : navigator.Consistent := consistent_run registry connector host actions
  cases isOpen : navigator.isOpen surface with
  | false => exact .inl ⟨rfl, closed_of_not_open isOpen⟩
  | true => exact .inr ⟨rfl, consistent.vacated isOpen⟩

end Navigator

end SymbolJump
