/-
Pumping the files of a navigator in any order.

All files share the history and the host, but the events of a connection reach
no further than the caret of its own file and the requests it makes to the
host. So the files can be visited in any order: each ends as it would have
ended alone, and each asks the host for the same documents in the same order.
The answers of the host can differ, since it may remember what other files have
asked it for; but no file looks at them.
-/

import Mathlib.Algebra.BigOperators.Group.List.Basic
import Mathlib.Algebra.GroupWithZero.Nat
import SymbolJump.Proofs.Navigator.Bookkeeping
import SymbolJump.Proofs.Server.Pumping

namespace SymbolJump

open Server Text

/-! ### One file -/

namespace Server.Connection

/-- The places that the answers in the queue lead to. -/
def targets (connection : Connection) : List Location :=
  connection.readyEvents.filterMap Event.target?

def targetsWithin (connection : Connection) : List Location :=
  within connection.addresses.documentUri connection.targets

def targetsBeyond (connection : Connection) : List Location :=
  beyond connection.addresses.documentUri connection.targets

end Server.Connection

namespace OpenFile

def readyEvents (entry : OpenFile) : List Event :=
  entry.bridge.elim [] fun bridge => bridge.connection.readyEvents

/-- The requests to the host that a file holds ready. -/
def requests (entry : OpenFile) : List OpenRequest :=
  entry.bridge.elim [] fun bridge => bridge.connection.targetsBeyond.map Location.request

/-- The file once its events have been applied. -/
def pumped (entry : OpenFile) : OpenFile :=
  match entry.bridge with
  | none => entry
  | some bridge =>
      { jumper :=
          { entry.jumper with
            editor := entry.jumper.editor.ledTo bridge.connection.targetsWithin.getLast? }
        bridge := some { bridge with connection := bridge.connection.drain.2 } }

end OpenFile

namespace Navigator

theorem pumpFile_eq (entry : OpenFile) (host : Host) :
    pumpFile entry host =
      (entry.readyEvents.length, entry.pumped, host.presentAll entry.requests) := by
  obtain ⟨jumper, bridge⟩ := entry
  cases bridge with
  | none => rfl
  | some bridge =>
      obtain ⟨drained, exhausts⟩ := bridge.connection.exhausts_readyEvents
      simp only [pumpFile, Server.pump, OpenFile.pumped, exhausts.drain_eq, applyEvents_file]
      rfl

theorem pumpFiles_eq (entries : List (String × OpenFile)) (host : Host) :
    pumpFiles entries host =
      ((entries.map fun entry => entry.2.readyEvents.length).sum,
        entries.map fun entry => (entry.1, entry.2.pumped),
        host.presentAll (entries.flatMap fun entry => entry.2.requests)) := by
  induction entries generalizing host with
  | nil => rfl
  | cons entry rest ih =>
      obtain ⟨id, file⟩ := entry
      simp only [pumpFiles, pumpFile_eq, ih, List.map_cons, List.sum_cons, List.flatMap_cons,
        Host.presentAll_append]

/-! ### File after file -/

/-- Pumps one file in its place. -/
def visit (navigator : Navigator) (id : String) : Nat × Navigator :=
  match navigator.files.get? id with
  | none => (0, navigator)
  | some entry =>
      let (count, entry, host) := pumpFile entry navigator.host
      (count, { navigator with files := navigator.files.insert id entry, host := host })

/-- Pumps files in the given order. -/
def pumpAlong (navigator : Navigator) : List String → Nat × Navigator
  | [] => (0, navigator)
  | id :: rest =>
      let (count, visited) := navigator.visit id
      let (others, pumped) := pumpAlong visited rest
      (count + others, pumped)

def eventCount (navigator : Navigator) (id : String) : Nat :=
  (navigator.files.get? id).elim 0 (·.readyEvents.length)

/-- The requests to the host that the file with this id holds ready. -/
def requestsOf (navigator : Navigator) (id : String) : List OpenRequest :=
  (navigator.files.get? id).elim [] (·.requests)

/-- The files once those with the given ids have been pumped. -/
def pumpedAt (files : Keyed String OpenFile) (ids : List String) : Keyed String OpenFile :=
  ⟨files.entries.map fun entry =>
    (entry.1, if entry.1 ∈ ids then entry.2.pumped else entry.2)⟩

section

variable {files : Keyed String OpenFile}

theorem keys_pumpedAt (files : Keyed String OpenFile) (ids : List String) :
    (pumpedAt files ids).keys = files.keys := by
  unfold pumpedAt Keyed.keys
  rw [List.map_map]
  rfl

theorem distinct_pumpedAt (distinct : files.Distinct) (ids : List String) :
    (pumpedAt files ids).Distinct := by
  unfold Keyed.Distinct
  rw [keys_pumpedAt]
  exact distinct

theorem get?_pumpedAt_of_not_mem (files : Keyed String OpenFile) {ids : List String} {id : String}
    (absent : id ∉ ids) : (pumpedAt files ids).get? id = files.get? id := by
  unfold pumpedAt Keyed.get?
  induction files.entries with
  | nil => rfl
  | cons entry rest ih =>
      obtain ⟨key, file⟩ := entry
      rw [List.map_cons, List.lookup_cons, List.lookup_cons, ih]
      cases same : id == key with
      | false => rfl
      | true =>
          rw [beq_iff_eq.mp same] at absent
          rw [if_neg absent]

theorem pumpedAt_cons (files : Keyed String OpenFile) {id : String} {rest : List String}
    (once : id ∉ rest) : pumpedAt (pumpedAt files [id]) rest = pumpedAt files (id :: rest) := by
  unfold pumpedAt
  rw [List.map_map]
  refine congrArg Keyed.mk (List.map_congr_left fun entry _ => Prod.ext rfl ?_)
  by_cases same : entry.1 = id
  · simp [same, once]
  · simp [same]

theorem pumpedAt_congr (files : Keyed String OpenFile) {left right : List String}
    (sameIds : ∀ id, id ∈ left ↔ id ∈ right) : pumpedAt files left = pumpedAt files right := by
  unfold pumpedAt
  simp only [sameIds]

theorem pumpedAt_of_unknown {id : String} (unknown : files.get? id = none) :
    pumpedAt files [id] = files := by
  have kept : (pumpedAt files [id]).entries = files.entries := by
    refine (List.map_congr_left fun entry member => ?_).trans (List.map_id _)
    have apart : entry.1 ∉ [id] := by
      intro same
      have known : files.contains id = true :=
        Keyed.contains_iff_mem.mpr ⟨entry.2, List.mem_singleton.mp same ▸ member⟩
      rw [Keyed.contains, unknown] at known
      cases known
    rw [if_neg apart]
    rfl
  exact congrArg Keyed.mk kept

theorem insert_pumped (distinct : files.Distinct) {id : String} {entry : OpenFile}
    (isEntry : files.get? id = some entry) :
    files.insert id entry.pumped = pumpedAt files [id] := by
  obtain ⟨entries⟩ := files
  refine congrArg Keyed.mk ?_
  induction entries with
  | nil => cases isEntry
  | cons first rest ih =>
      obtain ⟨key, file⟩ := first
      obtain ⟨absent, restDistinct⟩ := List.nodup_cons.mp distinct
      by_cases same : key = id
      · subst same
        have isFile : file = entry := by
          simpa [Keyed.get?, List.lookup_cons] using isEntry
        have others : (pumpedAt ⟨rest⟩ [key]).entries = rest := by
          refine congrArg Keyed.entries (pumpedAt_of_unknown ?_)
          refine List.lookup_eq_none_iff.mpr fun other member => ?_
          refine bne_iff_ne.mpr fun same => ?_
          exact absent (List.mem_map.mpr ⟨other, member, same.symm⟩)
        change (if key = key then _ else _) =
          (key, if key ∈ [key] then file.pumped else file) :: (pumpedAt ⟨rest⟩ [key]).entries
        rw [others, if_pos rfl, if_pos (List.mem_singleton_self key), isFile]
      · have later : Keyed.get? ⟨rest⟩ id = some entry := by
          have apart : (id == key) = false := beq_eq_false_iff_ne.mpr (Ne.symm same)
          simpa [Keyed.get?, List.lookup_cons, apart] using isEntry
        have others := ih restDistinct later
        change (if key = id then _ else (key, file) :: _) =
          (key, if key ∈ [id] then file.pumped else file) :: _
        rw [if_neg same, if_neg (mt List.mem_singleton.mp same), others]

end

variable {navigator : Navigator}

theorem visit_eq (distinct : navigator.files.Distinct) (id : String) :
    navigator.visit id =
      (navigator.eventCount id,
        { navigator with
          files := pumpedAt navigator.files [id]
          host := navigator.host.presentAll (navigator.requestsOf id) }) := by
  unfold visit eventCount requestsOf
  cases isEntry : navigator.files.get? id with
  | none =>
      rw [pumpedAt_of_unknown isEntry]
      rfl
  | some entry =>
      simp only [pumpFile_eq, insert_pumped distinct isEntry]
      rfl

theorem distinct_visit (distinct : navigator.files.Distinct) (id : String) :
    (navigator.visit id).2.files.Distinct := by
  rw [visit_eq distinct]
  exact distinct_pumpedAt distinct [id]

/-- The other files stay as they are. -/
theorem get?_visit_of_ne (distinct : navigator.files.Distinct) {id other : String}
    (apart : other ≠ id) : (navigator.visit id).2.files.get? other = navigator.files.get? other := by
  rw [visit_eq distinct]
  exact get?_pumpedAt_of_not_mem navigator.files (mt List.mem_singleton.mp apart)

theorem requestsOf_visit_of_ne (distinct : navigator.files.Distinct) {id other : String}
    (apart : other ≠ id) : (navigator.visit id).2.requestsOf other = navigator.requestsOf other := by
  unfold requestsOf
  rw [get?_visit_of_ne distinct apart]

theorem pumpAlong_eq (distinct : navigator.files.Distinct) {order : List String}
    (once : order.Nodup) :
    navigator.pumpAlong order =
      ((order.map navigator.eventCount).sum,
        { navigator with
          files := pumpedAt navigator.files order
          host := navigator.host.presentAll (order.flatMap navigator.requestsOf) }) := by
  induction order generalizing navigator with
  | nil =>
      have same : pumpedAt navigator.files [] = navigator.files :=
        congrArg Keyed.mk (List.map_id navigator.files.entries)
      rw [same]
      rfl
  | cons id rest ih =>
      obtain ⟨absent, restOnce⟩ := List.nodup_cons.mp once
      have apart {other : String} (isLater : other ∈ rest) : other ≠ id := by
        rintro rfl
        exact absent isLater
      have sameCounts : rest.map (navigator.visit id).2.eventCount =
          rest.map navigator.eventCount := by
        refine List.map_congr_left fun other isLater => ?_
        unfold eventCount
        rw [get?_visit_of_ne distinct (apart isLater)]
      have sameRequests : rest.flatMap (navigator.visit id).2.requestsOf =
          rest.flatMap navigator.requestsOf :=
        List.flatMap_congr fun other isLater => requestsOf_visit_of_ne distinct (apart isLater)
      unfold pumpAlong
      dsimp only
      rw [ih (distinct_visit distinct id) restOnce, sameCounts, sameRequests, visit_eq distinct]
      simp only [pumpedAt_cons navigator.files absent, List.map_cons, List.sum_cons,
        List.flatMap_cons, Host.presentAll_append]

theorem pump_eq_pumpAlong (distinct : navigator.files.Distinct) :
    navigator.pump = navigator.pumpAlong navigator.files.keys := by
  have sameCounts : navigator.files.keys.map navigator.eventCount =
      navigator.files.entries.map fun entry => entry.2.readyEvents.length := by
    unfold Keyed.keys
    rw [List.map_map]
    refine List.map_congr_left fun entry member => ?_
    simp only [Function.comp, eventCount, distinct.get?_of_mem member, Option.elim_some]
  have sameRequests : navigator.files.keys.flatMap navigator.requestsOf =
      navigator.files.entries.flatMap fun entry => entry.2.requests := by
    unfold Keyed.keys
    rw [List.flatMap_map]
    refine List.flatMap_congr fun entry member => ?_
    simp only [requestsOf, distinct.get?_of_mem member, Option.elim_some]
  have sameFiles : pumpedAt navigator.files navigator.files.keys =
      ⟨navigator.files.entries.map fun entry => (entry.1, entry.2.pumped)⟩ := by
    refine congrArg Keyed.mk (List.map_congr_left fun entry member => ?_)
    have isKey : entry.1 ∈ navigator.files.keys := List.mem_map_of_mem member
    rw [if_pos isKey]
  rw [pumpAlong_eq distinct distinct, sameCounts, sameRequests, sameFiles]
  simp only [pump, pumpFiles_eq]

/-! ### Any order -/

/-- Visited in this order, each file makes the requests to the host that it held ready at the
beginning, whatever was visited before it. -/
def AsksInTurn (navigator : Navigator) (order : List String) : Prop :=
  ∀ earlier id, earlier ++ [id] <+: order →
    (navigator.pumpAlong (earlier ++ [id])).2.host =
      (navigator.pumpAlong earlier).2.host.presentAll (navigator.requestsOf id)

theorem asksInTurn (distinct : navigator.files.Distinct) {order : List String}
    (once : order.Nodup) : navigator.AsksInTurn order := by
  intro earlier id isPrefix
  have both : (earlier ++ [id]).Nodup := once.sublist isPrefix.sublist
  have alone : earlier.Nodup := both.sublist (List.sublist_append_left earlier [id])
  rw [pumpAlong_eq distinct both, pumpAlong_eq distinct alone]
  simp only [List.flatMap_append, List.flatMap_cons, List.flatMap_nil, List.append_nil,
    Host.presentAll_append]

/-- What a file has the host asked for while files are visited in this order: the requests that
join the log during its own visits. -/
def askedBy (navigator : Navigator) (id : String) : List String → List OpenRequest
  | [] => []
  | first :: rest =>
      let visited := (navigator.visit first).2
      let joined := visited.host.requests.drop navigator.host.requests.length
      (if first = id then joined else []) ++ visited.askedBy id rest

theorem askedBy_of_not_mem {id : String} {order : List String} (absent : id ∉ order) :
    navigator.askedBy id order = [] := by
  induction order generalizing navigator with
  | nil => rfl
  | cons first rest ih =>
      obtain ⟨apart, later⟩ := List.ne_and_not_mem_of_not_mem_cons absent
      unfold askedBy
      dsimp only
      rw [if_neg (Ne.symm apart), ih later, List.append_nil]

theorem askedBy_of_mem (distinct : navigator.files.Distinct) {id : String} {order : List String}
    (once : order.Nodup) (isVisited : id ∈ order) :
    navigator.askedBy id order = navigator.requestsOf id := by
  induction order generalizing navigator with
  | nil => cases isVisited
  | cons first rest ih =>
      obtain ⟨absent, restOnce⟩ := List.nodup_cons.mp once
      unfold askedBy
      dsimp only
      by_cases isFirst : first = id
      · subst isFirst
        rw [if_pos rfl, askedBy_of_not_mem absent, List.append_nil, visit_eq distinct,
          Host.requests_presentAll, List.drop_left]
      · have isLater := (List.mem_cons.mp isVisited).resolve_left (Ne.symm isFirst)
        rw [if_neg isFirst, List.nil_append, ih (distinct_visit distinct first) restOnce isLater,
          requestsOf_visit_of_ne distinct (Ne.symm isFirst)]

theorem askedBy_of_perm (distinct : navigator.files.Distinct) {order : List String}
    (isOrder : order.Perm navigator.files.keys) (id : String) :
    navigator.askedBy id order = navigator.requestsOf id := by
  by_cases isVisited : id ∈ order
  · exact askedBy_of_mem distinct (isOrder.nodup_iff.mpr distinct) isVisited
  · rw [askedBy_of_not_mem isVisited]
    unfold requestsOf
    cases found : navigator.files.get? id with
    | none => rfl
    | some entry => exact absurd (isOrder.mem_iff.mpr (Keyed.mem_keys_of_get? found)) isVisited

/-- Two ways of visiting all open files count the same events and lead to the same navigator,
with the same carets, histories and connections, up to what the host was asked for and answered.
This is so for every host, also for one whose answers to a file depend on what the others asked
for before. Each file asks for the same documents in the same order both ways, those that it
held ready at the beginning. Pumping visits the files in the order in which they came. -/
theorem pump_in_any_order (registry : Definition.Registry) (connector : Option Connector)
    (host : Host) (actions : List Action) (left right : List String) :
    let navigator := (fresh registry connector host).run actions
    left.Perm navigator.files.keys → right.Perm navigator.files.keys →
      navigator.pump = navigator.pumpAlong navigator.files.keys ∧
        (navigator.pumpAlong left).1 = (navigator.pumpAlong right).1 ∧
        { (navigator.pumpAlong left).2 with host := host } =
          { (navigator.pumpAlong right).2 with host := host } ∧
        (∀ id, navigator.askedBy id left = navigator.askedBy id right ∧
          navigator.askedBy id left = navigator.requestsOf id) ∧
        navigator.AsksInTurn left ∧ navigator.AsksInTurn right := by
  intro navigator isLeft isRight
  have distinct := (consistent_run registry connector host actions).filesDistinct
  have leftOnce : left.Nodup := isLeft.nodup_iff.mpr distinct
  have rightOnce : right.Nodup := isRight.nodup_iff.mpr distinct
  have sameOrder : left.Perm right := isLeft.trans isRight.symm
  have sameCounts := (sameOrder.map navigator.eventCount).sum_eq
  have sameFiles := pumpedAt_congr navigator.files fun id => sameOrder.mem_iff (a := id)
  refine ⟨pump_eq_pumpAlong distinct, ?_, ?_, ?_, asksInTurn distinct leftOnce,
    asksInTurn distinct rightOnce⟩
  · rw [pumpAlong_eq distinct leftOnce, pumpAlong_eq distinct rightOnce]
    exact sameCounts
  · rw [pumpAlong_eq distinct leftOnce, pumpAlong_eq distinct rightOnce, sameFiles]
  · intro id
    have leftAsks := askedBy_of_perm distinct isLeft id
    exact ⟨leftAsks.trans (askedBy_of_perm distinct isRight id).symm, leftAsks⟩

/-- Connects every file to a server that leads to a document named after the editor. -/
def leadingConnector : Connector := fun addresses editor => some
  { addresses := addresses
    documentText := editor.text
    pending := ⟨[(1, .question .definition)]⟩
    link :=
      { inbox := [.response (.number 1)
          (some (Location.mk ("/" ++ editor.id) ⟨⟨7, 5⟩, ⟨7, 6⟩⟩).encode) none] } }

def twoFiles : List Action :=
  [.fileAdded { id := "a", text := [], contentType := "any" } [],
   .fileAdded { id := "b", text := [], contentType := "any" } []]

/-- The host opens the document of the file visited first and refuses the other; carets,
histories and connections are the same both ways. -/
theorem pump_in_any_order_for_two_files :
    let navigator := (fresh .standard (some leadingConnector) .openingOnce).run twoFiles
    let fromA : OpenRequest := ⟨".lsp_symlink/a", 0, ⟨7, 5⟩⟩
    let fromB : OpenRequest := ⟨".lsp_symlink/b", 0, ⟨7, 5⟩⟩
    ["a", "b"].Perm navigator.files.keys ∧ ["b", "a"].Perm navigator.files.keys ∧
      (navigator.pumpAlong ["a", "b"]).1 = (navigator.pumpAlong ["b", "a"]).1 ∧
      { (navigator.pumpAlong ["a", "b"]).2 with host := .openingOnce } =
        { (navigator.pumpAlong ["b", "a"]).2 with host := .openingOnce } ∧
      navigator.askedBy "a" ["a", "b"] = [fromA] ∧ navigator.askedBy "a" ["b", "a"] = [fromA] ∧
      navigator.askedBy "b" ["a", "b"] = [fromB] ∧ navigator.askedBy "b" ["b", "a"] = [fromB] ∧
      (navigator.pumpAlong ["a", "b"]).2.host.log =
        [⟨fromA, none⟩, ⟨fromB, some (.rejected fromB.path "one document is enough")⟩] ∧
      (navigator.pumpAlong ["b", "a"]).2.host.log =
        [⟨fromB, none⟩, ⟨fromA, some (.rejected fromA.path "one document is enough")⟩] := by
  intro navigator fromA fromB
  have isLeft : ["a", "b"].Perm navigator.files.keys := .refl _
  have isRight : ["b", "a"].Perm navigator.files.keys := .swap "a" "b" []
  obtain ⟨_, sameCounts, sameNavigator, asks, _, _⟩ := pump_in_any_order .standard
    (some leadingConnector) .openingOnce twoFiles ["a", "b"] ["b", "a"] isLeft isRight
  have heldA : navigator.requestsOf "a" = [fromA] := by decide +kernel
  have heldB : navigator.requestsOf "b" = [fromB] := by decide +kernel
  obtain ⟨sameA, leftA⟩ := asks "a"
  obtain ⟨sameB, leftB⟩ := asks "b"
  refine ⟨isLeft, isRight, sameCounts, sameNavigator, leftA.trans heldA,
    sameA.symm.trans (leftA.trans heldA), leftB.trans heldB, sameB.symm.trans (leftB.trans heldB),
    ?_, ?_⟩
  · decide +kernel
  · decide +kernel

end Navigator

end SymbolJump
