/-
Pumping a connection follows the answers of its server.

Every answer leads to the first of its locations. One in the connected document
moves the caret, so of these the last one counts; one elsewhere is a request to
the host, which may open the document or refuse it. Neither touches the history,
whatever the host says, so going back still leads to where the latest jump by
name came from.
-/

import SymbolJump.Proofs.Jumper.AllOrNothing
import SymbolJump.Proofs.Server.Draining
import SymbolJump.Server.Bridge

namespace SymbolJump

open Text

namespace Server

/-- The place an event leads to, the first of its locations. -/
def Event.target? : Event → Option Location
  | .goTo _ (first :: _) => some first
  | .goTo _ [] | .initialized _ | .closed => none

def Location.request (location : Location) : OpenRequest where
  path := Uri.externalReference (Uri.stripFileScheme location.uri)
  editorIndex := 0
  position := ⟨location.range.start.line.toNat, location.range.start.character.toNat⟩

end Server

/-- The editor after a move to a location, if there is one. -/
def Editor.ledTo (editor : Editor) : Option Server.Location → Editor
  | none => editor
  | some location =>
      { editor with
        cursor := clamp editor.text (ofServer editor.text location.range.start)
        focused := true }

theorem Editor.ledTo_ledTo (editor : Editor) (earlier later : Option Server.Location) :
    (editor.ledTo earlier).ledTo later = editor.ledTo (later.or earlier) := by
  cases later with
  | none => rfl
  | some location => cases earlier <;> rfl

/-! ### Asking the host -/

namespace Host

variable (host : Host)

theorem requests_present (request : OpenRequest) :
    (host.present request).2.requests = host.requests ++ [request] :=
  List.map_append

/-- Asks the host for several documents, one after the other. -/
def presentAll (requests : List OpenRequest) : Host :=
  requests.foldl (fun asked request => (asked.present request).2) host

theorem presentAll_append (first second : List OpenRequest) :
    host.presentAll (first ++ second) = (host.presentAll first).presentAll second :=
  List.foldl_append

/-- Every request is logged as it was made, with the answer that the host gives after all the
requests before it. -/
theorem presentAll_eq (requests : List OpenRequest) :
    host.presentAll requests =
      { host with
        log := host.log ++ requests.mapIdx fun index request =>
          ⟨request, host.answer (host.requests ++ requests.take index) request⟩ } := by
  induction requests generalizing host with
  | nil => simp only [presentAll, List.foldl_nil, List.mapIdx_nil, List.append_nil]
  | cons request rest ih =>
      change (host.present request).2.presentAll rest = _
      rw [ih, requests_present]
      simp only [present, List.mapIdx_cons, List.take_zero, List.take_succ_cons, List.append_nil,
        List.append_assoc, List.singleton_append]

theorem requests_presentAll (requests : List OpenRequest) :
    (host.presentAll requests).requests = host.requests ++ requests := by
  induction requests generalizing host with
  | nil => exact (List.append_nil _).symm
  | cons request rest ih =>
      change ((host.present request).2.presentAll rest).requests = _
      rw [ih, requests_present, List.append_assoc, List.singleton_append]

/-- Opens the first document that it is asked for and no other. -/
def openingOnce : Host where
  answer earlier request :=
    if earlier.isEmpty then none else some (.rejected request.path "one document is enough")

end Host

namespace Server

/-! ### Following one answer -/

theorem handleLocations_elsewhere {documentUri : String} {location : Location}
    (elsewhere : Uri.sameDocument location.uri documentUri = false) (others : List Location)
    (jumper : Jumper) (host : Host) :
    handleLocations documentUri jumper host (location :: others) =
      ((host.present location.request).1, jumper, (host.present location.request).2) := by
  simp only [handleLocations, GoTo.ofLocations, elsewhere, Bool.false_eq_true, if_false, follow]
  rfl

theorem handleLocations_here {documentUri : String} {location : Location}
    (here : Uri.sameDocument location.uri documentUri = true) (others : List Location)
    (jumper : FileJumper) (host : Host) :
    handleLocations documentUri (.file jumper) host (location :: others) =
      (true, .file { jumper with editor := jumper.editor.ledTo (some location) }, host) := by
  have arrived : jumper.editor.arrive
      (.ofPosition (ofServer jumper.editor.text location.range.start)) =
        jumper.editor.ledTo (some location) :=
    Editor.arrive_eq_of_caret (clamp_clamp _ _)
  simp only [handleLocations, GoTo.ofLocations, here, if_true, follow, Jumper.activeEditor?,
    Option.map_some, Jumper.jump, Jumper.destinationAt, FileJumper.jump_eq, arrived]

/-! ### Following all answers -/

def within (documentUri : String) (locations : List Location) : List Location :=
  locations.filter fun location => Uri.sameDocument location.uri documentUri

def beyond (documentUri : String) (locations : List Location) : List Location :=
  locations.filter fun location => !Uri.sameDocument location.uri documentUri

theorem applyEvents_file (documentUri : String) (events : List Event) (jumper : FileJumper)
    (host : Host) :
    applyEvents documentUri events (.file jumper) host =
      (.file { jumper with
          editor := jumper.editor.ledTo
            (within documentUri (events.filterMap Event.target?)).getLast? },
        host.presentAll
          ((beyond documentUri (events.filterMap Event.target?)).map Location.request)) := by
  induction events generalizing jumper host with
  | nil => rfl
  | cons event rest ih =>
      cases event with
      | initialized capabilities => exact ih jumper host
      | closed => exact ih jumper host
      | goTo command locations =>
          cases locations with
          | nil => exact ih jumper host
          | cons first others =>
              cases here : Uri.sameDocument first.uri documentUri with
              | true =>
                  -- A later move covers this one, so it counts only if none follows.
                  have step := handleLocations_here here others jumper host
                  simp only [applyEvents, step, ih, Editor.ledTo_ledTo, within, beyond,
                    List.filterMap_cons, Event.target?, List.filter_cons, here, if_true,
                    Bool.not_true, Bool.false_eq_true, if_false, List.getLast?_cons,
                    Option.or_some]
              | false =>
                  have step := handleLocations_elsewhere here others (.file jumper) host
                  simp only [applyEvents, step, ih, within, beyond, List.filterMap_cons,
                    Event.target?, List.filter_cons, here, Bool.false_eq_true, if_false,
                    Bool.not_false, if_true, List.map_cons]
                  rfl

end Server

/-! ### Pumping -/

theorem FileJumper.jumpBack_ledTo (jumper : FileJumper) {history : History}
    (stacked : history.stack jumper.surface ≠ []) (target? : Option Server.Location) :
    FileJumper.jumpBack { jumper with editor := jumper.editor.ledTo target? } history =
      jumper.jumpBack history := by
  obtain ⟨latest, earlier, isStack⟩ := List.exists_cons_of_ne_nil stacked
  cases target? with
  | none => rfl
  | some location =>
      rw [jumpBack_of_cons isStack]
      exact jumpBack_of_cons isStack

namespace Workplace

open Server

def pump (place : Workplace) (connection : Connection) : Nat × Connection × Workplace :=
  let (count, drained, jumper, host) := Server.pump connection place.jumper place.host
  (count, drained, { place with jumper := jumper, host := host })

theorem pump_of_exhausts {connection drained : Connection} {events : List Event}
    (exhausts : connection.Exhausts events drained) (jumper : FileJumper) (history : History)
    (host : Host) :
    let targets := events.filterMap Event.target?
    pump ⟨.file jumper, history, host⟩ connection =
      (events.length, drained,
        { jumper := .file { jumper with
            editor := jumper.editor.ledTo
              (within connection.addresses.documentUri targets).getLast? }
          history := history
          host := host.presentAll
            ((beyond connection.addresses.documentUri targets).map Location.request) }) := by
  intro targets
  simp only [pump, Server.pump, exhausts.drain_eq, applyEvents_file]
  rfl

/-- Pumping a file polls until nothing is ready and counts the events. The caret ends at the
first location of the last answer in the document, if there is one, and all else of the file
stays. The host is asked once for every answer elsewhere, in order, and each of these requests
is made whole whether the host shows the document or not; it may open some and refuse others,
as it likes after the requests before. The history is not touched, so going back leads where it
would have led before. Pumping at once again does nothing. -/
theorem pump_follows_answers (connection : Connection) (jumper : FileJumper) (history : History)
    (host : Host) :
    let events := connection.readyEvents
    let targets := events.filterMap Event.target?
    let requests := (beyond connection.addresses.documentUri targets).map Location.request
    ∃ drained after,
      pump ⟨.file jumper, history, host⟩ connection = (events.length, drained, after) ∧
        connection.Exhausts events drained ∧
        after.history = history ∧
        after.jumper = .file { jumper with
          editor := jumper.editor.ledTo
            (within connection.addresses.documentUri targets).getLast? } ∧
        after.host.requests = host.requests ++ requests ∧
        after.host = { host with
          log := host.log ++ requests.mapIdx fun index request =>
            ⟨request, host.answer (host.requests ++ requests.take index) request⟩ } ∧
        (history.stack jumper.surface ≠ [] →
          after.jumper.jumpBack after.history = (Jumper.file jumper).jumpBack history) ∧
        after.pump drained = (0, drained, after) := by
  intro events targets requests
  obtain ⟨drained, exhausts⟩ := connection.exhausts_readyEvents
  refine ⟨drained, _, pump_of_exhausts exhausts jumper history host, exhausts, rfl, rfl,
    host.requests_presentAll requests, host.presentAll_eq requests, ?_, ?_⟩
  · intro stacked
    have returned := jumper.jumpBack_ledTo stacked
      (within connection.addresses.documentUri targets).getLast?
    simp only [Jumper.jumpBack]
    rw [returned]
  · exact pump_of_exhausts (.idle exhausts.poll_eq) _ history _

/-- The server tells of a place in the document, two elsewhere and one in the document again,
with a notification in between, and is gone then. -/
def answeringConnection : Connection where
  addresses := ⟨"any", "ws://localhost/any", "ws://localhost:3000/any", "file:///", "file:///x"⟩
  documentText := []
  pending := ⟨[(1, .question .definition), (2, .question .references), (3, .question .definition),
    (4, .question .definition)]⟩
  link :=
    { inbox :=
        [.response (.number 1) (some (Location.mk "file:///x" ⟨⟨0, 1⟩, ⟨0, 2⟩⟩).encode) none,
         .notification "telemetry/event" none,
         .response (.number 2) (some (Location.mk "/y" ⟨⟨7, 5⟩, ⟨7, 6⟩⟩).encode) none,
         .response (.number 3) (some (Location.mk "/z" ⟨⟨3, 0⟩, ⟨3, 4⟩⟩).encode) none,
         .response (.number 4) (some (Location.mk "file:///x" ⟨⟨1, 9⟩, ⟨1, 9⟩⟩).encode) none]
      serverSends := false }

def answeredFile : FileJumper where
  editor := { id := "e", text := "ab\ncd".toList, contentType := "t" }
  path := []
  language := "any"
  registry := ⟨[]⟩

def answeredHistory : History :=
  History.empty.store (.file "e") (.ofPosition ⟨0, 2⟩)

/-- The four answers, with a host that opens the first document elsewhere and refuses the
second. -/
theorem pump_follows_four_answers :
    ∃ drained after,
      pump ⟨.file answeredFile, answeredHistory, .openingOnce⟩ answeringConnection =
          (5, drained, after) ∧
        after.jumper.current? = some (.ofPosition ⟨1, 2⟩) ∧
        after.host.log =
          [⟨⟨".lsp_symlink/y", 0, ⟨7, 5⟩⟩, none⟩,
            ⟨⟨".lsp_symlink/z", 0, ⟨3, 0⟩⟩,
              some (.rejected ".lsp_symlink/z" "one document is enough")⟩] ∧
        after.jumper.jumpBack after.history =
          (Jumper.file answeredFile).jumpBack answeredHistory := by
  obtain ⟨drained, after, pumped, _, _, followed, _, isHost, returned, _⟩ :=
    pump_follows_answers answeringConnection answeredFile answeredHistory .openingOnce
  refine ⟨drained, after, pumped, ?_, ?_, returned (by decide)⟩
  · rw [followed]
    decide
  · rw [isHost]
    decide

end Workplace

end SymbolJump
