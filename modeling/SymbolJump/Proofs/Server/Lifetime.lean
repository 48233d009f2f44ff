/-
The events of a connection, from its opening to its end.

Whatever the server sends, and in whatever order, the events are first the
announcement of the capabilities, then answers, then the end. What keeps this
order is the pace of the open requests: the handshake is open only while no
capabilities are known, and questions only after that. A connection that was
closed stays as it is and says nothing more.
-/

import SymbolJump.Proofs.Server.Exchange

namespace SymbolJump.Server

open Text

/-! ### The pace of requests -/

/-- The handshake is open only before the capabilities are known, and questions only
afterwards. -/
structure Paced (connection : Connection) : Prop where
  handshake : ∀ number, connection.pending.get? number = some .handshake →
    number = 1 ∧ connection.capabilities = none
  question : ∀ number command, connection.pending.get? number = some (.question command) →
    connection.capabilities.isSome = true

namespace Paced

variable {connection after : Connection}

theorem of_same (paced : Paced connection) (samePending : after.pending = connection.pending)
    (sameCapabilities : after.capabilities = connection.capabilities) : Paced after where
  handshake := by
    rw [samePending, sameCapabilities]
    exact paced.handshake
  question := by
    rw [samePending, sameCapabilities]
    exact paced.question

theorem of_empty (empty : after.pending = .empty) : Paced after where
  handshake := by
    intro number awaited
    rw [empty] at awaited
    cases awaited
  question := by
    intro number command awaited
    rw [empty] at awaited
    cases awaited

theorem settled (paced : Paced connection) (number : Nat) :
    Paced (connection.settled number) where
  handshake := by
    intro other awaited
    change (connection.pending.erase number).get? other = _ at awaited
    rw [Keyed.get?_erase] at awaited
    split at awaited
    · cases awaited
    · exact paced.handshake other awaited
  question := by
    intro other command awaited
    change (connection.pending.erase number).get? other = _ at awaited
    rw [Keyed.get?_erase] at awaited
    split at awaited
    · cases awaited
    · exact paced.question other command awaited

/-- The answer to the handshake ends the only handshake there is. -/
theorem greeted (paced : Paced connection) {number : Nat}
    (awaited : connection.pending.get? number = some .handshake) (capabilities : Capabilities) :
    Paced ((connection.settled number).greeted capabilities) where
  handshake := by
    intro other stillAwaited
    change (connection.pending.erase number).get? other = _ at stillAwaited
    rw [Keyed.get?_erase] at stillAwaited
    split at stillAwaited
    · cases stillAwaited
    · next apart =>
        have isFirst := (paced.handshake number awaited).1
        have otherFirst := (paced.handshake other stillAwaited).1
        exact absurd (otherFirst.trans isFirst.symm) apart
  question := fun _ _ _ => rfl

theorem posed (paced : Paced connection) (ready : connection.IsReady) (command : Command)
    (position : ServerPosition) : Paced (connection.posed command position) where
  handshake := by
    intro other awaited
    change (connection.pending.insert _ _).get? other = _ at awaited
    rw [Keyed.get?_insert] at awaited
    split at awaited
    · cases awaited
    · exact paced.handshake other awaited
  question := fun _ _ _ => ready.2

theorem taken {message : Message} {event : Option Event} (paced : Paced connection)
    (taken : connection.Taken message event after) : Paced after := by
  cases taken with
  | ignored unrelated => exact paced
  | replied id method params => exact paced.of_same rfl rfl
  | silenced isNumber awaited refused empty => exact paced.settled _
  | greeted isNumber awaited => exact paced.greeted awaited _
  | answered isNumber awaited decoded nonempty => exact paced.settled _

end Paced

theorem Exchange.paced_step {before after : Exchange} (step : Step before after)
    (paced : Paced before.connection) : Paced after.connection := by
  cases step with
  | took isOpen isNext taken => exact (paced.taken taken).of_same rfl rfl
  | ended isOpen isLast gone => exact .of_empty rfl
  | posed ready receives command position => exact paced.posed ready command position
  | lost ready gone => exact paced.of_same rfl rfl
  | dismissed ready receives => exact .of_empty rfl
  | shut isOpen => exact .of_empty rfl
  | deafened => exact paced.of_same rfl rfl
  | arrived message => exact paced.of_same rfl rfl
  | delivered receives => exact paced.of_same rfl rfl
  | muted => exact paced.of_same rfl rfl
  | left => exact paced.of_same rfl rfl

/-! ### The order of events -/

def Event.IsGoTo (event : Event) : Prop :=
  ∃ command locations, event = .goTo command locations

/-- The events up to now: the announcement of the capabilities as soon as they are known,
answers after it, and the end, which only a connection no longer open has reported. -/
def Told (capabilities : Option Capabilities) (isOpen : Bool) (events : List Event) : Prop :=
  ∃ answers ending, events = (capabilities.map Event.initialized).toList ++ answers ++ ending ∧
    (capabilities = none → answers = []) ∧ (∀ event ∈ answers, event.IsGoTo) ∧
    (ending = [] ∨ ending = [.closed] ∧ isOpen = false)

namespace Told

variable {capabilities : Option Capabilities} {events : List Event}

theorem of_open (told : Told capabilities true events) :
    ∃ answers, events = (capabilities.map Event.initialized).toList ++ answers ∧
      (capabilities = none → answers = []) ∧ ∀ event ∈ answers, event.IsGoTo := by
  obtain ⟨answers, ending, isEvents, early, areGoTo, ends⟩ := told
  rcases ends with rfl | ⟨_, contradictory⟩
  · exact ⟨answers, by rw [isEvents, List.append_nil], early, areGoTo⟩
  · cases contradictory

theorem shut {isOpen : Bool} (told : Told capabilities isOpen events) :
    Told capabilities false events := by
  obtain ⟨answers, ending, isEvents, early, areGoTo, ends⟩ := told
  exact ⟨answers, ending, isEvents, early, areGoTo, ends.imp_right fun isEnd => ⟨isEnd.1, rfl⟩⟩

theorem ended (told : Told capabilities true events) :
    Told capabilities false (events ++ [.closed]) := by
  obtain ⟨answers, isEvents, early, areGoTo⟩ := told.of_open
  exact ⟨answers, [.closed], by rw [isEvents], early, areGoTo, .inr ⟨rfl, rfl⟩⟩

theorem greeted (told : Told none true events) (announced : Capabilities) :
    Told (some announced) true (events ++ [.initialized announced]) := by
  obtain ⟨answers, isEvents, early, _⟩ := told.of_open
  refine ⟨[], [], ?_, fun _ => rfl, fun event member => (by cases member), .inl rfl⟩
  rw [isEvents, early rfl]
  rfl

theorem answered {announced : Capabilities} (told : Told (some announced) true events)
    (command : Command) (locations : List Location) :
    Told (some announced) true (events ++ [.goTo command locations]) := by
  obtain ⟨answers, isEvents, _, areGoTo⟩ := told.of_open
  refine ⟨answers ++ [.goTo command locations], [], ?_, fun unknown => (by cases unknown), ?_,
    .inl rfl⟩
  · rw [isEvents, List.append_nil, List.append_assoc]
  · intro event member
    rcases List.mem_append.mp member with earlier | last
    · exact areGoTo event earlier
    · exact ⟨command, locations, List.mem_singleton.mp last⟩

end Told

namespace Exchange

def InOrder (exchange : Exchange) : Prop :=
  Told exchange.connection.capabilities exchange.connection.isOpen exchange.events

theorem inOrder_took {exchange : Exchange} {message : Message} {event : Option Event}
    {after : Connection} (isOpen : exchange.connection.isOpen = true)
    (taken : exchange.connection.Taken message event after) (paced : Paced exchange.connection)
    (inOrder : exchange.InOrder) :
    Told after.capabilities after.isOpen (exchange.events ++ event.toList) := by
  unfold InOrder at inOrder
  rw [taken.isOpen_eq]
  rw [isOpen] at inOrder ⊢
  cases taken with
  | ignored unrelated =>
      rw [Option.toList_none, List.append_nil]
      exact inOrder
  | replied id method params =>
      rw [Option.toList_none, List.append_nil]
      exact inOrder
  | silenced isNumber awaited refused empty =>
      rw [Option.toList_none, List.append_nil]
      exact inOrder
  | greeted isNumber awaited =>
      rw [(paced.handshake _ awaited).2] at inOrder
      exact inOrder.greeted _
  | answered isNumber awaited decoded nonempty =>
      change Told exchange.connection.capabilities _ _
      obtain ⟨capabilities, known⟩ := Option.isSome_iff_exists.mp (paced.question _ _ awaited)
      rw [known] at inOrder ⊢
      exact inOrder.answered _ _

theorem inOrder_step {before after : Exchange} (step : Step before after)
    (paced : Paced before.connection) (inOrder : before.InOrder) : after.InOrder := by
  cases step with
  | took isOpen isNext taken =>
      have told := inOrder_took isOpen taken paced inOrder
      exact told
  | ended isOpen isLast gone =>
      unfold InOrder at inOrder
      rw [isOpen] at inOrder
      exact inOrder.ended
  | posed ready receives command position => exact inOrder
  | lost ready gone => exact inOrder
  | dismissed ready receives => exact inOrder.shut
  | shut isOpen => exact inOrder.shut
  | deafened => exact inOrder
  | arrived message => exact inOrder
  | delivered receives => exact inOrder
  | muted => exact inOrder
  | left => exact inOrder

/-- Capabilities once known are never replaced. -/
theorem capabilities_step {before after : Exchange} (step : Step before after)
    (paced : Paced before.connection) {capabilities : Capabilities}
    (known : before.connection.capabilities = some capabilities) :
    after.connection.capabilities = some capabilities := by
  cases step with
  | took isOpen isNext taken =>
      cases taken with
      | ignored unrelated => exact known
      | replied id method params => exact known
      | silenced isNumber awaited refused empty => exact known
      | greeted isNumber awaited =>
          rw [(paced.handshake _ awaited).2] at known
          cases known
      | answered isNumber awaited decoded nonempty => exact known
  | ended isOpen isLast gone => exact known
  | posed ready receives command position => exact known
  | lost ready gone => exact known
  | dismissed ready receives => exact known
  | shut isOpen => exact known
  | deafened => exact known
  | arrived message => exact known
  | delivered receives => exact known
  | muted => exact known
  | left => exact known

/-! ### After the end -/

/-- A later state of an exchange that was closed: all but the link is as it was, no event was
added, and no message was sent. -/
structure Dormant (before after : Exchange) : Prop where
  closed : after.connection.isOpen = false
  same : after.connection = { before.connection with link := after.connection.link }
  sameEvents : after.events = before.events
  nothingSent : after.flight <+: before.flight

theorem dormant_refl {exchange : Exchange} (closed : exchange.connection.isOpen = false) :
    Dormant exchange exchange where
  closed := closed
  same := rfl
  sameEvents := rfl
  nothingSent := List.prefix_rfl

theorem dormant_step {before middle after : Exchange} (step : Step middle after)
    (dormant : Dormant before middle) : Dormant before after := by
  have closed := dormant.closed
  have notOpen : ¬ middle.connection.isOpen = true := by
    rw [closed]
    exact Bool.false_ne_true
  have same := dormant.same
  cases step with
  | took isOpen isNext taken => exact absurd isOpen notOpen
  | ended isOpen isLast gone => exact absurd isOpen notOpen
  | posed ready receives command position => exact absurd ready.1 notOpen
  | lost ready gone => exact absurd ready.1 notOpen
  | dismissed ready receives => exact absurd ready.1 notOpen
  | shut isOpen => exact absurd isOpen notOpen
  | deafened => exact ⟨closed, by rw [same], dormant.sameEvents, dormant.nothingSent⟩
  | arrived message =>
      exact ⟨closed, by unfold Connection.setInbox; rw [same], dormant.sameEvents,
        dormant.nothingSent⟩
  | delivered receives =>
      refine ⟨closed, by rw [same], dormant.sameEvents, ?_⟩
      change middle.received ++ middle.connection.link.outbox ++ [] <+: _
      rw [List.append_nil]
      exact dormant.nothingSent
  | muted =>
      exact ⟨closed, by unfold Connection.serverStopsSending; rw [same], dormant.sameEvents,
        dormant.nothingSent⟩
  | left =>
      refine ⟨closed, by unfold Connection.serverStopsReceiving; rw [same],
        dormant.sameEvents, ?_⟩
      change middle.received ++ [] <+: _
      rw [List.append_nil]
      exact (List.prefix_append _ _).trans dormant.nothingSent

theorem dormant_run {exchange : Exchange} (closed : exchange.connection.isOpen = false)
    (actions : List Action) : Dormant exchange (exchange.run actions) :=
  run_preserves dormant_step (dormant_refl closed) actions

theorem isOpen_close (connection : Connection) : connection.close.isOpen = false := by
  cases isOpen : connection.isOpen with
  | false => rw [Connection.close_of_closed isOpen, isOpen]
  | true =>
      cases known : connection.capabilities with
      | none =>
          rw [Connection.close_of_unready isOpen known]
          rfl
      | some capabilities =>
          have ready : connection.IsReady := ⟨isOpen, by rw [known]; rfl⟩
          cases receives : connection.link.serverReceives with
          | true =>
              rw [Connection.close_of_received ready receives]
              rfl
          | false =>
              rw [Connection.close_of_lost ready receives]
              rfl

/-! ### Whole lives -/

theorem paced_start {processId : Nat} {addresses : Addresses} {documentText : List Char}
    {link : Link} {exchange : Exchange}
    (started : start processId addresses documentText link = .ok exchange) :
    Paced exchange.connection := by
  obtain ⟨_, rfl⟩ := start_eq_ok started
  have onlyHandshake {number : Nat} {purpose : Pending}
      (awaited : (Keyed.empty.insert 1 Pending.handshake).get? number = some purpose) :
      number = 1 ∧ purpose = .handshake := by
    rw [Keyed.get?_insert] at awaited
    split at awaited
    · next isFirst => exact ⟨isFirst, (Option.some.inj awaited).symm⟩
    · cases awaited
  constructor
  · intro number awaited
    exact ⟨(onlyHandshake awaited).1, rfl⟩
  · intro number command awaited
    cases (onlyHandshake awaited).2

section Runs

variable {processId : Nat} {addresses : Addresses} {documentText : List Char} {link : Link}
  {exchange : Exchange}

theorem paced_run (started : start processId addresses documentText link = .ok exchange)
    (actions : List Action) : Paced (exchange.run actions).connection :=
  run_preserves (motive := fun exchange => Paced exchange.connection) paced_step
    (paced_start started) actions

theorem inOrder_start (started : start processId addresses documentText link = .ok exchange) :
    exchange.InOrder := by
  obtain ⟨_, rfl⟩ := start_eq_ok started
  exact ⟨[], [], rfl, fun _ => rfl, fun event member => (by cases member), .inl rfl⟩

theorem inOrder_run (started : start processId addresses documentText link = .ok exchange)
    (actions : List Action) : (exchange.run actions).InOrder := by
  have both := run_preserves
    (motive := fun exchange => Paced exchange.connection ∧ exchange.InOrder)
    (fun step held => ⟨paced_step step held.1, inOrder_step step held.1 held.2⟩)
    ⟨paced_start started, inOrder_start started⟩ actions
  exact both.2

theorem capabilities_run (paced : Paced exchange.connection) {capabilities : Capabilities}
    (known : exchange.connection.capabilities = some capabilities) (actions : List Action) :
    (exchange.run actions).connection.capabilities = some capabilities := by
  have both := run_preserves
    (motive := fun exchange => Paced exchange.connection ∧
      exchange.connection.capabilities = some capabilities)
    (fun step held => ⟨paced_step step held.1, capabilities_step step held.1 held.2⟩)
    ⟨paced, known⟩ actions
  exact both.2

end Runs

/-- The events of a connection come in order, whatever the server does: the announcement of
the capabilities, answers, the end. Known capabilities stay the announced ones. Closing makes
the connection closed and no event follows it. A closed connection stays as it is: whatever
either side does later, nothing but the link changes, nothing is reported or sent, every
question is refused, and polling and closing do nothing. -/
theorem events_come_in_order {processId : Nat} {addresses : Addresses}
    {documentText : List Char} {link : Link} {exchange : Exchange}
    (started : start processId addresses documentText link = .ok exchange)
    (actions : List Action) :
    let finished := exchange.run actions
    Told finished.connection.capabilities finished.connection.isOpen finished.events ∧
      (∀ capabilities, finished.connection.capabilities = some capabilities →
        ∀ later, (finished.run later).connection.capabilities = some capabilities) ∧
      (∀ ending, ending = .close ∨ ending = .drop →
        (finished.act ending).connection.isOpen = false ∧
        ∀ later, ((finished.act ending).run later).events = finished.events) ∧
      (finished.connection.isOpen = false → ∀ later,
        let last := finished.run later
        Dormant finished last ∧ last.connection.poll = (none, last.connection) ∧
          last.connection.close = last.connection ∧
          ∀ command position,
            last.connection.ask command position = (.error .closed, last.connection)) := by
  intro finished
  have paced : Paced finished.connection := paced_run started actions
  refine ⟨inOrder_run started actions, ?_, ?_, ?_⟩
  · intro capabilities known later
    exact capabilities_run paced known later
  · intro ending isEnding
    have closed : (finished.act ending).connection.isOpen = false := by
      rcases isEnding with rfl | rfl
      · exact isOpen_close finished.connection
      · exact isOpen_close finished.connection
    have sameEvents : (finished.act ending).events = finished.events := by
      rcases isEnding with rfl | rfl
      · rfl
      · rfl
    refine ⟨closed, ?_⟩
    intro later
    rw [(dormant_run closed later).sameEvents, sameEvents]
  · intro closed later last
    have dormant := dormant_run closed later
    have isClosed : last.connection.isOpen = false := dormant.closed
    refine ⟨dormant, ?_, Connection.close_of_closed isClosed, ?_⟩
    · unfold Connection.poll
      rw [isClosed]
      rfl
    · intro command position
      exact Connection.ask_of_closed isClosed command position

/-- Two events of a server that answers the handshake and lets go. -/
theorem events_come_in_order_of_brief_server :
    let finished := exampleExchange.run [.poll, .serverStopsSending, .poll]
    finished.events = [.initialized ⟨.null⟩, .closed] ∧
      ∀ later, (finished.run later).events = [.initialized ⟨.null⟩, .closed] := by
  intro finished
  have isEvents : finished.events = [.initialized ⟨.null⟩, .closed] := rfl
  have ordered := events_come_in_order start_example [.poll, .serverStopsSending, .poll]
  refine ⟨isEvents, ?_⟩
  intro later
  have dormant := (ordered.2.2.2 rfl later).1
  exact dormant.sameEvents.trans isEvents

end Exchange

end SymbolJump.Server
