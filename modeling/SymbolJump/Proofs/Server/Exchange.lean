/-
The life of a connection with any server.

An exchange is a connection together with what has passed so far: the messages
that reached it and those the server took, the events that polling reported,
and a record of all requests and of all messages taken from the queue, in
order. Both sides act on it in any order. Every action is made of a few steps,
so what each step preserves holds after every run.
-/

import Mathlib.Logic.Relation
import SymbolJump.Proofs.Server.Transitions

namespace SymbolJump.Server

open Text

/-! ### Exchanges -/

inductive Entry where
  /-- A request went out under a number. -/
  | sent (purpose : Pending) (number : Nat)
  /-- A request had no way out; its number is used up. -/
  | lost (number : Nat)
  /-- A message was taken from the queue, with the event it made. -/
  | took (message : Message) (event : Option Event)
  /-- The queue was empty and the server gone. -/
  | ended

namespace Entry

def number? : Entry → Option Nat
  | sent _ number => some number
  | lost number => some number
  | took .. | ended => none

def sentNumber? : Entry → Option Nat
  | sent _ number => some number
  | lost _ | took .. | ended => none

def message? : Entry → Option Message
  | took message _ => some message
  | sent .. | lost _ | ended => none

def event? : Entry → Option Event
  | took _ event => event
  | ended => some .closed
  | sent .. | lost _ => none

end Entry

structure Exchange where
  connection : Connection
  /-- The messages of the server that reached the queue. -/
  arrived : List Message
  /-- The messages that the server took. -/
  received : List Message := []
  /-- The events that polling reported. -/
  events : List Event := []
  record : List Entry := []

inductive Action where
  | ask (command : Command) (position : ServerPosition)
  | poll
  | close
  | drop
  | serverSend (message : Message)
  | serverReceive
  | serverStopsSending
  | serverStopsReceiving

def Connection.takings (connection : Connection) : List Message → List Entry
  | [] => if connection.link.serverSends then [] else [.ended]
  | message :: rest =>
      match connection.take message with
      | (some event, _) => [.took message (some event)]
      | (none, taken) => .took message none :: takings taken rest

theorem Connection.takings_setInbox (connection : Connection) (inbox messages : List Message) :
    (connection.setInbox inbox).takings messages = connection.takings messages := by
  induction messages generalizing connection with
  | nil => rfl
  | cons message rest ih =>
      simp only [takings, take_setInbox]
      cases taken : connection.take message with
      | mk event after =>
          cases event with
          | some event => rfl
          | none => exact congrArg (List.cons _) (ih after)

namespace Exchange

/-- What the server received or can still receive. -/
def flight (exchange : Exchange) : List Message :=
  exchange.received ++ exchange.connection.link.outbox

/-- The exchange of a connection that has just been opened over a link. -/
def start (processId : Nat) (addresses : Addresses) (documentText : List Char) (link : Link) :
    Except ConnectionError Exchange :=
  match Connection.start processId addresses documentText link with
  | .ok connection =>
      .ok
        { connection := connection
          arrived := connection.link.inbox
          record := [.sent .handshake connection.lastId] }
  | .error error => .error error

/-- Opening succeeds over a link whose server receives, and has then sent the handshake. -/
theorem start_eq_ok {processId : Nat} {addresses : Addresses} {documentText : List Char}
    {link : Link} {exchange : Exchange}
    (started : start processId addresses documentText link = .ok exchange) :
    link.serverReceives = true ∧
      exchange =
        { connection :=
            (Connection.fresh addresses documentText link).requested .handshake "initialize"
              (some (Connection.handshakeParams processId addresses.rootUri))
          arrived := link.inbox
          record := [.sent .handshake 1] } := by
  unfold start at started
  cases receives : link.serverReceives with
  | false =>
      rw [Connection.start_of_lost receives] at started
      cases started
  | true =>
      rw [Connection.start_of_receives receives] at started
      exact ⟨rfl, (Except.ok.inj started).symm⟩

/-- The record of a question: what was answered to it, or the number it used up. -/
def questionEntries (command : Command) (before after : Connection) :
    Except ConnectionError Nat → List Entry
  | .ok number => [.sent (.question command) number]
  | .error _ => if after.lastId = before.lastId then [] else [.lost after.lastId]

def closingEntries (before after : Connection) : List Entry :=
  if after.lastId = before.lastId then []
  else if before.link.serverReceives then [.sent .shutdown after.lastId]
  else [.lost after.lastId]

def act (exchange : Exchange) : Action → Exchange
  | .ask command position =>
      let (answer, asked) := exchange.connection.ask command position
      { exchange with
        connection := asked
        record := exchange.record ++ questionEntries command exchange.connection asked answer }
  | .poll =>
      let (event, polled) := exchange.connection.poll
      { exchange with
        connection := polled
        events := exchange.events ++ event.toList
        record := exchange.record ++
          if exchange.connection.isOpen then
            exchange.connection.takings exchange.connection.link.inbox
          else [] }
  | .close =>
      let closed := exchange.connection.close
      { exchange with
        connection := closed
        record := exchange.record ++ closingEntries exchange.connection closed }
  | .drop =>
      let dropped := exchange.connection.drop
      { exchange with
        connection := dropped
        record := exchange.record ++ closingEntries exchange.connection dropped }
  | .serverSend message =>
      let (accepted, reached) := exchange.connection.serverSend message
      { exchange with
        connection := reached
        arrived := exchange.arrived ++ if accepted then [message] else [] }
  | .serverReceive =>
      let (taken, emptied) := exchange.connection.serverReceive
      { exchange with connection := emptied, received := exchange.received ++ taken.getD [] }
  | .serverStopsSending =>
      { exchange with connection := exchange.connection.serverStopsSending.2 }
  | .serverStopsReceiving =>
      { exchange with connection := exchange.connection.serverStopsReceiving.2 }

def run (exchange : Exchange) (actions : List Action) : Exchange :=
  actions.foldl act exchange

/-! ### Steps -/

inductive Step : Exchange → Exchange → Prop where
  | took {exchange : Exchange} {message : Message} {rest : List Message} {event : Option Event}
      {after : Connection} (isOpen : exchange.connection.isOpen = true)
      (isNext : exchange.connection.link.inbox = message :: rest)
      (taken : exchange.connection.Taken message event after) :
      Step exchange
        { exchange with
          connection := after.setInbox rest
          events := exchange.events ++ event.toList
          record := exchange.record ++ [.took message event] }
  | ended {exchange : Exchange} (isOpen : exchange.connection.isOpen = true)
      (isLast : exchange.connection.link.inbox = [])
      (gone : exchange.connection.link.serverSends = false) :
      Step exchange
        { exchange with
          connection := exchange.connection.shut
          events := exchange.events ++ [.closed]
          record := exchange.record ++ [.ended] }
  | posed {exchange : Exchange} (ready : exchange.connection.IsReady)
      (receives : exchange.connection.link.serverReceives = true) (command : Command)
      (position : ServerPosition) :
      Step exchange
        { exchange with
          connection := exchange.connection.posed command position
          record := exchange.record ++
            [.sent (.question command) (exchange.connection.lastId + 1)] }
  | lost {exchange : Exchange} (ready : exchange.connection.IsReady)
      (gone : exchange.connection.link.serverReceives = false) :
      Step exchange
        { exchange with
          connection := exchange.connection.counted
          record := exchange.record ++ [.lost (exchange.connection.lastId + 1)] }
  | dismissed {exchange : Exchange} (ready : exchange.connection.IsReady)
      (receives : exchange.connection.link.serverReceives = true) :
      Step exchange
        { exchange with
          connection := exchange.connection.dismissed
          record := exchange.record ++ [.sent .shutdown (exchange.connection.lastId + 1)] }
  | shut {exchange : Exchange} (isOpen : exchange.connection.isOpen = true) :
      Step exchange { exchange with connection := exchange.connection.shut }
  | deafened (exchange : Exchange) :
      Step exchange
        { exchange with
          connection := { exchange.connection with
            link := { exchange.connection.link with clientListens := false } } }
  | arrived (exchange : Exchange) (message : Message) :
      Step exchange
        { exchange with
          connection := exchange.connection.setInbox (exchange.connection.link.inbox ++ [message])
          arrived := exchange.arrived ++ [message] }
  | delivered {exchange : Exchange}
      (receives : exchange.connection.link.serverReceives = true) :
      Step exchange
        { exchange with
          connection := { exchange.connection with
            link := { exchange.connection.link with outbox := [] } }
          received := exchange.received ++ exchange.connection.link.outbox }
  | muted (exchange : Exchange) :
      Step exchange { exchange with connection := exchange.connection.serverStopsSending.2 }
  | left (exchange : Exchange) :
      Step exchange { exchange with connection := exchange.connection.serverStopsReceiving.2 }

abbrev Reaches : Exchange → Exchange → Prop := Relation.ReflTransGen Step

theorem reaches_takings {exchange : Exchange} {messages : List Message}
    (isOpen : exchange.connection.isOpen = true)
    (isInbox : exchange.connection.link.inbox = messages) :
    Reaches exchange
      { exchange with
        connection := (exchange.connection.pollFrom messages).2
        events := exchange.events ++ (exchange.connection.pollFrom messages).1.toList
        record := exchange.record ++ exchange.connection.takings messages } := by
  induction messages generalizing exchange with
  | nil =>
      have emptied := Connection.setInbox_of_eq isInbox
      cases sends : exchange.connection.link.serverSends with
      | true =>
          simp only [Connection.pollFrom, Connection.takings, emptied, sends, if_true,
            Option.toList_none, List.append_nil]
          exact .refl
      | false =>
          simp only [Connection.pollFrom, Connection.takings, emptied, sends,
            Bool.false_eq_true, if_false, Option.toList_some]
          exact .single (.ended isOpen isInbox sends)
  | cons message rest ih =>
      have taken := exchange.connection.taken message
      have first := Step.took isOpen isInbox taken
      simp only [Connection.pollFrom, Connection.takings]
      cases made : exchange.connection.take message with
      | mk event after =>
          rw [made] at taken first
          cases event with
          | some event => exact .single first
          | none =>
              -- Without an event the poll goes on with the queue that this message left.
              have stillOpen : (after.setInbox rest).isOpen = true :=
                taken.isOpen_eq.trans isOpen
              have others : Reaches
                  { exchange with
                    connection := after.setInbox rest
                    events := exchange.events ++ Option.toList none
                    record := exchange.record ++ [.took message none] } _ := ih stillOpen rfl
              simp only [Connection.pollFrom_setInbox, Connection.takings_setInbox,
                Option.toList_none, List.append_nil, List.append_assoc,
                List.singleton_append] at first others
              exact .head first others

theorem reaches_ask (exchange : Exchange) (command : Command) (position : ServerPosition) :
    Reaches exchange (exchange.act (.ask command position)) := by
  cases isOpen : exchange.connection.isOpen with
  | false =>
      simp only [act, Connection.ask_of_closed isOpen, questionEntries, if_true, List.append_nil]
      exact .refl
  | true =>
      cases known : exchange.connection.capabilities with
      | none =>
          simp only [act, Connection.ask_of_unready isOpen known, questionEntries, if_true,
            List.append_nil]
          exact .refl
      | some capabilities =>
          have ready : exchange.connection.IsReady := ⟨isOpen, by rw [known]; rfl⟩
          cases receives : exchange.connection.link.serverReceives with
          | true =>
              simp only [act, Connection.ask_of_ready ready,
                Connection.sendRequest_of_way _ _ _ (ready.way_eq.trans receives),
                questionEntries]
              exact .single (.posed ready receives command position)
          | false =>
              have changed : exchange.connection.counted.lastId ≠ exchange.connection.lastId :=
                Nat.succ_ne_self _
              simp only [act, Connection.ask_of_ready ready,
                Connection.sendRequest_of_no_way _ _ _ (ready.way_eq.trans receives),
                questionEntries, if_neg changed]
              exact .single (.lost ready receives)

theorem reaches_close (exchange : Exchange) : Reaches exchange (exchange.act .close) := by
  cases isOpen : exchange.connection.isOpen with
  | false =>
      simp only [act, Connection.close_of_closed isOpen, closingEntries, if_true, List.append_nil]
      exact .refl
  | true =>
      cases known : exchange.connection.capabilities with
      | none =>
          have same : exchange.connection.shut.lastId = exchange.connection.lastId := rfl
          simp only [act, Connection.close_of_unready isOpen known, closingEntries, if_pos same,
            List.append_nil]
          exact .single (.shut isOpen)
      | some capabilities =>
          have ready : exchange.connection.IsReady := ⟨isOpen, by rw [known]; rfl⟩
          cases receives : exchange.connection.link.serverReceives with
          | true =>
              have changed : exchange.connection.dismissed.lastId ≠ exchange.connection.lastId :=
                Nat.succ_ne_self _
              simp only [act, Connection.close_of_received ready receives, closingEntries,
                if_neg changed, receives, if_true]
              exact .single (.dismissed ready receives)
          | false =>
              have changed : exchange.connection.counted.shut.lastId ≠
                  exchange.connection.lastId := Nat.succ_ne_self _
              simp only [act, Connection.close_of_lost ready receives, closingEntries,
                if_neg changed, receives, Bool.false_eq_true, if_false]
              exact .head (.lost ready receives) (.single (.shut isOpen))

theorem reaches_act (exchange : Exchange) (action : Action) :
    Reaches exchange (exchange.act action) := by
  cases action with
  | ask command position => exact reaches_ask exchange command position
  | poll =>
      cases isOpen : exchange.connection.isOpen with
      | true =>
          simp only [act, Connection.poll, isOpen, if_true]
          exact reaches_takings isOpen rfl
      | false =>
          simp only [act, Connection.poll, isOpen, Bool.false_eq_true, if_false,
            Option.toList_none, List.append_nil]
          exact .refl
  | close => exact reaches_close exchange
  | drop => exact (reaches_close exchange).tail (.deafened _)
  | serverSend message =>
      simp only [act, Connection.serverSend]
      split
      · exact .single (.arrived exchange message)
      · simp only [Bool.false_eq_true, if_false, List.append_nil]
        exact .refl
  | serverReceive =>
      cases receives : exchange.connection.link.serverReceives with
      | true =>
          have taken := Connection.serverReceive_of_receives receives
          simp only [act, taken, Option.getD_some]
          exact .single (.delivered receives)
      | false =>
          simp only [act, Connection.serverReceive, receives, Bool.false_eq_true, if_false,
            Option.getD_none, List.append_nil]
          exact .refl
  | serverStopsSending => exact .single (.muted exchange)
  | serverStopsReceiving => exact .single (.left exchange)

theorem reaches_run (exchange : Exchange) (actions : List Action) :
    Reaches exchange (exchange.run actions) := by
  induction actions generalizing exchange with
  | nil => exact .refl
  | cons action rest ih => exact (reaches_act exchange action).trans (ih (exchange.act action))

/-- What every step preserves holds after every run. -/
theorem run_preserves {motive : Exchange → Prop}
    (preserved : ∀ {before after : Exchange}, Step before after → motive before → motive after)
    {exchange : Exchange} (initially : motive exchange) (actions : List Action) :
    motive (exchange.run actions) := by
  have reached := reaches_run exchange actions
  generalize exchange.run actions = finished at reached ⊢
  induction reached with
  | refl => exact initially
  | tail _ step ih => exact preserved step ih

/-! ### An exchange whose server has answered the handshake -/

def exampleAddresses : Addresses where
  language := "any"
  serverUri := "ws://localhost/any"
  endpoint := "ws://localhost:3000/any"
  rootUri := "file:///"
  documentUri := "file:///x"

def exampleLink : Link := { inbox := [.response (.name "+1") none none] }

def exampleExchange : Exchange where
  connection :=
    (Connection.fresh exampleAddresses ['x'] exampleLink).requested .handshake "initialize"
      (some (Connection.handshakeParams 7 exampleAddresses.rootUri))
  arrived := exampleLink.inbox
  record := [.sent .handshake 1]

theorem start_example : start 7 exampleAddresses ['x'] exampleLink = .ok exampleExchange :=
  rfl

end Exchange

end SymbolJump.Server
