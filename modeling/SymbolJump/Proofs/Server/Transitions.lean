/-
What the operations of a connection can do.

Every operation comes down to a few changes: a message put into the outgoing
queue, a number used up, an open request added or ended, the capabilities
noted, the connection shut. For each operation it is said once which of them
it makes, and when.
-/

import SymbolJump.Server.Connection

namespace SymbolJump.Server

open Text

/-! ### Sending and taking -/

/-- The number a message is an answer to. -/
def Message.answered? : Message → Option Nat
  | .response id _ _ => id.number?
  | .request .. | .notification .. => none

def Message.isRequest : Message → Bool
  | .request .. => true
  | .notification .. | .response .. => false

namespace Connection

/-- Sends a message if it has a way out. -/
def say (connection : Connection) (message : Message) : Connection :=
  { connection with
    link := { connection.link with
      outbox := connection.link.outbox ++
        if connection.isOpen && connection.link.serverReceives then [message] else [] } }

def counted (connection : Connection) : Connection :=
  { connection with lastId := connection.lastId + 1 }

def settled (connection : Connection) (number : Nat) : Connection :=
  { connection with pending := connection.pending.erase number }

def requested (connection : Connection) (purpose : Pending) (method : String)
    (params : Option Json) : Connection :=
  let number := connection.lastId + 1
  { connection.counted.say (.request (.number number.toUInt64) method params) with
    pending := connection.pending.insert number purpose }

def posed (connection : Connection) (command : Command) (position : ServerPosition) :
    Connection :=
  connection.requested (.question command) command.method
    (some (command.params connection.addresses.documentUri position))

/-- Notes the capabilities and opens the document. -/
def greeted (connection : Connection) (capabilities : Capabilities) : Connection :=
  let ready := { connection with capabilities := some capabilities }
  (ready.say (.notification "initialized" (some (.object [])))).say
    (.notification "textDocument/didOpen" (some connection.documentParams))

/-- Takes leave of a server that receives. -/
def dismissed (connection : Connection) : Connection :=
  ((connection.requested .shutdown "shutdown" none).say (.notification "exit" none)).shut

theorem send?_of_way {connection : Connection} (message : Message)
    (way : (connection.isOpen && connection.link.serverReceives) = true) :
    connection.send? message = some (connection.say message) := by
  simp only [send?, say, way, if_true]

theorem send?_of_no_way {connection : Connection} (message : Message)
    (noWay : (connection.isOpen && connection.link.serverReceives) = false) :
    connection.send? message = none := by
  simp only [send?, noWay, Bool.false_eq_true, if_false]

theorem say_of_no_way {connection : Connection} (message : Message)
    (noWay : (connection.isOpen && connection.link.serverReceives) = false) :
    connection.say message = connection := by
  simp only [say, noWay, Bool.false_eq_true, if_false, List.append_nil]

theorem send?_getD (connection : Connection) (message : Message) :
    (connection.send? message).getD connection = connection.say message := by
  cases way : connection.isOpen && connection.link.serverReceives with
  | true => rw [send?_of_way message way, Option.getD_some]
  | false => rw [send?_of_no_way message way, say_of_no_way message way, Option.getD_none]

theorem finishHandshake_eq (connection : Connection) (result : Option Json) :
    connection.finishHandshake result =
      (.initialized (Capabilities.ofHandshake result),
        connection.greeted (Capabilities.ofHandshake result)) := by
  unfold finishHandshake greeted
  dsimp only
  generalize ready : { connection with capabilities := some (Capabilities.ofHandshake result) } =
    noted
  have sameParams : noted.documentParams = connection.documentParams := by
    rw [← ready]
    rfl
  rw [sameParams]
  cases way : noted.isOpen && noted.link.serverReceives with
  | true =>
      rw [send?_of_way _ way]
      dsimp only
      rw [send?_getD]
  | false =>
      rw [send?_of_no_way _ way, say_of_no_way _ way, say_of_no_way _ way]

/-! ### What taking a message can do -/

/-- All that taking a message can do: nothing, answer a request of the server, end an open
request in silence, end the handshake, or report the answer to a question. -/
inductive Taken (connection : Connection) : Message → Option Event → Connection → Prop where
  | ignored {message : Message}
      (unrelated : ∀ number, message.answered? = some number →
        connection.pending.get? number = none) (unasked : message.isRequest = false) :
      Taken connection message none connection
  | replied (id : MessageId) (method : String) (params : Option Json) :
      Taken connection (.request id method params) none
        (connection.say (replyTo id method params))
  | silenced {id : MessageId} {result : Option Json} {error : Option ResponseError}
      {number : Nat} {purpose : Pending} (isNumber : id.number? = some number)
      (awaited : connection.pending.get? number = some purpose)
      (refused : error = none → purpose ≠ .handshake)
      (empty : error = none → ∀ command, purpose = .question command →
        ∀ locations, Location.decodeAll result = .ok locations → locations = []) :
      Taken connection (.response id result error) none (connection.settled number)
  | greeted {id : MessageId} {result : Option Json} {number : Nat}
      (isNumber : id.number? = some number)
      (awaited : connection.pending.get? number = some .handshake) :
      Taken connection (.response id result none)
        (some (.initialized (Capabilities.ofHandshake result)))
        ((connection.settled number).greeted (Capabilities.ofHandshake result))
  | answered {id : MessageId} {result : Option Json} {number : Nat} {command : Command}
      {locations : List Location} (isNumber : id.number? = some number)
      (awaited : connection.pending.get? number = some (.question command))
      (decoded : Location.decodeAll result = .ok locations) (nonempty : locations ≠ []) :
      Taken connection (.response id result none) (some (.goTo command locations))
        (connection.settled number)

theorem taken_of_awaited {connection : Connection} {id : MessageId} {result : Option Json}
    {error : Option ResponseError} {number : Nat} {purpose : Pending}
    (isNumber : id.number? = some number)
    (awaited : connection.pending.get? number = some purpose) :
    Taken connection (.response id result error) (connection.takeResponse id result error).1
      (connection.takeResponse id result error).2 := by
  unfold takeResponse
  simp only [isNumber, awaited]
  cases error with
  | some error =>
      exact .silenced isNumber awaited (fun absent => by cases absent)
        (fun absent => by cases absent)
  | none =>
      cases purpose with
      | handshake =>
          simp only [Option.isSome_none, Bool.false_eq_true, if_false, finishHandshake_eq]
          exact .greeted isNumber awaited
      | shutdown =>
          exact .silenced isNumber awaited (fun _ same => by cases same)
            (fun _ _ same => by cases same)
      | question command =>
          simp only [Option.isSome_none, Bool.false_eq_true, if_false]
          cases decoded : Location.decodeAll result with
          | error failure =>
              refine .silenced isNumber awaited (fun _ same => by cases same) ?_
              intro _ _ _ locations isDecoded
              rw [decoded] at isDecoded
              cases isDecoded
          | ok locations =>
              cases locations with
              | nil =>
                  refine .silenced isNumber awaited (fun _ same => by cases same) ?_
                  intro _ _ _ locations isDecoded
                  rw [decoded] at isDecoded
                  exact (Except.ok.inj isDecoded).symm
              | cons first rest =>
                  exact .answered isNumber awaited decoded (List.cons_ne_nil first rest)

theorem taken (connection : Connection) (message : Message) :
    Taken connection message (connection.take message).1 (connection.take message).2 := by
  cases message with
  | notification method params => exact .ignored (fun number isNumber => by cases isNumber) rfl
  | request id method params =>
      simp only [take, send?_getD]
      exact .replied id method params
  | response id result error =>
      change Taken connection _ (connection.takeResponse id result error).1
        (connection.takeResponse id result error).2
      cases isNumber : id.number? with
      | none =>
          simp only [takeResponse, isNumber]
          refine .ignored ?_ rfl
          intro number isAnswered
          change id.number? = some number at isAnswered
          rw [isNumber] at isAnswered
          cases isAnswered
      | some number =>
          cases awaited : connection.pending.get? number with
          | some purpose => exact taken_of_awaited isNumber awaited
          | none =>
              simp only [takeResponse, isNumber, awaited]
              refine .ignored ?_ rfl
              intro other isAnswered
              change id.number? = some other at isAnswered
              rw [isNumber] at isAnswered
              cases isAnswered
              exact awaited

theorem Taken.isOpen_eq {connection after : Connection} {message : Message}
    {event : Option Event} (taken : Taken connection message event after) :
    after.isOpen = connection.isOpen := by
  cases taken <;> rfl

/-! ### The queue is not looked at while a message is taken -/

theorem takeResponse_setInbox (connection : Connection) (inbox : List Message) (id : MessageId)
    (result : Option Json) (error : Option ResponseError) :
    (connection.setInbox inbox).takeResponse id result error =
      ((connection.takeResponse id result error).1,
        (connection.takeResponse id result error).2.setInbox inbox) := by
  unfold takeResponse
  have samePending : (connection.setInbox inbox).pending = connection.pending := rfl
  simp only [samePending, finishHandshake_eq]
  split
  · rfl
  · split
    · rfl
    · split
      · rfl
      · split
        · rfl
        · split <;> rfl
        · rfl

theorem take_setInbox (connection : Connection) (inbox : List Message) (message : Message) :
    (connection.setInbox inbox).take message =
      ((connection.take message).1, (connection.take message).2.setInbox inbox) := by
  cases message with
  | notification method params => rfl
  | request id method params =>
      simp only [take, send?_getD]
      rfl
  | response id result error => exact takeResponse_setInbox connection inbox id result error

theorem pollFrom_setInbox (connection : Connection) (inbox messages : List Message) :
    (connection.setInbox inbox).pollFrom messages = connection.pollFrom messages := by
  induction messages generalizing connection with
  | nil => rfl
  | cons message rest ih =>
      simp only [pollFrom, take_setInbox]
      cases taken : connection.take message with
      | mk event after =>
          cases event with
          | some event => rfl
          | none => exact ih after

theorem setInbox_of_eq {connection : Connection} {inbox : List Message}
    (same : connection.link.inbox = inbox) : connection.setInbox inbox = connection := by
  rw [← same]
  rfl

theorem poll_of_event {connection after : Connection} {message : Message}
    {rest : List Message} {event : Event} (isOpen : connection.isOpen = true)
    (isNext : connection.link.inbox = message :: rest)
    (made : connection.take message = (some event, after)) :
    connection.poll = (some event, after.setInbox rest) := by
  rw [poll, if_pos isOpen, isNext, pollFrom, made]

/-- A message that makes no event is taken, and polling goes on with the rest. -/
theorem poll_of_quiet {connection after : Connection} {message : Message} {rest : List Message}
    (isOpen : connection.isOpen = true) (isNext : connection.link.inbox = message :: rest)
    (quiet : connection.take message = (none, after)) :
    connection.poll = (after.setInbox rest).poll := by
  have taken := connection.taken message
  rw [quiet] at taken
  have stillOpen : (after.setInbox rest).isOpen = true := taken.isOpen_eq.trans isOpen
  rw [poll, if_pos isOpen, isNext, pollFrom, quiet, poll, if_pos stillOpen]
  exact (pollFrom_setInbox after rest rest).symm

/-! ### Requests -/

theorem sendRequest_of_way {connection : Connection} (purpose : Pending) (method : String)
    (params : Option Json)
    (way : (connection.isOpen && connection.link.serverReceives) = true) :
    connection.sendRequest purpose method params =
      (.ok (connection.lastId + 1), connection.requested purpose method params) := by
  have sent : connection.counted.send? _ = _ :=
    send?_of_way (.request (.number (connection.lastId + 1).toUInt64) method params) way
  unfold counted at sent
  simp only [sendRequest, sent]
  rfl

theorem sendRequest_of_no_way {connection : Connection} (purpose : Pending) (method : String)
    (params : Option Json)
    (noWay : (connection.isOpen && connection.link.serverReceives) = false) :
    connection.sendRequest purpose method params = (.error .closed, connection.counted) := by
  have unsent : connection.counted.send? _ = _ :=
    send?_of_no_way (.request (.number (connection.lastId + 1).toUInt64) method params) noWay
  unfold counted at unsent
  simp only [sendRequest, unsent]
  rfl

/-! ### Opening, asking and closing -/

def fresh (addresses : Addresses) (documentText : List Char) (link : Link) : Connection :=
  { addresses := addresses, documentText := documentText, link := link }

theorem start_of_receives {link : Link} (receives : link.serverReceives = true)
    (processId : Nat) (addresses : Addresses) (documentText : List Char) :
    start processId addresses documentText link =
      .ok ((fresh addresses documentText link).requested .handshake "initialize"
        (some (handshakeParams processId addresses.rootUri))) := by
  have sent : (fresh addresses documentText link).sendRequest _ _ _ = _ :=
    sendRequest_of_way .handshake "initialize"
      (some (handshakeParams processId addresses.rootUri)) receives
  unfold fresh at sent
  simp only [start, sent]
  rfl

theorem start_of_lost {link : Link} (gone : link.serverReceives = false) (processId : Nat)
    (addresses : Addresses) (documentText : List Char) :
    start processId addresses documentText link = .error .closed := by
  have unsent : (fresh addresses documentText link).sendRequest _ _ _ = _ :=
    sendRequest_of_no_way .handshake "initialize"
      (some (handshakeParams processId addresses.rootUri)) gone
  unfold fresh at unsent
  simp only [start, unsent]

/-- A connection past its handshake. -/
def IsReady (connection : Connection) : Prop :=
  connection.isOpen = true ∧ connection.capabilities.isSome = true

theorem IsReady.way_eq {connection : Connection} (ready : connection.IsReady) :
    (connection.isOpen && connection.link.serverReceives) = connection.link.serverReceives := by
  rw [ready.1, Bool.true_and]

theorem ask_of_closed {connection : Connection} (closed : connection.isOpen = false)
    (command : Command) (position : ServerPosition) :
    connection.ask command position = (.error .closed, connection) := by
  simp only [ask, closed, Bool.not_false, if_true]

theorem ask_of_unready {connection : Connection} (isOpen : connection.isOpen = true)
    (unready : connection.capabilities = none) (command : Command) (position : ServerPosition) :
    connection.ask command position = (.error .notInitialized, connection) := by
  simp only [ask, isOpen, unready, Bool.not_true, Bool.false_eq_true, if_false,
    Option.isNone_none, if_true]

theorem ask_of_ready {connection : Connection} (ready : connection.IsReady) (command : Command)
    (position : ServerPosition) :
    connection.ask command position =
      connection.sendRequest (.question command) command.method
        (some (command.params connection.addresses.documentUri position)) := by
  have isOpen : (!connection.isOpen) = false := by rw [ready.1, Bool.not_true]
  have known : connection.capabilities.isNone = false := Option.isNone_eq_false_iff.mpr ready.2
  unfold ask
  rw [isOpen, known]
  rfl

theorem close_of_closed {connection : Connection} (closed : connection.isOpen = false) :
    connection.close = connection := by
  simp only [close, closed, Bool.not_false, if_true]

theorem close_of_unready {connection : Connection} (isOpen : connection.isOpen = true)
    (unready : connection.capabilities = none) : connection.close = connection.shut := by
  simp only [close, isOpen, unready, Bool.not_true, Bool.false_eq_true, if_false,
    Option.isNone_none, if_true]

theorem close_of_received {connection : Connection} (ready : connection.IsReady)
    (receives : connection.link.serverReceives = true) :
    connection.close = connection.dismissed := by
  have isOpen : (!connection.isOpen) = false := by rw [ready.1, Bool.not_true]
  have known : connection.capabilities.isNone = false := Option.isNone_eq_false_iff.mpr ready.2
  unfold close
  rw [isOpen, known, sendRequest_of_way _ _ _ (ready.way_eq.trans receives)]
  simp only [Bool.false_eq_true, if_false, send?_getD]
  rfl

theorem close_of_lost {connection : Connection} (ready : connection.IsReady)
    (gone : connection.link.serverReceives = false) :
    connection.close = connection.counted.shut := by
  have isOpen : (!connection.isOpen) = false := by rw [ready.1, Bool.not_true]
  have known : connection.capabilities.isNone = false := Option.isNone_eq_false_iff.mpr ready.2
  unfold close
  rw [isOpen, known, sendRequest_of_no_way _ _ _ (ready.way_eq.trans gone)]
  rfl

theorem serverReceive_of_receives {connection : Connection}
    (receives : connection.link.serverReceives = true) :
    connection.serverReceive =
      (some connection.link.outbox,
        { connection with link := { connection.link with outbox := [] } }) := by
  unfold serverReceive
  rw [if_pos receives]

end Connection

end SymbolJump.Server
