/-
The time of polling cannot be seen.

A poll takes messages up to the first that makes an event, so how many it takes
depends on what has arrived by then. Still the messages are taken in the order
of their arrival and none of them twice. Whether polls come between the
arrivals or all after the last one, polling until nothing is ready ends with
the same events, the same messages to the server and the same connection, at
whatever times the server takes what was sent to it.
-/

import SymbolJump.Proofs.Server.Draining
import SymbolJump.Proofs.Server.Exchange

namespace SymbolJump.Server

namespace Connection

/-! ### The outgoing queue is only added to -/

def emptied (connection : Connection) : Connection :=
  { connection with link := { connection.link with outbox := [] } }

/-- The connection with messages put in front of its outgoing queue. -/
def behind (connection : Connection) (earlier : List Message) : Connection :=
  { connection with
    link := { connection.link with outbox := earlier ++ connection.link.outbox } }

theorem emptied_behind (connection : Connection) :
    connection.emptied.behind connection.link.outbox = connection := by
  simp only [emptied, behind, List.append_nil]

theorem eq_of_emptied {left right : Connection} (same : left.emptied = right.emptied)
    (sameOutbox : left.link.outbox = right.link.outbox) : left = right := by
  rw [← left.emptied_behind, ← right.emptied_behind, same, sameOutbox]

theorem say_behind (connection : Connection) (earlier : List Message) (message : Message) :
    (connection.behind earlier).say message = (connection.say message).behind earlier := by
  simp only [say, behind, List.append_assoc]
  rfl

theorem takeResponse_behind (connection : Connection) (earlier : List Message) (id : MessageId)
    (result : Option Json) (error : Option ResponseError) :
    (connection.behind earlier).takeResponse id result error =
      ((connection.takeResponse id result error).1,
        (connection.takeResponse id result error).2.behind earlier) := by
  have samePending : (connection.behind earlier).pending = connection.pending := rfl
  have sameGreeting (settled : Connection) (capabilities : Capabilities) :
      (settled.behind earlier).greeted capabilities =
        (settled.greeted capabilities).behind earlier := by
    unfold greeted
    dsimp only
    rw [← say_behind, ← say_behind]
    rfl
  unfold takeResponse
  simp only [samePending, finishHandshake_eq]
  split
  · rfl
  · split
    · rfl
    · split
      · rfl
      · split
        · exact congrArg (Prod.mk _) (sameGreeting (connection.settled _) _)
        · split <;> rfl
        · rfl

theorem take_behind (connection : Connection) (earlier : List Message) (message : Message) :
    (connection.behind earlier).take message =
      ((connection.take message).1, (connection.take message).2.behind earlier) := by
  cases message with
  | notification method params => rfl
  | request id method params => simp only [take, send?_getD, say_behind]
  | response id result error => exact takeResponse_behind connection earlier id result error

theorem pollFrom_behind (connection : Connection) (earlier messages : List Message) :
    (connection.behind earlier).pollFrom messages =
      ((connection.pollFrom messages).1, (connection.pollFrom messages).2.behind earlier) := by
  induction messages generalizing connection with
  | nil =>
      have sameSends : ((connection.behind earlier).setInbox []).link.serverSends =
          (connection.setInbox []).link.serverSends := rfl
      unfold pollFrom
      simp only [sameSends]
      split <;> rfl
  | cons message rest ih =>
      simp only [pollFrom, take_behind]
      cases connection.take message with
      | mk event after =>
          cases event with
          | some event => rfl
          | none => exact ih after

theorem poll_behind (connection : Connection) (earlier : List Message) :
    (connection.behind earlier).poll =
      (connection.poll.1, connection.poll.2.behind earlier) := by
  cases isOpen : connection.isOpen with
  | false =>
      have closed : (connection.behind earlier).isOpen = false := isOpen
      rw [poll_of_closed isOpen, poll_of_closed closed]
  | true =>
      have opened : (connection.behind earlier).isOpen = true := isOpen
      rw [poll, poll, if_pos isOpen, if_pos opened]
      exact pollFrom_behind connection earlier connection.link.inbox

theorem Exhausts.behind {connection drained : Connection} {events : List Event}
    (exhausts : Exhausts connection events drained) (earlier : List Message) :
    Exhausts (connection.behind earlier) events (drained.behind earlier) := by
  induction exhausts with
  | @idle connection polled silent =>
      apply Exhausts.idle
      rw [poll_behind, silent]
  | @reports connection polled drained event events reported _ ih =>
      refine .reports ?_ ih
      rw [poll_behind, reported]

theorem serverSend_behind (connection : Connection) (earlier : List Message)
    (message : Message) :
    ((connection.behind earlier).serverSend message).2 =
      (connection.serverSend message).2.behind earlier := by
  have sameWay : ((connection.behind earlier).link.serverSends &&
      (connection.behind earlier).link.clientListens) =
        (connection.link.serverSends && connection.link.clientListens) := rfl
  unfold serverSend
  rw [sameWay]
  split <;> rfl

/-! ### Messages that arrive behind others -/

theorem pollFrom_append_of_report {connection polled : Connection} {messages : List Message}
    {event : Event} (sends : connection.link.serverSends = true)
    (reported : connection.pollFrom messages = (some event, polled)) (later : List Message) :
    connection.pollFrom (messages ++ later) =
      (some event, polled.setInbox (polled.link.inbox ++ later)) := by
  induction messages generalizing connection with
  | nil =>
      have stillSends : (connection.setInbox []).link.serverSends = true := sends
      rw [pollFrom] at reported
      simp only [stillSends, if_true] at reported
      cases reported
  | cons message rest ih =>
      have taken := connection.taken message
      cases made : connection.take message with
      | mk report after =>
          rw [made] at taken
          rw [pollFrom, made] at reported
          rw [List.cons_append, pollFrom, made]
          cases report with
          | some report =>
              cases reported
              rfl
          | none => exact ih (taken.serverSends_eq.trans sends) reported

theorem pollFrom_append_of_quiet {connection polled : Connection} {messages : List Message}
    (silent : connection.pollFrom messages = (none, polled)) (later : List Message) :
    connection.pollFrom (messages ++ later) = polled.pollFrom later := by
  induction messages generalizing connection with
  | nil =>
      unfold pollFrom at silent
      dsimp only at silent
      split at silent
      · cases silent
        exact (pollFrom_setInbox connection [] later).symm
      · cases silent
  | cons message rest ih =>
      cases made : connection.take message with
      | mk report after =>
          rw [pollFrom, made] at silent
          rw [List.cons_append, pollFrom, made]
          cases report with
          | some report => cases silent
          | none => exact ih silent

/-- Whether a message of the server can arrive. -/
def accepts (connection : Connection) : Bool :=
  connection.link.serverSends && connection.link.clientListens

theorem serverSend_of_accepts {connection : Connection} (accepts : connection.accepts = true)
    (message : Message) :
    (connection.serverSend message).2 =
      connection.setInbox (connection.link.inbox ++ [message]) :=
  congrArg Prod.snd (if_pos accepts)

theorem serverSend_of_refuses {connection : Connection} (refuses : connection.accepts = false)
    (message : Message) : (connection.serverSend message).2 = connection :=
  congrArg Prod.snd (if_neg (Bool.eq_false_iff.mp refuses))

theorem Taken.accepts_eq {connection after : Connection} {message : Message}
    {event : Option Event} (taken : Taken connection message event after) :
    after.accepts = connection.accepts := by
  cases taken <;> rfl

theorem accepts_pollFrom (connection : Connection) (messages : List Message) :
    (connection.pollFrom messages).2.accepts = connection.accepts := by
  induction messages generalizing connection with
  | nil =>
      unfold pollFrom
      dsimp only
      split <;> rfl
  | cons message rest ih =>
      have taken := connection.taken message
      cases made : connection.take message with
      | mk report after =>
          rw [made] at taken
          rw [pollFrom, made]
          cases report with
          | some report => exact taken.accepts_eq
          | none => exact (ih after).trans taken.accepts_eq

theorem accepts_of_poll {connection polled : Connection} {event : Option Event}
    (isPolled : connection.poll = (event, polled)) : polled.accepts = connection.accepts := by
  have same : connection.poll.2.accepts = connection.accepts := by
    unfold poll
    split
    · exact accepts_pollFrom connection connection.link.inbox
    · rfl
  rw [isPolled] at same
  exact same

theorem Exhausts.accepts_eq {connection drained : Connection} {events : List Event}
    (exhausts : Exhausts connection events drained) : drained.accepts = connection.accepts := by
  induction exhausts with
  | idle silent => exact accepts_of_poll silent
  | reports reported _ ih => exact ih.trans (accepts_of_poll reported)

theorem Exhausts.unique {connection drained other : Connection} {events others : List Event}
    (exhausts : Exhausts connection events drained)
    (exhaustsToo : Exhausts connection others other) : events = others ∧ drained = other :=
  Prod.mk.inj (exhausts.drain_eq.symm.trans exhaustsToo.drain_eq)

theorem poll_setInbox {connection : Connection} (isOpen : connection.isOpen = true)
    (messages : List Message) :
    (connection.setInbox messages).poll = connection.pollFrom messages := by
  have opened : (connection.setInbox messages).isOpen = true := isOpen
  rw [poll, if_pos opened]
  exact pollFrom_setInbox connection messages messages

theorem isOpen_of_quiet {connection polled : Connection} {messages : List Message}
    (silent : connection.pollFrom messages = (none, polled)) :
    polled.isOpen = connection.isOpen := by
  induction messages generalizing connection with
  | nil =>
      unfold pollFrom at silent
      dsimp only at silent
      split at silent
      · cases silent
        rfl
      · cases silent
  | cons message rest ih =>
      have taken := connection.taken message
      cases made : connection.take message with
      | mk report after =>
          rw [made] at taken
          rw [pollFrom, made] at silent
          cases report with
          | some report => cases silent
          | none => exact (ih silent).trans taken.isOpen_eq

/-- After a poll that found nothing, a further message is polled for as if it had been there
before. -/
theorem poll_serverSend_of_quiet {connection polled : Connection}
    (accepts : connection.accepts = true) (silent : connection.poll = (none, polled))
    (message : Message) :
    (connection.serverSend message).2.poll = (polled.serverSend message).2.poll := by
  cases isOpen : connection.isOpen with
  | false =>
      rw [poll_of_closed isOpen] at silent
      cases silent
      rfl
  | true =>
      have stillAccepts := (accepts_of_poll silent).trans accepts
      rw [poll, if_pos isOpen] at silent
      have stillOpen := (isOpen_of_quiet silent).trans isOpen
      rw [serverSend_of_accepts accepts, serverSend_of_accepts stillAccepts,
        poll_setInbox isOpen, poll_setInbox stillOpen, pollFrom_append_of_quiet silent,
        (pollFrom_eq_none silent).1, List.nil_append]

theorem poll_serverSend_of_report {connection polled : Connection} {event : Event}
    (accepts : connection.accepts = true) (reported : connection.poll = (some event, polled))
    (message : Message) :
    (connection.serverSend message).2.poll = (some event, (polled.serverSend message).2) := by
  cases isOpen : connection.isOpen with
  | false =>
      rw [poll_of_closed isOpen] at reported
      cases reported
  | true =>
      have stillAccepts := (accepts_of_poll reported).trans accepts
      have sends : connection.link.serverSends = true := (Bool.and_eq_true_iff.mp accepts).1
      rw [poll, if_pos isOpen] at reported
      rw [serverSend_of_accepts accepts, serverSend_of_accepts stillAccepts,
        poll_setInbox isOpen, pollFrom_append_of_report sends reported]

/-- Polling until nothing is ready, before a message arrives and again after it, reports what
polling after it alone reports. -/
theorem Exhausts.serverSend {connection drained finished : Connection}
    {events later : List Event} (exhausts : Exhausts connection events drained)
    {message : Message} (resumed : Exhausts (drained.serverSend message).2 later finished) :
    Exhausts (connection.serverSend message).2 (events ++ later) finished := by
  cases accepts : connection.accepts with
  | false =>
      have stillRefuses := exhausts.accepts_eq.trans accepts
      rw [serverSend_of_refuses stillRefuses] at resumed
      obtain ⟨rfl, rfl⟩ := resumed.unique (.idle exhausts.poll_eq)
      rw [serverSend_of_refuses accepts, List.append_nil]
      exact exhausts
  | true =>
      induction exhausts with
      | @idle connection polled silent =>
          exact resumed.of_poll_eq (poll_serverSend_of_quiet accepts silent message)
      | @reports connection polled drained event events reported _ ih =>
          exact .reports (poll_serverSend_of_report accepts reported message)
            (ih resumed ((accepts_of_poll reported).trans accepts))

end Connection

/-! ### Exchanges that come to the same -/

namespace Exchange

/-- Two exchanges that come to the same once nothing is ready: the same events, the same
messages to the server, however many of them it has taken, and the same connection. -/
def Converge (left right : Exchange) : Prop :=
  ∃ leftEvents leftEnd rightEvents rightEnd,
    left.connection.Exhausts leftEvents leftEnd ∧
      right.connection.Exhausts rightEvents rightEnd ∧
      left.events ++ leftEvents = right.events ++ rightEvents ∧
      left.received ++ leftEnd.link.outbox = right.received ++ rightEnd.link.outbox ∧
      leftEnd.emptied = rightEnd.emptied

theorem converge_refl (exchange : Exchange) : Converge exchange exchange := by
  obtain ⟨drained, exhausts⟩ := exchange.connection.exhausts_readyEvents
  exact ⟨_, drained, _, drained, exhausts, exhausts, rfl, rfl, rfl⟩

theorem Converge.poll {left right : Exchange} (converge : Converge left right) :
    Converge (left.act .poll) right := by
  obtain ⟨leftEvents, leftEnd, rightEvents, rightEnd, leftExhausts, rightExhausts, sameEvents,
    sameFlight, sameEnd⟩ := converge
  cases leftExhausts with
  | idle silent =>
      refine ⟨[], leftEnd, rightEvents, rightEnd, ?_, rightExhausts, ?_, sameFlight, sameEnd⟩
      · simp only [act, silent]
        exact .idle (Connection.poll_of_idle silent)
      · simp only [act, silent, Option.toList_none, List.append_nil]
        rw [← sameEvents, List.append_nil]
  | @reports _ polled _ event events reported later =>
      refine ⟨events, leftEnd, rightEvents, rightEnd, ?_, rightExhausts, ?_, sameFlight, sameEnd⟩
      · simp only [act, reported]
        exact later
      · simp only [act, reported, Option.toList_some, List.append_assoc, List.singleton_append]
        exact sameEvents

theorem Converge.serverReceive {left right : Exchange} (converge : Converge left right) :
    Converge (left.act .serverReceive) right := by
  cases receives : left.connection.link.serverReceives with
  | false =>
      have unchanged : left.act .serverReceive = left := by
        simp only [act, Connection.serverReceive, receives, Bool.false_eq_true, if_false,
          Option.getD_none, List.append_nil]
      rw [unchanged]
      exact converge
  | true =>
      obtain ⟨leftEvents, leftEnd, rightEvents, rightEnd, leftExhausts, rightExhausts, sameEvents,
        sameFlight, sameEnd⟩ := converge
      -- What the server takes lies in front of all that is still to be sent.
      obtain ⟨drained, exhausts⟩ := left.connection.emptied.exhausts_readyEvents
      have restored := exhausts.behind left.connection.link.outbox
      rw [left.connection.emptied_behind] at restored
      obtain ⟨rfl, rfl⟩ := leftExhausts.unique restored
      simp only [act, Connection.serverReceive_of_receives receives, Option.getD_some]
      refine ⟨_, drained, rightEvents, rightEnd, exhausts, rightExhausts, sameEvents, ?_, sameEnd⟩
      rw [List.append_assoc]
      exact sameFlight

theorem Converge.serverSend {left right : Exchange} (converge : Converge left right)
    (message : Message) :
    Converge (left.act (.serverSend message)) (right.act (.serverSend message)) := by
  obtain ⟨leftEvents, leftEnd, rightEvents, rightEnd, leftExhausts, rightExhausts, sameEvents,
    sameFlight, sameEnd⟩ := converge
  -- Both continue like the connection at which they met, behind what each has sent.
  obtain ⟨finished, exhausts⟩ := (leftEnd.emptied.serverSend message).2.exhausts_readyEvents
  generalize (leftEnd.emptied.serverSend message).2.readyEvents = later at exhausts
  have leftResumed := exhausts.behind leftEnd.link.outbox
  have rightResumed := exhausts.behind rightEnd.link.outbox
  rw [← Connection.serverSend_behind, leftEnd.emptied_behind] at leftResumed
  rw [← Connection.serverSend_behind, sameEnd, rightEnd.emptied_behind] at rightResumed
  refine ⟨_, _, _, _, leftExhausts.serverSend leftResumed, rightExhausts.serverSend rightResumed,
    ?_, ?_, rfl⟩
  · simp only [act]
    rw [← List.append_assoc, sameEvents, List.append_assoc]
  · simp only [act, Connection.behind]
    rw [← List.append_assoc, sameFlight, List.append_assoc]

/-! ### Polls among the arrivals -/

/-- What happens while nothing is asked and no end is let go. -/
inductive Traffic where
  | poll
  | arrival (message : Message)
  /-- The server takes what was sent to it. -/
  | delivery

namespace Traffic

def action : Traffic → Action
  | poll => .poll
  | arrival message => .serverSend message
  | delivery => .serverReceive

def isArrival : Traffic → Bool
  | arrival _ => true
  | poll | delivery => false

end Traffic

theorem Converge.run {left right : Exchange} (converge : Converge left right)
    (traffic : List Traffic) :
    Converge (left.run (traffic.map Traffic.action))
      (right.run ((traffic.filter Traffic.isArrival).map Traffic.action)) := by
  induction traffic generalizing left right with
  | nil => exact converge
  | cons first rest ih =>
      cases first with
      | poll => exact ih converge.poll
      | arrival message => exact ih (converge.serverSend message)
      | delivery => exact ih converge.serverReceive

theorem received_run (exchange : Exchange) (traffic : List Traffic)
    (undelivered : ∀ part ∈ traffic, part ≠ .delivery) :
    (exchange.run (traffic.map Traffic.action)).received = exchange.received := by
  induction traffic generalizing exchange with
  | nil => rfl
  | cons first rest ih =>
      obtain ⟨here, later⟩ := List.forall_mem_cons.mp undelivered
      cases first with
      | poll => exact ih (exchange.act .poll) later
      | arrival message => exact ih (exchange.act (.serverSend message)) later
      | delivery => exact absurd rfl here

/-- However polls and deliveries are mixed with the arrival of messages, polling until nothing
is ready then gives the same events in all, the same messages to the server and the same
connection as waiting for all messages first. Only which of the messages to the server still
lie in the outgoing queue depends on the deliveries; without any, the connections are equal. -/
theorem polling_time_unobservable (exchange : Exchange) (traffic : List Traffic) :
    let eager := exchange.run (traffic.map Traffic.action)
    let patient := exchange.run ((traffic.filter Traffic.isArrival).map Traffic.action)
    ∃ eagerEvents eagerEnd patientEvents patientEnd,
      eager.connection.Exhausts eagerEvents eagerEnd ∧
        patient.connection.Exhausts patientEvents patientEnd ∧
        eager.events ++ eagerEvents = patient.events ++ patientEvents ∧
        eager.received ++ eagerEnd.link.outbox = patient.received ++ patientEnd.link.outbox ∧
        eagerEnd.emptied = patientEnd.emptied ∧
        ((∀ part ∈ traffic, part ≠ .delivery) → eagerEnd = patientEnd) := by
  intro eager patient
  obtain ⟨eagerEvents, eagerEnd, patientEvents, patientEnd, eagerExhausts, patientExhausts,
    sameEvents, sameFlight, sameEnd⟩ := exchange.converge_refl.run traffic
  refine ⟨eagerEvents, eagerEnd, patientEvents, patientEnd, eagerExhausts, patientExhausts,
    sameEvents, sameFlight, sameEnd, ?_⟩
  intro undelivered
  have eagerReceived := received_run exchange traffic undelivered
  have patientReceived := received_run exchange (traffic.filter Traffic.isArrival)
    fun part member => undelivered part (List.mem_filter.mp member).1
  rw [eagerReceived, patientReceived] at sameFlight
  exact Connection.eq_of_emptied sameEnd (List.append_cancel_left sameFlight)

end Exchange

end SymbolJump.Server
