/-
Polling a connection until nothing is ready.

Polling again and again ends, since every event but the last takes a message
from the queue. What it reports in all can be read off the queue: the messages
are taken one by one, each with the event it makes or none, and at the end the
connection is over if the server let go of it. After that another poll finds
nothing and changes nothing.
-/

import SymbolJump.Proofs.Server.Transitions

namespace SymbolJump.Server

namespace Connection

/-- Polling one time after the other, with the events reported until none is ready. -/
inductive Exhausts : Connection → List Event → Connection → Prop where
  | idle {connection polled : Connection} (silent : connection.poll = (none, polled)) :
      Exhausts connection [] polled
  | reports {connection polled drained : Connection} {event : Event} {events : List Event}
      (reported : connection.poll = (some event, polled))
      (later : Exhausts polled events drained) :
      Exhausts connection (event :: events) drained

/-- Takes messages one after the other: the events they make, and what the connection is
then. -/
def absorb (connection : Connection) : List Message → List Event × Connection
  | [] => ([], connection)
  | message :: rest =>
      let (event, taken) := connection.take message
      let (events, absorbed) := taken.absorb rest
      (event.toList ++ events, absorbed)

def lastEvents (connection : Connection) : List Event :=
  if connection.link.serverSends then [] else [.closed]

/-- The connection once its queue is empty. -/
def ended (connection : Connection) : Connection :=
  if connection.link.serverSends then connection.setInbox [] else (connection.setInbox []).shut

/-- The events that the queue holds ready. -/
def readyEvents (connection : Connection) : List Event :=
  if connection.isOpen then
    (connection.absorb connection.link.inbox).1 ++ connection.lastEvents
  else []

/-! ### The end of polling -/

theorem Taken.serverSends_eq {connection after : Connection} {message : Message}
    {event : Option Event} (taken : Taken connection message event after) :
    after.link.serverSends = connection.link.serverSends := by
  cases taken <;> rfl

theorem poll_of_closed {connection : Connection} (closed : connection.isOpen = false) :
    connection.poll = (none, connection) := by
  rw [poll, if_neg (by rw [closed]; exact Bool.false_ne_true)]

theorem pollFrom_eq_none {connection polled : Connection} {messages : List Message}
    (silent : connection.pollFrom messages = (none, polled)) :
    polled.link.inbox = [] ∧ polled.link.serverSends = true := by
  induction messages generalizing connection with
  | nil =>
      unfold pollFrom at silent
      dsimp only at silent
      split at silent
      · next sends =>
          cases silent
          exact ⟨rfl, sends⟩
      · cases silent
  | cons message rest ih =>
      cases taken : connection.take message with
      | mk event after =>
          rw [pollFrom, taken] at silent
          cases event with
          | some event => cases silent
          | none => exact ih silent

theorem poll_of_idle {connection polled : Connection}
    (silent : connection.poll = (none, polled)) : polled.poll = (none, polled) := by
  cases isOpen : polled.isOpen with
  | false => exact poll_of_closed isOpen
  | true =>
      unfold poll at silent
      split at silent
      · obtain ⟨isEmpty, sends⟩ := pollFrom_eq_none silent
        simp only [poll, isOpen, if_true, isEmpty, pollFrom, setInbox_of_eq isEmpty, sends]
      · next closed =>
          cases silent
          exact absurd isOpen closed

theorem Exhausts.of_poll_eq {connection other drained : Connection} {events : List Event}
    (exhausts : Exhausts other events drained) (same : connection.poll = other.poll) :
    Exhausts connection events drained := by
  cases exhausts with
  | idle silent => exact .idle (same.trans silent)
  | reports reported later => exact .reports (same.trans reported) later

theorem Exhausts.poll_eq {connection drained : Connection} {events : List Event}
    (exhausts : Exhausts connection events drained) : drained.poll = (none, drained) := by
  induction exhausts with
  | idle silent => exact poll_of_idle silent
  | reports _ _ ih => exact ih

/-- How many events can still be reported. -/
def outlook (connection : Connection) : Nat :=
  if connection.isOpen then connection.link.inbox.length + 1 else 0

theorem outlook_le (connection : Connection) :
    connection.outlook ≤ connection.link.inbox.length + 1 := by
  unfold outlook
  split <;> omega

theorem outlook_of_report {connection polled : Connection} {messages : List Message}
    {event : Event} (reported : connection.pollFrom messages = (some event, polled)) :
    polled.outlook < messages.length + 1 := by
  induction messages generalizing connection with
  | nil =>
      unfold pollFrom at reported
      dsimp only at reported
      split at reported
      · cases reported
      · cases reported
        exact Nat.zero_lt_one
  | cons message rest ih =>
      cases taken : connection.take message with
      | mk event after =>
          rw [pollFrom, taken] at reported
          cases event with
          | some event =>
              cases reported
              exact Nat.lt_succ_of_le (after.setInbox rest).outlook_le
          | none =>
              have later := ih reported
              rw [List.length_cons]
              omega

/-- Within the outlook of the connection polling comes to its end. -/
theorem Exhausts.drainWithin_eq {connection drained : Connection} {events : List Event}
    (exhausts : Exhausts connection events drained) {fuel : Nat}
    (enough : connection.outlook ≤ fuel) :
    connection.drainWithin fuel = (events, drained) := by
  induction exhausts generalizing fuel with
  | @idle connection polled silent =>
      cases fuel with
      | zero =>
          -- Without outlook the connection is closed, and the poll left out changes nothing.
          cases isOpen : connection.isOpen with
          | true => simp [outlook, isOpen] at enough
          | false =>
              rw [poll_of_closed isOpen] at silent
              cases silent
              rfl
      | succ fuel => simp only [drainWithin, silent]
  | @reports connection polled drained event events reported _ ih =>
      cases isOpen : connection.isOpen with
      | false =>
          rw [poll_of_closed isOpen] at reported
          cases reported
      | true =>
          have isReported := reported
          rw [poll, if_pos isOpen] at isReported
          have fewer := outlook_of_report isReported
          rw [outlook, if_pos isOpen] at enough
          cases fuel with
          | zero => cases enough
          | succ fuel => simp only [drainWithin, reported, ih (by omega : polled.outlook ≤ fuel)]

theorem Exhausts.drain_eq {connection drained : Connection} {events : List Event}
    (exhausts : Exhausts connection events drained) : connection.drain = (events, drained) :=
  exhausts.drainWithin_eq connection.outlook_le

/-! ### What polling reports -/

theorem exhausts_of_empty {connection : Connection} (isOpen : connection.isOpen = true) :
    Exhausts (connection.setInbox []) connection.lastEvents connection.ended := by
  have opened : (connection.setInbox []).isOpen = true := isOpen
  cases sends : connection.link.serverSends with
  | true =>
      have stillSends : (connection.setInbox []).link.serverSends = true := sends
      simp only [lastEvents, ended, sends, if_true]
      apply Exhausts.idle
      rw [poll, if_pos opened]
      exact if_pos stillSends
  | false =>
      have gone : ¬(connection.setInbox []).link.serverSends = true := by
        intro stillSends
        cases sends.symm.trans stillSends
      simp only [lastEvents, ended, sends, Bool.false_eq_true, if_false]
      refine .reports ?_ (.idle (poll_of_closed rfl))
      rw [poll, if_pos opened]
      exact if_neg gone

theorem exhausts_absorb {connection : Connection} (isOpen : connection.isOpen = true)
    (messages : List Message) :
    Exhausts (connection.setInbox messages)
      ((connection.absorb messages).1 ++ connection.lastEvents)
      (connection.absorb messages).2.ended := by
  induction messages generalizing connection with
  | nil => exact exhausts_of_empty isOpen
  | cons message rest ih =>
      have taken := connection.taken message
      have opened : (connection.setInbox (message :: rest)).isOpen = true := isOpen
      have first := connection.take_setInbox (message :: rest) message
      cases made : connection.take message with
      | mk event after =>
          rw [made] at taken first
          have later := ih (taken.isOpen_eq.trans isOpen)
          have sameEnd : after.lastEvents = connection.lastEvents := by
            rw [lastEvents, lastEvents, taken.serverSends_eq]
          rw [sameEnd] at later
          simp only [absorb, made, List.append_assoc]
          cases event with
          | some event => exact .reports (poll_of_event opened rfl first) later
          | none => exact later.of_poll_eq ((poll_of_quiet opened rfl first).trans rfl)

theorem exhausts_readyEvents (connection : Connection) :
    ∃ drained, Exhausts connection connection.readyEvents drained := by
  cases isOpen : connection.isOpen with
  | false =>
      refine ⟨connection, ?_⟩
      rw [readyEvents, isOpen]
      exact .idle (poll_of_closed isOpen)
  | true =>
      rw [readyEvents, if_pos isOpen]
      exact ⟨_, exhausts_absorb isOpen connection.link.inbox⟩

end Connection

end SymbolJump.Server
