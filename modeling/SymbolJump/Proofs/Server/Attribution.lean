/-
Every answer belongs to one question, and every question has one answer.

A request awaits its answer from the moment it is sent until a response to its
number is taken. The open requests of a connection are exactly the awaiting
ones, so a response is read as an answer to the question that awaits it, and
as nothing once another response was taken in its place, be that an answer, an
error or no answer at all. Numbers are never used twice, not even those of
requests that had no way out.
-/

import Mathlib.Data.List.Basic
import SymbolJump.Proofs.Server.Exchange

namespace SymbolJump.Server

open Text

/-! ### Awaiting -/

def Entry.answered? (entry : Entry) : Option Nat :=
  entry.message?.bind Message.answered?

/-- A request was sent and no response to its number has been taken since. -/
def Awaiting (record : List Entry) (purpose : Pending) (number : Nat) : Prop :=
  ∃ earlier later, record = earlier ++ .sent purpose number :: later ∧
    ∀ entry ∈ later, entry.answered? ≠ some number

theorem split_last {record earlier later : List Entry} {last entry : Entry}
    (split : record ++ [last] = earlier ++ entry :: later) :
    (later = [] ∧ record = earlier ∧ last = entry) ∨
      ∃ between, later = between ++ [last] ∧ record = earlier ++ entry :: between := by
  rcases List.eq_nil_or_concat later with rfl | ⟨between, final, rfl⟩
  · obtain ⟨sameRecord, sameLast⟩ := List.append_inj' split rfl
    exact .inl ⟨rfl, sameRecord, List.singleton_inj.mp sameLast⟩
  · rw [List.concat_eq_append, ← List.cons_append, ← List.append_assoc] at split
    obtain ⟨sameRecord, sameLast⟩ := List.append_inj' split rfl
    rw [List.singleton_inj.mp sameLast]
    exact .inr ⟨between, List.concat_eq_append, sameRecord⟩

/-- A further entry starts the wait for the number it sends and ends that for the number it
answers. -/
theorem awaiting_append_iff {record : List Entry} {last : Entry} {purpose : Pending}
    {number : Nat} :
    Awaiting (record ++ [last]) purpose number ↔
      (Awaiting record purpose number ∧ last.answered? ≠ some number) ∨
        last = .sent purpose number := by
  constructor
  · rintro ⟨earlier, later, split, unanswered⟩
    rcases split_last split with ⟨_, _, isSent⟩ | ⟨between, rfl, isRecord⟩
    · exact .inr isSent
    · refine .inl ⟨⟨earlier, between, isRecord, ?_⟩, unanswered last (by simp)⟩
      intro entry member
      exact unanswered entry (List.mem_append_left _ member)
  · rintro (⟨⟨earlier, later, rfl, unanswered⟩, notAnswered⟩ | rfl)
    · refine ⟨earlier, later ++ [last], by simp, ?_⟩
      intro entry member
      rcases List.mem_append.mp member with before | isLast
      · exact unanswered entry before
      · rw [List.mem_singleton.mp isLast]
        exact notAnswered
    · exact ⟨record, [], rfl, fun entry member => (by cases member)⟩

theorem Awaiting.number_mem {record : List Entry} {purpose : Pending} {number : Nat}
    (awaiting : Awaiting record purpose number) : number ∈ record.filterMap Entry.number? := by
  obtain ⟨earlier, later, rfl, _⟩ := awaiting
  exact List.mem_filterMap.mpr ⟨.sent purpose number, by simp, rfl⟩

/-! ### Numbers -/

theorem filterMap_sentNumber?_sublist (record : List Entry) :
    (record.filterMap Entry.sentNumber?).Sublist (record.filterMap Entry.number?) := by
  induction record with
  | nil => exact .slnil
  | cons entry rest ih =>
      cases entry with
      | sent purpose number => exact ih.cons_cons number
      | lost number => exact ih.cons number
      | took message event => exact ih
      | ended => exact ih

namespace Exchange

/-- The numbers of all requests, with or without a way out, grow. -/
structure Numbered (exchange : Exchange) : Prop where
  increasing : (exchange.record.filterMap Entry.number?).Pairwise (· < ·)
  bounded : ∀ number ∈ exchange.record.filterMap Entry.number?,
    number ≤ exchange.connection.lastId

namespace Numbered

variable {exchange after : Exchange}

theorem of_same (numbered : exchange.Numbered)
    (sameNumbers : after.record.filterMap Entry.number? =
      exchange.record.filterMap Entry.number?)
    (sameId : after.connection.lastId = exchange.connection.lastId) : after.Numbered where
  increasing := by
    rw [sameNumbers]
    exact numbered.increasing
  bounded := by
    rw [sameNumbers, sameId]
    exact numbered.bounded

theorem append_silent (numbered : exchange.Numbered) {entry : Entry}
    (unnumbered : entry.number? = none)
    (isRecord : after.record = exchange.record ++ [entry])
    (sameId : after.connection.lastId = exchange.connection.lastId) : after.Numbered := by
  refine numbered.of_same ?_ sameId
  rw [isRecord, List.filterMap_append, List.filterMap_cons_none unnumbered, List.filterMap_nil,
    List.append_nil]

theorem append_next (numbered : exchange.Numbered) {entry : Entry}
    (isNext : entry.number? = some (exchange.connection.lastId + 1))
    (isRecord : after.record = exchange.record ++ [entry])
    (counted : after.connection.lastId = exchange.connection.lastId + 1) : after.Numbered := by
  have numbers : after.record.filterMap Entry.number? =
      exchange.record.filterMap Entry.number? ++ [exchange.connection.lastId + 1] := by
    rw [isRecord, List.filterMap_append, List.filterMap_cons_some isNext, List.filterMap_nil]
  constructor
  · rw [numbers, List.pairwise_append]
    refine ⟨numbered.increasing, List.pairwise_singleton _ _, ?_⟩
    intro number member next isLast
    rw [List.mem_singleton.mp isLast]
    exact Nat.lt_succ_of_le (numbered.bounded number member)
  · intro number member
    rw [numbers] at member
    rw [counted]
    rcases List.mem_append.mp member with before | isLast
    · exact Nat.le_succ_of_le (numbered.bounded number before)
    · exact Nat.le_of_eq (List.mem_singleton.mp isLast)

end Numbered

theorem numbered_step {before after : Exchange} (step : Step before after)
    (numbered : before.Numbered) : after.Numbered := by
  cases step with
  | took isOpen isNext taken =>
      refine numbered.append_silent rfl rfl ?_
      cases taken <;> rfl
  | ended isOpen isLast gone => exact numbered.append_silent rfl rfl rfl
  | posed ready receives command position => exact numbered.append_next rfl rfl rfl
  | lost ready gone => exact numbered.append_next rfl rfl rfl
  | dismissed ready receives => exact numbered.append_next rfl rfl rfl
  | shut isOpen => exact numbered.of_same rfl rfl
  | deafened => exact numbered.of_same rfl rfl
  | arrived message => exact numbered.of_same rfl rfl
  | delivered receives => exact numbered.of_same rfl rfl
  | muted => exact numbered.of_same rfl rfl
  | left => exact numbered.of_same rfl rfl

end Exchange

/-! ### One message -/

/-- A response to a number that gives locations, at least one. -/
def Message.Locates (message : Message) (number : Nat) (locations : List Location) : Prop :=
  ∃ id result, message = .response id result none ∧ id.number? = some number ∧
    Location.decodeAll result = .ok locations ∧ locations ≠ []

/-- What a message taken after some record may make: the answer to a question if it locates
the question that awaits it, and nothing at all if nothing awaits it. -/
structure Attributed (earlier : List Entry) (message : Message) (event : Option Event) :
    Prop where
  goTo_iff : ∀ command locations, event = some (.goTo command locations) ↔
    ∃ number, Awaiting earlier (.question command) number ∧ message.Locates number locations
  silent : (∀ number purpose, message.answered? = some number →
    ¬ Awaiting earlier purpose number) → event = none

section

variable {record : List Entry} {connection after : Connection} {message : Message}
  {event : Option Event}
  (pending_iff : ∀ number purpose, connection.pending.get? number = some purpose ↔
    Awaiting record purpose number)

include pending_iff

theorem attributed_of_taken (taken : connection.Taken message event after) :
    Attributed record message event := by
  constructor
  · intro command locations
    constructor
    · rintro rfl
      cases taken with
      | answered isNumber awaited decoded nonempty =>
          exact ⟨_, (pending_iff _ _).mp awaited, _, _, rfl, isNumber, decoded, nonempty⟩
    · rintro ⟨number, awaiting, id, result, isMessage, isNumber, decoded, nonempty⟩
      have awaited := (pending_iff _ _).mpr awaiting
      -- The message is a response to an open question, which leaves one way to take it.
      cases taken with
      | ignored unrelated =>
          rw [isMessage] at unrelated
          have notAwaited := unrelated number isNumber
          rw [notAwaited] at awaited
          cases awaited
      | replied => cases isMessage
      | silenced isOther isAwaited refused empty =>
          cases isMessage
          cases isOther.symm.trans isNumber
          cases isAwaited.symm.trans awaited
          exact absurd (empty rfl command rfl locations decoded) nonempty
      | greeted isOther isAwaited =>
          cases isMessage
          cases isOther.symm.trans isNumber
          cases isAwaited.symm.trans awaited
      | answered isOther isAwaited isDecoded _ =>
          cases isMessage
          cases isOther.symm.trans isNumber
          cases isAwaited.symm.trans awaited
          cases isDecoded.symm.trans decoded
          rfl
  · intro unawaited
    cases taken with
    | ignored unrelated => rfl
    | replied => rfl
    | silenced isNumber awaited refused empty => rfl
    | greeted isNumber awaited =>
        exact absurd ((pending_iff _ _).mp awaited) (unawaited _ _ isNumber)
    | answered isNumber awaited decoded nonempty =>
        exact absurd ((pending_iff _ _).mp awaited) (unawaited _ _ isNumber)

theorem pending_settled_iff {number : Nat} {id : MessageId} (isNumber : id.number? = some number)
    (result : Option Json) (error : Option ResponseError) (other : Nat) (purpose : Pending) :
    (connection.settled number).pending.get? other = some purpose ↔
      Awaiting (record ++ [.took (.response id result error) event]) purpose other := by
  change (connection.pending.erase number).get? other = some purpose ↔ _
  rw [Keyed.get?_erase, awaiting_append_iff, ← pending_iff]
  have answers : (Entry.took (.response id result error) event).answered? = some number := isNumber
  rw [answers]
  by_cases same : other = number
  · simp [same]
  · simp [same, Ne.symm same]

/-- Taking a message keeps the open requests those that await their answer. -/
theorem pending_iff_of_taken (taken : connection.Taken message event after) (number : Nat)
    (purpose : Pending) :
    after.pending.get? number = some purpose ↔
      Awaiting (record ++ [.took message event]) purpose number := by
  cases taken with
  | ignored unrelated =>
      rw [awaiting_append_iff, ← pending_iff]
      constructor
      · intro awaited
        refine .inl ⟨awaited, ?_⟩
        intro answers
        rw [unrelated number answers] at awaited
        cases awaited
      · rintro (⟨awaited, _⟩ | isSent)
        · exact awaited
        · cases isSent
  | replied id method params =>
      change connection.pending.get? number = some purpose ↔ _
      rw [awaiting_append_iff, ← pending_iff]
      simp [Entry.answered?, Entry.message?, Message.answered?]
  | silenced isNumber awaited refused empty =>
      exact pending_settled_iff pending_iff isNumber _ _ number purpose
  | greeted isNumber awaited =>
      exact pending_settled_iff pending_iff isNumber _ _ number purpose
  | answered isNumber awaited decoded nonempty =>
      exact pending_settled_iff pending_iff isNumber _ _ number purpose

end

/-! ### One step -/

namespace Exchange

/-- The open requests are the awaiting ones, and every message taken was attributed. -/
structure Tracked (exchange : Exchange) : Prop where
  pending_iff : exchange.connection.isOpen = true → ∀ number purpose,
    exchange.connection.pending.get? number = some purpose ↔
      Awaiting exchange.record purpose number
  attributed : ∀ earlier message event later,
    exchange.record = earlier ++ .took message event :: later →
      Attributed earlier message event

theorem attributed_append {record : List Entry} {last : Entry}
    (attributed : ∀ earlier message event later,
      record = earlier ++ .took message event :: later → Attributed earlier message event)
    (isLast : ∀ message event, last = .took message event → Attributed record message event) :
    ∀ earlier message event later,
      record ++ [last] = earlier ++ .took message event :: later →
        Attributed earlier message event := by
  intro earlier message event later split
  rcases split_last split with ⟨_, rfl, isTook⟩ | ⟨between, _, isRecord⟩
  · exact isLast message event isTook
  · exact attributed earlier message event between isRecord

theorem Tracked.of_same {exchange after : Exchange} (tracked : exchange.Tracked)
    (sameRecord : after.record = exchange.record)
    (stillOpen : after.connection.isOpen = true → exchange.connection.isOpen = true)
    (samePending : after.connection.isOpen = true →
      after.connection.pending = exchange.connection.pending) : after.Tracked where
  pending_iff := by
    intro isOpen
    rw [samePending isOpen, sameRecord]
    exact tracked.pending_iff (stillOpen isOpen)
  attributed := by
    rw [sameRecord]
    exact tracked.attributed

/-- Once closed, an exchange keeps track by not taking any message. -/
theorem Tracked.append_closed {exchange after : Exchange} (tracked : exchange.Tracked)
    {entry : Entry} (isRecord : after.record = exchange.record ++ [entry])
    (untaken : entry.message? = none) (closed : after.connection.isOpen = false) :
    after.Tracked where
  pending_iff := by
    intro isOpen
    rw [closed] at isOpen
    cases isOpen
  attributed := by
    rw [isRecord]
    refine attributed_append tracked.attributed ?_
    rintro message event rfl
    cases untaken

theorem tracked_posed {exchange : Exchange} (numbered : exchange.Numbered)
    (tracked : exchange.Tracked) (ready : exchange.connection.IsReady) (command : Command)
    (position : ServerPosition) :
    Tracked
      { exchange with
        connection := exchange.connection.posed command position
        record := exchange.record ++
          [.sent (.question command) (exchange.connection.lastId + 1)] } where
  pending_iff := by
    intro _ number purpose
    change (exchange.connection.pending.insert _ _).get? number = some purpose ↔ _
    rw [Keyed.get?_insert, awaiting_append_iff, ← tracked.pending_iff ready.1]
    by_cases isNext : number = exchange.connection.lastId + 1
    · have unused : exchange.connection.pending.get? number ≠ some purpose := by
        intro awaited
        have awaiting := (tracked.pending_iff ready.1 _ _).mp awaited
        have bounded := numbered.bounded _ awaiting.number_mem
        omega
      subst isNext
      simp [unused]
    · simp [isNext, Ne.symm isNext, Entry.answered?, Entry.message?]
  attributed := by
    refine attributed_append tracked.attributed ?_
    rintro message event isTook
    cases isTook

theorem tracked_step {before after : Exchange} (step : Step before after)
    (numbered : before.Numbered) (tracked : before.Tracked) : after.Tracked := by
  cases step with
  | took isOpen isNext taken =>
      have pending_iff := tracked.pending_iff isOpen
      have kept := pending_iff_of_taken pending_iff taken
      refine ⟨fun _ => kept, ?_⟩
      refine attributed_append tracked.attributed ?_
      rintro message event isTook
      cases isTook
      exact attributed_of_taken pending_iff taken
  | ended isOpen isLast gone => exact tracked.append_closed rfl rfl rfl
  | posed ready receives command position => exact tracked_posed numbered tracked ready _ _
  | lost ready gone =>
      constructor
      · intro isOpen number purpose
        rw [awaiting_append_iff, ← tracked.pending_iff isOpen]
        simp [Connection.counted, Entry.answered?, Entry.message?]
      · refine attributed_append tracked.attributed ?_
        rintro message event isTook
        cases isTook
  | dismissed ready receives => exact tracked.append_closed rfl rfl rfl
  | shut isOpen => exact tracked.of_same rfl (fun _ => isOpen) (fun stillOpen => by cases stillOpen)
  | deafened => exact tracked.of_same rfl id (fun _ => rfl)
  | arrived message => exact tracked.of_same rfl id (fun _ => rfl)
  | delivered receives => exact tracked.of_same rfl id (fun _ => rfl)
  | muted => exact tracked.of_same rfl id (fun _ => rfl)
  | left => exact tracked.of_same rfl id (fun _ => rfl)

/-- The record says what was reported, and which messages were taken from the queue. -/
structure Recorded (exchange : Exchange) : Prop where
  reported : exchange.events = exchange.record.filterMap Entry.event?
  queued : exchange.arrived =
    exchange.record.filterMap Entry.message? ++ exchange.connection.link.inbox

theorem Recorded.append_silent {exchange after : Exchange} (recorded : exchange.Recorded)
    {entry : Entry} (isRecord : after.record = exchange.record ++ [entry])
    (noEvent : entry.event? = none) (untaken : entry.message? = none)
    (sameEvents : after.events = exchange.events) (sameArrived : after.arrived = exchange.arrived)
    (sameInbox : after.connection.link.inbox = exchange.connection.link.inbox) :
    after.Recorded where
  reported := by
    rw [sameEvents, isRecord, List.filterMap_append, List.filterMap_cons_none noEvent,
      List.filterMap_nil, List.append_nil]
    exact recorded.reported
  queued := by
    rw [sameArrived, sameInbox, isRecord, List.filterMap_append,
      List.filterMap_cons_none untaken, List.filterMap_nil, List.append_nil]
    exact recorded.queued

theorem recorded_step {before after : Exchange} (step : Step before after)
    (recorded : before.Recorded) : after.Recorded := by
  have reported := recorded.reported
  have queued := recorded.queued
  cases step with
  | @took message rest event _ isOpen isNext taken =>
      constructor
      · change before.events ++ event.toList = (before.record ++ [_]).filterMap Entry.event?
        rw [List.filterMap_append, ← reported]
        cases event <;> rfl
      · change before.arrived = (before.record ++ [_]).filterMap Entry.message? ++ rest
        rw [queued, isNext, List.filterMap_append, List.append_assoc]
        rfl
  | ended isOpen isLast gone =>
      constructor
      · change before.events ++ [.closed] = (before.record ++ [_]).filterMap Entry.event?
        rw [List.filterMap_append, ← reported]
        rfl
      · change before.arrived = (before.record ++ [_]).filterMap Entry.message? ++ _
        rw [List.filterMap_append, queued, List.append_assoc]
        rfl
  | posed ready receives command position =>
      exact recorded.append_silent rfl rfl rfl rfl rfl rfl
  | lost ready gone => exact recorded.append_silent rfl rfl rfl rfl rfl rfl
  | dismissed ready receives => exact recorded.append_silent rfl rfl rfl rfl rfl rfl
  | shut isOpen => exact ⟨reported, queued⟩
  | deafened => exact ⟨reported, queued⟩
  | arrived message =>
      refine ⟨reported, ?_⟩
      change before.arrived ++ [message] = _ ++ (before.connection.link.inbox ++ [message])
      rw [queued, List.append_assoc]
  | delivered receives => exact ⟨reported, queued⟩
  | muted => exact ⟨reported, queued⟩
  | left => exact ⟨reported, queued⟩

/-! ### Whole runs -/

theorem number_not_later {earlier later : List Entry} {entry : Entry} {number : Nat}
    (isNumber : entry.number? = some number)
    (increasing : ((earlier ++ entry :: later).filterMap Entry.number?).Pairwise (· < ·)) :
    number ∉ later.filterMap Entry.number? := by
  intro member
  rw [List.filterMap_append, List.filterMap_cons_some isNumber] at increasing
  have fromEntry := (List.pairwise_append.mp increasing).2.1
  have smaller := (List.pairwise_cons.mp fromEntry).1 number member
  exact Nat.lt_irrefl number smaller

theorem number_mem_append {earlier later : List Entry} {entry : Entry} {number : Nat}
    (isNumber : entry.number? = some number) :
    number ∈ (earlier ++ entry :: later).filterMap Entry.number? :=
  List.mem_filterMap.mpr ⟨entry, by simp, isNumber⟩

/-- A number has one place in a record. -/
theorem split_unique {earlier later otherEarlier otherLater : List Entry} {entry other : Entry}
    {number : Nat} (isNumber : entry.number? = some number) (isOther : other.number? = some number)
    (increasing : ((earlier ++ entry :: later).filterMap Entry.number?).Pairwise (· < ·))
    (split : earlier ++ entry :: later = otherEarlier ++ other :: otherLater) :
    later = otherLater := by
  rcases List.append_eq_append_iff.mp split with ⟨between, _, tail⟩ | ⟨between, isEarlier, tail⟩
  · cases between with
    | nil => exact (List.cons.inj tail).2
    | cons first rest =>
        have isLater := (List.cons.inj tail).2
        have notLater := number_not_later isNumber increasing
        rw [isLater] at notLater
        exact absurd (number_mem_append isOther) notLater
  · cases between with
    | nil => exact (List.cons.inj tail).2.symm
    | cons first rest =>
        have isLater := (List.cons.inj tail).2
        rw [split] at increasing
        have notLater := number_not_later isOther increasing
        rw [isLater] at notLater
        exact absurd (number_mem_append isNumber) notLater

/-- A request that has had its response awaits nothing more. -/
theorem not_awaiting_of_answered {earlier between middle : List Entry} {sent : Pending}
    {number : Nat} {first : Message} {event : Option Event}
    (answers : first.answered? = some number)
    (increasing : ((earlier ++ .sent sent number :: (between ++ .took first event :: middle)
      ).filterMap Entry.number?).Pairwise (· < ·)) (purpose : Pending) :
    ¬ Awaiting (earlier ++ .sent sent number :: (between ++ .took first event :: middle)) purpose
      number := by
  rintro ⟨otherEarlier, otherLater, split, unanswered⟩
  have isLater := split_unique rfl rfl increasing split
  rw [← isLater] at unanswered
  exact unanswered (.took first event) (by simp) answers

section Runs

variable {processId : Nat} {addresses : Addresses} {documentText : List Char} {link : Link}
  {exchange : Exchange}

theorem numbered_start (started : start processId addresses documentText link = .ok exchange) :
    exchange.Numbered := by
  obtain ⟨_, rfl⟩ := start_eq_ok started
  refine ⟨List.pairwise_singleton _ _, ?_⟩
  intro number member
  exact Nat.le_of_eq (List.mem_singleton.mp member)

theorem tracked_start (started : start processId addresses documentText link = .ok exchange) :
    exchange.Tracked := by
  obtain ⟨_, rfl⟩ := start_eq_ok started
  have nothingBefore (earlier : List Entry) (entry : Entry) (later : List Entry) :
      [] ≠ earlier ++ entry :: later := by simp
  constructor
  · intro _ number purpose
    have nothingAwaits : ¬ Awaiting [] purpose number := by
      rintro ⟨earlier, later, isNil, _⟩
      exact nothingBefore _ _ _ isNil
    change (Keyed.empty.insert 1 Pending.handshake).get? number = some purpose ↔
      Awaiting ([] ++ [.sent .handshake 1]) purpose number
    rw [Keyed.get?_insert, awaiting_append_iff]
    by_cases isFirst : number = 1
    · subst isFirst
      simp [nothingAwaits]
    · simp [isFirst, Ne.symm isFirst, nothingAwaits]
  · change ∀ earlier message event later, [] ++ [Entry.sent .handshake 1] = _ → _
    refine attributed_append ?_ ?_
    · intro earlier message event later isNil
      exact absurd isNil (nothingBefore _ _ _)
    · intro message event isTook
      cases isTook

theorem recorded_start (started : start processId addresses documentText link = .ok exchange) :
    exchange.Recorded := by
  obtain ⟨_, rfl⟩ := start_eq_ok started
  exact ⟨rfl, rfl⟩

theorem numbered_run (started : start processId addresses documentText link = .ok exchange)
    (actions : List Action) : (exchange.run actions).Numbered :=
  run_preserves numbered_step (numbered_start started) actions

theorem tracked_run (started : start processId addresses documentText link = .ok exchange)
    (actions : List Action) : (exchange.run actions).Tracked := by
  have both := run_preserves (motive := fun exchange => exchange.Numbered ∧ exchange.Tracked)
    (fun step held => ⟨numbered_step step held.1, tracked_step step held.1 held.2⟩)
    ⟨numbered_start started, tracked_start started⟩ actions
  exact both.2

end Runs

/-- Every answer that a connection reports belongs to one question, and is reported once. The
record holds, in order, the requests and the messages taken from the queue, with the events
they made: these are the events reported, and the messages are those that arrived. A message
makes an answer with locations exactly if it is a response that decodes to these locations, at
least one, and is the first one taken since a question of this command was sent under its
number. A second response to a question makes nothing, whatever the first one was. The numbers
of all requests grow, those without a way out included, so none is used twice; they are counts,
which do not wrap. -/
theorem goTo_answers_one_question
    {processId : Nat} {addresses : Addresses} {documentText : List Char} {link : Link}
    {exchange : Exchange} (started : start processId addresses documentText link = .ok exchange)
    (actions : List Action) :
    let finished := exchange.run actions
    finished.Recorded ∧ (finished.record.filterMap Entry.number?).Pairwise (· < ·) ∧
      (∀ earlier message event later,
        finished.record = earlier ++ .took message event :: later →
          ∀ command locations, event = some (.goTo command locations) ↔
            ∃ number, Awaiting earlier (.question command) number ∧
              message.Locates number locations) ∧
      (∀ earlier command number between first event middle second repeated later,
        finished.record = earlier ++ .sent (.question command) number ::
          (between ++ .took first event :: (middle ++ .took second repeated :: later)) →
        first.answered? = some number → second.answered? = some number → repeated = none) := by
  intro finished
  have increasing := (numbered_run started actions).increasing
  have attributed := (tracked_run started actions).attributed
  refine ⟨run_preserves recorded_step (recorded_start started) actions, increasing, ?_, ?_⟩
  · intro earlier message event later split
    exact (attributed earlier message event later split).goTo_iff
  · intro earlier command number between first event middle second repeated later split answers
      answersAgain
    have regrouped : finished.record =
        (earlier ++ .sent (.question command) number :: (between ++ .took first event :: middle)) ++
          .took second repeated :: later := by
      rw [split]
      simp
    have increasingBefore : ((earlier ++ .sent (.question command) number ::
        (between ++ .took first event :: middle)).filterMap Entry.number?).Pairwise (· < ·) := by
      change (finished.record.filterMap Entry.number?).Pairwise (· < ·) at increasing
      rw [regrouped, List.filterMap_append] at increasing
      exact (List.pairwise_append.mp increasing).1
    refine (attributed _ second repeated later regrouped).silent ?_
    intro other purpose answersOther awaiting
    cases answersOther.symm.trans answersAgain
    exact not_awaiting_of_answered answers increasingBefore purpose awaiting

def exampleLocation : Location where
  uri := "file:///y"
  range := ⟨⟨0, 0⟩, ⟨0, 1⟩⟩

/-- A server that answers a question twice is heard once. -/
theorem goTo_answers_one_question_answered_twice :
    let answer := Message.response (.name "+2") (some exampleLocation.encode) none
    let finished := exampleExchange.run
      [.poll, .ask .definition ⟨0, 0⟩, .serverSend answer, .serverSend answer, .poll, .poll]
    let earlier :=
      [.sent .handshake 1,
        .took (.response (.name "+1") none none) (some (.initialized ⟨.null⟩)),
        .sent (.question .definition) 2]
    finished.record = earlier ++ [.took answer (some (.goTo .definition [exampleLocation])),
        .took answer none] ∧
      ∃ number, Awaiting earlier (.question .definition) number ∧
        answer.Locates number [exampleLocation] := by
  intro answer finished earlier
  have isRecord : finished.record =
      earlier ++ .took answer (some (.goTo .definition [exampleLocation])) ::
        [.took answer none] := rfl
  have attributed := goTo_answers_one_question start_example
    [.poll, .ask .definition ⟨0, 0⟩, .serverSend answer, .serverSend answer, .poll, .poll]
  exact ⟨isRecord, (attributed.2.2.1 _ _ _ _ isRecord _ _).mp rfl⟩

end Exchange

end SymbolJump.Server
