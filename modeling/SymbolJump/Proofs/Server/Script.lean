/-
What a server gets to read follows a script.

The script begins with the handshake and replies to the server's own requests.
Once the handshake is answered, the document is opened, and replies and
questions follow in any order. Only a server that got so far is told to shut
down and to exit, and that is the last it hears. No variable of the connection
keeps the place in the script: it follows from the link, from the capabilities
and from the pace of the open requests.
-/

import SymbolJump.Proofs.Server.Attribution
import SymbolJump.Proofs.Server.Lifetime

namespace SymbolJump.Server

open Text

/-! ### The script -/

def Message.requestNumber? : Message → Option UInt64
  | .request (.number number) _ _ => some number
  | .request .. | .notification .. | .response .. => none

/-- A reply to a request of the server that was taken. -/
def IsReply (record : List Entry) (message : Message) : Prop :=
  ∃ id method params event, .took (.request id method params) event ∈ record ∧
    message = Connection.replyTo id method params

def IsQuestion (addresses : Addresses) (message : Message) : Prop :=
  ∃ number command position, message = .request (.number number) (Command.method command)
    (some (command.params addresses.documentUri position))

def greeting (processId : Nat) (addresses : Addresses) : Message :=
  .request (.number 1) "initialize"
    (some (Connection.handshakeParams processId addresses.rootUri))

def opening (addresses : Addresses) (documentText : List Char) : List Message :=
  [.notification "initialized" (some (.object [])),
    .notification "textDocument/didOpen"
      (some (Connection.fresh addresses documentText {}).documentParams)]

def farewell (number : UInt64) : List Message :=
  [.request (.number number) "shutdown" none, .notification "exit" none]

section

variable (processId : Nat) (addresses : Addresses) (documentText : List Char)
  (record : List Entry)

/-- All that a server may ever read: without an answer to the handshake only the handshake and
replies, with one everything up to the farewell. -/
inductive Script : List Message → Prop where
  | brief {replies : List Message} (areReplies : ∀ message ∈ replies, IsReply record message) :
      Script (greeting processId addresses :: replies)
  | full {replies traffic : List Message} {number : UInt64}
      (areReplies : ∀ message ∈ replies, IsReply record message)
      (isTraffic : ∀ message ∈ traffic, IsReply record message ∨ IsQuestion addresses message) :
      Script (greeting processId addresses :: replies ++ opening addresses documentText ++
        traffic ++ farewell number)

def Lawful (flight : List Message) : Prop :=
  ∃ script, Script processId addresses documentText record script ∧ flight <+: script

/-- All that was sent up to now, before and after the handshake was answered. -/
def Spoken : Bool → List Message → Prop
  | false, flight => ∃ replies, (∀ message ∈ replies, IsReply record message) ∧
      flight = greeting processId addresses :: replies
  | true, flight => ∃ replies traffic, (∀ message ∈ replies, IsReply record message) ∧
      (∀ message ∈ traffic, IsReply record message ∨ IsQuestion addresses message) ∧
      flight = greeting processId addresses :: replies ++ opening addresses documentText ++ traffic

end

section

variable {processId : Nat} {addresses : Addresses} {documentText : List Char}
  {record : List Entry} {flight : List Message} {known : Bool}

theorem IsReply.append {message : Message} (isReply : IsReply record message)
    (more : List Entry) : IsReply (record ++ more) message := by
  obtain ⟨id, method, params, event, member, isMessage⟩ := isReply
  exact ⟨id, method, params, event, List.mem_append_left more member, isMessage⟩

theorem replies_append {replies : List Message}
    (areReplies : ∀ message ∈ replies, IsReply record message) (more : List Entry) :
    ∀ message ∈ replies, IsReply (record ++ more) message :=
  fun message member => (areReplies message member).append more

theorem traffic_append {traffic : List Message}
    (isTraffic : ∀ message ∈ traffic, IsReply record message ∨ IsQuestion addresses message)
    (more : List Entry) :
    ∀ message ∈ traffic, IsReply (record ++ more) message ∨ IsQuestion addresses message :=
  fun message member => (isTraffic message member).imp_left (·.append more)

namespace Spoken

theorem append_record (spoken : Spoken processId addresses documentText record known flight)
    (more : List Entry) :
    Spoken processId addresses documentText (record ++ more) known flight := by
  cases known with
  | false =>
      obtain ⟨replies, areReplies, isFlight⟩ := spoken
      exact ⟨replies, replies_append areReplies more, isFlight⟩
  | true =>
      obtain ⟨replies, traffic, areReplies, isTraffic, isFlight⟩ := spoken
      exact ⟨replies, traffic, replies_append areReplies more, traffic_append isTraffic more,
        isFlight⟩

theorem lawful (spoken : Spoken processId addresses documentText record known flight) :
    Lawful processId addresses documentText record flight := by
  cases known with
  | false =>
      obtain ⟨replies, areReplies, rfl⟩ := spoken
      exact ⟨_, .brief areReplies, List.prefix_rfl⟩
  | true =>
      obtain ⟨replies, traffic, areReplies, isTraffic, rfl⟩ := spoken
      exact ⟨_, .full areReplies isTraffic, List.prefix_append _ (farewell 0)⟩

theorem reply (spoken : Spoken processId addresses documentText record known flight)
    {message : Message} (isReply : IsReply record message) :
    Spoken processId addresses documentText record known (flight ++ [message]) := by
  cases known with
  | false =>
      obtain ⟨replies, areReplies, rfl⟩ := spoken
      have areAll := List.forall_mem_append.mpr
        ⟨areReplies, List.forall_mem_singleton.mpr isReply⟩
      exact ⟨replies ++ [message], areAll, rfl⟩
  | true =>
      obtain ⟨replies, traffic, areReplies, isTraffic, rfl⟩ := spoken
      have isAll := List.forall_mem_append.mpr
        ⟨isTraffic, List.forall_mem_singleton.mpr (.inl isReply)⟩
      exact ⟨replies, traffic ++ [message], areReplies, isAll, List.append_assoc _ _ _⟩

theorem opened (spoken : Spoken processId addresses documentText record false flight) :
    Spoken processId addresses documentText record true
      (flight ++ opening addresses documentText) := by
  obtain ⟨replies, areReplies, rfl⟩ := spoken
  refine ⟨replies, [], areReplies, fun message member => (by cases member), ?_⟩
  rw [List.append_nil]

theorem question (spoken : Spoken processId addresses documentText record true flight)
    {message : Message} (isQuestion : IsQuestion addresses message) :
    Spoken processId addresses documentText record true (flight ++ [message]) := by
  obtain ⟨replies, traffic, areReplies, isTraffic, rfl⟩ := spoken
  have isAll := List.forall_mem_append.mpr
    ⟨isTraffic, List.forall_mem_singleton.mpr (.inr isQuestion)⟩
  exact ⟨replies, traffic ++ [message], areReplies, isAll, List.append_assoc _ _ _⟩

theorem dismissed (spoken : Spoken processId addresses documentText record true flight)
    (number : UInt64) :
    Lawful processId addresses documentText record (flight ++ farewell number) := by
  obtain ⟨replies, traffic, areReplies, isTraffic, rfl⟩ := spoken
  exact ⟨_, .full areReplies isTraffic, List.prefix_rfl⟩

end Spoken

theorem Lawful.append_record (lawful : Lawful processId addresses documentText record flight)
    (more : List Entry) : Lawful processId addresses documentText (record ++ more) flight := by
  obtain ⟨script, isScript, within⟩ := lawful
  refine ⟨script, ?_, within⟩
  cases isScript with
  | brief areReplies => exact .brief (replies_append areReplies more)
  | full areReplies isTraffic =>
      exact .full (replies_append areReplies more) (traffic_append isTraffic more)

theorem Lawful.of_within {part : List Message}
    (lawful : Lawful processId addresses documentText record flight) (within : part <+: flight) :
    Lawful processId addresses documentText record part := by
  obtain ⟨script, isScript, flightWithin⟩ := lawful
  exact ⟨script, isScript, within.trans flightWithin⟩

/-! ### What follows from the script -/

theorem IsReply.method?_eq {message : Message} (isReply : IsReply record message) :
    message.method? = none ∧ message.requestNumber? = none := by
  obtain ⟨id, method, params, _, _, rfl⟩ := isReply
  unfold Connection.replyTo
  split <;> exact ⟨rfl, rfl⟩

/-- The methods of messages up to the opening of the document; replies have none. -/
def earlyMethods : List (Option String) :=
  [none, some "initialize", some "initialized", some "textDocument/didOpen"]

theorem method?_of_early (documentText : List Char) {replies : List Message}
    (areReplies : ∀ message ∈ replies, IsReply record message) {message : Message}
    (early : message ∈ greeting processId addresses :: replies ++ opening addresses documentText) :
    message.method? ∈ earlyMethods := by
  rcases List.mem_append.mp early with early | opens
  · rcases List.mem_cons.mp early with rfl | isReply
    · exact .tail _ (.head _)
    · rw [(areReplies message isReply).method?_eq.1]
      exact .head _
  · rcases List.mem_pair.mp opens with rfl | rfl
    · exact .tail _ (.tail _ (.head _))
    · exact .tail _ (.tail _ (.tail _ (.head _)))

theorem IsQuestion.method?_not_early {message : Message}
    (isQuestion : IsQuestion addresses message) : message.method? ∉ earlyMethods := by
  obtain ⟨_, command, _, rfl⟩ := isQuestion
  change some command.method ∉ earlyMethods
  cases command <;> decide

theorem IsQuestion.method?_ne_exit {message : Message}
    (isQuestion : IsQuestion addresses message) : message.method? ≠ some "exit" := by
  obtain ⟨_, command, _, rfl⟩ := isQuestion
  change some command.method ≠ some "exit"
  cases command <;> decide

/-- What is not in the first part of a script comes after it. -/
theorem within_of_not_mem {head tail earlier later : List Message} {message : Message}
    (within : earlier ++ message :: later <+: head ++ tail) (notHead : message ∉ head) :
    head <+: earlier := by
  have upTo : earlier ++ [message] <+: head ++ tail := by
    rw [List.append_cons] at within
    exact (List.prefix_append _ _).trans within
  rcases List.prefix_or_prefix_of_prefix upTo (List.prefix_append head tail) with inside | beyond
  · exact absurd (inside.subset (by simp)) notHead
  · rcases List.prefix_concat_iff.mp beyond with rfl | before
    · exact absurd (by simp) notHead
    · exact before

theorem Lawful.question_after_opening {earlier later : List Message} {message : Message}
    (lawful : Lawful processId addresses documentText record (earlier ++ message :: later))
    (isQuestion : IsQuestion addresses message) : opening addresses documentText ⊆ earlier := by
  obtain ⟨script, isScript, within⟩ := lawful
  have late := isQuestion.method?_not_early
  cases isScript with
  | brief areReplies =>
      have member := within.subset (List.mem_append_right earlier List.mem_cons_self)
      exact absurd (method?_of_early documentText areReplies
        (List.mem_append_left _ member)) late
  | full areReplies isTraffic =>
      rw [List.append_assoc] at within
      have opened := within_of_not_mem within
        fun early => late (method?_of_early _ areReplies early)
      exact List.Subset.trans (List.subset_append_right _ _) opened.subset

theorem Lawful.exit_last {earlier later : List Message} {message : Message}
    (lawful : Lawful processId addresses documentText record (earlier ++ message :: later))
    (isExit : message.method? = some "exit") : later = [] := by
  obtain ⟨script, isScript, within⟩ := lawful
  have late : message.method? ∉ earlyMethods := by
    rw [isExit]
    decide
  cases isScript with
  | brief areReplies =>
      have member := within.subset (List.mem_append_right earlier List.mem_cons_self)
      exact absurd (method?_of_early documentText areReplies
        (List.mem_append_left _ member)) late
  | full areReplies isTraffic =>
      -- All messages of the script but the last one have other methods.
      change _ <+: _ ++ ([_] ++ [_]) at within
      rw [← List.append_assoc] at within
      have last := within_of_not_mem within ?_
      · have lengths := within.length_le
        have longer := last.length_le
        simp only [List.length_append, List.length_cons, List.length_nil] at lengths longer
        exact List.length_eq_zero_iff.mp (by omega)
      · intro member
        rcases List.mem_append.mp member with member | isShutdown
        · rcases List.mem_append.mp member with early | inTraffic
          · exact late (method?_of_early _ areReplies early)
          · rcases isTraffic message inTraffic with isReply | isQuestion
            · rw [isReply.method?_eq.1] at isExit
              cases isExit
            · exact isQuestion.method?_ne_exit isExit
        · rw [List.mem_singleton.mp isShutdown] at isExit
          have apart : some "shutdown" ≠ some "exit" := by decide
          exact apart isExit

end

/-! ### The place in the script -/

namespace Connection

variable {connection : Connection}

theorem outbox_say_of_way (message : Message)
    (way : (connection.isOpen && connection.link.serverReceives) = true) :
    (connection.say message).link.outbox = connection.link.outbox ++ [message] := by
  simp only [say, way, if_true]

theorem outbox_greeted_of_way (capabilities : Capabilities)
    (way : (connection.isOpen && connection.link.serverReceives) = true) :
    (connection.greeted capabilities).link.outbox =
      connection.link.outbox ++ opening connection.addresses connection.documentText := by
  unfold greeted
  dsimp only
  rw [outbox_say_of_way, outbox_say_of_way, List.append_assoc]
  · rfl
  · exact way
  · exact way

theorem outbox_dismissed_of_way
    (way : (connection.isOpen && connection.link.serverReceives) = true) :
    connection.dismissed.link.outbox =
      connection.link.outbox ++ farewell (connection.lastId + 1).toUInt64 := by
  change ((connection.requested .shutdown "shutdown" none).say _).link.outbox = _
  rw [outbox_say_of_way]
  · change (connection.counted.say _).link.outbox ++ _ = _
    rw [outbox_say_of_way, List.append_assoc]
    · rfl
    · exact way
  · exact way

theorem outbox_posed_of_way (command : Command) (position : ServerPosition)
    (way : (connection.isOpen && connection.link.serverReceives) = true) :
    (connection.posed command position).link.outbox =
      connection.link.outbox ++
        [.request (.number (connection.lastId + 1).toUInt64) command.method
          (some (command.params connection.addresses.documentUri position))] := by
  change (connection.counted.say _).link.outbox = _
  rw [outbox_say_of_way]
  · rfl
  · exact way

variable {after : Connection} {message : Message} {event : Option Event}

/-- What is said while a message is taken holds no request. -/
theorem Taken.outbox_eq (taken : connection.Taken message event after) :
    ∃ said, after.link.outbox = connection.link.outbox ++ said ∧
      said.filterMap Message.requestNumber? = [] := by
  cases taken with
  | ignored unrelated => exact ⟨[], (List.append_nil _).symm, rfl⟩
  | replied id method params =>
      have unnumbered : (replyTo id method params).requestNumber? = none := by
        unfold replyTo
        split <;> rfl
      refine ⟨_, rfl, ?_⟩
      split
      · rw [List.filterMap_cons_none unnumbered, List.filterMap_nil]
      · rfl
  | silenced isNumber awaited refused empty => exact ⟨[], (List.append_nil _).symm, rfl⟩
  | greeted isNumber awaited =>
      refine ⟨_, List.append_assoc _ _ _, ?_⟩
      rw [List.filterMap_append]
      split <;> split <;> rfl
  | answered isNumber awaited decoded nonempty => exact ⟨[], (List.append_nil _).symm, rfl⟩

/-- Taking a message keeps what the script is made from, and says nothing without a way out. -/
theorem Taken.keeps (taken : connection.Taken message event after) :
    after.addresses = connection.addresses ∧ after.documentText = connection.documentText ∧
      after.link.serverReceives = connection.link.serverReceives ∧
      ((connection.isOpen && connection.link.serverReceives) = false →
        after.link.outbox = connection.link.outbox) := by
  cases taken with
  | ignored unrelated => exact ⟨rfl, rfl, rfl, fun _ => rfl⟩
  | replied id method params =>
      refine ⟨rfl, rfl, rfl, fun noWay => ?_⟩
      rw [say_of_no_way _ noWay]
  | silenced isNumber awaited refused empty => exact ⟨rfl, rfl, rfl, fun _ => rfl⟩
  | greeted isNumber awaited =>
      refine ⟨rfl, rfl, rfl, fun noWay => ?_⟩
      unfold Connection.greeted
      dsimp only
      rw [say_of_no_way, say_of_no_way]
      · rfl
      · exact noWay
      · exact noWay
  | answered isNumber awaited decoded nonempty => exact ⟨rfl, rfl, rfl, fun _ => rfl⟩

end Connection

namespace Exchange

/-- What was sent is as far in the script as the capabilities tell, as long as anything can be
sent at all. -/
structure Scripted (processId : Nat) (addresses : Addresses) (documentText : List Char)
    (exchange : Exchange) : Prop where
  sameAddresses : exchange.connection.addresses = addresses
  sameText : exchange.connection.documentText = documentText
  spoken : exchange.connection.isOpen = true → exchange.connection.link.serverReceives = true →
    Spoken processId addresses documentText exchange.record
      exchange.connection.capabilities.isSome exchange.flight
  lawful : Lawful processId addresses documentText exchange.record exchange.flight

section

variable {processId : Nat} {addresses : Addresses} {documentText : List Char}

theorem spoken_took {exchange : Exchange} {message : Message} {event : Option Event}
    {after : Connection} (isOpen : exchange.connection.isOpen = true)
    (receives : exchange.connection.link.serverReceives = true)
    (taken : exchange.connection.Taken message event after) (paced : Paced exchange.connection)
    (scripted : exchange.Scripted processId addresses documentText) :
    Spoken processId addresses documentText (exchange.record ++ [.took message event])
      after.capabilities.isSome (exchange.received ++ after.link.outbox) := by
  have spoken := (scripted.spoken isOpen receives).append_record [.took message event]
  have way : (exchange.connection.isOpen && exchange.connection.link.serverReceives) = true := by
    rw [isOpen, receives]
    rfl
  cases taken with
  | ignored unrelated => exact spoken
  | replied id method params =>
      rw [Connection.outbox_say_of_way _ way, ← List.append_assoc]
      exact spoken.reply ⟨id, method, params, none, by simp, rfl⟩
  | silenced isNumber awaited refused empty => exact spoken
  | @greeted _ result number isNumber awaited =>
      rw [(paced.handshake _ awaited).2] at spoken
      have said := (exchange.connection.settled number).outbox_greeted_of_way
        (Capabilities.ofHandshake result) way
      have sameOpening : opening (exchange.connection.settled number).addresses
          (exchange.connection.settled number).documentText = opening addresses documentText :=
        congrArg₂ opening scripted.sameAddresses scripted.sameText
      rw [said, sameOpening, ← List.append_assoc]
      exact spoken.opened
  | answered isNumber awaited decoded nonempty => exact spoken

theorem scripted_took {exchange : Exchange} {message : Message} {event : Option Event}
    {after : Connection} (isOpen : exchange.connection.isOpen = true)
    (taken : exchange.connection.Taken message event after) (paced : Paced exchange.connection)
    (scripted : exchange.Scripted processId addresses documentText) (rest : List Message)
    (events : List Event) :
    Scripted processId addresses documentText
      { exchange with
        connection := after.setInbox rest
        events := events
        record := exchange.record ++ [.took message event] } := by
  obtain ⟨sameAddresses, sameText, sameReceives, silent⟩ := taken.keeps
  refine ⟨sameAddresses.trans scripted.sameAddresses, sameText.trans scripted.sameText, ?_, ?_⟩
  · intro _ receives
    have said := spoken_took isOpen (sameReceives.symm.trans receives) taken paced scripted
    exact said
  · cases receives : exchange.connection.link.serverReceives with
    | true => exact (spoken_took isOpen receives taken paced scripted).lawful
    | false =>
        have noWay : (exchange.connection.isOpen &&
            exchange.connection.link.serverReceives) = false := by
          rw [receives, Bool.and_false]
        -- The server is gone, so nothing was said and the flight is the old one.
        change Lawful _ _ _ _ (exchange.received ++ after.link.outbox)
        rw [silent noWay]
        exact scripted.lawful.append_record _

theorem Scripted.of_same {exchange after : Exchange}
    (scripted : exchange.Scripted processId addresses documentText)
    (sameRecord : after.record = exchange.record) (sameFlight : after.flight = exchange.flight)
    (same : after.connection = { exchange.connection with link := after.connection.link })
    (sameReceives : after.connection.link.serverReceives =
      exchange.connection.link.serverReceives) :
    after.Scripted processId addresses documentText where
  sameAddresses := by
    rw [same]
    exact scripted.sameAddresses
  sameText := by
    rw [same]
    exact scripted.sameText
  spoken := by
    rw [same, sameRecord, sameFlight]
    intro isOpen receives
    exact scripted.spoken isOpen (sameReceives.symm.trans receives)
  lawful := by
    rw [sameRecord, sameFlight]
    exact scripted.lawful

/-- A closed exchange, or one whose server is gone, says no more, and stays in the script. -/
theorem Scripted.of_mute {exchange after : Exchange}
    (scripted : exchange.Scripted processId addresses documentText)
    (sameAddresses : after.connection.addresses = exchange.connection.addresses)
    (sameText : after.connection.documentText = exchange.connection.documentText)
    (mute : (after.connection.isOpen && after.connection.link.serverReceives) = false)
    (lawful : Lawful processId addresses documentText after.record after.flight) :
    after.Scripted processId addresses documentText where
  sameAddresses := sameAddresses.trans scripted.sameAddresses
  sameText := sameText.trans scripted.sameText
  spoken := by
    intro isOpen receives
    rw [isOpen, receives] at mute
    cases mute
  lawful := lawful

theorem scripted_posed {exchange : Exchange} (ready : exchange.connection.IsReady)
    (receives : exchange.connection.link.serverReceives = true)
    (scripted : exchange.Scripted processId addresses documentText) (command : Command)
    (position : ServerPosition) :
    Scripted processId addresses documentText
      { exchange with
        connection := exchange.connection.posed command position
        record := exchange.record ++
          [.sent (.question command) (exchange.connection.lastId + 1)] } := by
  have spoken := (scripted.spoken ready.1 receives).append_record
    [.sent (.question command) (exchange.connection.lastId + 1)]
  rw [ready.2] at spoken
  have said := exchange.connection.outbox_posed_of_way command position
    (ready.way_eq.trans receives)
  have asked := spoken.question
    ⟨(exchange.connection.lastId + 1).toUInt64, command, position, rfl⟩
  rw [← scripted.sameAddresses, flight, List.append_assoc, ← said, scripted.sameAddresses] at asked
  have known : (exchange.connection.posed command position).capabilities.isSome = true := ready.2
  rw [← known] at asked
  exact ⟨scripted.sameAddresses, scripted.sameText, fun _ _ => asked, asked.lawful⟩

theorem lawful_dismissed {exchange : Exchange} (ready : exchange.connection.IsReady)
    (receives : exchange.connection.link.serverReceives = true)
    (scripted : exchange.Scripted processId addresses documentText) :
    Lawful processId addresses documentText exchange.record
      (exchange.received ++ exchange.connection.dismissed.link.outbox) := by
  have spoken := scripted.spoken ready.1 receives
  rw [ready.2] at spoken
  rw [exchange.connection.outbox_dismissed_of_way (ready.way_eq.trans receives),
    ← List.append_assoc]
  exact spoken.dismissed _

theorem scripted_step {before after : Exchange} (step : Step before after)
    (paced : Paced before.connection)
    (scripted : before.Scripted processId addresses documentText) :
    after.Scripted processId addresses documentText := by
  have lawful := scripted.lawful
  cases step with
  | took isOpen isNext taken => exact scripted_took isOpen taken paced scripted _ _
  | ended isOpen isLast gone => exact scripted.of_mute rfl rfl rfl (lawful.append_record _)
  | posed ready receives command position =>
      exact scripted_posed ready receives scripted command position
  | lost ready gone =>
      exact scripted.of_mute rfl rfl (ready.way_eq.trans gone) (lawful.append_record _)
  | dismissed ready receives =>
      exact scripted.of_mute rfl rfl rfl
        ((lawful_dismissed ready receives scripted).append_record _)
  | shut isOpen => exact scripted.of_mute rfl rfl rfl lawful
  | deafened => exact scripted.of_same rfl rfl rfl rfl
  | arrived message => exact scripted.of_same rfl rfl rfl rfl
  | delivered receives => exact scripted.of_same rfl (List.append_nil _) rfl rfl
  | muted => exact scripted.of_same rfl rfl rfl rfl
  | left =>
      have within : before.received ++ [] <+: before.flight :=
        (List.prefix_append_right_inj _).mpr (List.nil_prefix)
      exact scripted.of_mute rfl rfl (Bool.and_false _) (lawful.of_within within)

end

/-! ### The numbers of requests -/

/-- The numbers on the wire are those of the requests that went out, all of them as long as the
server holds its end. -/
structure Signed (exchange : Exchange) : Prop where
  all : (exchange.connection.isOpen && exchange.connection.link.serverReceives) = true →
    exchange.flight.filterMap Message.requestNumber? =
      (exchange.record.filterMap Entry.sentNumber?).map Nat.toUInt64
  within : exchange.flight.filterMap Message.requestNumber? <+:
    (exchange.record.filterMap Entry.sentNumber?).map Nat.toUInt64

namespace Signed

variable {exchange after : Exchange}

theorem of_same (signed : exchange.Signed)
    (sameNumbers : after.flight.filterMap Message.requestNumber? =
      exchange.flight.filterMap Message.requestNumber?)
    (sameSent : after.record.filterMap Entry.sentNumber? =
      exchange.record.filterMap Entry.sentNumber?)
    (stillWay : (after.connection.isOpen && after.connection.link.serverReceives) = true →
      (exchange.connection.isOpen && exchange.connection.link.serverReceives) = true) :
    after.Signed where
  all := by
    rw [sameNumbers, sameSent]
    exact fun way => signed.all (stillWay way)
  within := by
    rw [sameNumbers, sameSent]
    exact signed.within

theorem append_unsent (signed : exchange.Signed) {entry : Entry}
    (isRecord : after.record = exchange.record ++ [entry]) (unsent : entry.sentNumber? = none)
    (sameNumbers : after.flight.filterMap Message.requestNumber? =
      exchange.flight.filterMap Message.requestNumber?)
    (stillWay : (after.connection.isOpen && after.connection.link.serverReceives) = true →
      (exchange.connection.isOpen && exchange.connection.link.serverReceives) = true) :
    after.Signed := by
  refine signed.of_same sameNumbers ?_ stillWay
  rw [isRecord, List.filterMap_append, List.filterMap_cons_none unsent, List.filterMap_nil,
    List.append_nil]

theorem append_sent (signed : exchange.Signed) {purpose : Pending} {number : Nat}
    {said : List Message}
    (isRecord : after.record = exchange.record ++ [.sent purpose number])
    (isFlight : after.flight = exchange.flight ++ said)
    (oneRequest : said.filterMap Message.requestNumber? = [number.toUInt64])
    (way : (exchange.connection.isOpen && exchange.connection.link.serverReceives) = true) :
    after.Signed := by
  have all : after.flight.filterMap Message.requestNumber? =
      (after.record.filterMap Entry.sentNumber?).map Nat.toUInt64 := by
    rw [isFlight, isRecord, List.filterMap_append, oneRequest, signed.all way,
      List.filterMap_append, List.map_append]
    rfl
  exact ⟨fun _ => all, all ▸ List.prefix_rfl⟩

end Signed

theorem signed_step {before after : Exchange} (step : Step before after)
    (signed : before.Signed) : after.Signed := by
  cases step with
  | @took message rest event taker isOpen isNext taken =>
      obtain ⟨said, isOutbox, unnumbered⟩ := taken.outbox_eq
      refine signed.append_unsent rfl rfl ?_ ?_
      · change (before.received ++ taker.link.outbox).filterMap _ = _
        rw [isOutbox, ← List.append_assoc, List.filterMap_append, unnumbered, List.append_nil]
        rfl
      · change (taker.isOpen && taker.link.serverReceives) = true → _
        rw [taken.isOpen_eq, taken.keeps.2.2.1]
        exact id
  | ended isOpen isLast gone =>
      exact signed.append_unsent rfl rfl rfl (fun stillOpen => by cases stillOpen)
  | posed ready receives command position =>
      have way := ready.way_eq.trans receives
      have said := before.connection.outbox_posed_of_way command position way
      have isFlight := (congrArg (before.received ++ ·) said).trans
        (List.append_assoc _ _ _).symm
      exact signed.append_sent rfl isFlight rfl way
  | lost ready gone => exact signed.append_unsent rfl rfl rfl id
  | dismissed ready receives =>
      have way := ready.way_eq.trans receives
      have said := before.connection.outbox_dismissed_of_way way
      have isFlight := (congrArg (before.received ++ ·) said).trans
        (List.append_assoc _ _ _).symm
      exact signed.append_sent rfl isFlight rfl way
  | shut isOpen => exact signed.of_same rfl rfl (fun stillOpen => by cases stillOpen)
  | deafened => exact signed.of_same rfl rfl id
  | arrived message => exact signed.of_same rfl rfl id
  | delivered receives =>
      exact signed.of_same (congrArg _ (List.append_nil before.flight)) rfl id
  | muted => exact signed.of_same rfl rfl id
  | left =>
      have kept : (before.received ++ []).filterMap Message.requestNumber? <+:
          before.flight.filterMap Message.requestNumber? :=
        ((List.prefix_append_right_inj _).mpr List.nil_prefix).filterMap _
      exact ⟨fun way => (by simp [Connection.serverStopsReceiving] at way),
        kept.trans signed.within⟩

theorem Signed.exists_increasing {exchange : Exchange} (signed : exchange.Signed)
    (numbered : exchange.Numbered) :
    ∃ numbers : List Nat, numbers.Pairwise (· < ·) ∧
      (∀ number ∈ numbers, number ≤ exchange.connection.lastId) ∧
      exchange.flight.filterMap Message.requestNumber? = numbers.map Nat.toUInt64 := by
  have sent := filterMap_sentNumber?_sublist exchange.record
  obtain ⟨numbers, within, isNumbers⟩ := List.prefix_map_iff.mp signed.within
  have sublist := within.sublist.trans sent
  exact ⟨numbers, numbered.increasing.sublist sublist,
    fun number member => numbered.bounded number (sublist.subset member), isNumbers⟩

theorem pairwise_toUInt64 {numbers : List Nat} (increasing : numbers.Pairwise (· < ·))
    {bound : Nat} (bounded : ∀ number ∈ numbers, number ≤ bound) (small : bound < limit64) :
    (numbers.map Nat.toUInt64).Pairwise (· < ·) := by
  rw [List.pairwise_map]
  refine increasing.imp_of_mem ?_
  intro first second firstIn secondIn less
  have firstSmall : first < UInt64.size := Nat.lt_of_le_of_lt (bounded first firstIn) small
  have secondSmall : second < UInt64.size := Nat.lt_of_le_of_lt (bounded second secondIn) small
  rw [UInt64.lt_iff_toNat_lt, UInt64.toNat_ofNat_of_lt' firstSmall,
    UInt64.toNat_ofNat_of_lt' secondSmall]
  exact less

/-! ### Whole runs -/

section Runs

variable {processId : Nat} {addresses : Addresses} {documentText : List Char} {link : Link}
  {exchange : Exchange}

theorem flight_start (unused : link.outbox = [])
    (started : start processId addresses documentText link = .ok exchange) :
    exchange.flight = [greeting processId addresses] := by
  obtain ⟨receives, rfl⟩ := start_eq_ok started
  have way : ((Connection.fresh addresses documentText link).counted.isOpen &&
      (Connection.fresh addresses documentText link).counted.link.serverReceives) = true := receives
  have said := Connection.outbox_say_of_way (greeting processId addresses) way
  have empty : (Connection.fresh addresses documentText link).counted.link.outbox = [] := unused
  rw [empty] at said
  exact said

theorem scripted_start (unused : link.outbox = [])
    (started : start processId addresses documentText link = .ok exchange) :
    exchange.Scripted processId addresses documentText := by
  have greeted : Spoken processId addresses documentText exchange.record false exchange.flight :=
    ⟨[], fun message member => (by cases member), flight_start unused started⟩
  obtain ⟨_, rfl⟩ := start_eq_ok started
  exact ⟨rfl, rfl, fun _ _ => greeted, greeted.lawful⟩

theorem signed_start (unused : link.outbox = [])
    (started : start processId addresses documentText link = .ok exchange) : exchange.Signed := by
  have isFlight := flight_start unused started
  obtain ⟨_, rfl⟩ := start_eq_ok started
  constructor
  · intro _
    rw [isFlight]
    rfl
  · rw [isFlight]
    exact List.prefix_rfl

theorem lawful_run (unused : link.outbox = [])
    (started : start processId addresses documentText link = .ok exchange)
    (actions : List Action) :
    Lawful processId addresses documentText (exchange.run actions).record
      (exchange.run actions).flight := by
  have both := run_preserves
    (motive := fun exchange => Paced exchange.connection ∧
      exchange.Scripted processId addresses documentText)
    (fun step held => ⟨paced_step step held.1, scripted_step step held.1 held.2⟩)
    ⟨paced_start started, scripted_start unused started⟩ actions
  exact both.2.lawful

end Runs

/-- What a server gets to read over an unused link follows the script, whatever both sides do:
it is a beginning of the handshake, replies, and, if the handshake was answered, the opening of
the document, replies and questions, and the farewell. Questions come after the opening, and
nothing after the exit. The numbers of the requests are growing numbers in their wire form, so
they grow on the wire until the counter leaves its range. After the connection closed, nothing
is sent. -/
theorem flight_follows_script {processId : Nat} {addresses : Addresses}
    {documentText : List Char} {link : Link} {exchange : Exchange} (unused : link.outbox = [])
    (started : start processId addresses documentText link = .ok exchange)
    (actions : List Action) :
    let finished := exchange.run actions
    (∃ script, Script processId addresses documentText finished.record script ∧
        finished.flight <+: script) ∧
      (∀ earlier message later, finished.flight = earlier ++ message :: later →
        (IsQuestion addresses message → opening addresses documentText ⊆ earlier) ∧
        (message.method? = some "exit" → later = [])) ∧
      (∃ numbers : List Nat, numbers.Pairwise (· < ·) ∧
        finished.flight.filterMap Message.requestNumber? = numbers.map Nat.toUInt64) ∧
      (finished.connection.lastId < limit64 →
        (finished.flight.filterMap Message.requestNumber?).Pairwise (· < ·)) ∧
      (finished.connection.isOpen = false → ∀ later,
        (finished.run later).flight <+: finished.flight) := by
  intro finished
  have lawful : Lawful processId addresses documentText finished.record finished.flight :=
    lawful_run unused started actions
  have signed : finished.Signed := run_preserves signed_step (signed_start unused started) actions
  obtain ⟨numbers, increasing, bounded, isNumbers⟩ :=
    signed.exists_increasing (numbered_run started actions)
  refine ⟨lawful, ?_, ⟨numbers, increasing, isNumbers⟩, ?_, ?_⟩
  · intro earlier message later split
    rw [split] at lawful
    exact ⟨lawful.question_after_opening, lawful.exit_last⟩
  · intro small
    rw [isNumbers]
    exact pairwise_toUInt64 increasing bounded small
  · intro closed later
    exact (dormant_run closed later).nothingSent

theorem flight_follows_script_to_exit :
    let finished := exampleExchange.run [.poll, .ask .definition ⟨0, 0⟩, .close, .serverReceive]
    finished.received.map Message.method? =
        [some "initialize", some "initialized", some "textDocument/didOpen",
          some "textDocument/definition", some "shutdown", some "exit"] ∧
      (finished.flight.filterMap Message.requestNumber?).Pairwise (· < ·) ∧
      ∀ later, (finished.run later).flight <+: finished.flight := by
  have follows := flight_follows_script rfl start_example
    [.poll, .ask .definition ⟨0, 0⟩, .close, .serverReceive]
  exact ⟨rfl, follows.2.2.2.1 (by decide), follows.2.2.2.2 rfl⟩

end Exchange

end SymbolJump.Server
