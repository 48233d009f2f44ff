/-
Every request of the server is answered once.

Requests of the server come among its responses and notifications, before, in
and after the handshake, and a poll may stop at any of them. Still each request
that is taken is answered at once, so the replies stand in the order of the
requests, and nothing else that is taken is replied to. A server that lets go
of its receiving end misses the replies from there on, but never gets them in
another order.
-/

import SymbolJump.Proofs.Server.Script

namespace SymbolJump.Server

/-! ### Requests and their replies -/

def Message.isResponse : Message → Bool
  | .response .. => true
  | .request .. | .notification .. => false

/-- The methods that ask for nothing but an acknowledgement. -/
def acknowledgedMethods : List String :=
  ["window/workDoneProgress/create", "client/registerCapability", "client/unregisterCapability"]

/-- The reply a request calls for, always under the id of the request: an item without value
for each configuration item, an acknowledgement, or an error. -/
inductive Answers : Message → Message → Prop where
  | configuration (id : MessageId) {params : Option Json} {items : List Json}
      (listed : params.bind (·.get? "items") = some (.array items)) :
      Answers (.request id "workspace/configuration" params)
        (.response id (some (.array (List.replicate items.length .null))) none)
  | noConfiguration (id : MessageId) {params : Option Json}
      (unlisted : ∀ items, params.bind (·.get? "items") ≠ some (.array items)) :
      Answers (.request id "workspace/configuration" params)
        (.response id (some (.array [])) none)
  | acknowledgement (id : MessageId) {method : String} (params : Option Json)
      (isKnown : method ∈ acknowledgedMethods) :
      Answers (.request id method params) (.response id (some .null) none)
  | unsupported (id : MessageId) {method : String} (params : Option Json)
      (otherMethod : method ≠ "workspace/configuration")
      (unknown : method ∉ acknowledgedMethods) :
      Answers (.request id method params)
        (.response id none (some ⟨-32601, "method not found"⟩))

def Message.reply? : Message → Option Message
  | .request id method params => some (Connection.replyTo id method params)
  | .notification .. | .response .. => none

theorem answers_replyTo (id : MessageId) (method : String) (params : Option Json) :
    Answers (.request id method params) (Connection.replyTo id method params) := by
  unfold Connection.replyTo
  split
  · unfold Connection.configurationItems
    split
    · next items listed => exact .configuration id listed
    · next unlisted => exact .noConfiguration id unlisted
  · exact .acknowledgement id params (by decide)
  · exact .acknowledgement id params (by decide)
  · exact .acknowledgement id params (by decide)
  · next notConfiguration notProgress notRegister notUnregister =>
      refine .unsupported id params notConfiguration ?_
      simp only [acknowledgedMethods, List.mem_cons, List.not_mem_nil, or_false, not_or]
      exact ⟨notProgress, notRegister, notUnregister⟩

theorem isResponse_replyTo (id : MessageId) (method : String) (params : Option Json) :
    (Connection.replyTo id method params).isResponse = true := by
  unfold Connection.replyTo
  split <;> rfl

theorem answers_replies (messages : List Message) :
    List.Forall₂ Answers (messages.filter Message.isRequest)
      (messages.filterMap Message.reply?) := by
  induction messages with
  | nil => exact .nil
  | cons message rest ih =>
      cases message with
      | request id method params => exact .cons (answers_replyTo id method params) ih
      | notification method params => exact ih
      | response id result error => exact ih

theorem reply?_of_unasked {message : Message} (unasked : message.isRequest = false) :
    message.reply? = none := by
  cases message with
  | request id method params => cases unasked
  | notification method params => rfl
  | response id result error => rfl

/-! ### What is said while a message is taken -/

/-- Of what a connection says while it takes a message, the reply is the only response. -/
theorem Connection.Taken.responses_eq {connection after : Connection} {message : Message}
    {event : Option Event} (taken : connection.Taken message event after)
    (way : (connection.isOpen && connection.link.serverReceives) = true) :
    after.link.outbox.filter Message.isResponse =
      connection.link.outbox.filter Message.isResponse ++ message.reply?.toList := by
  cases taken with
  | ignored unrelated unasked =>
      rw [reply?_of_unasked unasked]
      exact (List.append_nil _).symm
  | replied id method params =>
      rw [outbox_say_of_way _ way, List.filter_append]
      simp only [Message.reply?, Option.toList_some, List.filter_cons, isResponse_replyTo, if_true,
        List.filter_nil]
  | silenced isNumber awaited refused empty => exact (List.append_nil _).symm
  | @greeted _ result number isNumber awaited =>
      have said := (connection.settled number).outbox_greeted_of_way
        (Capabilities.ofHandshake result) way
      rw [said, List.filter_append]
      rfl
  | answered isNumber awaited decoded nonempty => exact (List.append_nil _).symm

namespace Exchange

/-- The messages that polls took from the queue. -/
def consumed (exchange : Exchange) : List Message :=
  exchange.record.filterMap Entry.message?

def responses (exchange : Exchange) : List Message :=
  exchange.flight.filter Message.isResponse

/-- Behind the responses that the link held before, there is a reply to each request taken, in
order; all of them as long as the server holds its end. -/
structure Replied (already : List Message) (exchange : Exchange) : Prop where
  all : exchange.connection.link.serverReceives = true →
    exchange.responses = already ++ exchange.consumed.filterMap Message.reply?
  within : exchange.responses <+: already ++ exchange.consumed.filterMap Message.reply?

variable {already : List Message}

namespace Replied

variable {exchange after : Exchange}

theorem of_same (replied : exchange.Replied already)
    (sameResponses : after.responses = exchange.responses)
    (sameConsumed : after.consumed = exchange.consumed)
    (sameReceives : after.connection.link.serverReceives =
      exchange.connection.link.serverReceives) : after.Replied already where
  all := by
    rw [sameResponses, sameConsumed, sameReceives]
    exact replied.all
  within := by
    rw [sameResponses, sameConsumed]
    exact replied.within

theorem append_untaken (replied : exchange.Replied already) {entry : Entry}
    (isRecord : after.record = exchange.record ++ [entry]) (untaken : entry.message? = none)
    (sameResponses : after.responses = exchange.responses)
    (sameReceives : after.connection.link.serverReceives =
      exchange.connection.link.serverReceives) : after.Replied already := by
  refine replied.of_same sameResponses ?_ sameReceives
  unfold consumed
  rw [isRecord, List.filterMap_append, List.filterMap_cons_none untaken, List.filterMap_nil,
    List.append_nil]

end Replied

/-- What is said beside replies holds no response. -/
theorem responses_of_said {exchange after : Exchange} {said : List Message}
    (sameReceived : after.received = exchange.received)
    (isOutbox : after.connection.link.outbox = exchange.connection.link.outbox ++ said)
    (unanswering : said.filter Message.isResponse = []) :
    after.responses = exchange.responses := by
  unfold responses flight
  rw [sameReceived, isOutbox, ← List.append_assoc, List.filter_append, unanswering,
    List.append_nil]

theorem replied_took {exchange : Exchange} {message : Message} {event : Option Event}
    {after : Connection} (isOpen : exchange.connection.isOpen = true)
    (taken : exchange.connection.Taken message event after)
    (replied : exchange.Replied already) (rest : List Message) (events : List Event) :
    Replied already
      { exchange with
        connection := after.setInbox rest
        events := events
        record := exchange.record ++ [.took message event] } := by
  obtain ⟨_, _, sameReceives, silent⟩ := taken.keeps
  have isConsumed : (exchange.record ++ [Entry.took message event]).filterMap Entry.message? =
      exchange.consumed ++ [message] := List.filterMap_append
  have isReplies : (exchange.consumed ++ [message]).filterMap Message.reply? =
      exchange.consumed.filterMap Message.reply? ++ message.reply?.toList := by
    rw [List.filterMap_append]
    cases message <;> rfl
  cases receives : exchange.connection.link.serverReceives with
  | true =>
      have said := taken.responses_eq (by rw [isOpen, receives]; rfl)
      have all : (exchange.received ++ after.link.outbox).filter Message.isResponse =
          already ++ ((exchange.record ++ [Entry.took message event]).filterMap
            Entry.message?).filterMap Message.reply? := by
        have before := replied.all receives
        unfold responses flight at before
        rw [List.filter_append] at before
        rw [isConsumed, isReplies, ← List.append_assoc, ← before, List.filter_append, said,
          List.append_assoc]
      exact ⟨fun _ => all, all ▸ List.prefix_rfl⟩
  | false =>
      have noWay : (exchange.connection.isOpen &&
          exchange.connection.link.serverReceives) = false := by
        rw [receives, Bool.and_false]
      constructor
      · intro stillReceives
        cases (sameReceives.trans receives).symm.trans stillReceives
      · -- The server is gone: it has what it has, and the reply to this message is missed.
        change (exchange.received ++ after.link.outbox).filter Message.isResponse <+:
          already ++ ((exchange.record ++ [_]).filterMap Entry.message?).filterMap Message.reply?
        rw [silent noWay, isConsumed, isReplies, ← List.append_assoc]
        exact replied.within.trans (List.prefix_append _ _)

theorem replied_step {before after : Exchange} (step : Step before after)
    (replied : before.Replied already) : after.Replied already := by
  cases step with
  | took isOpen isNext taken => exact replied_took isOpen taken replied _ _
  | ended isOpen isLast gone => exact replied.append_untaken rfl rfl rfl rfl
  | posed ready receives command position =>
      have said := before.connection.outbox_posed_of_way command position
        (ready.way_eq.trans receives)
      exact replied.append_untaken rfl rfl (responses_of_said rfl said rfl) rfl
  | lost ready gone => exact replied.append_untaken rfl rfl rfl rfl
  | dismissed ready receives =>
      have said := before.connection.outbox_dismissed_of_way (ready.way_eq.trans receives)
      exact replied.append_untaken rfl rfl (responses_of_said rfl said rfl) rfl
  | shut isOpen => exact replied.of_same rfl rfl rfl
  | deafened => exact replied.of_same rfl rfl rfl
  | arrived message => exact replied.of_same rfl rfl rfl
  | delivered receives =>
      exact replied.of_same
        (congrArg (List.filter Message.isResponse) (List.append_nil before.flight)) rfl rfl
  | muted => exact replied.of_same rfl rfl rfl
  | left =>
      have kept : (before.received ++ []).filter Message.isResponse <+: before.responses :=
        ((List.prefix_append_right_inj _).mpr List.nil_prefix).filter _
      exact ⟨fun receives => (by cases receives), kept.trans replied.within⟩

/-! ### Whole runs -/

theorem replied_start {processId : Nat} {addresses : Addresses} {documentText : List Char}
    {link : Link} {exchange : Exchange}
    (started : start processId addresses documentText link = .ok exchange) :
    exchange.Replied (link.outbox.filter Message.isResponse) := by
  obtain ⟨receives, rfl⟩ := start_eq_ok started
  have way : ((Connection.fresh addresses documentText link).counted.isOpen &&
      (Connection.fresh addresses documentText link).counted.link.serverReceives) = true := receives
  have said := Connection.outbox_say_of_way (greeting processId addresses) way
  have all : ((Connection.fresh addresses documentText link).counted.say
      (greeting processId addresses)).link.outbox.filter Message.isResponse =
        link.outbox.filter Message.isResponse ++ [] := by
    rw [said, List.filter_append]
    rfl
  exact ⟨fun _ => all, all ▸ List.prefix_rfl⟩

/-- Whatever both sides do, at every moment there is a reply to each request taken by polls so
far, in the order of the requests and fitting them, and to nothing else that was taken. While
the server holds its receiving end, these replies are exactly the responses sent to it; once it
let go, it has a beginning of them. What was taken is what arrived, up to what still lies in the
queue. -/
theorem requests_answered_in_turn {processId : Nat} {addresses : Addresses}
    {documentText : List Char} {link : Link} {exchange : Exchange}
    (started : start processId addresses documentText link = .ok exchange)
    (actions : List Action) :
    let finished := exchange.run actions
    ∃ replies, List.Forall₂ Answers (finished.consumed.filter Message.isRequest) replies ∧
      finished.arrived = finished.consumed ++ finished.connection.link.inbox ∧
      (finished.connection.link.serverReceives = true →
        finished.responses = link.outbox.filter Message.isResponse ++ replies) ∧
      finished.responses <+: link.outbox.filter Message.isResponse ++ replies := by
  intro finished
  have replied := run_preserves replied_step (replied_start started) actions
  have recorded := run_preserves recorded_step (recorded_start started) actions
  exact ⟨_, answers_replies finished.consumed, recorded.queued, replied.all, replied.within⟩

def twoItems : Json := .object [("items", .array [.null, .bool true])]

/-- The server asks for configuration before it answers the handshake. -/
def inquisitiveLink : Link where
  inbox :=
    [.request .null "workspace/configuration" (some twoItems), .response (.number 1) none none]

def inquisitiveExchange : Exchange where
  connection :=
    (Connection.fresh exampleAddresses ['x'] inquisitiveLink).requested .handshake "initialize"
      (some (Connection.handshakeParams 7 exampleAddresses.rootUri))
  arrived := inquisitiveLink.inbox
  record := [.sent .handshake 1]

/-- Later it asks for something unknown, behind a notification. -/
def inquiries : List Action :=
  [.poll, .serverSend (.notification "telemetry/event" none),
   .serverSend (.request (.name "7") "workspace/applyEdit" none), .serverReceive, .poll]

theorem requests_answered_in_turn_around_handshake :
    (inquisitiveExchange.run inquiries).connection.link.serverReceives = true ∧
      (inquisitiveExchange.run inquiries).consumed.filter Message.isRequest =
        [.request .null "workspace/configuration" (some twoItems),
          .request (.name "7") "workspace/applyEdit" none] ∧
      (inquisitiveExchange.run inquiries).responses =
        [.response .null (some (.array [.null, .null])) none,
          .response (.name "7") none (some ⟨-32601, "method not found"⟩)] ∧
      List.Forall₂ Answers ((inquisitiveExchange.run inquiries).consumed.filter Message.isRequest)
        (inquisitiveExchange.run inquiries).responses := by
  have started : start 7 exampleAddresses ['x'] inquisitiveLink = .ok inquisitiveExchange := rfl
  have receives : (inquisitiveExchange.run inquiries).connection.link.serverReceives = true := rfl
  obtain ⟨replies, answered, _, all, _⟩ := requests_answered_in_turn started inquiries
  have sent := all receives
  refine ⟨receives, rfl, rfl, ?_⟩
  rw [sent]
  exact answered

end Exchange

end SymbolJump.Server
