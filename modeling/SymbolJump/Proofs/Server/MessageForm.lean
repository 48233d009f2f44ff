/-
The written form of messages.

Nothing but its members tells which kind a written message is of, and the three
kinds share members. For each kind it is said once what is read as one. From
this follows which messages come back as they were written, and what becomes of
an object that has both an id and a method.
-/

import SymbolJump.Proofs.Server.Transitions

namespace SymbolJump.Server

/-! ### Ids and errors -/

/-- An id is read from its written form and from nothing else. -/
theorem MessageId.decode?_eq_some_iff {json : Json} {id : MessageId} :
    decode? json = some id ↔ id.encode = json := by
  constructor
  · intro decoded
    unfold decode? at decoded
    split at decoded
    · cases decoded
      rfl
    · cases decoded
      rfl
    · obtain ⟨value, isNumber, rfl⟩ := Option.map_eq_some_iff.mp decoded
      obtain ⟨rfl, below⟩ := Json.natBelow?_eq_some_iff.mp isNumber
      have kept : value.toUInt64.toNat = value := Nat.mod_eq_of_lt below
      rw [encode, kept]
  · rintro rfl
    cases id with
    | null => rfl
    | name value => rfl
    | number value =>
        have below : value.toNat < Text.limit64 := value.toNat_lt
        have isNumber := Json.natBelow?_eq_some_iff.mpr ⟨(rfl : Json.nat value.toNat = _), below⟩
        change ((Json.nat value.toNat).natBelow? Text.limit64).map _ = _
        rw [isNumber]
        exact congrArg (some ∘ number) value.ofNat_toNat

theorem ResponseError.decode?_encode (error : ResponseError) :
    decode? error.encode = some error := by
  change (do return ResponseError.mk (← Json.int64? (.int error.code.toInt)) error.message) = _
  rw [Json.int64?_toInt]
  rfl

namespace Message

/-! ### What is read as a message of each kind -/

theorem decodeRequest?_eq_some_iff {json : Json} {message : Message} :
    decodeRequest? json = some message ↔
      ∃ declared id method params,
        json.fields? ["jsonrpc", "id", "method", "params"] =
            some [declared, some (MessageId.encode id), some (.string method), params] ∧
          isVersion declared = true ∧ message = .request id method (Json.optional params) := by
  constructor
  · intro decoded
    unfold decodeRequest? at decoded
    obtain ⟨fields, given, decoded⟩ := Option.bind_eq_some_iff.mp decoded
    split at decoded
    · next declared written method params =>
        split at decoded
        · next versioned =>
            obtain ⟨id, isId, named⟩ := Option.bind_eq_some_iff.mp decoded
            obtain ⟨name, isName, made⟩ := Option.bind_eq_some_iff.mp named
            cases MessageId.decode?_eq_some_iff.mp isId
            cases Json.string?_eq_some_iff.mp isName
            exact ⟨declared, id, name, params, given, versioned, (Option.some.inj made).symm⟩
        · cases decoded
    · cases decoded
  · rintro ⟨declared, id, method, params, given, versioned, rfl⟩
    have isId := MessageId.decode?_eq_some_iff.mpr (rfl : id.encode = _)
    simp [decodeRequest?, given, versioned, isId, Json.string?]

theorem decodeNotification?_eq_some_iff {json : Json} {message : Message} :
    decodeNotification? json = some message ↔
      ∃ declared method params,
        json.fields? ["jsonrpc", "method", "params"] =
            some [declared, some (.string method), params] ∧
          isVersion declared = true ∧ message = .notification method (Json.optional params) := by
  constructor
  · intro decoded
    unfold decodeNotification? at decoded
    obtain ⟨fields, given, decoded⟩ := Option.bind_eq_some_iff.mp decoded
    split at decoded
    · next declared method params =>
        split at decoded
        · next versioned =>
            obtain ⟨name, isName, made⟩ := Option.bind_eq_some_iff.mp decoded
            cases Json.string?_eq_some_iff.mp isName
            exact ⟨declared, name, params, given, versioned, (Option.some.inj made).symm⟩
        · cases decoded
    · cases decoded
  · rintro ⟨declared, method, params, given, versioned, rfl⟩
    simp [decodeNotification?, given, versioned, Json.string?]

theorem decodeResponse?_eq_some_iff {json : Json} {message : Message} :
    decodeResponse? json = some message ↔
      ∃ declared id result written error,
        json.fields? ["jsonrpc", "id", "result", "error"] =
            some [declared, some (MessageId.encode id), result, written] ∧
          isVersion declared = true ∧
          (Json.optional written).map ResponseError.decode? = error.map some ∧
          message = .response id (Json.optional result) error := by
  constructor
  · intro decoded
    unfold decodeResponse? at decoded
    obtain ⟨fields, given, decoded⟩ := Option.bind_eq_some_iff.mp decoded
    split at decoded
    · next declared idField result written =>
        split at decoded
        · next versioned =>
            obtain ⟨id, isId, answered⟩ := Option.bind_eq_some_iff.mp decoded
            cases MessageId.decode?_eq_some_iff.mp isId
            split at answered
            · next absent =>
                refine ⟨declared, id, result, written, none, given, versioned, ?_,
                  (Option.some.inj answered).symm⟩
                rw [absent]
                rfl
            · next present isPresent =>
                obtain ⟨error, isError, made⟩ := Option.bind_eq_some_iff.mp answered
                refine ⟨declared, id, result, written, some error, given, versioned, ?_,
                  (Option.some.inj made).symm⟩
                rw [isPresent, Option.map_some, isError]
                rfl
        · cases decoded
    · cases decoded
  · rintro ⟨declared, id, result, written, error, given, versioned, isError, rfl⟩
    have isId := MessageId.decode?_eq_some_iff.mpr (rfl : id.encode = _)
    cases present : Json.optional written with
    | none =>
        rw [present] at isError
        cases error with
        | none => simp [decodeResponse?, given, versioned, isId, present]
        | some error => cases isError
    | some field =>
        rw [present] at isError
        cases error with
        | none => cases isError
        | some error =>
            have decoded : ResponseError.decode? field = some error := Option.some.inj isError
            simp [decodeResponse?, given, versioned, isId, present, decoded]

/-! ### Reading what was written -/

/-- The messages in which nothing optional is there and null. -/
def Explicit : Message → Prop
  | request _ _ params => params ≠ some .null
  | notification _ params => params ≠ some .null
  | response _ result _ => result ≠ some .null

theorem explicit_of_decode? {json : Json} {message : Message}
    (decoded : decode? json = some message) : message.Explicit := by
  unfold decode? at decoded
  rcases Option.or_eq_some_iff.mp decoded with isRequest | ⟨_, decoded⟩
  · obtain ⟨_, _, _, _, _, _, rfl⟩ := decodeRequest?_eq_some_iff.mp isRequest
    exact Json.optional_ne_null _
  rcases Option.or_eq_some_iff.mp decoded with isNotification | ⟨_, isResponse⟩
  · obtain ⟨_, _, _, _, _, rfl⟩ := decodeNotification?_eq_some_iff.mp isNotification
    exact Json.optional_ne_null _
  · obtain ⟨_, _, _, _, _, _, _, _, rfl⟩ := decodeResponse?_eq_some_iff.mp isResponse
    exact Json.optional_ne_null _

theorem decode?_encode {message : Message} (explicit : message.Explicit) :
    decode? message.encode = some message := by
  cases message with
  | request id method params =>
      have isRequest : decodeRequest? (encode (.request id method params)) = _ :=
        decodeRequest?_eq_some_iff.mpr
          ⟨some (.string version), id, method, params, by cases params <;> rfl, rfl, rfl⟩
      rw [decode?, isRequest, Json.optional_of_ne explicit, Option.some_or]
  | notification method params =>
      have noRequest : decodeRequest? (encode (.notification method params)) = none := by
        cases params <;> rfl
      have isNotification : decodeNotification? (encode (.notification method params)) = _ :=
        decodeNotification?_eq_some_iff.mpr
          ⟨some (.string version), method, params, by cases params <;> rfl, rfl, rfl⟩
      rw [decode?, noRequest, isNotification, Json.optional_of_ne explicit, Option.none_or,
        Option.some_or]
  | response id result error =>
      have noRequest : decodeRequest? (encode (.response id result error)) = none := by
        cases result <;> cases error <;> rfl
      have noNotification : decodeNotification? (encode (.response id result error)) = none := by
        cases result <;> cases error <;> rfl
      have sameError : (Json.optional (error.map ResponseError.encode)).map ResponseError.decode? =
          error.map some := by
        cases error with
        | none => rfl
        | some error => exact congrArg some error.decode?_encode
      have isResponse : decodeResponse? (encode (.response id result error)) = _ :=
        decodeResponse?_eq_some_iff.mpr
          ⟨some (.string version), id, result, error.map ResponseError.encode, error,
            by cases result <;> cases error <;> rfl, rfl, sameError, rfl⟩
      rw [decode?, noRequest, noNotification, isResponse, Json.optional_of_ne explicit,
        Option.none_or, Option.none_or]

/-- A message comes back from its written form exactly if nothing in it is there and null.
Whatever was read, in any of its spellings, is such a message. -/
theorem reading_undoes_writing :
    (∀ message : Message, decode? message.encode = some message ↔ message.Explicit) ∧
      ∀ (json : Json) (message : Message), decode? json = some message →
        decode? message.encode = some message := by
  constructor
  · intro message
    exact ⟨explicit_of_decode?, decode?_encode⟩
  · intro json message decoded
    exact decode?_encode (explicit_of_decode? decoded)

/-- A response in the spelling of an array, with the version as a key; and a notification
whose parameters are null, which come back as absent. -/
theorem reading_undoes_writing_array :
    decode? (encode (.notification "exit" (some .null))) ≠
      some (.notification "exit" (some .null)) ∧
    decode? (.array [.object [("2.0", .null)], .string "+7", .bool false,
        .array [.int (-32601), .string "no"]]) =
      some (.response (.name "+7") (some (.bool false)) (some ⟨-32601, "no"⟩)) ∧
    decode? (encode (.response (.name "+7") (some (.bool false)) (some ⟨-32601, "no"⟩))) =
      some (.response (.name "+7") (some (.bool false)) (some ⟨-32601, "no"⟩)) := by
  have decoded : decode? (.array [.object [("2.0", .null)], .string "+7", .bool false,
      .array [.int (-32601), .string "no"]]) =
        some (.response (.name "+7") (some (.bool false)) (some ⟨-32601, "no"⟩)) := by
    rfl
  refine ⟨?_, decoded, reading_undoes_writing.2 _ _ decoded⟩
  intro returned
  exact (reading_undoes_writing.1 _).mp returned rfl

/-! ### An id and a method -/

theorem isVersion_of_decode? {members : List (String × Json)} {message : Message}
    (decoded : decode? (.object members) = some message) :
    isVersion (Json.member? members "jsonrpc") = true := by
  unfold decode? at decoded
  rcases Option.or_eq_some_iff.mp decoded with isRequest | ⟨_, other⟩
  · obtain ⟨_, _, _, _, given, versioned, _⟩ := decodeRequest?_eq_some_iff.mp isRequest
    exact (List.cons.inj (Option.some.inj given)).1 ▸ versioned
  rcases Option.or_eq_some_iff.mp other with isNotification | ⟨_, isResponse⟩
  · obtain ⟨_, _, _, given, versioned, _⟩ := decodeNotification?_eq_some_iff.mp isNotification
    exact (List.cons.inj (Option.some.inj given)).1 ▸ versioned
  · obtain ⟨_, _, _, _, _, given, versioned, _⟩ := decodeResponse?_eq_some_iff.mp isResponse
    exact (List.cons.inj (Option.some.inj given)).1 ▸ versioned

section

variable {members : List (String × Json)} {method : String}
  (versioned : isVersion (Json.member? members "jsonrpc") = true)
  (hasMethod : Json.member? members "method" = some (.string method))

include versioned hasMethod

theorem decode?_of_known_id {known : MessageId}
    (hasId : Json.member? members "id" = some known.encode) :
    decode? (.object members) =
      some (.request known method (Json.optional (Json.member? members "params"))) := by
  have isRequest : decodeRequest? (.object members) = _ :=
    decodeRequest?_eq_some_iff.mpr
      ⟨Json.member? members "jsonrpc", known, method, Json.member? members "params",
        by rw [← hasId, ← hasMethod]; rfl, versioned, rfl⟩
  rw [decode?, isRequest, Option.some_or]

theorem decode?_of_unknown_id
    (unknown : ∀ known : MessageId, Json.member? members "id" ≠ some known.encode) :
    decode? (.object members) =
      some (.notification method (Json.optional (Json.member? members "params"))) := by
  have noRequest : decodeRequest? (.object members) = none := by
    rw [Option.eq_none_iff_forall_ne_some]
    intro message isRequest
    obtain ⟨_, known, _, _, given, _⟩ := decodeRequest?_eq_some_iff.mp isRequest
    exact unknown known (List.cons.inj (List.cons.inj (Option.some.inj given)).2).1
  have isNotification : decodeNotification? (.object members) = _ :=
    decodeNotification?_eq_some_iff.mpr
      ⟨Json.member? members "jsonrpc", method, Json.member? members "params",
        by rw [← hasMethod]; rfl, versioned, rfl⟩
  rw [decode?, noRequest, isNotification, Option.none_or, Option.some_or]

end

/-- An object with an id and a method is refused for its version, or read as a request with
that id, or, if the id is none that a message can have, read without it. Polling then passes
the message over as if it had never been sent. -/
theorem id_kept_or_message_passed_over (members : List (String × Json)) (id : Json)
    (method : String) (hasId : Json.member? members "id" = some id)
    (hasMethod : Json.member? members "method" = some (.string method)) :
    let versioned := isVersion (Json.member? members "jsonrpc")
    let params := Json.optional (Json.member? members "params")
    let decoded := decode? (.object members)
    (versioned = false ∧ decoded = none) ∨
      (versioned = true ∧ ∃ known : MessageId, known.encode = id ∧
        decoded = some (.request known method params)) ∨
      (versioned = true ∧ (∀ known : MessageId, known.encode ≠ id) ∧
        decoded = some (.notification method params) ∧
        ∀ (connection : Connection) (rest : List Message), connection.isOpen = true →
          connection.link.inbox = .notification method params :: rest →
            connection.poll = (connection.setInbox rest).poll) := by
  intro versioned params decoded
  cases isVersioned : versioned with
  | false =>
      refine .inl ⟨rfl, ?_⟩
      rw [Option.eq_none_iff_forall_ne_some]
      intro message isDecoded
      have accepted := isVersion_of_decode? isDecoded
      change versioned = true at accepted
      rw [isVersioned] at accepted
      cases accepted
  | true =>
      by_cases isKnown : ∃ known : MessageId, known.encode = id
      · obtain ⟨known, rfl⟩ := isKnown
        exact .inr (.inl ⟨rfl, known, rfl, decode?_of_known_id isVersioned hasMethod hasId⟩)
      · have unknown : ∀ known : MessageId, known.encode ≠ id := not_exists.mp isKnown
        refine .inr (.inr ⟨rfl, unknown, ?_, ?_⟩)
        · apply decode?_of_unknown_id isVersioned hasMethod
          intro known same
          exact unknown known (Option.some.inj (same.symm.trans hasId))
        · intro connection rest isOpen isNext
          exact Connection.poll_of_quiet isOpen isNext rfl

/-- A request that is passed over: its id is negative. -/
theorem negative_id_passed_over :
    decode? (.object [("id", .int (-1)), ("method", .string "workspace/configuration")]) =
      some (.notification "workspace/configuration" none) := by
  rcases id_kept_or_message_passed_over
      [("id", .int (-1)), ("method", .string "workspace/configuration")] (.int (-1))
      "workspace/configuration" rfl rfl
    with ⟨unversioned, _⟩ | ⟨_, known, isId, _⟩ | ⟨_, _, read, _⟩
  · cases unversioned
  · cases known <;> cases isId
  · exact read

/-- Not every object with an id and a method is refused or read as a request with that id. -/
theorem id_may_be_dropped :
    ¬ ∀ (members : List (String × Json)) (id : Json) (method : String),
      Json.member? members "id" = some id →
      Json.member? members "method" = some (.string method) →
        decode? (.object members) = none ∨
          ∃ (known : MessageId) (params : Option Json), known.encode = id ∧
            decode? (.object members) = some (.request known method params) := by
  intro kept
  rcases kept [("id", .int (-1)), ("method", .string "workspace/configuration")] (.int (-1))
      "workspace/configuration" rfl rfl with refused | ⟨known, _, isId, _⟩
  · cases refused
  · cases known <;> cases isId

end Message

end SymbolJump.Server
