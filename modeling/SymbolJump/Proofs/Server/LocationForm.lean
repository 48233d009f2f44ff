/-
The written form of locations.

What a JSON value says as a number, a position, a range, a location or a link
is one relation for each, and what can be wrong with it another: it is no record
of the fields it should have, or one of them is missing or wrong in itself. The
readers decide both relations, record by record, so that a list is read exactly
when nothing is wrong in any of its items, and item by item.
-/

import Mathlib.Data.List.Forall2
import SymbolJump.Server.Location

namespace SymbolJump

/-! ### Records -/

namespace Json

/-- What is wrong with a field that has to be there. -/
def RequiredFault (faulty : Json → Prop) (field : Option Json) : Prop :=
  ∀ json, field = some json → faulty json

/-- What is wrong with a field that may be left out. -/
def OptionalFault (faulty : Json → Prop) (field : Option Json) : Prop :=
  ∃ json, optional field = some json ∧ faulty json

/-- No record of these fields, or one with something wrong in a field. -/
def FaultyRecord (faults : List (String × (Option Json → Prop))) (json : Json) : Prop :=
  ∀ fields, json.fields? (faults.map Prod.fst) = some fields →
    ∃ entry ∈ (faults.map Prod.snd).zip fields, entry.1 entry.2

theorem requiredFault_iff {α : Type} {read : Json → Option α} {faulty : Json → Prop}
    (fails : ∀ json, read json = none ↔ faulty json) (field : Option Json) :
    field.bind read = none ↔ RequiredFault faulty field := by
  rw [Option.bind_eq_none_iff]
  exact forall₂_congr fun json _ => fails json

section

variable {faults : List (String × (Option Json → Prop))} {names : List String} {json : Json}
  (isNames : faults.map Prod.fst = names)

include isNames

theorem faultyRecord_iff {fields : List (Option Json)} (given : json.fields? names = some fields) :
    FaultyRecord faults json ↔ ∃ entry ∈ (faults.map Prod.snd).zip fields, entry.1 entry.2 := by
  unfold FaultyRecord
  rw [isNames, given]
  constructor
  · intro faulty
    exact faulty fields rfl
  · rintro faulty _ ⟨⟩
    exact faulty

theorem faultyRecord_of_no_record (noRecord : json.fields? names = none) :
    FaultyRecord faults json := by
  intro fields given
  rw [isNames, noRecord] at given
  cases given

end

theorem length_of_fields? {json : Json} {names : List String} {fields : List (Option Json)}
    (given : json.fields? names = some fields) : fields.length = names.length := by
  cases json with
  | object members =>
      cases given
      exact List.length_map _
  | array items =>
      rw [fields?, Option.ite_none_right_eq_some] at given
      obtain ⟨sameLength, same⟩ := given
      cases same
      rw [List.length_map, sameLength]
  | _ => cases given

/-- Reads a record of two fields that have to be there. -/
def readPair? {α β γ : Type} (first second : String) (readFirst : Json → Option α)
    (readSecond : Json → Option β) (make : α → β → γ) (json : Json) : Option γ := do
  match ← json.fields? [first, second] with
  | [some one, some other] => return make (← readFirst one) (← readSecond other)
  | _ => none

section

variable {α β γ : Type} {first second : String} {readFirst : Json → Option α}
  {readSecond : Json → Option β} {make : α → β → γ} {json : Json}

theorem readPair?_eq_some_iff {value : γ} :
    readPair? first second readFirst readSecond make json = some value ↔
      ∃ one other left right, json.fields? [first, second] = some [some one, some other] ∧
        readFirst one = some left ∧ readSecond other = some right ∧ value = make left right := by
  constructor
  · intro isRead
    obtain ⟨fields, given, isRead⟩ := Option.bind_eq_some_iff.mp isRead
    split at isRead
    · next one other =>
        obtain ⟨left, isLeft, isRead⟩ := Option.bind_eq_some_iff.mp isRead
        obtain ⟨right, isRight, made⟩ := Option.bind_eq_some_iff.mp isRead
        exact ⟨one, other, left, right, given, isLeft, isRight, (Option.some.inj made).symm⟩
    · cases isRead
  · rintro ⟨one, other, left, right, given, isLeft, isRight, rfl⟩
    simp [readPair?, given, isLeft, isRight]

theorem readPair?_of_given {one other : Option Json}
    (given : json.fields? [first, second] = some [one, other]) :
    readPair? first second readFirst readSecond make json =
      (one.bind readFirst).bind fun left => (other.bind readSecond).bind fun right =>
        some (make left right) := by
  rw [readPair?, given]
  cases one with
  | none => rfl
  | some one =>
      cases other with
      | none => cases isLeft : readFirst one <;> simp [isLeft]
      | some other => rfl

theorem readPair?_eq_none_iff {faultyFirst faultySecond : Json → Prop}
    (firstFails : ∀ json, readFirst json = none ↔ faultyFirst json)
    (secondFails : ∀ json, readSecond json = none ↔ faultySecond json) :
    readPair? first second readFirst readSecond make json = none ↔
      FaultyRecord [(first, RequiredFault faultyFirst), (second, RequiredFault faultySecond)]
        json := by
  cases given : json.fields? [first, second] with
  | none =>
      rw [readPair?, given]
      exact iff_of_true rfl (faultyRecord_of_no_record rfl given)
  | some fields =>
      obtain ⟨one, other, rfl⟩ := List.length_eq_two.mp (length_of_fields? given)
      refine Iff.trans ?_ (faultyRecord_iff (by rfl) given).symm
      rw [readPair?_of_given given]
      simp only [List.map_cons, List.map_nil, List.zip_cons_cons, List.zip_nil_right,
        List.mem_cons, List.not_mem_nil, or_false, exists_eq_or_imp, exists_eq_left]
      rw [← requiredFault_iff firstFails, ← requiredFault_iff secondFails]
      cases one.bind readFirst <;> cases other.bind readSecond <;> simp

end

end Json

namespace Server

open Json Text

/-! ### Numbers and positions -/

/-- No whole number, or one that is out of range. -/
inductive FaultyNumber : Json → Prop where
  | noNumber {json : Json} (noInteger : ∀ value, json ≠ .int value)
      (noFraction : ∀ mantissa exponent, json ≠ .decimal mantissa exponent) : FaultyNumber json
  | fraction (mantissa exponent : Int) : FaultyNumber (.decimal mantissa exponent)
  | negative {value : Int} (isNegative : value < 0) : FaultyNumber (.int value)
  | tooLarge {value : Int} (large : (limit32 : Int) ≤ value) : FaultyNumber (.int value)

theorem decodeNumber?_eq_some_iff {json : Json} {value : UInt32} :
    decodeNumber? json = some value ↔ json = .nat value.toNat := by
  constructor
  · intro isRead
    obtain ⟨number, isNumber, rfl⟩ := Option.map_eq_some_iff.mp isRead
    obtain ⟨rfl, below⟩ := natBelow?_eq_some_iff.mp isNumber
    have kept : number.toUInt32.toNat = number := Nat.mod_eq_of_lt below
    rw [kept]
  · rintro rfl
    have below : value.toNat < limit32 := value.toNat_lt
    have isNumber := natBelow?_eq_some_iff.mpr ⟨(rfl : Json.nat value.toNat = _), below⟩
    rw [decodeNumber?, isNumber]
    exact congrArg some value.ofNat_toNat

theorem decodeNumber?_eq_none_iff {json : Json} : decodeNumber? json = none ↔ FaultyNumber json := by
  constructor
  · intro unread
    cases json with
    | int value =>
        by_cases negative : value < 0
        · exact .negative negative
        · obtain ⟨number, rfl⟩ := Int.eq_ofNat_of_zero_le (Int.not_lt.mp negative)
          refine .tooLarge (Int.not_lt.mp fun below => ?_)
          have inRange : number < limit32 := Int.ofNat_lt.mp below
          have isNumber := natBelow?_eq_some_iff.mpr ⟨(rfl : Json.nat number = _), inRange⟩
          exact Option.some_ne_none _ (isNumber.symm.trans (Option.map_eq_none_iff.mp unread))
    | decimal mantissa exponent => exact .fraction mantissa exponent
    | _ => exact .noNumber (fun _ => Json.noConfusion) (fun _ _ => Json.noConfusion)
  · intro faulty
    rw [Option.eq_none_iff_forall_ne_some]
    intro value isRead
    obtain rfl := decodeNumber?_eq_some_iff.mp isRead
    cases faulty with
    | noNumber noInteger _ => exact noInteger _ rfl
    | negative isNegative => exact absurd isNegative (Int.not_lt.mpr (Int.natCast_nonneg _))
    | tooLarge large => exact absurd large (Int.not_le.mpr (Int.ofNat_lt.mpr value.toNat_lt))

def SpellsPosition (json : Json) (position : ServerPosition) : Prop :=
  json.fields? ["line", "character"] =
    some [some (.nat position.line.toNat), some (.nat position.character.toNat)]

def FaultyPosition : Json → Prop :=
  FaultyRecord [("line", RequiredFault FaultyNumber), ("character", RequiredFault FaultyNumber)]

theorem decodePosition?_eq :
    decodePosition? = readPair? "line" "character" decodeNumber? decodeNumber? ServerPosition.mk :=
  rfl

theorem decodePosition?_eq_some_iff {json : Json} {position : ServerPosition} :
    decodePosition? json = some position ↔ SpellsPosition json position := by
  rw [decodePosition?_eq, readPair?_eq_some_iff]
  constructor
  · rintro ⟨_, _, line, character, given, isLine, isCharacter, rfl⟩
    cases decodeNumber?_eq_some_iff.mp isLine
    cases decodeNumber?_eq_some_iff.mp isCharacter
    exact given
  · intro given
    exact ⟨_, _, _, _, given, decodeNumber?_eq_some_iff.mpr rfl, decodeNumber?_eq_some_iff.mpr rfl,
      rfl⟩

theorem decodePosition?_eq_none_iff {json : Json} :
    decodePosition? json = none ↔ FaultyPosition json := by
  rw [decodePosition?_eq]
  exact readPair?_eq_none_iff (fun _ => decodeNumber?_eq_none_iff)
    fun _ => decodeNumber?_eq_none_iff

/-! ### Ranges -/

namespace Range

def Spells (json : Json) (range : Range) : Prop :=
  ∃ start stop, json.fields? ["start", "end"] = some [some start, some stop] ∧
    SpellsPosition start range.start ∧ SpellsPosition stop range.stop

def Faulty : Json → Prop :=
  FaultyRecord [("start", RequiredFault FaultyPosition), ("end", RequiredFault FaultyPosition)]

theorem decode?_eq :
    decode? = readPair? "start" "end" decodePosition? decodePosition? Range.mk :=
  rfl

theorem decode?_eq_some_iff {json : Json} {range : Range} :
    decode? json = some range ↔ Spells json range := by
  rw [decode?_eq, readPair?_eq_some_iff]
  constructor
  · rintro ⟨start, stop, _, _, given, isStart, isStop, rfl⟩
    exact ⟨start, stop, given, decodePosition?_eq_some_iff.mp isStart,
      decodePosition?_eq_some_iff.mp isStop⟩
  · rintro ⟨start, stop, given, isStart, isStop⟩
    exact ⟨start, stop, _, _, given, decodePosition?_eq_some_iff.mpr isStart,
      decodePosition?_eq_some_iff.mpr isStop, rfl⟩

theorem decode?_eq_none_iff {json : Json} : decode? json = none ↔ Faulty json := by
  rw [decode?_eq]
  exact readPair?_eq_none_iff (fun _ => decodePosition?_eq_none_iff)
    fun _ => decodePosition?_eq_none_iff

theorem spells_encode (range : Range) : Spells range.encode range :=
  ⟨_, _, rfl, rfl, rfl⟩

end Range

/-! ### Locations and links -/

def FaultyText (json : Json) : Prop :=
  ∀ text, json ≠ .string text

theorem string?_eq_none_iff {json : Json} : json.string? = none ↔ FaultyText json := by
  rw [Option.eq_none_iff_forall_ne_some]
  exact forall_congr' fun text => not_congr Json.string?_eq_some_iff

namespace Location

/-- A location written plainly. -/
def Spells (json : Json) (location : Location) : Prop :=
  ∃ range, json.fields? ["uri", "range"] = some [some (.string location.uri), some range] ∧
    Range.Spells range location.range

def Faulty : Json → Prop :=
  FaultyRecord [("uri", RequiredFault FaultyText), ("range", RequiredFault Range.Faulty)]

/-- A location written as a link. The range of the whole target is there in any case, and
counts where no narrower one is given. -/
def SpellsLink (json : Json) (location : Location) : Prop :=
  ∃ selection target whole,
    json.fields? ["targetUri", "targetSelectionRange", "targetRange"] =
      some [some (.string location.uri), selection, some target] ∧
    Range.Spells target whole ∧
    ((Json.optional selection = none ∧ location.range = whole) ∨
      ∃ narrow, Json.optional selection = some narrow ∧ Range.Spells narrow location.range)

def FaultyLink : Json → Prop :=
  FaultyRecord [("targetUri", RequiredFault FaultyText),
    ("targetSelectionRange", OptionalFault Range.Faulty),
    ("targetRange", RequiredFault Range.Faulty)]

theorem decode?_eq : decode? = readPair? "uri" "range" Json.string? Range.decode? Location.mk :=
  rfl

theorem decode?_eq_some_iff {json : Json} {location : Location} :
    decode? json = some location ↔ Spells json location := by
  rw [decode?_eq, readPair?_eq_some_iff]
  constructor
  · rintro ⟨_, range, _, _, given, isUri, isRange, rfl⟩
    cases Json.string?_eq_some_iff.mp isUri
    exact ⟨range, given, Range.decode?_eq_some_iff.mp isRange⟩
  · rintro ⟨range, given, isRange⟩
    exact ⟨_, range, _, _, given, rfl, Range.decode?_eq_some_iff.mpr isRange, rfl⟩

theorem decode?_eq_none_iff {json : Json} : decode? json = none ↔ Faulty json := by
  rw [decode?_eq]
  exact readPair?_eq_none_iff (fun _ => string?_eq_none_iff) fun _ => Range.decode?_eq_none_iff

theorem decodeLink?_eq_some_iff {json : Json} {location : Location} :
    decodeLink? json = some location ↔ SpellsLink json location := by
  constructor
  · intro isRead
    obtain ⟨fields, given, named⟩ := Option.bind_eq_some_iff.mp isRead
    split at named
    · next uri selection target =>
        obtain ⟨text, isUri, ranged⟩ := Option.bind_eq_some_iff.mp named
        obtain ⟨whole, isWhole, narrowed⟩ := Option.bind_eq_some_iff.mp ranged
        cases Json.string?_eq_some_iff.mp isUri
        have spellsWhole := Range.decode?_eq_some_iff.mp isWhole
        split at narrowed
        · next absent =>
            obtain rfl := Option.some.inj narrowed
            exact ⟨selection, target, whole, given, spellsWhole, .inl ⟨absent, rfl⟩⟩
        · next narrow present =>
            obtain ⟨range, isNarrow, made⟩ := Option.bind_eq_some_iff.mp narrowed
            obtain rfl := Option.some.inj made
            exact ⟨selection, target, whole, given, spellsWhole,
              .inr ⟨narrow, present, Range.decode?_eq_some_iff.mp isNarrow⟩⟩
    · cases named
  · rintro ⟨selection, target, whole, given, spellsWhole, narrowed⟩
    have isWhole := Range.decode?_eq_some_iff.mpr spellsWhole
    rcases narrowed with ⟨absent, isRange⟩ | ⟨narrow, present, spellsNarrow⟩
    · simp [decodeLink?, given, Json.string?, isWhole, absent, ← isRange]
    · have isNarrow := Range.decode?_eq_some_iff.mpr spellsNarrow
      simp [decodeLink?, given, Json.string?, isWhole, present, isNarrow]

theorem decodeLink?_of_given {json : Json} {uri selection target : Option Json}
    (given : json.fields? ["targetUri", "targetSelectionRange", "targetRange"] =
      some [uri, selection, target]) :
    decodeLink? json =
      (uri.bind Json.string?).bind fun text => (target.bind Range.decode?).bind fun whole =>
        match Json.optional selection with
        | none => some ⟨text, whole⟩
        | some narrow => (Range.decode? narrow).bind fun range => some ⟨text, range⟩ := by
  rw [decodeLink?, given]
  cases uri with
  | none => rfl
  | some uri =>
      cases target with
      | none => cases isUri : uri.string? <;> simp [isUri]
      | some target => rfl

theorem decodeLink?_eq_none_iff {json : Json} : decodeLink? json = none ↔ FaultyLink json := by
  cases given : json.fields? ["targetUri", "targetSelectionRange", "targetRange"] with
  | none =>
      rw [decodeLink?, given]
      exact iff_of_true rfl (faultyRecord_of_no_record (by rfl) given)
  | some fields =>
      obtain ⟨uri, selection, target, rfl⟩ := List.length_eq_three.mp (length_of_fields? given)
      refine Iff.trans ?_ (faultyRecord_iff (by rfl) given).symm
      simp only [List.map_cons, List.map_nil, List.zip_cons_cons, List.zip_nil_right,
        List.mem_cons, List.not_mem_nil, or_false, exists_eq_or_imp, exists_eq_left]
      rw [← requiredFault_iff (fun _ => string?_eq_none_iff),
        ← requiredFault_iff (fun _ => Range.decode?_eq_none_iff), OptionalFault,
        decodeLink?_of_given given]
      simp only [← Range.decode?_eq_none_iff]
      cases uri.bind Json.string? with
      | none => simp
      | some text =>
          cases target.bind Range.decode? with
          | none => simp
          | some whole =>
              cases Json.optional selection with
              | none => simp
              | some narrow => cases isNarrow : Range.decode? narrow <;> simp [isNarrow]

/-! ### Lists of locations -/

theorem mapM_eq_some_iff {read : Json → Option Location} {items : List Json}
    {locations : List Location} :
    items.mapM read = some locations ↔
      List.Forall₂ (fun item location => read item = some location) items locations := by
  induction items generalizing locations with
  | nil => simp [eq_comm]
  | cons item rest ih =>
      rw [List.mapM_cons, List.forall₂_cons_left_iff]
      constructor
      · intro isRead
        obtain ⟨location, isFirst, others⟩ := Option.bind_eq_some_iff.mp isRead
        obtain ⟨later, isRest, made⟩ := Option.bind_eq_some_iff.mp others
        exact ⟨location, later, isFirst, ih.mp isRest, (Option.some.inj made).symm⟩
      · rintro ⟨location, later, isFirst, isRest, rfl⟩
        simp [isFirst, ih.mpr isRest]

theorem mapM_eq_none_iff {read : Json → Option Location} {items : List Json} :
    items.mapM read = none ↔ ∃ item ∈ items, read item = none := by
  induction items with
  | nil => simp
  | cons item rest ih =>
      rw [List.mapM_cons, List.exists_mem_cons_iff, ← ih]
      cases read item with
      | none => simp
      | some location => cases rest.mapM read <;> simp

/-- What is read from a list: all items, or nothing if one of them is faulty. -/
structure AllOrNothing (spells : Json → Location → Prop) (faulty : Json → Prop)
    (items : List Json) (answer : Except LocationError (List Location)) : Prop where
  whole : ∀ locations, answer = .ok locations ↔ List.Forall₂ spells items locations
  nothing : answer = .error .undecodable ↔ ∃ item ∈ items, faulty item
  noShape : answer ≠ .error .shape

theorem allOrNothing_of_read {spells : Json → Location → Prop} {faulty : Json → Prop}
    {read : Json → Option Location}
    (reads : ∀ {json location}, read json = some location ↔ spells json location)
    (fails : ∀ {json}, read json = none ↔ faulty json) (items : List Json) :
    AllOrNothing spells faulty items
      (match items.mapM read with
      | some locations => .ok locations
      | none => .error .undecodable) := by
  have wholeIff (locations : List Location) :
      items.mapM read = some locations ↔ List.Forall₂ spells items locations := by
    simp only [mapM_eq_some_iff, reads]
  have nothingIff : items.mapM read = none ↔ ∃ item ∈ items, faulty item := by
    simp only [mapM_eq_none_iff, fails]
  constructor
  · intro locations
    rw [← wholeIff]
    cases items.mapM read <;> simp
  · rw [← nothingIff]
    cases items.mapM read <;> simp
  · cases items.mapM read <;> simp

theorem decodeAll_array (items : List Json) :
    if items.head?.any isLink then
      AllOrNothing SpellsLink FaultyLink items (decodeAll (some (.array items)))
    else AllOrNothing Spells Faulty items (decodeAll (some (.array items))) := by
  simp only [decodeAll]
  split
  · exact allOrNothing_of_read decodeLink?_eq_some_iff decodeLink?_eq_none_iff items
  · exact allOrNothing_of_read decode?_eq_some_iff decode?_eq_none_iff items

/-- The written form of a link, with the range of the whole target beside the narrower one if
there are two. -/
def encodeLink (location : Location) : Option Range → Json
  | none => .object [("targetUri", .string location.uri), ("targetRange", location.range.encode)]
  | some whole =>
      .object [("targetUri", .string location.uri), ("targetRange", whole.encode),
        ("targetSelectionRange", location.range.encode)]

theorem spells_encode (location : Location) : Spells location.encode location :=
  ⟨_, rfl, location.range.spells_encode⟩

theorem spellsLink_encodeLink (location : Location) (whole : Option Range) :
    SpellsLink (location.encodeLink whole) location := by
  cases whole with
  | none => exact ⟨none, _, _, rfl, location.range.spells_encode, .inl ⟨rfl, rfl⟩⟩
  | some whole =>
      exact ⟨_, _, _, rfl, whole.spells_encode,
        .inr ⟨_, rfl, location.range.spells_encode⟩⟩

theorem isLink_encodeLink (location : Location) (whole : Option Range) :
    isLink (location.encodeLink whole) = true := by
  cases whole <;> rfl

theorem decodeAll_encode (locations : List Location) :
    decodeAll (some (.array (locations.map encode))) = .ok locations := by
  have read := decodeAll_array (locations.map encode)
  have plain : (locations.map encode).head?.any isLink = false := by
    cases locations <;> rfl
  rw [plain, if_neg Bool.false_ne_true] at read
  refine (read.whole locations).mpr ?_
  rw [List.forall₂_map_left_iff, List.forall₂_same]
  exact fun location _ => location.spells_encode

theorem decodeAll_encodeLink (links : List (Location × Option Range)) :
    decodeAll (some (.array (links.map fun link => link.1.encodeLink link.2))) =
      .ok (links.map Prod.fst) := by
  cases links with
  | nil => rfl
  | cons first rest =>
      have read := decodeAll_array ((first :: rest).map fun link => link.1.encodeLink link.2)
      have linked : ((first :: rest).map fun link => link.1.encodeLink link.2).head?.any isLink =
          true := isLink_encodeLink first.1 first.2
      rw [if_pos linked] at read
      refine (read.whole _).mpr ?_
      rw [List.forall₂_map_left_iff, List.forall₂_map_right_iff,
        List.forall₂_same]
      exact fun link _ => spellsLink_encodeLink link.1 link.2

/-- Locations come back from their written form, plain or as links, with or without a narrower
range. Of a list every item is read, in order and in the form of the first, or nothing is,
because an item has a fault in that form. Nothing at all is the empty list, and a value that is
neither an object nor a list has no shape that could be read. -/
theorem locations_read_whole_or_not_at_all :
    (∀ locations : List Location,
      decodeAll (some (.array (locations.map encode))) = .ok locations) ∧
    (∀ links : List (Location × Option Range),
      decodeAll (some (.array (links.map fun link => link.1.encodeLink link.2))) =
        .ok (links.map Prod.fst)) ∧
    (∀ items : List Json,
      if items.head?.any isLink then
        AllOrNothing SpellsLink FaultyLink items (decodeAll (some (.array items)))
      else AllOrNothing Spells Faulty items (decodeAll (some (.array items)))) ∧
    decodeAll none = .ok [] ∧ decodeAll (some .null) = .ok [] ∧
    ∀ value : Json, value ≠ .null → (∀ items, value ≠ .array items) →
      (∀ members, value ≠ .object members) → decodeAll (some value) = .error .shape := by
  refine ⟨decodeAll_encode, decodeAll_encodeLink, decodeAll_array, rfl, rfl, ?_⟩
  intro value notNull noArray noObject
  cases value with
  | null => exact absurd rfl notNull
  | array items => exact absurd rfl (noArray items)
  | object members => exact absurd rfl (noObject members)
  | _ => rfl

/-- A link with a plain location behind it, which names its document under another key; and a
truth value in place of a list. -/
theorem locations_read_whole_or_not_at_all_of_mixed_forms :
    decodeAll (some (.array
        [encodeLink ⟨"file:///a.py", ⟨⟨1, 4⟩, ⟨1, 7⟩⟩⟩ none,
          encode ⟨"file:///a.py", ⟨⟨1, 4⟩, ⟨1, 7⟩⟩⟩])) = .error .undecodable ∧
      decodeAll (some (.bool true)) = .error .shape := by
  obtain ⟨_, _, ofList, _, _, ofOther⟩ := locations_read_whole_or_not_at_all
  constructor
  · have read := ofList [encodeLink ⟨"file:///a.py", ⟨⟨1, 4⟩, ⟨1, 7⟩⟩⟩ none,
      encode ⟨"file:///a.py", ⟨⟨1, 4⟩, ⟨1, 7⟩⟩⟩]
    rw [if_pos (by rfl)] at read
    refine read.nothing.mpr ⟨_, List.mem_cons_of_mem _ (List.mem_singleton_self _), ?_⟩
    intro fields given
    obtain rfl := Option.some.inj given
    exact ⟨_, List.mem_cons_self, fun json missing => absurd missing.symm (Option.some_ne_none json)⟩
  · exact ofOther _ (fun same => Json.noConfusion same) (fun _ same => Json.noConfusion same)
      (fun _ same => Json.noConfusion same)

end Location

end Server

end SymbolJump
