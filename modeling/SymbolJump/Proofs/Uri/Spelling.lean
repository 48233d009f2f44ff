/-
The spellings of the address of a file.

A character of a name may be written by the triplets of its bytes, in digits of
either case, even where it could stand for itself. All spellings made in this
way decode to one path. They are different addresses nevertheless: the
canonical text of an address keeps its triplets, so no two spellings of one
path lead to the same document.
-/

import Mathlib.Data.List.Forall2
import SymbolJump.Proofs.Uri.Canonical
import SymbolJump.Proofs.Uri.Document

namespace SymbolJump.Uri

/-- Bytes written as triplets. -/
inductive SpellsBytes : List UInt8 → List Char → Prop where
  | nil : SpellsBytes [] []
  | cons {byte : UInt8} {high low : Char} {bytes : List UInt8} {text : List Char}
      (isByte : byteOf? high low = some byte) (later : SpellsBytes bytes text) :
      SpellsBytes (byte :: bytes) ('%' :: high :: low :: text)

/-- A name written so that it can stand in an address. -/
inductive Spells : List Char → List Char → Prop where
  | nil : Spells [] []
  | plain {c : Char} {name text : List Char} (free : inSegment c = false)
      (later : Spells name text) : Spells (c :: name) (c :: text)
  | encoded {c : Char} {name written text : List Char}
      (isBytes : SpellsBytes (String.utf8EncodeChar c) written) (later : Spells name text) :
      Spells (c :: name) (written ++ text)

/-- An address of an absolute path in which every component is spelled in some way. -/
def Respells (path : Path) (address : String) : Prop :=
  ∃ segments, List.Forall₂ Spells (path.components.drop 1) segments ∧
    address = String.ofList (fileScheme ++ Path.ofNames segments)

/-! ### What a spelling means -/

theorem SpellsBytes.decodeBytes {bytes : List UInt8} {written : List Char}
    (spelled : SpellsBytes bytes written) (rest : List Char) :
    decodeBytes (written ++ rest) = bytes ++ decodeBytes rest := by
  induction spelled with
  | nil => rfl
  | cons isByte later ih =>
      rw [List.cons_append, List.cons_append, List.cons_append, Uri.decodeBytes, isByte, ih]
      rfl

theorem Spells.decodeBytes {name text : List Char} (spelled : Spells name text)
    (rest : List Char) :
    decodeBytes (text ++ rest) = name.flatMap String.utf8EncodeChar ++ decodeBytes rest := by
  induction spelled with
  | nil => rfl
  | @plain c name text free later ih =>
      have notPercent : c ≠ '%' := by
        rintro rfl
        exact absurd free (by decide)
      rw [List.cons_append, decodeBytes_cons notPercent, ih, List.flatMap_cons, List.append_assoc]
  | encoded isBytes later ih =>
      rw [List.append_assoc, isBytes.decodeBytes, ih, List.flatMap_cons, List.append_assoc]

theorem Spells.decode? {name text : List Char} (spelled : Spells name text) :
    decode? text = some name := by
  have sameBytes := spelled.decodeBytes []
  rw [List.append_nil, Uri.decodeBytes, List.append_nil] at sameBytes
  exact decode?_of_bytes sameBytes

theorem Spells.name_inj {left right text : List Char} (isLeft : Spells left text)
    (isRight : Spells right text) : left = right :=
  Option.some_inj.mp (isLeft.decode?.symm.trans isRight.decode?)

theorem decodeBytes_writePath {names segments : List (List Char)}
    (spelled : List.Forall₂ Spells names segments) :
    decodeBytes (writePath segments) = (writePath names).flatMap String.utf8EncodeChar := by
  induction spelled with
  | nil => simp [writePath, decodeBytes]
  | cons here later ih =>
      change decodeBytes ('/' :: (_ ++ writePath _)) = _
      rw [decodeBytes_cons (by decide), here.decodeBytes, ih]
      simp [writePath]

theorem decodeBytes_ofNames {names segments : List (List Char)}
    (spelled : List.Forall₂ Spells names segments) :
    decodeBytes (Path.ofNames segments) =
      (Path.ofNames names).flatMap String.utf8EncodeChar := by
  cases spelled with
  | nil => exact decodeBytes_encode (by decide : inFilePath '%' = true) ['/']
  | cons here later => exact decodeBytes_writePath (.cons here later)

/-- All spellings of a path decode to it. -/
theorem decode?_of_respells {path : Path} {address : String} (respelled : Respells path address) :
    decode? (stripFileScheme address).toList = some (Path.ofNames (path.components.drop 1)) := by
  obtain ⟨segments, spelled, rfl⟩ := respelled
  rw [stripFileScheme_fileScheme, String.toList_ofList]
  exact decode?_of_bytes (decodeBytes_ofNames spelled)

/-! ### The spelling that a document has -/

theorem spellsBytes_triplets (bytes : List UInt8) : SpellsBytes bytes (bytes.flatMap triplet) := by
  induction bytes with
  | nil => exact .nil
  | cons byte rest ih => exact .cons (byteOf?_hexDigit byte) ih

theorem spells_encode (name : List Char) : Spells name (encode inSegment name) := by
  induction name with
  | nil => exact .nil
  | cons c rest ih =>
      change Spells _ (encodeChar inSegment c ++ encode inSegment rest)
      unfold encodeChar
      cases free : inSegment c with
      | true => exact .encoded (spellsBytes_triplets _) ih
      | false => exact .plain free ih

theorem respells_documentUri {path : Path} (absolute : path.isAbsolute = true) :
    Respells path (documentUri path) := by
  refine ⟨(path.components.drop 1).map (encode inSegment), ?_, ?_⟩
  · rw [List.forall₂_map_right_iff, List.forall₂_same]
    intro name _
    exact spells_encode name
  · rw [documentUri, ofPath, if_pos absolute]
    cases path.components.drop 1 with
    | nil => rfl
    | cons name rest =>
        change String.ofList (fileScheme ++ (name :: rest).flatMap _) =
          String.ofList (fileScheme ++ ((name :: rest).map (encode inSegment)).flatMap _)
        rw [List.flatMap_map]

/-! ### Reading leaves spellings alone -/

theorem inSegment_of_hexValue? {c : Char} {value : Nat} (isDigit : hexValue? c = some value) :
    inSegment c = false := by
  have known : ∀ code < 128, (hexValue? (Char.ofNat code)).isSome = true →
      inSegment (Char.ofNat code) = false := by
    decide
  have small : c.toNat < 128 := by
    have upTo {bound : Char} (low : bound.toNat < 128) (within : c ≤ bound) : c.toNat < 128 :=
      Nat.lt_of_le_of_lt (UInt32.le_iff_toNat_le.mp within) low
    unfold hexValue? at isDigit
    split at isDigit
    · next decimal => exact upTo (by decide) decimal.2
    · split at isDigit
      · next lower => exact upTo (by decide) lower.2
      · split at isDigit
        · next upper => exact upTo (by decide) upper.2
        · cases isDigit
  have isSome := Option.isSome_of_eq_some isDigit
  rw [← Char.ofNat_toNat c] at isSome ⊢
  exact known c.toNat small isSome

theorem SpellsBytes.chars {bytes : List UInt8} {written : List Char}
    (spelled : SpellsBytes bytes written) : ∀ c ∈ written, c = '%' ∨ inSegment c = false := by
  induction spelled with
  | nil => exact fun c absent => absurd absent List.not_mem_nil
  | @cons byte high low bytes text isByte later ih =>
      obtain ⟨highValue, isHigh, lowValue, isLow, _⟩ :
          ∃ highValue, hexValue? high = some highValue ∧
            ∃ lowValue, hexValue? low = some lowValue ∧ _ := by
        simpa only [byteOf?, Option.bind_eq_bind, Option.bind_eq_some_iff] using isByte
      iterate 3 rw [List.forall_mem_cons]
      exact ⟨.inl rfl, .inr (inSegment_of_hexValue? isHigh),
        .inr (inSegment_of_hexValue? isLow), ih⟩

theorem Spells.chars {name text : List Char} (spelled : Spells name text) :
    ∀ c ∈ text, c = '%' ∨ inSegment c = false := by
  induction spelled with
  | nil => exact fun c absent => absurd absent List.not_mem_nil
  | plain free later ih => exact List.forall_mem_cons.mpr ⟨.inr free, ih⟩
  | encoded isBytes later ih =>
      intro c member
      rcases List.mem_append.mp member with here | there
      · exact isBytes.chars c here
      · exact ih c there

theorem Spells.eq_of_no_percent {name text : List Char} (spelled : Spells name text)
    (noPercent : '%' ∉ text) : text = name := by
  induction spelled with
  | nil => rfl
  | plain free later ih => rw [ih (mt (List.mem_cons_of_mem _) noPercent)]
  | @encoded c name written text isBytes later ih =>
      -- Every character has a byte, and so the first triplet is there.
      obtain ⟨byte, bytes, someBytes⟩ :=
        List.exists_cons_of_ne_nil (String.utf8EncodeChar_ne_nil : String.utf8EncodeChar c ≠ [])
      rw [someBytes] at isBytes
      cases isBytes
      exact absurd List.mem_cons_self noPercent

theorem Spells.ne_nil {name text : List Char} (spelled : Spells name text)
    (nonempty : name ≠ []) : text ≠ [] := by
  rintro rfl
  exact nonempty (spelled.name_inj .nil)

theorem Spells.append {left right leftText rightText : List Char} (isLeft : Spells left leftText)
    (isRight : Spells right rightText) : Spells (left ++ right) (leftText ++ rightText) := by
  induction isLeft with
  | nil => exact isRight
  | plain free later ih => exact .plain free ih
  | encoded isBytes later ih =>
      rw [List.append_assoc]
      exact .encoded isBytes ih

theorem Spells.of_isSingleDot {text : List Char} (isDot : isSingleDot text = true) :
    Spells ['.'] text := by
  have encodedDot {low : Char} (isByte : byteOf? '2' low = some 0x2E) :
      Spells ['.'] ['%', '2', low] := by
    have isBytes : SpellsBytes (String.utf8EncodeChar '.') ['%', '2', low] := .cons isByte .nil
    exact .encoded isBytes .nil
  unfold isSingleDot at isDot
  have listed := List.contains_iff_mem.mp isDot
  simp only [List.mem_cons, List.not_mem_nil, or_false, ← String.toList_inj,
    String.toList_ofList] at listed
  rcases listed with rfl | rfl | rfl
  · exact .plain (by decide) .nil
  · exact encodedDot (by decide)
  · exact encodedDot (by decide)

theorem Spells.of_isDoubleDot {text : List Char} (isDots : isDoubleDot text = true) :
    Spells ['.', '.'] text := by
  -- The first of the two dots takes one character or three.
  have halves : ∃ count ∈ [1, 3], isSingleDot ((String.ofList text).toList.take count) = true ∧
      isSingleDot ((String.ofList text).toList.drop count) = true := by
    refine (?_ : ∀ written ∈ _, ∃ count ∈ [1, 3], isSingleDot (written.toList.take count) = true ∧
      isSingleDot (written.toList.drop count) = true) _ (List.contains_iff_mem.mp isDots)
    decide
  rw [String.toList_ofList] at halves
  obtain ⟨count, _, isLeft, isRight⟩ := halves
  rw [← List.take_append_drop count text]
  exact (Spells.of_isSingleDot isLeft).append (Spells.of_isSingleDot isRight)

theorem Spells.settled {name text : List Char} (spelled : Spells name text)
    (isName : Path.IsName name) (notParent : name ≠ ['.', '.']) : Settled text where
  nonempty := spelled.ne_nil isName.1
  plain := by
    intro c member
    rcases spelled.chars c member with isPercent | free
    · rw [isPercent]
      decide
    · simp only [inSegment, Bool.or_eq_false_iff] at free
      exact free.1.1.1
  whole := by
    intro c member
    rcases spelled.chars c member with isPercent | free
    · rw [isPercent]
      decide
    · simp only [inSegment, Bool.or_eq_false_iff] at free
      rw [isSeparator, free.1.1.2, free.2]
      rfl
  noDot := by
    rw [← Bool.not_eq_true]
    intro isDot
    exact isName.2.2 (spelled.name_inj (.of_isSingleDot isDot))
  noDots := by
    rw [← Bool.not_eq_true]
    intro isDots
    exact notParent (spelled.name_inj (.of_isDoubleDot isDots))

theorem settled_of_spells {names segments : List (List Char)}
    (spelled : List.Forall₂ Spells names segments)
    (ordinary : ∀ name ∈ names, Path.IsName name ∧ name ≠ ['.', '.']) :
    ∀ segment ∈ segments, Settled segment := by
  induction spelled with
  | nil => exact fun segment absent => absurd absent List.not_mem_nil
  | cons here later ih =>
      obtain ⟨⟨isName, notParent⟩, others⟩ := List.forall_mem_cons.mp ordinary
      exact List.forall_mem_cons.mpr ⟨here.settled isName notParent, ih others⟩

/-! ### One document for each spelling -/

theorem isDriveLetter_iff {segment : List Char} :
    isDriveLetter segment = true ↔
      ∃ letter mark, segment = [letter, mark] ∧ letter.isAlpha = true ∧
        (mark = ':' ∨ mark = '|') := by
  constructor
  · intro isDrive
    unfold isDriveLetter at isDrive
    split at isDrive
    · next letter mark =>
        rw [Bool.and_eq_true, Bool.or_eq_true, beq_iff_eq, beq_iff_eq] at isDrive
        exact ⟨letter, mark, rfl, isDrive⟩
    · cases isDrive
  · rintro ⟨letter, mark, rfl, isLetter, isMark⟩
    rw [isDriveLetter, isLetter, Bool.true_and, Bool.or_eq_true, beq_iff_eq, beq_iff_eq]
    exact isMark

theorem isDriveLetter_withColon (segment : List Char) :
    isDriveLetter (withColon segment) = isDriveLetter segment := by
  unfold withColon
  split
  · next isDrive =>
      rw [isDrive, isDriveLetter_iff]
      obtain ⟨letter, mark, rfl, isLetter, _⟩ := isDriveLetter_iff.mp isDrive
      exact ⟨letter, ':', rfl, isLetter, .inl rfl⟩
  · rfl

theorem no_percent_of_isDriveLetter {segment : List Char} (isDrive : isDriveLetter segment = true) :
    '%' ∉ segment := by
  obtain ⟨letter, mark, rfl, isLetter, isMark⟩ := isDriveLetter_iff.mp isDrive
  rintro member
  rcases List.mem_cons.mp member with rfl | isLast
  · exact absurd isLetter (by decide)
  · rw [← List.mem_singleton.mp isLast] at isMark
    exact absurd isMark (by decide)

theorem Spells.withColon_inj {name left right : List Char} (isLeft : Spells name left)
    (isRight : Spells name right) (same : withColon left = withColon right) : left = right := by
  have bothDrives := congrArg isDriveLetter same
  rw [isDriveLetter_withColon, isDriveLetter_withColon] at bothDrives
  cases leftDrive : isDriveLetter left with
  | true =>
      -- A drive letter has no triplets, and so there is one way only to spell it.
      have rightDrive := bothDrives.symm.trans leftDrive
      rw [isLeft.eq_of_no_percent (no_percent_of_isDriveLetter leftDrive),
        isRight.eq_of_no_percent (no_percent_of_isDriveLetter rightDrive)]
  | false =>
      have rightDrive := bothDrives.symm.trans leftDrive
      rwa [withColon, withColon, leftDrive, rightDrive] at same

theorem segments_inj {names left right : List (List Char)}
    (isLeft : List.Forall₂ Spells names left) (isRight : List.Forall₂ Spells names right)
    (ordinary : ∀ name ∈ names, Path.IsName name ∧ name ≠ ['.', '.'])
    (same : canonical? (String.ofList (fileScheme ++ Path.ofNames left)) =
      canonical? (String.ofList (fileScheme ++ Path.ofNames right))) : left = right := by
  have leftSettled := settled_of_spells isLeft ordinary
  have rightSettled := settled_of_spells isRight ordinary
  cases isLeft with
  | nil =>
      cases isRight
      rfl
  | cons leftFirst leftRest =>
      cases isRight with
      | cons rightFirst rightRest =>
          obtain ⟨sameFirst, sameRest⟩ := canonical?_settled_inj leftSettled rightSettled same
          rw [leftFirst.withColon_inj rightFirst sameFirst, sameRest]

/-- Two spellings of one path are the same document only if they are the same text. -/
theorem sameDocument_respells_iff {path : Path} (absolute : path.isAbsolute = true)
    (ordinary : ['.', '.'] ∉ path.components) {left right : String}
    (isLeft : Respells path left) (isRight : Respells path right) :
    sameDocument left right = true ↔ left = right := by
  have areNames : ∀ name ∈ path.components.drop 1, Path.IsName name ∧ name ≠ ['.', '.'] := by
    intro name member
    refine ⟨Path.isName_of_mem_components absolute member, ?_⟩
    rintro rfl
    exact ordinary (List.mem_of_mem_drop member)
  obtain ⟨leftSegments, leftSpelled, rfl⟩ := isLeft
  obtain ⟨rightSegments, rightSpelled, rfl⟩ := isRight
  constructor
  · intro same
    rcases sameDocument_iff.mp same with alike | ⟨_, sameText⟩
    · exact alike
    · rw [segments_inj leftSpelled rightSpelled areNames sameText]
  · intro alike
    exact sameDocument_iff.mpr (.inl alike)

example : sameDocument "file:///caf%C3%A9.py" "file:///caf%c3%a9.py" = false := by
  decide

end SymbolJump.Uri
