/-
Words of a text.

A word is a maximal run of identifier characters. The tokenizer reads one
wherever it touches it, and the searches look for them line by line. Both see
the same words: no break belongs to a word, so none reaches over the end of a
line, and what a line loses before rules see it was never part of one.
-/

import Mathlib.Data.List.Basic
import SymbolJump.Proofs.Text.Caret
import SymbolJump.Text.Token

namespace SymbolJump.Text

/-- The identifier characters from an offset on, up to the first other one. -/
def wordFrom (text : List Char) (offset : Nat) : List Char :=
  (text.drop offset).takeWhile isIdentifierChar

/-- Whether no identifier character stands right before an offset. -/
def beginsWord (text : List Char) (offset : Nat) : Bool :=
  offset == 0 || !identifierAt text (offset - 1)

/-! ### Identifier characters -/

theorem isIdentifierChar_of_isLineBreak {c : Char} (isBreak : isLineBreak c = true) :
    isIdentifierChar c = false := by
  have codes : c.toNat = 0xA ∨ c.toNat = 0xB ∨ c.toNat = 0xC ∨ c.toNat = 0xD ∨ c.toNat = 0x85 ∨
      c.toNat = 0x2028 ∨ c.toNat = 0x2029 := by
    simp only [isLineBreak, Bool.or_eq_true, Bool.and_eq_true, decide_eq_true_eq,
      beq_iff_eq] at isBreak
    omega
  have isChar : c = Char.ofNat c.toNat := (Char.ofNat_toNat c).symm
  rcases codes with code | code | code | code | code | code | code <;>
    rw [isChar, code] <;> decide +kernel

theorem isIdentifierChar_of_isIdentifierStart {c : Char} (starts : isIdentifierStart c = true) :
    isIdentifierChar c = true := by
  unfold isIdentifierStart at starts
  unfold isIdentifierChar
  rw [Bool.or_eq_true] at starts
  rcases starts with letter | underscore
  · rw [letter, Bool.true_or, Bool.true_or]
  · rw [underscore, Bool.or_true]

theorem ne_nil_of_isIdentifier {name : List Char} (identifier : isIdentifier name = true) :
    name ≠ [] := by
  rintro rfl
  cases identifier

theorem isIdentifierChar_of_mem {name : List Char} (identifier : isIdentifier name = true) :
    ∀ c ∈ name, isIdentifierChar c = true := by
  cases name with
  | nil => cases identifier
  | cons first rest =>
      rw [isIdentifier, Bool.and_eq_true, List.all_eq_true] at identifier
      exact List.forall_mem_cons.mpr
        ⟨isIdentifierChar_of_isIdentifierStart identifier.1, identifier.2⟩

/-! ### Words and tokens -/

theorem identifierAt_append_left {before : List Char} {offset : Nat}
    (inside : offset < before.length) (behind : List Char) :
    identifierAt (before ++ behind) offset = identifierAt before offset := by
  unfold identifierAt
  rw [List.getElem?_append_left inside]

theorem identifierAt_drop (text : List Char) (offset further : Nat) :
    identifierAt (text.drop offset) further = identifierAt text (offset + further) := by
  unfold identifierAt
  rw [List.getElem?_drop]

theorem lt_length_of_identifierAt {text : List Char} {offset : Nat}
    (isChar : identifierAt text offset = true) : offset < text.length := by
  obtain ⟨c, found, _⟩ := (Option.any_eq_true _ _).mp isChar
  exact (List.getElem?_eq_some_iff.mp found).1

/-- A run of identifier characters that nothing continues is all that is read from its start. -/
theorem takeWhile_eq_iff {name text : List Char} (plain : ∀ c ∈ name, isIdentifierChar c = true) :
    text.takeWhile isIdentifierChar = name ↔
      name <+: text ∧ identifierAt text name.length = false := by
  have next (before behind : List Char) :
      identifierAt (before ++ behind) before.length = behind.head?.any isIdentifierChar := by
    unfold identifierAt
    rw [List.getElem?_append_right (Nat.le_refl _), Nat.sub_self, List.head?_eq_getElem?]
  constructor
  · rintro rfl
    refine ⟨List.takeWhile_prefix _, ?_⟩
    have stop := List.head?_dropWhile_not isIdentifierChar text
    have ends := next (text.takeWhile isIdentifierChar) (text.dropWhile isIdentifierChar)
    rw [List.takeWhile_append_dropWhile] at ends
    rw [ends]
    cases found : (text.dropWhile isIdentifierChar).head? with
    | none => rfl
    | some c =>
        rw [found] at stop
        exact stop
  · rintro ⟨⟨rest, rfl⟩, ends⟩
    rw [next] at ends
    rw [List.takeWhile_append_of_pos plain]
    cases rest with
    | nil => exact List.append_nil name
    | cons other rest =>
        have stops : ¬isIdentifierChar other = true := Bool.eq_false_iff.mp ends
        rw [List.takeWhile_cons_of_neg stops, List.append_nil]

theorem prefix_and_standsWhole_iff {name text : List Char} {offset : Nat}
    (plain : ∀ c ∈ name, isIdentifierChar c = true) :
    name <+: text.drop offset ∧ standsWhole text ⟨offset, offset + name.length⟩ = true ↔
      beginsWord text offset = true ∧ wordFrom text offset = name := by
  unfold wordFrom standsWhole
  rw [takeWhile_eq_iff plain, identifierAt_drop, Bool.and_eq_true, Bool.not_eq_true',
    and_left_comm]
  rfl

theorem identifierAt_of_wordFrom {text : List Char} {offset : Nat}
    (nonempty : wordFrom text offset ≠ []) : identifierAt text offset = true := by
  have first := identifierAt_drop text offset 0
  rw [Nat.add_zero] at first
  rw [← first]
  unfold wordFrom at nonempty
  cases behind : text.drop offset with
  | nil =>
      rw [behind] at nonempty
      exact absurd rfl nonempty
  | cons next others =>
      rw [behind, List.takeWhile_cons] at nonempty
      cases plain : isIdentifierChar next with
      | true => exact plain
      | false =>
          rw [plain] at nonempty
          exact absurd rfl nonempty

theorem length_runBefore_le (text : List Char) (offset : Nat) :
    ((text.take offset).reverse.takeWhile isIdentifierChar).length ≤ offset := by
  have shorter := (List.takeWhile_sublist isIdentifierChar
    (l := (text.take offset).reverse)).length_le
  rw [List.length_reverse, List.length_take] at shorter
  omega

theorem runBefore_eq_nil_iff {text : List Char} {offset : Nat} (inText : offset ≤ text.length) :
    (text.take offset).reverse.takeWhile isIdentifierChar = [] ↔ beginsWord text offset = true := by
  cases offset with
  | zero => exact ⟨fun _ => rfl, fun _ => by rw [List.take_zero]; rfl⟩
  | succ before =>
      have isChar : text[before]? = some text[before] := List.getElem?_eq_getElem inText
      have ends : beginsWord text (before + 1) = !isIdentifierChar text[before] := by
        unfold beginsWord identifierAt
        rw [Nat.add_sub_cancel, isChar]
        rfl
      rw [List.take_succ_eq_append_getElem inText, List.reverse_append, List.reverse_singleton,
        List.singleton_append, List.takeWhile_cons, ends]
      cases isIdentifierChar text[before] <;> simp

theorem seedAt_eq_some {text : List Char} {place seed : Nat} (isSeed : seedAt text place = some seed) :
    identifierAt text seed = true ∧ seed ≤ place := by
  unfold seedAt at isSeed
  split at isSeed
  · next isChar =>
      cases isSeed
      exact ⟨isChar, Nat.le_refl _⟩
  · split at isSeed
    · next isBefore =>
        cases isSeed
        rw [Bool.and_eq_true] at isBefore
        exact ⟨isBefore.2, Nat.sub_le _ _⟩
    · cases isSeed

theorem seedAt_of_identifierAt {text : List Char} {place : Nat}
    (isChar : identifierAt text place = true) : seedAt text place = some place :=
  if_pos isChar

theorem tokenAt_offset_le (text : List Char) (offset : Nat) : (tokenAt text offset).offset ≤ offset := by
  unfold tokenAt
  split
  · next span isSpan =>
      obtain ⟨seed, isSeed, rfl⟩ := Option.map_eq_some_iff.mp isSpan
      have seedBefore := (seedAt_eq_some isSeed).2
      dsimp only
      omega
  · exact Nat.min_le_left _ _

/-- The tokenizer reads a name at the very offset it was asked for exactly where the name is a
word. -/
theorem tokenAt_eq_iff {name text : List Char} {offset : Nat} (named : name ≠ []) :
    tokenAt text offset = ⟨name, offset⟩ ↔
      beginsWord text offset = true ∧ wordFrom text offset = name := by
  constructor
  · intro isToken
    unfold tokenAt at isToken
    split at isToken
    · next span isSpan =>
        obtain ⟨seed, isSeed, rfl⟩ := Option.map_eq_some_iff.mp isSpan
        obtain ⟨isChar, seedBefore⟩ := seedAt_eq_some isSeed
        injection isToken with isName isStart
        dsimp only at isName isStart
        have inText := lt_length_of_identifierAt isChar
        have runLength := length_runBefore_le text seed
        -- The run starts at the offset, so the seed, which is not behind it, is the offset.
        obtain rfl : seed = offset := by omega
        have nothingBefore : (text.take seed).reverse.takeWhile isIdentifierChar = [] :=
          List.eq_nil_of_length_eq_zero (by omega)
        refine ⟨(runBefore_eq_nil_iff (Nat.le_of_lt inText)).mp nothingBefore, ?_⟩
        rw [isStart, Nat.add_sub_cancel_left] at isName
        rw [← isName]
        exact List.prefix_iff_eq_take.mp (List.takeWhile_prefix _)
    · injection isToken with isName
      exact absurd isName.symm named
  · rintro ⟨begins, isWord⟩
    have isChar : identifierAt text offset = true :=
      identifierAt_of_wordFrom (by rw [isWord]; exact named)
    have inText := Nat.le_of_lt (lt_length_of_identifierAt isChar)
    have isSpan : identifierSpan? text offset = some ⟨offset, offset + name.length⟩ := by
      unfold identifierSpan?
      rw [Nat.min_eq_left inText, seedAt_of_identifierAt isChar, Option.map_some,
        (runBefore_eq_nil_iff inText).mpr begins]
      change some (Span.mk (offset - 0) (offset + (wordFrom text offset).length)) = _
      rw [isWord, Nat.sub_zero]
    have isPart : name <+: text.drop offset := isWord ▸ List.takeWhile_prefix _
    unfold tokenAt
    rw [isSpan]
    dsimp only
    rw [Nat.add_sub_cancel_left, ← List.prefix_iff_eq_take.mp isPart]

/-! ### Words on lines -/

theorem takeWhile_append_stop {before behind : List Char}
    (stops : ∀ c, behind.head? = some c → isIdentifierChar c = false) :
    (before ++ behind).takeWhile isIdentifierChar = before.takeWhile isIdentifierChar := by
  rw [List.takeWhile_append]
  split
  · next whole =>
      have all : before.takeWhile isIdentifierChar = before :=
        (List.takeWhile_prefix _).eq_of_length whole
      rw [all]
      cases behind with
      | nil => exact List.append_nil before
      | cons c rest =>
          have stop : ¬isIdentifierChar c = true := Bool.eq_false_iff.mp (stops c rfl)
          rw [List.takeWhile_cons_of_neg stop, List.append_nil]
  · rfl

section

variable {text line : List Char} {number column : Nat} (isLine : line? text number = some line)

include isLine

/-- A word that stands on a line is read the same in the text and in what rules see of the
line. -/
theorem wordFrom_of_line (isChar : identifierAt line column = true) :
    column < (cutLine line).length ∧
      wordFrom text (lineStart text number + column) = wordFrom (cutLine line) column := by
  have behind := drop_flatten isLine (Nat.le_of_lt (lt_length_of_identifierAt isChar))
  rw [flatten_lines] at behind
  obtain ⟨body, ending, rfl, plain, ends, followed⟩ := exists_body_ending isLine
  have noWord : ∀ c ∈ ending, isIdentifierChar c = false :=
    fun c member => isIdentifierChar_of_isLineBreak (ends.isLineBreak c member)
  have inBody : column < body.length := by
    refine Nat.lt_of_not_le fun beyond => ?_
    unfold identifierAt at isChar
    rw [List.getElem?_append_right beyond] at isChar
    obtain ⟨c, found, isPart⟩ := (Option.any_eq_true _ _).mp isChar
    rw [noWord c (List.mem_of_getElem? found)] at isPart
    cases isPart
  have isCut : cutLine (body ++ ending) = body ++ cutLine ending :=
    cutLine_append_of_plain plain ending
  have cutLonger : column < (cutLine (body ++ ending)).length := by
    rw [isCut, List.length_append]
    omega
  refine ⟨cutLonger, ?_⟩
  -- In both, what follows the body is empty or begins with a break.
  have textStops : ∀ c, (ending ++ ((lines text).drop (number + 1)).flatten).head? = some c →
      isIdentifierChar c = false := by
    intro c isNext
    cases ending with
    | nil =>
        have isLast : (lines text).drop (number + 1) = [] :=
          List.drop_eq_nil_of_le (Nat.le_of_not_lt fun more => followed more rfl)
        rw [isLast] at isNext
        cases isNext
    | cons first rest =>
        cases isNext
        exact noWord c List.mem_cons_self
  have cutStops : ∀ c, (cutLine ending).head? = some c → isIdentifierChar c = false := by
    intro c isNext
    have visible : c ∈ cutLine ending := List.mem_of_head? isNext
    exact noWord c ((List.takeWhile_sublist _).subset visible)
  have textWord : wordFrom text (lineStart text number + column) =
      (body.drop column).takeWhile isIdentifierChar := by
    change (text.drop (((lines text).take number).flatten.length + column)).takeWhile _ = _
    rw [behind, List.drop_append_of_le_length (Nat.le_of_lt inBody), List.append_assoc,
      takeWhile_append_stop textStops]
  have cutWord : wordFrom (cutLine (body ++ ending)) column =
      (body.drop column).takeWhile isIdentifierChar := by
    unfold wordFrom
    rw [isCut, List.drop_append_of_le_length (Nat.le_of_lt inBody), takeWhile_append_stop cutStops]
  rw [textWord, cutWord]

theorem identifierAt_lineStart_add (inLine : column < line.length) :
    identifierAt text (lineStart text number + column) = identifierAt line column := by
  unfold identifierAt
  rw [getElem?_lineStart_add isLine inLine]

theorem beginsWord_lineStart : beginsWord text (lineStart text number) = true := by
  cases number with
  | zero => rfl
  | succ number =>
      have followed := lt_lineCount isLine
      obtain ⟨earlier, isEarlier⟩ := exists_line (Nat.lt_of_succ_lt followed)
      have positive := length_pos_of_not_last isEarlier followed
      have inLine : earlier.length - 1 < earlier.length := by omega
      -- The character before the line is the last one of the line above, a break.
      have isBreak : identifierAt earlier (earlier.length - 1) = false := by
        obtain ⟨body, ending, rfl, _, ends, more⟩ := exists_body_ending isEarlier
        have last : (body ++ ending).getLast? = ending.getLast? :=
          List.getLast?_append_of_ne_nil body (more followed)
        unfold identifierAt
        rw [← List.getLast?_eq_getElem?, last]
        cases found : ending.getLast? with
        | none => rfl
        | some c =>
            exact isIdentifierChar_of_isLineBreak (ends.isLineBreak c (List.mem_of_getLast? found))
      have isChar := identifierAt_lineStart_add isEarlier inLine
      have isPlace : lineStart text (number + 1) - 1 =
          lineStart text number + (earlier.length - 1) := by
        rw [lineStart_succ isEarlier]
        omega
      unfold beginsWord
      rw [isPlace, isChar, isBreak, Bool.not_false, Bool.or_true]

theorem beginsWord_of_line (visible : column < (cutLine line).length) :
    beginsWord text (lineStart text number + column) = beginsWord (cutLine line) column := by
  cases column with
  | zero => exact beginsWord_lineStart isLine
  | succ before =>
      have inCut : before < (cutLine line).length := Nat.lt_of_succ_lt visible
      have inLine : before < line.length := Nat.lt_of_lt_of_le inCut (length_cutLine_le line)
      obtain ⟨hidden, parted⟩ : cutLine line <+: line := List.takeWhile_prefix _
      have sameChar : identifierAt line before = identifierAt (cutLine line) before := by
        rw [← identifierAt_append_left inCut hidden, parted]
      have isChar := identifierAt_lineStart_add isLine inLine
      unfold beginsWord
      rw [← Nat.add_assoc, Nat.add_sub_cancel, Nat.add_sub_cancel, isChar, sameChar]
      rfl

end

end SymbolJump.Text
