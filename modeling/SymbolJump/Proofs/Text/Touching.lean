/-
The identifier that touches an offset.

A run is grown from a character at the offset or right before it, to both sides
as far as identifier characters go. Whatever the character, this is the only
maximal run that touches the offset: so the same run is found from each of its
places and from its end, and it is found from its start exactly where the
test of the two boundaries accepts a stretch of identifier characters.
-/

import SymbolJump.Proofs.Text.Word

namespace SymbolJump.Text

/-- A stretch of identifier characters that neither neighbour continues. -/
structure MaximalRun (text : List Char) (span : Span) : Prop where
  nonempty : span.start < span.stop
  filled : ∀ place, span.start ≤ place → place < span.stop → identifierAt text place = true
  begins : beginsWord text span.start = true
  ends : identifierAt text span.stop = false

/-- Whether an offset lies inside a stretch or at either end of it. -/
def Span.Touches (span : Span) (offset : Nat) : Prop :=
  span.start ≤ offset ∧ offset ≤ span.stop

section

variable {text : List Char} {span : Span} {offset : Nat}

theorem beginsWord_iff :
    beginsWord text offset = true ↔ offset = 0 ∨ identifierAt text (offset - 1) = false := by
  rw [beginsWord, Bool.or_eq_true, beq_iff_eq, Bool.not_eq_true']

/-! ### Growing a run -/

theorem identifierAt_of_lt_run (inRun : offset < (text.takeWhile isIdentifierChar).length) :
    identifierAt text offset = true := by
  obtain ⟨rest, parted⟩ : text.takeWhile isIdentifierChar <+: text := List.takeWhile_prefix _
  have plain : isIdentifierChar (text.takeWhile isIdentifierChar)[offset] = true :=
    List.all_eq_true.mp List.all_takeWhile _ (List.getElem_mem inRun)
  have isChar : identifierAt (text.takeWhile isIdentifierChar) offset = true := by
    rw [identifierAt, List.getElem?_eq_getElem inRun]
    exact plain
  rw [← identifierAt_append_left inRun rest, parted] at isChar
  exact isChar

theorem identifierAt_run_end (text : List Char) :
    identifierAt text (text.takeWhile isIdentifierChar).length = false :=
  ((takeWhile_eq_iff (List.all_eq_true.mp List.all_takeWhile)).mp rfl).2

/-- Read backwards from an offset, the characters before it come in reverse. -/
theorem identifierAt_reverse_take (inText : offset ≤ text.length) {back : Nat}
    (inFront : back < offset) :
    identifierAt (text.take offset).reverse back = identifierAt text (offset - 1 - back) := by
  have whole : (text.take offset).length = offset := List.length_take_of_le inText
  unfold identifierAt
  rw [List.getElem?_reverse (by omega), whole, List.getElem?_take, if_pos (by omega)]

/-- The run around a place. -/
def runAround (text : List Char) (place : Nat) : Span :=
  { start := place - ((text.take place).reverse.takeWhile isIdentifierChar).length
    stop := place + (wordFrom text place).length }

theorem lt_stop_runAround (isChar : identifierAt text offset = true) :
    offset < (runAround text offset).stop := by
  refine Nat.lt_add_of_pos_right (Nat.pos_of_ne_zero fun isEmpty => ?_)
  have ends := identifierAt_run_end (text.drop offset)
  rw [← wordFrom, isEmpty, identifierAt_drop, Nat.add_zero, isChar] at ends
  cases ends

theorem identifierAt_runAround (inText : offset ≤ text.length) {place : Nat}
    (notBefore : (runAround text offset).start ≤ place)
    (notBehind : place < (runAround text offset).stop) : identifierAt text place = true := by
  change offset - _ ≤ place at notBefore
  change place < offset + _ at notBehind
  -- Both sides are read forwards, the front one in the reversed text.
  by_cases inFront : place < offset
  · have back : offset - 1 - (offset - 1 - place) = place := by omega
    have inRun : offset - 1 - place <
        ((text.take offset).reverse.takeWhile isIdentifierChar).length := by omega
    have isPart := identifierAt_of_lt_run inRun
    rw [identifierAt_reverse_take inText (by omega), back] at isPart
    exact isPart
  · have inRun : place - offset < ((text.drop offset).takeWhile isIdentifierChar).length := by
      change _ < (wordFrom text offset).length
      omega
    have isPart := identifierAt_of_lt_run inRun
    rw [identifierAt_drop, Nat.add_sub_cancel' (Nat.le_of_not_lt inFront)] at isPart
    exact isPart

theorem beginsWord_runAround (inText : offset ≤ text.length) :
    beginsWord text (runAround text offset).start = true := by
  rw [beginsWord_iff]
  rcases Nat.lt_or_eq_of_le (length_runBefore_le text offset) with stopped | whole
  · right
    rw [← identifierAt_run_end (text.take offset).reverse,
      identifierAt_reverse_take inText stopped]
    change identifierAt text (offset - _ - 1) = _
    rw [Nat.sub_right_comm]
  · left
    change offset - _ = 0
    omega

theorem maximalRun_runAround (isChar : identifierAt text offset = true) :
    MaximalRun text (runAround text offset) where
  nonempty := Nat.lt_of_le_of_lt (Nat.sub_le _ _) (lt_stop_runAround isChar)
  filled _ := identifierAt_runAround (Nat.le_of_lt (lt_length_of_identifierAt isChar))
  begins := beginsWord_runAround (Nat.le_of_lt (lt_length_of_identifierAt isChar))
  ends := by
    change identifierAt text (offset + (wordFrom text offset).length) = false
    rw [← identifierAt_drop]
    exact identifierAt_run_end (text.drop offset)

/-! ### Only one run touches an offset -/

namespace MaximalRun

variable (isRun : MaximalRun text span)

include isRun

theorem stop_le : span.stop ≤ text.length := by
  have last := isRun.filled (span.stop - 1) (Nat.le_sub_one_of_lt isRun.nonempty)
    (Nat.sub_one_lt_of_lt isRun.nonempty)
  have inText := lt_length_of_identifierAt last
  omega

/-- A run that reaches the start of a maximal one does not start before it. -/
theorem start_le {other : Span} (otherRun : MaximalRun text other)
    (reaches : span.start ≤ other.stop) : span.start ≤ other.start := by
  refine Nat.le_of_not_lt fun earlier => ?_
  rcases beginsWord_iff.mp isRun.begins with atFront | noChar
  · omega
  · have isChar := otherRun.filled (span.start - 1) (by omega) (by omega)
    rw [isChar] at noChar
    cases noChar

/-- A run from the same start does not go on behind a maximal one. -/
theorem stop_ge {other : Span} (otherRun : MaximalRun text other)
    (sameStart : other.start = span.start) : other.stop ≤ span.stop := by
  refine Nat.le_of_not_lt fun longer => ?_
  have nonempty := isRun.nonempty
  have isChar := otherRun.filled span.stop (by omega) longer
  rw [isRun.ends] at isChar
  cases isChar

theorem eq_of_touches {other : Span} (otherRun : MaximalRun text other)
    (touches : span.Touches offset) (otherTouches : other.Touches offset) : span = other := by
  have startsSame : span.start = other.start :=
    Nat.le_antisymm (isRun.start_le otherRun (Nat.le_trans touches.1 otherTouches.2))
      (otherRun.start_le isRun (Nat.le_trans otherTouches.1 touches.2))
  have stopsSame : span.stop = other.stop :=
    Nat.le_antisymm (otherRun.stop_ge isRun startsSame) (isRun.stop_ge otherRun startsSame.symm)
  obtain ⟨start, stop⟩ := span
  obtain ⟨otherStart, otherStop⟩ := other
  cases startsSame
  cases stopsSame
  rfl

theorem not_beginsWord_stop : ¬beginsWord text span.stop = true := by
  intro begins
  have nonempty := isRun.nonempty
  rcases beginsWord_iff.mp begins with atFront | noChar
  · omega
  · have last := isRun.filled (span.stop - 1) (by omega) (by omega)
    rw [last] at noChar
    cases noChar

/-- Of the places that a run touches, only its end is not one of its characters. -/
theorem identifierAt_iff (touches : span.Touches offset) :
    identifierAt text offset = true ↔ offset < span.stop := by
  constructor
  · intro isChar
    refine Nat.lt_of_le_of_ne touches.2 fun atEnd => ?_
    rw [atEnd, isRun.ends] at isChar
    cases isChar
  · exact isRun.filled offset touches.1

end MaximalRun

/-! ### The seed -/

theorem seedAt_eq_none_iff :
    seedAt text offset = none ↔
      identifierAt text offset = false ∧ beginsWord text offset = true := by
  unfold seedAt beginsWord
  cases identifierAt text offset with
  | true => simp
  | false => cases offset <;> simp

theorem le_of_seedAt {seed : Nat} (isSeed : seedAt text offset = some seed) :
    offset ≤ seed + 1 := by
  unfold seedAt at isSeed
  split at isSeed
  · cases isSeed
    exact Nat.le_succ _
  · split at isSeed
    · cases isSeed
      omega
    · cases isSeed

theorem identifierSpan?_eq (text : List Char) (offset : Nat) :
    identifierSpan? text offset =
      (seedAt text (min offset text.length)).map (runAround text) := rfl

theorem identifierSpan?_eq_none_iff :
    identifierSpan? text offset = none ↔
      identifierAt text (min offset text.length) = false ∧
        beginsWord text (min offset text.length) = true := by
  rw [identifierSpan?_eq, Option.map_eq_none_iff, seedAt_eq_none_iff]

theorem maximalRun_of_identifierSpan? (found : identifierSpan? text offset = some span) :
    MaximalRun text span ∧ span.Touches (min offset text.length) := by
  rw [identifierSpan?_eq] at found
  obtain ⟨seed, isSeed, rfl⟩ := Option.map_eq_some_iff.mp found
  obtain ⟨isChar, upTo⟩ := seedAt_eq_some isSeed
  have startUpTo : (runAround text seed).start ≤ seed := Nat.sub_le _ _
  exact ⟨maximalRun_runAround isChar, Nat.le_trans startUpTo upTo,
    Nat.le_trans (le_of_seedAt isSeed) (lt_stop_runAround isChar)⟩

/-- The tokenizer finds the maximal run that touches the offset. -/
theorem identifierSpan?_eq_some_iff :
    identifierSpan? text offset = some span ↔
      MaximalRun text span ∧ span.Touches (min offset text.length) := by
  refine ⟨maximalRun_of_identifierSpan?, ?_⟩
  rintro ⟨isRun, touches⟩
  cases found : identifierSpan? text offset with
  | some other =>
      obtain ⟨otherRun, otherTouches⟩ := maximalRun_of_identifierSpan? found
      rw [isRun.eq_of_touches otherRun touches otherTouches]
  | none =>
      -- Inside the run there is a character to start from, and at its end there is one before it.
      obtain ⟨notAt, begins⟩ := identifierSpan?_eq_none_iff.mp found
      rcases Nat.lt_or_eq_of_le touches.2 with inside | atEnd
      · rw [(isRun.identifierAt_iff touches).mpr inside] at notAt
        cases notAt
      · rw [atEnd] at begins
        exact absurd begins isRun.not_beginsWord_stop

/-! ### The two boundaries -/

theorem standsWhole?_of_le (inText : span.start ≤ text.length) :
    standsWhole? text span = some (standsWhole text span) := by
  unfold standsWhole? standsWhole
  by_cases atFront : span.start = 0
  · rw [if_pos atFront, atFront]
    rfl
  · have before : span.start - 1 < text.length := by omega
    have left : identifierAt text (span.start - 1) = isIdentifierChar text[span.start - 1] := by
      rw [identifierAt, List.getElem?_eq_getElem before]
      rfl
    rw [if_neg atFront, List.getElem?_eq_getElem before, Option.map_some,
      beq_eq_false_iff_ne.mpr atFront, Bool.false_or, left]

theorem standsWhole_iff :
    standsWhole text span = true ↔
      beginsWord text span.start = true ∧ identifierAt text span.stop = false := by
  unfold standsWhole
  rw [Bool.and_eq_true, Bool.not_eq_true']
  rfl

end

/-- What the tokenizer finds at an offset is the maximal run of identifier characters that
touches it: one exists unless there is no identifier character at the offset and none right
before it, it reaches behind the offset if there is one at the offset, all offsets that it
touches have the same run, and it is what the token consists of. A stretch is what is found
at its start exactly if it consists of identifier characters and the test of its two boundaries
accepts it. -/
theorem identifier_at_offset_is_maximal_run (text : List Char) (offset : Nat) :
    let place := min offset text.length
    (identifierSpan? text offset = none ↔
      identifierAt text place = false ∧ (place = 0 ∨ identifierAt text (place - 1) = false)) ∧
      (∀ span, identifierSpan? text offset = some span →
        MaximalRun text span ∧ span.stop ≤ text.length ∧ span.Touches place ∧
          (identifierAt text place = true ↔ place < span.stop) ∧
          (∀ other, span.Touches other → identifierSpan? text other = some span) ∧
          tokenAt text offset = ⟨text.extract span.start span.stop, span.start⟩ ∧
          (tokenAt text offset).stop = span.stop) ∧
      ∀ start stop, start < stop → stop ≤ text.length →
        (identifierSpan? text start = some ⟨start, stop⟩ ↔
          (∀ inside, start ≤ inside → inside < stop → identifierAt text inside = true) ∧
            standsWhole? text ⟨start, stop⟩ = some true) := by
  intro place
  refine ⟨?_, ?_, ?_⟩
  · rw [identifierSpan?_eq_none_iff, beginsWord_iff]
  · intro span found
    obtain ⟨isRun, touches⟩ := identifierSpan?_eq_some_iff.mp found
    have inText := isRun.stop_le
    have isToken : tokenAt text offset = ⟨text.extract span.start span.stop, span.start⟩ := by
      rw [tokenAt, found]
    refine ⟨isRun, inText, touches, isRun.identifierAt_iff touches, ?_, isToken, ?_⟩
    · intro other otherTouches
      have noClamp : min other text.length = other :=
        Nat.min_eq_left (Nat.le_trans otherTouches.2 inText)
      rw [identifierSpan?_eq_some_iff, noClamp]
      exact ⟨isRun, otherTouches⟩
    · have nonempty := isRun.nonempty
      rw [isToken, Token.stop, Token.length, List.length_take, List.length_drop]
      dsimp only
      omega
  · intro start stop ordered inText
    have startInText : start ≤ text.length := Nat.le_of_lt (Nat.lt_of_lt_of_le ordered inText)
    rw [identifierSpan?_eq_some_iff, Nat.min_eq_left startInText, standsWhole?_of_le startInText,
      Option.some_inj, standsWhole_iff]
    constructor
    · rintro ⟨isRun, _⟩
      exact ⟨isRun.filled, isRun.begins, isRun.ends⟩
    · rintro ⟨filled, begins, ends⟩
      exact ⟨⟨ordered, filled, begins, ends⟩, Nat.le_refl _, Nat.le_of_lt ordered⟩

end SymbolJump.Text
