/-
What the named patterns read: a character, a written word, white space, an
option, a sequence, and the anchors at both ends of a text and at the edge of a
word. Rules are built from these, so their patterns can be read off word by
word.
-/

import SymbolJump.Proofs.Pattern.Meaning

namespace SymbolJump

/-! ### Sets of characters -/

theorem CharSet.holds_single_iff {c d : Char} : (single c).holds d = true ↔ d = c := by
  simp only [single, holds, Bool.and_eq_true, decide_eq_true_eq]
  constructor
  · rintro ⟨above, below⟩
    have sameCode : d.toNat = c.toNat := Nat.le_antisymm below above
    rw [← Char.ofNat_toNat d, sameCode, Char.ofNat_toNat]
  · rintro rfl
    exact ⟨Nat.le_refl _, Nat.le_refl _⟩

theorem CharSet.holds_foldl_union_iff {c : Char} (sets : List CharSet) (first : CharSet) :
    (sets.foldl union first).holds c = true ↔
      first.holds c = true ∨ ∃ set ∈ sets, set.holds c = true := by
  induction sets generalizing first with
  | nil => simp
  | cons set rest ih => simp [ih, holds, or_assoc]

theorem CharSet.holds_listed_iff {characters : String} {c : Char} :
    (listed characters).holds c = true ↔ c ∈ characters.toList := by
  unfold listed
  cases characters.toList with
  | nil =>
      simp only [List.map_nil, anyOf, nothing, holds, Bool.and_eq_true, decide_eq_true_eq,
        List.not_mem_nil, iff_false]
      omega
  | cons first rest =>
      rw [List.map_cons, anyOf, holds_foldl_union_iff, holds_single_iff, List.mem_cons]
      apply or_congr_right
      constructor
      · rintro ⟨set, member, isSet⟩
        obtain ⟨other, isOther, rfl⟩ := List.mem_map.mp member
        rw [holds_single_iff.mp isSet]
        exact isOther
      · intro member
        exact ⟨single c, List.mem_map_of_mem member, holds_single_iff.mpr rfl⟩

namespace Pattern

variable {before word after : List Char}

/-! ### One part behind the other -/

theorem Reading.andThen_empty (reading : Reading) : reading.andThen empty.Reads = reading := by
  funext before word after
  apply propext
  constructor
  · rintro ⟨left, right, rfl, reads, isEmpty⟩
    obtain rfl : right = [] := isEmpty
    simpa using reads
  · intro reads
    exact ⟨word, [], by simp, reads, rfl⟩

theorem Reading.empty_andThen (reading : Reading) : empty.Reads.andThen reading = reading := by
  funext before word after
  apply propext
  constructor
  · rintro ⟨left, right, rfl, isEmpty, reads⟩
    obtain rfl : left = [] := isEmpty
    simpa using reads
  · intro reads
    exact ⟨[], word, rfl, rfl, by simpa using reads⟩

theorem Reading.andThen_assoc (first second third : Reading) :
    (first.andThen second).andThen third = first.andThen (second.andThen third) := by
  funext before word after
  apply propext
  constructor
  · rintro ⟨_, right, rfl, ⟨left, middle, rfl, isFirst, isSecond⟩, isThird⟩
    rw [← List.append_assoc] at isThird
    exact ⟨left, middle ++ right, by simp, by simpa using isFirst, middle, right, rfl, isSecond,
      isThird⟩
  · rintro ⟨left, _, rfl, isFirst, middle, right, rfl, isSecond, isThird⟩
    rw [List.append_assoc] at isFirst isThird
    exact ⟨left ++ middle, right, by simp, ⟨left, middle, rfl, isFirst, isSecond⟩, isThird⟩

theorem reads_foldl_seq (parts : List Pattern) (first : Pattern) :
    (parts.foldl seq first).Reads = first.Reads.andThen (sequence parts).Reads := by
  induction parts generalizing first with
  | nil => exact (Reading.andThen_empty _).symm
  | cons next rest ih =>
      rw [List.foldl_cons, ih, sequence, ih]
      exact Reading.andThen_assoc _ _ _

theorem reads_sequence_cons_iff {first : Pattern} {rest : List Pattern} :
    (sequence (first :: rest)).Reads before word after ↔
      ∃ left right, word = left ++ right ∧ first.Reads before left (right ++ after) ∧
        (sequence rest).Reads (before ++ left) right after := by
  rw [sequence, reads_foldl_seq]
  rfl

theorem reads_sequence_nil_iff : (sequence []).Reads before word after ↔ word = [] :=
  Iff.rfl

theorem reads_sequence_singleton_iff {last : Pattern} :
    (sequence [last]).Reads before word after ↔ last.Reads before word after :=
  Iff.rfl

/-- The form that leaves the last part of a sequence as it is. -/
theorem reads_sequence_cons_cons_iff {first next : Pattern} {rest : List Pattern} :
    (sequence (first :: next :: rest)).Reads before word after ↔
      ∃ left right, word = left ++ right ∧ first.Reads before left (right ++ after) ∧
        (sequence (next :: rest)).Reads (before ++ left) right after :=
  reads_sequence_cons_iff

theorem reads_sequence_append_iff {first second : List Pattern} :
    (sequence (first ++ second)).Reads before word after ↔
      ∃ left right, word = left ++ right ∧ (sequence first).Reads before left (right ++ after) ∧
        (sequence second).Reads (before ++ left) right after := by
  have together : (sequence (first ++ second)).Reads =
      (sequence first).Reads.andThen (sequence second).Reads := by
    cases first with
    | nil => exact (Reading.empty_andThen _).symm
    | cons head rest =>
        rw [List.cons_append, sequence, List.foldl_append, reads_foldl_seq]
        rfl
  rw [together]
  rfl

theorem reads_sequence_cons {first : Pattern} {rest : List Pattern} (left : List Char)
    {right : List Char} (isFirst : first.Reads before left (right ++ after))
    (others : (sequence rest).Reads (before ++ left) right after) :
    (sequence (first :: rest)).Reads before (left ++ right) after :=
  reads_sequence_cons_iff.mpr ⟨left, right, rfl, isFirst, others⟩

/-! ### Characters and written words -/

theorem reads_char_iff {c : Char} : (char c).Reads before word after ↔ word = [c] := by
  simp only [char, Reads, CharSet.holds_single_iff]
  constructor
  · rintro ⟨_, isWord, rfl⟩
    exact isWord
  · intro isWord
    exact ⟨c, isWord, rfl⟩

theorem reads_noneOf_iff {characters : String} :
    (noneOf characters).Reads before word after ↔ ∃ c, word = [c] ∧ c ∉ characters.toList := by
  simp only [noneOf, Reads, CharSet.holds, Bool.not_eq_true', ← Bool.not_eq_true,
    CharSet.holds_listed_iff]

theorem reads_literal_iff {text : String} :
    (literal text).Reads before word after ↔ word = text.toList := by
  unfold literal
  induction text.toList generalizing before word with
  | nil => exact reads_sequence_nil_iff
  | cons c rest ih =>
      rw [List.map_cons, reads_sequence_cons_iff]
      constructor
      · rintro ⟨left, right, rfl, isChar, others⟩
        rw [reads_char_iff.mp isChar, ih.mp others]
        rfl
      · rintro rfl
        exact ⟨[c], rest, rfl, reads_char_iff.mpr rfl, ih.mpr rfl⟩

/-! ### Options and repetitions -/

theorem reads_optional_iff {body : Pattern} :
    (optional body).Reads before word after ↔ word = [] ∨ body.Reads before word after := by
  have once : body.Reads.times 1 = body.Reads := Reading.andThen_empty _
  constructor
  · rintro ⟨count, _, bound, reads⟩
    have atMost : count ≤ 1 := bound 1 rfl
    obtain rfl | rfl : count = 0 ∨ count = 1 := by omega
    · exact .inl reads
    · rw [once] at reads
      exact .inr reads
  · rintro (isEmpty | reads)
    · exact ⟨0, by simp, by simp, isEmpty⟩
    · refine ⟨1, Nat.zero_le 1, by simp, ?_⟩
      rw [once]
      exact reads

theorem reads_many_iff {body : Pattern} :
    (many body).Reads before word after ↔ ∃ count, body.Reads.times count before word after := by
  constructor
  · rintro ⟨count, _, _, reads⟩
    exact ⟨count, reads⟩
  · rintro ⟨count, reads⟩
    exact ⟨count, Nat.zero_le _, fun _ impossible => (by cases impossible), reads⟩

theorem reads_many_nil {body : Pattern} : (many body).Reads before [] after :=
  reads_many_iff.mpr ⟨0, rfl⟩

theorem reads_many_append {body : Pattern} {left right : List Char}
    (first : body.Reads before left (right ++ after))
    (others : (many body).Reads (before ++ left) right after) :
    (many body).Reads before (left ++ right) after := by
  obtain ⟨count, reads⟩ := reads_many_iff.mp others
  exact reads_many_iff.mpr ⟨count + 1, left, right, rfl, first, reads⟩

theorem eq_nil_or_append_of_many {body : Pattern} (reads : (many body).Reads before word after) :
    word = [] ∨ ∃ left right, word = left ++ right ∧ body.Reads before left (right ++ after) ∧
      (many body).Reads (before ++ left) right after := by
  obtain ⟨count, rounds⟩ := reads_many_iff.mp reads
  cases count with
  | zero => exact .inl rounds
  | succ count =>
      obtain ⟨left, right, isWord, first, others⟩ := rounds
      exact .inr ⟨left, right, isWord, first, reads_many_iff.mpr ⟨count, others⟩⟩

/-- What holds of every character of one round holds of every character of many. -/
theorem forall_mem_of_many {body : Pattern} {holds : Char → Prop}
    (each : ∀ before left after, body.Reads before left after → ∀ c ∈ left, holds c)
    (reads : (many body).Reads before word after) : ∀ c ∈ word, holds c := by
  obtain ⟨count, rounds⟩ := reads_many_iff.mp reads
  induction count generalizing before word with
  | zero =>
      obtain rfl : word = [] := rounds
      simp
  | succ count ih =>
      obtain ⟨left, right, rfl, first, others⟩ := rounds
      intro c member
      rcases List.mem_append.mp member with inLeft | inRight
      · exact each before left (right ++ after) first c inLeft
      · exact ih (reads_many_iff.mpr ⟨count, others⟩) others c inRight

theorem times_chars_iff {set : CharSet} {count : Nat} :
    (chars set).Reads.times count before word after ↔
      word.length = count ∧ ∀ c ∈ word, set.holds c = true := by
  induction count generalizing before word with
  | zero =>
      rw [List.length_eq_zero_iff]
      constructor
      · intro isEmpty
        obtain rfl : word = [] := isEmpty
        simp
      · intro both
        exact both.1
  | succ count ih =>
      constructor
      · rintro ⟨_, right, rfl, ⟨c, rfl, member⟩, others⟩
        obtain ⟨rfl, members⟩ := ih.mp others
        exact ⟨by simp, List.forall_mem_cons.mpr ⟨member, members⟩⟩
      · rintro ⟨length, members⟩
        cases word with
        | nil => cases length
        | cons c rest =>
            obtain ⟨member, others⟩ := List.forall_mem_cons.mp members
            exact ⟨[c], rest, rfl, ⟨c, rfl, member⟩, ih.mpr ⟨Nat.succ.inj length, others⟩⟩

theorem reads_many_chars_iff {set : CharSet} :
    (many (chars set)).Reads before word after ↔ ∀ c ∈ word, set.holds c = true := by
  rw [reads_many_iff]
  simp only [times_chars_iff, exists_and_right]
  exact and_iff_right ⟨word.length, rfl⟩

theorem reads_several_chars_iff {set : CharSet} :
    (several (chars set)).Reads before word after ↔
      word ≠ [] ∧ ∀ c ∈ word, set.holds c = true := by
  constructor
  · rintro ⟨count, enough, _, reads⟩
    obtain ⟨length, members⟩ := times_chars_iff.mp reads
    refine ⟨?_, members⟩
    rintro rfl
    rw [List.length_nil] at length
    omega
  · rintro ⟨nonempty, members⟩
    exact ⟨word.length, List.length_pos_iff.mpr nonempty, fun _ impossible => (by cases impossible),
      times_chars_iff.mpr ⟨rfl, members⟩⟩

theorem reads_blanks_iff :
    blanks.Reads before word after ↔ ∀ c ∈ word, Text.isBlank c = true :=
  reads_many_chars_iff

theorem reads_gap_iff :
    gap.Reads before word after ↔ word ≠ [] ∧ ∀ c ∈ word, Text.isBlank c = true :=
  reads_several_chars_iff

/-! ### Anchors -/

theorem reads_start_iff : start.Reads before word after ↔ word = [] ∧ before = [] := by
  apply and_congr_right
  intro _
  simp [Anchor.holdsBetween]

/-- A pattern that begins at the beginning is matched by a first part of the text. -/
theorem isMatch_start_iff {parts : List Pattern} {text : List Char} :
    (sequence (start :: parts)).isMatch text = true ↔
      ∃ word after, text = word ++ after ∧ (sequence parts).Reads [] word after := by
  simp only [isMatch_iff, reads_sequence_cons_iff, reads_start_iff]
  constructor
  · rintro ⟨before, _, after, rfl, _, word, rfl, ⟨rfl, rfl⟩, reads⟩
    exact ⟨word, after, rfl, reads⟩
  · rintro ⟨word, after, rfl, reads⟩
    exact ⟨[], word, after, rfl, [], word, rfl, ⟨rfl, rfl⟩, reads⟩

theorem reads_stop_iff : stop.Reads before word after ↔ word = [] ∧ after = [] := by
  apply and_congr_right
  intro _
  simp [Anchor.holdsBetween]

/-- A pattern that ends at the end is matched by a last part of the text. -/
theorem isMatch_stop_iff (parts : List Pattern) {text : List Char} :
    (sequence (parts ++ [stop])).isMatch text = true ↔
      ∃ before word, text = before ++ word ∧ (sequence parts).Reads before word [] := by
  simp only [isMatch_iff, reads_sequence_append_iff, reads_sequence_singleton_iff, reads_stop_iff]
  constructor
  · rintro ⟨before, _, _, rfl, word, _, rfl, reads, rfl, rfl⟩
    exact ⟨before, word, by simp, reads⟩
  · rintro ⟨before, word, rfl, reads⟩
    exact ⟨before, word, [], by simp, word, [], by simp, reads, rfl, rfl⟩

theorem reads_edge_iff :
    edge.Reads before word after ↔
      word = [] ∧ before.getLast?.any Text.isWordChar ≠ after.head?.any Text.isWordChar := by
  apply and_congr_right
  intro _
  simp [Anchor.holdsBetween]

end Pattern

end SymbolJump
