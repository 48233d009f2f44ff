/-
What the rules for Python ask of the text around a name.

A rule that ends with a keyword and white space fixes the last character before
the name that is not blank; one that begins with a keyword fixes the first ones.
The rules for assignments and loops allow a list of names before the name, and
one opening parenthesis behind that list.
-/

import SymbolJump.Definition.Python
import SymbolJump.Proofs.Pattern.Words

namespace SymbolJump.Definition

open Text Pattern

/-! ### Blanks and ink -/

/-- The text from its first character on that is not blank. -/
def inkFrom (text : List Char) : List Char :=
  text.dropWhile isBlank

/-- The last character that is not blank. -/
def lastInk? (text : List Char) : Option Char :=
  text.reverse.find? fun c => !isBlank c

section

variable {blank : List Char} (allBlank : ∀ c ∈ blank, isBlank c = true)

include allBlank

theorem inkFrom_append_of_blank (text : List Char) : inkFrom (blank ++ text) = inkFrom text :=
  List.dropWhile_append_of_pos allBlank

theorem lastInk?_append_of_blank (text : List Char) : lastInk? (text ++ blank) = lastInk? text := by
  have nothing : blank.reverse.find? (fun c => !isBlank c) = none := by
    rw [List.find?_eq_none]
    intro c member
    rw [allBlank c (List.mem_reverse.mp member)]
    decide
  unfold lastInk?
  rw [List.reverse_append, List.find?_append, nothing, Option.none_or]

end

theorem inkFrom_cons {c : Char} (isInk : isBlank c = false) (rest : List Char) :
    inkFrom (c :: rest) = c :: rest :=
  List.dropWhile_cons_of_neg (by rw [isInk]; decide)

theorem lastInk?_append_of_some {back : List Char} {c : Char} (isLast : lastInk? back = some c)
    (front : List Char) : lastInk? (front ++ back) = some c := by
  unfold lastInk? at *
  rw [List.reverse_append, List.find?_append, isLast, Option.some_or]

theorem lastInk?_cons_of_blank {blank : List Char} (allBlank : ∀ c ∈ blank, isBlank c = true)
    {c : Char} (isInk : isBlank c = false) (front : List Char) :
    lastInk? (front ++ c :: blank) = some c := by
  apply lastInk?_append_of_some
  have alone := lastInk?_append_of_blank allBlank [c]
  rw [List.singleton_append] at alone
  rw [alone, lastInk?, List.reverse_singleton, List.find?_singleton, isInk]
  rfl

/-- No character is part of words and blank. -/
theorem isBlank_of_isWordChar {c : Char} (isWord : isWordChar c = true) : isBlank c = false := by
  have inRange {ranges : Ranges} {code : Nat} (holds : ranges.holds code = true) :
      ∃ range ∈ ranges, range.1 ≤ code ∧ code ≤ range.2 := by
    induction ranges with
    | nil => cases holds
    | cons first rest ih =>
        rw [Ranges.holds] at holds
        split at holds
        · next below => exact ⟨first, List.mem_cons_self, of_decide_eq_true holds, below⟩
        · obtain ⟨range, member, bounds⟩ := ih holds
          exact ⟨range, List.mem_cons_of_mem _ member, bounds⟩
  have noWord : ∀ range ∈ blankRanges, ∀ offset ∈ List.range (range.2 + 1 - range.1),
      isWordChar (Char.ofNat (range.1 + offset)) = false := by
    decide +kernel
  rw [← Bool.not_eq_true]
  intro isBlank
  obtain ⟨range, member, above, below⟩ := inRange isBlank
  have notWord := noWord range member (c.toNat - range.1) (List.mem_range.mpr (by omega))
  rw [Nat.add_sub_of_le above, Char.ofNat_toNat, isWord] at notWord
  cases notWord

namespace Python

variable {before after : List Char}

/-! ### Keywords -/

/-- Behind a keyword and a gap, the last ink is that of the keyword. -/
theorem lastInk?_of_keyword (parts : List Pattern) {keyword : String} {c : Char}
    (isLast : lastInk? keyword.toList = some c) {front word back : List Char}
    (reads : (sequence (parts ++ [literal keyword, gap])).Reads front word back) :
    lastInk? word = some c := by
  simp only [reads_sequence_append_iff, reads_sequence_cons_cons_iff,
    reads_sequence_singleton_iff, reads_literal_iff, reads_gap_iff] at reads
  obtain ⟨lead, _, rfl, _, _, blank, rfl, rfl, _, allBlank⟩ := reads
  apply lastInk?_append_of_some
  rw [lastInk?_append_of_blank allBlank]
  exact isLast

/-- A keyword in front stands where the ink begins. -/
theorem inkFrom_of_keyword {keyword : String} {parts : List Pattern} {text : List Char}
    (isMatch : (sequence (start :: blanks :: literal keyword :: parts)).isMatch text = true) :
    ∃ rest, inkFrom text = inkFrom (keyword.toList ++ rest) := by
  obtain ⟨_, back, rfl, reads⟩ := isMatch_start_iff.mp isMatch
  simp only [reads_sequence_cons_iff, reads_blanks_iff, reads_literal_iff] at reads
  obtain ⟨blank, _, rfl, allBlank, _, rest, rfl, rfl, _⟩ := reads
  refine ⟨rest ++ back, ?_⟩
  rw [List.append_assoc, List.append_assoc, inkFrom_append_of_blank allBlank]

theorem lastInk?_of_function (accepted : functionRule.accepts before after = true) :
    lastInk? before = some 'f' := by
  have isMatch := ((Bool.and_eq_true _ _).mp accepted).1
  obtain ⟨front, word, rfl, reads⟩ := (isMatch_stop_iff [functionHead]).mp isMatch
  apply lastInk?_append_of_some
  exact lastInk?_of_keyword [start, blanks, optional (sequence [literal "async", gap])] rfl reads

theorem lastInk?_of_class (accepted : classRule.accepts before after = true) :
    lastInk? before = some 's' := by
  have isMatch := ((Bool.and_eq_true _ _).mp accepted).1
  obtain ⟨front, word, rfl, reads⟩ :=
    (isMatch_stop_iff [start, blanks, literal "class", gap]).mp isMatch
  apply lastInk?_append_of_some
  exact lastInk?_of_keyword [start, blanks] rfl reads

theorem lastInk?_of_alias (accepted : aliasRule.accepts before after = true) :
    lastInk? before = some 's' := by
  have isMatch := ((Bool.and_eq_true _ _).mp accepted).1
  obtain ⟨front, word, rfl, reads⟩ := (isMatch_stop_iff [edge, literal "as", gap]).mp isMatch
  apply lastInk?_append_of_some
  exact lastInk?_of_keyword [edge] rfl reads

theorem ink_of_parameter (accepted : parameterRule.accepts before after = true) :
    '(' ∈ before ∧
      ((∃ rest, inkFrom before = 'a' :: rest) ∨ ∃ rest, inkFrom before = 'd' :: rest) := by
  have isMatch := ((Bool.and_eq_true _ _).mp accepted).1
  obtain ⟨front, _, back, rfl, reads⟩ := (isMatch_iff _ _).mp isMatch
  simp only [reads_sequence_cons_iff, functionHead, reads_start_iff, reads_blanks_iff,
    reads_optional_iff, reads_literal_iff, reads_char_iff] at reads
  obtain ⟨_, _, rfl, ⟨_, _, rfl, ⟨rfl, rfl⟩, blank, _, rfl, allBlank, marker, _, rfl, isMarker, _,
    _, rfl, rfl, _⟩, _, _, rfl, _, _, _, rfl, _, _, _, rfl, rfl, _⟩ := reads
  constructor
  · simp
  · simp only [List.nil_append, List.append_assoc]
    rw [inkFrom_append_of_blank allBlank]
    rcases isMarker with rfl | ⟨_, _, rfl, rfl, _⟩
    · exact .inr ⟨_, rfl⟩
    · simp only [List.append_assoc]
      exact .inl ⟨_, rfl⟩

theorem ink_of_import (accepted : importRule.accepts before after = true) :
    ∃ rest, inkFrom before = 'i' :: rest := by
  obtain ⟨rest, isInk⟩ := inkFrom_of_keyword ((Bool.and_eq_true _ _).mp accepted).1
  exact ⟨_, isInk⟩

theorem ink_of_fromImport (accepted : fromImportRule.accepts before after = true) :
    ∃ rest, inkFrom before = 'f' :: 'r' :: rest := by
  obtain ⟨rest, isInk⟩ := inkFrom_of_keyword ((Bool.and_eq_true _ _).mp accepted).1
  exact ⟨_, isInk⟩

theorem ink_of_walrus (accepted : walrusRule.accepts before after = true) :
    ∃ rest, inkFrom after = ':' :: rest := by
  obtain ⟨rest, isInk⟩ := inkFrom_of_keyword ((Bool.and_eq_true _ _).mp accepted).2
  exact ⟨_, isInk⟩

/-! ### Lists of names -/

/-- A character of dotted names. -/
def isDotted (c : Char) : Bool :=
  isWordChar c || c == '.'

theorem holds_dotted_iff {c : Char} :
    (CharSet.union .word (.single '.')).holds c = true ↔ isDotted c = true := by
  simp only [CharSet.holds, isDotted, Bool.or_eq_true, beq_iff_eq, CharSet.holds_single_iff]

theorem isBlank_of_isDotted {c : Char} (dotted : isDotted c = true) : isBlank c = false := by
  rcases (Bool.or_eq_true _ _).mp dotted with isWord | isDot
  · exact isBlank_of_isWordChar isWord
  · rw [eq_of_beq isDot]
    decide

theorem reads_several_dotted_iff {front word back : List Char} :
    (several dotted).Reads front word back ↔ word ≠ [] ∧ ∀ c ∈ word, isDotted c = true := by
  simp only [dotted, reads_several_chars_iff, holds_dotted_iff]

/-- One name of a list, with a comma and white space behind. -/
theorem exists_name_of_namesBefore {front word back : List Char}
    (reads : (sequence [several dotted, blanks, char ',', blanks]).Reads front word back) :
    ∃ name blank gap, word = name ++ (blank ++ ',' :: gap) ∧ name ≠ [] ∧
      (∀ c ∈ name, isDotted c = true) ∧ (∀ c ∈ blank, isBlank c = true) ∧
      ∀ c ∈ gap, isBlank c = true := by
  simp only [reads_sequence_cons_cons_iff, reads_sequence_singleton_iff, reads_several_dotted_iff,
    reads_blanks_iff, reads_char_iff] at reads
  obtain ⟨name, _, rfl, ⟨nonempty, allDotted⟩, blank, _, rfl, allBlank, _, gap, rfl, rfl, allGap⟩ :=
    reads
  exact ⟨name, blank, gap, rfl, nonempty, allDotted, allBlank, allGap⟩

theorem no_parenthesis_of_namesBefore {front word back : List Char}
    (reads : namesBefore.Reads front word back) : ∀ c ∈ word, c ≠ '(' := by
  refine forall_mem_of_many ?_ reads
  intro front left back isName c member isOpening
  obtain ⟨name, blank, gap, rfl, _, allDotted, allBlank, allGap⟩ :=
    exists_name_of_namesBefore isName
  subst isOpening
  simp only [List.mem_append, List.mem_cons] at member
  rcases member with inName | inBlank | isComma | inGap
  · exact absurd (allDotted _ inName) (by decide)
  · exact absurd (allBlank _ inBlank) (by decide)
  · exact absurd isComma (by decide)
  · exact absurd (allGap _ inGap) (by decide)

/-- A list of names has ink only if the first ink behind its first name is a comma. -/
theorem comma_behind_first_name {blank names front back : List Char}
    (allBlank : ∀ c ∈ blank, isBlank c = true) (reads : namesBefore.Reads front names back) :
    inkFrom (blank ++ names) = [] ∨
      ∃ rest, inkFrom ((inkFrom (blank ++ names)).dropWhile isDotted) = ',' :: rest := by
  rw [inkFrom_append_of_blank allBlank]
  rcases eq_nil_or_append_of_many reads with rfl | ⟨first, others, rfl, isFirst, _⟩
  · exact .inl rfl
  · right
    obtain ⟨name, blank, gap, rfl, nonempty, allDotted, allBlank, _⟩ :=
      exists_name_of_namesBefore isFirst
    refine ⟨gap ++ others, ?_⟩
    have fromName : inkFrom (name ++ (blank ++ ',' :: gap) ++ others) =
        name ++ (blank ++ ',' :: (gap ++ others)) := by
      cases name with
      | nil => exact absurd rfl nonempty
      | cons c rest =>
          have isInk := isBlank_of_isDotted (allDotted c List.mem_cons_self)
          rw [List.cons_append, List.cons_append, inkFrom_cons isInk]
          simp
    have behindName : (blank ++ ',' :: (gap ++ others)).dropWhile isDotted =
        blank ++ ',' :: (gap ++ others) := by
      cases blank with
      | nil => exact List.dropWhile_cons_of_neg (by decide)
      | cons c rest =>
          apply List.dropWhile_cons_of_neg
          intro dotted
          have := isBlank_of_isDotted dotted
          rw [allBlank c List.mem_cons_self] at this
          cases this
    rw [fromName, List.dropWhile_append_of_pos allDotted, behindName,
      inkFrom_append_of_blank allBlank]
    exact inkFrom_cons (by decide) _

/-- What may stand between a list of names and the next name. -/
def IsOpening (opening : List Char) : Prop :=
  opening = [] ∨ ∃ blank, opening = '(' :: blank ∧ ∀ c ∈ blank, isBlank c = true

theorem reads_maybeOpen_iff {front word back : List Char} :
    maybeOpen.Reads front word back ↔ IsOpening word := by
  simp only [maybeOpen, IsOpening, reads_optional_iff, reads_sequence_cons_cons_iff,
    reads_sequence_singleton_iff, reads_char_iff, reads_blanks_iff]
  apply or_congr_right
  constructor
  · rintro ⟨_, blank, rfl, rfl, allBlank⟩
    exact ⟨blank, rfl, allBlank⟩
  · rintro ⟨blank, rfl, allBlank⟩
    exact ⟨['('], blank, rfl, rfl, allBlank⟩

/-! ### Assignments and loops -/

/-- Before an assigned name at the beginning of a line stands a list of names, then at most
one parenthesis. -/
theorem target_of_assignment (accepted : assignmentRule.accepts before after = true)
    (onlyOne : ';' ∉ before) :
    ∃ names opening, before = names ++ opening ∧ '(' ∉ names ∧ IsOpening opening ∧
      (inkFrom names = [] ∨
        ∃ rest, inkFrom ((inkFrom names).dropWhile isDotted) = ',' :: rest) := by
  have isMatch := ((Bool.and_eq_true _ _).mp accepted).1
  obtain ⟨front, _, rfl, reads⟩ :=
    (isMatch_stop_iff [start, optional (sequence [many (chars .inLine), char ';']), blanks,
      namesBefore, maybeOpen]).mp isMatch
  simp only [reads_sequence_cons_cons_iff, reads_sequence_singleton_iff, reads_start_iff,
    reads_optional_iff, reads_char_iff, reads_blanks_iff, reads_maybeOpen_iff] at reads
  obtain ⟨_, _, rfl, ⟨rfl, rfl⟩, statements, _, rfl, isStatements, blank, _, rfl, allBlank, names,
    opening, rfl, isNames, isOpening⟩ := reads
  rcases isStatements with rfl | ⟨_, _, rfl, _, rfl⟩
  · refine ⟨blank ++ names, opening, by simp, ?_, isOpening,
      comma_behind_first_name allBlank isNames⟩
    intro member
    rcases List.mem_append.mp member with inBlank | inNames
    · exact absurd (allBlank _ inBlank) (by decide)
    · exact no_parenthesis_of_namesBefore isNames _ inNames rfl
  · exact absurd (by simp) onlyOne

/-- Before a name of a loop stands the keyword, then a list of names, then at most one
parenthesis. -/
theorem target_of_for (accepted : forRule.accepts before after = true) :
    ∃ front blank gap names opening,
      before = front ++ 'f' :: 'o' :: 'r' :: blank :: (gap ++ names) ++ opening ∧
        isBlank blank = true ∧ '(' ∉ gap ++ names ∧ IsOpening opening := by
  have isMatch := ((Bool.and_eq_true _ _).mp accepted).1
  obtain ⟨front, _, rfl, reads⟩ :=
    (isMatch_stop_iff [edge, literal "for", gap, namesBefore, maybeOpen]).mp isMatch
  simp only [reads_sequence_cons_cons_iff, reads_sequence_singleton_iff, reads_edge_iff,
    reads_literal_iff, reads_gap_iff, reads_maybeOpen_iff] at reads
  obtain ⟨_, _, rfl, ⟨rfl, _⟩, _, _, rfl, rfl, gap, _, rfl, ⟨nonempty, allBlank⟩, names, opening,
    rfl, isNames, isOpening⟩ := reads
  cases gap with
  | nil => exact absurd rfl nonempty
  | cons blank gap =>
      obtain ⟨isBlank, restBlank⟩ := List.forall_mem_cons.mp allBlank
      refine ⟨front, blank, gap, names, opening, by simp, isBlank, ?_, isOpening⟩
      intro member
      rcases List.mem_append.mp member with inGap | inNames
      · exact absurd (restBlank _ inGap) (by decide)
      · exact no_parenthesis_of_namesBefore isNames _ inNames rfl

end Python

end SymbolJump.Definition
