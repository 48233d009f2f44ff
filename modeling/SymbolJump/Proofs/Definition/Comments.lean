/-
Comments on a line.

A comment begins where the token stands and the text before it is made of plain
characters and whole strings. The scan for comments reads every character once
with the state of a reader of strings, and finds exactly these places. What
follows on the line cannot take a comment back, and no definition is found
inside one.
-/

import SymbolJump.Proofs.Definition.Search
import SymbolJump.Proofs.Text.Caret

namespace SymbolJump.Definition

open Text

/-! ### Whole strings -/

/-- What may stand between two equal quotation marks. -/
inductive StringBody (mark : Char) : List Char → Prop where
  | nil : StringBody mark []
  | plain {c : Char} {rest : List Char} (notEscape : c ≠ '\\') (notMark : c ≠ mark)
      (others : StringBody mark rest) : StringBody mark (c :: rest)
  | escape {c : Char} {rest : List Char} (others : StringBody mark rest) :
      StringBody mark ('\\' :: c :: rest)

/-- Texts in which no string is left open. -/
inductive WholeStrings : List Char → Prop where
  | nil : WholeStrings []
  | plain {c : Char} {rest : List Char} (notMark : ¬(c = '"' ∨ c = '\''))
      (others : WholeStrings rest) : WholeStrings (c :: rest)
  | string {mark : Char} {body rest : List Char} (isMark : mark = '"' ∨ mark = '\'')
      (isBody : StringBody mark body) (others : WholeStrings rest) :
      WholeStrings (mark :: (body ++ mark :: rest))

theorem StringBody.foldl_read {mark : Char} {body : List Char} (isBody : StringBody mark body) :
    body.foldl Quoting.read (.inside mark) = .inside mark := by
  induction isBody with
  | nil => rfl
  | plain notEscape notMark _ ih =>
      rw [List.foldl_cons, Quoting.read, if_neg notEscape, if_neg notMark]
      exact ih
  | escape _ ih =>
      rw [List.foldl_cons, List.foldl_cons, Quoting.read, if_pos rfl, Quoting.read]
      exact ih

theorem WholeStrings.foldl_read {text : List Char} (whole : WholeStrings text) :
    text.foldl Quoting.read .outside = .outside := by
  induction whole with
  | nil => rfl
  | plain notMark _ ih =>
      rw [List.foldl_cons, Quoting.read, if_neg notMark]
      exact ih
  | @string mark body rest isMark isBody _ ih =>
      have notEscape : mark ≠ '\\' := by
        rcases isMark with rfl | rfl <;> decide
      rw [List.foldl_cons, Quoting.read, if_pos isMark, List.foldl_append, isBody.foldl_read,
        List.foldl_cons, Quoting.read, if_neg notEscape, if_pos rfl]
      exact ih

/-- A string that is closed later on has a body, and what follows its mark is read outside. -/
theorem exists_body {mark : Char} {text : List Char}
    (closes : text.foldl Quoting.read (.inside mark) = .outside) :
    ∃ body rest, text = body ++ mark :: rest ∧ StringBody mark body ∧
      rest.foldl Quoting.read .outside = .outside := by
  -- An escape takes two characters at once, hence the induction on the length.
  induction length : text.length using Nat.strongRecOn generalizing text with
  | ind size ih =>
      cases text with
      | nil => cases closes
      | cons c rest =>
          rw [List.foldl_cons, Quoting.read] at closes
          rw [List.length_cons] at length
          split at closes
          · next isEscape =>
              cases rest with
              | nil => cases closes
              | cons escaped others =>
                  rw [List.foldl_cons, Quoting.read] at closes
                  rw [List.length_cons] at length
                  obtain ⟨body, behind, rfl, isBody, outside⟩ := ih _ (by omega) closes rfl
                  rw [isEscape]
                  exact ⟨'\\' :: escaped :: body, behind, rfl, .escape isBody, outside⟩
          · next notEscape =>
              split at closes
              · next isMark =>
                  rw [isMark]
                  exact ⟨[], rest, rfl, .nil, closes⟩
              · next notMark =>
                  obtain ⟨body, behind, rfl, isBody, outside⟩ := ih _ (by omega) closes rfl
                  exact ⟨c :: body, behind, rfl, .plain notEscape notMark isBody, outside⟩

theorem foldl_read_eq_outside_iff {text : List Char} :
    text.foldl Quoting.read .outside = .outside ↔ WholeStrings text := by
  constructor
  · intro closes
    induction length : text.length using Nat.strongRecOn generalizing text with
    | ind size ih =>
        cases text with
        | nil => exact .nil
        | cons c rest =>
            rw [List.foldl_cons, Quoting.read] at closes
            rw [List.length_cons] at length
            split at closes
            · next isMark =>
                obtain ⟨body, behind, rfl, isBody, outside⟩ := exists_body closes
                rw [List.length_append, List.length_cons] at length
                exact .string isMark isBody (ih _ (by omega) outside rfl)
            · next notMark => exact .plain notMark (ih _ (by omega) closes rfl)
  · exact WholeStrings.foldl_read

/-! ### The scan -/

/-- The token begins at a character that is read outside of strings. -/
def InComment (token before : List Char) : Prop :=
  ∃ read rest, before = read ++ rest ∧ rest ≠ [] ∧ token <+: rest ∧
    read.foldl Quoting.read .outside = .outside

theorem commentIn_iff (token : List Char) (quoting : Quoting) (text : List Char) :
    commentIn token quoting text = true ↔
      ∃ read rest, text = read ++ rest ∧ rest ≠ [] ∧ token <+: rest ∧
        read.foldl Quoting.read quoting = .outside := by
  induction text generalizing quoting with
  | nil =>
      constructor
      · intro impossible
        cases impossible
      · rintro ⟨read, rest, isText, nonempty, _⟩
        exact absurd (List.append_eq_nil_iff.mp isText.symm).2 nonempty
  | cons c text ih =>
      rw [commentIn, Bool.or_eq_true, Bool.and_eq_true, decide_eq_true_eq,
        List.isPrefixOf_iff_prefix, ih]
      constructor
      · rintro (⟨rfl, begins⟩ | ⟨read, rest, rfl, nonempty, begins, outside⟩)
        · exact ⟨[], c :: text, rfl, List.cons_ne_nil _ _, begins, rfl⟩
        · exact ⟨c :: read, rest, rfl, nonempty, begins, outside⟩
      · rintro ⟨read, rest, isText, nonempty, begins, outside⟩
        cases read with
        | nil =>
            rw [List.nil_append] at isText
            rw [isText]
            exact .inl ⟨outside, begins⟩
        | cons first read =>
            obtain ⟨rfl, rfl⟩ := List.cons.inj isText
            exact .inr ⟨read, rest, rfl, nonempty, begins, outside⟩

theorem isCommented_iff {set : RuleSet} {token : List Char}
    (isToken : set.lineComment = some token) (before : List Char) :
    set.isCommented before = true ↔ InComment token before := by
  unfold RuleSet.isCommented
  rw [isToken]
  exact commentIn_iff token .outside before

theorem InComment.append {token before : List Char} (inComment : InComment token before)
    (more : List Char) : InComment token (before ++ more) := by
  obtain ⟨read, rest, rfl, nonempty, begins, outside⟩ := inComment
  refine ⟨read, rest ++ more, List.append_assoc _ _ _, ?_, ?_, outside⟩
  · intro isEmpty
    exact nonempty (List.append_eq_nil_iff.mp isEmpty).1
  · exact begins.trans (List.prefix_append _ _)

/-! ### No definition in a comment -/

/-- What stands before an offset on its line. -/
def lineUpTo (text : List Char) (offset : Nat) : List Char :=
  (text.take offset).drop (lineStart text (positionAt text offset).line)

theorem lineUpTo_of_line {text line : List Char} {number column : Nat}
    (isLine : line? text number = some line) (visible : column < (cutLine line).length) :
    lineUpTo text (lineStart text number + column) = (cutLine line).take column := by
  have inLine : column < line.length := Nat.lt_of_lt_of_le visible (length_cutLine_le line)
  have isPlace : positionAt text (lineStart text number + column) = ⟨number, column⟩ :=
    positionAt_lineStart isLine (Nat.le_of_lt inLine) (.inl inLine)
  have behind := drop_flatten isLine (Nat.zero_le line.length)
  rw [flatten_lines, Nat.add_zero, List.drop_zero] at behind
  obtain ⟨hidden, parted⟩ : cutLine line <+: line := List.takeWhile_prefix _
  unfold lineUpTo
  rw [isPlace, List.drop_take, Nat.add_sub_cancel_left]
  change (text.drop ((lines text).take number).flatten.length).take column = _
  rw [behind, List.take_append_of_le_length (Nat.le_of_lt inLine)]
  calc
    line.take column = (cutLine line ++ hidden).take column := by rw [parted]
    _ = (cutLine line).take column := List.take_append_of_le_length (Nat.le_of_lt visible)

theorem isCommented_lineUpTo_of_definedAt {set : RuleSet} {name text : List Char} {offset : Nat}
    (place : DefinedAt set name (lines text) offset) :
    set.isCommented (lineUpTo text offset) = false := by
  obtain ⟨number, line, column, isLine, visible, defines⟩ := place
  have accepted := (Bool.and_eq_true _ _ ▸ defines).2
  rw [← Bool.not_eq_true]
  intro isCommented
  change set.isCommented (lineUpTo text (lineStart text number + column)) = true at isCommented
  rw [lineUpTo_of_line isLine visible] at isCommented
  rw [RuleSet.definitionRule?, if_pos isCommented] at accepted
  cases accepted

/-- In a language with a comment token, the text before an occurrence is commented exactly if
it can be parted in two, so that the second part is not empty and begins with the token, and
the first, read character by character, leaves no string open. More text does not change that,
and the search reports no occurrence that is commented on its line. -/
theorem comment_is_token_outside_strings (set : RuleSet) (token : List Char)
    (isToken : set.lineComment = some token) :
    (∀ before, set.isCommented before = true ↔
      ∃ read rest, before = read ++ rest ∧ rest ≠ [] ∧ token <+: rest ∧
        read.foldl Quoting.read .outside = .outside) ∧
      (∀ read, read.foldl Quoting.read .outside = .outside ↔ WholeStrings read) ∧
      (∀ before more, set.isCommented before = true → set.isCommented (before ++ more) = true) ∧
      ∀ text name start found, lastDefinition? set text name start = some found →
        ¬InComment token (lineUpTo text found.offset) := by
  refine ⟨isCommented_iff isToken, fun _ => foldl_read_eq_outside_iff, ?_, ?_⟩
  · intro before more isCommented
    rw [isCommented_iff isToken] at isCommented ⊢
    exact isCommented.append more
  · intro text name start found isFound inComment
    obtain ⟨_, _, place⟩ := lastDefinition?_eq_some set isFound
    have notCommented := isCommented_lineUpTo_of_definedAt place
    rw [(isCommented_iff isToken _).mpr inComment] at notCommented
    cases notCommented

/-- The token may begin with a quotation mark. The search passes over the last occurrence,
which is commented, and stops at one behind a string with the token in it. -/
theorem comment_is_token_outside_strings_of_two_characters :
    (⟨"", some "'/".toList, [{ name := "any" }]⟩ : RuleSet).lineComment = some "'/".toList ∧
      (⟨"", some "'/".toList, [{ name := "any" }]⟩ : RuleSet).isCommented
        ("\"\\\"'/\" x '/ ".toList ++ ['\'']) = true ∧
      WholeStrings "\"\\\"'/\" x ".toList ∧
      lastDefinition? ⟨"", some "'/".toList, [{ name := "any" }]⟩ "\"\\\"'/\" x '/ x".toList
        ⟨['x'], 12⟩ 12 = some ⟨['x'], 7⟩ ∧
      ¬InComment "'/".toList (lineUpTo "\"\\\"'/\" x '/ x".toList 7) := by
  have isToken : (⟨"", some "'/".toList, [{ name := "any" }]⟩ : RuleSet).lineComment =
      some "'/".toList := rfl
  have found : lastDefinition? ⟨"", some "'/".toList, [{ name := "any" }]⟩
      "\"\\\"'/\" x '/ x".toList ⟨['x'], 12⟩ 12 = some ⟨['x'], 7⟩ := by decide
  obtain ⟨_, strings, longer, search⟩ := comment_is_token_outside_strings _ _ isToken
  refine ⟨isToken, longer _ _ (by decide), (strings _).mp (by decide), found, ?_⟩
  exact search _ _ _ _ found

end SymbolJump.Definition
