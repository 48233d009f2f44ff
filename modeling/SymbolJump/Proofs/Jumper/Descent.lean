/-
Jumps to definitions lead backwards.

The caret of a jumper is the number of its active cell with the offset in that
cell; a file is its only cell. A token lies at or before the caret it is read
at, its definition before the token, and the caret comes to the first character
of the definition. So a jump leads back in reading order, and the number of
characters before the caret gets smaller.
-/

import Mathlib.Algebra.GroupWithZero.Nat
import Mathlib.Data.Prod.Lex
import SymbolJump.Proofs.Jumper.AllOrNothing
import SymbolJump.Proofs.Text.Offsets
import SymbolJump.Proofs.Text.Word

namespace SymbolJump

open Text

theorem Definition.DefinedAt.offsetAt_positionAt {set : Definition.RuleSet}
    {name text : List Char} {offset : Nat}
    (place : Definition.DefinedAt set name (lines text) offset) :
    offsetAt text (positionAt text offset) = offset := by
  cases place with
  | inLine number line column isLine visible defines =>
      have inContent := length_cutLine_le_content line
      have contentInLine := length_lineContent_le line
      have inLine : column < line.length := by omega
      have back := offsetAt_positionAt_of_line isLine (Nat.le_of_lt inLine) (.inl inLine)
      rw [Nat.min_eq_left (by omega)] at back
      exact back

/-! ### Sums of lengths -/

theorem sum_take_succ {lengths : List Nat} {index length : Nat}
    (isLength : lengths[index]? = some length) :
    (lengths.take (index + 1)).sum = (lengths.take index).sum + length := by
  rw [List.take_add_one, isLength, List.sum_append]
  rfl

theorem sum_take_mono (lengths : List Nat) {earlier later : Nat} (ordered : earlier ≤ later) :
    (lengths.take earlier).sum ≤ (lengths.take later).sum := by
  have parted := congrArg List.sum (List.take_append_drop earlier (lengths.take later))
  rw [List.sum_append, List.take_take, Nat.min_eq_left ordered] at parted
  omega

theorem sum_take_le (lengths : List Nat) (index : Nat) :
    (lengths.take index).sum ≤ lengths.sum := by
  have parted := congrArg List.sum (List.take_append_drop index lengths)
  rw [List.sum_append] at parted
  omega

/-! ### Carets in reading order -/

/-- The offset of the caret in the text of its editor. -/
def Editor.caretOffset (editor : Editor) : Nat :=
  offsetAt editor.text editor.cursor

namespace Jumper

theorem editors_activeIndex (jumper : Jumper) :
    jumper.editors[jumper.activeIndex]? = jumper.activeEditor? := by
  cases jumper <;> rfl

/-- The active cell and the offset of the caret in it, in reading order. -/
def caret (jumper : Jumper) : Nat ×ₗ Nat :=
  toLex (jumper.activeIndex, (jumper.activeEditor?.map Editor.caretOffset).getD 0)

def lengths (jumper : Jumper) : List Nat :=
  jumper.editors.map (·.text.length)

def characters (jumper : Jumper) : Nat :=
  jumper.lengths.sum

/-- The number of characters before the caret, those of the cells above included. -/
def charactersBefore (jumper : Jumper) : Nat :=
  (jumper.lengths.take jumper.activeIndex).sum +
    (jumper.activeEditor?.map Editor.caretOffset).getD 0

theorem caret_of_active {jumper : Jumper} {editor : Editor}
    (isActive : jumper.activeEditor? = some editor) :
    jumper.caret = toLex (jumper.activeIndex, editor.caretOffset) := by
  rw [caret, isActive]
  rfl

theorem charactersBefore_of_active {jumper : Jumper} {editor : Editor}
    (isActive : jumper.activeEditor? = some editor) :
    jumper.charactersBefore =
        (jumper.lengths.take jumper.activeIndex).sum + editor.caretOffset ∧
      jumper.lengths[jumper.activeIndex]? = some editor.text.length := by
  constructor
  · rw [charactersBefore, isActive]
    rfl
  · rw [lengths, List.getElem?_map, editors_activeIndex, isActive]
    rfl

theorem charactersBefore_le (jumper : Jumper) : jumper.charactersBefore ≤ jumper.characters := by
  cases isActive : jumper.activeEditor? with
  | none =>
      rw [charactersBefore, isActive]
      exact sum_take_le _ _
  | some editor =>
      obtain ⟨isCount, isLength⟩ := charactersBefore_of_active isActive
      have inText : editor.caretOffset ≤ editor.text.length := offsetAt_le _ _
      have whole := sum_take_le jumper.lengths (jumper.activeIndex + 1)
      rw [sum_take_succ isLength] at whole
      rw [isCount]
      exact Nat.le_trans (Nat.add_le_add_left inText _) whole

/-! ### One jump -/

/-- What a jump leaves behind: the same surface and the same cells, the caret before a place
and on a character. -/
structure Descends (jumper after : Jumper) (place : Nat ×ₗ Nat) : Prop where
  surface : after.surface = jumper.surface
  ids : after.editors.map (·.id) = jumper.editors.map (·.id)
  lengths : after.lengths = jumper.lengths
  back : after.caret < place
  onCharacter : ∃ editor, after.activeEditor? = some editor ∧
    editor.caretOffset < editor.text.length

theorem Descends.charactersBefore_lt {jumper after : Jumper}
    (descends : Descends jumper after jumper.caret) :
    after.charactersBefore < jumper.charactersBefore := by
  obtain ⟨editor, isActive, inText⟩ := descends.onCharacter
  obtain ⟨isCount, isLength⟩ := charactersBefore_of_active isActive
  have before := descends.back
  rw [caret_of_active isActive, Jumper.caret, Prod.Lex.toLex_lt_toLex] at before
  rw [descends.lengths] at isCount isLength
  rw [isCount, charactersBefore]
  rcases before with earlierCell | ⟨sameCell, earlierOffset⟩
  · -- The whole cell of the new caret lies before the old one.
    have cellCounts := sum_take_mono jumper.lengths (Nat.succ_le_of_lt earlierCell)
    rw [Nat.succ_eq_add_one, sum_take_succ isLength] at cellCounts
    dsimp only at cellCounts
    omega
  · dsimp only at sameCell earlierOffset
    rw [sameCell]
    exact Nat.add_lt_add_left earlierOffset _

theorem map_set_of_same {β : Type} {cells : List Editor} {owner : Nat} {target changed : Editor}
    (isTarget : cells[owner]? = some target) {view : Editor → β} (same : view changed = view target) :
    (cells.set owner changed).map view = cells.map view := by
  obtain ⟨inRange, rfl⟩ := List.getElem?_eq_some_iff.mp isTarget
  have inImage : owner < (cells.map view).length := by
    rw [List.length_map]
    exact inRange
  have isImage : (cells.map view)[owner] = view changed := by
    rw [List.getElem_map, same]
  rw [List.map_set, ← isImage, List.set_getElem_self]

/-- The definition of a name that is read at the caret of a cell lies before that caret, on a
character of its cell that the caret can be put on. -/
theorem definition?_before {jumper : Jumper} {editor : Editor} {index owner : Nat} {token : Token}
    (isEditor : jumper.editors[index]? = some editor)
    (found : jumper.definition? { token := editor.tokenAtCursor, cell := some index } =
      some (owner, token)) :
    toLex (owner, token.offset) < toLex (index, editor.caretOffset) ∧
      ∃ target, jumper.editors[owner]? = some target ∧
        offsetAt target.text (positionAt target.text token.offset) = token.offset ∧
        token.offset < target.text.length := by
  have tokenBefore : editor.tokenAtCursor.offset ≤ editor.caretOffset := tokenAt_offset_le _ _
  cases jumper with
  | file jumper =>
      obtain rfl : index = 0 :=
        Nat.lt_one_iff.mp (List.getElem?_eq_some_iff.mp isEditor).1
      obtain rfl : jumper.editor = editor := Option.some.inj isEditor
      obtain ⟨_, isPlace, same⟩ := Option.map_eq_some_iff.mp found
      cases same
      obtain ⟨_, below, place⟩ := Definition.lastDefinition?_eq_some _ isPlace
      obtain ⟨belowToken, inText⟩ := Nat.lt_min.mp below
      have before := Nat.lt_of_lt_of_le belowToken tokenBefore
      exact ⟨Prod.Lex.toLex_lt_toLex.mpr (.inr ⟨rfl, before⟩), jumper.editor, rfl,
        place.offsetAt_positionAt, inText⟩
  | notebook jumper =>
      obtain ⟨_, target, start, _, isTarget, isPlace, _⟩ :=
        NotebookJumper.jumpToDefinition_of_some found .empty
      obtain ⟨_, below, place⟩ := Definition.lastDefinition?_eq_some _ isPlace
      have before : owner < index ∨ owner = index ∧ token.offset < editor.caretOffset := by
        unfold Jumper.definition? NotebookJumper.definition? at found
        dsimp only at found
        split at found
        · rcases Definition.Cells.cellByCell?_before _ found with above | ⟨own, earlier⟩
          · exact .inl above
          · exact .inr ⟨own, Nat.lt_of_lt_of_le earlier tokenBefore⟩
        · cases found
      exact ⟨Prod.Lex.toLex_lt_toLex.mpr before, target, isTarget, place.offsetAt_positionAt,
        (Nat.lt_min.mp below).2⟩

theorem descends_jumpToDefinition {jumper : Jumper} {history : History} {editor : Editor}
    {index : Nat} (isEditor : jumper.editors[index]? = some editor)
    (moved : (jumper.jumpToDefinition history
      { token := editor.tokenAtCursor, cell := some index }).1 = true) :
    Descends jumper (jumper.jumpToDefinition history
      { token := editor.tokenAtCursor, cell := some index }).2.1
      (toLex (index, editor.caretOffset)) := by
  let workplace : Workplace := ⟨jumper, history, {}⟩
  cases found : jumper.definition? { token := editor.tokenAtCursor, cell := some index } with
  | none =>
      have unmoved := congrArg Prod.fst (workplace.jumpToDefinition_of_none found)
      exact absurd (moved.symm.trans unmoved) Bool.noConfusion
  | some definition =>
      obtain ⟨owner, token⟩ := definition
      obtain ⟨before, target, isTarget, returns, inText⟩ := definition?_before isEditor found
      obtain ⟨after, jumped, effect⟩ := workplace.jumpToDefinition_of_some found
      have isAfter : (jumper.jumpToDefinition history
          { token := editor.tokenAtCursor, cell := some index }).2.1 = after.jumper :=
        congrArg (fun outcome => outcome.2.jumper) jumped
      obtain ⟨same, isSame, isSet⟩ := effect.moved
      obtain rfl : same = target := Option.some.inj (isSame.symm.trans isTarget)
      have isActive : after.jumper.activeEditor? = some
          { same with cursor := positionAt same.text token.offset, focused := true } := by
        rw [← editors_activeIndex, isSet, effect.activated]
        exact List.getElem?_set_self (List.getElem?_eq_some_iff.mp isTarget).1
      rw [isAfter]
      refine ⟨effect.sameSurface, ?_, ?_, ?_, ⟨_, isActive, ?_⟩⟩
      · rw [isSet]
        exact map_set_of_same isTarget rfl
      · rw [lengths, isSet]
        exact map_set_of_same isTarget rfl
      · rw [caret_of_active isActive, effect.activated]
        change toLex (owner, offsetAt same.text (positionAt same.text token.offset)) < _
        rw [returns]
        exact before
      · change offsetAt same.text (positionAt same.text token.offset) < same.text.length
        rw [returns]
        exact inText

end Jumper

end SymbolJump
