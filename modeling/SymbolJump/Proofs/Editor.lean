/-
Editors in use.

An editor is opened with its caret at the start of the text and from then on
changes only by its own operations, each of which leaves the caret at rest.
Every jump, of a file as of a notebook cell, ends with an editor arriving at a
destination.
-/

import SymbolJump.Editor
import SymbolJump.Jump.Destination
import SymbolJump.Proofs.Text.Caret

namespace SymbolJump

open Text

namespace Editor

/-- The editors that can be met in use. -/
inductive Reachable : Editor → Prop where
  | opened (id : String) (text : List Char) (contentType : String) (metrics : Metrics) :
      Reachable { id := id, text := text, contentType := contentType, metrics := metrics }
  | setCursor {editor : Editor} (position : Position) :
      Reachable editor → Reachable (editor.setCursor position)
  | setText {editor : Editor} (text : List Char) :
      Reachable editor → Reachable (editor.setText text)
  | setContentType {editor : Editor} (contentType : String) :
      Reachable editor → Reachable (editor.setContentType contentType)
  | focus {editor : Editor} : Reachable editor → Reachable editor.focus
  | blur {editor : Editor} : Reachable editor → Reachable editor.blur

theorem Reachable.rests {editor : Editor} (reachable : Reachable editor) :
    Rests editor.text editor.cursor := by
  induction reachable with
  | opened id text contentType metrics => exact rests_zero text
  | setCursor position _ _ => exact rests_clamp _ position
  | setText text _ _ => exact rests_clamp text _
  | setContentType contentType _ ih => exact ih
  | focus _ ih => exact ih
  | blur _ ih => exact ih

/-! ### Arriving -/

/-- What a jump does to the editor it leads to. -/
def arrive (editor : Editor) (destination : Destination) : Editor :=
  (editor.setCursor (destination.caret editor.text)).focus

theorem arrive_eq_of_caret {editor : Editor} {destination : Destination} {position : Position}
    (isCaret : clamp editor.text (destination.caret editor.text) = position) :
    editor.arrive destination = { editor with cursor := position, focused := true } := by
  rw [← isCaret]
  rfl

end Editor

end SymbolJump
