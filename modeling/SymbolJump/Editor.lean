/-
Text editors as far as navigation sees them: a text, a caret that always lies
in it, the focus, and the metrics that turn a point of the screen into a
position.
-/

import SymbolJump.Text.Token

namespace SymbolJump

open Text

/-- A point on the screen. -/
structure Point where
  left : Float32
  top : Float32
  deriving Repr

/-- Where an editor lies on the screen and how large its characters are. -/
structure Metrics where
  origin : Point := ⟨0, 0⟩
  charWidth : Float32 := 8
  lineHeight : Float32 := 16
  deriving Repr

structure Editor where
  id : String
  text : List Char
  contentType : String
  cursor : Position := .zero
  focused : Bool := false
  metrics : Metrics := {}
  deriving Repr

namespace Editor

/-- Moves the caret to the nearest place in the text. -/
def setCursor (editor : Editor) (position : Position) : Editor :=
  { editor with cursor := clamp editor.text position }

/-- Replaces the text; the caret stays as near as it can. -/
def setText (editor : Editor) (text : List Char) : Editor :=
  { editor with text := text, cursor := clamp text editor.cursor }

def setContentType (editor : Editor) (contentType : String) : Editor :=
  { editor with contentType := contentType }

def focus (editor : Editor) : Editor :=
  { editor with focused := true }

def blur (editor : Editor) : Editor :=
  { editor with focused := false }

/-- The position under a point, if it falls on a line of the text. Right of a line's end
the end is meant. -/
def positionUnder? (editor : Editor) (point : Point) : Option Position :=
  let left := point.left - editor.metrics.origin.left
  let top := point.top - editor.metrics.origin.top
  if left < 0 || top < 0 || editor.metrics.charWidth ≤ 0 || editor.metrics.lineHeight ≤ 0 then
    none
  else
    let line := (top / editor.metrics.lineHeight).toUInt64.toNat
    if lineCount editor.text ≤ line then none
    else
      let column := (left / editor.metrics.charWidth).toUInt64.toNat
      some (clamp editor.text ⟨line, column⟩)

/-- The token at a position. -/
def tokenAt (editor : Editor) (position : Position) : Token :=
  tokenAtPosition editor.text position

/-- The token at the caret. -/
def tokenAtCursor (editor : Editor) : Token :=
  editor.tokenAt editor.cursor

end Editor

end SymbolJump
