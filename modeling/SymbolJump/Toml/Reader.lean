/-
Reading settings documents.

A document is a sequence of lines: entries, which belong to the table headed
last, and headers of tables. Arrays and tables in braces may go over several
lines, with comments and with a comma at the end. Nesting is limited.
-/

import SymbolJump.Toml.Quoted
import SymbolJump.Toml.Scalar
import SymbolJump.Toml.Tree

namespace SymbolJump.Toml

def skipBlanks (text : List Char) : List Char :=
  text.dropWhile isBlank

/-- Drops a comment, if there is one; absent if it has a character that no comment may
have. -/
def skipComment? (text : List Char) : Option (List Char) :=
  match text with
  | '#' :: rest =>
      match rest.dropWhile isPrintable with
      | [] => some []
      | after => if (readBreak? after).isSome then some after else none
  | _ => some text

/-- Drops blanks, line breaks and comments. -/
def skipSpaceWithin : Nat → List Char → Option (List Char)
  | 0, text => some text
  | fuel + 1, text => do
      let rest ← skipComment? (skipBlanks text)
      match readBreak? rest with
      | some rest => skipSpaceWithin fuel rest
      | none => return rest

def skipSpace? (text : List Char) : Option (List Char) :=
  skipSpaceWithin text.length text

/-- Drops the rest of a line that is over. -/
def endLine? (text : List Char) : Option (List Char) := do
  let rest ← skipComment? (skipBlanks text)
  if rest.isEmpty then return [] else readBreak? rest

/-! ### Keys -/

def isBareKeyChar (c : Char) : Bool :=
  c.isAlphanum || c == '_' || c == '-'

def readSimpleKey? (text : List Char) : Option (String × List Char) :=
  let bare := text.takeWhile isBareKeyChar
  if bare.isEmpty then (readQuoted? text).map fun (key, rest) => (String.ofList key, rest)
  else some (String.ofList bare, text.drop bare.length)

/-- Reads keys with dots between them; those read so far come latest first. -/
def readKeysWithin : Nat → List String → List Char → Option (List String × List Char)
  | 0, _, _ => none
  | fuel + 1, done, text => do
      let (key, rest) ← readSimpleKey? (skipBlanks text)
      match skipBlanks rest with
      | '.' :: rest => readKeysWithin fuel (key :: done) rest
      | rest => return ((key :: done).reverse, rest)

/-- Reads a dotted key: the path in front and the last key. -/
def readKey? (text : List Char) : Option ((List String × String) × List Char) := do
  let (keys, rest) ← readKeysWithin text.length [] text
  return ((keys.dropLast, ← keys.getLast?), rest)

/-! ### Values -/

mutual

/-- Reads a value, nested no deeper than a limit. -/
def readValueWithin : Nat → Nat → List Char → Option (Value × List Char)
  | 0, _, _ => none
  | fuel + 1, depth, text =>
      match text, depth with
      | '[' :: _, 0 => none
      | '\x7b' :: _, 0 => none
      | '[' :: rest, depth + 1 => readItemsWithin fuel depth [] rest
      | '\x7b' :: rest, depth + 1 => readEntriesWithin fuel depth ⟨.headed, []⟩ rest
      | '"' :: _, _ =>
          (readText? text).map fun (value, rest) => (.string (String.ofList value), rest)
      | '\'' :: _, _ =>
          (readText? text).map fun (value, rest) => (.string (String.ofList value), rest)
      | _, _ =>
          let (word, rest) := splitWord text
          (readScalar? word).map fun value => (value, rest)

/-- Reads the items of an array up to its end; those read so far come latest first. -/
def readItemsWithin : Nat → Nat → List Value → List Char → Option (Value × List Char)
  | 0, _, _, _ => none
  | fuel + 1, depth, done, text =>
      match skipSpace? text with
      | none => none
      | some (']' :: rest) => some (.array done.reverse, rest)
      | some rest =>
          match readValueWithin fuel depth rest with
          | none => none
          | some (item, rest) =>
              match skipSpace? rest with
              | some (',' :: rest) => readItemsWithin fuel depth (item :: done) rest
              | some (']' :: rest) => some (.array (item :: done).reverse, rest)
              | _ => none

/-- Reads the entries of a table in braces up to its end. -/
def readEntriesWithin : Nat → Nat → Branch → List Char → Option (Value × List Char)
  | 0, _, _, _ => none
  | fuel + 1, depth, branch, text =>
      match skipSpace? text with
      | none => none
      | some ('\x7d' :: rest) => some (branch.toValue, rest)
      | some rest =>
          match readKey? rest with
          | some ((path, key), '=' :: rest) =>
              match readValueWithin fuel depth (skipBlanks rest) with
              | none => none
              | some (value, rest) =>
                  match branch.assign path key value, skipSpace? rest with
                  | some branch, some (',' :: rest) => readEntriesWithin fuel depth branch rest
                  | some branch, some ('\x7d' :: rest) => some (branch.toValue, rest)
                  | _, _ => none
          | _ => none

end

/-- The greatest depth of arrays and tables within a value. -/
def greatestDepth : Nat := 80

/-- Reads a value. Every step but the one into a part takes a character, so twice the
length bounds the steps. -/
def readValue? (text : List Char) : Option (Value × List Char) :=
  readValueWithin (2 * text.length + 2) greatestDepth text

/-! ### Documents -/

/-- A document read so far, and the table that entries go to. -/
structure Draft where
  root : Branch
  current : List String

/-- Reads a header behind its opening bracket. -/
def readHeader? (draft : Draft) (text : List Char) : Option (Draft × List Char) :=
  match text with
  | '[' :: text => do
      match ← readKey? text with
      | ((path, key), ']' :: ']' :: rest) =>
          return (⟨← draft.root.headAgain path key, path ++ [key]⟩, rest)
      | _ => none
  | _ => do
      match ← readKey? text with
      | ((path, key), ']' :: rest) =>
          return (⟨← draft.root.head path key, path ++ [key]⟩, rest)
      | _ => none

/-- Reads an entry into the current table. -/
def readEntry? (draft : Draft) (text : List Char) : Option (Draft × List Char) := do
  match ← readKey? text with
  | ((path, key), '=' :: rest) =>
      let (value, rest) ← readValue? (skipBlanks rest)
      let root ← draft.root.alter false (Branch.assign path key value) draft.current
      return (⟨root, draft.current⟩, rest)
  | _ => none

/-- Reads lines to the end. -/
def readDocumentWithin : Nat → Draft → List Char → Option Draft
  | 0, _, _ => none
  | fuel + 1, draft, text => do
      let text ← skipSpace? text
      match text with
      | [] => return draft
      | '[' :: rest =>
          let (draft, rest) ← readHeader? draft rest
          readDocumentWithin fuel draft (← endLine? rest)
      | _ =>
          let (draft, rest) ← readEntry? draft text
          readDocumentWithin fuel draft (← endLine? rest)

/-- The table that a document is. A byte order mark in front does not count. -/
def parse? (document : String) : Option Value := do
  let text :=
    match document.toList with
    | '\ufeff' :: rest => rest
    | text => text
  let draft ← readDocumentWithin (text.length + 1) ⟨⟨.headed, []⟩, []⟩ text
  return draft.root.toValue

end SymbolJump.Toml
