/-
Quoted text in settings documents.

Between double quotes a backslash begins an escape; between single quotes all
characters stand for themselves. Three quotes open a text of several lines,
whose first line break is dropped if it comes right behind them; up to two
quotes right before the closing three belong to the text.
-/

namespace SymbolJump.Toml

/-- Whether a character may stand in a comment or on a line of quoted text. -/
def isPrintable (c : Char) : Bool :=
  c == '\t' || (0x20 ≤ c.toNat && c.toNat != 0x7F)

def isBlank (c : Char) : Bool :=
  c == ' ' || c == '\t'

/-- Takes off one line break. -/
def readBreak? : List Char → Option (List Char)
  | '\n' :: rest => some rest
  | '\r' :: '\n' :: rest => some rest
  | _ => none

/-- Drops one line break if there is one. -/
def dropBreak (text : List Char) : List Char :=
  (readBreak? text).getD text

def hexValue? (c : Char) : Option Nat :=
  if '0' ≤ c ∧ c ≤ '9' then some (c.toNat - 48)
  else if 'a' ≤ c ∧ c ≤ 'f' then some (c.toNat - 87)
  else if 'A' ≤ c ∧ c ≤ 'F' then some (c.toNat - 55)
  else none

/-- The character of a code point written with so many hexadecimal digits. -/
def readCodePoint? (count : Nat) (text : List Char) : Option (Char × List Char) := do
  let digits ← (text.take count).mapM hexValue?
  let code := digits.foldl (fun value digit => 16 * value + digit) 0
  if digits.length = count ∧ code.isValidChar then
    return (Char.ofNat code, text.drop count)
  else none

/-- The character of an escape behind its backslash. -/
def readEscape? (text : List Char) : Option (Char × List Char) :=
  match text with
  | 'b' :: rest => some ('\x08', rest)
  | 't' :: rest => some ('\t', rest)
  | 'n' :: rest => some ('\n', rest)
  | 'f' :: rest => some ('\x0c', rest)
  | 'r' :: rest => some ('\r', rest)
  | 'e' :: rest => some ('\x1b', rest)
  | '"' :: rest => some ('"', rest)
  | '\\' :: rest => some ('\\', rest)
  | 'x' :: rest => readCodePoint? 2 rest
  | 'u' :: rest => readCodePoint? 4 rest
  | 'U' :: rest => readCodePoint? 8 rest
  | _ => none

/-- Reads to the closing double quote; the characters read so far come latest first. -/
def readBasicWithin : Nat → List Char → List Char → Option (List Char × List Char)
  | 0, _, _ => none
  | fuel + 1, done, text =>
      match text with
      | [] => none
      | '"' :: rest => some (done.reverse, rest)
      | '\\' :: rest => do
          let (c, rest) ← readEscape? rest
          readBasicWithin fuel (c :: done) rest
      | c :: rest => if isPrintable c then readBasicWithin fuel (c :: done) rest else none

/-- The text up to the closing single quote. -/
def readLiteral? (text : List Char) : Option (List Char × List Char) :=
  let content := text.takeWhile fun c => isPrintable c && c != '\''
  match text.drop content.length with
  | '\'' :: rest => some (content, rest)
  | _ => none

/-- Drops blanks and line breaks behind a backslash at the end of a line. -/
def dropBlankLines (text : List Char) : List Char :=
  match text with
  | [] => []
  | ' ' :: rest => dropBlankLines rest
  | '\t' :: rest => dropBlankLines rest
  | '\n' :: rest => dropBlankLines rest
  | '\r' :: '\n' :: rest => dropBlankLines rest
  | _ => text

/-- Reads to three closing quotes of a kind; without escapes for single quotes. -/
def readLinesWithin (quote : Char) : Nat → List Char → List Char → Option (List Char × List Char)
  | 0, _, _ => none
  | fuel + 1, done, text =>
      match text with
      | [] => none
      | '\n' :: rest => readLinesWithin quote fuel ('\n' :: done) rest
      | '\r' :: '\n' :: rest => readLinesWithin quote fuel ('\n' :: '\r' :: done) rest
      | c :: rest =>
          if c = quote then
            let run := (text.takeWhile (· == quote)).length
            if run < 3 then readLinesWithin quote fuel (c :: done) rest
            else
              let kept := min (run - 3) 2
              some (done.reverse ++ List.replicate kept quote, text.drop (kept + 3))
          else if c = '\\' ∧ quote = '"' then
            match readBreak? (rest.dropWhile isBlank) with
            | some rest => readLinesWithin quote fuel done (dropBlankLines rest)
            | none => do
                let (escaped, rest) ← readEscape? rest
                readLinesWithin quote fuel (escaped :: done) rest
          else if isPrintable c then readLinesWithin quote fuel (c :: done) rest
          else none

/-- Reads text on one line in quotes of either kind. -/
def readQuoted? (text : List Char) : Option (List Char × List Char) :=
  match text with
  | '"' :: rest => readBasicWithin text.length [] rest
  | '\'' :: rest => readLiteral? rest
  | _ => none

/-- Reads quoted text, on one line or several. -/
def readText? (text : List Char) : Option (List Char × List Char) :=
  match text with
  | '"' :: '"' :: '"' :: rest => readLinesWithin '"' text.length [] (dropBreak rest)
  | '\'' :: '\'' :: '\'' :: rest => readLinesWithin '\'' text.length [] (dropBreak rest)
  | _ => readQuoted? text

end SymbolJump.Toml
