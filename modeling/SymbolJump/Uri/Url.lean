/-
Addresses in canonical form.

Reading an address follows the living standard for URLs without a base: the
scheme decides whether there is a host and how its path is split, dots are
carried out, default ports left out, and every part percent-encoded. Two
addresses are the same when their canonical texts are.
-/

import SymbolJump.Uri.Host

namespace SymbolJump.Uri

/-- What a scheme means for the rest of an address. -/
inductive SchemeKind where
  | file
  | special
  | other
  deriving DecidableEq, Repr

def schemeKind (scheme : String) : SchemeKind :=
  if scheme = "file" then .file
  else if ["http", "https", "ws", "wss", "ftp"].contains scheme then .special
  else .other

def SchemeKind.isSpecial (kind : SchemeKind) : Bool :=
  kind != .other

def defaultPort? (scheme : String) : Option Nat :=
  match scheme with
  | "http" => some 80
  | "ws" => some 80
  | "https" => some 443
  | "wss" => some 443
  | "ftp" => some 21
  | _ => none

/-- Whether a character separates path segments. -/
def isSeparator (kind : SchemeKind) (c : Char) : Bool :=
  c == '/' || (kind.isSpecial && c == '\\')

/-- Whether a character ends the part that holds user and host. -/
def endsAuthority (kind : SchemeKind) (c : Char) : Bool :=
  isSeparator kind c || c == '?' || c == '#'

/-! ### Paths -/

def isSingleDot (segment : List Char) : Bool :=
  [".", "%2e", "%2E"].contains (String.ofList segment)

def isDoubleDot (segment : List Char) : Bool :=
  ["..", "%2e%2e", "%2e%2E", "%2E%2e", "%2E%2E", "%2e.", "%2E.", ".%2e", ".%2E"].contains
    (String.ofList segment)

/-- A letter followed by a colon or a bar. -/
def isDriveLetter : List Char → Bool
  | [letter, mark] => letter.isAlpha && (mark == ':' || mark == '|')
  | _ => false

/-- The segments without the last one; a drive letter at the top of a file path stays. -/
def shorten (kind : SchemeKind) (segments : List (List Char)) : List (List Char) :=
  match kind, segments with
  | .file, [only] => if isDriveLetter only then [only] else []
  | _, _ => segments.dropLast

/-- Splits a path at its separators. -/
def splitPath (kind : SchemeKind) : List Char → List (List Char)
  | [] => [[]]
  | c :: rest =>
      if isSeparator kind c then [] :: splitPath kind rest
      else
        match splitPath kind rest with
        | [] => [[c]]
        | part :: others => (c :: part) :: others

/-- Takes the segments of a path one by one, carrying out dots. A dot at the end leaves an
empty segment. -/
def gatherPath (kind : SchemeKind) :
    List (List Char) → List (List Char) → List (List Char)
  | done, [] => done
  | done, segment :: rest =>
      let encoded := encode inPath segment
      let closing := if rest.isEmpty then [[]] else []
      if isDoubleDot encoded then gatherPath kind (shorten kind done ++ closing) rest
      else if isSingleDot encoded then gatherPath kind (done ++ closing) rest
      else if kind == .file && done.isEmpty && isDriveLetter encoded then
        gatherPath kind [encoded.take 1 ++ [':']] rest
      else gatherPath kind (done ++ [encoded]) rest

/-- A path with its segments behind slashes. -/
def writePath (segments : List (List Char)) : List Char :=
  segments.flatMap ('/' :: ·)

/-- The canonical path of a text behind its first slash. A file path has no empty segments
at the beginning. -/
def canonicalPath (kind : SchemeKind) (text : List Char) : List Char :=
  let segments := splitPath kind text
  let leading := if kind == .file then segments.dropWhile List.isEmpty else segments
  let gathered := gatherPath kind [] (if leading.isEmpty then [[]] else leading)
  let trimmed := if kind == .file then gathered.dropWhile List.isEmpty else gathered
  writePath (if trimmed.isEmpty then [[]] else trimmed)

/-! ### Query and fragment -/

/-- The canonical text from the query on. -/
def queryAndFragment (kind : SchemeKind) (rest : List Char) : List Char :=
  let fragment (text : List Char) : List Char :=
    match text with
    | '#' :: inner => '#' :: encode inFragment inner
    | _ => []
  match rest with
  | '?' :: inner =>
      let query := inner.takeWhile (· != '#')
      let set := if kind.isSpecial then inSpecialQuery else inQuery
      '?' :: encode set query ++ fragment (inner.drop query.length)
  | _ => fragment rest

def isTail (c : Char) : Bool :=
  c == '?' || c == '#'

/-! ### User, host and port -/

/-- The canonical user and password, with the sign that ends them. An empty password is
left out, and so is the sign when nothing is left. -/
def userInfo (text : List Char) : List Char :=
  let name := text.takeWhile (· != ':')
  let password := (text.drop name.length).drop 1
  let written :=
    encode inUserInfo name ++
      (if password.isEmpty then [] else ':' :: encode inUserInfo password)
  if written.isEmpty then [] else written ++ ['@']

/-- The beginning of a text up to its last at sign, and what follows the sign. -/
def splitUser? (text : List Char) : Option (List Char × List Char) :=
  let after := (text.reverse.takeWhile (· != '@')).reverse
  if after.length < text.length then
    some (text.take (text.length - after.length - 1), after)
  else none

/-- The host part of a text, which ends at the first colon outside of brackets. -/
def hostPart : Bool → List Char → List Char
  | _, [] => []
  | inside, c :: rest =>
      if c == ':' && !inside then []
      else c :: hostPart (if c == '[' then true else if c == ']' then false else inside) rest

/-- The canonical port behind a colon; nothing for a default port. -/
def portPart? (scheme : String) (text : List Char) : Option (List Char) :=
  match text with
  | ':' :: digits =>
      if digits.all Char.isDigit then
        let port := (numberIn? 10 digits).getD 0
        if 65535 < port then none
        else if digits.isEmpty || some port = defaultPort? scheme then some []
        else some (':' :: decimal port)
      else none
  | _ => some []

/-- The canonical user, host and port of the text between the slashes. -/
def authority? (scheme : String) (kind : SchemeKind) (text : List Char) :
    Option (List Char) := do
  let (user, hostAndPort) := (splitUser? text).getD ([], text)
  let host := hostPart false hostAndPort
  let rest := hostAndPort.drop host.length
  let info := userInfo user
  if host.isEmpty && (kind.isSpecial || !info.isEmpty || rest.head? == some ':' ||
      (splitUser? text).isSome) then none
  else
    let written ← if kind.isSpecial then resolvedHost? host else opaqueHost? host
    return info ++ written ++ (← portPart? scheme rest)

/-! ### Whole addresses -/

/-- The address behind the double slash of a scheme that is not `file`. -/
def withAuthority? (scheme : String) (kind : SchemeKind) (text : List Char) :
    Option (List Char) := do
  let written := text.takeWhile (!endsAuthority kind ·)
  let rest := text.drop written.length
  let authority ← authority? scheme kind written
  let path := rest.takeWhile (!isTail ·)
  let canonical :=
    if path.isEmpty then (if kind.isSpecial then ['/'] else [])
    else canonicalPath kind (path.drop 1)
  return '/' :: '/' :: authority ++ canonical ++ queryAndFragment kind (rest.drop path.length)

/-- The address of a file behind its scheme. Two slashes introduce a host, which is dropped
when it is the local one; a drive letter in its place belongs to the path. -/
def fileAddress? (text : List Char) : Option (List Char) := do
  let separators := (text.take 2).takeWhile (isSeparator .file)
  let afterSlashes := text.drop 2
  let host :=
    if separators.length = 2 then afterSlashes.takeWhile (!endsAuthority .file ·) else []
  let hasHost := !host.isEmpty && !isDriveLetter host
  let written ← if hasHost then resolvedHost? host else some []
  let rest :=
    if separators.length = 2 then
      (if hasHost then afterSlashes.drop host.length else afterSlashes)
    else text
  let path := rest.takeWhile (!isTail ·)
  let inner := if path.head?.any (isSeparator .file) then path.drop 1 else path
  let canonical := canonicalPath .file inner
  let top := (canonical.drop 1).takeWhile (· != '/')
  let shown := if written = "localhost".toList || isDriveLetter top then [] else written
  return '/' :: '/' :: shown ++ canonical ++ queryAndFragment .file (rest.drop path.length)

/-- The address behind a scheme without double slash. Without any slash the path is
opaque. -/
def plainAddress (text : List Char) : List Char :=
  let path := text.takeWhile (!isTail ·)
  let tail := queryAndFragment .other (text.drop path.length)
  match path with
  | '/' :: inner =>
      let canonical := canonicalPath .other inner
      let shown := if canonical.take 2 = ['/', '/'] then '/' :: '.' :: canonical else canonical
      shown ++ tail
  | _ => encode isControl path ++ tail

/-- Drops the control characters and spaces around a text and all tabs and line breaks in
it. -/
def tidy (text : List Char) : List Char :=
  let outer (c : Char) : Bool := c.toNat ≤ 0x20
  ((text.dropWhile outer).reverse.dropWhile outer).reverse.filter fun c =>
    c != '\t' && c != '\n' && c != '\r'

/-- The scheme of an address, in lower case, and what follows its colon. -/
def splitScheme? (text : List Char) : Option (String × List Char) :=
  let scheme := text.takeWhile fun c => c.isAlphanum || c == '+' || c == '-' || c == '.'
  match scheme.head?, text.drop scheme.length with
  | some first, ':' :: rest =>
      if first.isAlpha then some (String.ofList (scheme.map Char.toLower), rest) else none
  | _, _ => none

/-- The canonical text of an address, absent if it is none. -/
def canonical? (text : String) : Option String := do
  let (scheme, rest) ← splitScheme? (tidy text.toList)
  let written ←
    match schemeKind scheme with
    | .file => fileAddress? rest
    | .special => withAuthority? scheme .special (rest.dropWhile (isSeparator .special))
    | .other =>
        match rest with
        | '/' :: '/' :: inner => withAuthority? scheme .other inner
        | _ => some (plainAddress rest)
  return scheme ++ ":" ++ String.ofList written

end SymbolJump.Uri
