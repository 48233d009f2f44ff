/-
Under which path the host is asked for a file outside of the document.

The address of a file is its path, encoded. Only the scheme is taken off again
before the host is asked, so the host sees the encoded path below the marker
directory: it is the path of the file once it is decoded, and as it stands only
if there was nothing to encode. The document itself is among these files as soon
as its address is not spelled as it is known to the server.
-/

import SymbolJump.Proofs.Server.Pumping
import SymbolJump.Proofs.Uri.Spelling

namespace SymbolJump.Server

open Uri

theorem encode_inFilePath_externalMarker : encode inFilePath externalMarker = externalMarker := by
  decide

theorem path_request_of_address {names : List (List Char)}
    (areNames : ∀ name ∈ names, Path.IsName name) {location : Location}
    (isAddress : location.uri = documentUri (Path.ofNames names)) :
    location.request.path =
      String.ofList (encode inFilePath (externalMarker ++ Path.ofNames names)) := by
  obtain ⟨rest, isRest⟩ : ∃ rest, Path.ofNames names = '/' :: rest := by
    cases names with
    | nil => exact ⟨_, rfl⟩
    | cons name others => exact ⟨_, rfl⟩
  change externalReference (stripFileScheme location.uri) = _
  rw [isAddress, documentUri_ofNames areNames, stripFileScheme_fileScheme, encode_append,
    encode_inFilePath_externalMarker, isRest]
  exact externalReference_slash (encode inFilePath rest)

/-- An answer whose first location is a file with a plain path, outside of the document, makes
one request to the host and leaves the jumper alone. The request is for the line and character
of the location, under a path that decodes to the marker followed by the path of the file; it
is that very path exactly if no character of the file's path is encoded. -/
theorem outside_file_asked_by_encoded_path (names : List (List Char))
    (areNames : ∀ name ∈ names, Path.IsName name) (location : Location)
    (isAddress : location.uri = documentUri (Path.ofNames names)) (bridged : String)
    (elsewhere : sameDocument location.uri bridged = false) (others : List Location)
    (jumper : Jumper) (host : Host) :
    ∃ request : OpenRequest,
      handleLocations bridged jumper host (location :: others) =
          ((host.present request).1, jumper, (host.present request).2) ∧
        request.editorIndex = 0 ∧
        request.position =
          ⟨location.range.start.line.toNat, location.range.start.character.toNat⟩ ∧
        decode? request.path.toList = some (externalMarker ++ Path.ofNames names) ∧
        (request.path = String.ofList (externalMarker ++ Path.ofNames names) ↔
          ∀ c ∈ Path.ofNames names, inFilePath c = false) := by
  have isPath := path_request_of_address areNames isAddress
  refine ⟨location.request, handleLocations_elsewhere elsewhere others jumper host, rfl, rfl,
    ?_, ?_⟩
  · rw [isPath, String.toList_ofList]
    exact decode?_encode (by decide) _
  · rw [isPath, String.ofList_inj, encode_append, encode_inFilePath_externalMarker,
      List.append_cancel_left_eq]
    exact encode_eq_self_iff

def spacedNames : List (List Char) := ["tmp".toList, "my file.py".toList]

def spacedLocation : Location := ⟨"file:///tmp/my%20file.py", ⟨⟨41, 4⟩, ⟨41, 7⟩⟩⟩

/-- A space in the name of a file. -/
theorem outside_file_asked_with_encoded_space :
    ∃ request : OpenRequest,
      handleLocations "file:///project/main.py" (.file Workplace.answeredFile) {}
          [spacedLocation] =
        (true, .file Workplace.answeredFile, { log := [⟨request, none⟩] }) ∧
        request.position = ⟨41, 4⟩ ∧
        decode? request.path.toList = some ".lsp_symlink/tmp/my file.py".toList ∧
        request.path ≠ ".lsp_symlink/tmp/my file.py" := by
  obtain ⟨request, asked, _, isPlace, decoded, isSame⟩ :=
    outside_file_asked_by_encoded_path spacedNames (by decide) spacedLocation (by decide)
      "file:///project/main.py" (by decide) [] (.file Workplace.answeredFile) {}
  refine ⟨request, asked, isPlace, decoded, ?_⟩
  intro same
  have spaceKept := isSame.mp same ' ' (by decide)
  revert spaceKept
  decide

/-- The host is not always asked for the marker followed by the path of the file. -/
theorem outside_file_not_asked_by_its_path :
    ¬ ∀ (names : List (List Char)) (location : Location) (bridged : String)
        (others : List Location) (jumper : Jumper) (host : Host),
      (∀ name ∈ names, Path.IsName name) → location.uri = documentUri (Path.ofNames names) →
      sameDocument location.uri bridged = false →
        (handleLocations bridged jumper host (location :: others)).2.2 =
          (host.present
            { path := String.ofList (externalMarker ++ Path.ofNames names)
              editorIndex := 0
              position :=
                ⟨location.range.start.line.toNat, location.range.start.character.toNat⟩ }).2 := by
  intro asked
  have opened := asked spacedNames spacedLocation "file:///project/main.py" []
    (.file Workplace.answeredFile) {} (by decide) (by decide) (by decide)
  have samePath := congrArg Host.requests opened
  revert samePath
  decide

/-! ### The document under another spelling -/

theorem decode?_request_of_respells {path : Path} {location : Location}
    (respelled : Respells path location.uri) :
    decode? location.request.path.toList =
      some (externalMarker ++ Path.ofNames (path.components.drop 1)) := by
  obtain ⟨segments, spelled, isAddress⟩ := respelled
  have isPath : location.request.path =
      String.ofList (externalMarker ++ Path.ofNames segments) := by
    change externalReference (stripFileScheme location.uri) = _
    rw [isAddress, stripFileScheme_fileScheme]
    cases segments with
    | nil => exact externalReference_slash []
    | cons segment rest => exact externalReference_slash (segment ++ writePath rest)
  have isMarker : Spells externalMarker externalMarker := spells_encode externalMarker
  apply decode?_of_bytes
  rw [isPath, String.toList_ofList, isMarker.decodeBytes, decodeBytes_ofNames spelled,
    List.flatMap_append]

/-- An address that spells the path of the document decodes to that path, but it is the same
document only if it is the very address of the document. An answer that leads to any other
spelling leaves the jumper alone, and the host is asked for the document as an outside file. -/
theorem respelled_document_is_outside (path : Path) (absolute : path.isAbsolute = true)
    (ordinary : ['.', '.'] ∉ path.components) (address : String)
    (respelled : Respells path address) :
    decode? (stripFileScheme address).toList = some (Path.ofNames (path.components.drop 1)) ∧
      (sameDocument (documentUri path) address = true ↔ address = documentUri path) ∧
      (address ≠ documentUri path →
        ∀ (location : Location) (others : List Location) (jumper : Jumper) (host : Host),
          location.uri = address →
          ∃ request : OpenRequest,
            handleLocations (documentUri path) jumper host (location :: others) =
                ((host.present request).1, jumper, (host.present request).2) ∧
              decode? request.path.toList =
                some (externalMarker ++ Path.ofNames (path.components.drop 1))) := by
  have isKnown := respells_documentUri absolute
  refine ⟨decode?_of_respells respelled, ?_, ?_⟩
  · rw [sameDocument_respells_iff absolute ordinary isKnown respelled]
    exact eq_comm
  · rintro different location others jumper host rfl
    have elsewhere : sameDocument location.uri (documentUri path) = false := by
      rw [← Bool.not_eq_true, sameDocument_respells_iff absolute ordinary respelled isKnown]
      exact different
    exact ⟨location.request, handleLocations_elsewhere elsewhere others jumper host,
      decode?_request_of_respells respelled⟩

/-- A letter written as a triplet. -/
theorem respells_letter : Respells "/tmp/a.py".toList "file:///tmp/%61.py" := by
  refine ⟨["tmp".toList, "%61.py".toList], ?_, rfl⟩
  have isLetter : SpellsBytes (String.utf8EncodeChar 'a') "%61".toList := .cons (by decide) .nil
  exact .cons (spells_encode "tmp".toList)
    (.cons (.encoded isLetter (spells_encode ".py".toList)) .nil)

def letterLocation : Location := ⟨"file:///tmp/%61.py", ⟨⟨3, 0⟩, ⟨3, 1⟩⟩⟩

/-- The document is asked for as an outside file. -/
theorem respelled_letter_is_outside :
    sameDocument (documentUri "/tmp/a.py".toList) "file:///tmp/%61.py" = false ∧
      ∃ request : OpenRequest,
        handleLocations (documentUri "/tmp/a.py".toList) (.file Workplace.answeredFile) {}
            [letterLocation] =
          (true, .file Workplace.answeredFile, { log := [⟨request, none⟩] }) ∧
          decode? request.path.toList = some ".lsp_symlink/tmp/a.py".toList := by
  obtain ⟨_, isSame, asked⟩ :=
    respelled_document_is_outside "/tmp/a.py".toList (by decide) (by decide)
      "file:///tmp/%61.py" respells_letter
  have different : "file:///tmp/%61.py" ≠ documentUri "/tmp/a.py".toList := by
    decide
  refine ⟨?_, asked different letterLocation [] (.file Workplace.answeredFile) {} rfl⟩
  rw [← Bool.not_eq_true, isSame]
  exact different

/-- A spelling of a document's path is not always the same document. -/
theorem respelled_document_not_same :
    ¬ ∀ (path : Path) (address : String), path.isAbsolute = true →
      ['.', '.'] ∉ path.components → Respells path address →
        sameDocument (documentUri path) address = true := by
  intro same
  have sameLetter := same "/tmp/a.py".toList "file:///tmp/%61.py" (by decide) (by decide)
    respells_letter
  revert sameLetter
  decide

end SymbolJump.Server
