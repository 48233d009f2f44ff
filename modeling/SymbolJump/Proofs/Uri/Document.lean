/-
The address of a file with a plain path.

A path is plain if it is absolute and made of names behind single slashes. Its
address is the file scheme followed by the path, in which the characters are
encoded that no name may hold as they are.
-/

import SymbolJump.Proofs.Uri.Percent
import SymbolJump.Uri.Document

namespace SymbolJump

namespace Path

/-- What can stand between two slashes of a plain path. A dot is left out, since it leads
nowhere. -/
def IsName (name : List Char) : Prop :=
  name ≠ [] ∧ '/' ∉ name ∧ name ≠ ['.']

instance (name : List Char) : Decidable (IsName name) :=
  inferInstanceAs (Decidable (_ ∧ _ ∧ _))

/-- The plain path of names from the root on. -/
def ofNames : List (List Char) → Path
  | [] => ['/']
  | names => names.flatMap ('/' :: ·)

theorem parts_append {name : List Char} (noSlash : '/' ∉ name) {rest : Path}
    {first : List Char} {others : List (List Char)} (isRest : parts rest = first :: others) :
    parts (name ++ rest) = (name ++ first) :: others := by
  induction name with
  | nil => exact isRest
  | cons c name ih =>
      obtain ⟨different, noLater⟩ := not_or.mp (mt List.mem_cons.mpr noSlash)
      rw [List.cons_append, parts, ih noLater]
      · rfl
      · exact fun same => different same.symm

theorem parts_flatMap {names : List (List Char)} (noSlash : ∀ name ∈ names, '/' ∉ name) :
    parts (names.flatMap ('/' :: ·)) = [] :: names := by
  induction names with
  | nil => rfl
  | cons name rest ih =>
      obtain ⟨here, later⟩ := List.forall_mem_cons.mp noSlash
      rw [List.flatMap_cons, List.cons_append, parts, parts_append here (ih later), List.append_nil]

theorem isIdle_of_isName {name : List Char} (isName : IsName name) : isIdle name = false := by
  obtain ⟨nonempty, _, noDot⟩ := isName
  simp [isIdle, nonempty, noDot]

theorem isAbsolute_ofNames (names : List (List Char)) : isAbsolute (ofNames names) = true := by
  cases names <;> rfl

theorem components_ofNames {names : List (List Char)} (areNames : ∀ name ∈ names, IsName name) :
    components (ofNames names) = ['/'] :: names := by
  cases names with
  | nil => rfl
  | cons name rest =>
      have isParts : parts (ofNames (name :: rest)) = [] :: name :: rest :=
        parts_flatMap fun name member => (areNames name member).2.1
      have kept : (name :: rest).filter (!isIdle ·) = name :: rest := by
        rw [List.filter_eq_self]
        intro name member
        rw [isIdle_of_isName (areNames name member)]
        rfl
      rw [components, isParts]
      simp only [isAbsolute_ofNames, if_true, kept]

theorem noSlash_parts (path : Path) : ∀ part ∈ parts path, '/' ∉ part := by
  fun_induction parts path with
  | case1 => simp
  | case2 rest ih => simpa using ih
  | case3 c rest notSlash isNil ih => simpa using Ne.symm notSlash
  | case4 c rest notSlash part others isRest ih =>
      rw [isRest] at ih
      obtain ⟨here, later⟩ := List.forall_mem_cons.mp ih
      refine List.forall_mem_cons.mpr ⟨?_, later⟩
      exact mt List.mem_cons.mp (not_or.mpr ⟨Ne.symm notSlash, here⟩)

/-- Behind the root, the components of an absolute path are names. -/
theorem isName_of_mem_components {path : Path} (absolute : isAbsolute path = true)
    {name : List Char} (member : name ∈ path.components.drop 1) : IsName name := by
  have noSlash := noSlash_parts path
  unfold components at member
  cases isParts : parts path with
  | nil =>
      rw [isParts] at member
      cases member
  | cons first rest =>
      simp only [isParts, absolute, if_true, List.drop_succ_cons, List.drop_zero,
        List.mem_filter] at member
      obtain ⟨isPart, busy⟩ := member
      simp only [isIdle, Bool.not_eq_true', Bool.or_eq_false_iff, List.isEmpty_eq_false_iff,
        beq_eq_false_iff_ne] at busy
      rw [isParts] at noSlash
      exact ⟨busy.1, noSlash name (List.mem_cons_of_mem _ isPart), busy.2⟩

end Path

namespace Uri

/-- The characters of a path that are encoded in its address. -/
def inFilePath (c : Char) : Bool :=
  inSegment c && c != '/'

theorem encode_inFilePath {name : List Char} (noSlash : '/' ∉ name) :
    encode inFilePath name = encode inSegment name := by
  rw [encode, encode, List.flatMap_def, List.flatMap_def]
  apply congrArg List.flatten
  apply List.map_congr_left
  intro c member
  have different : c ≠ '/' := by
    rintro rfl
    exact noSlash member
  simp only [encodeChar, inFilePath, bne_iff_ne.mpr different, Bool.and_true]

theorem encode_ofNames {names : List (List Char)} (noSlash : ∀ name ∈ names, '/' ∉ name) :
    encode inFilePath (names.flatMap ('/' :: ·)) =
      names.flatMap fun name => '/' :: encode inSegment name := by
  induction names with
  | nil => rfl
  | cons name rest ih =>
      obtain ⟨here, later⟩ := List.forall_mem_cons.mp noSlash
      rw [List.flatMap_cons, List.flatMap_cons, encode_append, ih later, ← encode_inFilePath here]
      rfl

theorem documentUri_ofNames {names : List (List Char)}
    (areNames : ∀ name ∈ names, Path.IsName name) :
    documentUri (Path.ofNames names) =
      String.ofList (fileScheme ++ encode inFilePath (Path.ofNames names)) := by
  have isWritten := encode_ofNames fun name member => (areNames name member).2.1
  rw [documentUri, ofPath, if_pos (Path.isAbsolute_ofNames names), Path.components_ofNames areNames]
  cases names with
  | nil => rfl
  | cons name rest =>
      exact congrArg (fun written => String.ofList (fileScheme ++ written)) isWritten.symm

/-! ### Away from the address -/

theorem stripFileScheme_fileScheme (rest : List Char) :
    stripFileScheme (String.ofList (fileScheme ++ rest)) = String.ofList rest := by
  have begins : fileScheme.isPrefixOf (fileScheme ++ rest) = true :=
    List.isPrefixOf_iff_prefix.mpr (List.prefix_append _ _)
  simp only [stripFileScheme, String.toList_ofList, begins, if_true, List.drop_left]

theorem externalReference_slash (rest : List Char) :
    externalReference (String.ofList ('/' :: rest)) =
      String.ofList (externalMarker ++ '/' :: rest) := by
  simp [externalReference]

end Uri

end SymbolJump
