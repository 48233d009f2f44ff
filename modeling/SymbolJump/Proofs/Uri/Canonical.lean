/-
The canonical text of a plain file address.

Reading an address changes it in many ways: blanks around it go, dots are
carried out, characters are encoded. An address in which nothing of this applies
is its own canonical text, triplets and all: reading never decodes, nor does it
touch the case of hexadecimal digits. There is one exception, a bar behind a
drive letter at the top, which becomes a colon.
-/

import Mathlib.Data.List.TakeWhile
import SymbolJump.Proofs.Uri.Percent
import SymbolJump.Uri.Document

namespace SymbolJump.Uri

/-! ### Splitting and writing paths -/

theorem splitPath_append {kind : SchemeKind} {segment : List Char}
    (whole : ∀ c ∈ segment, isSeparator kind c = false) {rest first : List Char}
    {others : List (List Char)} (isRest : splitPath kind rest = first :: others) :
    splitPath kind (segment ++ rest) = (segment ++ first) :: others := by
  induction segment with
  | nil => exact isRest
  | cons c segment ih =>
      obtain ⟨here, later⟩ := List.forall_mem_cons.mp whole
      rw [List.cons_append, splitPath, here, ih later]
      rfl

theorem splitPath_writePath {kind : SchemeKind} {segments : List (List Char)}
    (whole : ∀ segment ∈ segments, ∀ c ∈ segment, isSeparator kind c = false) :
    splitPath kind (writePath segments) = [] :: segments := by
  induction segments with
  | nil => rfl
  | cons segment rest ih =>
      obtain ⟨here, later⟩ := List.forall_mem_cons.mp whole
      have split := splitPath_append here (ih later)
      rw [List.append_nil] at split
      change splitPath kind ('/' :: (segment ++ writePath rest)) = _
      rw [splitPath, split]
      rfl

theorem writePath_inj {kind : SchemeKind} {left right : List (List Char)}
    (leftWhole : ∀ segment ∈ left, ∀ c ∈ segment, isSeparator kind c = false)
    (rightWhole : ∀ segment ∈ right, ∀ c ∈ segment, isSeparator kind c = false)
    (same : writePath left = writePath right) : left = right := by
  have split := congrArg (splitPath kind) same
  rw [splitPath_writePath leftWhole, splitPath_writePath rightWhole] at split
  exact (List.cons.inj split).2

/-! ### Segments that reading leaves alone -/

structure Settled (segment : List Char) : Prop where
  nonempty : segment ≠ []
  plain : ∀ c ∈ segment, inPath c = false
  whole : ∀ c ∈ segment, isSeparator .file c = false
  noDot : isSingleDot segment = false
  noDots : isDoubleDot segment = false

theorem gatherPath_settled {done segments : List (List Char)} (begun : done ≠ [])
    (settled : ∀ segment ∈ segments, Settled segment) :
    gatherPath .file done segments = done ++ segments := by
  induction segments generalizing done with
  | nil => exact (List.append_nil done).symm
  | cons segment rest ih =>
      obtain ⟨here, later⟩ := List.forall_mem_cons.mp settled
      have notFirst : done.isEmpty = false := List.isEmpty_eq_false_iff.mpr begun
      rw [gatherPath]
      simp only [encode_of_plain here.plain, here.noDot, here.noDots, notFirst, Bool.and_false,
        Bool.false_and, Bool.false_eq_true, if_false]
      rw [ih (List.append_ne_nil_of_left_ne_nil begun _) later, List.append_assoc,
        List.singleton_append]

/-- The first segment of a path with the colon that belongs to a drive letter. -/
def withColon (segment : List Char) : List Char :=
  if isDriveLetter segment then segment.take 1 ++ [':'] else segment

theorem gatherPath_first {first : List Char} {rest : List (List Char)}
    (settled : ∀ segment ∈ first :: rest, Settled segment) :
    gatherPath .file [] (first :: rest) = withColon first :: rest := by
  obtain ⟨here, later⟩ := List.forall_mem_cons.mp settled
  rw [gatherPath]
  simp only [encode_of_plain here.plain, here.noDot, here.noDots, Bool.false_eq_true, if_false]
  unfold withColon
  cases isDrive : isDriveLetter first with
  | true => exact gatherPath_settled (List.cons_ne_nil _ _) later
  | false => exact gatherPath_settled (List.cons_ne_nil _ _) later

theorem withColon_ne_nil {segment : List Char} (nonempty : segment ≠ []) :
    withColon segment ≠ [] := by
  unfold withColon
  split
  · exact List.append_ne_nil_of_right_ne_nil _ (List.cons_ne_nil _ _)
  · exact nonempty

theorem whole_withColon {segment : List Char}
    (whole : ∀ c ∈ segment, isSeparator .file c = false) :
    ∀ c ∈ withColon segment, isSeparator .file c = false := by
  unfold withColon
  split
  · intro c member
    rcases List.mem_append.mp member with taken | colon
    · exact whole c (List.mem_of_mem_take taken)
    · rw [List.mem_singleton.mp colon]
      rfl
  · exact whole

theorem canonicalPath_settled {first : List Char} {rest : List (List Char)}
    (settled : ∀ segment ∈ first :: rest, Settled segment) :
    canonicalPath .file (first ++ writePath rest) = writePath (withColon first :: rest) := by
  obtain ⟨here, later⟩ := List.forall_mem_cons.mp settled
  have split : splitPath .file (first ++ writePath rest) = first :: rest := by
    have parts := splitPath_append here.whole
      (splitPath_writePath fun segment member => (later segment member).whole)
    rw [List.append_nil] at parts
    exact parts
  have kept (segment : List Char) (nonempty : segment ≠ []) :
      (segment :: rest).dropWhile List.isEmpty = segment :: rest := by
    rw [List.dropWhile_cons_of_neg]
    rw [List.isEmpty_eq_false_iff.mpr nonempty]
    exact Bool.false_ne_true
  unfold canonicalPath
  simp only [split, beq_self_eq_true, if_true, kept first here.nonempty, List.isEmpty_cons,
    Bool.false_eq_true, if_false, gatherPath_first settled,
    kept (withColon first) (withColon_ne_nil here.nonempty)]

/-! ### Whole addresses -/

theorem inPath_writePath {segments : List (List Char)}
    (plain : ∀ segment ∈ segments, ∀ c ∈ segment, inPath c = false) :
    ∀ c ∈ writePath segments, inPath c = false := by
  intro c member
  obtain ⟨segment, isSegment, within⟩ := List.mem_flatMap.mp member
  rcases List.mem_cons.mp within with isSlash | inner
  · rw [isSlash]
    decide
  · exact plain segment isSegment c inner

theorem isTail_of_inPath {c : Char} (plain : inPath c = false) : isTail c = false := by
  simp only [inPath, Bool.or_eq_false_iff] at plain
  rw [isTail, plain.1.1.2, plain.1.1.1.2]
  rfl

theorem above_space_of_inPath {c : Char} (plain : inPath c = false) : 0x20 < c.toNat := by
  simp only [inPath, inFragment, isControl, Bool.or_eq_false_iff, decide_eq_false_iff_not] at plain
  have notSpace : c.toNat ≠ 0x20 := by
    intro isSpace
    have same : c = ' ' := Char.toNat_inj.mp isSpace
    rw [same] at plain
    exact absurd plain.1.1.1.1.2 (by decide)
  omega

theorem fileAddress?_settled {first : List Char} {rest : List (List Char)}
    (settled : ∀ segment ∈ first :: rest, Settled segment) :
    fileAddress? ('/' :: '/' :: writePath (first :: rest)) =
      some ('/' :: '/' :: writePath (withColon first :: rest)) := by
  have whole : (writePath (first :: rest)).takeWhile (!isTail ·) = writePath (first :: rest) := by
    rw [List.takeWhile_eq_self_iff]
    intro c member
    rw [isTail_of_inPath (inPath_writePath (fun segment isIn => (settled segment isIn).plain)
      c member)]
    rfl
  have behindSlash : (writePath (first :: rest)).drop 1 = first ++ writePath rest := rfl
  have noHost : (writePath (first :: rest)).takeWhile (!endsAuthority .file ·) = [] := rfl
  have slash : (writePath (first :: rest)).head?.any (isSeparator .file) = true := rfl
  unfold fileAddress?
  simp only [List.take_succ_cons, List.take_zero, List.drop_succ_cons, List.drop_zero]
  have separators : ['/', '/'].takeWhile (isSeparator .file) = ['/', '/'] := rfl
  simp only [separators, List.length_cons, List.length_nil, if_true, noHost, whole, slash,
    behindSlash, List.isEmpty_nil, Bool.not_true, Bool.false_and, Bool.false_eq_true, if_false,
    Option.bind_eq_bind, Option.bind_some, ite_self, List.drop_length,
    canonicalPath_settled settled]
  exact congrArg some (List.append_nil _)

theorem tidy_of_plain {text : List Char} (plain : ∀ c ∈ text, 0x20 < c.toNat) :
    tidy text = text := by
  have kept (text : List Char) (plain : ∀ c ∈ text, 0x20 < c.toNat) :
      text.dropWhile (fun c => decide (c.toNat ≤ 0x20)) = text := by
    cases text with
    | nil => rfl
    | cons c rest =>
        have above := plain c List.mem_cons_self
        rw [List.dropWhile_cons_of_neg]
        simp only [decide_eq_true_eq]
        omega
  unfold tidy
  dsimp only
  rw [kept text plain, kept text.reverse fun c member => plain c (List.mem_reverse.mp member),
    List.reverse_reverse, List.filter_eq_self]
  intro c member
  have above := plain c member
  have notBlank (blank : Char) (low : blank.toNat ≤ 0x20) : (c != blank) = true := by
    rw [bne_iff_ne]
    rintro rfl
    omega
  rw [notBlank '\t' (by decide), notBlank '\n' (by decide), notBlank '\r' (by decide)]
  rfl

theorem encode_inPath_fileScheme : encode inPath fileScheme = fileScheme := by
  decide

theorem splitScheme?_file (rest : List Char) :
    splitScheme? ("file:".toList ++ rest) = some ("file", rest) := by
  simp [splitScheme?, List.takeWhile]

/-- An address in which there is nothing to encode and nothing to carry out is its own
canonical text, up to the colon of a drive letter. -/
theorem canonical?_settled {first : List Char} {rest : List (List Char)}
    (settled : ∀ segment ∈ first :: rest, Settled segment) :
    canonical? (String.ofList (fileScheme ++ writePath (first :: rest))) =
      some (String.ofList (fileScheme ++ writePath (withColon first :: rest))) := by
  have above : ∀ c ∈ fileScheme ++ writePath (first :: rest), 0x20 < c.toNat := by
    intro c member
    apply above_space_of_inPath
    rcases List.mem_append.mp member with inScheme | inText
    · exact encode_eq_self_iff.mp encode_inPath_fileScheme c inScheme
    · exact inPath_writePath (fun segment isIn => (settled segment isIn).plain) c inText
  have scheme : splitScheme? (fileScheme ++ writePath (first :: rest)) =
      some ("file", '/' :: '/' :: writePath (first :: rest)) :=
    splitScheme?_file ('/' :: '/' :: writePath (first :: rest))
  unfold canonical?
  rw [String.toList_ofList, tidy_of_plain above, scheme]
  simp only [Option.bind_eq_bind, Option.bind_some, schemeKind, if_true,
    fileAddress?_settled settled]
  rw [Option.pure_def, Option.some_inj, ← String.toList_inj]
  simp only [String.toList_append, String.toList_ofList]
  rfl

theorem canonical?_settled_inj {leftFirst rightFirst : List Char}
    {leftRest rightRest : List (List Char)}
    (leftSettled : ∀ segment ∈ leftFirst :: leftRest, Settled segment)
    (rightSettled : ∀ segment ∈ rightFirst :: rightRest, Settled segment)
    (same : canonical? (String.ofList (fileScheme ++ writePath (leftFirst :: leftRest))) =
      canonical? (String.ofList (fileScheme ++ writePath (rightFirst :: rightRest)))) :
    withColon leftFirst = withColon rightFirst ∧ leftRest = rightRest := by
  have whole {first : List Char} {rest : List (List Char)}
      (settled : ∀ segment ∈ first :: rest, Settled segment) :
      ∀ segment ∈ withColon first :: rest, ∀ c ∈ segment, isSeparator .file c = false := by
    obtain ⟨here, later⟩ := List.forall_mem_cons.mp settled
    exact List.forall_mem_cons.mpr
      ⟨whole_withColon here.whole, fun segment member => (later segment member).whole⟩
  rw [canonical?_settled leftSettled, canonical?_settled rightSettled, Option.some_inj,
    String.ofList_inj, List.append_cancel_left_eq] at same
  exact List.cons.inj (writePath_inj (whole leftSettled) (whole rightSettled) same)

/-! ### Comparing addresses -/

theorem sameDocument_iff {left right : String} :
    sameDocument left right = true ↔
      left = right ∨ ((canonical? left).isSome = true ∧ canonical? left = canonical? right) := by
  rw [sameDocument, Bool.or_eq_true, beq_iff_eq]
  cases isLeft : canonical? left with
  | none => simp
  | some first =>
      cases isRight : canonical? right with
      | none => simp
      | some second => simp

end SymbolJump.Uri
