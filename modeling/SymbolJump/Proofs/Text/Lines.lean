/-
The shape of the lines of a text.

Only the last line can be empty, and a line feed always ends a line: the lines
of a text with a line feed in it are those of the part before, whose last line
takes the feed, followed by those of the part behind. The one exception is a
part that ends with CR. Its last two lines, one of them empty, become one.
-/

import SymbolJump.Text.Lines

namespace SymbolJump.Text

/-! ### One character in front -/

theorem isLineBreak_carriageReturn : isLineBreak '\r' = true := by decide

theorem isLineBreak_lineFeed : isLineBreak '\n' = true := by decide

/-- A break is a line of its own, unless it is the CR of a CR LF. -/
theorem lines_cons_break {c : Char} {rest : List Char} (isBreak : isLineBreak c = true)
    (notPair : c = '\r' → rest.head? ≠ some '\n') :
    lines (c :: rest) = [c] :: lines rest := by
  rw [lines]
  · rw [if_pos isBreak]
  · intro tail isReturn startsWithFeed
    exact notPair isReturn (by rw [startsWithFeed]; rfl)

theorem lines_cons_plain {c : Char} {rest line : List Char} {others : List (List Char)}
    (plain : isLineBreak c = false) (found : lines rest = line :: others) :
    lines (c :: rest) = (c :: line) :: others := by
  rw [lines]
  · rw [found, if_neg (by rw [plain]; exact Bool.false_ne_true)]
  · intro tail isReturn startsWithFeed
    rw [isReturn, isLineBreak_carriageReturn] at plain
    cases plain

/-! ### Lines by number -/

theorem lineCount_pos (text : List Char) : 0 < lineCount text :=
  List.length_pos_iff.mpr (lines_ne_nil text)

/-- A line that another one follows holds at least its break. -/
theorem length_pos_of_not_last {text line : List Char} {number : Nat}
    (found : line? text number = some line) (followed : number + 1 < lineCount text) :
    0 < line.length := by
  unfold line? at found
  unfold lineCount at followed
  fun_induction lines text generalizing number with
  | case1 => simp at followed
  | case2 rest ih =>
      cases number with
      | zero =>
          cases found
          decide
      | succ number => exact ih found (by simpa using followed)
  | case3 c rest _ isBreak ih =>
      cases number with
      | zero =>
          cases found
          exact Nat.one_pos
      | succ number => exact ih found (by simpa using followed)
  | case4 c rest _ notBreak empty ih => exact absurd empty (lines_ne_nil rest)
  | case5 c rest _ notBreak first others known ih =>
      rw [known] at ih
      cases number with
      | zero =>
          cases found
          exact Nat.succ_pos _
      | succ number =>
          have sameLine : (first :: others)[number + 1]? = some line := found
          exact ih sameLine followed

theorem lineCount_le (text : List Char) : lineCount text ≤ text.length + 1 := by
  unfold lineCount
  fun_induction lines text with
  | case1 => exact Nat.le_refl 1
  | case2 rest ih =>
      simp only [List.length_cons]
      omega
  | case3 c rest _ isBreak ih =>
      simp only [List.length_cons]
      omega
  | case4 c rest _ notBreak empty ih => exact absurd empty (lines_ne_nil rest)
  | case5 c rest _ notBreak first others known ih =>
      rw [known] at ih
      simp only [List.length_cons] at ih ⊢
      omega

inductive Ending : List Char → Prop where
  | none : Ending []
  | single (c : Char) (isBreak : isLineBreak c = true) : Ending [c]
  | pair : Ending ['\r', '\n']

theorem Ending.isLineBreak {ending : List Char} (ends : Ending ending) :
    ∀ c ∈ ending, isLineBreak c = true := by
  intro c member
  cases ends with
  | none => cases member
  | single own isBreak =>
      rw [List.mem_singleton.mp member]
      exact isBreak
  | pair =>
      simp only [List.mem_cons, List.not_mem_nil, or_false] at member
      rcases member with rfl | rfl
      · exact isLineBreak_carriageReturn
      · exact isLineBreak_lineFeed

/-- Breaks stand only at the end of a line, and only the last line may lack one. -/
theorem exists_body_ending {text line : List Char} {number : Nat}
    (found : line? text number = some line) :
    ∃ body ending, line = body ++ ending ∧ (∀ c ∈ body, isLineBreak c = false) ∧
      Ending ending ∧ (number + 1 < lineCount text → ending ≠ []) := by
  unfold line? at found
  unfold lineCount
  fun_induction lines text generalizing number line with
  | case1 =>
      cases number with
      | zero =>
          cases found
          exact ⟨[], [], rfl, by simp, .none, by simp⟩
      | succ number => cases found
  | case2 rest ih =>
      cases number with
      | zero =>
          cases found
          exact ⟨[], _, rfl, by simp, .pair, by simp⟩
      | succ number =>
          obtain ⟨body, ending, isLine, plain, ends, followed⟩ := ih found
          exact ⟨body, ending, isLine, plain, ends, fun more => followed (by simpa using more)⟩
  | case3 c rest _ isBreak ih =>
      cases number with
      | zero =>
          cases found
          exact ⟨[], _, rfl, by simp, .single c isBreak, by simp⟩
      | succ number =>
          obtain ⟨body, ending, isLine, plain, ends, followed⟩ := ih found
          exact ⟨body, ending, isLine, plain, ends, fun more => followed (by simpa using more)⟩
  | case4 c rest _ notBreak empty ih => exact absurd empty (lines_ne_nil rest)
  | case5 c rest _ notBreak first others known ih =>
      rw [known] at ih
      cases number with
      | zero =>
          cases found
          obtain ⟨body, ending, rfl, plain, ends, followed⟩ :=
            ih (rfl : (first :: others)[0]? = some first)
          refine ⟨c :: body, ending, rfl, ?_, ends, followed⟩
          exact List.forall_mem_cons.mpr ⟨Bool.eq_false_iff.mpr notBreak, plain⟩
      | succ number =>
          have sameLine : (first :: others)[number + 1]? = some line := found
          exact ih sameLine

/-- A line with a break is not the last one. -/
theorem followed_of_break {text line : List Char} {number : Nat}
    (found : line? text number = some line) {c : Char} (isBreak : isLineBreak c = true)
    (member : c ∈ line) : number + 1 < lineCount text := by
  unfold line? at found
  unfold lineCount
  fun_induction lines text generalizing number line with
  | case1 =>
      cases number with
      | zero =>
          cases found
          cases member
      | succ number => cases found
  | case2 rest ih =>
      have more := lineCount_pos rest
      cases number with
      | zero => exact Nat.succ_lt_succ more
      | succ number => exact Nat.succ_lt_succ (ih found member)
  | case3 own rest _ _ ih =>
      have more := lineCount_pos rest
      cases number with
      | zero => exact Nat.succ_lt_succ more
      | succ number => exact Nat.succ_lt_succ (ih found member)
  | case4 own rest _ notBreak empty ih => exact absurd empty (lines_ne_nil rest)
  | case5 own rest _ notBreak first others known ih =>
      rw [known] at ih
      cases number with
      | zero =>
          cases found
          rcases List.mem_cons.mp member with rfl | later
          · exact absurd isBreak notBreak
          · exact ih (rfl : (first :: others)[0]? = some first) later
      | succ number =>
          have sameLine : (first :: others)[number + 1]? = some line := found
          exact ih sameLine member

theorem drop_flatten {lines : List (List Char)} {number : Nat} {line : List Char}
    (isLine : lines[number]? = some line) {column : Nat} (inLine : column ≤ line.length) :
    lines.flatten.drop ((lines.take number).flatten.length + column) =
      line.drop column ++ (lines.drop (number + 1)).flatten := by
  induction lines generalizing number with
  | nil => cases isLine
  | cons first rest ih =>
      cases number with
      | zero =>
          cases isLine
          rw [List.take_zero, List.flatten_nil, List.length_nil, Nat.zero_add, List.flatten_cons,
            List.drop_append_of_le_length inLine]
          rfl
      | succ number =>
          rw [List.take_succ_cons, List.flatten_cons, List.flatten_cons, List.length_append,
            Nat.add_assoc, List.drop_length_add_append, ih isLine]
          rfl

/-! ### A line feed in the text -/

/-- How the lines of a text go on when a line feed follows it. The second form is that of a
text that ends with CR. -/
inductive FeedSeam (text : List Char) : Prop where
  | plain (before : List (List Char)) (last : List Char)
      (alone : lines text = before ++ [last])
      (joined : ∀ rest, lines (text ++ '\n' :: rest) = before ++ (last ++ ['\n']) :: lines rest)
  | pair (before : List (List Char)) (last : List Char)
      (alone : lines text = before ++ [last ++ ['\r'], []])
      (joined : ∀ rest,
        lines (text ++ '\n' :: rest) = before ++ (last ++ ['\r', '\n']) :: lines rest)

theorem FeedSeam.cons_line {text longer line : List Char} (seam : FeedSeam text)
    (alone : lines longer = line :: lines text)
    (joined : ∀ rest, lines (longer ++ '\n' :: rest) = line :: lines (text ++ '\n' :: rest)) :
    FeedSeam longer := by
  cases seam with
  | plain before last known continued =>
      refine .plain (line :: before) last (by rw [alone, known]; rfl) ?_
      intro rest
      rw [joined, continued]
      rfl
  | pair before last known continued =>
      refine .pair (line :: before) last (by rw [alone, known]; rfl) ?_
      intro rest
      rw [joined, continued]
      rfl

theorem FeedSeam.cons_plain {text : List Char} {c : Char} (seam : FeedSeam text)
    (plain : isLineBreak c = false) : FeedSeam (c :: text) := by
  cases seam with
  | plain before last known continued =>
      cases before with
      | nil =>
          exact .plain [] (c :: last) (lines_cons_plain plain known)
            (fun rest => lines_cons_plain plain (continued rest))
      | cons first others =>
          exact .plain ((c :: first) :: others) last (lines_cons_plain plain known)
            (fun rest => lines_cons_plain plain (continued rest))
  | pair before last known continued =>
      cases before with
      | nil =>
          exact .pair [] (c :: last) (lines_cons_plain plain known)
            (fun rest => lines_cons_plain plain (continued rest))
      | cons first others =>
          exact .pair ((c :: first) :: others) last (lines_cons_plain plain known)
            (fun rest => lines_cons_plain plain (continued rest))

theorem feedSeam (text : List Char) : FeedSeam text := by
  fun_induction lines text with
  | case1 =>
      refine .plain [] [] rfl ?_
      intro rest
      refine lines_cons_break isLineBreak_lineFeed ?_
      intro impossible
      cases impossible
  | case2 rest ih => exact ih.cons_line (by rw [lines]) (fun more => by simp [lines])
  | case3 c rest notPair isBreak ih =>
      by_cases atEnd : c = '\r' ∧ rest = []
      · obtain ⟨rfl, rfl⟩ := atEnd
        refine .pair [] [] (by decide) ?_
        intro more
        simp [lines]
      · -- Only a CR at the very end meets the feed; here another character stands between.
        have apart (more : List Char) : c = '\r' → (rest ++ '\n' :: more).head? ≠ some '\n' := by
          intro isReturn
          cases rest with
          | nil => exact absurd ⟨isReturn, rfl⟩ atEnd
          | cons next tail =>
              intro startsWithFeed
              have isFeed : next = '\n' := by simpa using startsWithFeed
              exact notPair tail isReturn (by rw [isFeed])
        refine ih.cons_line (lines_cons_break isBreak ?_)
          (fun more => lines_cons_break isBreak (apart more))
        intro isReturn startsWithFeed
        obtain ⟨tail, isTail⟩ := List.head?_eq_some_iff.mp startsWithFeed
        exact notPair tail isReturn isTail
  | case4 c rest _ notBreak empty ih => exact absurd empty (lines_ne_nil rest)
  | case5 c rest _ notBreak first others known ih =>
      exact ih.cons_plain (Bool.eq_false_iff.mpr notBreak)

/-- CR followed by LF always ends a line as one break. -/
theorem exists_pair_line (before after : List Char) :
    ∃ front body, lines (before ++ '\r' :: '\n' :: after) =
        front ++ (body ++ ['\r', '\n']) :: lines after ∧
      front.flatten ++ body = before := by
  fun_induction lines before with
  | case1 => exact ⟨[], [], by rw [List.nil_append, lines]; rfl, rfl⟩
  | case2 rest ih =>
      obtain ⟨front, body, isLines, isBefore⟩ := ih
      refine ⟨['\r', '\n'] :: front, body, ?_, ?_⟩
      · rw [List.cons_append, List.cons_append, lines, isLines]
        rfl
      · rw [← isBefore]
        rfl
  | case3 c rest notPair isBreak ih =>
      obtain ⟨front, body, isLines, isBefore⟩ := ih
      refine ⟨[c] :: front, body, ?_, by rw [← isBefore]; rfl⟩
      rw [List.cons_append, lines_cons_break isBreak, isLines]
      · rfl
      · intro isReturn startsWithFeed
        cases rest with
        | nil => exact absurd (Option.some.inj startsWithFeed) (by decide)
        | cons next tail =>
            have isFeed : next = '\n' := Option.some.inj startsWithFeed
            exact notPair tail isReturn (by rw [isFeed])
  | case4 c rest _ notBreak empty ih => exact absurd empty (lines_ne_nil rest)
  | case5 c rest _ notBreak first others known ih =>
      obtain ⟨front, body, isLines, isBefore⟩ := ih
      have plain : isLineBreak c = false := Bool.eq_false_iff.mpr notBreak
      cases front with
      | nil =>
          refine ⟨[], c :: body, lines_cons_plain plain isLines, ?_⟩
          rw [← isBefore]
          rfl
      | cons line lines =>
          refine ⟨(c :: line) :: lines, body, lines_cons_plain plain isLines, ?_⟩
          rw [← isBefore]
          rfl

/-! ### The part of a line that rules see -/

theorem cutLine_append_of_plain {body : List Char} (plain : ∀ c ∈ body, isLineBreak c = false)
    (rest : List Char) : cutLine (body ++ rest) = body ++ cutLine rest := by
  refine List.takeWhile_append_of_pos ?_
  intro c member
  have noBreak := plain c member
  rw [Bool.and_eq_true, bne_iff_ne, bne_iff_ne]
  constructor
  · rintro rfl
    exact absurd noBreak (by decide)
  · rintro rfl
    exact absurd noBreak (by decide)

theorem cutLine_of_plain {body : List Char} (plain : ∀ c ∈ body, isLineBreak c = false) :
    cutLine body = body := by
  have whole := cutLine_append_of_plain plain []
  rw [List.append_nil] at whole
  rw [whole]
  exact List.append_nil body

theorem cutLine_append_break {c : Char} (cuts : c = '\r' ∨ c = '\n') (line rest : List Char) :
    cutLine (line ++ c :: rest) = cutLine line := by
  unfold cutLine
  induction line with
  | nil =>
      rw [List.nil_append, List.takeWhile_nil, List.takeWhile_cons_of_neg]
      rcases cuts with rfl | rfl <;> decide
  | cons first line ih => rw [List.cons_append, List.takeWhile_cons, List.takeWhile_cons, ih]

theorem cutLine_without {c : Char} (cuts : c = '\r' ∨ c = '\n') (line : List Char) :
    cutLine (if line.getLast? = some c then line.dropLast else line) = cutLine line := by
  split
  · next ends =>
      obtain ⟨body, rfl⟩ := List.getLast?_eq_some_iff.mp ends
      rw [List.dropLast_concat, cutLine_append_break cuts]
  · rfl

theorem cutLine_lineContent (line : List Char) : cutLine (lineContent line) = cutLine line := by
  unfold lineContent
  rw [cutLine_without (.inl rfl), cutLine_without (.inr rfl)]

theorem length_cutLine_le (line : List Char) : (cutLine line).length ≤ line.length :=
  (List.takeWhile_sublist _).length_le

theorem length_cutLine_le_content (line : List Char) :
    (cutLine line).length ≤ (lineContent line).length := by
  rw [← cutLine_lineContent line]
  exact length_cutLine_le (lineContent line)

end SymbolJump.Text
