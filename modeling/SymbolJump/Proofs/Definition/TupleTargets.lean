/-
Tuples of names as the targets of assignments and loops.

Every name of a bare tuple is a definition. Of a tuple in parentheses only the
first name is: the rules look for the opening parenthesis behind the names that
precede the bound one, but there it stands ahead of all of them.
-/

import Mathlib.Data.List.Chain
import SymbolJump.Proofs.Definition.Comments
import SymbolJump.Proofs.Definition.PythonRules
import SymbolJump.Proofs.Text.Word

namespace SymbolJump.Definition.Python

open Text Pattern

/-! ### Lines with tuples -/

/-- An identifier made of ASCII characters. -/
def isPlainName (name : List Char) : Bool :=
  isIdentifier name && name.all (·.toNat < 0x80)

/-- The statements with a target that may be a tuple. -/
inductive Binder where
  | assignment
  | loop
  deriving DecidableEq, Repr

namespace Binder

def rule : Binder → Rule
  | assignment => assignmentRule
  | loop => forRule

def keyword : Binder → List Char
  | assignment => []
  | loop => "for ".toList

/-- What precedes the target. -/
def lead (binder : Binder) (indent : Nat) : List Char :=
  List.replicate indent ' ' ++ binder.keyword

/-- What follows the target. -/
def rest (value : List Char) : Binder → List Char
  | assignment => " = ".toList ++ value
  | loop => " in ".toList ++ (value ++ [':'])

def line (binder : Binder) (indent : Nat) (target value : List Char) : List Char :=
  binder.lead indent ++ target ++ binder.rest value

end Binder

def tuple (names : List (List Char)) : List Char :=
  List.intercalate ", ".toList names

def enclosed (target : List Char) : List Char :=
  '(' :: (target ++ [')'])

/-- Names with a comma behind each. -/
def led (names : List (List Char)) : List Char :=
  names.flatMap (· ++ ", ".toList)

/-- How far into its tuple a name stands. -/
def nameColumn (names : List (List Char)) (index : Nat) : Nat :=
  (led (names.take index)).length

/-- The rule for the occurrence of a name at a column of a line. -/
def ruleAt? (line name : List Char) (column : Nat) : Option Rule :=
  ruleSet.definitionRule? (line.take column) (line.drop (column + name.length))

/-! ### The names around one name -/

/-- Names with a comma ahead of each. -/
def trailed (names : List (List Char)) : List Char :=
  names.flatMap (", ".toList ++ ·)

theorem tuple_cons (name : List Char) (later : List (List Char)) :
    tuple (name :: later) = name ++ trailed later := by
  induction later generalizing name with
  | nil => simp [tuple, trailed]
  | cons next later ih =>
      have others := ih next
      unfold tuple trailed at *
      rw [List.intercalate_cons_cons, others, List.flatMap_cons]
      simp

theorem tuple_append (earlier later : List (List Char)) (name : List Char) :
    tuple (earlier ++ name :: later) = led earlier ++ (name ++ trailed later) := by
  induction earlier with
  | nil => exact tuple_cons name later
  | cons first earlier ih =>
      unfold tuple led at *
      rw [List.cons_append, List.intercalate_cons_of_ne_nil (by simp), ih, List.flatMap_cons]
      simp

/-- The texts that rules see around one name of a tuple. -/
theorem ruleAt?_tuple {names : List (List Char)} {index : Nat} (inRange : index < names.length)
    (front back : List Char) :
    names[index] <+: (front ++ tuple names ++ back).drop (front.length + nameColumn names index) ∧
      ruleAt? (front ++ tuple names ++ back) names[index]
          (front.length + nameColumn names index) =
        ruleSet.definitionRule? (front ++ led (names.take index))
          (trailed (names.drop (index + 1)) ++ back) := by
  have around : tuple names =
      led (names.take index) ++ (names[index] ++ trailed (names.drop (index + 1))) := by
    rw [← tuple_append, ← List.drop_eq_getElem_cons inRange, List.take_append_drop]
  have isLine : front ++ tuple names ++ back = (front ++ led (names.take index)) ++
      (names[index] ++ (trailed (names.drop (index + 1)) ++ back)) := by
    rw [around]
    simp only [List.append_assoc]
  rw [isLine, nameColumn, ← List.length_append]
  constructor
  · rw [List.drop_left]
    exact List.prefix_append _ _
  · rw [ruleAt?, List.take_left, ← List.drop_drop, List.drop_left, List.drop_left]

/-! ### Characters of lists -/

/-- A name as the rules see it. -/
def IsWord (name : List Char) : Prop :=
  name ≠ [] ∧ ∀ c ∈ name, isWordChar c = true

theorem isWord_of_isPlainName {name : List Char} (plain : isPlainName name = true) :
    IsWord name := by
  rw [isPlainName, Bool.and_eq_true, List.all_eq_true] at plain
  obtain ⟨identifier, ascii⟩ := plain
  constructor
  · rintro rfl
    cases identifier
  · intro c member
    have belongs := isIdentifierChar_of_mem identifier c member
    have isAscii : c.toNat < 0x80 := of_decide_eq_true (ascii c member)
    simp only [isIdentifierChar, isAlphabetic, isNumeric, if_pos isAscii] at belongs
    rw [isWordChar, if_pos isAscii]
    exact belongs

def isListChar (c : Char) : Bool :=
  isWordChar c || c == ',' || c == ' '

theorem isListChar_of_mem_led {names : List (List Char)} (words : ∀ name ∈ names, IsWord name) :
    ∀ c ∈ led names, isListChar c = true := by
  intro c member
  obtain ⟨name, isName, inName⟩ := List.mem_flatMap.mp member
  rcases List.mem_append.mp inName with inWord | inSeparator
  · simp [isListChar, (words name isName).2 c inWord]
  · have separator : ", ".toList.all isListChar = true := by decide
    exact List.all_eq_true.mp separator c inSeparator

theorem isListChar_of_mem_lead (binder : Binder) (indent : Nat) :
    ∀ c ∈ binder.lead indent, isListChar c = true := by
  intro c member
  rcases List.mem_append.mp member with inMargin | inKeyword
  · rw [List.eq_of_mem_replicate inMargin]
    decide
  · have keyword : binder.keyword.all isListChar = true := by cases binder <;> decide
    exact List.all_eq_true.mp keyword c inKeyword

theorem isListChar_of_mem_names (binder : Binder) {names : List (List Char)}
    (words : ∀ name ∈ names, IsWord name) (indent : Nat) :
    ∀ c ∈ binder.lead indent ++ led names, isListChar c = true := by
  intro c member
  rcases List.mem_append.mp member with inLead | inNames
  · exact isListChar_of_mem_lead binder indent c inLead
  · exact isListChar_of_mem_led words c inNames

theorem IsOpening.not_mem {opening : List Char} {c : Char} (isOpening : IsOpening opening)
    (isInk : isBlank c = false) (isOther : c ≠ '(') : c ∉ opening := by
  intro member
  rcases isOpening with rfl | ⟨blank, rfl, allBlank⟩
  · cases member
  · rcases List.mem_cons.mp member with isParenthesis | inBlank
    · exact isOther isParenthesis
    · rw [allBlank c inBlank] at isInk
      cases isInk

theorem not_mem_of_isListChar {text : List Char} (allList : ∀ c ∈ text, isListChar c = true)
    {c : Char} (other : isListChar c = false) : c ∉ text := by
  intro member
  rw [allList c member] at other
  cases other

theorem isBlank_of_mem_margin (indent : Nat) :
    ∀ c ∈ List.replicate indent ' ', isBlank c = true := by
  intro c member
  rw [List.eq_of_mem_replicate member]
  decide

theorem lastInk?_led (first : List Char) (names : List (List Char)) (front : List Char) :
    lastInk? (front ++ led (first :: names)) = some ',' := by
  apply lastInk?_append_of_some
  induction names generalizing first with
  | nil =>
      unfold led
      rw [List.flatMap_singleton]
      exact lastInk?_append_of_some rfl first
  | cons next names ih =>
      unfold led at *
      rw [List.flatMap_cons]
      exact lastInk?_append_of_some (ih next) _

/-- White space stands only behind commas. -/
def CommaBeforeBlank (c d : Char) : Prop :=
  isBlank d = true → c = ','

theorem isChain_word_append {word text : List Char} (allWord : ∀ c ∈ word, isWordChar c = true)
    (behind : List.IsChain CommaBeforeBlank (',' :: text)) (front : Char) :
    List.IsChain CommaBeforeBlank (front :: (word ++ ',' :: text)) := by
  induction word generalizing front with
  | nil =>
      refine List.isChain_cons_cons.mpr ⟨?_, behind⟩
      intro isBlank
      exact absurd isBlank (by decide)
  | cons c word ih =>
      obtain ⟨isWord, restWord⟩ := List.forall_mem_cons.mp allWord
      refine List.isChain_cons_cons.mpr ⟨?_, ih restWord c⟩
      intro isBlank
      rw [isBlank_of_isWordChar isWord] at isBlank
      cases isBlank

theorem isChain_led {names : List (List Char)} (words : ∀ name ∈ names, IsWord name)
    (front : Char) : List.IsChain CommaBeforeBlank (front :: led names) := by
  induction names generalizing front with
  | nil => exact .singleton front
  | cons name names ih =>
      obtain ⟨⟨_, allWord⟩, others⟩ := List.forall_mem_cons.mp words
      rw [led, List.flatMap_cons, List.append_assoc]
      apply isChain_word_append allWord
      exact List.isChain_cons_cons.mpr ⟨fun _ => rfl, ih others ' '⟩

/-! ### A target is accepted -/

theorem reads_led {names : List (List Char)} (words : ∀ name ∈ names, IsWord name)
    (front back : List Char) : namesBefore.Reads front (led names) back := by
  induction names generalizing front with
  | nil => exact reads_many_nil
  | cons name names ih =>
      obtain ⟨⟨nonempty, allWord⟩, others⟩ := List.forall_mem_cons.mp words
      refine reads_many_append ?_ (ih others _)
      refine reads_sequence_cons name (reads_several_dotted_iff.mpr ⟨nonempty, ?_⟩) ?_
      · intro c member
        simp [isDotted, allWord c member]
      · refine reads_sequence_cons [] (reads_blanks_iff.mpr (by simp)) ?_
        refine reads_sequence_cons [','] (reads_char_iff.mpr rfl) ?_
        exact reads_sequence_singleton_iff.mpr (reads_blanks_iff.mpr (isBlank_of_mem_margin 1))

theorem reads_trailed {names : List (List Char)} (words : ∀ name ∈ names, IsWord name)
    (front back : List Char) : namesAfter.Reads front (trailed names) back := by
  induction names generalizing front with
  | nil => exact reads_many_nil
  | cons name names ih =>
      obtain ⟨⟨nonempty, allWord⟩, others⟩ := List.forall_mem_cons.mp words
      refine reads_many_append ?_ (ih others _)
      refine reads_sequence_cons [','] (reads_char_iff.mpr rfl) ?_
      refine reads_sequence_cons [' '] (reads_blanks_iff.mpr (isBlank_of_mem_margin 1)) ?_
      refine reads_sequence_cons_iff.mpr ⟨name, [], by simp, ?_, ?_⟩
      · refine reads_several_dotted_iff.mpr ⟨nonempty, ?_⟩
        intro c member
        simp [isDotted, allWord c member]
      · exact reads_sequence_singleton_iff.mpr (reads_blanks_iff.mpr (by simp))

section

variable {earlier later : List (List Char)} {opening closing : List Char}

theorem reads_maybeClose {front back : List Char} (isClosing : closing = [] ∨ closing = [')']) :
    (optional (char ')')).Reads front closing back :=
  reads_optional_iff.mpr (isClosing.imp_right reads_char_iff.mpr)

theorem assignment_matches_before (words : ∀ name ∈ earlier, IsWord name)
    (isOpening : IsOpening opening) (indent : Nat) :
    assignmentRule.before.all
      (·.isMatch (List.replicate indent ' ' ++ (led earlier ++ opening))) = true := by
  refine (isMatch_stop_iff [start, optional (sequence [many (chars .inLine), char ';']), blanks,
    namesBefore, maybeOpen]).mpr ⟨[], _, rfl, ?_⟩
  refine reads_sequence_cons [] (reads_start_iff.mpr ⟨rfl, rfl⟩) ?_
  refine reads_sequence_cons [] (reads_optional_iff.mpr (.inl rfl)) ?_
  refine reads_sequence_cons _ (reads_blanks_iff.mpr (isBlank_of_mem_margin indent)) ?_
  refine reads_sequence_cons _ (reads_led words _ _) ?_
  exact reads_sequence_singleton_iff.mpr (reads_maybeOpen_iff.mpr isOpening)

theorem assignment_matches_after (words : ∀ name ∈ later, IsWord name)
    (isClosing : closing = [] ∨ closing = [')']) (value : List Char) :
    assignmentRule.after.all
      (·.isMatch (trailed later ++ (closing ++ (" = ".toList ++ value)))) = true := by
  refine isMatch_start_iff.mpr ⟨trailed later ++ (closing ++ " = ".toList), value, by simp, ?_⟩
  refine reads_sequence_cons [] (reads_blanks_iff.mpr (by simp)) ?_
  refine reads_sequence_cons _ (reads_trailed words _ _) ?_
  refine reads_sequence_cons _ (reads_maybeClose isClosing) ?_
  refine reads_sequence_cons [' '] (reads_blanks_iff.mpr (isBlank_of_mem_margin 1)) ?_
  refine reads_sequence_cons [] (reads_optional_iff.mpr (.inl rfl)) ?_
  refine reads_sequence_cons ['='] (reads_char_iff.mpr rfl) ?_
  exact reads_sequence_singleton_iff.mpr (.inl (reads_noneOf_iff.mpr ⟨' ', rfl, by decide⟩))

theorem loop_matches_before (words : ∀ name ∈ earlier, IsWord name)
    (isOpening : IsOpening opening) (indent : Nat) :
    forRule.before.all
      (·.isMatch (Binder.loop.lead indent ++ (led earlier ++ opening))) = true := by
  refine (isMatch_stop_iff [edge, literal "for", gap, namesBefore, maybeOpen]).mpr
    ⟨List.replicate indent ' ', "for ".toList ++ (led earlier ++ opening),
      List.append_assoc _ _ _, ?_⟩
  have noWord : (List.replicate indent ' ').getLast?.any isWordChar = false := by
    rw [List.getLast?_replicate]
    split <;> decide
  refine reads_sequence_cons [] (reads_edge_iff.mpr ⟨rfl, ?_⟩) ?_
  · rw [noWord]
    exact Bool.false_ne_true
  · refine reads_sequence_cons "for".toList (reads_literal_iff.mpr rfl) ?_
    refine reads_sequence_cons [' '] (reads_gap_iff.mpr ⟨by simp, isBlank_of_mem_margin 1⟩) ?_
    refine reads_sequence_cons _ (reads_led words _ _) ?_
    exact reads_sequence_singleton_iff.mpr (reads_maybeOpen_iff.mpr isOpening)

theorem loop_matches_after (words : ∀ name ∈ later, IsWord name)
    (isClosing : closing = [] ∨ closing = [')']) (value : List Char) :
    forRule.after.all
      (·.isMatch (trailed later ++ (closing ++ (" in ".toList ++ value)))) = true := by
  refine isMatch_start_iff.mpr
    ⟨trailed later ++ (closing ++ " in".toList), ' ' :: value, by simp, ?_⟩
  refine reads_sequence_cons [] (reads_blanks_iff.mpr (by simp)) ?_
  refine reads_sequence_cons _ (reads_trailed words _ _) ?_
  refine reads_sequence_cons _ (reads_maybeClose isClosing) ?_
  refine reads_sequence_cons [' '] (reads_gap_iff.mpr ⟨by simp, isBlank_of_mem_margin 1⟩) ?_
  refine reads_sequence_cons "in".toList (reads_literal_iff.mpr rfl) ?_
  refine reads_sequence_singleton_iff.mpr (reads_edge_iff.mpr ⟨rfl, ?_⟩)
  rw [List.getLast?_append]
  change Option.any isWordChar (some 'n') ≠ Option.any isWordChar (some ' ')
  decide

theorem accepts_target (binder : Binder) (before : ∀ name ∈ earlier, IsWord name)
    (behind : ∀ name ∈ later, IsWord name) (isOpening : IsOpening opening)
    (isClosing : closing = [] ∨ closing = [')']) (indent : Nat) (value : List Char) :
    binder.rule.accepts (binder.lead indent ++ (led earlier ++ opening))
      (trailed later ++ (closing ++ binder.rest value)) = true := by
  rw [Rule.accepts, Bool.and_eq_true]
  cases binder with
  | assignment =>
      rw [Binder.lead, Binder.keyword, List.append_nil]
      exact ⟨assignment_matches_before before isOpening indent,
        assignment_matches_after behind isClosing value⟩
  | loop =>
      exact ⟨loop_matches_before before isOpening indent,
        loop_matches_after behind isClosing (value ++ [':'])⟩

/-! ### No earlier rule accepts it -/

/-- The rules that end with a keyword refuse a name behind other ink. -/
theorem refused_by_lastInk {before : List Char}
    (isLast : ∀ c, lastInk? before = some c → c = '(' ∨ c = ',' ∨ c = 'r') (after : List Char) :
    functionRule.accepts before after = false ∧ classRule.accepts before after = false ∧
      aliasRule.accepts before after = false := by
  simp only [← Bool.not_eq_true]
  refine ⟨?_, ?_, ?_⟩
  · intro accepted
    exact absurd (isLast _ (lastInk?_of_function accepted)) (by decide)
  · intro accepted
    exact absurd (isLast _ (lastInk?_of_class accepted)) (by decide)
  · intro accepted
    exact absurd (isLast _ (lastInk?_of_alias accepted)) (by decide)

theorem lastInk?_target (binder : Binder) (earlier : List (List Char))
    (isOpening : IsOpening opening) (indent : Nat) (c : Char)
    (isLast : lastInk? (binder.lead indent ++ (led earlier ++ opening)) = some c) :
    c = '(' ∨ c = ',' ∨ c = 'r' := by
  rcases isOpening with rfl | ⟨blank, rfl, allBlank⟩
  · rw [List.append_nil] at isLast
    cases earlier with
    | cons first others =>
        rw [lastInk?_led] at isLast
        exact .inr (.inl (Option.some.inj isLast).symm)
    | nil =>
        cases binder with
        | loop =>
            have keyword : lastInk? Binder.loop.keyword = some 'r' := rfl
            rw [led, List.flatMap_nil, List.append_nil, Binder.lead,
              lastInk?_append_of_some keyword] at isLast
            exact .inr (.inr (Option.some.inj isLast).symm)
        | assignment =>
            have nothing : lastInk? (List.replicate indent ' ') = none :=
              lastInk?_append_of_blank (isBlank_of_mem_margin indent) []
            rw [led, List.flatMap_nil, List.append_nil, Binder.lead, Binder.keyword,
              List.append_nil, nothing] at isLast
            cases isLast
  · rw [← List.append_assoc, lastInk?_cons_of_blank allBlank (by decide)] at isLast
    exact .inl (Option.some.inj isLast).symm

theorem inkFrom_lead (binder : Binder) (indent : Nat) (text : List Char) :
    inkFrom (binder.lead indent ++ text) = inkFrom (binder.keyword ++ text) := by
  rw [Binder.lead, List.append_assoc]
  exact inkFrom_append_of_blank (isBlank_of_mem_margin indent) _

/-- Ahead of a parenthesis there is at most the keyword, which none of these rules begins
with. -/
theorem refused_behind_parenthesis (binder : Binder) (indent : Nat) (text after : List Char) :
    parameterRule.accepts (binder.lead indent ++ '(' :: text) after = false ∧
      importRule.accepts (binder.lead indent ++ '(' :: text) after = false ∧
      fromImportRule.accepts (binder.lead indent ++ '(' :: text) after = false := by
  have ink : inkFrom (binder.lead indent ++ '(' :: text) = binder.keyword ++ '(' :: text := by
    rw [inkFrom_lead]
    cases binder <;> exact inkFrom_cons (by decide) _
  simp only [← Bool.not_eq_true]
  refine ⟨?_, ?_, ?_⟩
  · intro accepted
    have begins := (ink_of_parameter accepted).2
    rw [ink] at begins
    rcases begins with ⟨rest, begins⟩ | ⟨rest, begins⟩ <;> cases binder <;> cases begins
  · intro accepted
    obtain ⟨rest, begins⟩ := ink_of_import accepted
    rw [ink] at begins
    cases binder <;> cases begins
  · intro accepted
    obtain ⟨rest, begins⟩ := ink_of_fromImport accepted
    rw [ink] at begins
    cases binder <;> cases begins

theorem parameter_refuses_target (binder : Binder) (words : ∀ name ∈ earlier, IsWord name)
    (isOpening : IsOpening opening) (apart : opening = [] ∨ earlier = []) (indent : Nat)
    (after : List Char) :
    parameterRule.accepts (binder.lead indent ++ (led earlier ++ opening)) after = false := by
  rcases isOpening with rfl | ⟨blank, rfl, _⟩
  · rw [← Bool.not_eq_true]
    intro accepted
    have inside := (ink_of_parameter accepted).1
    rw [List.append_nil] at inside
    exact not_mem_of_isListChar (isListChar_of_mem_names binder words indent) (by decide) inside
  · rcases apart with impossible | rfl
    · cases impossible
    · exact (refused_behind_parenthesis binder indent blank after).1

theorem takeWhile_names {names : List Char} (noParenthesis : '(' ∉ names)
    (isOpening : IsOpening opening) : (names ++ opening).takeWhile (· != '(') = names := by
  have all : ∀ c ∈ names, (c != '(') = true := by
    intro c member
    rw [bne_iff_ne]
    rintro rfl
    exact noParenthesis member
  rw [List.takeWhile_append_of_pos all]
  rcases isOpening with rfl | ⟨blank, rfl, _⟩ <;> simp

theorem inkFrom_led_ne {names : List (List Char)} (words : ∀ name ∈ names, IsWord name) :
    ∀ rest, inkFrom (led names) ≠ ',' :: rest := by
  intro rest isInk
  cases names with
  | nil => cases isInk
  | cons name names =>
      obtain ⟨nonempty, allWord⟩ := words name List.mem_cons_self
      cases name with
      | nil => exact nonempty rfl
      | cons c name =>
          have isWord := allWord c List.mem_cons_self
          rw [led, List.flatMap_cons, List.cons_append, List.cons_append,
            inkFrom_cons (isBlank_of_isWordChar isWord)] at isInk
          obtain ⟨rfl, _⟩ := List.cons.inj isInk
          exact absurd isWord (by decide)

/-- The keyword of a loop is no name of a list: no comma follows. -/
theorem assignment_refuses_loop (words : ∀ name ∈ earlier, IsWord name)
    (isOpening : IsOpening opening) (indent : Nat) (after : List Char) :
    assignmentRule.accepts (Binder.loop.lead indent ++ (led earlier ++ opening)) after = false := by
  rw [← Bool.not_eq_true, ← List.append_assoc]
  intro accepted
  have allList := isListChar_of_mem_names .loop words indent
  have onlyOne : ';' ∉ Binder.loop.lead indent ++ led earlier ++ opening :=
    List.not_mem_append (not_mem_of_isListChar allList (by decide))
      (isOpening.not_mem (by decide) (by decide))
  obtain ⟨names, other, isSplit, noParenthesis, isOther, behind⟩ :=
    target_of_assignment accepted onlyOne
  have sameNames : Binder.loop.lead indent ++ led earlier = names := by
    rw [← takeWhile_names noParenthesis isOther, ← isSplit,
      takeWhile_names (not_mem_of_isListChar allList (by decide)) isOpening]
  have ink : inkFrom names = "for ".toList ++ led earlier := by
    rw [← sameNames, inkFrom_lead]
    exact inkFrom_cons (by decide) _
  rw [ink] at behind
  rcases behind with impossible | ⟨rest, isComma⟩
  · cases impossible
  · exact inkFrom_led_ne words rest isComma

theorem isCommented_of_not_mem {before : List Char} (noToken : '#' ∉ before) :
    ruleSet.isCommented before = false := by
  have isToken : ruleSet.lineComment = some ['#'] := rfl
  rw [← Bool.not_eq_true, isCommented_iff isToken]
  rintro ⟨read, rest, rfl, _, begins, _⟩
  exact noToken (List.mem_append_right read (begins.mem List.mem_cons_self))

theorem definitionRule?_target (binder : Binder) (before : ∀ name ∈ earlier, IsWord name)
    (behind : ∀ name ∈ later, IsWord name) (isOpening : IsOpening opening)
    (apart : opening = [] ∨ earlier = []) (isClosing : closing = [] ∨ closing = [')'])
    (indent : Nat) (value : List Char) :
    ruleSet.definitionRule? (binder.lead indent ++ (led earlier ++ opening))
      (trailed later ++ (closing ++ binder.rest value)) = some binder.rule := by
  have notCommented :
      ruleSet.isCommented (binder.lead indent ++ (led earlier ++ opening)) = false := by
    rw [← List.append_assoc]
    apply isCommented_of_not_mem
    exact List.not_mem_append
      (not_mem_of_isListChar (isListChar_of_mem_names binder before indent) (by decide))
      (isOpening.not_mem (by decide) (by decide))
  have accepted := accepts_target binder before behind isOpening isClosing indent value
  have noParameter := parameter_refuses_target binder before isOpening apart indent
    (trailed later ++ (closing ++ binder.rest value))
  obtain ⟨noFunction, noClass, _⟩ :=
    refused_by_lastInk (lastInk?_target binder earlier isOpening indent)
      (trailed later ++ (closing ++ binder.rest value))
  -- Rules are tried in order, so only those ahead of the statement's own matter.
  rw [RuleSet.definitionRule?, notCommented]
  cases binder with
  | assignment =>
      simp only [ruleSet, List.find?_cons, noFunction, noClass, noParameter]
      rw [show assignmentRule.accepts _ _ = true from accepted]
      rfl
  | loop =>
      have noAssignment := assignment_refuses_loop before isOpening indent
        (trailed later ++ (closing ++ Binder.loop.rest value))
      simp only [ruleSet, List.find?_cons, noFunction, noClass, noParameter, noAssignment]
      rw [show forRule.accepts _ _ = true from accepted]
      rfl

end

/-! ### The later names of an enclosed tuple -/

theorem IsOpening.eq_nil {front opening : List Char} (isOpening : IsOpening opening)
    (isLast : lastInk? (front ++ opening) = some ',') : opening = [] := by
  rcases isOpening with isEmpty | ⟨blank, rfl, allBlank⟩
  · exact isEmpty
  · rw [lastInk?_cons_of_blank allBlank (by decide)] at isLast
    cases isLast

section

variable {first : List Char} {others : List (List Char)}

theorem lastInk?_later (binder : Binder) (indent : Nat) (first : List Char)
    (others : List (List Char)) :
    lastInk? (binder.lead indent ++ '(' :: led (first :: others)) = some ',' := by
  rw [List.append_cons]
  exact lastInk?_led first others _

theorem not_mem_later (binder : Binder) (words : ∀ name ∈ first :: others, IsWord name)
    (indent : Nat) {c : Char} (other : isListChar c = false) (isOther : c ≠ '(') :
    c ∉ binder.lead indent ++ '(' :: led (first :: others) :=
  List.not_mem_append (not_mem_of_isListChar (isListChar_of_mem_lead binder indent) other)
    (List.not_mem_cons_of_ne_of_not_mem isOther
      (not_mem_of_isListChar (isListChar_of_mem_led words) other))

theorem assignment_refuses_later (binder : Binder) (words : ∀ name ∈ first :: others, IsWord name)
    (indent : Nat) (after : List Char) :
    assignmentRule.accepts (binder.lead indent ++ '(' :: led (first :: others)) after = false := by
  rw [← Bool.not_eq_true]
  intro accepted
  obtain ⟨names, opening, isSplit, noParenthesis, isOpening, _⟩ :=
    target_of_assignment accepted (not_mem_later binder words indent (by decide) (by decide))
  have isLast := lastInk?_later binder indent first others
  rw [isSplit] at isLast
  rw [isOpening.eq_nil isLast, List.append_nil] at isSplit
  rw [← isSplit] at noParenthesis
  exact noParenthesis (List.mem_append_right _ List.mem_cons_self)

/-- The keyword would have to stand among the names, where no blank follows a letter. -/
theorem loop_refuses_later (binder : Binder) (words : ∀ name ∈ first :: others, IsWord name)
    (indent : Nat) (after : List Char) :
    forRule.accepts (binder.lead indent ++ '(' :: led (first :: others)) after = false := by
  rw [← Bool.not_eq_true]
  intro accepted
  obtain ⟨front, blank, gap, names, opening, isSplit, isBlank, noParenthesis, isOpening⟩ :=
    target_of_for accepted
  have isLast := lastInk?_later binder indent first others
  rw [isSplit] at isLast
  rw [isOpening.eq_nil isLast, List.append_nil] at isSplit
  -- The keyword stands behind the parenthesis, or the parenthesis behind the keyword.
  rcases List.append_eq_append_iff.mp isSplit with ⟨between, _, inNames⟩ | ⟨between, _, outside⟩
  · have chain := isChain_led words '('
    rw [inNames] at chain
    have fromKeyword := chain.right_of_append
    simp only [List.isChain_cons_cons] at fromKeyword
    obtain ⟨_, _, behindLetter, _⟩ := fromKeyword
    exact absurd (behindLetter isBlank) (by decide)
  · have inside : '(' ∈ 'f' :: 'o' :: 'r' :: blank :: (gap ++ names) := by
      rw [outside]
      exact List.mem_append_right _ List.mem_cons_self
    simp only [List.mem_cons, Char.reduceEq, false_or] at inside
    rcases inside with rfl | inside
    · exact absurd isBlank (by decide)
    · exact noParenthesis inside

theorem definitionRule?_later (binder : Binder) (words : ∀ name ∈ first :: others, IsWord name)
    (indent : Nat) {c : Char} (isInk : isBlank c = false) (isOther : c ≠ ':') (after : List Char) :
    ruleSet.definitionRule? (binder.lead indent ++ '(' :: led (first :: others)) (c :: after) =
      none := by
  have isLast : ∀ d, lastInk? (binder.lead indent ++ '(' :: led (first :: others)) = some d →
      d = '(' ∨ d = ',' ∨ d = 'r' := by
    intro d isLast
    rw [lastInk?_later] at isLast
    exact .inr (.inl (Option.some.inj isLast).symm)
  obtain ⟨noFunction, noClass, noAlias⟩ := refused_by_lastInk isLast (c :: after)
  obtain ⟨noParameter, noImport, noFromImport⟩ :=
    refused_behind_parenthesis binder indent (led (first :: others)) (c :: after)
  have noWalrus : walrusRule.accepts (binder.lead indent ++ '(' :: led (first :: others))
      (c :: after) = false := by
    rw [← Bool.not_eq_true]
    intro accepted
    obtain ⟨rest, begins⟩ := ink_of_walrus accepted
    rw [inkFrom_cons isInk] at begins
    exact isOther (List.cons.inj begins).1
  rw [RuleSet.definitionRule?,
    isCommented_of_not_mem (not_mem_later binder words indent (by decide) (by decide))]
  simp only [ruleSet, List.find?_cons, noFunction, noClass, noParameter,
    assignment_refuses_later binder words, loop_refuses_later binder words, noAlias, noImport,
    noFromImport, noWalrus]
  rfl

end

/-! ### Which names of a tuple are bound -/

theorem isWord_around {names : List (List Char)} (plain : ∀ name ∈ names, isPlainName name = true)
    (index : Nat) :
    (∀ name ∈ names.take index, IsWord name) ∧ ∀ name ∈ names.drop (index + 1), IsWord name := by
  constructor
  · intro name member
    exact isWord_of_isPlainName (plain name (List.mem_of_mem_take member))
  · intro name member
    exact isWord_of_isPlainName (plain name (List.mem_of_mem_drop member))

/-- Every name of a bare tuple is a definition, in assignments and in loops. -/
theorem bare_tuple_binds_every_name (names : List (List Char))
    (plain : ∀ name ∈ names, isPlainName name = true) (binder : Binder) (indent : Nat)
    (value : List Char) (index : Nat) (inRange : index < names.length) :
    let line := binder.line indent (tuple names) value
    let column := (binder.lead indent).length + nameColumn names index
    names[index] <+: line.drop column ∧ ruleAt? line names[index] column = some binder.rule := by
  obtain ⟨standsThere, sees⟩ := ruleAt?_tuple inRange (binder.lead indent) (binder.rest value)
  refine ⟨standsThere, sees.trans ?_⟩
  obtain ⟨before, behind⟩ := isWord_around plain index
  have bound := definitionRule?_target binder before behind (.inl rfl) (.inl rfl) (.inl rfl) indent
    value
  rw [List.append_nil, List.nil_append] at bound
  exact bound

/-- The second of three names that are assigned, and the only one of a loop. -/
theorem bare_tuple_binds_every_name_of_three :
    (∀ name ∈ ["alpha".toList, "b2".toList, "_c".toList], isPlainName name = true) ∧
      ruleAt? "    alpha, b2, _c = f(x)".toList "b2".toList 11 = some assignmentRule ∧
      ruleAt? "for key in d:".toList "key".toList 4 = some forRule := by
  have plain : ∀ name ∈ ["alpha".toList, "b2".toList, "_c".toList], isPlainName name = true := by
    decide
  refine ⟨plain, ?_, ?_⟩
  · exact (bare_tuple_binds_every_name _ plain .assignment 4 "f(x)".toList 1 (by decide)).2
  · exact (bare_tuple_binds_every_name ["key".toList] (by decide) .loop 0 "d".toList 0
      (by decide)).2

/-- Of a tuple in parentheses, the first name is a definition and no other. -/
theorem enclosed_tuple_binds_first_name (names : List (List Char))
    (plain : ∀ name ∈ names, isPlainName name = true) (binder : Binder) (indent : Nat)
    (value : List Char) (index : Nat) (inRange : index < names.length) :
    let line := binder.line indent (enclosed (tuple names)) value
    let column := (binder.lead indent).length + 1 + nameColumn names index
    names[index] <+: line.drop column ∧
      ruleAt? line names[index] column = if index = 0 then some binder.rule else none := by
  have isLine : binder.line indent (enclosed (tuple names)) value =
      (binder.lead indent ++ ['(']) ++ tuple names ++ ([')'] ++ binder.rest value) := by
    simp [Binder.line, enclosed]
  obtain ⟨standsThere, sees⟩ :=
    ruleAt?_tuple inRange (binder.lead indent ++ ['(']) ([')'] ++ binder.rest value)
  rw [← isLine, List.length_append, List.length_singleton] at standsThere sees
  refine ⟨standsThere, sees.trans ?_⟩
  obtain ⟨before, behind⟩ := isWord_around plain index
  cases index with
  | zero =>
      have opens : IsOpening ['('] := .inr ⟨[], rfl, by simp⟩
      have bound := definitionRule?_target binder before behind opens (.inr rfl) (.inr rfl) indent
        value
      rw [if_pos rfl, List.append_assoc]
      exact bound
  | succ index =>
      rw [if_neg (Nat.succ_ne_zero index), ← List.append_cons]
      cases names with
      | nil => cases inRange
      | cons first others =>
          rw [List.take_succ_cons] at before ⊢
          -- A comma follows, or the closing parenthesis.
          cases (first :: others).drop (index + 1 + 1) with
          | nil => exact definitionRule?_later binder before indent (by decide) (by decide) _
          | cons next later =>
              exact definitionRule?_later binder before indent (by decide) (by decide) _

theorem enclosed_tuple_binds_first_name_of_two :
    (∀ name ∈ ["key".toList, "item".toList], isPlainName name = true) ∧
      ruleAt? "for (key, item) in d:".toList "key".toList 5 = some forRule ∧
      ruleAt? "for (key, item) in d:".toList "item".toList 10 = none := by
  have plain : ∀ name ∈ ["key".toList, "item".toList], isPlainName name = true := by decide
  refine ⟨plain, ?_, ?_⟩
  · exact (enclosed_tuple_binds_first_name _ plain .loop 0 "d".toList 0 (by decide)).2
  · exact (enclosed_tuple_binds_first_name _ plain .loop 0 "d".toList 1 (by decide)).2

/-- So not every name of a tuple in parentheses is a definition: the second of
`(a, b) = 1` is none. -/
theorem enclosed_tuple_may_leave_name_unbound :
    ¬∀ names : List (List Char), (∀ name ∈ names, isPlainName name = true) →
      ∀ value : List Char, (∀ c ∈ value, isLineBreak c = false) →
        ∀ (binder : Binder) (index : Nat) (_ : index < names.length),
          (ruleAt? (binder.line 0 (enclosed (tuple names)) value) names[index]
            ((binder.lead 0).length + 1 + nameColumn names index)).isSome = true := by
  intro everyName
  have bound := everyName [['a'], ['b']] (by decide) ['1']
    (List.forall_mem_singleton.mpr (by decide)) .assignment 1 (by decide)
  have words : ∀ name ∈ [['a']], IsWord name := by
    intro name member
    rw [List.mem_singleton.mp member]
    exact isWord_of_isPlainName (by decide)
  have refused : ruleAt? "(a, b) = 1".toList ['b'] 4 = none :=
    definitionRule?_later .assignment words 0 (by decide) (by decide) " = 1".toList
  change (ruleAt? "(a, b) = 1".toList ['b'] 4).isSome = true at bound
  rw [refused] at bound
  cases bound

end SymbolJump.Definition.Python
