/-
The words that a pattern reads, and the search for them.

What a pattern means is said word by word: it reads a word that stands between
two texts, which only anchors look at. The search instead carries sets of
places through the pattern. Both agree. The one case that is not a matter of
unfolding is repetition without a limit, where the search stops after as many
rounds as the text has characters: a round that moves is one character on at
least, and a round that does not move can be left out.
-/

import SymbolJump.Pattern.Search

namespace SymbolJump.Pattern

/-! ### Words between two texts -/

/-- A relation between a text, a word behind it and the text behind the word. -/
abbrev Reading := List Char → List Char → List Char → Prop

namespace Reading

/-- Reads a word in two parts. -/
def andThen (first second : Reading) : Reading := fun before word after =>
  ∃ left right, word = left ++ right ∧ first before left (right ++ after) ∧
    second (before ++ left) right after

def times (reading : Reading) : Nat → Reading
  | 0 => fun _ word _ => word = []
  | count + 1 => reading.andThen (reading.times count)

/-- The reading leads from one place of a text to another. -/
def Leads (reading : Reading) (text : List Char) (start stop : Nat) : Prop :=
  ∃ before word after, text = before ++ word ++ after ∧ before.length = start ∧
    before.length + word.length = stop ∧ reading before word after

end Reading

/-- The words that a pattern reads. A limit below the least number of rounds counts as that
number. -/
def Reads : Pattern → Reading
  | empty => fun _ word _ => word = []
  | chars set => fun _ word _ => ∃ c, word = [c] ∧ set.holds c = true
  | assertion anchor => fun before word after =>
      word = [] ∧ anchor.holdsBetween before.getLast? after.head? = true
  | seq left right => left.Reads.andThen right.Reads
  | alt left right => fun before word after =>
      left.Reads before word after ∨ right.Reads before word after
  | repeated body least most => fun before word after =>
      ∃ count, least ≤ count ∧ (∀ limit ∈ most, count ≤ max least limit) ∧
        body.Reads.times count before word after

namespace Reading

variable {reading first second : Reading} {text : List Char} {start stop : Nat}

theorem Leads.le (leads : reading.Leads text start stop) : start ≤ stop ∧ stop ≤ text.length := by
  obtain ⟨before, word, after, rfl, rfl, rfl, _⟩ := leads
  simp only [List.length_append]
  omega

theorem leads_andThen_iff :
    (first.andThen second).Leads text start stop ↔
      ∃ middle, first.Leads text start middle ∧ second.Leads text middle stop := by
  constructor
  · rintro ⟨before, word, after, rfl, rfl, rfl, left, right, rfl, isFirst, isSecond⟩
    refine ⟨before.length + left.length, ?_, ?_⟩
    · exact ⟨before, left, right ++ after, by simp, rfl, rfl, isFirst⟩
    · exact ⟨before ++ left, right, after, by simp, by simp, by simp [Nat.add_assoc], isSecond⟩
  · rintro ⟨middle, ⟨before, left, others, isText, rfl, rfl, isFirst⟩,
      ⟨longer, right, after, sameText, sameLength, rfl, isSecond⟩⟩
    -- Both readings part one text, so the second begins where the first ends.
    have parted : (before ++ left) ++ others = longer ++ (right ++ after) := by
      rw [← isText, sameText, List.append_assoc]
    obtain ⟨rfl, rfl⟩ := List.append_inj parted (by simp [sameLength])
    exact ⟨before, left ++ right, after, by simp [isText], rfl, by simp [Nat.add_assoc],
      left, right, rfl, isFirst, isSecond⟩

theorem leads_empty_iff :
    empty.Reads.Leads text start stop ↔ start = stop ∧ stop ≤ text.length := by
  constructor
  · rintro ⟨before, word, after, rfl, rfl, rfl, isEmpty⟩
    obtain rfl : word = [] := isEmpty
    simp only [List.length_append, List.length_nil]
    omega
  · rintro ⟨rfl, inText⟩
    refine ⟨text.take start, [], text.drop start, by simp, ?_, ?_, rfl⟩ <;>
      simp only [List.length_take, List.length_nil] <;> omega

theorem leads_times_zero_iff :
    (reading.times 0).Leads text start stop ↔ start = stop ∧ stop ≤ text.length :=
  leads_empty_iff

theorem leads_times_add_iff {more : Nat} (count : Nat) :
    (reading.times (count + more)).Leads text start stop ↔
      ∃ middle, (reading.times count).Leads text start middle ∧
        (reading.times more).Leads text middle stop := by
  induction count generalizing start with
  | zero =>
      rw [Nat.zero_add]
      constructor
      · intro leads
        have bounds := leads.le
        exact ⟨start, leads_times_zero_iff.mpr ⟨rfl, by omega⟩, leads⟩
      · rintro ⟨middle, idle, leads⟩
        obtain ⟨rfl, _⟩ := leads_times_zero_iff.mp idle
        exact leads
  | succ count ih =>
      rw [Nat.add_right_comm]
      simp only [times, leads_andThen_iff, ih]
      constructor
      · rintro ⟨next, step, middle, earlier, later⟩
        exact ⟨middle, ⟨next, step, earlier⟩, later⟩
      · rintro ⟨middle, ⟨next, step, earlier⟩, later⟩
        exact ⟨next, step, middle, earlier, later⟩

/-- Rounds that do not move can be left out. -/
theorem exists_leads_times_le {count : Nat} (leads : (reading.times count).Leads text start stop) :
    ∃ fewer, fewer ≤ stop - start ∧ (reading.times fewer).Leads text start stop := by
  induction count generalizing start with
  | zero => exact ⟨0, Nat.zero_le _, leads⟩
  | succ count ih =>
      obtain ⟨middle, step, others⟩ := leads_andThen_iff.mp leads
      obtain ⟨fewer, bound, rest⟩ := ih others
      have forward := step.le
      have onward := rest.le
      by_cases idle : start = middle
      · rw [idle]
        exact ⟨fewer, bound, rest⟩
      · exact ⟨fewer + 1, by omega, leads_andThen_iff.mpr ⟨middle, step, rest⟩⟩

end Reading

/-! ### Decreasing lists of places -/

/-- The form in which the search keeps places of a text. -/
def IsPlaces (size : Nat) (places : List Nat) : Prop :=
  places.Pairwise (· > ·) ∧ ∀ place ∈ places, place ≤ size

theorem mem_mergePlaces {place : Nat} (left right : List Nat) :
    place ∈ mergePlaces left right ↔ place ∈ left ∨ place ∈ right := by
  fun_induction mergePlaces left right with
  | case1 right => simp
  | case2 left _ => simp
  | case3 first left second right above ih =>
      simp only [List.mem_cons, ih, or_assoc]
  | case4 first left second right _ below ih =>
      simp only [List.mem_cons, ih]
      exact or_left_comm
  | case5 first left second right notAbove notBelow ih =>
      have same : first = second := by omega
      simp only [List.mem_cons, ih, same]
      exact or_or_distrib_left

theorem pairwise_mergePlaces {left right : List Nat} (isLeft : left.Pairwise (· > ·))
    (isRight : right.Pairwise (· > ·)) : (mergePlaces left right).Pairwise (· > ·) := by
  fun_induction mergePlaces left right with
  | case1 right => exact isRight
  | case2 left _ => exact isLeft
  | case3 first left second right above ih =>
      obtain ⟨firstAbove, leftSorted⟩ := List.pairwise_cons.mp isLeft
      obtain ⟨secondAbove, _⟩ := List.pairwise_cons.mp isRight
      apply List.pairwise_cons.mpr
      refine ⟨?_, ih leftSorted isRight⟩
      intro place member
      rcases (mem_mergePlaces _ _).mp member with inLeft | inRight
      · exact firstAbove place inLeft
      · rcases List.mem_cons.mp inRight with rfl | later
        · exact above
        · have := secondAbove place later
          omega
  | case4 first left second right _ below ih =>
      obtain ⟨firstAbove, _⟩ := List.pairwise_cons.mp isLeft
      obtain ⟨secondAbove, rightSorted⟩ := List.pairwise_cons.mp isRight
      apply List.pairwise_cons.mpr
      refine ⟨?_, ih isLeft rightSorted⟩
      intro place member
      rcases (mem_mergePlaces _ _).mp member with inLeft | inRight
      · rcases List.mem_cons.mp inLeft with rfl | later
        · exact below
        · have := firstAbove place later
          omega
      · exact secondAbove place inRight
  | case5 first left second right notAbove notBelow ih =>
      obtain ⟨firstAbove, leftSorted⟩ := List.pairwise_cons.mp isLeft
      obtain ⟨secondAbove, rightSorted⟩ := List.pairwise_cons.mp isRight
      apply List.pairwise_cons.mpr
      refine ⟨?_, ih leftSorted rightSorted⟩
      intro place member
      rcases (mem_mergePlaces _ _).mp member with inLeft | inRight
      · exact firstAbove place inLeft
      · have := secondAbove place inRight
        omega

theorem IsPlaces.merge {size : Nat} {left right : List Nat} (isLeft : IsPlaces size left)
    (isRight : IsPlaces size right) : IsPlaces size (mergePlaces left right) := by
  refine ⟨pairwise_mergePlaces isLeft.1 isRight.1, ?_⟩
  intro place member
  rcases (mem_mergePlaces _ _).mp member with inLeft | inRight
  · exact isLeft.2 place inLeft
  · exact isRight.2 place inRight

theorem newPlaces_sublist (places known : List Nat) :
    List.Sublist (newPlaces places known) places := by
  fun_induction newPlaces places known with
  | case1 => exact .slnil
  | case2 places _ => exact .refl places
  | case3 first places second known _ ih => exact ih.cons_cons first
  | case4 first places second known _ _ ih => exact ih
  | case5 first places second known _ _ ih => exact ih.cons first

theorem mem_newPlaces {place : Nat} {places known : List Nat} (sorted : places.Pairwise (· > ·))
    (knownSorted : known.Pairwise (· > ·)) :
    place ∈ newPlaces places known ↔ place ∈ places ∧ place ∉ known := by
  fun_induction newPlaces places known with
  | case1 => simp
  | case2 places _ => simp
  | case3 first places second known above ih =>
      have unknown : first ∉ second :: known := by
        intro member
        rcases List.mem_cons.mp member with same | later
        · omega
        · have := (List.pairwise_cons.mp knownSorted).1 first later
          omega
      rw [List.mem_cons, ih (List.pairwise_cons.mp sorted).2 knownSorted]
      constructor
      · rintro (rfl | ⟨inPlaces, absent⟩)
        · exact ⟨List.mem_cons_self, unknown⟩
        · exact ⟨List.mem_cons_of_mem first inPlaces, absent⟩
      · rintro ⟨member, absent⟩
        exact (List.mem_cons.mp member).imp_right fun inPlaces => ⟨inPlaces, absent⟩
  | case4 first places second known _ below ih =>
      rw [ih sorted (List.pairwise_cons.mp knownSorted).2]
      apply and_congr_right
      intro member
      have different : place ≠ second := by
        rcases List.mem_cons.mp member with rfl | later
        · omega
        · have := (List.pairwise_cons.mp sorted).1 place later
          omega
      simp [different]
  | case5 first places second known notAbove notBelow ih =>
      have same : first = second := by omega
      rw [ih (List.pairwise_cons.mp sorted).2 knownSorted]
      apply and_congr_left
      intro absent
      have different : place ≠ first := by
        rintro rfl
        exact absent (same ▸ List.mem_cons_self)
      simp [different]

/-! ### Sets of places carried through a pattern -/

/-- A step of the search that goes where a reading leads. -/
structure Follows (text : List Char) (step : List Nat → List Nat) (reading : Reading) : Prop where
  isPlaces : ∀ {places}, IsPlaces text.length places → IsPlaces text.length (step places)
  mem_iff : ∀ {places}, IsPlaces text.length places →
    ∀ stop, stop ∈ step places ↔ ∃ start ∈ places, reading.Leads text start stop

theorem follows_empty (text : List Char) : Follows text (fun places => places) empty.Reads := by
  refine ⟨fun isPlaces => isPlaces, ?_⟩
  intro places isPlaces stop
  simp only [Reading.leads_empty_iff]
  constructor
  · intro member
    exact ⟨stop, member, rfl, isPlaces.2 stop member⟩
  · rintro ⟨start, member, rfl, _⟩
    exact member

theorem Follows.andThen {text : List Char} {first second : List Nat → List Nat}
    {left right : Reading} (isFirst : Follows text first left)
    (isSecond : Follows text second right) :
    Follows text (fun places => second (first places)) (left.andThen right) := by
  constructor
  · intro places isPlaces
    exact isSecond.isPlaces (isFirst.isPlaces isPlaces)
  · intro places isPlaces stop
    simp only [isSecond.mem_iff (isFirst.isPlaces isPlaces), isFirst.mem_iff isPlaces,
      Reading.leads_andThen_iff]
    constructor
    · rintro ⟨middle, ⟨start, member, earlier⟩, later⟩
      exact ⟨start, member, middle, earlier, later⟩
    · rintro ⟨start, member, middle, earlier, later⟩
      exact ⟨middle, ⟨start, member, earlier⟩, later⟩

/-- From the known places that are not recent nothing new is within one reading. -/
structure Explored (text : List Char) (reading : Reading) (recent known : List Nat) : Prop where
  isRecent : IsPlaces text.length recent
  isKnown : IsPlaces text.length known
  recent_known : ∀ place ∈ recent, place ∈ known
  closed : ∀ place ∈ known, place ∉ recent →
    ∀ next, reading.Leads text place next → next ∈ known

section

variable {text : List Char} {step : List Nat → List Nat} {reading : Reading}
  (follows : Follows text step reading)

include follows

theorem Follows.advance (count : Nat) :
    Follows text (Pattern.advance step count) (reading.times count) := by
  induction count with
  | zero => exact follows_empty text
  | succ count ih =>
      have whole := follows.andThen ih
      have unfolded (places : List Nat) : Pattern.advance step (count + 1) places =
          if places.isEmpty then [] else Pattern.advance step count (step places) := rfl
      constructor
      · intro places isPlaces
        rw [unfolded]
        split
        · exact ⟨List.Pairwise.nil, fun _ impossible => absurd impossible List.not_mem_nil⟩
        · exact whole.isPlaces isPlaces
      · intro places isPlaces stop
        rw [unfolded]
        split
        · next isEmpty =>
            obtain rfl : places = [] := List.isEmpty_iff.mp isEmpty
            simp
        · exact whole.mem_iff isPlaces stop

theorem Follows.mem_next {recent known : List Nat} (explored : Explored text reading recent known)
    {place next : Nat} (isKnown : place ∈ known) (leads : reading.Leads text place next) :
    next ∈ mergePlaces (newPlaces (step recent) known) known := by
  rw [mem_mergePlaces,
    mem_newPlaces (follows.isPlaces explored.isRecent).1 explored.isKnown.1]
  by_cases old : next ∈ known
  · exact .inr old
  · left
    refine ⟨?_, old⟩
    by_cases isRecent : place ∈ recent
    · exact (follows.mem_iff explored.isRecent next).mpr ⟨place, isRecent, leads⟩
    · exact absurd (explored.closed place isKnown isRecent next leads) old

theorem Follows.explored_next {recent known : List Nat}
    (explored : Explored text reading recent known) :
    Explored text reading (newPlaces (step recent) known)
      (mergePlaces (newPlaces (step recent) known) known) := by
  have isStep := follows.isPlaces explored.isRecent
  have shorter := newPlaces_sublist (step recent) known
  have isFresh : IsPlaces text.length (newPlaces (step recent) known) :=
    ⟨isStep.1.sublist shorter, fun place member => isStep.2 place (shorter.subset member)⟩
  constructor
  · exact isFresh
  · exact isFresh.merge explored.isKnown
  · intro place member
    exact (mem_mergePlaces _ _).mpr (.inl member)
  · intro place member notFresh next leads
    exact follows.mem_next explored (((mem_mergePlaces _ _).mp member).resolve_left notFresh) leads

theorem Follows.isPlaces_spread {fuel : Nat} {recent known : List Nat}
    (explored : Explored text reading recent known) :
    IsPlaces text.length (spread step fuel recent known) := by
  induction fuel generalizing recent known with
  | zero => exact explored.isKnown
  | succ fuel ih =>
      rw [spread]
      split
      · exact explored.isKnown
      · exact ih (follows.explored_next explored)

/-- A search of some rounds finds what is within that many readings. -/
theorem Follows.mem_spread_iff {fuel : Nat} {recent known : List Nat}
    (explored : Explored text reading recent known) (stop : Nat) :
    stop ∈ spread step fuel recent known ↔
      ∃ start ∈ known, ∃ count, count ≤ fuel ∧ (reading.times count).Leads text start stop := by
  induction fuel generalizing recent known with
  | zero =>
      constructor
      · intro member
        exact ⟨stop, member, 0, Nat.le_refl 0,
          Reading.leads_times_zero_iff.mpr ⟨rfl, explored.isKnown.2 stop member⟩⟩
      · rintro ⟨start, member, count, noRounds, leads⟩
        obtain rfl : count = 0 := Nat.le_zero.mp noRounds
        obtain ⟨rfl, _⟩ := Reading.leads_times_zero_iff.mp leads
        exact member
  | succ fuel ih =>
      rw [spread]
      split
      · next nothing =>
          -- Nothing is new, so the known places are closed under any number of readings.
          have closed {start : Nat} (member : start ∈ known) {count : Nat}
              (leads : (reading.times count).Leads text start stop) : stop ∈ known := by
            induction count generalizing start with
            | zero =>
                obtain ⟨rfl, _⟩ := Reading.leads_times_zero_iff.mp leads
                exact member
            | succ count again =>
                obtain ⟨middle, first, others⟩ := Reading.leads_andThen_iff.mp leads
                have isNext := follows.mem_next explored member first
                rw [nothing, mem_mergePlaces] at isNext
                exact again (isNext.resolve_left List.not_mem_nil) others
          constructor
          · intro member
            exact ⟨stop, member, 0, Nat.zero_le _,
              Reading.leads_times_zero_iff.mpr ⟨rfl, explored.isKnown.2 stop member⟩⟩
          · rintro ⟨start, member, count, _, leads⟩
            exact closed member leads
      · rw [ih (follows.explored_next explored)]
        constructor
        · rintro ⟨start, member, count, bound, leads⟩
          rcases (mem_mergePlaces _ _).mp member with isFresh | isKnown
          · have isNew := (newPlaces_sublist (step recent) known).subset isFresh
            obtain ⟨origin, isRecent, first⟩ := (follows.mem_iff explored.isRecent start).mp isNew
            exact ⟨origin, explored.recent_known origin isRecent, count + 1, by omega,
              Reading.leads_andThen_iff.mpr ⟨start, first, leads⟩⟩
          · exact ⟨start, isKnown, count, by omega, leads⟩
        · rintro ⟨start, member, count, bound, leads⟩
          cases count with
          | zero =>
              exact ⟨start, (mem_mergePlaces _ _).mpr (.inr member), 0, Nat.zero_le _, leads⟩
          | succ count =>
              obtain ⟨middle, first, others⟩ := Reading.leads_andThen_iff.mp leads
              exact ⟨middle, follows.mem_next explored member first, count, by omega, others⟩

theorem Follows.repeated (least : Nat) (most : Option Nat) :
    Follows text
      (fun places =>
        let reached := Pattern.advance step least places
        let rounds :=
          match most with
          | none => text.length
          | some limit => limit - least
        spread step rounds reached reached)
      (fun before word after =>
        ∃ count, least ≤ count ∧ (∀ limit ∈ most, count ≤ max least limit) ∧
          reading.times count before word after) := by
  have advanced := follows.advance least
  have explored {places : List Nat} (isPlaces : IsPlaces text.length places) :
      Explored text reading (Pattern.advance step least places)
        (Pattern.advance step least places) := by
    have isReached := advanced.isPlaces isPlaces
    exact ⟨isReached, isReached, fun _ member => member, fun _ isKnown notRecent =>
      absurd isKnown notRecent⟩
  constructor
  · intro places isPlaces
    exact follows.isPlaces_spread (explored isPlaces)
  · intro places isPlaces stop
    simp only [follows.mem_spread_iff (explored isPlaces), advanced.mem_iff isPlaces]
    constructor
    · rintro ⟨middle, ⟨start, member, first⟩, more, bound, others⟩
      have together := (Reading.leads_times_add_iff least).mpr ⟨middle, first, others⟩
      obtain ⟨before, word, after, isText, isStart, isStop, reads⟩ := together
      refine ⟨start, member, before, word, after, isText, isStart, isStop, least + more,
        Nat.le_add_right _ _, ?_, reads⟩
      rintro limit rfl
      dsimp only at bound
      omega
    · rintro ⟨start, member, before, word, after, isText, isStart, isStop, count, enough, bound,
        reads⟩
      have together : (reading.times (least + (count - least))).Leads text start stop := by
        rw [Nat.add_sub_of_le enough]
        exact ⟨before, word, after, isText, isStart, isStop, reads⟩
      obtain ⟨middle, first, others⟩ := (Reading.leads_times_add_iff least).mp together
      refine ⟨middle, ⟨start, member, first⟩, ?_⟩
      cases most with
      | some limit =>
          have := bound limit rfl
          exact ⟨count - least, by dsimp only; omega, others⟩
      | none =>
          obtain ⟨fewer, short, leads⟩ := Reading.exists_leads_times_le others
          have := leads.le
          exact ⟨fewer, by dsimp only; omega, leads⟩

end

/-! ### The search of a pattern -/

theorem getLast?_take_eq_charBefore (text : List Char) (place : Nat)
    (inText : place ≤ text.length) :
    (text.take place).getLast? = charBefore text.toArray place := by
  unfold charBefore
  rw [List.getLast?_take]
  split
  · rfl
  · have inside : place - 1 < text.length := by omega
    rw [List.getElem?_toArray, List.getElem?_eq_getElem inside]
    rfl

theorem leads_chars_iff (set : CharSet) (text : List Char) (start stop : Nat) :
    (chars set).Reads.Leads text start stop ↔
      stop = start + 1 ∧ (text[start]?).any set.holds = true := by
  constructor
  · rintro ⟨before, word, after, rfl, rfl, rfl, c, rfl, member⟩
    simp [member]
  · rintro ⟨rfl, holds⟩
    obtain ⟨c, isChar, member⟩ := (Option.any_eq_true _ _).mp holds
    obtain ⟨inText, rfl⟩ := List.getElem?_eq_some_iff.mp isChar
    refine ⟨text.take start, [text[start]], text.drop (start + 1), ?_, ?_, ?_, _, rfl, member⟩
    · simp
    · rw [List.length_take]
      omega
    · rw [List.length_take, List.length_singleton]
      omega

theorem leads_assertion_iff (anchor : Anchor) (text : List Char) (start stop : Nat) :
    (assertion anchor).Reads.Leads text start stop ↔
      start = stop ∧ stop ≤ text.length ∧
        anchor.holdsBetween (charBefore text.toArray start) text[start]? = true := by
  constructor
  · rintro ⟨before, word, after, rfl, rfl, rfl, rfl, holds⟩
    have inText : before.length ≤ (before ++ [] ++ after).length := by simp
    rw [List.length_nil, Nat.add_zero]
    refine ⟨rfl, inText, ?_⟩
    rw [← getLast?_take_eq_charBefore _ _ inText, ← List.head?_drop]
    simpa using holds
  · rintro ⟨rfl, inText, holds⟩
    rw [← getLast?_take_eq_charBefore text start inText, ← List.head?_drop] at holds
    refine ⟨text.take start, [], text.drop start, by simp, ?_, ?_, rfl, holds⟩
    · rw [List.length_take]
      omega
    · rw [List.length_take, List.length_nil]
      omega

theorem follows_ends (text : List Char) (pattern : Pattern) :
    Follows text (ends text.toArray pattern) pattern.Reads := by
  induction pattern with
  | empty => exact follows_empty text
  | chars set =>
      constructor
      · intro places isPlaces
        constructor
        · refine isPlaces.1.filterMap _ ?_
          intro place other above moved isMoved otherMoved isOtherMoved
          split at isMoved
          · split at isOtherMoved
            · cases isMoved
              cases isOtherMoved
              omega
            · cases isOtherMoved
          · cases isMoved
        · intro stop member
          obtain ⟨place, _, isMoved⟩ := List.mem_filterMap.mp member
          split at isMoved
          · next holds =>
              obtain ⟨c, isChar, _⟩ := (Option.any_eq_true _ _).mp holds
              rw [List.getElem?_toArray] at isChar
              obtain ⟨inText, _⟩ := List.getElem?_eq_some_iff.mp isChar
              cases isMoved
              omega
          · cases isMoved
      · intro places isPlaces stop
        simp only [leads_chars_iff, ends, List.mem_filterMap, List.getElem?_toArray]
        constructor
        · rintro ⟨start, member, isMoved⟩
          split at isMoved
          · next holds => exact ⟨start, member, (Option.some.inj isMoved).symm, holds⟩
          · cases isMoved
        · rintro ⟨start, member, rfl, holds⟩
          exact ⟨start, member, if_pos holds⟩
  | assertion anchor =>
      constructor
      · intro places isPlaces
        have shorter := List.filter_sublist (l := places)
          (p := fun place =>
            anchor.holdsBetween (charBefore text.toArray place) text.toArray[place]?)
        exact ⟨isPlaces.1.sublist shorter, fun place member =>
          isPlaces.2 place (shorter.subset member)⟩
      · intro places isPlaces stop
        simp only [leads_assertion_iff, ends, List.mem_filter, List.getElem?_toArray]
        constructor
        · rintro ⟨member, holds⟩
          exact ⟨stop, member, rfl, isPlaces.2 stop member, holds⟩
        · rintro ⟨start, member, rfl, _, holds⟩
          exact ⟨member, holds⟩
  | seq left right ihLeft ihRight => exact ihLeft.andThen ihRight
  | alt left right ihLeft ihRight =>
      constructor
      · intro places isPlaces
        exact (ihLeft.isPlaces isPlaces).merge (ihRight.isPlaces isPlaces)
      · intro places isPlaces stop
        rw [ends, mem_mergePlaces, ihLeft.mem_iff isPlaces, ihRight.mem_iff isPlaces]
        constructor
        · rintro (⟨start, member, leads⟩ | ⟨start, member, leads⟩)
          · obtain ⟨before, word, after, isText, isStart, isStop, reads⟩ := leads
            exact ⟨start, member, before, word, after, isText, isStart, isStop, .inl reads⟩
          · obtain ⟨before, word, after, isText, isStart, isStop, reads⟩ := leads
            exact ⟨start, member, before, word, after, isText, isStart, isStop, .inr reads⟩
        · rintro ⟨start, member, before, word, after, isText, isStart, isStop, reads | reads⟩
          · exact .inl ⟨start, member, before, word, after, isText, isStart, isStop, reads⟩
          · exact .inr ⟨start, member, before, word, after, isText, isStart, isStop, reads⟩
  | repeated body least most ih => exact ih.repeated least most

/-- The search finds a pattern exactly where it reads a part of the text. -/
theorem isMatch_iff (pattern : Pattern) (text : List Char) :
    pattern.isMatch text = true ↔
      ∃ before word after, text = before ++ word ++ after ∧ pattern.Reads before word after := by
  have isPlaces : IsPlaces text.length (List.range (text.length + 1)).reverse := by
    constructor
    · rw [List.pairwise_reverse]
      exact List.pairwise_lt_range
    · intro place member
      rw [List.mem_reverse, List.mem_range] at member
      omega
  have found := (follows_ends text pattern).mem_iff isPlaces
  unfold isMatch
  dsimp only
  rw [List.size_toArray, Bool.not_eq_true', List.isEmpty_eq_false_iff_exists_mem]
  simp only [found, List.mem_reverse, List.mem_range]
  constructor
  · rintro ⟨stop, start, _, before, word, after, isText, _, _, reads⟩
    exact ⟨before, word, after, isText, reads⟩
  · rintro ⟨before, word, after, isText, reads⟩
    refine ⟨before.length + word.length, before.length, ?_, before, word, after, isText, rfl, rfl,
      reads⟩
    rw [isText]
    simp only [List.length_append]
    omega

end SymbolJump.Pattern
