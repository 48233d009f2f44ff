/-
One array over another, item by item.

An upper item takes its first namesake out of the array and goes to the end. The
array it is laid over is changed by then: items above it have taken theirs and
stand at the end themselves. They are no namesakes of later items, since no two
upper items have the same name and a merged item keeps that of its upper part.
So the lower items that are left and the namesakes that are found are those of
the lower array as it was.
-/

import Mathlib.Data.List.Induction
import SymbolJump.Proofs.Toml.Paths

namespace SymbolJump.Toml

namespace Value

def hasName (name : String) (item : Value) : Bool :=
  item.name? = some name

theorem hasName_iff {name : String} {item : Value} :
    item.hasName name = true ↔ item.name? = some name :=
  decide_eq_true_iff

theorem hasName_of_name? {name other : String} {item : Value} (isName : item.name? = some name) :
    item.hasName other = decide (name = other) := by
  rw [hasName, isName, decide_eq_decide, Option.some.injEq]

end Value

/-- The names of items, those of items without one left out. -/
def names (items : List Value) : List String :=
  items.filterMap Value.name?

/-- The items in their order, without the first one of each name. -/
def withoutFirst (names : List String) (items : List Value) : List Value :=
  (items.zipIdx.filter fun (_, place) =>
    !names.any fun name => items.findIdx? (Value.hasName name) == some place).map Prod.fst

/-- The first item of a list that has the name of a given one. -/
def namesake? (items : List Value) (item : Value) : Option Value :=
  item.name?.bind fun name => items.find? (Value.hasName name)

/-- An upper item in the merged array: merged over its first namesake if there is one. -/
def overNamesake (combine : Value → Value → Value) (items : List Value) (item : Value) : Value :=
  match namesake? items item with
  | some found => combine found item
  | none => item

/-! ### What is left of the lower items -/

theorem isFirst_cons (name : String) (item : Value) (rest : List Value) (place : Nat) :
    ((item :: rest).findIdx? (Value.hasName name) == some (place + 1)) =
      (!item.hasName name && rest.findIdx? (Value.hasName name) == some place) := by
  rw [List.findIdx?_cons]
  cases item.hasName name with
  | true => rfl
  | false =>
      cases rest.findIdx? (Value.hasName name) with
      | none => rfl
      | some found => simp

theorem withoutFirst_cons (names : List String) (item : Value) (rest : List Value) :
    withoutFirst names (item :: rest) =
      (if names.any fun name => item.hasName name then [] else [item]) ++
        withoutFirst (names.filter fun name => !item.hasName name) rest := by
  have here (name : String) :
      ((item :: rest).findIdx? (Value.hasName name) == some 0) = item.hasName name := by
    rw [List.findIdx?_cons]
    cases item.hasName name with
    | true => rfl
    | false => cases rest.findIdx? (Value.hasName name) <;> rfl
  unfold withoutFirst
  rw [List.zipIdx_cons, List.filter_cons, List.zipIdx_succ, List.filter_map]
  simp only [Function.comp_def, here, isFirst_cons, List.any_filter]
  cases names.any fun name => item.hasName name <;> simp [Function.comp_def]

theorem withoutFirst_nil (items : List Value) : withoutFirst [] items = items := by
  induction items with
  | nil => rfl
  | cons item rest ih =>
      rw [withoutFirst_cons, List.filter_nil, ih]
      rfl

section

variable {names : List String} {name : String} (fresh : name ∉ names)

include fresh

theorem any_hasName_of_fresh {item : Value} (named : item.hasName name = true) :
    (names.any fun other => item.hasName other) = false := by
  rw [List.any_eq_false]
  intro other member isOther
  rw [Value.hasName_of_name? (Value.hasName_iff.mp named), decide_eq_true_iff] at isOther
  exact fresh (isOther ▸ member)

/-- A name that is not asked for loses no item. -/
theorem find?_withoutFirst (items : List Value) :
    (withoutFirst names items).find? (Value.hasName name) =
      items.find? (Value.hasName name) := by
  induction items generalizing names with
  | nil => rfl
  | cons item rest ih =>
      rw [withoutFirst_cons, List.find?_append]
      cases named : item.hasName name with
      | true =>
          rw [any_hasName_of_fresh fresh named, List.find?_cons_of_pos named]
          simp [named]
      | false =>
          rw [ih (fun member => fresh (List.mem_filter.mp member).1),
            List.find?_cons_of_neg (by rw [named]; exact Bool.false_ne_true)]
          split <;> simp [named]

/-- One name more costs the first of its items. -/
theorem withoutFirst_append (items : List Value) :
    withoutFirst (names ++ [name]) items =
      (withoutFirst names items).eraseP (Value.hasName name) := by
  induction items generalizing names with
  | nil => rfl
  | cons item rest ih =>
      rw [withoutFirst_cons, withoutFirst_cons, List.any_append, List.filter_append]
      cases named : item.hasName name with
      | true =>
          rw [any_hasName_of_fresh fresh named]
          simp [named]
      | false =>
          rw [List.filter_cons_of_pos (by rw [named]; rfl), List.filter_nil,
            ih (fun member => fresh (List.mem_filter.mp member).1),
            List.eraseP_append_right]
          · simp [named]
          · intro other member
            split at member
            · cases member
            · rw [List.mem_singleton.mp member, named]
              exact Bool.false_ne_true

end

/-- Each name costs one item if any item has it, and none otherwise. -/
theorem length_withoutFirst {names : List String} (distinct : names.Nodup) (items : List Value) :
    (withoutFirst names items).length + names.countP (fun name => items.any (Value.hasName name)) =
      items.length := by
  induction names using List.reverseRecOn with
  | nil =>
      rw [withoutFirst_nil]
      rfl
  | append_singleton names name ih =>
      obtain ⟨restDistinct, _, apart⟩ := List.nodup_append.mp distinct
      have fresh : name ∉ names := fun member =>
        apart name member name (List.mem_singleton_self name) rfl
      have sameAny : (withoutFirst names items).any (Value.hasName name) =
          items.any (Value.hasName name) := by
        have same := congrArg Option.isSome (find?_withoutFirst fresh items)
        rw [List.isSome_find?, List.isSome_find?] at same
        exact same
      have counted := ih restDistinct
      rw [withoutFirst_append fresh, List.countP_append, List.countP_singleton]
      cases held : items.any (Value.hasName name) with
      | false =>
          rw [List.length_eraseP, sameAny, held]
          exact counted
      | true =>
          rw [held] at sameAny
          obtain ⟨item, member, named⟩ := List.any_eq_true.mp sameAny
          have shorter := List.length_eraseP_of_mem member named
          have positive := List.length_pos_of_mem member
          rw [if_pos rfl]
          omega

/-! ### One upper item -/

theorem takeNamed?_eq (name : String) (items : List Value) :
    takeNamed? name items =
      (items.find? (Value.hasName name)).map fun found =>
        (found, items.eraseP (Value.hasName name)) := by
  induction items with
  | nil => rfl
  | cons item rest ih =>
      rw [takeNamed?]
      by_cases isName : item.name? = some name
      · have named := Value.hasName_iff.mpr isName
        rw [if_pos isName, List.find?_cons_of_pos named, List.eraseP_cons_of_pos named]
        rfl
      · have notNamed : ¬item.hasName name = true := fun named => isName (Value.hasName_iff.mp named)
        rw [if_neg isName, ih, List.find?_cons_of_neg notNamed, List.eraseP_cons_of_neg notNamed]
        cases rest.find? (Value.hasName name) <;> rfl

theorem mergeItem_of_nameless {item : Value} (nameless : item.name? = none)
    (combine : Value → Value → Value) (items : List Value) :
    mergeItem combine items item = items ++ [item] := by
  rw [mergeItem, nameless]
  rfl

theorem mergeItem_of_name {item : Value} {name : String} (isName : item.name? = some name)
    (combine : Value → Value → Value) (items : List Value) :
    mergeItem combine items item =
      items.eraseP (Value.hasName name) ++ [overNamesake combine items item] := by
  rw [mergeItem, overNamesake, namesake?, isName, Option.bind_some, Option.bind_some, takeNamed?_eq]
  cases found : items.find? (Value.hasName name) with
  | some held => rfl
  | none =>
      rw [List.eraseP_of_forall_not (List.find?_eq_none.mp found)]
      rfl

/-! ### The whole upper array -/

section

variable {combine : Value → Value → Value} {lower upper : List Value}

/-- The array after some upper items and one more. Of the lower items only those above it in
the order can be its namesakes, as if no other upper item had been there. -/
theorem mergeItem_behind {front : List Value} {item : Value}
    (keeps : ∀ other ∈ front, (overNamesake combine lower other).name? = other.name?)
    (fresh : ∀ name, item.name? = some name → name ∉ names front) :
    mergeItem combine (withoutFirst (names front) lower ++ front.map (overNamesake combine lower))
        item =
      withoutFirst (names (front ++ [item])) lower ++
        (front ++ [item]).map (overNamesake combine lower) := by
  rw [names, names, List.filterMap_append, List.map_append]
  cases isName : item.name? with
  | none =>
      have alone : overNamesake combine lower item = item := by
        rw [overNamesake, namesake?, isName]
        rfl
      rw [mergeItem_of_nameless isName, List.filterMap_cons_none isName, List.map_singleton, alone,
        List.filterMap_nil, List.append_nil, List.append_assoc]
  | some name =>
      have isFresh : name ∉ front.filterMap Value.name? := fresh name isName
      -- No merged item has the name: it has that of its upper part, which stands above.
      have unmerged : ∀ other ∈ front.map (overNamesake combine lower),
          ¬other.hasName name = true := by
        intro other member named
        obtain ⟨source, isSource, rfl⟩ := List.mem_map.mp member
        have sourceName := (keeps source isSource).symm.trans (Value.hasName_iff.mp named)
        exact isFresh (List.mem_filterMap.mpr ⟨source, isSource, sourceName⟩)
      have sameNamesake : namesake? (withoutFirst (front.filterMap Value.name?) lower ++
          front.map (overNamesake combine lower)) item = namesake? lower item := by
        rw [namesake?, namesake?, isName, Option.bind_some, Option.bind_some, List.find?_append,
          find?_withoutFirst isFresh, List.find?_eq_none.mpr unmerged, Option.or_none]
      rw [mergeItem_of_name isName, overNamesake, sameNamesake, ← overNamesake,
        List.filterMap_cons_some isName, List.filterMap_nil, withoutFirst_append isFresh,
        List.map_singleton, ← List.append_assoc]
      congr 1
      rw [List.eraseP_append]
      split
      · rfl
      · next missing =>
          have noneHeld : ∀ other ∈ withoutFirst (front.filterMap Value.name?) lower,
              ¬other.hasName name = true := by
            intro other member named
            exact missing (List.any_eq_true.mpr ⟨other, member, named⟩)
          rw [List.eraseP_of_forall_not unmerged, List.eraseP_of_forall_not noneHeld]

/-- Each upper item in turn finds what it would find in the lower array alone. -/
theorem foldl_mergeItem
    (keeps : ∀ item ∈ upper, (overNamesake combine lower item).name? = item.name?)
    (distinct : (names upper).Nodup) :
    upper.foldl (mergeItem combine) lower =
      withoutFirst (names upper) lower ++ upper.map (overNamesake combine lower) := by
  induction upper using List.reverseRecOn with
  | nil =>
      rw [names, List.filterMap_nil, withoutFirst_nil, List.map_nil, List.append_nil]
      rfl
  | append_singleton front item ih =>
      have frontKeeps : ∀ other ∈ front, (overNamesake combine lower other).name? = other.name? :=
        fun other member => keeps other (List.mem_append_left [item] member)
      have bothDistinct := distinct
      rw [names, List.filterMap_append, List.nodup_append] at bothDistinct
      obtain ⟨frontDistinct, _, apart⟩ := bothDistinct
      have fresh (name : String) (isName : item.name? = some name) : name ∉ names front := by
        intro member
        have isOwn : name ∈ [item].filterMap Value.name? :=
          List.mem_filterMap.mpr ⟨item, List.mem_singleton_self item, isName⟩
        exact apart name member name isOwn rfl
      rw [List.foldl_append, ih frontKeeps frontDistinct]
      exact mergeItem_behind frontKeeps fresh

end

/-! ### Merged arrays -/

/-- The name of the upper value counts, like any plain value under a key. -/
theorem name?_merge {upper : Value} {name : String} (isUpper : upper.WellFormed)
    (isName : upper.name? = some name) (depth : Nat) (lower : Value) :
    (merge depth lower upper).name? = some name := by
  obtain ⟨value, isValue, isString⟩ := Option.bind_eq_some_iff.mp isName
  have isThere : upper.at? ["name"] = some value := by
    rw [Value.at?, isValue]
    rfl
  have isPlain : value.isPlain = true := by
    cases value with
    | string text => rfl
    | _ => cases isString
  have stays := at?_merge_of_isPlain isUpper isThere isPlain depth lower
  obtain ⟨inner, isInner, isEnd⟩ := Option.bind_eq_some_iff.mp stays
  cases isEnd
  rw [Value.name?, isInner]
  exact isString

theorem name?_overNamesake {upper : Value} (isUpper : upper.WellFormed) (depth : Nat)
    (lower : List Value) : (overNamesake (merge depth) lower upper).name? = upper.name? := by
  rw [overNamesake]
  split
  · next found isFound =>
      obtain ⟨name, isName, _⟩ := Option.bind_eq_some_iff.mp isFound
      rw [name?_merge isUpper isName, isName]
  · rfl

/-- One array laid over another to a depth of one or more. First come the lower items in their
order, without the first namesake of each upper item; then one item for each upper item in the
upper order, merged over its first namesake one level less deep if there is one, and always
under the name it had. So the merged array is shorter than both together by the number of upper
names that occur in the lower array. -/
theorem merge_keeps_every_item (lower upper : List Value)
    (isUpper : ∀ item ∈ upper, item.WellFormed) (distinct : (names upper).Nodup) (depth : Nat) :
    ∃ items, merge (depth + 1) (.array lower) (.array upper) = .array items ∧
      items = withoutFirst (names upper) lower ++
        upper.map (overNamesake (merge depth) lower) ∧
      (∀ item ∈ upper, (overNamesake (merge depth) lower item).name? = item.name?) ∧
      items.length + (names upper).countP (fun name => lower.any (Value.hasName name)) =
        lower.length + upper.length := by
  have keeps : ∀ item ∈ upper, (overNamesake (merge depth) lower item).name? = item.name? :=
    fun item member => name?_overNamesake (isUpper item member) depth lower
  refine ⟨_, congrArg Value.array (foldl_mergeItem keeps distinct), rfl, keeps, ?_⟩
  have counted := length_withoutFirst distinct lower
  rw [List.length_append, List.length_map]
  omega

/-- Two lower items of one name: the first goes, the second stays. An item without a name
stays, one without a namesake comes as it is. -/
theorem merge_keeps_every_item_of_languages :
    (∀ item ∈ [Value.table [("name", .string "r")], .integer 3,
        .table [("rules", .string "strict"), ("name", .string "python")]], item.WellFormed) ∧
      (names [Value.table [("name", .string "r")], .integer 3,
        .table [("rules", .string "strict"), ("name", .string "python")]]).Nodup ∧
      merge 2
          (.array [.table [("name", .string "python"), ("comment", .string "#")], .boolean true,
            .table [("name", .string "python")]])
          (.array [.table [("name", .string "r")], .integer 3,
            .table [("rules", .string "strict"), ("name", .string "python")]]) =
        .array [.boolean true, .table [("name", .string "python")],
          .table [("name", .string "r")], .integer 3,
          .table [("name", .string "python"), ("comment", .string "#"),
            ("rules", .string "strict")]] := by
  have isUpper : ∀ item ∈ [Value.table [("name", .string "r")], .integer 3,
      .table [("rules", .string "strict"), ("name", .string "python")]], item.WellFormed := by
    intro item member
    rcases List.mem_cons.mp member with rfl | member
    · refine .table (by decide) ?_
      intro entry isEntry
      rw [List.mem_singleton.mp isEntry]
      exact .plain rfl
    rcases List.mem_cons.mp member with rfl | member
    · exact .plain rfl
    · rw [List.mem_singleton.mp member]
      refine .table (by decide) ?_
      intro entry isEntry
      rcases List.mem_cons.mp isEntry with rfl | isEntry
      · exact .plain rfl
      · rw [List.mem_singleton.mp isEntry]
        exact .plain rfl
  have distinct : (names [Value.table [("name", .string "r")], .integer 3,
      .table [("rules", .string "strict"), ("name", .string "python")]]).Nodup := by
    decide
  refine ⟨isUpper, distinct, ?_⟩
  obtain ⟨items, merged, rfl, _⟩ := merge_keeps_every_item
    [.table [("name", .string "python"), ("comment", .string "#")], .boolean true,
      .table [("name", .string "python")]] _ isUpper distinct 1
  rw [merged]
  rfl

end SymbolJump.Toml
