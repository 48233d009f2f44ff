/-
One document over another, path by path.

A path of keys leads through tables. Where the upper document has a plain value
at its end, that value counts. Where the upper document is a table up to some
key and lacks this key, the lower document counts as long as the depth reaches
the key, and beyond that nothing is left. The step of every induction is one
key: what stands under it is merged from what the two documents have there, one
level less deep.
-/

import SymbolJump.Proofs.Toml.Documents

namespace SymbolJump.Toml

namespace Value

/-- Neither an array nor a table. -/
def isPlain : Value → Bool
  | array _ => false
  | table _ => false
  | _ => true

/-- What a path of keys leads to. -/
def at? : Value → List String → Option Value
  | value, [] => some value
  | value, key :: path => (value.get? key).bind fun inner => inner.at? path

/-- No table has a key twice. -/
inductive WellFormed : Value → Prop where
  | plain {value : Value} (isPlain : value.isPlain = true) : WellFormed value
  | array {items : List Value} (all : ∀ item ∈ items, WellFormed item) : WellFormed (.array items)
  | table {entries : List (String × Value)} (distinct : (entries.map Prod.fst).Nodup)
      (all : ∀ entry ∈ entries, WellFormed entry.2) : WellFormed (.table entries)

/-- Every key, at any depth and inside of arrays too, is one of the allowed. -/
inductive KeysAmong (allowed : String → Prop) : Value → Prop where
  | plain {value : Value} (isPlain : value.isPlain = true) : KeysAmong allowed value
  | array {items : List Value} (all : ∀ item ∈ items, KeysAmong allowed item) :
      KeysAmong allowed (.array items)
  | table {entries : List (String × Value)} (keys : ∀ entry ∈ entries, allowed entry.1)
      (all : ∀ entry ∈ entries, KeysAmong allowed entry.2) : KeysAmong allowed (.table entries)

theorem exists_table_of_get? {value inner : Value} {key : String}
    (isInner : value.get? key = some inner) : ∃ entries, value = .table entries := by
  cases value with
  | table entries => exact ⟨entries, rfl⟩
  | _ => cases isInner

theorem WellFormed.get? {value inner : Value} {key : String} (wellFormed : value.WellFormed)
    (isInner : value.get? key = some inner) : inner.WellFormed := by
  cases wellFormed with
  | plain isPlain =>
      obtain ⟨entries, rfl⟩ := exists_table_of_get? isInner
      cases isPlain
  | array all => cases isInner
  | @table entries distinct all =>
      have inEntries : (⟨entries⟩ : Keyed String Value).get? key = some inner := isInner
      exact all (key, inner) (Keyed.mem_entries_of_get? inEntries)

theorem at?_of_missing {value : Value} {front back : List String} {key : String}
    {entries : List (String × Value)} (isTable : value.at? front = some (.table entries))
    (missing : entries.lookup key = none) : value.at? (front ++ key :: back) = none := by
  induction front generalizing value with
  | nil =>
      cases isTable
      rw [List.nil_append, at?, get?, missing]
      rfl
  | cons first front ih =>
      obtain ⟨inner, isInner, others⟩ := Option.bind_eq_some_iff.mp isTable
      rw [List.cons_append, at?, isInner]
      exact ih others

end Value

/-! ### One key at a time -/

theorem merge_zero (lower upper : Value) : merge 0 lower upper = upper := by
  cases lower <;> cases upper <;> rfl

/-- What a merge can come to: the upper value, or two arrays or tables laid together. -/
theorem merge_cases (depth : Nat) (lower upper : Value) :
    merge (depth + 1) lower upper = upper ∨
      (∃ items others, lower = .array items ∧ upper = .array others ∧
        merge (depth + 1) lower upper = .array (others.foldl (mergeItem (merge depth)) items)) ∨
      ∃ entries others, lower = .table entries ∧ upper = .table others ∧
        merge (depth + 1) lower upper =
          .table (others.foldl (mergeEntry (merge depth)) entries) := by
  cases upper with
  | array others =>
      cases lower with
      | array items => exact .inr (.inl ⟨items, others, rfl, rfl, rfl⟩)
      | _ => exact .inl rfl
  | table others =>
      cases lower with
      | table entries => exact .inr (.inr ⟨entries, others, rfl, rfl, rfl⟩)
      | _ => exact .inl rfl
  | _ =>
      left
      cases lower <;> rfl

theorem merge_of_isPlain {upper : Value} (isPlain : upper.isPlain = true) (depth : Nat)
    (lower : Value) : merge depth lower upper = upper := by
  cases depth with
  | zero => exact merge_zero lower upper
  | succ depth =>
      rcases merge_cases depth lower upper with same | ⟨_, _, _, rfl, _⟩ | ⟨_, _, _, rfl, _⟩
      · exact same
      · cases isPlain
      · cases isPlain

/-- Under a key of an upper table, what both have is merged one level less deep. -/
theorem get?_merge_table {upper : List (String × Value)} (distinct : (upper.map Prod.fst).Nodup)
    (depth : Nat) (lower : Value) (key : String) :
    (merge (depth + 1) lower (.table upper)).get? key =
      Option.merge (merge depth) (lower.get? key) (upper.lookup key) := by
  cases lower with
  | table entries => exact get?_merge ⟨upper, rfl, distinct⟩ depth entries key
  | _ =>
      change upper.lookup key = Option.merge (merge depth) none (upper.lookup key)
      cases upper.lookup key <;> rfl

/-- Under a key that the upper document has, either its own value counts or one merged over
that of the lower document. -/
theorem get?_merge_of_upper {upper inner : Value} (isUpper : upper.WellFormed) {key : String}
    (isInner : upper.get? key = some inner) (depth : Nat) (lower : Value) :
    (lower.get? key = none ∧ (merge (depth + 1) lower upper).get? key = some inner) ∨
      ∃ held, lower.get? key = some held ∧
        (merge (depth + 1) lower upper).get? key = some (merge depth held inner) := by
  cases isUpper with
  | plain isPlain =>
      obtain ⟨entries, rfl⟩ := Value.exists_table_of_get? isInner
      cases isPlain
  | array all => cases isInner
  | table distinct all =>
      change List.lookup key _ = some inner at isInner
      rw [get?_merge_table distinct, isInner]
      cases lower.get? key with
      | none => exact .inl ⟨rfl, rfl⟩
      | some held => exact .inr ⟨held, rfl, rfl⟩

/-! ### Whole paths -/

theorem at?_merge_of_isPlain {upper value : Value} {path : List String}
    (isUpper : upper.WellFormed) (isThere : upper.at? path = some value)
    (isPlain : value.isPlain = true) (depth : Nat) (lower : Value) :
    (merge depth lower upper).at? path = some value := by
  induction path generalizing depth lower upper with
  | nil =>
      cases isThere
      rw [merge_of_isPlain isPlain]
      rfl
  | cons key path ih =>
      obtain ⟨inner, isInner, others⟩ := Option.bind_eq_some_iff.mp isThere
      cases depth with
      | zero =>
          rw [merge_zero]
          exact isThere
      | succ depth =>
          rw [Value.at?]
          rcases get?_merge_of_upper isUpper isInner depth lower with ⟨_, own⟩ | ⟨held, _, merged⟩
          · rw [own]
            exact others
          · rw [merged]
            exact ih (isUpper.get? isInner) others depth held

section

variable {upper : Value} {front back : List String} {key : String}
  {entries : List (String × Value)} (isUpper : upper.WellFormed)
  (isTable : upper.at? front = some (.table entries)) (missing : entries.lookup key = none)

include isUpper isTable missing

theorem at?_merge_of_reached {depth : Nat} (reached : front.length < depth) (lower : Value) :
    (merge depth lower upper).at? (front ++ key :: back) = lower.at? (front ++ key :: back) := by
  induction front generalizing depth lower upper with
  | nil =>
      obtain ⟨depth, rfl⟩ := Nat.exists_eq_add_one.mpr reached
      cases isTable
      cases isUpper with
      | plain isPlain => cases isPlain
      | table distinct all =>
          rw [List.nil_append, Value.at?, get?_merge_table distinct, missing, Value.at?]
          cases lower.get? key <;> rfl
  | cons first front ih =>
      obtain ⟨inner, isInner, others⟩ := Option.bind_eq_some_iff.mp isTable
      rw [List.length_cons] at reached
      obtain ⟨depth, rfl⟩ := Nat.exists_eq_add_one.mpr (Nat.zero_lt_of_lt reached)
      rw [List.cons_append, Value.at?, Value.at?]
      rcases get?_merge_of_upper isUpper isInner depth lower with
        ⟨absent, own⟩ | ⟨held, isHeld, merged⟩
      · rw [own, absent]
        exact Value.at?_of_missing others missing
      · rw [merged, isHeld]
        exact ih (isUpper.get? isInner) others (by omega) held

theorem at?_merge_of_unreached {depth : Nat} (unreached : depth ≤ front.length) (lower : Value) :
    (merge depth lower upper).at? (front ++ key :: back) = none := by
  induction front generalizing depth lower upper with
  | nil =>
      obtain rfl : depth = 0 := Nat.le_zero.mp unreached
      rw [merge_zero]
      exact Value.at?_of_missing isTable missing
  | cons first front ih =>
      cases depth with
      | zero =>
          rw [merge_zero]
          exact Value.at?_of_missing isTable missing
      | succ depth =>
          obtain ⟨inner, isInner, others⟩ := Option.bind_eq_some_iff.mp isTable
          rw [List.length_cons] at unreached
          rw [List.cons_append, Value.at?]
          rcases get?_merge_of_upper isUpper isInner depth lower with ⟨_, own⟩ | ⟨held, _, merged⟩
          · rw [own]
            exact Value.at?_of_missing others missing
          · rw [merged]
            exact ih (isUpper.get? isInner) others (by omega) held

end

/-- A path leads somewhere only if it does so in one of the documents. -/
theorem at?_ne_none_of_merge {upper : Value} (isUpper : upper.WellFormed) {path : List String}
    {depth : Nat} {lower : Value} (leads : (merge depth lower upper).at? path ≠ none) :
    lower.at? path ≠ none ∨ upper.at? path ≠ none := by
  induction path generalizing depth lower upper with
  | nil => exact .inl (Option.some_ne_none lower)
  | cons key path ih =>
      cases depth with
      | zero =>
          rw [merge_zero] at leads
          exact .inr leads
      | succ depth =>
          cases isInner : upper.get? key with
          | some inner =>
              rw [Value.at?] at leads
              rw [Value.at?, Value.at?, isInner]
              rcases get?_merge_of_upper isUpper isInner depth lower with
                ⟨_, own⟩ | ⟨held, isHeld, merged⟩
              · rw [own] at leads
                exact .inr leads
              · rw [merged] at leads
                rw [isHeld]
                exact ih (isUpper.get? isInner) leads
          | none =>
              -- Without the key in the upper document, the value of the lower one stays.
              have unchanged : (merge (depth + 1) lower upper).get? key = none ∨
                  (merge (depth + 1) lower upper).get? key = lower.get? key := by
                rcases merge_cases depth lower upper with same | ⟨_, _, _, _, merged⟩ |
                  ⟨entries, others, rfl, rfl, _⟩
                · rw [same]
                  exact .inl isInner
                · rw [merged]
                  exact .inl rfl
                · obtain ⟨isPlain⟩ | _ | ⟨distinct, _⟩ := isUpper
                  · cases isPlain
                  · change others.lookup key = none at isInner
                    rw [get?_merge_table distinct, isInner]
                    cases (Value.table entries).get? key with
                    | none => exact .inl rfl
                    | some held => exact .inr rfl
              rw [Value.at?] at leads
              rcases unchanged with nothing | same
              · rw [nothing] at leads
                exact absurd rfl leads
              · rw [same] at leads
                exact .inl leads

/-! ### Keys anywhere -/

theorem mem_of_takeNamed? {name : String} {items others : List Value} {found : Value}
    (isFound : takeNamed? name items = some (found, others)) :
    found ∈ items ∧ ∀ item ∈ others, item ∈ items := by
  induction items generalizing others with
  | nil => cases isFound
  | cons first rest ih =>
      rw [takeNamed?] at isFound
      split at isFound
      · cases isFound
        exact ⟨List.mem_cons_self, fun item member => List.mem_cons_of_mem _ member⟩
      · obtain ⟨⟨inner, behind⟩, isInner, same⟩ := Option.map_eq_some_iff.mp isFound
        cases same
        obtain ⟨inRest, others⟩ := ih isInner
        refine ⟨List.mem_cons_of_mem _ inRest, ?_⟩
        intro item member
        rcases List.mem_cons.mp member with rfl | later
        · exact List.mem_cons_self
        · exact List.mem_cons_of_mem _ (others item later)

theorem mem_of_mem_insertEntry {key : String} {value : Value} {entries : List (String × Value)}
    {entry : String × Value} (member : entry ∈ Keyed.insertEntry key value entries) :
    entry = (key, value) ∨ entry ∈ entries := by
  induction entries with
  | nil => exact .inl (List.mem_singleton.mp member)
  | cons first rest ih =>
      obtain ⟨other, held⟩ := first
      rw [Keyed.insertEntry] at member
      split at member
      · exact (List.mem_cons.mp member).imp_right (List.mem_cons_of_mem _)
      · rcases List.mem_cons.mp member with rfl | later
        · exact .inr List.mem_cons_self
        · exact (ih later).imp_right (List.mem_cons_of_mem _)

section

variable {allowed : String → Prop} {combine : Value → Value → Value}
  (keeps : ∀ held value : Value, held.KeysAmong allowed → value.KeysAmong allowed →
    (combine held value).KeysAmong allowed)

include keeps

theorem keysAmong_mergeItem {items : List Value} {item : Value}
    (isArray : (Value.array items).KeysAmong allowed) (isItem : item.KeysAmong allowed) :
    (Value.array (mergeItem combine items item)).KeysAmong allowed := by
  obtain ⟨isPlain⟩ | ⟨all⟩ | _ := isArray
  · cases isPlain
  · apply Value.KeysAmong.array
    intro member isMember
    unfold mergeItem at isMember
    split at isMember
    · next found others isFound =>
        obtain ⟨name, _, isTaken⟩ := Option.bind_eq_some_iff.mp isFound
        obtain ⟨inItems, fromItems⟩ := mem_of_takeNamed? isTaken
        rcases List.mem_append.mp isMember with other | last
        · exact all member (fromItems member other)
        · rw [List.mem_singleton.mp last]
          exact keeps found item (all found inItems) isItem
    · rcases List.mem_append.mp isMember with other | last
      · exact all member other
      · rw [List.mem_singleton.mp last]
        exact isItem

theorem keysAmong_mergeEntry {entries : List (String × Value)} {entry : String × Value}
    (isTable : (Value.table entries).KeysAmong allowed) (isKey : allowed entry.1)
    (isValue : entry.2.KeysAmong allowed) :
    (Value.table (mergeEntry combine entries entry)).KeysAmong allowed := by
  obtain ⟨isPlain⟩ | _ | ⟨keys, all⟩ := isTable
  · cases isPlain
  · -- The value that comes under the key is the upper one, or one merged over a held one.
    have inserted : ∃ value : Value, value.KeysAmong allowed ∧
        mergeEntry combine entries entry = Keyed.insertEntry entry.1 value entries := by
      unfold mergeEntry
      cases isHeld : entries.lookup entry.1 with
      | none => exact ⟨entry.2, isValue, rfl⟩
      | some held =>
          have inEntries : (⟨entries⟩ : Keyed String Value).get? entry.1 = some held := isHeld
          have isAmong := all (entry.1, held) (Keyed.mem_entries_of_get? inEntries)
          exact ⟨combine held entry.2, keeps held entry.2 isAmong isValue, rfl⟩
    obtain ⟨value, isAmong, isInserted⟩ := inserted
    rw [isInserted]
    apply Value.KeysAmong.table
    · intro member isMember
      rcases mem_of_mem_insertEntry isMember with rfl | known
      · exact isKey
      · exact keys member known
    · intro member isMember
      rcases mem_of_mem_insertEntry isMember with rfl | known
      · exact isAmong
      · exact all member known

end

theorem keysAmong_merge {allowed : String → Prop} {lower upper : Value}
    (isLower : lower.KeysAmong allowed) (isUpper : upper.KeysAmong allowed) (depth : Nat) :
    (merge depth lower upper).KeysAmong allowed := by
  induction depth generalizing lower upper with
  | zero =>
      rw [merge_zero]
      exact isUpper
  | succ depth ih =>
      have keeps (held value : Value) (isHeld : held.KeysAmong allowed)
          (isValue : value.KeysAmong allowed) : (merge depth held value).KeysAmong allowed :=
        ih isHeld isValue
      rcases merge_cases depth lower upper with same | ⟨items, others, rfl, rfl, merged⟩ |
        ⟨entries, others, rfl, rfl, merged⟩
      · rw [same]
        exact isUpper
      · obtain ⟨isPlain⟩ | ⟨all⟩ | _ := isUpper
        · cases isPlain
        · rw [merged]
          apply List.foldlRecOn (motive := fun items => (Value.array items).KeysAmong allowed)
          · exact isLower
          · intro held isHeld item member
            exact keysAmong_mergeItem keeps isHeld (all item member)
      · obtain ⟨isPlain⟩ | _ | ⟨keys, all⟩ := isUpper
        · cases isPlain
        · rw [merged]
          apply List.foldlRecOn (motive := fun entries => (Value.table entries).KeysAmong allowed)
          · exact isLower
          · intro held isHeld entry member
            exact keysAmong_mergeEntry keeps isHeld (keys entry member) (all entry member)

/-! ### The merged document -/

/-- One table laid over another down to some depth, at every path of keys. A plain value of
the upper one counts. Where the upper one is a table up to a key and lacks the key, the lower
one counts if the depth reaches the key, and nothing is there if it does not. A path leads
somewhere only if it does in one of the two, and no key at all, not even inside of arrays, is
in neither. -/
theorem merge_settles_every_path (lower upper : List (String × Value))
    (isUpper : (Value.table upper).WellFormed) (depth : Nat) :
    (∀ path value, (Value.table upper).at? path = some value → value.isPlain = true →
      (merge depth (.table lower) (.table upper)).at? path = some value) ∧
      (∀ front key back entries, (Value.table upper).at? front = some (.table entries) →
        entries.lookup key = none →
          (front.length + 1 ≤ depth →
            (merge depth (.table lower) (.table upper)).at? (front ++ key :: back) =
              (Value.table lower).at? (front ++ key :: back)) ∧
          (depth < front.length + 1 →
            (merge depth (.table lower) (.table upper)).at? (front ++ key :: back) =
                (Value.table upper).at? (front ++ key :: back) ∧
              (Value.table upper).at? (front ++ key :: back) = none)) ∧
      (∀ path, (merge depth (.table lower) (.table upper)).at? path ≠ none →
        (Value.table lower).at? path ≠ none ∨ (Value.table upper).at? path ≠ none) ∧
      ∀ allowed, (Value.table lower).KeysAmong allowed → (Value.table upper).KeysAmong allowed →
        (merge depth (.table lower) (.table upper)).KeysAmong allowed := by
  refine ⟨?_, ?_, ?_, ?_⟩
  · intro path value isThere isPlain
    exact at?_merge_of_isPlain isUpper isThere isPlain depth _
  · intro front key back entries isTable missing
    constructor
    · intro reached
      exact at?_merge_of_reached isUpper isTable missing reached _
    · intro unreached
      have nothing : (Value.table upper).at? (front ++ key :: back) = none :=
        Value.at?_of_missing isTable missing
      rw [nothing]
      exact ⟨at?_merge_of_unreached isUpper isTable missing (Nat.le_of_lt_succ unreached) _, rfl⟩
  · intro path leads
    exact at?_ne_none_of_merge isUpper leads
  · intro allowed lowerAmong upperAmong
    exact keysAmong_merge lowerAmong upperAmong depth

/-- A table under a table: the size is said anew, the theme is not. A depth of two keeps the
theme, a depth of one loses it. -/
theorem merge_settles_every_path_of_nested_tables :
    (Value.table [("editor", .table [("size", .integer 2)])]).WellFormed ∧
      (merge 2 (.table [("editor", .table [("theme", .string "dark"), ("size", .integer 1)])])
        (.table [("editor", .table [("size", .integer 2)])])).at? ["editor", "size"] =
          some (.integer 2) ∧
      (merge 2 (.table [("editor", .table [("theme", .string "dark"), ("size", .integer 1)])])
        (.table [("editor", .table [("size", .integer 2)])])).at? ["editor", "theme"] =
          some (.string "dark") ∧
      (merge 1 (.table [("editor", .table [("theme", .string "dark"), ("size", .integer 1)])])
        (.table [("editor", .table [("size", .integer 2)])])).at? ["editor", "theme"] = none := by
  have isUpper : (Value.table [("editor", .table [("size", .integer 2)])]).WellFormed := by
    apply Value.WellFormed.table (by decide)
    intro entry member
    rw [List.mem_singleton.mp member]
    apply Value.WellFormed.table (by decide)
    intro inner isInner
    rw [List.mem_singleton.mp isInner]
    exact .plain rfl
  have settled := merge_settles_every_path
    [("editor", .table [("theme", .string "dark"), ("size", .integer 1)])] _ isUpper
  refine ⟨isUpper, ?_, ?_, ?_⟩
  · exact (settled 2).1 ["editor", "size"] _ rfl rfl
  · exact ((settled 2).2.1 ["editor"] "theme" [] _ rfl rfl).1 (by decide)
  · exact (((settled 1).2.1 ["editor"] "theme" [] _ rfl rfl).2 (by decide)).1

end SymbolJump.Toml
