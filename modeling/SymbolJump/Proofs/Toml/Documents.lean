/-
What a document says under a key, alone and with others laid over it.

A document that was read is a table with no key twice: whatever line is read,
the tables on its way are changed by putting something under one key. Laying
such documents over one another therefore settles each key by itself. What
stands under it in the end comes from what the documents have under this key,
and from nothing else.
-/

import SymbolJump.Toml.Merge
import SymbolJump.Toml.Reader

namespace SymbolJump.Toml

/-! ### Tables under construction -/

namespace Branch

def Distinct (branch : Branch) : Prop :=
  (branch.entries.map Prod.fst).Nodup

variable {branch after : Branch}

theorem Distinct.insert (distinct : branch.Distinct) (key : String) (tree : Tree) :
    (branch.insert key tree).Distinct := by
  have entriesDistinct : (⟨branch.entries⟩ : Keyed String Tree).Distinct := distinct
  exact entriesDistinct.insert key tree

theorem Distinct.alter {dotted : Bool} {change : Branch → Option Branch} {path : List String}
    (distinct : branch.Distinct)
    (keeps : ∀ changed, change branch = some changed → changed.Distinct)
    (altered : branch.alter dotted change path = some after) : after.Distinct := by
  cases path with
  | nil => exact keeps after altered
  | cons key path =>
      -- Behind the first key only what stands under it changes.
      rw [Branch.alter] at altered
      split at altered
      · obtain ⟨inner, _, isAfter⟩ := Option.bind_eq_some_iff.mp altered
        cases isAfter
        exact distinct.insert _ _
      · split at altered
        · cases altered
        · obtain ⟨inner, _, isAfter⟩ := Option.bind_eq_some_iff.mp altered
          cases isAfter
          exact distinct.insert _ _
      · split at altered
        · cases altered
        · obtain ⟨inner, _, isAfter⟩ := Option.bind_eq_some_iff.mp altered
          cases isAfter
          exact distinct.insert _ _
      · cases altered

theorem Distinct.assign {path : List String} {key : String} {value : Value}
    (distinct : branch.Distinct) (assigned : branch.assign path key value = some after) :
    after.Distinct := by
  refine distinct.alter ?_ assigned
  intro changed isChanged
  split at isChanged
  · cases isChanged
  · split at isChanged
    · cases isChanged
    · cases isChanged
      exact distinct.insert _ _

theorem Distinct.head {path : List String} {key : String} (distinct : branch.Distinct)
    (headed : branch.head path key = some after) : after.Distinct := by
  refine distinct.alter ?_ headed
  intro changed isChanged
  split at isChanged
  · cases isChanged
    exact distinct.insert _ _
  · cases isChanged
    exact distinct.insert _ _
  · cases isChanged

theorem Distinct.headAgain {path : List String} {key : String} (distinct : branch.Distinct)
    (headed : branch.headAgain path key = some after) : after.Distinct := by
  refine distinct.alter ?_ headed
  intro changed isChanged
  split at isChanged
  · cases isChanged
    exact distinct.insert _ _
  · cases isChanged
    exact distinct.insert _ _
  · cases isChanged

end Branch

/-! ### Documents that were read -/

theorem readHeader?_distinct {draft after : Draft} {text rest : List Char}
    (distinct : draft.root.Distinct) (isRead : readHeader? draft text = some (after, rest)) :
    after.root.Distinct := by
  unfold readHeader? at isRead
  split at isRead
  · obtain ⟨⟨⟨path, key⟩, behind⟩, _, continued⟩ := Option.bind_eq_some_iff.mp isRead
    split at continued
    · obtain ⟨root, isHeaded, isAfter⟩ := Option.bind_eq_some_iff.mp continued
      cases isAfter
      exact distinct.headAgain isHeaded
    · cases continued
  · obtain ⟨⟨⟨path, key⟩, behind⟩, _, continued⟩ := Option.bind_eq_some_iff.mp isRead
    split at continued
    · obtain ⟨root, isHeaded, isAfter⟩ := Option.bind_eq_some_iff.mp continued
      cases isAfter
      exact distinct.head isHeaded
    · cases continued

theorem readEntry?_distinct {draft after : Draft} {text rest : List Char}
    (distinct : draft.root.Distinct) (isRead : readEntry? draft text = some (after, rest)) :
    after.root.Distinct := by
  unfold readEntry? at isRead
  obtain ⟨⟨⟨path, key⟩, behind⟩, _, continued⟩ := Option.bind_eq_some_iff.mp isRead
  split at continued
  · obtain ⟨⟨value, remaining⟩, _, assigned⟩ := Option.bind_eq_some_iff.mp continued
    obtain ⟨root, isAltered, isAfter⟩ := Option.bind_eq_some_iff.mp assigned
    cases isAfter
    exact distinct.alter (fun changed isChanged => distinct.assign isChanged) isAltered
  · cases continued

theorem readDocumentWithin_distinct {fuel : Nat} {draft after : Draft} {text : List Char}
    (distinct : draft.root.Distinct) (isRead : readDocumentWithin fuel draft text = some after) :
    after.root.Distinct := by
  induction fuel generalizing draft text with
  | zero => cases isRead
  | succ fuel ih =>
      rw [readDocumentWithin] at isRead
      obtain ⟨start, _, continued⟩ := Option.bind_eq_some_iff.mp isRead
      split at continued
      · cases continued
        exact distinct
      · obtain ⟨⟨headed, behind⟩, isHeader, more⟩ := Option.bind_eq_some_iff.mp continued
        obtain ⟨next, _, others⟩ := Option.bind_eq_some_iff.mp more
        exact ih (readHeader?_distinct distinct isHeader) others
      · obtain ⟨⟨extended, behind⟩, isEntry, more⟩ := Option.bind_eq_some_iff.mp continued
        obtain ⟨next, _, others⟩ := Option.bind_eq_some_iff.mp more
        exact ih (readEntry?_distinct distinct isEntry) others

theorem keys_toEntries (entries : List (String × Tree)) :
    (Tree.toEntries entries).map Prod.fst = entries.map Prod.fst := by
  induction entries with
  | nil => rw [Tree.toEntries]; rfl
  | cons entry rest ih =>
      obtain ⟨key, tree⟩ := entry
      rw [Tree.toEntries, List.map_cons, List.map_cons, ih]

/-- A table that has no key twice. -/
def IsDocument (value : Value) : Prop :=
  ∃ entries, value = .table entries ∧ (entries.map Prod.fst).Nodup

theorem isDocument_of_parse? {text : String} {document : Value}
    (isRead : parse? text = some document) : IsDocument document := by
  obtain ⟨draft, isDraft, isDocument⟩ := Option.bind_eq_some_iff.mp isRead
  cases isDocument
  refine ⟨_, rfl, ?_⟩
  rw [keys_toEntries]
  have initially : (⟨.headed, []⟩ : Branch).Distinct := List.nodup_nil
  exact readDocumentWithin_distinct initially isDraft

/-! ### One document over another -/

theorem lookup_mergeEntry (combine : Value → Value → Value) (entries : List (String × Value))
    (entry : String × Value) (key : String) :
    (mergeEntry combine entries entry).lookup key =
      if key = entry.1 then some (((entries.lookup key).map (combine · entry.2)).getD entry.2)
      else entries.lookup key := by
  by_cases same : key = entry.1
  · subst same
    rw [if_pos rfl, mergeEntry]
    cases entries.lookup entry.1 <;> exact Keyed.lookup_insertEntry_self _ _ _
  · rw [if_neg same, mergeEntry]
    cases entries.lookup entry.1 <;> exact Keyed.lookup_insertEntry_of_ne same _ _

/-- Where no key of the upper entries occurs twice, each key is settled by itself. -/
theorem lookup_foldl_mergeEntry (combine : Value → Value → Value)
    {upper : List (String × Value)} (distinct : (upper.map Prod.fst).Nodup)
    (lower : List (String × Value)) (key : String) :
    (upper.foldl (mergeEntry combine) lower).lookup key =
      Option.merge combine (lower.lookup key) (upper.lookup key) := by
  induction upper generalizing lower with
  | nil =>
      rw [List.foldl_nil, List.lookup_nil]
      cases lower.lookup key <;> rfl
  | cons entry rest ih =>
      obtain ⟨absent, restDistinct⟩ := List.nodup_cons.mp distinct
      rw [List.foldl_cons, ih restDistinct, lookup_mergeEntry, List.lookup_cons]
      by_cases same : key = entry.1
      · have notLater : rest.lookup key = none := by
          rw [List.lookup_eq_none_iff]
          intro other member
          rw [bne_iff_ne, same]
          intro equal
          rw [equal] at absent
          exact absent (List.mem_map_of_mem member)
        rw [if_pos same, notLater, same, beq_self_eq_true]
        cases lower.lookup entry.1 <;> rfl
      · rw [if_neg same, beq_eq_false_iff_ne.mpr same]

theorem get?_merge {upper : Value} (isUpper : IsDocument upper) (depth : Nat)
    (lower : List (String × Value)) (key : String) :
    (merge (depth + 1) (.table lower) upper).get? key =
      Option.merge (merge depth) (lower.lookup key) (upper.get? key) := by
  obtain ⟨upper, rfl, distinct⟩ := isUpper
  exact lookup_foldl_mergeEntry (merge depth) distinct lower key

theorem get?_foldl_merge {documents : List Value}
    (allRead : ∀ document ∈ documents, IsDocument document)
    (depth : Nat) (lower : List (String × Value)) (key : String) :
    (documents.foldl (merge (depth + 1)) (.table lower)).get? key =
      (documents.map (·.get? key)).foldl (Option.merge (merge depth)) (lower.lookup key) := by
  induction documents generalizing lower with
  | nil => rfl
  | cons document rest ih =>
      obtain ⟨isDocument, restRead⟩ := List.forall_mem_cons.mp allRead
      have settled := get?_merge isDocument depth lower key
      obtain ⟨upper, rfl, _⟩ := isDocument
      rw [List.foldl_cons, List.map_cons, List.foldl_cons, ← settled]
      exact ih restRead _

end SymbolJump.Toml
