/-
A jump to a definition happens as a whole or not at all.

The history is written before the caret moves. That this order cannot be seen
rests on the search: it reports only places that can be reached, in every
layout of cells, for every cell number and every stale offset of the token. So
no jump leaves an entry behind without having moved.
-/

import SymbolJump.Host
import SymbolJump.Proofs.Jumper.Moves

namespace SymbolJump

open Text

namespace Jumper

def activeIndex : Jumper → Nat
  | file _ => 0
  | notebook jumper => jumper.active

def definition? : Jumper → Usage → Option (Nat × Token)
  | file jumper, usage => (jumper.definition? usage).map fun token => (0, token)
  | notebook jumper, usage => jumper.definition? usage

end Jumper

/-- A jumper with the history and the host it shares with others. -/
structure Workplace where
  jumper : Jumper
  history : History
  host : Host

namespace Workplace

def jumpToDefinition (place : Workplace) (usage : Usage) : Bool × Workplace :=
  let (moved, jumper, history) := place.jumper.jumpToDefinition place.history usage
  (moved, { place with jumper := jumper, history := history })

/-- Two workplaces around a jump that was made: one entry more on the jumper's own stack, one
editor with the caret on the definition and the focus, its cell active, and all else the
same. -/
structure Jumped (before after : Workplace) (owner : Nat) (token : Token) : Prop where
  moved : ∃ editor, before.jumper.editors[owner]? = some editor ∧
    after.jumper.editors = before.jumper.editors.set owner
      { editor with cursor := positionAt editor.text token.offset, focused := true }
  activated : after.jumper.activeIndex = owner
  pushed : ∃ entry, after.history.stack before.jumper.surface =
    entry :: before.history.stack before.jumper.surface
  otherStacks : ∀ other, other ≠ before.jumper.surface →
    after.history.stack other = before.history.stack other
  sameSurface : after.jumper.surface = before.jumper.surface
  sameLanguage : after.jumper.language = before.jumper.language
  sameHost : after.host = before.host

theorem jumpToDefinition_of_none {place : Workplace} {usage : Usage}
    (missing : place.jumper.definition? usage = none) :
    place.jumpToDefinition usage = (false, place) := by
  obtain ⟨jumper, history, host⟩ := place
  cases jumper with
  | file jumper =>
      have notFound : jumper.definition? usage = none := Option.map_eq_none_iff.mp missing
      simp only [jumpToDefinition, Jumper.jumpToDefinition,
        FileJumper.jumpToDefinition_of_none notFound]
  | notebook jumper =>
      simp only [jumpToDefinition, Jumper.jumpToDefinition,
        NotebookJumper.jumpToDefinition_of_none missing]

theorem jumpToDefinition_of_some {place : Workplace} {usage : Usage} {owner : Nat} {token : Token}
    (found : place.jumper.definition? usage = some (owner, token)) :
    ∃ after, place.jumpToDefinition usage = (true, after) ∧ Jumped place after owner token := by
  obtain ⟨jumper, history, host⟩ := place
  cases jumper with
  | file jumper =>
      obtain ⟨place, isPlace, same⟩ := Option.map_eq_some_iff.mp found
      cases same
      have jumped := FileJumper.jumpToDefinition_of_some isPlace history
      have arrived : jumper.editor.arrive (.ofToken token) = _ :=
        Editor.arrive_definition none isPlace
      rw [FileJumper.jump_eq, arrived] at jumped
      refine ⟨_, congrArg (fun result => (result.1, Workplace.mk (.file result.2.1) result.2.2 host))
        jumped, ?_⟩
      exact
        { moved := ⟨jumper.editor, rfl, rfl⟩
          activated := rfl
          pushed := ⟨_, History.stack_store_self _ _ _⟩
          otherStacks := fun other apart => History.stack_store_of_ne _ apart _
          sameSurface := rfl
          sameLanguage := rfl
          sameHost := rfl }
  | notebook jumper =>
      obtain ⟨cell, target, start, isCell, isTarget, isPlace, jumped⟩ :=
        NotebookJumper.jumpToDefinition_of_some found history
      have arrived : target.arrive ((Destination.ofToken token).inCell owner) = _ :=
        Editor.arrive_definition (some owner) isPlace
      rw [arrived] at jumped
      refine ⟨_, congrArg
        (fun result => (result.1, Workplace.mk (.notebook result.2.1) result.2.2 host)) jumped, ?_⟩
      exact
        { moved := ⟨target, isTarget, rfl⟩
          activated := rfl
          pushed := ⟨_, History.stack_store_self _ _ _⟩
          otherStacks := fun other apart => History.stack_store_of_ne _ apart _
          sameSurface := rfl
          sameLanguage := rfl
          sameHost := rfl }

/-- In every state of a file or a notebook and for every usage, a jump either finds no
definition, answers no and changes nothing at all, or finds one, answers yes and has its full
effect. -/
theorem jumpToDefinition_all_or_nothing (place : Workplace) (usage : Usage) :
    (place.jumper.definition? usage = none ∧ place.jumpToDefinition usage = (false, place)) ∨
      ∃ owner token after, place.jumper.definition? usage = some (owner, token) ∧
        place.jumpToDefinition usage = (true, after) ∧ Jumped place after owner token := by
  cases found : place.jumper.definition? usage with
  | none => exact .inl ⟨rfl, jumpToDefinition_of_none found⟩
  | some definition =>
      obtain ⟨owner, token⟩ := definition
      obtain ⟨after, jumped, effect⟩ := jumpToDefinition_of_some found
      exact .inr ⟨owner, token, after, rfl, jumped, effect⟩

end Workplace

end SymbolJump
