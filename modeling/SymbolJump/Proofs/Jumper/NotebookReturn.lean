/-
Going back in a notebook finds the cell a jump started from.

A run mixes jumps, returns, moves of carets and cells that are added, removed
and made active. Beside it runs the trail of departures: a jump that succeeds
adds the editor it starts in together with the caret to return to, and going
back takes the latest one off. The stack of the notebook matches the trail
entry by entry as long as ids stay distinct, because an entry names its editor
and a text never leaves its id. The number of the cell stored beside the id
goes stale, and no step reads it.
-/

import SymbolJump.Proofs.Jumper.CellList

namespace SymbolJump

open Text

structure NotebookSession where
  jumper : NotebookJumper
  history : History

inductive NotebookAction where
  | define (usage : Usage)
  | back
  | jump (destination : Destination)
  | setCursor (index : Nat) (position : Position)
  | insert (index : Nat) (cell : Editor)
  | push (cell : Editor)
  | remove (index : Nat)
  | activate (index : Nat)

def NotebookAction.brought : NotebookAction → List Editor
  | .insert _ cell | .push cell => [cell]
  | .define _ | .back | .jump _ | .setCursor _ _ | .remove _ | .activate _ => []

/-- Where a jump started: the editor of the cell and the caret to return to. -/
structure Departure where
  editor : String
  caret : Position
  deriving DecidableEq, Repr

namespace NotebookSession

def cells (session : NotebookSession) : List Editor :=
  session.jumper.cells

def entries (session : NotebookSession) : List Destination :=
  session.history.stack session.jumper.surface

def back (session : NotebookSession) : Bool × NotebookSession :=
  let (moved, jumper, history) := session.jumper.jumpBack session.history
  (moved, ⟨jumper, history⟩)

/-! ### Runs and their trails -/

def act (session : NotebookSession) : NotebookAction → NotebookSession
  | .define usage =>
      let (_, jumper, history) := session.jumper.jumpToDefinition session.history usage
      ⟨jumper, history⟩
  | .back => session.back.2
  | .jump destination =>
      { session with jumper := (session.jumper.jump destination).getD session.jumper }
  | .setCursor index position =>
      { session with jumper := session.jumper.modifyCell index (·.setCursor position) }
  | .insert index cell => { session with jumper := (session.jumper.insertCell index cell).2 }
  | .push cell => { session with jumper := session.jumper.pushCell cell }
  | .remove index =>
      { session with
        jumper := ((session.jumper.removeCell index).map Prod.snd).getD session.jumper }
  | .activate index =>
      { session with jumper := (session.jumper.setActive index).getD session.jumper }

def run (session : NotebookSession) (actions : List NotebookAction) : NotebookSession :=
  actions.foldl act session

/-- The departure of a jump from a cell: its caret if the cell is the active one, the place of
the token otherwise. -/
def departure (session : NotebookSession) (usage : Usage) (cell : Editor) : Departure where
  editor := cell.id
  caret :=
    if session.jumper.usedCell usage = session.jumper.active then cell.cursor
    else clamp cell.text (positionAt cell.text usage.token.offset)

def follow (session : NotebookSession) (trail : List Departure) :
    NotebookAction → List Departure
  | .define usage =>
      if (session.jumper.jumpToDefinition session.history usage).1 then
        (session.cells[session.jumper.usedCell usage]?.map (session.departure usage)).toList ++ trail
      else trail
  | .back => trail.tail
  | .jump _ | .setCursor _ _ | .insert _ _ | .push _ | .remove _ | .activate _ => trail

/-- The trail after a run, the latest departure first. -/
def trail : NotebookSession → List Departure → List NotebookAction → List Departure
  | _, sofar, [] => sofar
  | session, sofar, action :: rest => trail (session.act action) (session.follow sofar action) rest

/-! ### Entries that match departures -/

/-- Following the entry in any of the cells that has the departure's id gives its caret. -/
structure Leads (cells : List Editor) (departure : Departure) (entry : Destination) : Prop where
  names : entry.editor = some departure.editor
  arrives : ∀ cell ∈ cells, cell.id = departure.editor →
    clamp cell.text (entry.caret cell.text) = departure.caret

/-- The top of a stack matches a trail. -/
def Recorded (cells : List Editor) : List Departure → List Destination → Prop
  | [], _ => True
  | _ :: _, [] => False
  | departure :: trail, entry :: entries =>
      Leads cells departure entry ∧ Recorded cells trail entries

theorem Recorded.tail {cells : List Editor} {trail : List Departure} {entries : List Destination}
    (recorded : Recorded cells trail entries) : Recorded cells trail.tail entries.tail := by
  cases trail with
  | nil => trivial
  | cons departure trail =>
      cases entries with
      | nil => exact absurd recorded not_false
      | cons entry entries => exact recorded.2

theorem Recorded.of_contents {cells after : List Editor} {trail : List Departure}
    {entries : List Destination} (recorded : Recorded cells trail entries)
    (sources : ∀ departure ∈ trail, ∀ cell ∈ after, cell.id = departure.editor →
      ∃ source ∈ cells, source.content = cell.content) :
    Recorded after trail entries := by
  induction trail generalizing entries with
  | nil => trivial
  | cons departure trail ih =>
      cases entries with
      | nil => exact absurd recorded not_false
      | cons entry entries =>
          obtain ⟨leads, rest⟩ := recorded
          obtain ⟨ownSources, restSources⟩ := List.forall_mem_cons.mp sources
          refine ⟨⟨leads.names, ?_⟩, ih rest restSources⟩
          intro cell member hasId
          obtain ⟨source, sourceMember, sameContent⟩ := ownSources cell member hasId
          have sameId : source.id = cell.id := congrArg Prod.fst sameContent
          have sameText : source.text = cell.text := congrArg Prod.snd sameContent
          have arrives := leads.arrives source sourceMember (sameId.trans hasId)
          rw [sameText] at arrives
          exact arrives

/-- What a run keeps true, given the cells it still brings. -/
structure Faithful (session : NotebookSession) (trail : List Departure)
    (coming : List Editor) : Prop where
  distinct : ((session.cells ++ coming).map (·.id)).Nodup
  atRest : ∀ cell ∈ session.cells ++ coming, Rests cell.text cell.cursor
  unseen : ∀ departure ∈ trail, ∀ cell ∈ coming, cell.id ≠ departure.editor
  recorded : Recorded session.cells trail session.entries

namespace Faithful

variable {session after : NotebookSession} {trail later : List Departure}
  {brought coming : List Editor}

theorem recorded_of_descends (faithful : Faithful session trail (brought ++ coming))
    (descends : Descends (session.cells ++ brought) after.cells) :
    Recorded after.cells trail session.entries := by
  apply faithful.recorded.of_contents
  intro departure departs cell member hasId
  obtain ⟨source, sourceMember, sameContent⟩ := descends.exists_content member
  rcases List.mem_append.mp sourceMember with before | new
  · exact ⟨source, before, sameContent⟩
  · -- A cell that comes now cannot have the id of an earlier departure.
    have sameId : source.id = cell.id := congrArg Prod.fst sameContent
    exact absurd (sameId.trans hasId)
      (faithful.unseen departure departs source (List.mem_append_left coming new))

theorem step (faithful : Faithful session trail (brought ++ coming))
    (descends : Descends (session.cells ++ brought) after.cells)
    (known : ∀ departure ∈ later,
      departure ∈ trail ∨ ∃ cell ∈ session.cells, cell.id = departure.editor)
    (recorded : Recorded after.cells later after.entries) : Faithful after later coming where
  distinct := by
    refine (descends.append coming).distinct ?_
    rw [List.append_assoc]
    exact faithful.distinct
  atRest := by
    refine (descends.append coming).rests ?_
    rw [List.append_assoc]
    exact faithful.atRest
  unseen := by
    intro departure departs cell member sameId
    have isComing : cell ∈ brought ++ coming := List.mem_append_right brought member
    rcases known departure departs with before | ⟨other, otherMember, otherId⟩
    · exact faithful.unseen departure before cell isComing sameId
    · have apart := faithful.distinct
      rw [List.map_append] at apart
      have disjoint := (List.nodup_append.mp apart).2.2
      exact disjoint other.id (List.mem_map_of_mem otherMember) cell.id
        (List.mem_map_of_mem isComing) (otherId.trans sameId.symm)
  recorded := recorded

end Faithful

/-! ### One action -/

theorem back_of_nil {session : NotebookSession} (empty : session.entries = []) :
    session.back = (false, session) := by
  simp only [back, NotebookJumper.jumpBack_of_nil empty]

theorem back_of_cons {session : NotebookSession} {latest : Destination}
    {earlier : List Destination} (stacked : session.entries = latest :: earlier) :
    session.back =
      ((session.jumper.jump latest).isSome,
        ⟨(session.jumper.jump latest).getD session.jumper,
          (session.history.recollect session.jumper.surface).2⟩) := by
  simp only [back, NotebookJumper.jumpBack_of_cons stacked]

theorem descends_back (session : NotebookSession) :
    Descends session.cells session.back.2.cells := by
  cases stacked : session.entries with
  | nil =>
      rw [back_of_nil stacked]
      exact .refl _
  | cons latest earlier =>
      rw [back_of_cons stacked]
      exact session.jumper.descends_jump latest

theorem entries_back (session : NotebookSession) :
    session.back.2.entries = session.entries.tail := by
  cases stacked : session.entries with
  | nil =>
      rw [back_of_nil stacked, stacked]
      rfl
  | cons latest earlier =>
      rw [back_of_cons stacked]
      unfold entries
      rw [NotebookJumper.jump_getD_surface, History.stack_recollect_self]
      exact congrArg List.tail stacked

theorem act_define_of_none {session : NotebookSession} {usage : Usage} (trail : List Departure)
    (missing : session.jumper.definition? usage = none) :
    session.act (.define usage) = session ∧ session.follow trail (.define usage) = trail := by
  have unmoved := NotebookJumper.jumpToDefinition_of_none missing session.history
  constructor
  · simp only [act, unmoved]
  · simp only [follow, unmoved, Bool.false_eq_true, if_false]

theorem act_define_of_some {session : NotebookSession} {usage : Usage} (trail : List Departure)
    {place : Nat × Token} (found : session.jumper.definition? usage = some place) :
    ∃ cell, session.cells[session.jumper.usedCell usage]? = some cell ∧
      Descends session.cells (session.act (.define usage)).cells ∧
      (session.act (.define usage)).entries =
        session.jumper.origin usage (session.jumper.usedCell usage) cell :: session.entries ∧
      session.follow trail (.define usage) = session.departure usage cell :: trail := by
  obtain ⟨cell, target, start, isCell, isTarget, _, moved⟩ :=
    NotebookJumper.jumpToDefinition_of_some found session.history
  refine ⟨cell, isCell, ?_, ?_, ?_⟩
  · simp only [act, moved]
    exact .set isTarget rfl (rests_clamp _ _)
  · simp only [act, moved]
    exact History.stack_store_self _ _ _
  · have isCell' : session.cells[session.jumper.usedCell usage]? = some cell := isCell
    simp only [follow, moved, if_true, isCell', Option.map_some, Option.toList_some,
      List.singleton_append]

theorem origin_leads {session : NotebookSession} {usage : Usage} {cell other : Editor}
    (rests : Rests cell.text cell.cursor) (sameText : other.text = cell.text) :
    clamp other.text
        ((session.jumper.origin usage (session.jumper.usedCell usage) cell).caret other.text) =
      (session.departure usage cell).caret := by
  rw [sameText]
  unfold NotebookJumper.origin departure
  split
  · change clamp cell.text (clamp cell.text cell.cursor) = cell.cursor
    rw [clamp_of_rests rests, clamp_of_rests rests]
  · rfl

theorem descends_act (session : NotebookSession) (action : NotebookAction) :
    Descends (session.cells ++ action.brought) (session.act action).cells := by
  cases action with
  | define usage =>
      cases found : session.jumper.definition? usage with
      | none =>
          rw [(act_define_of_none [] found).1]
          exact (Descends.refl _).append_nil
      | some place =>
          obtain ⟨_, _, descends, _⟩ := act_define_of_some [] found
          exact descends.append_nil
  | back => exact (descends_back session).append_nil
  | jump destination => exact (session.jumper.descends_jump destination).append_nil
  | setCursor index position =>
      exact (session.jumper.descends_setCursor index position).append_nil
  | insert index cell => exact session.jumper.descends_insertCell index cell
  | push cell => exact .refl _
  | remove index => exact (session.jumper.descends_removeCell index).append_nil
  | activate index => exact (session.jumper.descends_setActive index).append_nil

theorem recorded_act {session : NotebookSession} {trail : List Departure} {action : NotebookAction}
    {coming : List Editor} (faithful : Faithful session trail (action.brought ++ coming)) :
    Recorded (session.act action).cells (session.follow trail action)
      (session.act action).entries := by
  have recorded := faithful.recorded_of_descends (descends_act session action)
  cases action with
  | define usage =>
      cases found : session.jumper.definition? usage with
      | none =>
          obtain ⟨unchanged, sameTrail⟩ := act_define_of_none trail found
          rw [unchanged, sameTrail]
          exact faithful.recorded
      | some place =>
          obtain ⟨cell, isCell, descends, stored, departs⟩ := act_define_of_some trail found
          rw [stored, departs]
          refine ⟨⟨rfl, ?_⟩, recorded⟩
          intro other member hasId
          obtain ⟨source, sourceMember, sameContent⟩ := descends.exists_content member
          have cellMember : cell ∈ session.cells := List.mem_of_getElem? isCell
          have distinct : (session.cells.map (·.id)).Nodup := by
            have apart := faithful.distinct
            rw [List.map_append] at apart
            exact (List.nodup_append.mp apart).1
          have sourceId : source.id = cell.id := (congrArg Prod.fst sameContent).trans hasId
          have isSource : source = cell :=
            Editor.eq_of_id distinct sourceMember cellMember sourceId
          have sameText : other.text = cell.text := by
            rw [← isSource]
            exact (congrArg Prod.snd sameContent).symm
          have rests := faithful.atRest cell (List.mem_append_left _ cellMember)
          exact origin_leads rests sameText
  | back =>
      change Recorded _ trail.tail session.back.2.entries
      rw [entries_back]
      exact recorded.tail
  | jump destination =>
      change Recorded _ trail
        (session.history.stack ((session.jumper.jump destination).getD session.jumper).surface)
      rw [NotebookJumper.jump_getD_surface]
      exact recorded
  | setCursor index position => exact recorded
  | insert index cell => exact recorded
  | push cell => exact recorded
  | remove index =>
      change Recorded _ trail (session.history.stack
        (((session.jumper.removeCell index).map Prod.snd).getD session.jumper).surface)
      rw [NotebookJumper.removeCell_getD_surface]
      exact recorded
  | activate index =>
      change Recorded _ trail
        (session.history.stack ((session.jumper.setActive index).getD session.jumper).surface)
      rw [NotebookJumper.setActive_getD_surface]
      exact recorded

theorem known_follow {session : NotebookSession} {trail : List Departure} (action : NotebookAction)
    {departure : Departure} (departs : departure ∈ session.follow trail action) :
    departure ∈ trail ∨ ∃ cell ∈ session.cells, cell.id = departure.editor := by
  cases action with
  | define usage =>
      cases found : session.jumper.definition? usage with
      | none =>
          rw [(act_define_of_none trail found).2] at departs
          exact .inl departs
      | some place =>
          obtain ⟨cell, isCell, _, _, added⟩ := act_define_of_some trail found
          rw [added] at departs
          rcases List.mem_cons.mp departs with rfl | before
          · exact .inr ⟨cell, List.mem_of_getElem? isCell, rfl⟩
          · exact .inl before
  | back => exact .inl (List.mem_of_mem_tail departs)
  | jump destination => exact .inl departs
  | setCursor index position => exact .inl departs
  | insert index cell => exact .inl departs
  | push cell => exact .inl departs
  | remove index => exact .inl departs
  | activate index => exact .inl departs

/-! ### Whole runs -/

theorem faithful_run {session : NotebookSession} {trail : List Departure}
    {actions : List NotebookAction}
    (faithful : Faithful session trail (actions.flatMap (·.brought))) :
    Faithful (session.run actions) (session.trail trail actions) [] := by
  induction actions generalizing session trail with
  | nil => exact faithful
  | cons action rest ih =>
      rw [List.flatMap_cons] at faithful
      exact ih (faithful.step (descends_act session action)
        (fun departure departs => known_follow action departs) (recorded_act faithful))

theorem faithful_start {session : NotebookSession} {coming : List Editor}
    (inUse : ∀ cell ∈ session.cells ++ coming, cell.Reachable)
    (distinct : ((session.cells ++ coming).map (·.id)).Nodup) : Faithful session [] coming where
  distinct := distinct
  atRest := fun cell member => (inUse cell member).rests
  unseen := by
    intro departure departs
    cases departs
  recorded := trivial

theorem recorded_cons {cells : List Editor} {departure : Departure} {trail : List Departure}
    {entries : List Destination} (recorded : Recorded cells (departure :: trail) entries) :
    ∃ entry older, entries = entry :: older ∧ Leads cells departure entry := by
  cases entries with
  | nil => exact absurd recorded not_false
  | cons entry older => exact ⟨entry, older, rfl, recorded.1⟩

/-- After any run over cells with distinct ids, going back returns to the latest departure. If
a cell with the id of the departure exists, it becomes the active one, under the number it
has by now, and gets the caret of the departure and the focus; nothing else in the notebook
changes. If there is none, the answer is no and the notebook stays as it is. In both cases one
entry of the notebook's own stack is used up and every other stack is untouched. -/
theorem back_follows_departure (session : NotebookSession) (actions : List NotebookAction)
    (inUse : ∀ cell ∈ session.cells ++ actions.flatMap (·.brought), cell.Reachable)
    (distinct : ((session.cells ++ actions.flatMap (·.brought)).map (·.id)).Nodup)
    (departure : Departure) (earlier : List Departure)
    (latest : session.trail [] actions = departure :: earlier) :
    let finished := session.run actions
    (∀ index cell, finished.cells[index]? = some cell → cell.id = departure.editor →
        finished.back.1 = true ∧
        finished.back.2.jumper =
          { finished.jumper with
            cells := finished.cells.set index
              { cell with cursor := departure.caret, focused := true }
            active := index }) ∧
      ((∀ cell ∈ finished.cells, cell.id ≠ departure.editor) →
        finished.back.1 = false ∧ finished.back.2.jumper = finished.jumper) ∧
      (∃ entry, finished.entries = entry :: finished.back.2.entries) ∧
      ∀ other, other ≠ finished.jumper.surface →
        finished.back.2.history.stack other = finished.history.stack other := by
  intro finished
  have faithful := faithful_run (faithful_start inUse distinct)
  rw [latest] at faithful
  obtain ⟨entry, older, stacked, leads⟩ := recorded_cons faithful.recorded
  have isBack : finished.back = _ := back_of_cons stacked
  have target : finished.jumper.targetCell? entry =
      finished.jumper.cellIndex? departure.editor := by
    unfold NotebookJumper.targetCell?
    rw [leads.names]
  have finalDistinct : (finished.jumper.cells.map (·.id)).Nodup := by
    have apart := faithful.distinct
    rw [List.append_nil] at apart
    exact apart
  refine ⟨?_, ?_, ?_, ?_⟩
  · intro index cell isCell hasId
    have isIndex : finished.jumper.targetCell? entry = some index := by
      rw [target, ← hasId]
      exact NotebookJumper.cellIndex?_of_cell finalDistinct isCell
    have arrived := leads.arrives cell (List.mem_of_getElem? isCell) hasId
    rw [isBack, NotebookJumper.jump_of_target isIndex isCell, Editor.arrive_eq_of_caret arrived]
    exact ⟨rfl, rfl⟩
  · intro missing
    have lost : finished.jumper.targetCell? entry = none := by
      rw [target]
      exact NotebookJumper.cellIndex?_of_missing missing
    rw [isBack, NotebookJumper.jump_of_lost lost]
    exact ⟨rfl, rfl⟩
  · refine ⟨entry, ?_⟩
    rw [entries_back]
    change finished.entries = _ at stacked
    rw [stacked, List.tail_cons]
  · intro other apart
    rw [isBack]
    exact History.stack_recollect_of_ne finished.history apart

def exampleCell (id : String) (text : List Char) : Editor :=
  ({ id := id, text := text, contentType := "t" } : Editor).setCursor ⟨0, 9⟩

def exampleSession : NotebookSession where
  jumper :=
    { id := "n"
      path := []
      language := "any"
      registry := ⟨[{ language := "any", rules := [{ name := "any" }] }]⟩
      cells := [exampleCell "a" ['x'], exampleCell "b" [' ', 'x']]
      active := 1 }
  history := .empty

theorem back_follows_cell_behind_insertion :
    exampleSession.trail [] [.define { token := ⟨['x'], 1⟩ }, .insert 0 (exampleCell "c" [])] =
        [⟨"b", ⟨0, 2⟩⟩] ∧
      (exampleSession.run [.define { token := ⟨['x'], 1⟩ },
        .insert 0 (exampleCell "c" [])]).back.1 = true ∧
      (exampleSession.run [.define { token := ⟨['x'], 1⟩ },
        .insert 0 (exampleCell "c" [])]).back.2.jumper.active = 2 := by
  have departs : exampleSession.trail []
      [.define { token := ⟨['x'], 1⟩ }, .insert 0 (exampleCell "c" [])] =
        [⟨"b", ⟨0, 2⟩⟩] := by
    decide
  have reachable (id : String) (text : List Char) : (exampleCell id text).Reachable :=
    .setCursor _ (.opened _ _ _ _)
  have inUse : ∀ cell ∈ exampleSession.cells ++
      [NotebookAction.define { token := ⟨['x'], 1⟩ }, .insert 0 (exampleCell "c" [])].flatMap
        (·.brought), cell.Reachable := by
    intro cell member
    change cell ∈ [exampleCell "a" ['x'], exampleCell "b" [' ', 'x'], exampleCell "c" []] at member
    simp only [List.mem_cons, List.not_mem_nil, or_false] at member
    rcases member with rfl | rfl | rfl <;> exact reachable _ _
  have follows := (back_follows_departure exampleSession
    [.define { token := ⟨['x'], 1⟩ }, .insert 0 (exampleCell "c" [])] inUse (by decide) _ _
    departs).1 2 (exampleCell "b" [' ', 'x']) (by rfl) rfl
  refine ⟨departs, follows.1, ?_⟩
  rw [follows.2]

end NotebookSession

end SymbolJump
