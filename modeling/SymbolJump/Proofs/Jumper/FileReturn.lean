/-
Going back in a file undoes the jumps, the latest first.

A run mixes jumps to definitions, found or not, with moves of the caret and
changes of the text. Every jump that succeeds puts the caret it starts from on
the stack of the file, and nothing else touches that stack, so after the run
it holds the carets of departure in reverse. Each of them was at rest when it
was stored. While the text stays the same, going back therefore finds it
exactly; in another text it comes to rest at the nearest place.
-/

import SymbolJump.Proofs.Jumper.Moves

namespace SymbolJump

open Text

structure FileSession where
  jumper : FileJumper
  history : History

inductive FileAction where
  | define (usage : Usage)
  | setCursor (position : Position)
  | jump (destination : Destination)
  | setText (text : List Char)

def FileAction.KeepsText : FileAction → Prop
  | .setText _ => False
  | .define _ | .setCursor _ | .jump _ => True

namespace FileSession

def text (session : FileSession) : List Char :=
  session.jumper.editor.text

def caret (session : FileSession) : Position :=
  session.jumper.editor.cursor

def entries (session : FileSession) : List Destination :=
  session.history.stack session.jumper.surface

/-! ### Runs -/

def act (session : FileSession) : FileAction → FileSession
  | .define usage =>
      let (_, jumper, history) := session.jumper.jumpToDefinition session.history usage
      ⟨jumper, history⟩
  | .setCursor position =>
      { session with
        jumper := { session.jumper with editor := session.jumper.editor.setCursor position } }
  | .jump destination => { session with jumper := session.jumper.jump destination }
  | .setText text =>
      { session with
        jumper := { session.jumper with editor := session.jumper.editor.setText text } }

def run (session : FileSession) (actions : List FileAction) : FileSession :=
  actions.foldl act session

/-- The caret an action leaves behind, if it is a jump to a definition that succeeds. -/
def departure? (session : FileSession) : FileAction → Option Position
  | .define usage =>
      if (session.jumper.jumpToDefinition session.history usage).1 then some session.caret
      else none
  | .setCursor _ | .jump _ | .setText _ => none

/-- The carets that the successful jumps of a run start from, in order. -/
def departures : FileSession → List FileAction → List Position
  | _, [] => []
  | session, action :: rest =>
      (session.departure? action).toList ++ departures (session.act action) rest

def back (session : FileSession) : Bool × FileSession :=
  let (moved, jumper, history) := session.jumper.jumpBack session.history
  (moved, ⟨jumper, history⟩)

/-- Goes back a number of times: every answer with the caret it leaves, and the session in
the end. -/
def backs : Nat → FileSession → List (Bool × Position) × FileSession
  | 0, session => ([], session)
  | count + 1, session =>
      let (moved, returned) := session.back
      let (answers, last) := backs count returned
      ((moved, returned.caret) :: answers, last)

/-! ### One action -/

theorem act_define_of_none {session : FileSession} {usage : Usage}
    (missing : session.jumper.definition? usage = none) :
    session.act (.define usage) = session ∧ session.departure? (.define usage) = none := by
  have unmoved := FileJumper.jumpToDefinition_of_none missing session.history
  constructor
  · simp only [act, unmoved]
  · simp only [departure?, unmoved, Bool.false_eq_true, if_false]

theorem act_define_of_some {session : FileSession} {usage : Usage} {token : Token}
    (found : session.jumper.definition? usage = some token) :
    session.act (.define usage) =
        ⟨session.jumper.jump (.ofToken token),
          session.history.store session.jumper.surface (.ofPosition session.caret)⟩ ∧
      session.departure? (.define usage) = some session.caret := by
  have moved := FileJumper.jumpToDefinition_of_some found session.history
  constructor
  · simp only [act, moved]
    rfl
  · simp only [departure?, moved, if_true]

theorem entries_act (session : FileSession) (action : FileAction) :
    (session.act action).entries =
      (session.departure? action).toList.map .ofPosition ++ session.entries := by
  cases action with
  | define usage =>
      cases found : session.jumper.definition? usage with
      | none =>
          obtain ⟨unchanged, noDeparture⟩ := act_define_of_none found
          rw [unchanged, noDeparture]
          rfl
      | some token =>
          obtain ⟨moved, departs⟩ := act_define_of_some found
          rw [moved, departs]
          exact History.stack_store_self _ _ _
  | setCursor position => rfl
  | jump destination => rfl
  | setText text => rfl

theorem rests_act {session : FileSession} (rests : Rests session.text session.caret)
    (action : FileAction) : Rests (session.act action).text (session.act action).caret := by
  cases action with
  | define usage =>
      cases found : session.jumper.definition? usage with
      | none =>
          rw [(act_define_of_none found).1]
          exact rests
      | some token =>
          rw [(act_define_of_some found).1]
          exact rests_clamp _ _
  | setCursor position => exact rests_clamp _ _
  | jump destination => exact rests_clamp _ _
  | setText text => exact rests_clamp _ _

theorem text_act {session : FileSession} {action : FileAction}
    (keepsText : action.KeepsText) : (session.act action).text = session.text := by
  cases action with
  | define usage =>
      cases found : session.jumper.definition? usage with
      | none => rw [(act_define_of_none found).1]
      | some token =>
          rw [(act_define_of_some found).1]
          rfl
  | setCursor position => rfl
  | jump destination => rfl
  | setText text => exact absurd keepsText not_false

theorem departure?_eq_some {session : FileSession} {action : FileAction} {caret : Position}
    (departs : session.departure? action = some caret) : caret = session.caret := by
  cases action with
  | define usage =>
      simp only [departure?] at departs
      split at departs
      · exact (Option.some.inj departs).symm
      · cases departs
  | setCursor position => cases departs
  | jump destination => cases departs
  | setText text => cases departs

/-! ### Whole runs -/

theorem entries_run (session : FileSession) (actions : List FileAction) :
    (session.run actions).entries =
      (session.departures actions).reverse.map .ofPosition ++ session.entries := by
  induction actions generalizing session with
  | nil => rfl
  | cons action rest ih =>
      have later := ih (session.act action)
      rw [entries_act] at later
      change ((session.act action).run rest).entries = _
      rw [later, departures, List.reverse_append, List.map_append, List.append_assoc]
      cases session.departure? action with
      | none => rfl
      | some caret => rfl

theorem text_run {session : FileSession} {actions : List FileAction}
    (keepsText : ∀ action ∈ actions, action.KeepsText) :
    (session.run actions).text = session.text := by
  induction actions generalizing session with
  | nil => rfl
  | cons action rest ih =>
      obtain ⟨keepsFirst, keepsRest⟩ := List.forall_mem_cons.mp keepsText
      change ((session.act action).run rest).text = _
      rw [ih keepsRest, text_act keepsFirst]

theorem rests_departures {session : FileSession} {actions : List FileAction}
    (rests : Rests session.text session.caret) (keepsText : ∀ action ∈ actions, action.KeepsText)
    {caret : Position} (departs : caret ∈ session.departures actions) :
    Rests session.text caret := by
  induction actions generalizing session with
  | nil => cases departs
  | cons action rest ih =>
      obtain ⟨keepsFirst, keepsRest⟩ := List.forall_mem_cons.mp keepsText
      rw [departures, List.mem_append, Option.mem_toList] at departs
      rcases departs with now | later
      · rw [departure?_eq_some now]
        exact rests
      · have atRest := ih (rests_act rests action) keepsRest later
        rw [text_act keepsFirst] at atRest
        exact atRest

/-! ### Going back -/

theorem back_of_nil {session : FileSession} (empty : session.entries = []) :
    session.back = (false, session) := by
  simp only [back, FileJumper.jumpBack_of_nil empty]

theorem back_of_cons {session : FileSession} {latest : Destination}
    {earlier : List Destination} (stacked : session.entries = latest :: earlier) :
    ∃ returned, session.back = (true, returned) ∧ returned.text = session.text ∧
      returned.caret = clamp session.text (latest.caret session.text) ∧
      returned.entries = earlier := by
  have isBack : session.back = (true, ⟨session.jumper.jump latest,
      (session.history.recollect session.jumper.surface).2⟩) := by
    simp only [back, FileJumper.jumpBack_of_cons stacked]
  refine ⟨_, isBack, rfl, rfl, ?_⟩
  change (session.history.recollect session.jumper.surface).2.stack session.jumper.surface = _
  rw [History.stack_recollect_self]
  change session.entries.tail = _
  rw [stacked, List.tail_cons]

/-- A stack of carets is worked off from the top, each of them in the text at hand. -/
theorem backs_of_entries {session : FileSession} {carets : List Position}
    (stacked : session.entries = carets.map .ofPosition) :
    (session.backs carets.length).1 =
        carets.map (fun caret => (true, clamp session.text caret)) ∧
      (session.backs carets.length).2.entries = [] := by
  induction carets generalizing session with
  | nil => exact ⟨rfl, stacked⟩
  | cons caret rest ih =>
      obtain ⟨returned, isBack, sameText, isCaret, restStacked⟩ := back_of_cons stacked
      obtain ⟨restAnswers, worked⟩ := ih restStacked
      have settled : returned.caret = clamp session.text caret := by
        rw [isCaret]
        exact clamp_clamp session.text caret
      simp only [List.length_cons, backs, isBack, restAnswers, settled, sameText, List.map_cons,
        true_and]
      exact worked

/-- After any run of an editor in use whose file has no history yet, going back as often as
jumps succeeded answers yes every time and puts the caret where each of these jumps started,
the latest first. In a text that was changed meanwhile this is the place nearest to it, in
the same text exactly the same position. Going back once more answers no and changes
nothing. -/
theorem backs_retrace_departures (session : FileSession) (actions : List FileAction)
    (inUse : session.jumper.editor.Reachable) (unvisited : session.entries = []) :
    let finished := session.run actions
    let carets := (session.departures actions).reverse
    let returned := finished.backs carets.length
    returned.1 = carets.map (fun caret => (true, clamp finished.text caret)) ∧
      ((∀ action ∈ actions, action.KeepsText) →
        returned.1 = carets.map (fun caret => (true, caret))) ∧
      returned.2.back = (false, returned.2) := by
  intro finished carets returned
  have stacked : finished.entries = carets.map .ofPosition := by
    rw [entries_run, unvisited, List.append_nil]
  obtain ⟨answers, worked⟩ := backs_of_entries stacked
  refine ⟨answers, ?_, back_of_nil worked⟩
  intro keepsText
  rw [answers, text_run keepsText]
  apply List.map_congr_left
  intro caret departs
  have atRest := rests_departures inUse.rests keepsText (List.mem_reverse.mp departs)
  rw [clamp_of_rests atRest]

def exampleSession : FileSession where
  jumper :=
    { editor :=
        ({ id := "e", text := "x\r\nx x".toList, contentType := "t" } : Editor).setCursor ⟨1, 2⟩
      path := []
      language := "any"
      registry := ⟨[{ language := "any", rules := [{ name := "any" }] }]⟩ }
  history := .empty

theorem backs_retrace_two_jumps :
    exampleSession.departures
        [.define { token := ⟨['x'], 5⟩ }, .setCursor ⟨0, 9⟩, .define { token := ⟨['x'], 3⟩ }] =
      [⟨1, 2⟩, ⟨0, 1⟩] ∧
    ((exampleSession.run
        [.define { token := ⟨['x'], 5⟩ }, .setCursor ⟨0, 9⟩, .define { token := ⟨['x'], 3⟩ }]).backs
          2).1 = [(true, ⟨0, 1⟩), (true, ⟨1, 2⟩)] := by
  have departs : exampleSession.departures
      [.define { token := ⟨['x'], 5⟩ }, .setCursor ⟨0, 9⟩, .define { token := ⟨['x'], 3⟩ }] =
        [⟨1, 2⟩, ⟨0, 1⟩] := by
    decide
  refine ⟨departs, ?_⟩
  have returned := (backs_retrace_departures exampleSession
    [.define { token := ⟨['x'], 5⟩ }, .setCursor ⟨0, 9⟩, .define { token := ⟨['x'], 3⟩ }]
    (.setCursor _ (.opened _ _ _ _)) rfl).2.1 (by simp [FileAction.KeepsText])
  rw [departs] at returned
  exact returned

end FileSession

end SymbolJump
