import SoundScene.Api.Move
import SoundScene.Proofs.BusOrder
import SoundScene.Proofs.QueueOrder

/-!
Requests for a move that are answered while other calls are under way.  A request lets go of the
scene as soon as its gesture is made, and it is answered later.  The answer about a source is made
from the event of the gesture, so it is the source right after the gesture.  The answer about the
reference is made from the scene as it is by then, so it is right exactly if the latest change of
the reference in between does not show (`answer_eq_right_iff`).
-/

namespace SoundScene

def Event.reference? : Event → Option Reference
  | .referenceChanged reference _ => some reference
  | .created .. | .modified .. | .deleted .. | .loudspeakersCreated _ => none

namespace Scene

theorem Told.reference_eq {scene next : Scene} {event : Event} (told : Told scene event next) :
    next.reference = event.reference?.getD scene.reference := by
  cases told <;> rfl

theorem ToldAll.reference_eq {scene final : Scene} {events : List Event}
    (told : ToldAll scene events final) :
    final.reference = (events.filterMap Event.reference?).getLastD scene.reference := by
  induction told with
  | done => rfl
  | @step _ _ _ event _ change _ ih =>
      rw [ih, change.reference_eq, List.filterMap_cons]
      cases event.reference? with
      | none => rfl
      | some reference => exact (List.getLastD_cons ..).symm

end Scene

namespace Traffic

theorem made_of_run {traffic final : Traffic} {schedule : List Nat}
    (ran : traffic.run schedule = some final) :
    ∃ events, final.made.map Prod.fst = traffic.made.map Prod.fst ++ events ∧
      Scene.ToldAll traffic.hub.scene events final.hub.scene := by
  let Since (later : Traffic) : Prop := ∃ events,
    later.made.map Prod.fst = traffic.made.map Prod.fst ++ events ∧
      Scene.ToldAll traffic.hub.scene events later.hub.scene
  have start : Since traffic := ⟨[], (List.append_nil _).symm, .done⟩
  -- Of all steps only a change touches the scene or the list of changes.
  refine run_preserves (fun {current next mover} held stepped => ?_) start ran
  obtain ⟨events, listed, told⟩ := held
  have unchanged (scene : next.hub.scene = current.hub.scene) (made : next.made = current.made) :
      Since next := ⟨events, by rw [made, listed], by rw [scene]; exact told⟩
  obtain ⟨stage, after, others, _, _, _, effect⟩ := step_effect stepped
  cases effect with
  | quiet scene made => exact unchanged scene made
  | acquire scene made => exact unchanged scene made
  | release scene made => exact unchanged scene made
  | publish event scene made => exact unchanged scene made
  | change new more made =>
      refine ⟨events ++ new, ?_, told.append more⟩
      rw [made, List.map_append, map_number, listed, List.append_assoc]

theorem advance_gesture {traffic next : Traffic} {gesture made : Gesture} {command : Command}
    {told : List Numbered} (advanced : traffic.advance (.arrived (.gesture gesture)) =
      some (next, .notifying made command told)) :
    gesture.toCommand = .ok command ∧ gesture.Reaches traffic.hub.scene ∧
      next.hub.scene = traffic.hub.scene.move gesture ∧
      told.map Prod.fst = [traffic.hub.scene.eventOf gesture .operator] := by
  rw [advance] at advanced
  split at advanced
  · cases advanced
  · rename_i meant
    split at advanced
    · cases advanced
    · split at advanced
      · cases advanced
      · rename_i events scene ran
        cases advanced
        rcases traffic.hub.scene.run_gesture meant .operator with
          ⟨reaches, does⟩ | ⟨_, failure, fails⟩
        · rw [ran] at does
          cases does
          exact ⟨meant, reaches, rfl, map_number ..⟩
        · rw [ran] at fails
          cases fails

end Traffic

def Target.view (target : Target) (scene : Scene) : Except Failure Json.Value :=
  match target with
  | .source id =>
    match scene.source? id with
    | some found => .ok found.toValue
    | none => .error (.sourceNotFound id)
  | .reference | .offset => .ok scene.reference.report

def Target.IsSource : Target → Prop
  | .source _ => True
  | .reference | .offset => False

/-- A request for a move whose gesture is one of several calls: just before the gesture is made,
right after it, and when the request is answered. -/
structure Visit (hub : Hub) (calls : List Call) where
  request : PoseRequest
  target : Target
  gesture : Gesture
  meant : request.toGesture target = .ok gesture
  mover : Nat
  waiting : Traffic
  arrives : ∃ schedule, (Traffic.start hub calls).run schedule = some waiting
  asked : waiting.stages[mover]? = some (.arrived (.gesture gesture))
  moved : Traffic
  moves : waiting.step mover = some moved
  told : List Numbered
  accepted : ∃ command, moved.stages[mover]? = some (.notifying gesture command told)
  answering : Traffic
  goesOn : ∃ schedule, moved.run schedule = some answering
  returned : answering.stages[mover]? = some (.returned none)
  /-- The scene is looked at only while no message has it. -/
  free : target.IsSource ∨ answering.held = false

namespace Visit

variable {hub : Hub} {calls : List Call}

def answer (visit : Visit hub calls) : Except Failure Json.Value :=
  visit.target.answer (visit.told.map Prod.fst) visit.answering.hub

def right (visit : Visit hub calls) : Except Failure Json.Value :=
  visit.target.view visit.moved.hub.scene

def since (visit : Visit hub calls) : List Event :=
  (visit.answering.made.drop visit.moved.made.length).map Prod.fst

/-- The reference as the latest of these changes has it. -/
def latest (visit : Visit hub calls) : Reference :=
  (visit.since.filterMap Event.reference?).getLastD visit.moved.hub.scene.reference

theorem gesture_target (visit : Visit hub calls) : visit.gesture.target = visit.target := by
  obtain ⟨parts, _, meant⟩ := ok_of_bind visit.meant
  rw [← Except.ok.inj meant]

theorem move_eq (visit : Visit hub calls) :
    (∃ command, visit.gesture.toCommand = .ok command) ∧
      visit.gesture.Reaches visit.waiting.hub.scene ∧
      visit.moved.hub.scene = visit.waiting.hub.scene.move visit.gesture ∧
      visit.told.map Prod.fst = [visit.waiting.hub.scene.eventOf visit.gesture .operator] := by
  obtain ⟨stage, after, _, found, _, _, middle, advanced, next⟩ := Traffic.step_cases visit.moves
  obtain ⟨command, accepted⟩ := visit.accepted
  -- The step is the gesture's own, so it is the one in which the gesture is made.
  have same : stage = .arrived (.gesture visit.gesture) :=
    Option.some.inj (found.symm.trans visit.asked)
  have bound : visit.mover < visit.waiting.stages.length :=
    (List.getElem?_eq_some_iff.1 found).1
  rw [next, List.getElem?_set_self bound] at accepted
  rw [same, Option.some.inj accepted] at advanced
  have scene : visit.moved.hub.scene = middle.hub.scene := by rw [next]
  rw [scene]
  obtain ⟨meant, does⟩ := Traffic.advance_gesture advanced
  exact ⟨⟨command, meant⟩, does⟩

theorem told_since (visit : Visit hub calls) :
    Scene.ToldAll visit.moved.hub.scene visit.since visit.answering.hub.scene := by
  obtain ⟨schedule, ran⟩ := visit.goesOn
  obtain ⟨events, made, told⟩ := Traffic.made_of_run ran
  have same : visit.since = events := by
    rw [since, List.map_drop, made, List.drop_left' (List.length_map ..)]
  rw [same]
  exact told

theorem answer_source (visit : Visit hub calls) {id : String} (named : visit.target = .source id) :
    ∃ source : Source, visit.answer = .ok source.toValue ∧ visit.right = .ok source.toValue := by
  obtain ⟨_, reaches, moved, told⟩ := visit.move_eq
  have meant := visit.gesture_target.trans named
  obtain ⟨source, found⟩ := reaches.exists_source meant
  have event : visit.told.map Prod.fst =
      [.modified (source.apply visit.gesture.patch) .operator] := by
    rw [told, Scene.eventOf_source meant found]
  have after : visit.moved.hub.scene.source? id = some (source.apply visit.gesture.patch) := by
    rw [moved, Scene.source?_move_self meant found]
  refine ⟨source.apply visit.gesture.patch, ?_, ?_⟩
  · rw [answer, named, event]
    rfl
  · rw [right, named, Target.view, after]

theorem answer_reference (visit : Visit hub calls) (other : ¬ visit.target.IsSource) :
    visit.answer = .ok visit.latest.report ∧
      visit.right = .ok visit.moved.hub.scene.reference.report := by
  rw [latest, ← visit.told_since.reference_eq, answer, right]
  cases named : visit.target with
  | source id => exact absurd (named ▸ trivial) other
  | reference => exact ⟨rfl, rfl⟩
  | offset => exact ⟨rfl, rfl⟩

theorem answer_eq_move (visit : Visit hub calls) (alone : visit.since = []) :
    visit.answer = (visit.waiting.hub.move visit.target visit.request).answer := by
  obtain ⟨⟨command, meant⟩, reaches, moved, told⟩ := visit.move_eq
  obtain ⟨outbox, performed⟩ := Hub.perform_of_reaches meant reaches
  have same : visit.answering.hub.scene.reference =
      (visit.waiting.hub.scene.move visit.gesture).reference := by
    rw [visit.told_since.reference_eq, alone, ← moved]
    rfl
  rw [answer, Hub.move, visit.meant, told]
  simp only [performed]
  cases visit.target with
  | source id => rfl
  | reference | offset =>
      exact congrArg (fun reference : Reference => Except.ok reference.report) same

/-- Every accepted request is answered.  The answer is the target right after the gesture, unless
it is about the reference and the latest change of that in between shows. -/
theorem answer_eq_right_iff (visit : Visit hub calls) :
    (∃ value, visit.answer = .ok value) ∧
      (visit.answer = visit.right ↔ visit.target.IsSource ∨
        visit.latest.report = visit.moved.hub.scene.reference.report) := by
  cases named : visit.target with
  | source id =>
      obtain ⟨source, answered, right⟩ := visit.answer_source named
      exact ⟨⟨_, answered⟩, fun _ => .inl trivial, fun _ => answered.trans right.symm⟩
  | reference | offset =>
      obtain ⟨answered, right⟩ := visit.answer_reference (by rw [named]; exact id)
      refine ⟨⟨_, answered⟩, ?_⟩
      rw [answered, right, Except.ok.injEq]
      exact (or_iff_right id).symm

/-! The source `a` is moved, and it is deleted before the request is answered. -/

def decoded : Traffic :=
  { Traffic.start Traffic.populated [] with
    stages := [.arrived (.gesture Traffic.movement), .decoded [.delete ["a"]]] }

def ofDeleted : Visit Traffic.populated [.gesture Traffic.movement, .message Traffic.deletion] where
  request := { pos := some [1.0, 2.0, 0.0] }
  target := .source "a"
  gesture := Traffic.movement
  meant := rfl
  mover := 0
  waiting := decoded
  arrives := ⟨[1], by rw [Traffic.run, Traffic.step_deletion]; rfl⟩
  asked := rfl
  moved := (decoded.step 0).get rfl
  moves := (Option.some_get _).symm
  told := [(Traffic.movedEvent, 0)]
  accepted := ⟨_, rfl⟩
  answering := Traffic.settled [(Traffic.deletedEvent, 1), (Traffic.movedEvent, 0)]
  goesOn := ⟨[1, 1, 1, 1, 0, 0, 0], rfl⟩
  returned := rfl
  free := .inl trivial

theorem answer_eq_right_iff_deleted :
    ofDeleted.answering.hub.scene.isLive "a" = false ∧ ofDeleted.target.IsSource ∧
      ofDeleted.answer = ofDeleted.right :=
  ⟨rfl, trivial, (answer_eq_right_iff ofDeleted).2.2 (.inl trivial)⟩

/-! The reference is moved, and another operator moves it before the request is answered. -/

def ofMoved : Visit Hub.initial [.gesture Traffic.firstMove, .gesture Traffic.secondMove] where
  request := { pos := some [1.0, 0.0, 0.0] }
  target := .reference
  gesture := Traffic.firstMove
  meant := rfl
  mover := 0
  waiting := Traffic.start Hub.initial [.gesture Traffic.firstMove, .gesture Traffic.secondMove]
  arrives := ⟨[], rfl⟩
  asked := rfl
  moved := ((Traffic.start Hub.initial
    [.gesture Traffic.firstMove, .gesture Traffic.secondMove]).step 0).get rfl
  moves := (Option.some_get _).symm
  told := [(.referenceChanged (Scene.initial.move Traffic.firstMove).reference .operator, 0)]
  accepted := ⟨_, rfl⟩
  answering := Traffic.raced [Traffic.secondMove, Traffic.firstMove]
  goesOn := ⟨[1, 1, 0, 0, 0, 1, 1], rfl⟩
  returned := rfl
  free := .inr rfl

theorem answer_ne_right :
    let shown (answer : Except Failure Json.Value) := answer.toOption.bind (·.member? "pos")
    Hub.initial.scene.Reachable ∧
      shown ofMoved.answer = some (.ofFloats [2.0, 0.0, 0.0]) ∧
      shown ofMoved.right = some (.ofFloats [1.0, 0.0, 0.0]) ∧
      ofMoved.answer ≠ ofMoved.right := by
  intro shown
  refine ⟨.initial, rfl, rfl, fun same => ?_⟩
  have places : shown ofMoved.answer = shown ofMoved.right := congrArg shown same
  exact absurd places (by decide +kernel)

end Visit

end SoundScene
