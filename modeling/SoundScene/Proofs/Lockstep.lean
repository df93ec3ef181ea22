import SoundScene.Proofs.Calls
import SoundScene.Proofs.GestureText

/-!
This side and the renderer in lockstep.  Both handle the same messages, and what is told of a
gesture of this side is handled by the renderer before anything else happens.  Then both scenes stay
the same, and a message that comes back from the renderer changes nothing (`steps_inStep`).
-/

namespace SoundScene

theorem getD_getD {α : Type} (part : Option α) (value : α) :
    part.getD (part.getD value) = part.getD value := by
  cases part <;> rfl

theorem Source.apply_apply (source : Source) (patch : Patch) :
    (source.apply patch).apply patch = source.apply patch := by
  simp only [apply, getD_getD, ← Option.or_assoc, Option.or_self]

theorem Reference.apply_apply (reference : Reference) (patch : Patch) :
    apply (apply reference patch) patch = apply reference patch := by
  simp only [apply, getD_getD]

namespace Scene

theorem move_move (scene : Scene) (gesture : Gesture) :
    (scene.move gesture).move gesture = scene.move gesture := by
  refine eq_of_parts (Table.ext_find? fun id => ?_) (Reference.apply_apply ..) rfl
  change ((scene.move gesture).move gesture).source? id = (scene.move gesture).source? id
  rw [source?_move, source?_move, Option.map_map]
  refine congrArg (Option.map · _) (funext fun source => ?_)
  by_cases meant : gesture.target = .source id
  · simp only [Function.comp_apply, if_pos meant, Source.apply_apply]
  · simp only [Function.comp_apply, if_neg meant]

theorem eventOf_move (scene : Scene) (gesture : Gesture) (origin : Origin) :
    (scene.move gesture).eventOf gesture origin = scene.eventOf gesture origin := by
  rw [eventOf, eventOf]
  cases target : gesture.target with
  | source id =>
      dsimp only
      rw [source?_move]
      cases scene.source? id with
      | none => rfl
      | some source =>
          simp only [Option.map_some, Option.getD_some, if_pos target, Source.apply_apply]
  | reference => exact congrArg (Event.referenceChanged · origin) (Reference.apply_apply ..)
  | offset => exact congrArg (Event.referenceChanged · origin) (Reference.apply_apply ..)

end Scene

def Event.onAccountOf (origin : Origin) : Event → Event
  | .created source _ => .created source origin
  | .modified source _ => .modified source origin
  | .deleted id _ => .deleted id origin
  | .referenceChanged reference _ => .referenceChanged reference origin
  | .loudspeakersCreated set => .loudspeakersCreated set

theorem Scene.onAccountOf_eventOf (scene : Scene) (gesture : Gesture) (origin other : Origin) :
    (scene.eventOf gesture origin).onAccountOf other = scene.eventOf gesture other := by
  rw [eventOf, eventOf]
  cases gesture.target <;> rfl

namespace Gesture

def Refused (gesture : Gesture) (scene : Scene) : Prop :=
  (gesture.position = none ∧ gesture.orientation = none) ∨
    ∃ id, gesture.target = .source id ∧ scene.isLive id = false

variable {gesture : Gesture} {scene : Scene}

theorem not_reaches_iff : ¬ gesture.Reaches scene ↔
    ∃ id, gesture.target = .source id ∧ scene.isLive id = false := by
  simp only [Reaches, not_forall, Bool.not_eq_true, exists_prop]

theorem toCommand_cases (gesture : Gesture) :
    (gesture.position = none ∧ gesture.orientation = none ∧
        ∃ failure, gesture.toCommand = .error failure) ∨
      ¬ (gesture.position = none ∧ gesture.orientation = none) ∧
        ∃ command, gesture.toCommand = .ok command := by
  rw [toCommand]
  by_cases silent : (gesture.position.isNone && gesture.orientation.isNone) = true
  · rw [if_pos silent]
    simp only [Bool.and_eq_true, Option.isNone_iff_eq_none] at silent
    exact .inl ⟨silent.1, silent.2, _, rfl⟩
  · rw [if_neg silent]
    simp only [Bool.and_eq_true, Option.isNone_iff_eq_none] at silent
    exact .inr ⟨silent, _, rfl⟩

end Gesture

namespace Hub

variable {hub : Hub} {gesture : Gesture}

theorem perform_of_refused (refused : gesture.Refused hub.scene) :
    ∃ failure, hub.perform gesture = ⟨.error failure, [], hub⟩ := by
  rcases gesture.toCommand_cases with ⟨_, _, failure, meant⟩ | ⟨said, command, meant⟩
  · exact ⟨failure, by rw [perform, Scene.perform, meant]; rfl⟩
  · rcases hub.scene.run_gesture meant .operator with ⟨reaches, _⟩ | ⟨_, failure, ran⟩
    · rcases refused with silent | lost
      · exact absurd silent said
      · exact absurd reaches (Gesture.not_reaches_iff.2 lost)
    · exact ⟨failure, by rw [perform, Scene.perform, meant]; simp [bind, Except.bind, ran]⟩

theorem perform_of_accepted (opened : hub.outbox.isOpen = true)
    (accepted : ¬ gesture.Refused hub.scene) :
    ∃ command, gesture.toCommand = .ok command ∧ gesture.Reaches hub.scene ∧
      hub.perform gesture = ⟨.ok [hub.scene.eventOf gesture .operator],
        [hub.scene.eventOf gesture .operator],
        { hub with
          scene := hub.scene.move gesture
          outbox := { hub.outbox with
            waiting := hub.outbox.waiting ++ [Message.encode [command]] } }⟩ := by
  rw [Gesture.Refused, not_or] at accepted
  have reaches : gesture.Reaches hub.scene :=
    Classical.not_not.1 fun lost => accepted.2 (Gesture.not_reaches_iff.1 lost)
  rcases gesture.toCommand_cases with ⟨still, unturned, _⟩ | ⟨_, command, meant⟩
  · exact absurd ⟨still, unturned⟩ accepted.1
  · rcases hub.scene.run_gesture meant .operator with ⟨_, ran⟩ | ⟨lost, _⟩
    · refine ⟨command, meant, reaches, ?_⟩
      rw [perform, Scene.perform, meant]
      simp [bind, Except.bind, pure, Except.pure, ran, Outbox.send, opened]
    · exact absurd reaches lost

theorem scene_handle_eq {first second : Hub} (same : first.scene = second.scene) (text : String) :
    (first.handle text).hub.scene = (second.handle text).hub.scene := by
  rw [handle, handle, same]
  cases Message.decode text with
  | error failure => exact same
  | ok commands => rfl

theorem outbox_handle (hub : Hub) (text : String) : (hub.handle text).hub.outbox = hub.outbox := by
  rw [handle]
  cases Message.decode text <;> rfl

def handleAll (hub : Hub) (texts : List String) : Hub :=
  texts.foldl (fun hub text => (hub.handle text).hub) hub

def queuedSince (before after : Hub) : List String :=
  after.outbox.waiting.drop before.outbox.waiting.length

end Hub

structure Pair where
  mirror : Hub
  renderer : Hub

namespace Pair

/-- A message reaches both sides.  A gesture is made on this side, and the renderer handles the
messages that tell of it. -/
def step (pair : Pair) : Call → Pair
  | .message text => ⟨(pair.mirror.handle text).hub, (pair.renderer.handle text).hub⟩
  | .gesture gesture =>
    let mirror := (pair.mirror.perform gesture).hub
    ⟨mirror, pair.renderer.handleAll (Hub.queuedSince pair.mirror mirror)⟩

def steps (pair : Pair) (calls : List Call) : Pair := calls.foldl step pair

structure InStep (pair : Pair) : Prop where
  scene : pair.mirror.scene = pair.renderer.scene
  isOpen : pair.mirror.outbox.isOpen = true

/-- What a gesture leads to.  If it is made, one message is queued that the renderer takes, and that
this side takes when it comes back, without any change but with the event told anew. -/
structure Answers (pair : Pair) (gesture : Gesture) : Prop where
  accepted : ¬ gesture.Refused pair.mirror.scene → ∃ event text,
    let made := pair.mirror.perform gesture
    made.answer = .ok [event] ∧ made.events = [event] ∧ event.origin? = some .operator ∧
      made.hub.outbox.waiting = pair.mirror.outbox.waiting ++ [text] ∧
      (pair.renderer.handle text).answer = .ok 1 ∧
      made.hub.handle text = ⟨.ok 1, [event.onAccountOf .renderer], made.hub⟩
  refused : gesture.Refused pair.mirror.scene →
    (∃ failure, pair.mirror.perform gesture = ⟨.error failure, [], pair.mirror⟩) ∧
      pair.step (.gesture gesture) = pair

variable {pair : Pair} {gesture : Gesture}

theorem step_of_refused (refused : gesture.Refused pair.mirror.scene) :
    pair.step (.gesture gesture) = pair := by
  obtain ⟨failure, kept⟩ := Hub.perform_of_refused refused
  rw [step, kept]
  dsimp only
  rw [Hub.queuedSince, List.drop_length]
  rfl

theorem InStep.answers (inStep : pair.InStep) (finite : gesture.Finite) :
    pair.Answers gesture where
  accepted := by
    intro accepted
    obtain ⟨command, meant, reaches, made⟩ := Hub.perform_of_accepted inStep.isOpen accepted
    refine ⟨pair.mirror.scene.eventOf gesture .operator, Message.encode [command], ?_⟩
    rw [made]
    refine ⟨rfl, rfl, ?_, rfl, ?_, ?_⟩
    · rw [Scene.eventOf]
      cases gesture.target <;> rfl
    · rw [inStep.scene] at reaches
      rw [Gesture.handle_encode finite meant reaches]
    -- What comes back is made on the scene that the gesture has moved already.
    · have reachesThere := (Scene.reaches_move gesture).2 reaches
      rw [Gesture.handle_encode finite meant reachesThere, Scene.eventOf_move,
        Scene.onAccountOf_eventOf]
      dsimp only
      rw [Scene.move_move]
  refused := fun refused => ⟨Hub.perform_of_refused refused, step_of_refused refused⟩

theorem InStep.step (inStep : pair.InStep) {call : Call}
    (finite : ∀ gesture, call = .gesture gesture → gesture.Finite) : (pair.step call).InStep := by
  cases call with
  | message text =>
      refine ⟨Hub.scene_handle_eq inStep.scene text, ?_⟩
      rw [Pair.step, Hub.outbox_handle]
      exact inStep.isOpen
  | gesture gesture =>
      by_cases refused : gesture.Refused pair.mirror.scene
      · rw [step_of_refused refused]
        exact inStep
      · obtain ⟨command, meant, reaches, made⟩ := Hub.perform_of_accepted inStep.isOpen refused
        have told : Hub.queuedSince pair.mirror (pair.mirror.perform gesture).hub =
            [Message.encode [command]] := by
          have waiting : (pair.mirror.perform gesture).hub.outbox.waiting =
              pair.mirror.outbox.waiting ++ [Message.encode [command]] := by rw [made]
          rw [Hub.queuedSince, waiting, List.drop_left]
        rw [inStep.scene] at reaches
        have handled := Gesture.handle_encode (finite gesture rfl) meant reaches
        rw [Pair.step, told, Hub.handleAll, List.foldl_cons, List.foldl_nil, handled, made]
        exact ⟨congrArg (·.move gesture) inStep.scene, inStep.isOpen⟩

theorem InStep.steps (inStep : pair.InStep) {calls : List Call}
    (finite : ∀ gesture, .gesture gesture ∈ calls → gesture.Finite) :
    (pair.steps calls).InStep := by
  induction calls generalizing pair with
  | nil => exact inStep
  | cons call rest ih =>
      refine ih (inStep.step fun gesture same => ?_) fun gesture member => ?_
      · exact finite gesture (by simp [same])
      · exact finite gesture (by simp [member])

/-- Two sides that start with the same scene have the same scene after every call, and every gesture
is answered as it should be at the place where it is made. -/
theorem steps_inStep (same : pair.mirror.scene = pair.renderer.scene)
    (opened : pair.mirror.outbox.isOpen = true) {calls : List Call}
    (finite : ∀ gesture, .gesture gesture ∈ calls → gesture.Finite) (count : Nat) :
    (pair.steps (calls.take count)).mirror.scene = (pair.steps (calls.take count)).renderer.scene ∧
      ∀ gesture, calls[count]? = some (.gesture gesture) →
        (pair.steps (calls.take count)).Answers gesture := by
  have start : pair.InStep := ⟨same, opened⟩
  have inStep : (pair.steps (calls.take count)).InStep :=
    start.steps fun gesture member => finite gesture (List.mem_of_mem_take member)
  refine ⟨inStep.scene, fun gesture next => ?_⟩
  exact inStep.answers (finite gesture (List.mem_of_getElem? next))

theorem steps_inStep_in_turn :
    let pair : Pair := ⟨.initial, .initial⟩
    let gesture : Gesture := ⟨.source "a", some ⟨0.5, -1.0, 0.0⟩, none⟩
    let calls : List Call := [.gesture gesture,
      .message "[\"new-src\",\x7b\"a\":\x7b\"mute\":true\x7d\x7d]", .gesture gesture]
    pair.mirror.scene = pair.renderer.scene ∧ pair.mirror.outbox.isOpen = true ∧
      (∀ gesture, .gesture gesture ∈ calls → gesture.Finite) ∧
      pair.mirror.scene.isLive "a" = false ∧
      (pair.steps (calls.take 2)).mirror.scene.isLive "a" = true ∧
      (pair.steps (calls.take 3)).mirror.scene = (pair.steps (calls.take 3)).renderer.scene ∧
      pair.Answers gesture ∧ (pair.steps (calls.take 2)).Answers gesture := by
  intro pair gesture calls
  have finite : ∀ other, .gesture other ∈ calls → other.Finite := by
    intro other member
    simp only [calls, List.mem_cons, List.not_mem_nil, or_false, reduceCtorEq, false_or,
      Call.gesture.injEq, or_self] at member
    rw [member]
    exact ⟨by rintro position ⟨⟩; decide +kernel, nofun⟩
  have same : pair.mirror.scene = pair.renderer.scene := rfl
  have inStep (count : Nat) := steps_inStep same rfl finite count
  exact ⟨same, rfl, finite, by decide +kernel, by decide +kernel, (inStep 3).1,
    (inStep 0).2 gesture rfl, (inStep 2).2 gesture rfl⟩

end Pair

end SoundScene
