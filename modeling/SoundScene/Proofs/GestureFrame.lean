import SoundScene.Proofs.GestureText

/-!
What a gesture leaves alone.  A gesture changes the position and the orientation of its target, as
far as it carries them, and nothing else in the scene.  The message that tells of it carries just
these, so it makes the same change in any scene that has the target, whatever else is in there
(`perform_onlyMoves`).
-/

namespace SoundScene

open Json

namespace Gesture

def movePose (gesture : Gesture) (pose : Pose Float) : Pose Float :=
  ⟨gesture.position.getD pose.pos, gesture.orientation.getD pose.rot⟩

def members (gesture : Gesture) (position orientation : String) : List (String × Value) :=
  optional position Point.toValue gesture.position ++
    optional orientation Rotor.toValue gesture.orientation

/-- The items of the message that tells of the gesture. -/
def items (gesture : Gesture) : List Value :=
  match gesture.target with
  | .source id => [.string "mod-src", .object [(id, .object (gesture.members "pos" "rot"))]]
  | .reference => [.string "state", .object (gesture.members "ref-pos" "ref-rot")]
  | .offset => [.string "state", .object (gesture.members "ref-pos-offset" "ref-rot-offset")]

end Gesture

namespace Scene

/-- The second scene is the first one with the target of the gesture moved, and nothing else. -/
structure OnlyMoves (gesture : Gesture) (before after : Scene) : Prop where
  target : ∀ id, gesture.target = .source id → ∃ source, before.source? id = some source ∧
    after.source? id = some { source with
      position := gesture.position.getD source.position
      orientation := gesture.orientation.getD source.orientation }
  others : ∀ id, gesture.target ≠ .source id → after.source? id = before.source? id
  pose : after.reference.pose = if gesture.target = .reference then
    gesture.movePose before.reference.pose else before.reference.pose
  offset : after.reference.offset = if gesture.target = .offset then
    gesture.movePose before.reference.offset else before.reference.offset
  loudspeakers : after.loudspeakers = before.loudspeakers

theorem onlyMoves_move {scene : Scene} {gesture : Gesture} (reaches : gesture.Reaches scene) :
    OnlyMoves gesture scene (scene.move gesture) where
  target := by
    intro id target
    obtain ⟨source, there⟩ := reaches.exists_source target
    refine ⟨source, there, ?_⟩
    rw [source?_move_self target there]
    simp [Source.apply, Gesture.patch]
  others := by
    intro id target
    rw [source?_move]
    simp [target]
  pose := by
    simp only [move, Gesture.referencePatch]
    cases gesture.target <;> simp [Reference.apply, Gesture.movePose]
  offset := by
    simp only [move, Gesture.referencePatch]
    cases gesture.target <;> simp [Reference.apply, Gesture.movePose]
  loudspeakers := rfl

end Scene

namespace Gesture

variable {gesture : Gesture} {command : Command}

theorem members_patch (gesture : Gesture) :
    gesture.patch.sortedMembers = gesture.members "pos" "rot" := by
  simp [patch, Source.Patch.sortedMembers, members, optional]

theorem payload_entries (gesture : Gesture) (pos : Position → StateEntry)
    (rot : Orientation → StateEntry) {first second : String} (less : first < second)
    (position : ∀ point, ((pos point).name, (pos point).toValue) = (first, point.toValue))
    (orientation : ∀ rotor, ((rot rotor).name, (rot rotor).toValue) = (second, rotor.toValue)) :
    (Command.state (gesture.position.toList.map pos ++
      gesture.orientation.toList.map rot)).payload = .object (gesture.members first second) := by
  have ordered : ∀ point rotor, (pos point).name < (rot rotor).name := by
    intro point rotor
    rw [(Prod.mk.inj (position point)).1, (Prod.mk.inj (orientation rotor)).1]
    exact less
  have normal := Command.state.inj (@normal_entries gesture pos rot ordered)
  rw [Command.payload_state, normal, members, optional, optional]
  simp [Function.comp_def, position, orientation]

theorem items_toCommand (meant : gesture.toCommand = .ok command) :
    Message.items [command] = gesture.items := by
  rw [toCommand] at meant
  split at meant
  · cases meant
  · cases target : gesture.target with
    | source id =>
        rw [target] at meant
        cases meant
        have written := gesture.patch.toValue_eq
        rw [members_patch, patch] at written
        simp only [Message.items, List.flatMap_cons, List.flatMap_nil, Command.name,
          Command.payload, items, target, written, List.map_cons, List.map_nil]
        rfl
    | reference =>
        rw [target] at meant
        cases meant
        have less : ("ref-pos" : String) < "ref-rot" := by decide
        have written := gesture.payload_entries .position .orientation less (fun _ => rfl)
          fun _ => rfl
        simp [Message.items, Command.name, written, items, target]
    | offset =>
        rw [target] at meant
        cases meant
        have less : ("ref-pos-offset" : String) < "ref-rot-offset" := by decide
        have written := gesture.payload_entries .offsetPosition .offsetOrientation less
          (fun _ => rfl) fun _ => rfl
        simp [Message.items, Command.name, written, items, target]

theorem parse_encode (finite : gesture.Finite) (meant : gesture.toCommand = .ok command) :
    Value.parse (Message.encode [command]) = .ok (.list gesture.items) := by
  have fits := Message.fits_toValue (message_writable finite meant)
  rw [Message.encode, parse_text fits, Message.toValue, items_toCommand meant]

end Gesture

namespace Hub

theorem exists_of_accepted {hub : Hub} {gesture : Gesture} {events : List Event}
    (accepted : (hub.perform gesture).answer = .ok events) :
    ∃ command, gesture.toCommand = .ok command ∧ gesture.Reaches hub.scene ∧
      (hub.perform gesture).hub.scene = hub.scene.move gesture ∧
      (hub.perform gesture).hub.outbox = (hub.outbox.send [command]).2 := by
  cases meant : gesture.toCommand with
  | error failure =>
      simp [perform, Scene.perform, meant, bind, Except.bind] at accepted
  | ok command =>
      rcases hub.scene.run_gesture meant .operator with ⟨reaches, ran⟩ | ⟨_, failure, ran⟩
      · refine ⟨command, rfl, reaches, ?_, ?_⟩ <;>
          simp [perform, Scene.perform, meant, ran, bind, Except.bind, pure, Except.pure]
      · simp [perform, Scene.perform, meant, ran, bind, Except.bind] at accepted

/-- A gesture that is accepted moves its target and nothing else.  What is told of it says just what
the gesture carries, and makes the same move wherever the target is. -/
theorem perform_onlyMoves {hub : Hub} {gesture : Gesture} {events : List Event}
    (accepted : (hub.perform gesture).answer = .ok events) :
    Scene.OnlyMoves gesture hub.scene (hub.perform gesture).hub.scene ∧
      ∃ text, (hub.perform gesture).hub.outbox.waiting =
          hub.outbox.waiting ++ (if hub.outbox.isOpen then [text] else []) ∧
        (gesture.Finite → Value.parse text = .ok (.list gesture.items) ∧
          ∃ command, Message.decode text = .ok [command] ∧
            ∀ (peer : Scene) (origin : Origin), gesture.Reaches peer →
              ∃ told next, peer.run command origin = .ok (told, next) ∧
                Scene.OnlyMoves gesture peer next) := by
  obtain ⟨command, meant, reaches, moved, sent⟩ := exists_of_accepted accepted
  refine ⟨?_, Message.encode [command], ?_, ?_⟩
  · rw [moved]
    exact Scene.onlyMoves_move reaches
  · rw [sent, Outbox.send]
    by_cases opened : hub.outbox.isOpen = true
    · simp [opened]
    · simp [opened]
  · intro finite
    refine ⟨Gesture.parse_encode finite meant, command, Gesture.decode_encode finite meant, ?_⟩
    intro peer origin there
    rcases peer.run_gesture meant origin with ⟨_, ran⟩ | ⟨lost, _⟩
    · exact ⟨_, _, ran, Scene.onlyMoves_move there⟩
    · exact absurd there lost

theorem perform_onlyMoves_position :
    let placed : Position := ⟨0.5, -1.0, 0.0⟩
    let gesture : Gesture := ⟨.source "a", some placed, none⟩
    let known : Table Source := Table.empty.insert "a" (.initial "a")
    let hub : Hub := { initial with scene := { Scene.initial with sources := known } }
    let held : Source :=
      { Source.initial "a" with orientation := ⟨0.0, 0.0, 1.0, 0.0⟩, mute := true }
    let peer : Scene := { Scene.initial with sources := Table.empty.insert "a" held }
    Scene.OnlyMoves gesture hub.scene (hub.perform gesture).hub.scene ∧
      ∃ text, (hub.perform gesture).hub.outbox.waiting = [text] ∧
        Value.parse text = .ok (.list [.string "mod-src",
          .object [("a", .object [("pos", placed.toValue)])]]) ∧
        ∃ command, Message.decode text = .ok [command] ∧
          ∃ told next, peer.run command .renderer = .ok (told, next) ∧
            next.source? "a" = some { held with position := placed } := by
  intro placed gesture known hub held peer
  have accepted : (hub.perform gesture).answer =
      .ok [.modified { Source.initial "a" with position := placed } .operator] := rfl
  have finite : gesture.Finite := by
    refine ⟨?_, nofun⟩
    rintro position ⟨⟩
    decide +kernel
  have there : gesture.Reaches peer := by
    rintro id ⟨⟩
    decide
  obtain ⟨here, text, queued, sent⟩ := perform_onlyMoves accepted
  obtain ⟨parsed, command, decoded, moves⟩ := sent finite
  obtain ⟨told, next, ran, moved⟩ := moves peer .renderer there
  obtain ⟨source, found, placed'⟩ := moved.target "a" rfl
  cases found
  exact ⟨here, text, queued, parsed, command, decoded, told, next, ran, placed'⟩

end Hub

end SoundScene
