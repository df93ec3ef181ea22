import SoundScene.Proofs.CommandText
import SoundScene.Proofs.Moves

/-!
Gestures that are written and read again.  The message that tells of a gesture with finite
coordinates is decoded to the command of that gesture and to nothing else (`decode_encode`), so
whoever handles it makes the gesture (`handle_encode`).
-/

namespace SoundScene.Gesture

open Json

structure Finite (gesture : Gesture) : Prop where
  position : ∀ position, gesture.position = some position → AllFinite position.toList
  orientation : ∀ orientation, gesture.orientation = some orientation → AllFinite orientation.toList

variable {gesture : Gesture} {command : Command}

theorem writable_entries {pos : Position → StateEntry} {rot : Orientation → StateEntry}
    (position : ∀ point, gesture.position = some point → (pos point).Writable)
    (orientation : ∀ rotor, gesture.orientation = some rotor → (rot rotor).Writable) :
    (Command.state (gesture.position.toList.map pos ++
      gesture.orientation.toList.map rot)).Writable := by
  intro entry member
  rcases List.mem_append.1 member with member | member
  · obtain ⟨point, held, rfl⟩ := List.mem_map.1 member
    exact position point (Option.mem_toList.1 held)
  · obtain ⟨rotor, held, rfl⟩ := List.mem_map.1 member
    exact orientation rotor (Option.mem_toList.1 held)

theorem toCommand_writable (finite : gesture.Finite) (meant : gesture.toCommand = .ok command) :
    command.Writable := by
  rw [toCommand] at meant
  split at meant
  · cases meant
  · split at meant
    · cases meant
      intro entry member
      rw [List.mem_singleton.1 member]
      refine ⟨finite.position, finite.orientation, ?_⟩
      rintro _ ⟨⟩
    · cases meant
      exact writable_entries finite.position finite.orientation
    · cases meant
      exact writable_entries finite.position finite.orientation

theorem message_writable (finite : gesture.Finite) (meant : gesture.toCommand = .ok command) :
    ∀ other ∈ [command], other.Writable := by
  intro other member
  rw [List.mem_singleton.1 member]
  exact toCommand_writable finite meant

theorem normal_entries {pos : Position → StateEntry} {rot : Orientation → StateEntry}
    (less : ∀ point rotor, (pos point).name < (rot rotor).name) :
    (Command.state (gesture.position.toList.map pos ++ gesture.orientation.toList.map rot)).normal =
      .state (gesture.position.toList.map pos ++ gesture.orientation.toList.map rot) := by
  refine congrArg Command.state (collapse_of_ascending ?_)
  refine List.pairwise_append.2 ⟨?_, ?_, ?_⟩
  · cases gesture.position <;> simp
  · cases gesture.orientation <;> simp
  · intro first left second right
    obtain ⟨point, _, rfl⟩ := List.mem_map.1 left
    obtain ⟨rotor, _, rfl⟩ := List.mem_map.1 right
    exact less point rotor

theorem toCommand_normal (meant : gesture.toCommand = .ok command) : command.normal = command := by
  rw [toCommand] at meant
  split at meant
  · cases meant
  · split at meant
    · cases meant
      exact congrArg Command.modify (collapse_of_ascending (List.pairwise_singleton ..))
    · cases meant
      have less : ("ref-pos" : String) < "ref-rot" := by decide
      exact normal_entries fun _ _ => less
    · cases meant
      have less : ("ref-pos-offset" : String) < "ref-rot-offset" := by decide
      exact normal_entries fun _ _ => less

theorem decode_encode (finite : gesture.Finite) (meant : gesture.toCommand = .ok command) :
    Message.decode (Message.encode [command]) = .ok [command] := by
  rw [Message.decode_encode (message_writable finite meant), List.map_singleton,
    toCommand_normal meant]

theorem handle_of_decode {hub : Hub} {text : String} (decoded : Message.decode text = .ok [command])
    (meant : gesture.toCommand = .ok command) :
    (gesture.Reaches hub.scene ∧ hub.handle text = ⟨.ok 1, [hub.scene.eventOf gesture .renderer],
        { hub with scene := hub.scene.move gesture }⟩) ∨
      (¬ gesture.Reaches hub.scene ∧ ∃ failure, hub.handle text = ⟨.error failure, [], hub⟩) := by
  rcases Scene.run_gesture hub.scene meant .renderer with ⟨reaches, ran⟩ | ⟨lost, failure, ran⟩
  · refine .inl ⟨reaches, ?_⟩
    rw [Hub.handle, decoded]
    simp only [Scene.runAll, ran]
    rfl
  · refine .inr ⟨lost, failure, ?_⟩
    rw [Hub.handle, decoded]
    simp only [Scene.runAll, ran]
    rfl

theorem handle_encode {hub : Hub} (finite : gesture.Finite)
    (meant : gesture.toCommand = .ok command) (reaches : gesture.Reaches hub.scene) :
    hub.handle (Message.encode [command]) = ⟨.ok 1, [hub.scene.eventOf gesture .renderer],
      { hub with scene := hub.scene.move gesture }⟩ := by
  rcases handle_of_decode (decode_encode finite meant) meant with ⟨_, made⟩ | ⟨lost, _⟩
  · exact made
  · exact absurd reaches lost

end SoundScene.Gesture
