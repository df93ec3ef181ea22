import SoundScene.Event
import SoundScene.Gesture
import SoundScene.Outbox

/-!
The hub owns the scene.  Messages of the renderer and gestures of operators change it here, and each
change is told as events in the order in which it was made.
-/

namespace SoundScene

structure Hub where
  scene : Scene
  outbox : Outbox
  connected : Bool
deriving DecidableEq

/-- What a call answers, the events that it publishes, and the hub after it. -/
structure Outcome (α : Type) where
  answer : Except Failure α
  events : List Event
  hub : Hub

def Scene.perform (scene : Scene) (gesture : Gesture) :
    Except Failure (Command × List Event × Scene) := do
  let command ← gesture.toCommand
  let (events, scene) ← scene.run command .operator
  pure (command, events, scene)

namespace Hub

def initial : Hub := ⟨.initial, .empty, false⟩

instance : Inhabited Hub := ⟨initial⟩

/-- Handles a message of the renderer and answers how many commands it had.  A message that is not
well-formed changes nothing; otherwise the commands before the first that fails stay done. -/
def handle (hub : Hub) (text : String) : Outcome Nat :=
  match Message.decode text with
  | .error failure => ⟨.error failure, [], hub⟩
  | .ok commands =>
    let run := hub.scene.runAll .renderer commands
    let answer := match run.failure with
      | some failure => .error failure
      | none => .ok commands.length
    ⟨answer, run.events.flatten, { hub with scene := run.scene }⟩

/-- Makes a gesture and tells the renderer of it.  The gesture stands even if nobody takes the
message. -/
def perform (hub : Hub) (gesture : Gesture) : Outcome (List Event) :=
  match hub.scene.perform gesture with
  | .error failure => ⟨.error failure, [], hub⟩
  | .ok (command, events, scene) =>
    let (_, outbox) := hub.outbox.send [command]
    ⟨.ok events, events, { hub with scene, outbox }⟩

def source (hub : Hub) (id : String) : Except Failure Source :=
  match hub.scene.source? id with
  | some source => .ok source
  | none => .error (.sourceNotFound id)

end Hub

end SoundScene
