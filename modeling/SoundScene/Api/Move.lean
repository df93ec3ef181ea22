import SoundScene.Hub
import SoundScene.PoseRequest
import SoundScene.Snapshot

/-!
Moves: gestures that are requested over the network.  A request is turned into a gesture, the
gesture is performed, and then the answer is made: for a source from the event of the gesture, for
the reference from the scene as it is by then.
-/

namespace SoundScene

open Json

def modifiedSource? (events : List Event) : Option Source :=
  events.findSome? fun
    | .modified source _ => some source
    | _ => none

namespace Target

def answer (target : Target) (events : List Event) (hub : Hub) : Except Failure Value :=
  match target with
  | .source id =>
    match modifiedSource? events with
    | some moved => .ok moved.report.toValue
    | none => .error (.sourceNotFound id)
  | .reference | .offset => .ok hub.scene.reference.report

end Target

namespace Hub

/-- Performs a requested move, unless a list of the request has a wrong length. -/
def move (hub : Hub) (target : Target) (request : PoseRequest) : Outcome Value :=
  match request.toGesture target with
  | .error failure => ⟨.error failure, [], hub⟩
  | .ok gesture =>
    let outcome := hub.perform gesture
    { outcome with answer := outcome.answer >>= fun events => target.answer events outcome.hub }

end Hub

end SoundScene
