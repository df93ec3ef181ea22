import SoundScene.Gesture
import SoundScene.Json.Geometry

/-!
Requests for a gesture: a position and an orientation as lists of numbers, of which each may be
missing.  The lengths of the lists are checked when the request is made a gesture.
-/

namespace SoundScene

open Json

structure PoseRequest where
  pos : Option (List Float) := none
  rot : Option (List Float) := none
deriving DecidableEq, Repr

namespace PoseRequest

def shape : Shape PoseRequest where
  title := "struct PoseUpdateRequest"
  fields := [.of "pos" (readOptional (readList readFloat)) fun request pos => { request with pos },
    .of "rot" (readOptional (readList readFloat)) fun request rot => { request with rot }]
  required := []
  initial := {}

def read : Reader PoseRequest := shape.read

/-- Checks a list that was given under a name. -/
def part {α : Type} (name : String) (ofList : List Float → Except Mismatch α)
    (list : Option (List Float)) : Except Failure (Option α) :=
  (list.mapM ofList).mapError fun mismatch =>
    .invalidRequest (name ++ ": " ++ mismatch.message)

/-- The position and the orientation.  Of two lists with a wrong length the position's is
reported. -/
def parts (request : PoseRequest) : Except Failure (Option Position × Option Orientation) := do
  let position ← part "pos" Point.ofList request.pos
  let orientation ← part "rot" Rotor.ofList request.rot
  pure (position, orientation)

def toGesture (request : PoseRequest) (target : Target) : Except Failure Gesture := do
  let (position, orientation) ← request.parts
  pure ⟨target, position, orientation⟩

end PoseRequest

end SoundScene
