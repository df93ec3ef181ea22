import SoundScene.Command

/-!
Gestures: completed moves that an operator makes on this side.
-/

namespace SoundScene

inductive Target where
  | source (id : String)
  | reference
  | offset
deriving DecidableEq, Repr

structure Gesture where
  target : Target
  position : Option Position
  orientation : Option Orientation
deriving DecidableEq, Repr

namespace Gesture

/-- The command with the same effect.  Only what the gesture carries is part of it. -/
def toCommand (gesture : Gesture) : Except Failure Command :=
  if gesture.position.isNone && gesture.orientation.isNone then
    .error (.invalidRequest "gesture needs a position or an orientation")
  else
    .ok <| match gesture.target with
      | .source id =>
        .modify [(id, { position := gesture.position, orientation := gesture.orientation })]
      | .reference => .state (gesture.position.toList.map .position ++
          gesture.orientation.toList.map .orientation)
      | .offset => .state (gesture.position.toList.map .offsetPosition ++
          gesture.orientation.toList.map .offsetOrientation)

end Gesture

end SoundScene
