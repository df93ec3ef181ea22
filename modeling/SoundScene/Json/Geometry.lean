import SoundScene.Json.Record

/-!
Readers of positions, orientations and poses, and of poses that are only lists of numbers yet.
-/

namespace SoundScene

open Json

def Point.read : Reader Position := (readList readFloat).refine Point.ofList

def Rotor.read : Reader Orientation := (readList readFloat).refine Rotor.ofList

namespace Pose

def shape : Shape (Pose Float) where
  title := "struct Pose"
  fields := [.of "pos" Point.read fun pose pos => { pose with pos },
    .of "rot" Rotor.read fun pose rot => { pose with rot }]
  required := ["pos", "rot"]
  initial := Pose.identity

def read : Reader (Pose Float) := shape.read

end Pose

structure PoseLists where
  pos : List Float
  rot : List Float
deriving DecidableEq, Repr

namespace PoseLists

def shape : Shape PoseLists where
  title := "struct Pose"
  fields := [.of "pos" (readList readFloat) fun pose pos => { pose with pos },
    .of "rot" (readList readFloat) fun pose rot => { pose with rot }]
  required := ["pos", "rot"]
  initial := ⟨[], []⟩

def read : Reader PoseLists := shape.read

def toValue (pose : PoseLists) : Value :=
  .object [("pos", .ofFloats pose.pos), ("rot", .ofFloats pose.rot)]

end PoseLists

end SoundScene
