import SoundScene.Json.Fault
import SoundScene.Geometry

/-!
Values read as numbers, lists of numbers, flags, texts and poses.  Each reading fails with the
reason that is reported for it; of two faults in a list the first is reported, and the length of a
list is looked at only when all its items are numbers.
-/

namespace SoundScene

namespace Json.Value

def toFloat : Value → Except Mismatch Float
  | .number n => .ok n.toFloat
  | other => .error (.wrongKind other.found "f64")

def toFloats : Value → Except Mismatch (List Float)
  | .list items => items.mapM toFloat
  | other => .error (.wrongKind other.found "a sequence")

def toBool : Value → Except Mismatch Bool
  | .bool b => .ok b
  | other => .error (.wrongKind other.found "a boolean")

def toText : Value → Except Mismatch String
  | .string s => .ok s
  | other => .error (.wrongKind other.found "a string")

def toOptional {α : Type} (read : Value → Except Mismatch α) : Value → Except Mismatch (Option α)
  | .null => .ok none
  | other => (read other).map some

end Json.Value

open Json

namespace Point

/-- A position lists two or three coordinates; a missing height is zero. -/
def ofList : List Float → Except Mismatch Position
  | [x, y] => .ok ⟨x, y, 0.0⟩
  | [x, y, z] => .ok ⟨x, y, z⟩
  | other => .error (.wrongCount "2 or 3" other.length)

def ofValue (value : Value) : Except Mismatch Position := value.toFloats >>= ofList

def toValue (position : Position) : Value := Value.ofFloats position.toList

end Point

namespace Rotor

def ofList : List Float → Except Mismatch Orientation
  | [x, y, z, w] => .ok ⟨x, y, z, w⟩
  | other => .error (.wrongCount "4" other.length)

def ofValue (value : Value) : Except Mismatch Orientation := value.toFloats >>= ofList

def toValue (orientation : Orientation) : Value := Value.ofFloats orientation.toList

end Rotor

namespace Pose

def toValue (pose : Pose Float) : Value :=
  .object [("pos", pose.pos.toValue), ("rot", pose.rot.toValue)]

end Pose

end SoundScene
