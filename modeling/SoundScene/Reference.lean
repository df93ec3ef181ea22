import SoundScene.Json.Typed

/-!
The reference, which is where the listener is, and its offset.
-/

namespace SoundScene

abbrev Reference := Placement Float

namespace Reference

def initial : Reference := ⟨Pose.identity, Pose.identity⟩

instance : Inhabited Reference := ⟨initial⟩

def toValue (reference : Reference) : Json.Value :=
  .object [("pose", reference.pose.toValue), ("offset", reference.offset.toValue)]

structure Patch where
  position : Option Position := none
  orientation : Option Orientation := none
  offsetPosition : Option Position := none
  offsetOrientation : Option Orientation := none
deriving DecidableEq, Repr

def Patch.isEmpty (patch : Patch) : Bool :=
  patch.position.isNone && patch.orientation.isNone && patch.offsetPosition.isNone &&
    patch.offsetOrientation.isNone

def apply (reference : Reference) (patch : Patch) : Reference :=
  ⟨⟨patch.position.getD reference.pose.pos, patch.orientation.getD reference.pose.rot⟩,
    ⟨patch.offsetPosition.getD reference.offset.pos,
      patch.offsetOrientation.getD reference.offset.rot⟩⟩

end Reference

end SoundScene
