/-!
Positions, orientations and poses.  The formulas are written over any number type with the ring
operations, so the same text computes on doubles and can be reasoned about over exact numbers.
Doubles are not associative: the order of the operations is part of the definition.
-/

namespace SoundScene

structure Point (α : Type) where
  x : α
  y : α
  z : α
deriving DecidableEq, Repr

/-- A rotation as a quaternion with vector part `x`, `y`, `z` and scalar part `w`. -/
structure Rotor (α : Type) where
  x : α
  y : α
  z : α
  w : α
deriving DecidableEq, Repr

structure Pose (α : Type) where
  pos : Point α
  rot : Rotor α
deriving DecidableEq, Repr

section Formulas

variable {α : Type}

def Point.origin [OfNat α 0] : Point α := ⟨0, 0, 0⟩

def Point.add [Add α] (first second : Point α) : Point α :=
  ⟨first.x + second.x, first.y + second.y, first.z + second.z⟩

def Rotor.identity [OfNat α 0] [OfNat α 1] : Rotor α := ⟨0, 0, 0, 1⟩

/-- The rotation by `second` and then by `first`. -/
def Rotor.mul [Add α] [Sub α] [Mul α] (first second : Rotor α) : Rotor α :=
  ⟨first.w * second.x + first.x * second.w + first.y * second.z - first.z * second.y,
    first.w * second.y - first.x * second.z + first.y * second.w + first.z * second.x,
    first.w * second.z + first.x * second.y - first.y * second.x + first.z * second.w,
    first.w * second.w - first.x * second.x - first.y * second.y - first.z * second.z⟩

def Point.cross [Sub α] [Mul α] (first second : Point α) : Point α :=
  ⟨first.y * second.z - first.z * second.y,
    first.z * second.x - first.x * second.z,
    first.x * second.y - first.y * second.x⟩

/-- The point turned by a rotation: with `u` the vector part of `q` and `t = 2 (u × v)`, it is
`v + w t + u × t`. -/
def Rotor.rotate [Add α] [Sub α] [Mul α] [OfNat α 2] (q : Rotor α) (v : Point α) : Point α :=
  let u : Point α := ⟨q.x, q.y, q.z⟩
  let c := u.cross v
  let t : Point α := ⟨2 * c.x, 2 * c.y, 2 * c.z⟩
  let s := u.cross t
  ⟨v.x + q.w * t.x + s.x, v.y + q.w * t.y + s.y, v.z + q.w * t.z + s.z⟩

def Pose.identity [OfNat α 0] [OfNat α 1] : Pose α := ⟨Point.origin, Rotor.identity⟩

/-- The pose `child`, given in the frame of `parent`, in the frame that `parent` is given in. -/
def Pose.compose [Add α] [Sub α] [Mul α] [OfNat α 2] (parent child : Pose α) : Pose α :=
  ⟨parent.pos.add (parent.rot.rotate child.pos), parent.rot.mul child.rot⟩

structure Placement (α : Type) where
  pose : Pose α
  offset : Pose α
deriving DecidableEq, Repr

def Placement.place [Add α] [Sub α] [Mul α] [OfNat α 2] (placement : Placement α)
    (relative : Pose α) : Pose α :=
  placement.pose.compose relative

def Placement.offsetInScene [Add α] [Sub α] [Mul α] [OfNat α 2] (placement : Placement α) :
    Pose α :=
  placement.place placement.offset

end Formulas

abbrev Position := Point Float

abbrev Orientation := Rotor Float

/-- A turn about the vertical axis, in radians. -/
def Orientation.ofAzimuth (angle : Float) : Orientation :=
  let half := angle / 2.0
  ⟨0.0, 0.0, half.sin, half.cos⟩

namespace Point

def toList {α : Type} (point : Point α) : List α := [point.x, point.y, point.z]

end Point

namespace Rotor

def toList {α : Type} (rotor : Rotor α) : List α := [rotor.x, rotor.y, rotor.z, rotor.w]

end Rotor

end SoundScene
