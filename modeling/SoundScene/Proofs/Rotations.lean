import Mathlib.Algebra.Quaternion
import Mathlib.Algebra.Ring.Rat
import Mathlib.Tactic.NormNum
import Mathlib.Tactic.Ring
import SoundScene.Geometry

/-!
Rotations over exact numbers.  A rotation is a quaternion of unit length, and only for those is the
formula that turns a point the conjugation by the quaternion (`Rotor.quaternion_rotate`).  All laws
of turning, and of poses inside poses, follow from that (`Pose.compose_laws`).
-/

namespace SoundScene

variable {α : Type} [CommRing α]

namespace Point

def sub (first second : Point α) : Point α :=
  ⟨first.x - second.x, first.y - second.y, first.z - second.z⟩

def dot (first second : Point α) : α :=
  first.x * second.x + first.y * second.y + first.z * second.z

def lengthSq (v : Point α) : α := v.dot v

def distanceSq (first second : Point α) : α := (first.sub second).lengthSq

def quaternion (v : Point α) : Quaternion α := ⟨0, v.x, v.y, v.z⟩

@[simp] theorem quaternion_re (v : Point α) : v.quaternion.re = 0 := rfl

@[simp] theorem quaternion_imI (v : Point α) : v.quaternion.imI = v.x := rfl

@[simp] theorem quaternion_imJ (v : Point α) : v.quaternion.imJ = v.y := rfl

@[simp] theorem quaternion_imK (v : Point α) : v.quaternion.imK = v.z := rfl

theorem quaternion_injective : Function.Injective (quaternion : Point α → Quaternion α) := by
  intro v v' same
  obtain ⟨x, y, z⟩ := v
  obtain ⟨x', y', z'⟩ := v'
  simpa using Quaternion.ext_iff.mp same

theorem dot_eq_re (v w : Point α) : v.dot w = (v.quaternion * star w.quaternion).re := by
  simp [dot]

theorem add_origin (v : Point α) : v.add origin = v := by
  simp [add, origin]

theorem origin_add (v : Point α) : origin.add v = v := by
  simp [add, origin]

theorem add_add (u v w : Point α) : (u.add v).add w = u.add (v.add w) := by
  simp [add, add_assoc]

end Point

namespace Rotor

def normSq (q : Rotor α) : α := q.x * q.x + q.y * q.y + q.z * q.z + q.w * q.w

def IsUnit (q : Rotor α) : Prop := q.normSq = 1

instance [DecidableEq α] (q : Rotor α) : Decidable q.IsUnit :=
  inferInstanceAs (Decidable (q.normSq = 1))

def quaternion (q : Rotor α) : Quaternion α := ⟨q.w, q.x, q.y, q.z⟩

@[simp] theorem quaternion_re (q : Rotor α) : q.quaternion.re = q.w := rfl

@[simp] theorem quaternion_imI (q : Rotor α) : q.quaternion.imI = q.x := rfl

@[simp] theorem quaternion_imJ (q : Rotor α) : q.quaternion.imJ = q.y := rfl

@[simp] theorem quaternion_imK (q : Rotor α) : q.quaternion.imK = q.z := rfl

theorem quaternion_injective : Function.Injective (quaternion : Rotor α → Quaternion α) := by
  intro q q' same
  obtain ⟨x, y, z, w⟩ := q
  obtain ⟨x', y', z', w'⟩ := q'
  have parts := Quaternion.ext_iff.mp same
  simp only [quaternion_re, quaternion_imI, quaternion_imJ, quaternion_imK] at parts
  obtain ⟨sameW, sameX, sameY, sameZ⟩ := parts
  rw [sameW, sameX, sameY, sameZ]

theorem quaternion_identity : (identity : Rotor α).quaternion = 1 :=
  rfl

theorem quaternion_mul (a b : Rotor α) :
    (a.mul b).quaternion = a.quaternion * b.quaternion := by
  ext <;> simp [mul]

theorem normSq_eq (q : Rotor α) : q.normSq = Quaternion.normSq q.quaternion := by
  simp only [Quaternion.normSq_def', normSq, quaternion_re, quaternion_imI, quaternion_imJ,
    quaternion_imK]
  ring

theorem mul_mul (a b c : Rotor α) : (a.mul b).mul c = a.mul (b.mul c) := by
  apply quaternion_injective
  simp only [quaternion_mul, mul_assoc]

theorem identity_mul (q : Rotor α) : identity.mul q = q := by
  apply quaternion_injective
  rw [quaternion_mul, quaternion_identity, one_mul]

theorem mul_identity (q : Rotor α) : q.mul identity = q := by
  apply quaternion_injective
  rw [quaternion_mul, quaternion_identity, mul_one]

theorem normSq_mul (a b : Rotor α) : (a.mul b).normSq = a.normSq * b.normSq := by
  simp only [normSq_eq, quaternion_mul, map_mul]

theorem IsUnit.identity : (identity : Rotor α).IsUnit := by
  rw [IsUnit, normSq_eq, quaternion_identity, map_one]

theorem IsUnit.mul {a b : Rotor α} (unitA : a.IsUnit) (unitB : b.IsUnit) : (a.mul b).IsUnit := by
  rw [IsUnit, normSq_mul, unitA, unitB, one_mul]

theorem IsUnit.star_mul {a : Rotor α} (unit : a.IsUnit) :
    star a.quaternion * a.quaternion = 1 := by
  rw [Quaternion.star_mul_self, ← normSq_eq, unit]
  rfl

/-- How far the formula for turning a point is from the conjugation by the quaternion. -/
theorem quaternion_rotate (q : Rotor α) (v : Point α) :
    (q.rotate v).quaternion =
      q.quaternion * v.quaternion * star q.quaternion + (1 - q.normSq) • v.quaternion := by
  ext <;> simp [rotate, Point.cross, normSq] <;> ring

theorem IsUnit.quaternion_rotate {q : Rotor α} (unit : q.IsUnit) (v : Point α) :
    (q.rotate v).quaternion = q.quaternion * v.quaternion * star q.quaternion := by
  rw [Rotor.quaternion_rotate, unit, sub_self, zero_smul, add_zero]

theorem identity_rotate (v : Point α) : identity.rotate v = v := by
  simp [rotate, identity, Point.cross]

theorem rotate_origin (q : Rotor α) : q.rotate Point.origin = Point.origin := by
  simp [rotate, Point.origin, Point.cross]

theorem rotate_add (q : Rotor α) (v w : Point α) :
    q.rotate (v.add w) = (q.rotate v).add (q.rotate w) := by
  simp only [rotate, Point.cross, Point.add, Point.mk.injEq]
  refine ⟨?_, ?_, ?_⟩ <;> ring

theorem rotate_sub (q : Rotor α) (v w : Point α) :
    q.rotate (v.sub w) = (q.rotate v).sub (q.rotate w) := by
  simp only [rotate, Point.cross, Point.sub, Point.mk.injEq]
  refine ⟨?_, ?_, ?_⟩ <;> ring

theorem rotate_mul {a b : Rotor α} (unitA : a.IsUnit) (unitB : b.IsUnit) (v : Point α) :
    (a.mul b).rotate v = a.rotate (b.rotate v) := by
  apply Point.quaternion_injective
  rw [(unitA.mul unitB).quaternion_rotate, unitA.quaternion_rotate, unitB.quaternion_rotate,
    quaternion_mul, StarMul.star_mul]
  simp only [mul_assoc]

theorem re_mul_comm (p q : Quaternion α) : (p * q).re = (q * p).re := by
  simp only [Quaternion.re_mul]
  ring

theorem dot_rotate {a : Rotor α} (unit : a.IsUnit) (v w : Point α) :
    (a.rotate v).dot (a.rotate w) = v.dot w := by
  set q := a.quaternion with turn
  calc (a.rotate v).dot (a.rotate w)
      = (q * v.quaternion * star q * star (q * w.quaternion * star q)).re := by
        rw [Point.dot_eq_re, unit.quaternion_rotate, unit.quaternion_rotate]
    _ = (q * (v.quaternion * (star q * q) * star w.quaternion * star q)).re := by
        simp only [StarMul.star_mul, star_star, mul_assoc]
    _ = (v.quaternion * (star q * q) * star w.quaternion * (star q * q)).re := by
        rw [re_mul_comm, mul_assoc]
    _ = v.dot w := by
        rw [turn, unit.star_mul, mul_one, mul_one, Point.dot_eq_re]

/-- A quaternion that is not of unit length stretches what it turns. -/
example : ((⟨1, 0, 0, 1⟩ : Rotor Int).rotate ⟨0, 1, 0⟩).lengthSq = 5 := by decide

end Rotor

namespace Pose

theorem identity_compose (pose : Pose α) : identity.compose pose = pose := by
  simp only [compose, identity, Rotor.identity_rotate, Rotor.identity_mul, Point.origin_add]

theorem compose_identity (pose : Pose α) : pose.compose identity = pose := by
  simp only [compose, identity, Rotor.rotate_origin, Rotor.mul_identity, Point.add_origin]

theorem compose_compose {first second : Pose α} (unitFirst : first.rot.IsUnit)
    (unitSecond : second.rot.IsUnit) (third : Pose α) :
    (first.compose second).compose third = first.compose (second.compose third) := by
  simp only [compose, Rotor.rotate_mul unitFirst unitSecond, Rotor.rotate_add, Rotor.mul_mul,
    Point.add_add]

/-- The laws of turning and of poses inside poses, over any commutative ring.  What takes unit
quaternions says so. -/
theorem compose_laws (α : Type) [CommRing α] :
    (∀ a b c : Rotor α, (a.mul b).mul c = a.mul (b.mul c)) ∧
    (∀ a : Rotor α, Rotor.identity.mul a = a ∧ a.mul Rotor.identity = a) ∧
    (∀ a b : Rotor α, (a.mul b).normSq = a.normSq * b.normSq) ∧
    (∀ a : Rotor α, a.IsUnit → ∀ v w : Point α,
      (a.rotate v).dot (a.rotate w) = v.dot w ∧
      (a.rotate v).lengthSq = v.lengthSq ∧
      (a.rotate v).distanceSq (a.rotate w) = v.distanceSq w) ∧
    (∀ a b : Rotor α, a.IsUnit → b.IsUnit → ∀ v : Point α,
      (a.mul b).rotate v = a.rotate (b.rotate v)) ∧
    (∀ first second third : Pose α, first.rot.IsUnit → second.rot.IsUnit →
      (first.compose second).compose third = first.compose (second.compose third)) ∧
    (∀ pose : Pose α, identity.compose pose = pose ∧ pose.compose identity = pose) ∧
    ((identity : Pose α).rot.IsUnit ∧ ∀ parent child : Pose α,
      parent.rot.IsUnit → child.rot.IsUnit → (parent.compose child).rot.IsUnit) ∧
    (∀ (placement : Placement α) (relative : Pose α),
      placement.pose.rot.IsUnit → placement.offset.rot.IsUnit →
        placement.offsetInScene.compose relative =
          placement.place (placement.offset.compose relative)) := by
  refine ⟨Rotor.mul_mul, fun a => ⟨a.identity_mul, a.mul_identity⟩, Rotor.normSq_mul,
    ?turning, fun a b unitA unitB => Rotor.rotate_mul unitA unitB,
    fun first second third unitFirst unitSecond => compose_compose unitFirst unitSecond third,
    fun pose => ⟨pose.identity_compose, pose.compose_identity⟩,
    ⟨Rotor.IsUnit.identity, fun parent child => Rotor.IsUnit.mul⟩, ?placed⟩
  case turning =>
    intro a unit v w
    refine ⟨Rotor.dot_rotate unit v w, Rotor.dot_rotate unit v v, ?_⟩
    rw [Point.distanceSq, ← Rotor.rotate_sub]
    exact Rotor.dot_rotate unit (v.sub w) (v.sub w)
  case placed =>
    intro placement relative unitPose unitOffset
    exact compose_compose unitPose unitOffset relative

theorem compose_laws_tilted :
    let first : Rotor Rat := ⟨1 / 5, 2 / 5, 4 / 5, 2 / 5⟩
    let second : Rotor Rat := ⟨2 / 9, 4 / 9, 5 / 9, 6 / 9⟩
    let placement : Placement Rat := ⟨⟨⟨1, 0, 2⟩, first⟩, ⟨⟨0, 3, 1⟩, second⟩⟩
    let relative : Pose Rat := ⟨⟨-1, 4, 2⟩, ⟨3, 0, 0, 1⟩⟩
    first.IsUnit ∧ second.IsUnit ∧
      (first.rotate ⟨1, 2, 3⟩).dot (first.rotate ⟨-1, 0, 4⟩) = 11 ∧
      (first.mul second).rotate ⟨1, 2, 3⟩ = first.rotate (second.rotate ⟨1, 2, 3⟩) ∧
      (placement.pose.compose placement.offset).rot.IsUnit ∧
      placement.offsetInScene.compose relative =
        placement.place (placement.offset.compose relative) := by
  intro first second placement relative
  obtain ⟨-, -, -, turning, acting, -, -, ⟨-, composed⟩, placed⟩ := compose_laws Rat
  have unitFirst : first.IsUnit := by norm_num [Rotor.IsUnit, Rotor.normSq, first]
  have unitSecond : second.IsUnit := by norm_num [Rotor.IsUnit, Rotor.normSq, second]
  have kept := (turning first unitFirst ⟨1, 2, 3⟩ ⟨-1, 0, 4⟩).1
  refine ⟨unitFirst, unitSecond, ?_, acting first second unitFirst unitSecond ⟨1, 2, 3⟩,
    composed _ _ unitFirst unitSecond, placed placement relative unitFirst unitSecond⟩
  rw [kept]
  norm_num [Point.dot]

end Pose

end SoundScene
