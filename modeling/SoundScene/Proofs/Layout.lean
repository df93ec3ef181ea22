import Mathlib.Algebra.Order.Ring.Rat
import SoundScene.Proofs.Doubles
import SoundScene.Proofs.LastWriter
import SoundScene.Proofs.Rotations
import SoundScene.Snapshot

/-!
Where the loudspeakers stand in the scene, with all numbers taken exactly.  Turning by a quaternion
that is not of unit length stretches what is not along its axis (`Rotor.lengthSq_rotate`), and
nothing refuses such a quaternion.  So the layout keeps its shape if the orientation that was
written last is of unit length, and otherwise only if all loudspeakers stand on the axis
(`rigid_serveAll_iff`).
-/

namespace SoundScene

open Json

/-- The number that a finite double stands for.  What is not finite stands for no number and counts
as zero; no text carries it. -/
def Double.exact (x : Float) : ℚ :=
  match x.toModel.unpack with
  | .finite sign whole scale _ => sign.apply whole * 2 ^ scale
  | .zero _ | .infinity _ | .notANumber => 0

section Maps

variable {α β : Type}

def Point.map (f : α → β) (point : Point α) : Point β := ⟨f point.x, f point.y, f point.z⟩

def Rotor.map (f : α → β) (rotor : Rotor α) : Rotor β :=
  ⟨f rotor.x, f rotor.y, f rotor.z, f rotor.w⟩

def Pose.map (f : α → β) (pose : Pose α) : Pose β := ⟨pose.pos.map f, pose.rot.map f⟩

def Placement.map (f : α → β) (placement : Placement α) : Placement β :=
  ⟨placement.pose.map f, placement.offset.map f⟩

end Maps

structure Layout (α : Type) where
  reference : Placement α
  relative : List (Pose α)
deriving DecidableEq

def Snapshot.layout (snapshot : Snapshot) : Layout Float :=
  ⟨snapshot.reference, snapshot.loudspeakers.map Loudspeaker.pose⟩

namespace Layout

def exact (layout : Layout Float) : Layout ℚ :=
  ⟨layout.reference.map Double.exact, layout.relative.map (Pose.map Double.exact)⟩

def inScene {α : Type} [Add α] [Sub α] [Mul α] [OfNat α 2] (layout : Layout α) : List (Point α) :=
  layout.relative.map fun pose => (layout.reference.place pose).pos

def shownAt (key : String) (report : Value) : Option Value :=
  (report.member? key).bind (·.member? "pos")

/-- A report shows the reference and each loudspeaker, relative to it and in the scene. -/
def ShownBy (layout : Layout Float) (report : Value) : Prop :=
  shownAt "reference" report = some layout.reference.pose.pos.toValue ∧
    ∃ entries, report.member? "loudspeakers" = some (.list entries) ∧
      entries.map (shownAt "relative") = layout.relative.map (fun pose => some pose.pos.toValue) ∧
      entries.map (shownAt "in_scene") = layout.inScene.map fun point => some point.toValue

end Layout

theorem Snapshot.shownBy_report (snapshot : Snapshot) (connected : Bool) :
    snapshot.layout.ShownBy (snapshot.report connected) := by
  refine ⟨rfl, _, rfl, ?_, ?_⟩
  · simp only [layout, List.map_map]
    rfl
  · simp only [layout, Layout.inScene, List.map_map]
    rfl

section Exact

variable {α : Type} [CommRing α]

theorem Point.sub_origin (v : Point α) : v.sub origin = v := by
  simp [sub, origin]

namespace Rotor

def axis (q : Rotor α) : Point α := ⟨q.x, q.y, q.z⟩

/-- What turning adds to the square of a length. -/
def stretch (q : Rotor α) (v : Point α) : α := 4 * (q.normSq - 1) * (q.axis.cross v).lengthSq

theorem lengthSq_rotate (q : Rotor α) (v : Point α) :
    (q.rotate v).lengthSq = v.lengthSq + q.stretch v := by
  simp only [Point.lengthSq, Point.dot, rotate, stretch, axis, Point.cross, normSq]
  ring

theorem cross_sub (q : Rotor α) (v w : Point α) :
    q.axis.cross (v.sub w) = (q.axis.cross v).sub (q.axis.cross w) := by
  simp only [Point.cross, Point.sub, Point.mk.injEq]
  refine ⟨?_, ?_, ?_⟩ <;> ring

theorem IsUnit.stretch {q : Rotor α} (unit : q.IsUnit) (v : Point α) : q.stretch v = 0 := by
  rw [Rotor.stretch, unit, sub_self, mul_zero, zero_mul]

end Rotor

namespace Placement

variable (placement : Placement α)

theorem sub_place (first second : Pose α) :
    (placement.place first).pos.sub (placement.place second).pos =
      placement.pose.rot.rotate (first.pos.sub second.pos) := by
  rw [Rotor.rotate_sub]
  simp only [place, Pose.compose, Point.add, Point.sub, add_sub_add_left_eq_sub]

theorem distanceSq_place (first second : Pose α) :
    (placement.place first).pos.distanceSq (placement.place second).pos =
      first.pos.distanceSq second.pos + placement.pose.rot.stretch (first.pos.sub second.pos) := by
  rw [Point.distanceSq, sub_place, Rotor.lengthSq_rotate]
  rfl

theorem place_identity : (placement.place Pose.identity).pos = placement.pose.pos := by
  rw [place, Pose.compose_identity]

end Placement

namespace Layout

/-- The loudspeakers are as far from each other and from the reference as relative to it. -/
structure Rigid (layout : Layout α) : Prop where
  apart : ∀ first ∈ layout.relative.zip layout.inScene,
    ∀ second ∈ layout.relative.zip layout.inScene,
      first.2.distanceSq second.2 = first.1.pos.distanceSq second.1.pos
  fromReference : ∀ shown ∈ layout.relative.zip layout.inScene,
    shown.2.distanceSq layout.reference.pose.pos = shown.1.pos.distanceSq Point.origin

structure Stretched (layout : Layout α) : Prop where
  apart : ∀ first ∈ layout.relative.zip layout.inScene,
    ∀ second ∈ layout.relative.zip layout.inScene,
      first.2.distanceSq second.2 = first.1.pos.distanceSq second.1.pos +
        layout.reference.pose.rot.stretch (first.1.pos.sub second.1.pos)
  fromReference : ∀ shown ∈ layout.relative.zip layout.inScene,
    shown.2.distanceSq layout.reference.pose.pos = shown.1.pos.distanceSq Point.origin +
      layout.reference.pose.rot.stretch shown.1.pos

def OnAxis (layout : Layout α) : Prop :=
  ∀ pose ∈ layout.relative, layout.reference.pose.rot.axis.cross pose.pos = Point.origin

theorem zip_inScene (layout : Layout α) : layout.relative.zip layout.inScene =
    layout.relative.map fun pose => (pose, (layout.reference.place pose).pos) := by
  have paired : (layout.relative.map id).zip layout.inScene =
      layout.relative.map fun pose => (id pose, (layout.reference.place pose).pos) :=
    List.zip_map'
  rwa [List.map_id] at paired

theorem mem_zip_inScene {layout : Layout α} {shown : Pose α × Point α} :
    shown ∈ layout.relative.zip layout.inScene ↔
      shown.1 ∈ layout.relative ∧ shown.2 = (layout.reference.place shown.1).pos := by
  obtain ⟨pose, point⟩ := shown
  rw [zip_inScene, List.mem_map]
  constructor
  · rintro ⟨pose, member, ⟨⟩⟩
    exact ⟨member, rfl⟩
  · rintro ⟨member, placed⟩
    exact ⟨pose, member, Prod.ext rfl placed.symm⟩

theorem stretched (layout : Layout α) : layout.Stretched := by
  constructor
  · intro first member second other
    rw [(mem_zip_inScene.1 member).2, (mem_zip_inScene.1 other).2, Placement.distanceSq_place]
  · intro shown member
    have away := layout.reference.distanceSq_place shown.1 Pose.identity
    rw [Placement.place_identity, Pose.identity, Point.sub_origin] at away
    rw [(mem_zip_inScene.1 member).2, away]

theorem rigid_of_stretch {layout : Layout α}
    (between : ∀ first ∈ layout.relative, ∀ second ∈ layout.relative,
      layout.reference.pose.rot.stretch (first.pos.sub second.pos) = 0)
    (away : ∀ pose ∈ layout.relative, layout.reference.pose.rot.stretch pose.pos = 0) :
    layout.Rigid := by
  constructor
  · intro first member second other
    rw [layout.stretched.apart first member second other,
      between _ (mem_zip_inScene.1 member).1 _ (mem_zip_inScene.1 other).1, add_zero]
  · intro shown member
    rw [layout.stretched.fromReference shown member, away _ (mem_zip_inScene.1 member).1, add_zero]

end Layout

end Exact

section Ordered

variable {α : Type} [CommRing α] [LinearOrder α] [IsStrictOrderedRing α]

theorem Point.lengthSq_eq_zero_iff {v : Point α} : v.lengthSq = 0 ↔ v = origin := by
  obtain ⟨x, y, z⟩ := v
  have plane : 0 ≤ x * x + y * y := add_nonneg (mul_self_nonneg x) (mul_self_nonneg y)
  simp only [lengthSq, dot, origin, Point.mk.injEq]
  rw [add_eq_zero_iff_of_nonneg plane (mul_self_nonneg z),
    add_eq_zero_iff_of_nonneg (mul_self_nonneg x) (mul_self_nonneg y)]
  simp only [mul_self_eq_zero, and_assoc]

theorem Rotor.stretch_eq_zero_iff {q : Rotor α} {v : Point α} :
    q.stretch v = 0 ↔ q.IsUnit ∨ q.axis.cross v = Point.origin := by
  rw [stretch, mul_eq_zero, mul_eq_zero, Point.lengthSq_eq_zero_iff, sub_eq_zero, IsUnit]
  simp

namespace Layout

theorem rigid_iff {layout : Layout α} :
    layout.Rigid ↔ layout.reference.pose.rot.IsUnit ∨ layout.OnAxis := by
  constructor
  · intro rigid
    by_cases unit : layout.reference.pose.rot.IsUnit
    · exact .inl unit
    · refine .inr fun pose member => ?_
      have shown : (pose, (layout.reference.place pose).pos) ∈ layout.relative.zip layout.inScene :=
        mem_zip_inScene.2 ⟨member, rfl⟩
      have kept := rigid.fromReference _ shown
      rw [layout.stretched.fromReference _ shown, add_eq_left] at kept
      exact (Rotor.stretch_eq_zero_iff.1 kept).resolve_left unit
  · rintro (unit | onAxis)
    · exact rigid_of_stretch (fun _ _ _ _ => unit.stretch _) fun _ _ => unit.stretch _
    · refine rigid_of_stretch (fun first member second other => ?_) fun pose member => ?_
      · refine Rotor.stretch_eq_zero_iff.2 (.inr ?_)
        rw [Rotor.cross_sub, onAxis first member, onAxis second other, Point.sub_origin]
      · exact Rotor.stretch_eq_zero_iff.2 (.inr (onAxis pose member))

end Layout

end Ordered

theorem Settles.holds {α β : Type} {carries : α → Option β} {items : List α} {start value : β}
    (settled : Settles carries items start value) {holds : β → Prop} (started : holds start)
    (carried : ∀ item ∈ items, ∀ value, carries item = some value → holds value) : holds value := by
  rcases settled with ⟨before, item, after, rfl, latest, _⟩ | ⟨_, rfl⟩
  · exact carried item (List.mem_append_right _ (List.mem_cons_self ..)) value latest
  · exact started

namespace Hub

theorem orientation_serveAll {hub : Hub} (empty : hub.scene = .initial) (calls : List Call) :
    Settles (Write.refers (·.orientation)) (hub.writesOf calls) Rotor.identity
      (hub.serveAll calls).2.scene.reference.pose.rot := by
  rw [scene_serveAll, empty, Scene.reference_writeAll]
  exact (Reference.lastWritten_foldl_take _).orientation

/-- After any run from the empty scene that writes orientations of unit length only, the layout that
the reports show has kept its shape.  After any run at all it is turned by the orientation that was
written last, and it has kept its shape exactly if this one is of unit length or all loudspeakers
stand on its axis. -/
theorem rigid_serveAll_iff {hub : Hub} (empty : hub.scene = .initial) (calls : List Call) :
    let scene := (hub.serveAll calls).2.scene
    let layout := scene.snapshot.layout
    (∀ connected, layout.ShownBy (scene.snapshot.report connected)) ∧
    ((∀ made ∈ hub.writesOf calls, ∀ rotor, made.refers (·.orientation) = some rotor →
        (rotor.map Double.exact).IsUnit) → layout.exact.Rigid) ∧
    Settles (Write.refers (·.orientation)) (hub.writesOf calls) Rotor.identity
      layout.reference.pose.rot ∧
    layout.exact.Stretched ∧
    (layout.exact.Rigid ↔ layout.exact.reference.pose.rot.IsUnit ∨ layout.exact.OnAxis) := by
  intro scene layout
  have settled : Settles (Write.refers (·.orientation)) (hub.writesOf calls) Rotor.identity
      layout.reference.pose.rot := orientation_serveAll empty calls
  refine ⟨scene.snapshot.shownBy_report, fun units => ?_, settled, layout.exact.stretched,
    Layout.rigid_iff⟩
  have started : ((Rotor.identity : Orientation).map Double.exact).IsUnit := by decide +kernel
  have unit : layout.exact.reference.pose.rot.IsUnit := settled.holds started units
  exact Layout.rigid_iff.2 (.inl unit)

theorem rigid_serveAll_iff_turned :
    let calls : List Call := [
      .message ("[\"state\",\x7b\"loudspeakers\":" ++
        "[\x7b\"pos\":[1,0,0]\x7d,\x7b\"pos\":[0,2,0]\x7d]\x7d]"),
      .gesture ⟨.reference, none, some ⟨0.5, 0.5, 0.5, 0.5⟩⟩]
    let layout := (initial.serveAll calls).2.scene.snapshot.layout
    initial.scene = .initial ∧
      (∀ made ∈ initial.writesOf calls, ∀ rotor, made.refers (·.orientation) = some rotor →
        (rotor.map Double.exact).IsUnit) ∧
      layout.exact.inScene = [⟨0, 1, 0⟩, ⟨0, 0, 2⟩] ∧ layout.exact.Rigid := by
  intro calls layout
  have empty : initial.scene = .initial := rfl
  obtain ⟨_, kept, _⟩ := rigid_serveAll_iff empty calls
  have units : ∀ made ∈ initial.writesOf calls, ∀ rotor,
      made.refers (·.orientation) = some rotor → (rotor.map Double.exact).IsUnit := by
    have all : ∀ made ∈ initial.writesOf calls, ∀ rotor ∈ made.refers (·.orientation),
        (rotor.map Double.exact).IsUnit := by
      decide +kernel
    exact all
  have placed : layout.exact.inScene = [⟨0, 1, 0⟩, ⟨0, 0, 2⟩] := by decide +kernel
  exact ⟨empty, units, placed, kept units⟩

/-- A quaternion of length two puts the loudspeakers seven times as far from the reference. -/
theorem stretched_not_rigid :
    let calls : List Call := [
      .message ("[\"state\",\x7b\"loudspeakers\":[\x7b\"pos\":[1,0,0]\x7d," ++
        "\x7b\"pos\":[0,1,0]\x7d],\"ref-rot\":[0,0,2,0]\x7d]")]
    let layout := (initial.serveAll calls).2.scene.snapshot.layout
    layout.inScene = [⟨-7.0, 0.0, 0.0⟩, ⟨0.0, -7.0, 0.0⟩] ∧ ¬ layout.exact.Rigid := by
  intro calls layout
  refine ⟨by decide +kernel, fun rigid => ?_⟩
  have shown : (⟨⟨1, 0, 0⟩, Rotor.identity⟩, ⟨-7, 0, 0⟩) ∈
      layout.exact.relative.zip layout.exact.inScene := by
    decide +kernel
  have same := rigid.fromReference _ shown
  have farther : ¬ Point.distanceSq ⟨-7, 0, 0⟩ layout.exact.reference.pose.pos =
      (⟨1, 0, 0⟩ : Point ℚ).distanceSq Point.origin := by
    decide +kernel
  exact farther same

end Hub

end SoundScene
