import SoundScene.Scene

/-!
A copy of the whole scene at one moment, and the report of it that is shown to readers: all poses
are given in the scene, and those that belong to the reference also relative to it.
-/

namespace SoundScene

open Json

structure Snapshot where
  reference : Reference
  loudspeakers : List Loudspeaker
  sources : List Source
deriving DecidableEq, Repr

/-- The sources stand in the order of their ids. -/
def Scene.snapshot (scene : Scene) : Snapshot :=
  ⟨scene.reference, scene.loudspeakerList, scene.sources.values⟩

/-- The reference, with the offset both relative to it and in the scene. -/
def Reference.report (reference : Reference) : Value :=
  .object [("pos", reference.pose.pos.toValue), ("rot", reference.pose.rot.toValue),
    ("offset", reference.offset.toValue), ("offset_in_scene", reference.offsetInScene.toValue)]

/-- A loudspeaker relative to the reference and in the scene. -/
def Loudspeaker.report (reference : Reference) (loudspeaker : Loudspeaker) : Value :=
  .object ([("relative", loudspeaker.pose.toValue),
      ("in_scene", (reference.place loudspeaker.pose).toValue)] ++
    loudspeaker.model.toList.map fun model => ("model", .string model))

/-- What readers are shown of a source.  Its coordinates are lists of numbers. -/
structure SourceReport where
  id : String
  pos : List Float
  rot : List Float
  active : Bool
  name : Option String
  model : Option String
  volume : Float
  mute : Bool
  fixed : Bool
deriving DecidableEq, Repr

def Source.report (source : Source) : SourceReport :=
  ⟨source.id, source.position.toList, source.orientation.toList, source.active, source.name,
    source.model, source.volume, source.mute, source.fixed⟩

def SourceReport.toValue (report : SourceReport) : Value :=
  .object [("id", .string report.id), ("pos", .ofFloats report.pos), ("rot", .ofFloats report.rot),
    ("active", .bool report.active), ("name", .ofOption report.name),
    ("model", .ofOption report.model), ("volume", .ofFloat report.volume),
    ("mute", .bool report.mute), ("fixed", .bool report.fixed)]

def sourceList (sources : List Source) : Value :=
  .list (sources.map fun source => source.report.toValue)

def Snapshot.report (snapshot : Snapshot) (connected : Bool) : Value :=
  .object [("connected", .bool connected), ("reference", snapshot.reference.report),
    ("loudspeakers", .list (snapshot.loudspeakers.map (Loudspeaker.report snapshot.reference))),
    ("sources", sourceList snapshot.sources)]

end SoundScene
