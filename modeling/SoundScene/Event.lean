import SoundScene.Scene

/-!
Events: what changed in the scene, and on whose account.  An event about a source or the reference
carries its state right after the change.
-/

namespace SoundScene

open Json

/-- Who a change comes from: the renderer, or an operator on this side. -/
inductive Origin where
  | renderer
  | operator
deriving DecidableEq, Repr

def Origin.name : Origin → String
  | .renderer => "remote"
  | .operator => "local"

inductive Event where
  | created (source : Source) (origin : Origin)
  | modified (source : Source) (origin : Origin)
  | deleted (id : String) (origin : Origin)
  | referenceChanged (reference : Reference) (origin : Origin)
  | loudspeakersCreated (set : List Loudspeaker)
deriving DecidableEq, Repr

namespace Event

def sourceId? : Event → Option String
  | .created source _ | .modified source _ => some source.id
  | .deleted id _ => some id
  | .referenceChanged .. | .loudspeakersCreated _ => none

def origin? : Event → Option Origin
  | .created _ origin | .modified _ origin | .deleted _ origin | .referenceChanged _ origin =>
    some origin
  | .loudspeakersCreated _ => none

def kind : Event → String
  | .created .. => "source_created"
  | .modified .. => "source_modified"
  | .deleted .. => "source_deleted"
  | .referenceChanged .. => "reference_changed"
  | .loudspeakersCreated _ => "loudspeakers_created"

def members (event : Event) : List (String × Value) :=
  ("event_type", .string event.kind) :: match event with
    | .created source origin | .modified source origin =>
      [("source", source.toValue), ("origin", .string origin.name)]
    | .deleted id origin => [("source_id", .string id), ("origin", .string origin.name)]
    | .referenceChanged reference origin =>
      [("reference", reference.toValue), ("origin", .string origin.name)]
    | .loudspeakersCreated set => [("loudspeakers", .list (set.map Loudspeaker.toValue))]

def toValue (event : Event) (stamp : String) : Value :=
  .object (event.members ++ [("timestamp", .string stamp)])

end Event

structure StateChange where
  reference : Reference.Patch := {}
  loudspeakers : Option (List Loudspeaker) := none
deriving DecidableEq, Repr

namespace StateChange

/-- Takes up one more entry; a later entry of a kind replaces an earlier one. -/
def add (change : StateChange) : StateEntry → StateChange
  | .loudspeakers set => { change with loudspeakers := some set }
  | .position point =>
    { change with reference := { change.reference with position := some point } }
  | .orientation rotor =>
    { change with reference := { change.reference with orientation := some rotor } }
  | .offsetPosition point =>
    { change with reference := { change.reference with offsetPosition := some point } }
  | .offsetOrientation rotor =>
    { change with reference := { change.reference with offsetOrientation := some rotor } }
  | .other .. => change

def ofEntries (entries : List StateEntry) : StateChange := entries.foldl add {}

end StateChange

namespace Scene

/-- Makes the changes of a state command; if the loudspeakers are refused, nothing is changed. -/
def change (scene : Scene) (change : StateChange) (origin : Origin) :
    Except Failure (List Event × Scene) := do
  let (first, scene) ← match change.loudspeakers with
    | some set => (scene.createLoudspeakers set).map fun scene =>
      ([Event.loudspeakersCreated set], scene)
    | none => pure ([], scene)
  if change.reference.isEmpty then pure (first, scene)
  else
    let scene := scene.patchReference change.reference
    pure (first ++ [.referenceChanged scene.reference origin], scene)

/-- Runs one command.  A failing command leaves the scene as it was and tells nothing. -/
def run (scene : Scene) (command : Command) (origin : Origin) :
    Except Failure (List Event × Scene) :=
  match command with
  | .state entries => scene.change (.ofEntries entries) origin
  | .create batch => do
    let (created, scene) ← scene.create batch
    pure (created.map fun source => .created source origin, scene)
  | .modify batch => do
    let (changed, scene) ← scene.modify batch
    pure (changed.map fun source => .modified source origin, scene)
  | .delete ids => do
    let scene ← scene.delete ids
    pure (ids.map fun id => .deleted id origin, scene)
  | .subscribe _ =>
    .error (.invalidMessage "\"subscribe\" is not accepted from the server")

end Scene

structure Run where
  scene : Scene
  /-- One list of events for each command that succeeded. -/
  events : List (List Event)
  /-- What the next command failed with, if it did. -/
  failure : Option Failure
deriving DecidableEq

def Scene.runAll (scene : Scene) (origin : Origin) : List Command → Run
  | [] => ⟨scene, [], none⟩
  | command :: rest =>
    match scene.run command origin with
    | .error failure => ⟨scene, [], some failure⟩
    | .ok (events, next) =>
      let later := next.runAll origin rest
      { later with events := events :: later.events }

end SoundScene
