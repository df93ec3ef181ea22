import SoundScene.Failure
import SoundScene.Keyed
import SoundScene.Loudspeaker
import SoundScene.Reference
import SoundScene.Source
import SoundScene.Command

/-!
The scene: live sources by id, the reference, and the loudspeakers once they are known.  Operations
on several sources check the whole batch first, so one that fails changes nothing.
-/

namespace SoundScene

structure Scene where
  sources : Table Source
  reference : Reference
  loudspeakers : Option (List Loudspeaker)
deriving DecidableEq

namespace Scene

def initial : Scene := ⟨.empty, .initial, none⟩

instance : Inhabited Scene := ⟨initial⟩

def source? (scene : Scene) (id : String) : Option Source := scene.sources.find? id

def isLive (scene : Scene) (id : String) : Bool := scene.sources.contains id

def loudspeakerList (scene : Scene) : List Loudspeaker := scene.loudspeakers.getD []

/-- The first id that is refused, or stands in the list a second time. -/
def firstRefused (refused : String → Bool) : (seen : List String) → List String → Option String
  | _, [] => none
  | seen, id :: rest =>
    if refused id || seen.contains id then some id else firstRefused refused (id :: seen) rest

def fresh (entry : String × Source.Patch) : Source := (Source.initial entry.1).apply entry.2

def create (scene : Scene) (batch : Batch) : Except Failure (List Source × Scene) :=
  match firstRefused scene.isLive [] (batch.map (·.1)) with
  | some id => .error (.sourceExists id)
  | none =>
    let created := batch.map fresh
    let sources := created.foldl (fun table source => table.insert source.id source) scene.sources
    .ok (created, { scene with sources })

/-- Applies the patches in turn; each changed source is listed as it is right after its patch. -/
def patchAll : Table Source → Batch → List Source × Table Source
  | table, [] => ([], table)
  | table, (id, patch) :: rest =>
    match table.find? id with
    | some source =>
      let changed := source.apply patch
      let (others, final) := patchAll (table.insert id changed) rest
      (changed :: others, final)
    | none => patchAll table rest

def modify (scene : Scene) (batch : Batch) : Except Failure (List Source × Scene) :=
  match (batch.map (·.1)).find? fun id => !scene.isLive id with
  | some id => .error (.sourceNotFound id)
  | none =>
    let (changed, sources) := patchAll scene.sources batch
    .ok (changed, { scene with sources })

/-- Removes the sources, if all of them are live and none is listed twice. -/
def delete (scene : Scene) (ids : List String) : Except Failure Scene :=
  match firstRefused (fun id => !scene.isLive id) [] ids with
  | some id => .error (.sourceNotFound id)
  | none => .ok { scene with sources := ids.foldl Table.erase scene.sources }

/-- The loudspeakers become known once and then stay. -/
def createLoudspeakers (scene : Scene) (set : List Loudspeaker) : Except Failure Scene :=
  match scene.loudspeakers with
  | some _ => .error .loudspeakersExist
  | none => .ok { scene with loudspeakers := some set }

def patchReference (scene : Scene) (patch : Reference.Patch) : Scene :=
  { scene with reference := scene.reference.apply patch }

end Scene

end SoundScene
