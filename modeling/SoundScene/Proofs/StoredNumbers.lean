import SoundScene.Proofs.RequestNumbers
import SoundScene.Proofs.Writes

/-!
Numbers that are stored.  Whatever messages say and requests ask for, all numbers of a scene are
finite, so nothing of it is lost when it is written.  A command that creates a live source with all
that is known of it comes back from its text, and where the source is not live it creates the same
one (`reencodable_takeAll`).
-/

namespace SoundScene

open Json Http

namespace Table

variable {α : Type} {table : Table α} {key : String} {value held : α}

theorem mem_values_insert (member : held ∈ (table.insert key value).values) :
    held = value ∨ held ∈ table.values := by
  obtain ⟨entry, present, rfl⟩ := List.mem_map.1 member
  rcases Keyed.mem_insert present with rfl | present
  · exact .inl rfl
  · exact .inr (List.mem_map_of_mem present)

theorem mem_values_erase (member : held ∈ (table.erase key).values) : held ∈ table.values :=
  ((Keyed.sublist_erase key table.entries).map Prod.snd).subset member

theorem mem_values_of_find? (found : table.find? key = some held) : held ∈ table.values :=
  List.mem_map_of_mem (Keyed.mem_of_find? found)

end Table

theorem getD_of_all {α : Type} {Holds : α → Prop} {part : Option α} {default : α}
    (given : ∀ x, part = some x → Holds x) (held : Holds default) : Holds (part.getD default) := by
  cases part with
  | none => exact held
  | some x => exact given x rfl

namespace Source

structure Finite (source : Source) : Prop where
  position : AllFinite source.position.toList
  orientation : AllFinite source.orientation.toList
  volume : source.volume.isFinite = true

theorem finite_initial (id : String) : (initial id).Finite := by
  have origin : AllFinite (Point.origin : Position).toList := by decide +kernel
  have identity : AllFinite (Rotor.identity : Orientation).toList := by decide +kernel
  have full : Float.isFinite 1.0 = true := by decide +kernel
  exact ⟨origin, identity, full⟩

theorem Finite.apply {source : Source} {patch : Patch} (finite : source.Finite)
    (carried : patch.Finite) : (source.apply patch).Finite where
  position := getD_of_all carried.position finite.position
  orientation := getD_of_all carried.orientation finite.orientation
  volume := getD_of_all carried.volume finite.volume

def whole (source : Source) : Patch where
  position := some source.position
  orientation := some source.orientation
  active := some source.active
  name := source.name
  model := source.model
  volume := some source.volume
  mute := some source.mute
  fixed := some source.fixed

theorem fresh_whole (source : Source) : Scene.fresh (source.id, source.whole) = source := by
  obtain ⟨id, position, orientation, active, name, model, volume, mute, fixed⟩ := source
  simp [Scene.fresh, whole, apply, initial]

theorem Finite.whole {source : Source} (finite : source.Finite) : source.whole.Finite := by
  constructor
  · rintro _ ⟨⟩
    exact finite.position
  · rintro _ ⟨⟩
    exact finite.orientation
  · rintro _ ⟨⟩
    exact finite.volume

/-- The command that creates the source with all its attributes. -/
def creation (source : Source) : Command := .create [(source.id, source.whole)]

theorem decode_creation {source : Source} (finite : source.Finite) :
    Message.decode (Message.encode [source.creation]) = .ok [source.creation] := by
  have writable : ∀ command ∈ [source.creation], command.Writable := by
    intro command member
    rw [List.mem_singleton.1 member]
    intro entry member
    rw [List.mem_singleton.1 member]
    exact finite.whole
  have normal : source.creation.normal = source.creation :=
    congrArg Command.create (collapse_of_ascending (List.pairwise_singleton ..))
  rw [Message.decode_encode writable, List.map_singleton, normal]

theorem run_creation {scene : Scene} {source : Source} (gone : scene.isLive source.id = false)
    (origin : Origin) : scene.run source.creation origin = .ok ([.created source origin],
      { scene with sources := scene.sources.insert source.id source }) := by
  simp [Scene.run, creation, Scene.create, Scene.firstRefused, gone, fresh_whole, bind,
    Except.bind, pure, Except.pure]

theorem handle_creation {source : Source} (finite : source.Finite) {hub : Hub}
    (gone : hub.scene.isLive source.id = false) :
    hub.handle (Message.encode [source.creation]) = ⟨.ok 1, [.created source .renderer],
      { hub with scene :=
        { hub.scene with sources := hub.scene.sources.insert source.id source } }⟩ := by
  rw [Hub.handle, decode_creation finite]
  simp only [Scene.runAll, run_creation gone]
  rfl

end Source

structure Pose.Finite (pose : Pose Float) : Prop where
  pos : AllFinite pose.pos.toList
  rot : AllFinite pose.rot.toList

namespace Reference

structure Finite (reference : Reference) : Prop where
  pose : reference.pose.Finite
  offset : reference.offset.Finite

structure Patch.Finite (patch : Patch) : Prop where
  position : ∀ point, patch.position = some point → AllFinite point.toList
  orientation : ∀ rotor, patch.orientation = some rotor → AllFinite rotor.toList
  offsetPosition : ∀ point, patch.offsetPosition = some point → AllFinite point.toList
  offsetOrientation : ∀ rotor, patch.offsetOrientation = some rotor → AllFinite rotor.toList

theorem Finite.apply {reference : Reference} {patch : Patch} (finite : reference.Finite)
    (carried : patch.Finite) : (reference.apply patch).Finite where
  pose := ⟨getD_of_all carried.position finite.pose.pos,
    getD_of_all carried.orientation finite.pose.rot⟩
  offset := ⟨getD_of_all carried.offsetPosition finite.offset.pos,
    getD_of_all carried.offsetOrientation finite.offset.rot⟩

end Reference

theorem StateEntry.Writable.patch {entry : StateEntry} (writable : entry.Writable) :
    entry.patch.Finite := by
  cases entry with
  | loudspeakers set | other name value => exact ⟨nofun, nofun, nofun, nofun⟩
  | position point => exact ⟨by rintro _ ⟨⟩; exact writable, nofun, nofun, nofun⟩
  | orientation rotor => exact ⟨nofun, by rintro _ ⟨⟩; exact writable, nofun, nofun⟩
  | offsetPosition point => exact ⟨nofun, nofun, by rintro _ ⟨⟩; exact writable, nofun⟩
  | offsetOrientation rotor => exact ⟨nofun, nofun, nofun, by rintro _ ⟨⟩; exact writable⟩

def Write.Writable : Write → Prop
  | .create _ patch | .modify _ patch => patch.Finite
  | .delete _ => True
  | .state entry => entry.Writable

theorem Command.Writable.writes {command : Command} (writable : command.Writable) :
    ∀ made ∈ command.writes, made.Writable := by
  intro made member
  cases command with
  | state entries =>
      obtain ⟨entry, present, rfl⟩ := List.mem_map.1 member
      exact writable entry present
  | create batch | modify batch =>
      obtain ⟨entry, present, rfl⟩ := List.mem_map.1 member
      exact writable entry present
  | delete ids =>
      obtain ⟨id, _, rfl⟩ := List.mem_map.1 member
      trivial
  | subscribe topics => cases member

namespace Scene

structure Finite (scene : Scene) : Prop where
  sources : ∀ source ∈ scene.sources.values, source.Finite
  reference : scene.reference.Finite
  loudspeakers : ∀ loudspeaker ∈ scene.loudspeakerList, loudspeaker.Finite

theorem finite_initial : initial.Finite := by
  have identity : (Pose.identity : Pose Float).Finite := by
    constructor <;> decide +kernel
  exact ⟨nofun, ⟨identity, identity⟩, nofun⟩

variable {scene : Scene}

theorem Finite.insert (finite : scene.Finite) {source : Source} (new : source.Finite)
    (id : String) : { scene with sources := scene.sources.insert id source }.Finite := by
  refine { finite with sources := fun other member => ?_ }
  rcases Table.mem_values_insert member with rfl | member
  · exact new
  · exact finite.sources other member

theorem Finite.write (finite : scene.Finite) {made : Write} (writable : made.Writable) :
    (scene.write made).Finite := by
  cases made with
  | create id patch => exact finite.insert ((Source.finite_initial id).apply writable) id
  | modify id patch =>
      rw [Scene.write]
      split
      · next source found =>
        have held := finite.sources source (Table.mem_values_of_find? found)
        exact finite.insert (held.apply writable) id
      · exact finite
  | delete id =>
      refine { finite with sources := fun other member => ?_ }
      exact finite.sources other (Table.mem_values_erase member)
  | state entry =>
      refine ⟨finite.sources, finite.reference.apply (StateEntry.Writable.patch writable), ?_⟩
      cases entry with
      | loudspeakers set => exact writable
      | _ => exact finite.loudspeakers

theorem Finite.writeAll (finite : scene.Finite) {writes : List Write}
    (writable : ∀ made ∈ writes, made.Writable) : (scene.writeAll writes).Finite := by
  induction writes generalizing scene with
  | nil => exact finite
  | cons made rest ih =>
      refine ih (finite.write (writable made List.mem_cons_self)) fun other member => ?_
      exact writable other (List.mem_cons_of_mem _ member)

end Scene

def Call.Finite : Call → Prop
  | .message _ => True
  | .gesture made => made.Finite

inductive Input where
  | message (text : String)
  | request (now : String) (request : Request)
deriving DecidableEq, Repr

namespace Hub

variable {hub : Hub}

theorem done_writable {call : Call} (finite : call.Finite) :
    ∀ command ∈ hub.done call, command.Writable := by
  intro command member
  cases call with
  | message text =>
      rw [done] at member
      split at member
      · cases member
      · next commands decoded =>
        have canonical := (Message.decode_canonical decoded).1
        exact (canonical command (List.mem_of_mem_take member)).1
  | gesture gesture =>
      rw [done] at member
      split at member
      · cases member
      · next command meant =>
        rw [List.mem_singleton.1 (List.mem_of_mem_take member)]
        exact Gesture.toCommand_writable finite meant

theorem finite_serve (stored : hub.scene.Finite) {call : Call} (finite : call.Finite) :
    (hub.serve call).2.scene.Finite := by
  rw [scene_serve]
  refine stored.writeAll fun made member => ?_
  obtain ⟨command, present, member⟩ := List.mem_flatMap.1 member
  exact (done_writable finite command present).writes made member

def take (hub : Hub) : Input → Hub
  | .message text => (hub.handle text).hub
  | .request now request => (Api.serve hub now request).hub

def takeAll (hub : Hub) (inputs : List Input) : Hub := inputs.foldl take hub

theorem take_cases (hub : Hub) (input : Input) :
    hub.take input = hub ∨ ∃ call : Call, call.Finite ∧ hub.take input = (hub.serve call).2 := by
  cases input with
  | message text => exact .inr ⟨.message text, trivial, rfl⟩
  | request now request =>
      rcases Api.hub_serve hub now request with same | ⟨gesture, finite, made⟩
      · exact .inl same
      · exact .inr ⟨.gesture gesture, finite, made⟩

theorem finite_take (stored : hub.scene.Finite) (input : Input) :
    (hub.take input).scene.Finite := by
  rcases hub.take_cases input with same | ⟨call, finite, made⟩
  · rw [same]
    exact stored
  · rw [made]
    exact finite_serve stored finite

theorem wellKeyed_take (keyed : hub.scene.WellKeyed) (input : Input) :
    (hub.take input).scene.WellKeyed := by
  rcases hub.take_cases input with same | ⟨call, _, made⟩
  · rw [same]
    exact keyed
  · rw [made]
    exact (hub.serve_told call).wellKeyed keyed

theorem takeAll_keeps {Holds : Scene → Prop} (held : Holds hub.scene)
    (keeps : ∀ hub : Hub, Holds hub.scene → ∀ input, Holds (hub.take input).scene)
    (inputs : List Input) : Holds (hub.takeAll inputs).scene := by
  induction inputs generalizing hub with
  | nil => exact held
  | cons input rest ih => exact ih (keeps hub held input)

end Hub

/-- Everything that is stored in a scene can be written, and each live source can be made anew from
its text wherever it is not live. -/
structure Scene.Reencodable (scene : Scene) : Prop where
  finite : scene.Finite
  named : ∀ id source, scene.source? id = some source → source.id = id
  decoded : ∀ id source, scene.source? id = some source →
    Message.decode (Message.encode [source.creation]) = .ok [source.creation]
  created : ∀ id source, scene.source? id = some source → ∀ other : Scene,
    other.isLive id = false → ∀ origin, ∃ next,
      other.run source.creation origin = .ok ([.created source origin], next) ∧
        next.source? id = some source
  handled : ∀ id source, scene.source? id = some source → ∀ hub : Hub,
    hub.scene.isLive id = false → ∃ next,
      hub.handle (Message.encode [source.creation]) =
          ⟨.ok 1, [.created source .renderer], { hub with scene := next }⟩ ∧
        next.source? id = some source

theorem Scene.reencodable {scene : Scene} (stored : scene.Finite) (keyed : scene.WellKeyed) :
    scene.Reencodable := by
  have finite (id : String) (source : Source) (found : scene.source? id = some source) :
      source.Finite := stored.sources source (Table.mem_values_of_find? found)
  have there (other : Scene) (source : Source) :
      { other with sources := other.sources.insert source.id source }.source? source.id =
        some source := by
    rw [source?, Table.find?_insert, if_pos rfl]
  constructor
  case finite => exact stored
  case named => exact keyed
  case decoded => exact fun id source found => source.decode_creation (finite id source found)
  case created =>
    intro id source found other gone origin
    obtain rfl := keyed id source found
    exact ⟨_, source.run_creation gone origin, there other source⟩
  case handled =>
    intro id source found hub gone
    obtain rfl := keyed id source found
    exact ⟨_, source.handle_creation (finite _ source found) gone, there hub.scene source⟩

namespace Hub

/-- Whatever messages and requests come, from an empty scene on, the scene can be written and read
again. -/
theorem reencodable_takeAll {hub : Hub} (empty : hub.scene = .initial) (inputs : List Input) :
    (hub.takeAll inputs).scene.Reencodable := by
  refine Scene.reencodable ?_ ?_
  · exact takeAll_keeps (empty ▸ Scene.finite_initial) (fun _ => finite_take) inputs
  · exact takeAll_keeps (empty ▸ Scene.wellKeyed_initial) (fun _ => wellKeyed_take) inputs

theorem reencodable_takeAll_moved :
    let request : Request := ⟨"PUT", "/api/v1/sources/a/pose",
      [("content-type", "application/json")], "\x7b\"pos\":[0.5,-1e-3,2]\x7d".toUTF8.toList⟩
    let inputs : List Input := [
      .message ("[\"state\",\x7b\"loudspeakers\":[[[0,1]]],\"ref-pos-offset\":[1e2,0]\x7d," ++
        "\"new-src\",\x7b\"a\":\x7b\"pos\":[1,2],\"volume\":0.1,\"model\":\"point\"\x7d\x7d]"),
      .request "" request]
    let source : Source := ⟨"a", ⟨0.5, -0.001, 2.0⟩, Rotor.identity, true, none, some "point", 0.1,
      false, false⟩
    initial.scene = .initial ∧ (initial.takeAll inputs).scene.Reencodable ∧
      (initial.takeAll inputs).scene.source? "a" = some source ∧
      Message.decode (Message.encode [source.creation]) = .ok [source.creation] ∧
      ∃ next, initial.handle (Message.encode [source.creation]) =
          ⟨.ok 1, [.created source .renderer], { initial with scene := next }⟩ ∧
        next.source? "a" = some source := by
  intro request inputs source
  have written : (initial.takeAll inputs).scene.Reencodable := reencodable_takeAll rfl inputs
  have found : (initial.takeAll inputs).scene.source? "a" = some source := by decide +kernel
  exact ⟨rfl, written, found, written.decoded "a" source found,
    written.handled "a" source found initial rfl⟩

end Hub

end SoundScene
