import SoundScene.Proofs.Calls
import SoundScene.Proofs.MessageCut
import SoundScene.Proofs.Moves
import SoundScene.Snapshot

/-!
The loudspeakers of a scene.  Until they are told of there are none.  They are told of once at most,
and then they stay as they were told, even if they are none: a command that comes with others is
refused with all that it says (`loudspeakersOnce_serveAll`).
-/

namespace SoundScene

namespace Event

def loudspeakers? : Event → Option (List Loudspeaker)
  | .loudspeakersCreated set => some set
  | _ => none

def loudspeakerSets (events : List Event) : List (List Loudspeaker) :=
  events.filterMap loudspeakers?

theorem mem_loudspeakerSets_iff {events : List Event} {set : List Loudspeaker} :
    set ∈ loudspeakerSets events ↔ .loudspeakersCreated set ∈ events := by
  rw [loudspeakerSets, List.mem_filterMap]
  constructor
  · rintro ⟨event, member, told⟩
    cases event with
    | loudspeakersCreated other =>
        cases told
        exact member
    | _ => cases told
  · exact fun member => ⟨_, member, rfl⟩

theorem loudspeakerSets_eq_nil_iff {events : List Event} :
    loudspeakerSets events = [] ↔ ∀ set, .loudspeakersCreated set ∉ events := by
  simp only [List.eq_nil_iff_forall_not_mem, mem_loudspeakerSets_iff]

theorem loudspeakerSets_singleton (event : Event) :
    loudspeakerSets [event] = event.loudspeakers?.toList := by
  rw [loudspeakerSets, List.filterMap_cons]
  cases event.loudspeakers? <;> rfl

theorem loudspeakerSets_append (first second : List Event) :
    loudspeakerSets (first ++ second) = loudspeakerSets first ++ loudspeakerSets second :=
  List.filterMap_append

theorem loudspeakerSets_map {α : Type} {view : α → Event}
    (other : ∀ item, (view item).loudspeakers? = none) (items : List α) :
    loudspeakerSets (items.map view) = [] := by
  rw [loudspeakerSets, List.filterMap_map, List.filterMap_eq_nil_iff]
  exact fun item _ => other item

end Event

open Event (loudspeakerSets)

def Command.CarriesLoudspeakers : Command → Prop
  | .state entries => ∃ set, .loudspeakers set ∈ entries
  | .create _ | .modify _ | .delete _ | .subscribe _ => False

theorem StateChange.isSome_loudspeakers_foldl (change : StateChange) (entries : List StateEntry) :
    (entries.foldl add change).loudspeakers.isSome = true ↔
      change.loudspeakers.isSome = true ∨ ∃ set, .loudspeakers set ∈ entries := by
  induction entries generalizing change with
  | nil => simp
  | cons entry rest ih =>
      rw [List.foldl_cons, ih]
      cases entry <;> simp [add]

namespace Scene

variable {scene : Scene} {command : Command}

theorem Told.loudspeakers_eq {next : Scene} {event : Event} (told : Told scene event next) :
    next.loudspeakers.toList = scene.loudspeakers.toList ++ event.loudspeakers?.toList := by
  cases told with
  | loudspeakersCreated unknown =>
      rw [unknown]
      rfl
  | _ => exact (List.append_nil _).symm

theorem ToldAll.loudspeakers_eq {final : Scene} {events : List Event}
    (told : ToldAll scene events final) :
    final.loudspeakers.toList = scene.loudspeakers.toList ++ loudspeakerSets events := by
  induction told with
  | done => exact (List.append_nil _).symm
  | @step _ _ _ event _ change _ ih =>
      rw [ih, change.loudspeakers_eq, List.append_assoc, ← Event.loudspeakerSets_singleton,
        ← Event.loudspeakerSets_append, List.singleton_append]

theorem ToldAll.loudspeakersCreated_mem_iff {events : List Event}
    (told : ToldAll .initial events scene) (set : List Loudspeaker) :
    .loudspeakersCreated set ∈ events ↔ scene.loudspeakers = some set := by
  rw [← Event.mem_loudspeakerSets_iff, ← Option.mem_toList, told.loudspeakers_eq]
  rfl

theorem ToldAll.loudspeakers_eq_none {events : List Event} (told : ToldAll .initial events scene)
    (untold : ∀ set, .loudspeakersCreated set ∉ events) : scene.loudspeakers = none := by
  rw [Option.eq_none_iff_forall_ne_some]
  exact fun set known => untold set ((told.loudspeakersCreated_mem_iff set).2 known)

theorem ToldAll.loudspeakers_of_known {final : Scene} {events : List Event}
    {set : List Loudspeaker} (told : ToldAll scene events final)
    (known : scene.loudspeakers = some set) :
    final.loudspeakers = some set ∧ loudspeakerSets events = [] := by
  have counted := told.loudspeakers_eq
  rw [known] at counted
  cases last : final.loudspeakers with
  | none =>
      rw [last] at counted
      cases counted
  | some other =>
      rw [last] at counted
      obtain ⟨same, none⟩ := List.cons.inj counted
      exact ⟨congrArg some same, none.symm⟩

theorem createLoudspeakers_of_known {held : List Loudspeaker}
    (known : scene.loudspeakers = some held) (set : List Loudspeaker) :
    scene.createLoudspeakers set = .error .loudspeakersExist := by
  rw [createLoudspeakers, known]

theorem run_of_known {held : List Loudspeaker} (known : scene.loudspeakers = some held)
    (carries : command.CarriesLoudspeakers) (origin : Origin) :
    scene.run command origin = .error .loudspeakersExist := by
  cases command with
  | state entries =>
      have stated := (StateChange.isSome_loudspeakers_foldl {} entries).2 (.inr carries)
      obtain ⟨set, stated⟩ := Option.isSome_iff_exists.1 stated
      rw [run, change, StateChange.ofEntries, stated]
      dsimp only
      rw [createLoudspeakers_of_known known]
      rfl
  | _ => cases carries

theorem run_of_unknown (unknown : scene.loudspeakers = none)
    (carries : command.CarriesLoudspeakers) (origin : Origin) :
    ∃ set events next, scene.run command origin = .ok (.loudspeakersCreated set :: events, next) ∧
      next.loudspeakers = some set := by
  cases command with
  | state entries =>
      have stated := (StateChange.isSome_loudspeakers_foldl {} entries).2 (.inr carries)
      obtain ⟨set, stated⟩ := Option.isSome_iff_exists.1 stated
      rw [run, change, StateChange.ofEntries, stated]
      dsimp only
      rw [createLoudspeakers, unknown]
      cases still : (entries.foldl StateChange.add {}).reference.isEmpty with
      | true => exact ⟨set, [], _, rfl, rfl⟩
      | false => exact ⟨set, [_], _, rfl, rfl⟩
  | _ => cases carries

theorem run_of_plain {next : Scene} {origin : Origin} {events : List Event}
    (plain : ¬ command.CarriesLoudspeakers) (ran : scene.run command origin = .ok (events, next)) :
    next.loudspeakers = scene.loudspeakers ∧ loudspeakerSets events = [] := by
  have silent : loudspeakerSets events = [] := by
    cases command with
    | state entries =>
        obtain ⟨first, middle, before, after⟩ := change_cases ran
        have quiet : loudspeakerSets first = [] := by
          rcases before with ⟨_, rfl, _⟩ | ⟨set, stated, _, _⟩
          · rfl
          · have given := Option.isSome_of_eq_some stated
            rcases (StateChange.isSome_loudspeakers_foldl {} entries).1 given with held | carries
            · cases held
            · exact absurd carries plain
        rcases after with ⟨_, rfl, _⟩ | ⟨_, _, rfl⟩
        · exact quiet
        · rw [Event.loudspeakerSets_append, quiet]
          rfl
    | create batch =>
        obtain ⟨_, _, ran⟩ := ok_of_bind ran
        cases ran
        exact Event.loudspeakerSets_map (fun _ => rfl) _
    | modify batch =>
        obtain ⟨_, _, ran⟩ := ok_of_bind ran
        cases ran
        exact Event.loudspeakerSets_map (fun _ => rfl) _
    | delete ids =>
        obtain ⟨_, _, ran⟩ := ok_of_bind ran
        cases ran
        exact Event.loudspeakerSets_map (fun _ => rfl) ids
    | subscribe topics => cases ran
  have known := congrArg List.head? (run_told ran).loudspeakers_eq
  rw [silent, List.append_nil, Option.head?_toList, Option.head?_toList] at known
  exact ⟨known, silent⟩

end Scene

namespace Hub

theorem handle_of_stopped {hub : Hub} {text : String} {first rest : List Command}
    {command : Command} {failure : Failure}
    (decoded : Message.decode text = .ok (first ++ command :: rest))
    (done : (hub.scene.runAll .renderer first).failure = none)
    (stopped : (hub.scene.runAll .renderer first).scene.run command .renderer = .error failure) :
    hub.handle text = ⟨.error failure, (hub.scene.runAll .renderer first).events.flatten,
      { hub with scene := (hub.scene.runAll .renderer first).scene }⟩ := by
  have ran : hub.scene.runAll .renderer (first ++ command :: rest) =
      ⟨(hub.scene.runAll .renderer first).scene, (hub.scene.runAll .renderer first).events,
        some failure⟩ := by
    rw [Scene.runAll_append, done]
    dsimp only
    rw [Scene.runAll, stopped]
    dsimp only
    rw [List.append_nil]
  rw [handle_eq decoded, ran]

theorem perform_loudspeakers (hub : Hub) (gesture : Gesture) :
    (hub.perform gesture).hub.scene.loudspeakers = hub.scene.loudspeakers ∧
      loudspeakerSets (hub.perform gesture).events = [] := by
  rcases hub.perform_cases gesture with ⟨failure, refused⟩ | ⟨outbox, made⟩
  · rw [refused]
    exact ⟨rfl, rfl⟩
  · rw [made, Event.loudspeakerSets_singleton, Scene.eventOf]
    cases gesture.target <;> exact ⟨rfl, rfl⟩

/-- What the events that were told so far say about the loudspeakers of a hub, now and later. -/
structure LoudspeakersOnce (hub : Hub) (told : List Event) : Prop where
  once : (loudspeakerSets told).length ≤ 1
  before : (∀ set, .loudspeakersCreated set ∉ told) →
    hub.scene.loudspeakers = none ∧ hub.scene.snapshot.loudspeakers = []
  accepted : (∀ set, .loudspeakersCreated set ∉ told) →
    ∀ command : Command, command.CarriesLoudspeakers → ∀ origin, ∃ set events next,
      hub.scene.run command origin = .ok (.loudspeakersCreated set :: events, next) ∧
        next.loudspeakers = some set
  after : ∀ set, .loudspeakersCreated set ∈ told → ∀ calls,
    (hub.serveAll calls).2.scene.loudspeakers = some set ∧
      (hub.serveAll calls).2.scene.snapshot.loudspeakers = set ∧
      ∀ other, .loudspeakersCreated other ∉ (hub.serveAll calls).1
  refused : ∀ set, .loudspeakersCreated set ∈ told →
    ∀ command : Command, command.CarriesLoudspeakers → ∀ origin,
      Edit.command command origin hub.scene = .error .loudspeakersExist hub.scene
  cut : ∀ set text first command rest,
    Message.decode text = .ok (first ++ command :: rest) → command.CarriesLoudspeakers →
    let run := hub.scene.runAll .renderer first
    run.failure = none → .loudspeakersCreated set ∈ told ++ run.events.flatten →
      hub.handle text = ⟨.error .loudspeakersExist, run.events.flatten,
        { hub with scene := run.scene }⟩
  plain : ∀ (command : Command) origin events next, ¬ command.CarriesLoudspeakers →
    hub.scene.run command origin = .ok (events, next) →
      next.loudspeakers = hub.scene.loudspeakers ∧
        ∀ set, .loudspeakersCreated set ∉ events
  failed : ∀ command origin failure next,
    Edit.command command origin hub.scene = .error failure next → next = hub.scene
  gestures : ∀ gesture,
    (hub.perform gesture).hub.scene.loudspeakers = hub.scene.loudspeakers ∧
      ∀ set, .loudspeakersCreated set ∉ (hub.perform gesture).events

theorem loudspeakersOnce {hub : Hub} {events : List Event}
    (told : Scene.ToldAll .initial events hub.scene) : hub.LoudspeakersOnce events := by
  constructor
  case once =>
    have counted : hub.scene.loudspeakers.toList = loudspeakerSets events := told.loudspeakers_eq
    rw [← counted]
    cases hub.scene.loudspeakers <;> simp
  case before =>
    intro untold
    have unknown := told.loudspeakers_eq_none untold
    refine ⟨unknown, ?_⟩
    rw [Scene.snapshot, Scene.loudspeakerList, unknown]
    rfl
  case accepted =>
    exact fun untold command carries origin =>
      Scene.run_of_unknown (told.loudspeakers_eq_none untold) carries origin
  case after =>
    intro set member calls
    have known := (told.loudspeakersCreated_mem_iff set).1 member
    obtain ⟨still, quiet⟩ := (hub.serveAll_told calls).loudspeakers_of_known known
    refine ⟨still, ?_, Event.loudspeakerSets_eq_nil_iff.1 quiet⟩
    rw [Scene.snapshot, Scene.loudspeakerList, still]
    rfl
  case refused =>
    intro set member command carries origin
    have known := (told.loudspeakersCreated_mem_iff set).1 member
    exact Scene.command_error_iff.2 ⟨Scene.run_of_known known carries origin, rfl⟩
  case cut =>
    intro set text first command rest decoded carries run done member
    have reached := told.append (Scene.runAll_told hub.scene .renderer first)
    have known := (reached.loudspeakersCreated_mem_iff set).1 member
    exact handle_of_stopped decoded done (Scene.run_of_known known carries .renderer)
  case plain =>
    intro command origin events next plain ran
    obtain ⟨kept, quiet⟩ := Scene.run_of_plain plain ran
    exact ⟨kept, Event.loudspeakerSets_eq_nil_iff.1 quiet⟩
  case failed => exact fun command origin failure next ran => (Scene.command_error_iff.1 ran).2
  case gestures =>
    intro gesture
    obtain ⟨kept, quiet⟩ := hub.perform_loudspeakers gesture
    exact ⟨kept, Event.loudspeakerSets_eq_nil_iff.1 quiet⟩

theorem loudspeakersOnce_serveAll {hub : Hub} (fresh : hub.scene = .initial) (calls : List Call) :
    (hub.serveAll calls).2.LoudspeakersOnce (hub.serveAll calls).1 := by
  have told := hub.serveAll_told calls
  rw [fresh] at told
  exact loudspeakersOnce told

/-- That there are no loudspeakers is told once, and then there can be none. -/
theorem loudspeakersOnce_serveAll_none :
    let calls : List Call :=
      [.message "[\"state\",\x7b\"ref-pos\":[1,2],\"loudspeakers\":[]\x7d]",
        .gesture ⟨.reference, none, some ⟨0.0, 0.0, 1.0, 0.0⟩⟩]
    let hub := (initial.serveAll calls).2
    let told := (initial.serveAll calls).1
    let text := "[\"new-src\",\x7b\"a\":\x7b\x7d\x7d," ++
      "\"state\",\x7b\"loudspeakers\":[[[0,1]]],\"ref-pos\":[3,4]\x7d]"
    initial.scene = .initial ∧ hub.LoudspeakersOnce told ∧ .loudspeakersCreated [] ∈ told ∧
      hub.scene.loudspeakers = some [] ∧
      (hub.handle text).answer = .error .loudspeakersExist ∧
      (hub.handle text).hub.scene.isLive "a" = true ∧
      (hub.handle text).hub.scene.reference.pose.pos = ⟨1.0, 2.0, 0.0⟩ := by
  intro calls hub told text
  have once : hub.LoudspeakersOnce told := loudspeakersOnce_serveAll rfl calls
  have member : .loudspeakersCreated [] ∈ told := by decide +kernel
  obtain ⟨known, _, _⟩ := once.after [] member []
  have decoded : Message.decode text = .ok ([.create [("a", {})]] ++ .state [.loudspeakers
      [⟨⟨0.0, 1.0, 0.0⟩, Rotor.identity, none⟩], .position ⟨3.0, 4.0, 0.0⟩] :: []) := by
    decide +kernel
  have handled := once.cut [] text _ _ _ decoded ⟨_, List.mem_cons_self⟩ (by decide +kernel)
    (List.mem_append_left _ member)
  refine ⟨rfl, once, member, known, ?_, ?_, ?_⟩
  · rw [handled]
  · rw [handled]
    decide +kernel
  · rw [handled]
    decide +kernel

end Hub

end SoundScene
