import SoundScene.Proofs.ByteOrder
import SoundScene.Proofs.Requests
import SoundScene.Viewer.Answer

/-!
Ways to read the sources.  They are listed on their own and in the report of the whole scene, one is
looked up by its id, gestures look for one, and events carry the one they are about.  After any
calls all of this agrees on one list, which ascends by id (`readsAgree_serveAll`).
-/

namespace SoundScene

open Json Http

theorem Source.toValue_report (source : Source) : source.report.toValue = source.toValue := rfl

namespace Scene

variable {scene : Scene}

theorem WellKeyed.id_of_mem (keyed : scene.WellKeyed) {entry : String × Source}
    (member : entry ∈ scene.sources.entries) : entry.2.id = entry.1 :=
  keyed _ _ (Keyed.find?_of_mem scene.sources.ascending member)

theorem WellKeyed.mem_values_iff (keyed : scene.WellKeyed) (source : Source) :
    source ∈ scene.sources.values ↔ scene.source? source.id = some source := by
  constructor
  · intro member
    obtain ⟨entry, there, rfl⟩ := List.mem_map.1 member
    rw [keyed.id_of_mem there]
    exact Keyed.find?_of_mem scene.sources.ascending there
  · exact fun found => List.mem_map.2 ⟨_, Keyed.mem_of_find? found, rfl⟩

theorem WellKeyed.source?_eq_some_iff (keyed : scene.WellKeyed) (id : String) (source : Source) :
    scene.source? id = some source ↔ source ∈ scene.sources.values ∧ source.id = id := by
  rw [keyed.mem_values_iff]
  constructor
  · intro found
    have named := keyed id source found
    subst named
    exact ⟨found, rfl⟩
  · rintro ⟨found, rfl⟩
    exact found

theorem WellKeyed.source?_eq_none_iff (keyed : scene.WellKeyed) (id : String) :
    scene.source? id = none ↔ ∀ source ∈ scene.sources.values, source.id ≠ id := by
  rw [Option.eq_none_iff_forall_ne_some]
  simp only [ne_eq, keyed.source?_eq_some_iff, not_and]

theorem WellKeyed.values_ascending (keyed : scene.WellKeyed) :
    scene.sources.values.Pairwise fun first second =>
      Text.bytes first.id < Text.bytes second.id := by
  refine List.pairwise_map.2 (scene.sources.ascending.imp_of_mem fun first second less => ?_)
  rw [keyed.id_of_mem first, keyed.id_of_mem second]
  exact (Text.bytes_lt_iff _ _).2 less

end Scene

namespace Event

def source? : Event → Option Source
  | .created source _ | .modified source _ => some source
  | .deleted .. | .referenceChanged .. | .loudspeakersCreated _ => none

def shownSource (event : Event) (now : String) : Option Value :=
  ((event.inEnvelope now).member? "payload").bind (·.member? "source")

theorem shownSource_eq (event : Event) (now : String) :
    event.shownSource now = event.source?.map (·.toValue.sorted) := by
  have payload : (event.inEnvelope now).member? "payload" = some (event.toValue now).sorted := rfl
  rw [shownSource, payload, Option.bind_some, toValue, Value.sorted, Value.ofMembers, Value.member?,
    Keyed.find?_ofList]
  cases event <;> rfl

end Event

namespace Scene

theorem source?_replay (scene : Scene) (event : Event) (id : String) :
    (scene.replay event).source? id =
      if event.sourceId? = some id then event.source? else scene.source? id := by
  cases event with
  | created source _ | modified source _ =>
      simp [replay, source?, Table.find?_insert, Event.sourceId?, Event.source?]
  | deleted key _ => simp [replay, source?, Table.find?_erase, Event.sourceId?, Event.source?]
  | _ => rfl

theorem ToldAll.source?_eq {final : Scene} {events : List Event}
    (told : ToldAll .initial events final) (id : String) :
    final.source? id = (Event.about id events).getLast?.bind Event.source? := by
  rw [← told.replayAll_eq wellKeyed_initial]
  clear told
  induction events using List.reverseRecOn with
  | nil => rfl
  | append_singleton before event ih =>
      rw [replayAll, List.foldl_concat, source?_replay, Event.about_concat]
      split
      · rw [List.getLast?_concat, Option.bind_some]
      · rw [List.append_nil]
        exact ih

end Scene

namespace Api

/-- A request that is answered with a value and does nothing. -/
structure Shows (hub : Hub) (request : Request) (status : Nat) (value : Value) : Prop where
  status : ∀ now, (serve hub now request).response.status = status
  body : ∀ now, (serve hub now request).response.body = value.text
  kept : ∀ now, (serve hub now request).events = [] ∧ (serve hub now request).hub = hub

theorem serveEndpoint_source (hub : Hub) (now : String) (request : Request) {piece id : String}
    (decoded : percentDecode piece = some id) :
    serveEndpoint hub now request (.source piece) =
      look hub (ofAnswer ((hub.source id).map fun source => source.report.toValue)) := by
  rw [serveEndpoint, idOf, decoded]

variable {hub : Hub} {request : Request}

theorem shows_of_look {endpoint : Endpoint} {status : Nat} {value : Value}
    (method : request.method = "GET")
    (asked : Endpoint.ofTarget request.target = some endpoint)
    (reads : request.method ∈ endpoint.methods)
    (looks : ∀ now, serveEndpoint hub now request endpoint = look hub (.ofValue status value)) :
    Shows hub request status value := by
  have plain : request.method ≠ "OPTIONS" ∧ request.method ≠ "HEAD" := by
    rw [method]
    decide
  have served (now : String) :
      serve hub now request = expose (look hub (.ofValue status value)) := by
    rw [serve_endpoint hub now plain asked reads, looks]
  refine ⟨fun now => ?_, fun now => ?_, fun now => ?_⟩
  · rw [served]
    rfl
  · rw [served]
    rfl
  · rw [served]
    exact ⟨rfl, rfl⟩

end Api

namespace Hub

open Api

variable {hub : Hub}

theorem source_eq_ok_iff (keyed : hub.scene.WellKeyed) (id : String) (source : Source) :
    hub.source id = .ok source ↔ source ∈ hub.scene.sources.values ∧ source.id = id := by
  rw [← keyed.source?_eq_some_iff, Hub.source]
  cases hub.scene.source? id <;> simp

theorem source_eq_error_iff (keyed : hub.scene.WellKeyed) (id : String) (failure : Failure) :
    hub.source id = .error failure ↔
      (∀ source ∈ hub.scene.sources.values, source.id ≠ id) ∧ failure = .sourceNotFound id := by
  rw [← keyed.source?_eq_none_iff, Hub.source]
  cases hub.scene.source? id <;> simp [eq_comm]

theorem perform_sourceNotFound_iff (keyed : hub.scene.WellKeyed) {gesture : Gesture} {id : String}
    (meant : gesture.target = .source id)
    (part : gesture.position ≠ none ∨ gesture.orientation ≠ none) :
    (hub.perform gesture).answer = .error (.sourceNotFound id) ↔
      ∀ source ∈ hub.scene.sources.values, source.id ≠ id := by
  have said : ¬ (gesture.position = none ∧ gesture.orientation = none) := not_and_or.2 part
  rw [← keyed.source?_eq_none_iff]
  cases found : hub.scene.source? id with
  | none =>
      have missing : hub.scene.isLive id = false := Option.isSome_eq_false_iff.2 (by
        rw [Option.isNone_iff_eq_none]
        exact found)
      rw [perform_of_missing meant missing said]
      exact iff_of_true rfl rfl
  | some source =>
      have live : hub.scene.isLive id = true := Option.isSome_of_eq_some found
      have reaches : gesture.Reaches hub.scene := by
        rintro other aimed
        cases meant.symm.trans aimed
        exact live
      obtain ⟨silent, still, _⟩ | ⟨_, command, commanded⟩ := gesture.toCommand_cases
      · exact absurd ⟨silent, still⟩ said
      · obtain ⟨outbox, made⟩ := perform_of_reaches commanded reaches
        rw [made]
        exact iff_of_false nofun nofun

/-- All ways to read the sources of a hub that has told some events.  They agree on one list. -/
structure ReadsAgree (hub : Hub) (events : List Event) : Prop where
  keyed : ∀ entry ∈ hub.scene.sources.entries, entry.2.id = entry.1
  ascending : hub.scene.sources.values.Pairwise fun first second =>
    Text.bytes first.id < Text.bytes second.id
  listed : ∀ source, source ∈ hub.scene.sources.values ↔
    hub.scene.source? source.id = some source
  list : ∀ request, request.method = "GET" → Endpoint.ofTarget request.target = some .sources →
    Shows hub request 200 (sourceList hub.scene.sources.values)
  report : ∀ request, request.method = "GET" → Endpoint.ofTarget request.target = some .scene →
    ∃ report, Shows hub request 200 report ∧
      report.member? "sources" = some (sourceList hub.scene.sources.values)
  found : ∀ id source, hub.source id = .ok source ↔
    source ∈ hub.scene.sources.values ∧ source.id = id
  missing : ∀ id failure, hub.source id = .error failure ↔
    (∀ source ∈ hub.scene.sources.values, source.id ≠ id) ∧ failure = .sourceNotFound id
  one : ∀ request id piece, request.method = "GET" →
    Endpoint.ofTarget request.target = some (.source piece) → percentDecode piece = some id →
    (∀ source ∈ hub.scene.sources.values, source.id = id →
      Shows hub request 200 source.report.toValue) ∧
    ((∀ source ∈ hub.scene.sources.values, source.id ≠ id) →
      Shows hub request 404 (Failure.sourceNotFound id).toValue)
  gestures : ∀ gesture id, gesture.target = .source id →
    gesture.position ≠ none ∨ gesture.orientation ≠ none →
    ((hub.perform gesture).answer = .error (.sourceNotFound id) ↔
      ∀ source ∈ hub.scene.sources.values, source.id ≠ id)
  told : ∀ id, hub.scene.source? id = (Event.about id events).getLast?.bind Event.source?
  values : (sourceList hub.scene.sources.values).sorted =
    .list (hub.scene.sources.values.map (·.report.toValue.sorted))
  shown : ∀ source ∈ hub.scene.sources.values, ∃ event,
    (Event.about source.id events).getLast? = some event ∧
      ∀ now, event.shownSource now = some source.report.toValue.sorted

theorem readsAgree {events : List Event} (told : Scene.ToldAll .initial events hub.scene) :
    hub.ReadsAgree events := by
  have keyed := told.wellKeyed Scene.wellKeyed_initial
  constructor
  case keyed => exact fun entry member => keyed.id_of_mem member
  case ascending => exact keyed.values_ascending
  case listed => exact keyed.mem_values_iff
  case list =>
    intro request method asked
    exact shows_of_look method asked (by simp [method, Endpoint.methods]) fun _ => rfl
  case report =>
    intro request method asked
    exact ⟨_, shows_of_look method asked (by simp [method, Endpoint.methods]) fun _ => rfl, rfl⟩
  case found => exact source_eq_ok_iff keyed
  case missing => exact source_eq_error_iff keyed
  case one =>
    intro request id piece method asked decoded
    constructor
    · intro source member named
      refine shows_of_look method asked (by simp [method, Endpoint.methods]) fun now => ?_
      rw [serveEndpoint_source hub now request decoded,
        (source_eq_ok_iff keyed id source).2 ⟨member, named⟩]
      rfl
    · intro unknown
      refine shows_of_look method asked (by simp [method, Endpoint.methods]) fun now => ?_
      rw [serveEndpoint_source hub now request decoded,
        (source_eq_error_iff keyed id _).2 ⟨unknown, rfl⟩]
      rfl
  case gestures => exact fun gesture id meant part => perform_sourceNotFound_iff keyed meant part
  case told => exact told.source?_eq
  case values => rw [sourceList, Value.sorted_list, List.map_map, Function.comp_def]
  case shown =>
    intro source member
    have found := (keyed.mem_values_iff source).1 member
    rw [told.source?_eq] at found
    obtain ⟨event, last, carried⟩ := Option.bind_eq_some_iff.1 found
    refine ⟨event, last, fun now => ?_⟩
    rw [Event.shownSource_eq, carried, Option.map_some, Source.toValue_report]

/-- After any calls to a hub whose scene was empty, all ways to read the sources agree. -/
theorem readsAgree_serveAll (fresh : hub.scene = .initial) (calls : List Call) :
    (hub.serveAll calls).2.ReadsAgree (hub.serveAll calls).1 := by
  have told := hub.serveAll_told calls
  rw [fresh] at told
  exact readsAgree told

theorem readsAgree_serveAll_renewed :
    let calls : List Call := [
      .message "[\"new-src\",\x7b\"b\":\x7b\"pos\":[1,2]\x7d,\"a\":\x7b\"name\":\"x\"\x7d\x7d]",
      .message "[\"new-src\",\x7b\"\u00e9\":\x7b\x7d,\"Z\":\x7b\x7d\x7d,\"del-src\",[\"a\"]]",
      .gesture ⟨.source "b", none, some ⟨0.0, 0.0, 1.0, 0.0⟩⟩,
      .message ("[\"new-src\",\x7b\"a\":\x7b\"mute\":true\x7d\x7d," ++
        "\"mod-src\",\x7b\"c\":\x7b\x7d\x7d]")]
    let hub := (initial.serveAll calls).2
    let request : Request := ⟨"GET", "/api/v1/sources/%C3%A9", [], []⟩
    initial.scene = .initial ∧ hub.ReadsAgree (initial.serveAll calls).1 ∧
      hub.scene.sources.values.map (·.id) = ["Z", "a", "b", "\u00e9"] ∧
      Shows hub request 200 (Source.initial "\u00e9").report.toValue := by
  intro calls hub request
  have agree : hub.ReadsAgree (initial.serveAll calls).1 := readsAgree_serveAll rfl calls
  have member : Source.initial "\u00e9" ∈ hub.scene.sources.values := by decide +kernel
  have asked : Endpoint.ofTarget request.target = some (.source "%C3%A9") := by decide +kernel
  have decoded : percentDecode "%C3%A9" = some "\u00e9" := by decide +kernel
  exact ⟨rfl, agree, by decide +kernel, (agree.one request _ _ rfl asked decoded).1 _ member rfl⟩

end Hub

end SoundScene
