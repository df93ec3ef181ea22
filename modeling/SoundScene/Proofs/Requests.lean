import SoundScene.Api.Service
import SoundScene.Proofs.GestureFrame
import SoundScene.Proofs.Lives
import SoundScene.Proofs.Lockstep

/-!
Requests to move something.  A request is looked at in four places, one after another: by the
lengths of its lists, by whether it has any part, by whether its source is there, and once more when
the answer is taken from the events.  Together they grant the requests without a fault and no
others.  What is granted moves its target and nothing else, one message waits and one event is told,
and both the event and the answer show the target where it is then; what is refused leaves
everything as it was (`serve_moved`).
-/

namespace SoundScene

open Json Http

theorem Failure.status_ne_ok (failure : Failure) : failure.status ≠ 200 := by
  cases failure <;> nofun

namespace PoseRequest

def PosFits (request : PoseRequest) : Prop :=
  ∀ list, request.pos = some list → list.length = 2 ∨ list.length = 3

def RotFits (request : PoseRequest) : Prop := ∀ list, request.rot = some list → list.length = 4

def HasPart (request : PoseRequest) : Prop := request.pos ≠ none ∨ request.rot ≠ none

/-- The request has no fault, for a target in a scene. -/
structure Granted (request : PoseRequest) (target : Target) (scene : Scene) : Prop where
  pos : request.PosFits
  rot : request.RotFits
  part : request.HasPart
  isThere : ∀ id, target = .source id → scene.isLive id = true

/-- The gesture does to the target what the request asks for. -/
structure Asks (request : PoseRequest) (target : Target) (gesture : Gesture) : Prop where
  target : gesture.target = target
  still : request.pos = none → gesture.position = none
  inPlane : ∀ x y, request.pos = some [x, y] → gesture.position = some ⟨x, y, 0.0⟩
  inSpace : ∀ x y z, request.pos = some [x, y, z] → gesture.position = some ⟨x, y, z⟩
  unturned : request.rot = none → gesture.orientation = none
  turned : ∀ x y z w, request.rot = some [x, y, z, w] → gesture.orientation = some ⟨x, y, z, w⟩

def wrongCount (name lengths : String) (list : List Float) : Failure :=
  .invalidRequest (name ++ ": " ++ (Mismatch.wrongCount lengths list.length).message)

section Parts

variable {α : Type} {name : String} {ofList : List Float → Except Mismatch α} {list : List Float}

theorem part_some {value : α} (read : ofList list = .ok value) :
    part name ofList (some list) = .ok (some value) := by
  rw [part, Option.mapM_some, read]
  rfl

theorem part_wrong {lengths : String}
    (wrong : ofList list = .error (.wrongCount lengths list.length)) :
    part name ofList (some list) = .error (wrongCount name lengths list) := by
  rw [part, Option.mapM_some, wrong]
  rfl

end Parts

variable {request : PoseRequest} {target : Target} {gesture : Gesture}

theorem pos_of_fits (fits : request.PosFits) : ∃ position,
    part "pos" Point.ofList request.pos = .ok position ∧
      (request.pos = none → position = none) ∧
      (∀ x y, request.pos = some [x, y] → position = some ⟨x, y, 0.0⟩) ∧
      ∀ x y z, request.pos = some [x, y, z] → position = some ⟨x, y, z⟩ := by
  cases given : request.pos with
  | none => exact ⟨none, rfl, fun _ => rfl, nofun, nofun⟩
  | some list =>
      rcases fits list given with two | three
      · obtain ⟨x, y, rfl⟩ := List.length_eq_two.1 two
        refine ⟨_, part_some rfl, nofun, ?_, nofun⟩
        rintro _ _ ⟨⟩
        rfl
      · obtain ⟨x, y, z, rfl⟩ := List.length_eq_three.1 three
        refine ⟨_, part_some rfl, nofun, nofun, ?_⟩
        rintro _ _ _ ⟨⟩
        rfl

theorem rot_of_fits (fits : request.RotFits) : ∃ orientation,
    part "rot" Rotor.ofList request.rot = .ok orientation ∧
      (request.rot = none → orientation = none) ∧
      ∀ x y z w, request.rot = some [x, y, z, w] → orientation = some ⟨x, y, z, w⟩ := by
  cases given : request.rot with
  | none => exact ⟨none, rfl, fun _ => rfl, nofun⟩
  | some list =>
      match list, fits list given with
      | [x, y, z, w], _ =>
          refine ⟨_, part_some rfl, nofun, ?_⟩
          rintro _ _ _ _ ⟨⟩
          rfl

theorem pos_of_wrong {list : List Float} (given : request.pos = some list)
    (wrong : ¬ (list.length = 2 ∨ list.length = 3)) :
    part "pos" Point.ofList request.pos = .error (wrongCount "pos" "2 or 3" list) := by
  rw [given]
  refine part_wrong ?_
  rw [Point.ofList]
  · rintro x y rfl
    exact wrong (.inl rfl)
  · rintro x y z rfl
    exact wrong (.inr rfl)

theorem rot_of_wrong {list : List Float} (given : request.rot = some list)
    (wrong : list.length ≠ 4) :
    part "rot" Rotor.ofList request.rot = .error (wrongCount "rot" "4" list) := by
  rw [given]
  refine part_wrong ?_
  rw [Rotor.ofList]
  rintro x y z w rfl
  exact wrong rfl

theorem toGesture_of_fits (pos : request.PosFits) (rot : request.RotFits) (target : Target) :
    ∃ gesture, request.toGesture target = .ok gesture ∧ request.Asks target gesture := by
  obtain ⟨position, first, still, inPlane, inSpace⟩ := pos_of_fits pos
  obtain ⟨orientation, second, unturned, turned⟩ := rot_of_fits rot
  refine ⟨⟨target, position, orientation⟩, ?_, ⟨rfl, still, inPlane, inSpace, unturned, turned⟩⟩
  rw [toGesture, parts, first, second]
  rfl

theorem toGesture_of_pos {list : List Float} (given : request.pos = some list)
    (wrong : ¬ (list.length = 2 ∨ list.length = 3)) (target : Target) :
    request.toGesture target = .error (wrongCount "pos" "2 or 3" list) := by
  rw [toGesture, parts, pos_of_wrong given wrong]
  rfl

theorem toGesture_of_rot (pos : request.PosFits) {list : List Float}
    (given : request.rot = some list) (wrong : list.length ≠ 4) (target : Target) :
    request.toGesture target = .error (wrongCount "rot" "4" list) := by
  obtain ⟨position, first, _⟩ := pos_of_fits pos
  rw [toGesture, parts, first, rot_of_wrong given wrong]
  rfl

theorem Asks.position_eq_none (asks : request.Asks target gesture) (fits : request.PosFits) :
    gesture.position = none ↔ request.pos = none := by
  refine ⟨fun absent => ?_, asks.still⟩
  cases given : request.pos with
  | none => rfl
  | some list =>
      rcases fits list given with two | three
      · obtain ⟨x, y, rfl⟩ := List.length_eq_two.1 two
        cases absent.symm.trans (asks.inPlane x y given)
      · obtain ⟨x, y, z, rfl⟩ := List.length_eq_three.1 three
        cases absent.symm.trans (asks.inSpace x y z given)

theorem Asks.orientation_eq_none (asks : request.Asks target gesture) (fits : request.RotFits) :
    gesture.orientation = none ↔ request.rot = none := by
  refine ⟨fun absent => ?_, asks.unturned⟩
  cases given : request.rot with
  | none => rfl
  | some list =>
      match list, fits list given with
      | [x, y, z, w], _ => cases absent.symm.trans (asks.turned x y z w given)

theorem Asks.hasPart_iff (asks : request.Asks target gesture) (pos : request.PosFits)
    (rot : request.RotFits) :
    request.HasPart ↔ ¬ (gesture.position = none ∧ gesture.orientation = none) := by
  rw [asks.position_eq_none pos, asks.orientation_eq_none rot, HasPart, not_and_or]

end PoseRequest

def Target.ShownBy (target : Target) (scene : Scene) (event : Event) (value : Value) : Prop :=
  match target with
  | .source id => ∃ moved, scene.source? id = some moved ∧ moved.id = id ∧
      event = .modified moved .operator ∧ value = moved.toValue
  | .reference | .offset =>
      event = .referenceChanged scene.reference .operator ∧ value = scene.reference.report

namespace Hub

variable {hub : Hub} {gesture : Gesture}

theorem perform_of_silent (still : gesture.position = none)
    (unturned : gesture.orientation = none) : hub.perform gesture =
      ⟨.error (.invalidRequest "gesture needs a position or an orientation"), [], hub⟩ := by
  rw [perform, Scene.perform, Gesture.toCommand, still, unturned]
  rfl

theorem perform_of_missing {id : String} (meant : gesture.target = .source id)
    (missing : hub.scene.isLive id = false)
    (part : ¬ (gesture.position = none ∧ gesture.orientation = none)) :
    hub.perform gesture = ⟨.error (.sourceNotFound id), [], hub⟩ := by
  have said : (gesture.position.isNone && gesture.orientation.isNone) = false := by
    rw [Bool.eq_false_iff]
    simpa only [ne_eq, Bool.and_eq_true, Option.isNone_iff_eq_none] using part
  rw [perform, Scene.perform, Gesture.toCommand, said, meant]
  simp [bind, Except.bind, Scene.run_modify_missing missing]

theorem answer_of_made (keyed : hub.scene.WellKeyed) (reaches : gesture.Reaches hub.scene)
    (after : Hub) (moved : after.scene = hub.scene.move gesture) :
    ∃ value, gesture.target.answer [hub.scene.eventOf gesture .operator] after = .ok value ∧
      gesture.target.ShownBy after.scene (hub.scene.eventOf gesture .operator) value := by
  cases meant : gesture.target with
  | source id =>
      obtain ⟨source, there⟩ := reaches.exists_source meant
      have event := Scene.eventOf_source meant there .operator
      refine ⟨(source.apply gesture.patch).toValue, ?_, source.apply gesture.patch, ?_,
        keyed id source there, event, rfl⟩
      · rw [event]
        rfl
      · rw [moved]
        exact Scene.source?_move_self meant there
  | reference | offset =>
      refine ⟨after.scene.reference.report, rfl, ?_, rfl⟩
      rw [moved, Scene.eventOf, meant]
      rfl

theorem modifiedSource?_eventOf (scene : Scene) {gesture : Gesture} {id : String}
    (meant : gesture.target = .source id) (origin : Origin) :
    ∃ moved, scene.eventOf gesture origin = .modified moved origin ∧
      modifiedSource? [scene.eventOf gesture origin] = some moved := by
  rw [Scene.eventOf, meant]
  exact ⟨_, rfl, rfl⟩

theorem modifiedSource?_of_perform {events : List Event}
    (made : (hub.perform gesture).answer = .ok events) {id : String}
    (meant : gesture.target = .source id) : ∃ moved, modifiedSource? events = some moved := by
  rw [perform] at made
  cases performed : hub.scene.perform gesture with
  | error failure => simp [performed] at made
  | ok result =>
      obtain ⟨command, told, scene⟩ := result
      obtain ⟨_, meaning, later⟩ := ok_of_bind performed
      obtain ⟨⟨_, _⟩, ran, later⟩ := ok_of_bind later
      cases later
      simp only [performed, Except.ok.injEq] at made
      rcases hub.scene.run_gesture meaning .operator with ⟨_, did⟩ | ⟨_, failure, failed⟩
      · rw [did] at ran
        cases ran
        obtain ⟨moved, _, found⟩ := modifiedSource?_eventOf hub.scene meant .operator
        exact ⟨moved, made ▸ found⟩
      · rw [failed] at ran
        cases ran

end Hub

namespace Api

def answered (outcome : Outcome Value) : Served :=
  ⟨ofAnswer outcome.answer, outcome.events, outcome.hub⟩

end Api

def Endpoint.moves? : Endpoint → Option Target
  | .moveSource piece => (percentDecode piece).map .source
  | .moveReference => some .reference
  | .moveOffset => some .offset
  | .health | .scene | .sources | .source _ | .viewers => none

def Served.Reports (served : Served) (status : Nat) (failure : Failure) : Prop :=
  served.response.status = status ∧ served.response.body = failure.toValue.text

/-- What a gesture does that is made: its target is moved and nothing else, one message waits that
carries just the gesture, and one event is told. -/
structure Gesture.Made (gesture : Gesture) (hub : Hub) (served : Served) : Prop where
  moves : Scene.OnlyMoves gesture hub.scene served.hub.scene
  scene : served.hub.scene = hub.scene.move gesture
  queued : ∃ command, gesture.toCommand = .ok command ∧
    Message.encode [command] = (Value.list gesture.items).text ∧
    served.hub = { hub with
      scene := served.hub.scene
      outbox := { hub.outbox with
        waiting := hub.outbox.waiting ++ [Message.encode [command]] } }
  told : ∃ event value, served.events = [event] ∧
    event = hub.scene.eventOf gesture .operator ∧ event.origin? = some .operator ∧
    served.response.body = value.text ∧ gesture.target.ShownBy served.hub.scene event value

/-- What comes of a request.  It is made and told once, or it is refused for the first of its faults
and nothing happens. -/
structure Moved (hub : Hub) (target : Target) (request : PoseRequest) (served : Served) : Prop where
  ok_iff : served.response.status = 200 ↔ request.Granted target hub.scene
  made : request.Granted target hub.scene →
    ∃ gesture, request.Asks target gesture ∧ gesture.Made hub served
  kept : ¬ request.Granted target hub.scene → served.events = [] ∧ served.hub = hub
  pos : ∀ list, request.pos = some list → ¬ (list.length = 2 ∨ list.length = 3) →
    served.Reports 400 (PoseRequest.wrongCount "pos" "2 or 3" list)
  rot : request.PosFits → ∀ list, request.rot = some list → list.length ≠ 4 →
    served.Reports 400 (PoseRequest.wrongCount "rot" "4" list)
  empty : ¬ request.HasPart →
    served.Reports 400 (.invalidRequest "gesture needs a position or an orientation")
  missing : request.PosFits → request.RotFits → request.HasPart →
    ∀ id, target = .source id → hub.scene.isLive id = false →
      served.Reports 404 (.sourceNotFound id)

theorem Moved.exposed {hub : Hub} {target : Target} {request : PoseRequest} {served : Served}
    (moved : Moved hub target request served) : Moved hub target request (Api.expose served) where
  ok_iff := moved.ok_iff
  made granted := by
    obtain ⟨gesture, asks, made⟩ := moved.made granted
    exact ⟨gesture, asks, made.moves, made.scene, made.queued, made.told⟩
  kept := moved.kept
  pos := moved.pos
  rot := moved.rot
  empty := moved.empty
  missing := moved.missing

namespace PoseRequest

variable {request : PoseRequest} {target : Target} {scene : Scene}

theorem not_granted (refused : ¬ request.Granted target scene) :
    (∃ list, request.pos = some list ∧ ¬ (list.length = 2 ∨ list.length = 3)) ∨
      (request.PosFits ∧ ∃ list, request.rot = some list ∧ list.length ≠ 4) ∨
      ¬ request.HasPart ∨
      (request.PosFits ∧ request.RotFits ∧ request.HasPart ∧
        ∃ id, target = .source id ∧ scene.isLive id = false) := by
  by_cases pos : request.PosFits
  · refine .inr ?_
    by_cases rot : request.RotFits
    · refine .inr ?_
      by_cases part : request.HasPart
      · refine .inr ⟨pos, rot, part, ?_⟩
        by_contra there
        refine refused ⟨pos, rot, part, fun id meant => ?_⟩
        exact Bool.not_eq_false _ ▸ fun missing => there ⟨id, meant, missing⟩
      · exact .inl part
    · simp only [RotFits, not_forall] at rot
      obtain ⟨list, given, wrong⟩ := rot
      exact .inl ⟨pos, list, given, wrong⟩
  · simp only [PosFits, not_forall] at pos
    obtain ⟨list, given, wrong⟩ := pos
    exact .inl ⟨list, given, wrong⟩

theorem fits_of_not_hasPart (silent : ¬ request.HasPart) : request.PosFits ∧ request.RotFits := by
  simp only [HasPart, ne_eq, not_or, Classical.not_not] at silent
  constructor
  · intro list given
    cases silent.1.symm.trans given
  · intro list given
    cases silent.2.symm.trans given

end PoseRequest

namespace Hub

variable {hub : Hub} {target : Target} {request : PoseRequest}

theorem move_of_wrong {failure : Failure} (wrong : request.toGesture target = .error failure) :
    hub.move target request = ⟨.error failure, [], hub⟩ := by
  rw [move, wrong]

theorem move_of_empty (empty : ¬ request.HasPart) : hub.move target request =
    ⟨.error (.invalidRequest "gesture needs a position or an orientation"), [], hub⟩ := by
  obtain ⟨pos, rot⟩ := PoseRequest.fits_of_not_hasPart empty
  obtain ⟨gesture, asked, asks⟩ := PoseRequest.toGesture_of_fits pos rot target
  obtain ⟨still, unturned⟩ := Classical.not_not.1 (mt (asks.hasPart_iff pos rot).2 empty)
  rw [move, asked]
  dsimp only
  rw [perform_of_silent still unturned]
  rfl

theorem move_of_missing (pos : request.PosFits) (rot : request.RotFits) (part : request.HasPart)
    {id : String} (meant : target = .source id) (missing : hub.scene.isLive id = false) :
    hub.move target request = ⟨.error (.sourceNotFound id), [], hub⟩ := by
  obtain ⟨gesture, asked, asks⟩ := PoseRequest.toGesture_of_fits pos rot target
  rw [move, asked]
  dsimp only
  rw [perform_of_missing (asks.target.trans meant) missing ((asks.hasPart_iff pos rot).1 part)]
  rfl

theorem move_of_not_granted (hub : Hub) (refused : ¬ request.Granted target hub.scene) :
    ∃ failure, hub.move target request = ⟨.error failure, [], hub⟩ := by
  rcases PoseRequest.not_granted refused with ⟨list, given, wrong⟩ | ⟨pos, list, given, wrong⟩ |
    empty | ⟨pos, rot, part, id, meant, missing⟩
  · exact ⟨_, move_of_wrong (PoseRequest.toGesture_of_pos given wrong target)⟩
  · exact ⟨_, move_of_wrong (PoseRequest.toGesture_of_rot pos given wrong target)⟩
  · exact ⟨_, move_of_empty empty⟩
  · exact ⟨_, move_of_missing pos rot part meant missing⟩

theorem move_of_granted (keyed : hub.scene.WellKeyed) (opened : hub.outbox.isOpen = true)
    (granted : request.Granted target hub.scene) : ∃ gesture command value,
      request.Asks target gesture ∧ gesture.toCommand = .ok command ∧
      gesture.Reaches hub.scene ∧
      hub.move target request = ⟨.ok value, [hub.scene.eventOf gesture .operator],
        { hub with
          scene := hub.scene.move gesture
          outbox := { hub.outbox with
            waiting := hub.outbox.waiting ++ [Message.encode [command]] } }⟩ ∧
      gesture.target.ShownBy (hub.scene.move gesture) (hub.scene.eventOf gesture .operator)
        value := by
  obtain ⟨gesture, asked, asks⟩ := PoseRequest.toGesture_of_fits granted.pos granted.rot target
  have accepted : ¬ gesture.Refused hub.scene := by
    rintro (silent | ⟨id, meant, missing⟩)
    · exact (asks.hasPart_iff granted.pos granted.rot).1 granted.part silent
    · rw [granted.isThere id (asks.target.symm.trans meant)] at missing
      cases missing
  obtain ⟨command, meaning, reaches, made⟩ := perform_of_accepted opened accepted
  -- The answer is taken from the hub as the gesture leaves it.
  have moved : (hub.perform gesture).hub.scene = hub.scene.move gesture := by rw [made]
  obtain ⟨value, answered, shown⟩ := answer_of_made keyed reaches _ moved
  refine ⟨gesture, command, value, asks, meaning, reaches, ?_, ?_⟩
  · rw [move, asked]
    dsimp only
    rw [made] at answered ⊢
    simp only [bind, Except.bind]
    rw [← asks.target, answered]
  · rwa [made] at shown

end Hub

theorem Scene.origin?_eventOf (scene : Scene) (gesture : Gesture) (origin : Origin) :
    (scene.eventOf gesture origin).origin? = some origin := by
  rw [eventOf]
  cases gesture.target <;> rfl

namespace Api

variable {hub : Hub} {target : Target} {body : PoseRequest}

theorem moved_answered (keyed : hub.scene.WellKeyed) (opened : hub.outbox.isOpen = true) :
    Moved hub target body (answered (hub.move target body)) where
  ok_iff := by
    constructor
    · intro ok
      by_contra refused
      obtain ⟨failure, kept⟩ := hub.move_of_not_granted refused
      rw [kept] at ok
      exact failure.status_ne_ok ok
    · intro granted
      obtain ⟨_, _, _, _, _, _, made, _⟩ := Hub.move_of_granted keyed opened granted
      rw [made]
      rfl
  made granted := by
    obtain ⟨gesture, command, value, asks, meaning, reaches, made, shown⟩ :=
      Hub.move_of_granted keyed opened granted
    rw [made]
    refine ⟨gesture, asks, Scene.onlyMoves_move reaches, rfl, ?_, ?_⟩
    · refine ⟨command, meaning, ?_, rfl⟩
      rw [Message.encode, Message.toValue, Gesture.items_toCommand meaning]
    · exact ⟨_, value, rfl, rfl, Scene.origin?_eventOf .., rfl, shown⟩
  kept refused := by
    obtain ⟨failure, kept⟩ := hub.move_of_not_granted refused
    rw [kept]
    exact ⟨rfl, rfl⟩
  pos list given wrong := by
    rw [Hub.move_of_wrong (PoseRequest.toGesture_of_pos given wrong target)]
    exact ⟨rfl, rfl⟩
  rot pos list given wrong := by
    rw [Hub.move_of_wrong (PoseRequest.toGesture_of_rot pos given wrong target)]
    exact ⟨rfl, rfl⟩
  empty silent := by
    rw [Hub.move_of_empty silent]
    exact ⟨rfl, rfl⟩
  missing pos rot part id meant missing := by
    rw [Hub.move_of_missing pos rot part meant missing]
    exact ⟨rfl, rfl⟩

theorem serve_endpoint (hub : Hub) (now : String) {request : Request} {endpoint : Endpoint}
    (plain : request.method ≠ "OPTIONS" ∧ request.method ≠ "HEAD")
    (asked : Endpoint.ofTarget request.target = some endpoint)
    (allowed : request.method ∈ endpoint.methods) :
    serve hub now request = expose (serveEndpoint hub now request endpoint) := by
  have fits : (!endpoint.methods.contains request.method) = false := by simpa using allowed
  rw [serve, if_neg plain.1, asked]
  dsimp only
  rw [fits, if_neg plain.2]
  rfl

theorem serve_of_moves (hub : Hub) (now : String) {request : Request}
    (method : request.method = "PUT") {endpoint : Endpoint}
    (asked : Endpoint.ofTarget request.target = some endpoint)
    (moves : endpoint.moves? = some target) :
    serve hub now request = expose (serveMove hub (.ok target) request) := by
  have plain : request.method ≠ "OPTIONS" ∧ request.method ≠ "HEAD" := by
    rw [method]
    decide
  cases endpoint with
  | moveSource piece =>
      obtain ⟨id, decoded, rfl⟩ := Option.map_eq_some_iff.1 moves
      rw [serve_endpoint hub now plain asked (by simp [method, Endpoint.methods]), serveEndpoint,
        idOf, decoded]
      rfl
  | moveReference =>
      cases moves
      exact serve_endpoint hub now plain asked (by simp [method, Endpoint.methods])
  | moveOffset =>
      cases moves
      exact serve_endpoint hub now plain asked (by simp [method, Endpoint.methods])
  | _ => cases moves

theorem serveMove_of_read (hub : Hub) {request : Request} (read : readBody request = .ok body) :
    serveMove hub (.ok target) request = answered (hub.move target body) := by
  rw [serveMove, read]
  rfl

theorem serve_eq (hub : Hub) (now : String) {request : Request} (method : request.method = "PUT")
    {endpoint : Endpoint} (asked : Endpoint.ofTarget request.target = some endpoint)
    (moves : endpoint.moves? = some target) (read : readBody request = .ok body) :
    serve hub now request = expose (answered (hub.move target body)) := by
  rw [serve_of_moves hub now method asked moves, serveMove_of_read hub read]

/-- A request to move something is granted exactly if it has no fault.  Then one message waits, one
event is told and the target is where it was asked to be; otherwise nothing happens.  An answer is
never refused after its gesture was made. -/
theorem serve_moved (hub : Hub) (reachable : hub.scene.Reachable)
    (opened : hub.outbox.isOpen = true) (target : Target) (body : PoseRequest) :
    Moved hub target body (answered (hub.move target body)) ∧
      (∀ (now : String) (request : Request), request.method = "PUT" →
        (Endpoint.ofTarget request.target).bind Endpoint.moves? = some target →
        readBody request = .ok body → Moved hub target body (serve hub now request)) ∧
      ∀ gesture events, (hub.perform gesture).answer = .ok events →
        ∀ id, gesture.target = .source id → ∃ moved, modifiedSource? events = some moved := by
  have moved : Moved hub target body (answered (hub.move target body)) :=
    moved_answered reachable.wellKeyed opened
  refine ⟨moved, fun now request method asked read => ?_, fun gesture events made id meant => ?_⟩
  · obtain ⟨endpoint, found, moves⟩ := Option.bind_eq_some_iff.1 asked
    rw [serve_eq hub now method found moves read]
    exact moved.exposed
  · exact Hub.modifiedSource?_of_perform made meant

theorem serve_moved_in_plane :
    let scene : Scene := { Scene.initial with
      sources := Table.empty.insert "a" (Source.initial "a") }
    let hub : Hub := { Hub.initial with scene }
    let request : Request := ⟨"PUT", "/api/v1/sources/%61/pose",
      [("content-type", "application/json")], "\x7b\"pos\":[0.5,-1]\x7d".toUTF8.toList⟩
    let body : PoseRequest := { pos := some [0.5, -1.0] }
    let gesture : Gesture := ⟨.source "a", some ⟨0.5, -1.0, 0.0⟩, none⟩
    scene.Reachable ∧ hub.outbox.isOpen = true ∧ request.method = "PUT" ∧
      (Endpoint.ofTarget request.target).bind Endpoint.moves? = some (.source "a") ∧
      readBody request = .ok body ∧ body.Granted (.source "a") scene ∧
      Moved hub (.source "a") body (serve hub "" request) ∧
      (serve hub "" request).hub.scene.source? "a" =
        some { Source.initial "a" with position := ⟨0.5, -1.0, 0.0⟩ } ∧
      ¬ body.Granted (.source "b") scene ∧
      Moved hub (.source "b") body (answered (hub.move (.source "b") body)) ∧
      (hub.perform gesture).answer = .ok [scene.eventOf gesture .operator] ∧
      ∃ moved, modifiedSource? [scene.eventOf gesture .operator] = some moved := by
  intro scene hub request body gesture
  have reachable : scene.Reachable :=
    @Scene.Reachable.run _ _ (.create [("a", {})]) .renderer
      [.created (Source.initial "a") .renderer] .initial rfl
  have asked : (Endpoint.ofTarget request.target).bind Endpoint.moves? = some (.source "a") := by
    decide +kernel
  have read : readBody request = .ok body := by decide +kernel
  have granted : body.Granted (.source "a") scene := by
    refine ⟨?_, nofun, .inl nofun, ?_⟩
    · rintro list ⟨⟩
      exact .inl rfl
    · rintro id ⟨⟩
      decide
  have missing : ¬ body.Granted (.source "b") scene := by
    intro granted
    have live : scene.isLive "b" = true := granted.isThere "b" rfl
    revert live
    decide
  have made : (hub.perform gesture).answer = .ok [scene.eventOf gesture .operator] := by
    decide +kernel
  obtain ⟨_, served, answers⟩ := serve_moved hub reachable rfl (.source "a") body
  have moved := served "" request rfl asked read
  obtain ⟨asking, asks, does⟩ := moved.made granted
  obtain ⟨source, there, placed⟩ := does.moves.target "a" asks.target
  have held : source = Source.initial "a" := by
    have known : scene.source? "a" = some (Source.initial "a") := by decide
    exact Option.some.inj (there.symm.trans known)
  rw [held, asks.inPlane 0.5 (-1.0) rfl, asks.unturned rfl] at placed
  exact ⟨reachable, rfl, rfl, asked, read, granted, moved, placed, missing,
    (serve_moved hub reachable rfl (.source "b") body).1, made,
    answers gesture _ made "a" rfl⟩

end Api

end SoundScene
