import SoundScene.Proofs.Depth
import SoundScene.Proofs.PoseText
import SoundScene.Proofs.Requests

/-!
Two ways to move something.  A position and an orientation may come in the body of a request, as two
lists whose lengths are looked at later, or in a message of the renderer, as attributes that are
read at once.  Both are accepted for the same values and then do the same
(`Api.serve_handle_alike`).
-/

namespace SoundScene

open Json Http

theorem mapM_mapError {ε δ α β : Type} (read : α → Except ε β) (view : ε → δ) (value : Option α) :
    value.mapM (fun x => (read x).mapError view) = (value.mapM read).mapError view := by
  cases value with
  | none => rfl
  | some x =>
      rw [Option.mapM_some, Option.mapM_some]
      cases read x <;> rfl

theorem map_both {ε α β γ δ : Type} (first : Except ε α) (second : Except ε β)
    (make : α → β → γ) (view : γ → δ) :
    (do
      let x ← first
      let y ← second
      pure (make x y)).map view = (do
      let x ← first
      let y ← second
      pure (view (make x y))) := by
  cases first with
  | error reason => rfl
  | ok x => cases second <;> rfl

theorem isNone_of_mapM {ε α β : Type} {read : α → Except ε β} {value : Option α}
    {found : Option β} (ran : value.mapM read = .ok found) : found.isNone = value.isNone := by
  cases value with
  | none =>
      cases ran
      rfl
  | some x =>
      obtain ⟨y, _, rfl⟩ := ok_of_map ran
      rfl

namespace Message

theorem ofValue_modify (id : String) (members : List (String × Value)) :
    ofValue (.list [.string "mod-src", .object [(id, .object members)]]) =
      (Source.Patch.decode members).map fun patch => [.modify [(id, patch)]] := by
  cases decoded : Source.Patch.decode members with
  | error failure =>
      simp [ofValue, ofItems, Command.decode, Command.decodeBatch, Command.expectMembers, decoded,
        bind, Except.bind, Except.map]
  | ok patch =>
      simp [ofValue, ofItems, Command.decode, Command.decodeBatch, Command.expectMembers, decoded,
        bind, Except.bind, Except.map, pure, Except.pure]

theorem ofValue_state (members : List (String × Value)) :
    ofValue (.list [.string "state", .object members]) =
      (members.mapM fun (name, value) => StateEntry.decode name value).map fun entries =>
        [.state entries] := by
  cases decoded : (List.mapM _ members : Except Failure (List StateEntry)) with
  | error failure =>
      simp [ofValue, ofItems, Command.decode, Command.expectMembers, decoded,
        bind, Except.bind, Except.map]
  | ok patch =>
      simp [ofValue, ofItems, Command.decode, Command.expectMembers, decoded,
        bind, Except.bind, Except.map, pure, Except.pure]

end Message

theorem Source.Patch.decode_members (pose : PoseValues) :
    decode (pose.members "pos" "rot") = (do
      let position ← (pose.pos.mapM Point.ofValue).mapError (Failure.ofMismatch "pos")
      let orientation ← (pose.rot.mapM Rotor.ofValue).mapError (Failure.ofMismatch "rot")
      pure { position, orientation }) := by
  rw [← mapM_mapError, ← mapM_mapError]
  refine pose.foldlM_members (fun position orientation => ({ position, orientation } : Patch)) ?_ ?_
  · intro value
    rw [addMember, if_pos rfl]
    cases Point.ofValue value <;> rfl
  · intro position value
    have other : ("rot" : String) ≠ "pos" := by decide
    rw [addMember, if_neg other, if_pos rfl]
    cases Rotor.ofValue value <;> rfl

theorem StateEntry.mapM_members (pose : PoseValues) {posName rotName : String}
    {ofPos : Position → StateEntry} {ofRot : Orientation → StateEntry}
    (onPos : ∀ value, read posName value = (Point.ofValue value).map ofPos)
    (onRot : ∀ value, read rotName value = (Rotor.ofValue value).map ofRot) :
    (pose.members posName rotName).mapM (fun (name, value) => decode name value) = (do
      let position ← (pose.pos.mapM Point.ofValue).mapError (Failure.ofMismatch posName)
      let orientation ← (pose.rot.mapM Rotor.ofValue).mapError (Failure.ofMismatch rotName)
      pure (position.toList.map ofPos ++ orientation.toList.map ofRot)) := by
  rw [← mapM_mapError, ← mapM_mapError]
  refine pose.mapM_members ?_ ?_
  · intro value
    change (read posName value).mapError _ = _
    rw [onPos]
    cases Point.ofValue value <;> rfl
  · intro value
    change (read rotName value).mapError _ = _
    rw [onRot]
    cases Rotor.ofValue value <;> rfl

namespace PoseValues

def message (pose : PoseValues) : Target → Value
  | .source id => .list [.string "mod-src", .object [(id, .object (pose.members "pos" "rot"))]]
  | .reference => .list [.string "state", .object (pose.members "ref-pos" "ref-rot")]
  | .offset => .list [.string "state", .object (pose.members "ref-pos-offset" "ref-rot-offset")]

theorem said_of_gesture {pose : PoseValues} {target : Target} {gesture : Gesture}
    (part : pose.pos ≠ none ∨ pose.rot ≠ none) (asked : pose.gesture target = .ok gesture) :
    ¬ (gesture.position.isNone && gesture.orientation.isNone) = true := by
  obtain ⟨position, readPos, asked⟩ := ok_of_bind asked
  obtain ⟨orientation, readRot, asked⟩ := ok_of_bind asked
  cases asked
  rw [isNone_of_mapM readPos, isNone_of_mapM readRot, Bool.and_eq_true,
    Option.isNone_iff_eq_none, Option.isNone_iff_eq_none, not_and_or]
  exact part

theorem made_iff {pose : PoseValues} (part : pose.pos ≠ none ∨ pose.rot ≠ none) {target : Target}
    {make : Option Position → Option Orientation → Command} {first second : Mismatch → Failure}
    (means : ∀ position orientation, ¬ (position.isNone && orientation.isNone) = true →
      Gesture.toCommand ⟨target, position, orientation⟩ = .ok (make position orientation))
    (commands : List Command) :
    (do
      let position ← (pose.pos.mapM Point.ofValue).mapError first
      let orientation ← (pose.rot.mapM Rotor.ofValue).mapError second
      pure [make position orientation]) = .ok commands ↔
      ∃ gesture command, pose.gesture target = .ok gesture ∧ gesture.toCommand = .ok command ∧
        commands = [command] := by
  rw [gesture]
  cases readPos : pose.pos.mapM Point.ofValue with
  | error mismatch => exact iff_of_false nofun fun ⟨_, _, read, _⟩ => nomatch read
  | ok position =>
      cases readRot : pose.rot.mapM Rotor.ofValue with
      | error mismatch => exact iff_of_false nofun fun ⟨_, _, read, _⟩ => nomatch read
      | ok orientation =>
          have asked : pose.gesture target = .ok ⟨target, position, orientation⟩ := by
            rw [gesture, readPos, readRot]
            rfl
          have made := means position orientation (said_of_gesture part asked)
          constructor
          · rintro ⟨⟩
            exact ⟨_, _, rfl, made, rfl⟩
          · rintro ⟨_, command, ⟨⟩, meant, rfl⟩
            cases made.symm.trans meant
            rfl

theorem ofValue_message_iff {pose : PoseValues} (part : pose.pos ≠ none ∨ pose.rot ≠ none)
    (target : Target) (commands : List Command) :
    Message.ofValue (pose.message target) = .ok commands ↔
      ∃ gesture command, pose.gesture target = .ok gesture ∧ gesture.toCommand = .ok command ∧
        commands = [command] := by
  cases target with
  | source id =>
      rw [message, Message.ofValue_modify, Source.Patch.decode_members, map_both]
      refine made_iff part (fun position orientation said => ?_) commands
      exact if_neg said
  | reference =>
      rw [message, Message.ofValue_state,
        StateEntry.mapM_members pose (fun _ => rfl) fun _ => rfl, map_both]
      refine made_iff part (fun position orientation said => ?_) commands
      exact if_neg said
  | offset =>
      rw [message, Message.ofValue_state,
        StateEntry.mapM_members pose (fun _ => rfl) fun _ => rfl, map_both]
      refine made_iff part (fun position orientation said => ?_) commands
      exact if_neg said

variable {pose : PoseValues} {target : Target} {depth : Nat}

theorem fits_members (fits : ∀ value ∈ pose.pos.toList ++ pose.rot.toList, Fits depth value)
    {posName rotName : String} (less : posName < rotName) :
    Fits (depth + 1) (.object (pose.members posName rotName)) := by
  have ascending : [posName, rotName].Pairwise (· < ·) := List.pairwise_pair.2 less
  refine .object (Keyed.ofList_of_ascending
    (ascending_of_names ascending (pose.names_members posName rotName))) ?_
  rintro ⟨key, value⟩ listed
  exact fits value (mem_members listed).2

theorem fits_message (fits : ∀ value ∈ pose.pos.toList ++ pose.rot.toList, Fits depth value) :
    Fits (depth + 3) (pose.message target) := by
  have pair {name : String} {payload : Value} (inner : Fits (depth + 2) payload) :
      Fits (depth + 3) (.list [.string name, payload]) := by
    apply Fits.list
    intro item member
    simp only [List.mem_cons, List.not_mem_nil, or_false] at member
    rcases member with rfl | rfl
    · exact .string name
    · exact inner
  cases target with
  | source id =>
      have less : ("pos" : String) < "rot" := by decide
      apply pair
      refine .object (Keyed.ofList_of_ascending (List.pairwise_singleton ..)) ?_
      intro member present
      rw [List.mem_singleton.1 present]
      exact fits_members fits less
  | reference =>
      have less : ("ref-pos" : String) < "ref-rot" := by decide
      exact pair ((fits_members fits less).mono (by omega))
  | offset =>
      have less : ("ref-pos-offset" : String) < "ref-rot-offset" := by decide
      exact pair ((fits_members fits less).mono (by omega))

theorem toFloats_of_gesture {gesture : Gesture} (asked : pose.gesture target = .ok gesture) :
    ∀ value ∈ pose.pos.toList ++ pose.rot.toList,
      ∃ xs, value.toFloats = .ok xs ∧ xs.length ≤ 4 := by
  obtain ⟨position, readPos, asked⟩ := ok_of_bind asked
  obtain ⟨orientation, readRot, _⟩ := ok_of_bind asked
  have few {α : Type} {ofList : List Float → Except Mismatch α}
      (short : ∀ xs x, ofList xs = .ok x → xs.length ≤ 4) {value : Option Value} {found : Option α}
      (read : value.mapM (fun value => value.toFloats >>= ofList) = .ok found) :
      ∀ held ∈ value.toList, ∃ xs, held.toFloats = .ok xs ∧ xs.length ≤ 4 := by
    intro held member
    rw [Option.mem_toList.1 member] at read
    obtain ⟨x, read, _⟩ := ok_of_map read
    obtain ⟨xs, listed, made⟩ := ok_of_bind read
    exact ⟨xs, listed, short xs x made⟩
  intro value member
  rcases List.mem_append.1 member with member | member
  · refine few (fun xs x made => ?_) readPos value member
    rw [Point.ofList.eq_def] at made
    split at made <;> simp_all
  · refine few (fun xs x made => ?_) readRot value member
    rw [Rotor.ofList.eq_def] at made
    split at made <;> simp_all

theorem part_ok_iff {α : Type} (name : String) {ofList : List Float → Except Mismatch α}
    {value : Option Value} (found : Option α) :
    value.mapM (fun value => value.toFloats >>= ofList) = .ok found ↔
      ∃ list, value.mapM Value.toFloats = .ok list ∧
        PoseRequest.part name ofList list = .ok found := by
  cases value with
  | none =>
      constructor
      · rintro ⟨⟩
        exact ⟨none, rfl, rfl⟩
      · rintro ⟨_, ⟨⟩, ⟨⟩⟩
        rfl
  | some value =>
      rw [Option.mapM_some, Option.mapM_some]
      cases value.toFloats with
      | error mismatch => exact iff_of_false nofun fun ⟨_, read, _⟩ => nomatch read
      | ok xs =>
          change (ofList xs).map some = .ok found ↔ _
          constructor
          · intro read
            obtain ⟨x, made, rfl⟩ := ok_of_map read
            exact ⟨some xs, rfl, PoseRequest.part_some made⟩
          · rintro ⟨_, ⟨⟩, read⟩
            exact ok_of_mapError read

theorem gesture_ok_iff (gesture : Gesture) : pose.gesture target = .ok gesture ↔
    ∃ request, pose.lists = .ok request ∧ request.toGesture target = .ok gesture := by
  constructor
  · intro asked
    obtain ⟨position, readPos, asked⟩ := ok_of_bind asked
    obtain ⟨orientation, readRot, asked⟩ := ok_of_bind asked
    cases asked
    obtain ⟨pos, listedPos, madePos⟩ := (part_ok_iff "pos" position).1 readPos
    obtain ⟨rot, listedRot, madeRot⟩ := (part_ok_iff "rot" orientation).1 readRot
    refine ⟨⟨pos, rot⟩, ?_, ?_⟩
    · rw [lists, listedPos, listedRot]
      rfl
    · rw [PoseRequest.toGesture, PoseRequest.parts, madePos, madeRot]
      rfl
  · rintro ⟨request, listed, asked⟩
    obtain ⟨pos, listedPos, listed⟩ := ok_of_bind listed
    obtain ⟨rot, listedRot, listed⟩ := ok_of_bind listed
    cases listed
    obtain ⟨⟨position, orientation⟩, parts, asked⟩ := ok_of_bind asked
    obtain ⟨_, madePos, parts⟩ := ok_of_bind parts
    obtain ⟨_, madeRot, parts⟩ := ok_of_bind parts
    cases parts
    cases asked
    have readPos := (part_ok_iff "pos" position).2 ⟨pos, listedPos, madePos⟩
    have readRot := (part_ok_iff "rot" orientation).2 ⟨rot, listedRot, madeRot⟩
    change pose.pos.mapM Point.ofValue = .ok position at readPos
    change pose.rot.mapM Rotor.ofValue = .ok orientation at readRot
    rw [gesture, readPos, readRot]
    rfl

theorem fits_of_gesture {gesture : Gesture} (sent : pose.Sent)
    (asked : pose.gesture target = .ok gesture) :
    ∀ value ∈ pose.pos.toList ++ pose.rot.toList, Fits 1 value := by
  obtain ⟨depth, fits⟩ := sent.fits
  intro value member
  obtain ⟨xs, listed, _⟩ := toFloats_of_gesture asked value member
  cases value with
  | list items =>
      refine .list fun item present => ?_
      obtain ⟨x, number⟩ := (ok_of_mapM listed).2 item present
      cases fits _ member with
      | list every =>
          cases every item present with
          | number plain => exact .number plain
          | _ => cases number
  | _ => simp [Value.toFloats] at listed

theorem decode_message_iff (sent : pose.Sent) (part : pose.pos ≠ none ∨ pose.rot ≠ none)
    (target : Target) (commands : List Command) :
    Message.decode (pose.message target).text = .ok commands ↔
      ∃ gesture command, pose.gesture target = .ok gesture ∧ gesture.toCommand = .ok command ∧
        commands = [command] := by
  rw [← ofValue_message_iff part target commands]
  constructor
  · intro decoded
    obtain ⟨depth, fits⟩ := sent.fits
    rw [Message.decode] at decoded
    split at decoded
    next value parsed =>
      rw [eq_of_parse_text (fits_message fits) parsed] at decoded
      exact decoded
    next => cases decoded
  · intro meant
    obtain ⟨gesture, _, asked, _⟩ := (ofValue_message_iff part target commands).1 meant
    have fits : Fits depthLimit (pose.message target) :=
      (fits_message (fits_of_gesture sent asked)).mono (by decide)
    rw [Message.decode, parse_text fits]
    exact meant

end PoseValues

namespace Hub

variable {hub : Hub} {target : Target} {body : PoseRequest} {gesture : Gesture}

theorem move_of_refused (asked : body.toGesture target = .ok gesture)
    (refused : gesture.Refused hub.scene) :
    ∃ failure, hub.move target body = ⟨.error failure, [], hub⟩ := by
  obtain ⟨failure, performed⟩ := perform_of_refused refused
  refine ⟨failure, ?_⟩
  rw [move, asked]
  dsimp only
  rw [performed]
  rfl

theorem move_of_reaches {command : Command} (asked : body.toGesture target = .ok gesture)
    (meant : gesture.toCommand = .ok command) (reaches : gesture.Reaches hub.scene) :
    ∃ value outbox, hub.move target body = ⟨.ok value, [hub.scene.eventOf gesture .operator],
      { hub with scene := hub.scene.move gesture, outbox }⟩ := by
  obtain ⟨outbox, performed⟩ := perform_of_reaches meant reaches
  have aimed : gesture.target = target := by
    obtain ⟨_, _, asked⟩ := ok_of_bind asked
    cases asked
    rfl
  rw [move, asked]
  dsimp only
  rw [performed]
  cases target with
  | source id =>
      obtain ⟨moved, _, found⟩ := modifiedSource?_eventOf hub.scene aimed .operator
      refine ⟨moved.report.toValue, outbox, ?_⟩
      simp [bind, Except.bind, Target.answer, found]
  | reference => exact ⟨_, outbox, rfl⟩
  | offset => exact ⟨_, outbox, rfl⟩

end Hub

namespace Api

theorem status_of_readBody {request : Request} {response : Response}
    (refused : readBody request = .error response) : response.status ≠ 200 := by
  rw [readBody] at refused
  split at refused
  · cases refused
    decide
  split at refused
  · cases refused
    decide
  · cases read : PoseRequest.read.whole (Cursor.ofBytes request.body) with
    | ok body =>
        rw [read] at refused
        cases refused
    | error fault =>
        rw [read] at refused
        cases refused
        rw [bodyFault]
        split <;> simp [Response.ofText]

theorem serveMove_of_refused {hub : Hub} {target : Target} {request : Request}
    (refused : ∀ body, readBody request = .ok body →
      ∃ failure, hub.move target body = ⟨.error failure, [], hub⟩) :
    ∃ response, response.status ≠ 200 ∧
      serveMove hub (.ok target) request = look hub response := by
  cases read : readBody request with
  | error response =>
      refine ⟨response, status_of_readBody read, ?_⟩
      rw [serveMove, read]
      rfl
  | ok body =>
      obtain ⟨failure, kept⟩ := refused body read
      refine ⟨ofAnswer (.error failure), failure.status_ne_ok, ?_⟩
      rw [serveMove_of_read hub read, kept]
      rfl

/-- A request and a message that ask for the same move.  If they are accepted, they leave the same
scene and tell the same event but for whose it is; otherwise both change and tell nothing. -/
structure Alike (hub : Hub) (served : Served) (handled : Outcome Nat) : Prop where
  accepted_iff : served.response.status = 200 ↔ ∃ count, handled.answer = .ok count
  accepted : served.response.status = 200 → served.hub.scene = handled.hub.scene ∧
    ∃ event, event.origin? = some .operator ∧ served.events = [event] ∧
      handled.events = [event.onAccountOf .renderer]
  refused : served.response.status ≠ 200 → served.hub = hub ∧ served.events = [] ∧
    handled.hub = hub ∧ handled.events = []

theorem Alike.of_refused {hub : Hub} {target : Target} {request : Request} {failure : Failure}
    (refused : ∀ body, readBody request = .ok body →
      ∃ failure, hub.move target body = ⟨.error failure, [], hub⟩) :
    Alike hub (expose (serveMove hub (.ok target) request)) ⟨.error failure, [], hub⟩ := by
  obtain ⟨response, status, served⟩ := serveMove_of_refused refused
  rw [served]
  exact ⟨iff_of_false status nofun, fun ok => absurd ok status, fun _ => ⟨rfl, rfl, rfl, rfl⟩⟩

/-- A request to move something and the message of the renderer with the same values do the same,
whatever the values are. -/
theorem serve_handle_alike (hub : Hub) (now : String) (request : Request) (target : Target)
    (pose : PoseValues) (sent : pose.Sent) (part : pose.pos ≠ none ∨ pose.rot ≠ none)
    (method : request.method = "PUT")
    (asked : (Endpoint.ofTarget request.target).bind Endpoint.moves? = some target)
    (json : announcesJson request.headers = true)
    (body : request.body = Text.bytes pose.body.text) :
    Alike hub (serve hub now request) (hub.handle (pose.message target).text) := by
  obtain ⟨endpoint, found, moves⟩ := Option.bind_eq_some_iff.1 asked
  have readBody_iff := readBody_ok_iff json sent body
  have decode_iff := PoseValues.decode_message_iff sent part target
  rw [serve_of_moves hub now method found moves]
  cases meant : pose.gesture target with
  | error mismatch =>
      have unheard : ∃ failure, Message.decode (pose.message target).text = .error failure := by
        cases decoded : Message.decode (pose.message target).text with
        | error failure => exact ⟨failure, rfl⟩
        | ok commands =>
            obtain ⟨_, _, asked, _⟩ := (decode_iff commands).1 decoded
            cases meant.symm.trans asked
      obtain ⟨failure, unheard⟩ := unheard
      rw [Hub.handle, unheard]
      refine Alike.of_refused fun found read => ?_
      cases wrong : found.toGesture target with
      | error failure => exact ⟨failure, Hub.move_of_wrong wrong⟩
      | ok gesture =>
          have listed := ((readBody_iff found).1 read).2
          cases meant.symm.trans ((PoseValues.gesture_ok_iff gesture).2 ⟨found, listed, wrong⟩)
  | ok gesture =>
      obtain ⟨found, listed, made⟩ := (PoseValues.gesture_ok_iff gesture).1 meant
      obtain ⟨command, commanded⟩ : ∃ command, gesture.toCommand = .ok command :=
        ⟨_, if_neg (PoseValues.said_of_gesture part meant)⟩
      have decoded := (decode_iff [command]).2 ⟨gesture, command, meant, commanded, rfl⟩
      have short : request.body.length ≤ bodyLimit := by
        rw [body]
        exact PoseValues.length_bytes_le sent (PoseValues.toFloats_of_gesture meant)
      have read := (readBody_iff found).2 ⟨short, listed⟩
      rcases Gesture.handle_of_decode decoded commanded with
        ⟨reaches, handled⟩ | ⟨lost, failure, handled⟩
      · obtain ⟨value, outbox, moved⟩ := Hub.move_of_reaches made commanded reaches
        rw [handled, serveMove_of_read hub read, moved]
        refine ⟨iff_of_true rfl ⟨1, rfl⟩, fun _ => ⟨rfl, _, Scene.origin?_eventOf .., rfl, ?_⟩,
          fun other => absurd rfl other⟩
        rw [Scene.onAccountOf_eventOf]
      · rw [handled]
        refine Alike.of_refused fun other again => ?_
        cases read.symm.trans again
        exact Hub.move_of_refused made (.inr (Gesture.not_reaches_iff.1 lost))

theorem serve_handle_alike_in_plane :
    let scene : Scene := { Scene.initial with
      sources := Table.empty.insert "a" (Source.initial "a") }
    let hub : Hub := { Hub.initial with scene }
    let pose : PoseValues := ⟨some (.list [.number (.real 0.5), .number (.int (-1))]), none⟩
    let text : String := "\x7b\"pos\":[0.5,-1]\x7d"
    let request : Request := ⟨"PUT", "/api/v1/sources/%61/pose",
      [("content-type", "application/json")], Text.bytes text⟩
    let message : String := "[\"mod-src\",\x7b\"a\":\x7b\"pos\":[0.5,-1]\x7d\x7d]"
    pose.Sent ∧ pose.body.text = text ∧ (pose.message (.source "a")).text = message ∧
      (Endpoint.ofTarget request.target).bind Endpoint.moves? = some (.source "a") ∧
      announcesJson request.headers = true ∧
      Alike hub (serve hub "" request) (hub.handle message) ∧
      (serve hub "" request).response.status = 200 := by
  intro scene hub pose text request message
  have sent : pose.Sent := by
    have fits : Fits 1 (.list [.number (.real 0.5), .number (.int (-1))]) := by
      apply Fits.list
      intro item member
      simp only [List.mem_cons, List.not_mem_nil, or_false] at member
      rcases member with rfl | rfl
      · exact .number (show (0.5 : Float).isFinite = true by decide +kernel)
      · exact .number (show -2 ^ 63 ≤ (-1 : Int) ∧ (-1 : Int) < 2 ^ 64 by decide)
    refine ⟨⟨1, fun value member => ?_⟩, fun value member => ?_⟩
    · rw [List.mem_singleton.1 member]
      exact fits
    · rw [List.mem_singleton.1 member]
      nofun
  have written : pose.body.text = text := by decide +kernel
  have told : (pose.message (.source "a")).text = message := by decide +kernel
  have asked : (Endpoint.ofTarget request.target).bind Endpoint.moves? = some (.source "a") := by
    decide +kernel
  have json : announcesJson request.headers = true := by decide +kernel
  have alike := serve_handle_alike hub "" request (.source "a") pose sent (.inl nofun) rfl asked
    json (congrArg Text.bytes written.symm)
  rw [told] at alike
  exact ⟨sent, written, told, asked, json, alike, by decide +kernel⟩

end Api

end SoundScene
