import SoundScene.Api.Service
import SoundScene.Proofs.DecodedCommands
import SoundScene.Proofs.GestureText
import SoundScene.Proofs.TypedText

/-!
Numbers of requests.  What the fields of a record keep is kept by the record (`Shape.read_keeps`),
so all numbers of a request that was read are finite, and a request changes the hub as a gesture
with finite coordinates does or not at all (`Api.hub_serve`).
-/

namespace SoundScene

open Json Http

namespace Json

variable {α σ : Type}

theorem readFloat_finite {start : Cursor} {parsed : Parsed Float start}
    (ran : readFloat start = .ok parsed) : parsed.value.isFinite = true := by
  rw [readFloat] at ran
  split at ran
  · obtain ⟨number, reads, ran⟩ := ok_of_bind ran
    cases ran
    exact Number.isFinite_toFloat (readNumber_plain reads)
  · exact absurd ran not_ok_unexpected

theorem readList_all {item : Reader α} {Holds : α → Prop}
    (reads : ∀ start parsed, item start = .ok parsed → Holds parsed.value)
    {start : Cursor} {parsed : Parsed (List α) start} (ran : readList item start = .ok parsed) :
    ∀ x ∈ parsed.value, Holds x := by
  rw [readList] at ran
  split at ran
  · obtain ⟨items, listed, ran⟩ := ok_of_bind ran
    cases ran
    obtain ⟨inside, listed, same⟩ := readBracketed_inner listed
    intro x member
    have member : x ∈ inside.value := same ▸ member
    exact readItems_all (fun _ _ _ read => reads _ _ (ok_of_mapError read)) listed x member
  · exact absurd ran not_ok_unexpected

theorem readOptional_all {read : Reader α} {Holds : α → Prop}
    (reads : ∀ start parsed, read start = .ok parsed → Holds parsed.value)
    {start : Cursor} {parsed : Parsed (Option α) start}
    (ran : readOptional read start = .ok parsed) : ∀ x, parsed.value = some x → Holds x := by
  rw [readOptional] at ran
  split at ran
  · obtain ⟨word, found, ran⟩ := ok_of_bind ran
    cases ran
    intro x given
    cases (readWord_value found).symm.trans given
  · obtain ⟨held, found, ran⟩ := ok_of_bind ran
    cases ran
    rintro x ⟨⟩
    exact reads _ held found

/-- Whatever a field makes of something that holds for the record so far, it still holds. -/
def Field.Keeps (field : Field σ) (Holds : σ → Prop) : Prop :=
  ∀ state, Holds state → ∀ start parsed, field.read state start = .ok parsed → Holds parsed.value

theorem Field.keeps_of {name : String} {read : Reader α} {store : σ → α → σ}
    {Holds : σ → Prop} (Good : α → Prop)
    (reads : ∀ start parsed, read start = .ok parsed → Good parsed.value)
    (stores : ∀ state, Holds state → ∀ x, Good x → Holds (store state x)) :
    (Field.of name read store).Keeps Holds := by
  intro state held start parsed ran
  obtain ⟨found, reading, ran⟩ := ok_of_bind ran
  cases ran
  exact stores state held found.value (reads start found reading)

variable {fields : List (Field σ)} {Holds : σ → Prop}

theorem readField_keeps (keeps : ∀ field ∈ fields, field.Keeps Holds) {gathered : Gathered σ}
    (held : Holds gathered.state) {start : Cursor} {parsed : Parsed (Gathered σ) start}
    (ran : readField fields gathered start = .ok parsed) : Holds parsed.value.state := by
  obtain ⟨key, _, ran⟩ := ok_of_bind ran
  split at ran
  · obtain ⟨colon, _, ran⟩ := ok_of_bind ran
    obtain ⟨stop, _, ran⟩ := ok_of_bind ran
    cases ran
    exact held
  · next field known =>
    split at ran
    · cases ran
    · obtain ⟨colon, _, ran⟩ := ok_of_bind ran
      obtain ⟨value, reads, ran⟩ := ok_of_bind ran
      cases ran
      exact keeps field (List.mem_of_find?_eq_some known) _ held _ value (ok_of_mapError reads)

theorem readFields_keeps (keeps : ∀ field ∈ fields, field.Keeps Holds) {gathered : Gathered σ}
    (held : Holds gathered.state) {first : Bool} {start : Cursor}
    {kept : Kept (Gathered σ) start} (ran : readFields fields gathered first start = .ok kept) :
    Holds kept.value.state := by
  -- Each member is read from a shorter text, so what remains is the measure.
  induction size : start.size using Nat.strongRecOn generalizing gathered first start with
  | _ _ ih =>
      subst size
      rw [readFields] at ran
      obtain ⟨next, _, ran⟩ := ok_of_bind ran
      cases next with
      | none =>
          cases ran
          exact held
      | some here =>
          obtain ⟨member, reads, ran⟩ := ok_of_bind ran
          obtain ⟨rest, others, ran⟩ := ok_of_bind ran
          cases ran
          have shorter := Nat.lt_of_lt_of_le member.shorter here.property
          have kept : Holds rest.value.state :=
            ih _ shorter (readField_keeps keeps held reads) others rfl
          exact kept

theorem readParts_keeps (keeps : ∀ field ∈ fields, field.Keeps Holds) {index : Nat}
    {gathered : Gathered σ} (held : Holds gathered.state) {start : Cursor}
    {kept : Kept (Gathered σ) start} (ran : readParts index gathered fields start = .ok kept) :
    Holds kept.value.state := by
  induction fields generalizing index gathered start with
  | nil =>
      cases ran
      exact held
  | cons field rest ih =>
      obtain ⟨next, _, ran⟩ := ok_of_bind ran
      cases next with
      | none =>
          cases ran
          exact held
      | some here =>
          obtain ⟨value, reads, ran⟩ := ok_of_bind ran
          obtain ⟨later, others, ran⟩ := ok_of_bind ran
          cases ran
          have stored : Holds (gathered.add field.name value.value).state :=
            keeps field List.mem_cons_self _ held _ value (ok_of_mapError reads)
          have kept : Holds later.value.state :=
            ih (fun other member => keeps other (List.mem_cons_of_mem _ member)) stored others
          exact kept

theorem Shape.read_keeps {shape : Shape σ} (keeps : ∀ field ∈ shape.fields, field.Keeps Holds)
    (held : Holds shape.initial) {start : Cursor} {parsed : Parsed σ start}
    (ran : shape.read start = .ok parsed) : Holds parsed.value := by
  rw [Shape.read] at ran
  split at ran
  · obtain ⟨gathered, reads, ran⟩ := ok_of_bind ran
    obtain ⟨inside, reads, same⟩ := readBracketed_inner reads
    split at ran
    · cases ran
    · cases ran
      change Holds gathered.value.state
      rw [same]
      exact readFields_keeps keeps held reads
  split at ran
  · obtain ⟨gathered, reads, ran⟩ := ok_of_bind ran
    obtain ⟨stop, _, ran⟩ := ok_of_bind ran
    split at ran
    · cases ran
    · cases ran
      exact readParts_keeps keeps held reads
  · exact absurd ran not_ok_unexpected

theorem Reader.whole_all {read : Reader α} {Holds : α → Prop}
    (reads : ∀ start parsed, read start = .ok parsed → Holds parsed.value) {start : Cursor}
    {value : α} (ran : read.whole start = .ok value) : Holds value := by
  obtain ⟨parsed, found, ran⟩ := ok_of_bind ran
  extract_lets stop at ran
  split at ran
  · cases ran
    exact reads start parsed found
  · cases ran

end Json

namespace PoseRequest

structure Finite (request : PoseRequest) : Prop where
  pos : ∀ list, request.pos = some list → AllFinite list
  rot : ∀ list, request.rot = some list → AllFinite list

theorem finite_of_read {start : Cursor} {parsed : Parsed PoseRequest start}
    (ran : read start = .ok parsed) : parsed.value.Finite := by
  let Good (held : Option (List Float)) : Prop := ∀ list, held = some list → AllFinite list
  have numbers (start : Cursor) (parsed : Parsed (Option (List Float)) start) :
      readOptional (readList readFloat) start = .ok parsed → Good parsed.value :=
    readOptional_all fun _ _ => readList_all fun _ _ => readFloat_finite
  refine Shape.read_keeps (fun field member => ?_) ⟨nofun, nofun⟩ ran
  simp only [shape, List.mem_cons, List.not_mem_nil, or_false] at member
  rcases member with rfl | rfl
  · exact Field.keeps_of Good numbers fun _ held _ finite => ⟨finite, held.rot⟩
  · exact Field.keeps_of Good numbers fun _ held _ finite => ⟨held.pos, finite⟩

theorem Finite.part {α : Type} {name : String} {ofList : List Float → Except Mismatch α}
    {Good : α → Prop} (reads : ∀ xs x, AllFinite xs → ofList xs = .ok x → Good x)
    {list : Option (List Float)} (finite : ∀ xs, list = some xs → AllFinite xs)
    {found : Option α} (ran : part name ofList list = .ok found) :
    ∀ x, found = some x → Good x := by
  intro x given
  obtain ⟨xs, held, read⟩ := ok_of_mapM_option (ok_of_mapError ran) x given
  exact reads xs x (finite xs held) read

theorem Finite.toGesture {request : PoseRequest} (finite : request.Finite) {target : Target}
    {gesture : Gesture} (ran : request.toGesture target = .ok gesture) : gesture.Finite := by
  obtain ⟨_, listed, made⟩ := ok_of_bind ran
  obtain ⟨position, readPos, listed⟩ := ok_of_bind listed
  obtain ⟨orientation, readRot, listed⟩ := ok_of_bind listed
  cases listed
  cases made
  exact ⟨Finite.part (fun _ _ => Point.finite_of_ofList) finite.pos readPos,
    Finite.part (fun _ _ => Rotor.finite_of_ofList) finite.rot readRot⟩

end PoseRequest

namespace Api

theorem readBody_finite {request : Request} {body : PoseRequest}
    (ran : readBody request = .ok body) : body.Finite := by
  rw [readBody] at ran
  split at ran
  · cases ran
  split at ran
  · cases ran
  · exact Reader.whole_all (fun _ _ => PoseRequest.finite_of_read) (ok_of_mapError ran)

/-- A hub that is left as it was, or does what a gesture with finite coordinates asks for. -/
def AtMostPerforms (hub after : Hub) : Prop :=
  after = hub ∨ ∃ gesture, gesture.Finite ∧ after = (hub.perform gesture).hub

theorem hub_move (hub : Hub) (target : Target) {body : PoseRequest} (finite : body.Finite) :
    AtMostPerforms hub (hub.move target body).hub := by
  rw [Hub.move]
  cases asked : body.toGesture target with
  | error failure => exact .inl rfl
  | ok gesture => exact .inr ⟨gesture, finite.toGesture asked, rfl⟩

theorem hub_serveMove (hub : Hub) (target : Except Response Target) (request : Request) :
    AtMostPerforms hub (serveMove hub target request).hub := by
  rw [serveMove]
  split
  · exact .inl rfl
  · next aimed body read =>
    obtain ⟨_, _, read⟩ := ok_of_bind read
    obtain ⟨_, found, read⟩ := ok_of_bind read
    cases read
    exact hub_move hub aimed (readBody_finite found)

theorem hub_serveEndpoint (hub : Hub) (now : String) (request : Request) (endpoint : Endpoint) :
    AtMostPerforms hub (serveEndpoint hub now request endpoint).hub := by
  cases endpoint with
  | moveSource piece => exact hub_serveMove hub ((idOf piece).map .source) request
  | moveReference => exact hub_serveMove hub (.ok .reference) request
  | moveOffset => exact hub_serveMove hub (.ok .offset) request
  | _ => exact .inl rfl

theorem hub_serve (hub : Hub) (now : String) (request : Request) :
    AtMostPerforms hub (serve hub now request).hub := by
  rw [serve]
  split
  · exact .inl rfl
  · rw [expose]
    split
    · exact .inl rfl
    split
    · exact .inl rfl
    split
    · exact hub_serveEndpoint hub now request _
    · exact hub_serveEndpoint hub now request _

end Api

end SoundScene
