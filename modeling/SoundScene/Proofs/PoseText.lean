import SoundScene.Proofs.EncodedText
import SoundScene.Proofs.RequestNumbers
import SoundScene.Proofs.TextLength

/-!
Bodies of requests as texts.  A position and an orientation may be sent as any values.  The body
that holds them is read exactly if they are lists of numbers, and as these lists
(`Api.readBody_ok_iff`).
-/

namespace SoundScene

open Json Http

/-- A position and an orientation as they are sent, of which each may be missing. -/
structure PoseValues where
  pos : Option Value
  rot : Option Value

namespace PoseValues

def members (pose : PoseValues) (posName rotName : String) : List (String × Value) :=
  pose.pos.toList.map (posName, ·) ++ pose.rot.toList.map (rotName, ·)

theorem names_members (pose : PoseValues) (posName rotName : String) :
    ((pose.members posName rotName).map Prod.fst).Sublist [posName, rotName] := by
  obtain ⟨pos, rot⟩ := pose
  cases pos <;> cases rot <;> simp [members]

theorem mem_members {pose : PoseValues} {posName rotName key : String} {value : Value}
    (listed : (key, value) ∈ pose.members posName rotName) :
    (key = posName ∨ key = rotName) ∧ value ∈ pose.pos.toList ++ pose.rot.toList := by
  rcases List.mem_append.1 listed with listed | listed
  · obtain ⟨_, held, same⟩ := List.mem_map.1 listed
    cases same
    exact ⟨.inl rfl, List.mem_append_left _ held⟩
  · obtain ⟨_, held, same⟩ := List.mem_map.1 listed
    cases same
    exact ⟨.inr rfl, List.mem_append_right _ held⟩

theorem foldlM_members {ε σ α β : Type} {step : σ → String × Value → Except ε σ}
    {readPos : Value → Except ε α} {readRot : Value → Except ε β} (pose : PoseValues)
    (set : Option α → Option β → σ) {posName rotName : String}
    (onPos : ∀ value, step (set none none) (posName, value) =
      (readPos value).map fun pos => set (some pos) none)
    (onRot : ∀ pos value, step (set pos none) (rotName, value) =
      (readRot value).map fun rot => set pos (some rot)) :
    (pose.members posName rotName).foldlM step (set none none) = (do
      let pos ← pose.pos.mapM readPos
      let rot ← pose.rot.mapM readRot
      pure (set pos rot)) := by
  obtain ⟨pos, rot⟩ := pose
  have turned (held : Option α) : (rot.toList.map ((rotName, ·))).foldlM step (set held none) =
      (rot.mapM readRot).map fun rot => set held rot := by
    cases rot with
    | none => rfl
    | some rot =>
        rw [Option.toList_some, List.map_singleton, List.foldlM_cons, onRot, Option.mapM_some]
        cases readRot rot <;> rfl
  rw [members, List.foldlM_append]
  cases pos with
  | none => exact turned none
  | some pos =>
      rw [Option.toList_some, List.map_singleton, List.foldlM_cons, onPos, Option.mapM_some]
      cases readPos pos with
      | error mismatch => rfl
      | ok held => exact turned (some held)

theorem mapM_members {ε α β γ : Type} {read : String × Value → Except ε γ}
    {readPos : Value → Except ε α} {readRot : Value → Except ε β} (pose : PoseValues)
    {ofPos : α → γ} {ofRot : β → γ} {posName rotName : String}
    (onPos : ∀ value, read (posName, value) = (readPos value).map ofPos)
    (onRot : ∀ value, read (rotName, value) = (readRot value).map ofRot) :
    (pose.members posName rotName).mapM read = (do
      let pos ← pose.pos.mapM readPos
      let rot ← pose.rot.mapM readRot
      pure (pos.toList.map ofPos ++ rot.toList.map ofRot)) := by
  obtain ⟨pos, rot⟩ := pose
  have turned : (rot.toList.map ((rotName, ·))).mapM read =
      (rot.mapM readRot).map fun rot => rot.toList.map ofRot := by
    cases rot with
    | none => rfl
    | some rot =>
        rw [Option.toList_some, List.map_singleton, List.mapM_cons, onRot, Option.mapM_some]
        cases readRot rot <;> rfl
  cases pos with
  | none => exact turned
  | some pos =>
      rw [members, Option.toList_some, List.map_singleton, List.singleton_append, List.mapM_cons,
        onPos, Option.mapM_some]
      cases readPos pos with
      | error mismatch => rfl
      | ok held =>
          refine (congrArg (· >>= fun rest => pure (ofPos held :: rest)) turned).trans ?_
          cases rot.mapM readRot <;> rfl

/-- Values that a text can hold, and no `null`. -/
structure Sent (pose : PoseValues) : Prop where
  fits : ∃ depth, ∀ value ∈ pose.pos.toList ++ pose.rot.toList, Fits depth value
  there : ∀ value ∈ pose.pos.toList ++ pose.rot.toList, value ≠ .null

def body (pose : PoseValues) : Value := .object (pose.members "pos" "rot")

def lists (pose : PoseValues) : Except Mismatch PoseRequest := do
  let pos ← pose.pos.mapM Value.toFloats
  let rot ← pose.rot.mapM Value.toFloats
  pure ⟨pos, rot⟩

def gesture (pose : PoseValues) (target : Target) : Except Mismatch Gesture := do
  let position ← pose.pos.mapM Point.ofValue
  let orientation ← pose.rot.mapM Rotor.ofValue
  pure ⟨target, position, orientation⟩

end PoseValues

namespace PoseRequest

def addMember (request : PoseRequest) (member : String × Value) : Except Mismatch PoseRequest :=
  if member.1 = "pos" then member.2.toFloats.map fun pos => { request with pos := some pos }
  else if member.1 = "rot" then member.2.toFloats.map fun rot => { request with rot := some rot }
  else .ok request

theorem addMember_pos (request : PoseRequest) (value : Value) :
    request.addMember ("pos", value) =
      value.toFloats.map fun pos => { request with pos := some pos } :=
  if_pos rfl

theorem addMember_rot (request : PoseRequest) (value : Value) :
    request.addMember ("rot", value) =
      value.toFloats.map fun rot => { request with rot := some rot } :=
  (if_neg (show ("rot" : String) ≠ "pos" by decide)).trans (if_pos rfl)

theorem foldlM_addMember (pose : PoseValues) :
    (pose.members "pos" "rot").foldlM addMember {} = pose.lists :=
  pose.foldlM_members PoseRequest.mk (addMember_pos {}) fun pos => addMember_rot { pos }

theorem read_mirrors {pose : PoseValues} (sent : pose.Sent) {start : Cursor}
    {rest : List Text.Symbol} (held : start.rest = pose.body.chars.map .char ++ rest) :
    Mirrors (read start) pose.lists rest := by
  obtain ⟨depth, fits⟩ := sent.fits
  have field {value : Value} (member : value ∈ pose.pos.toList ++ pose.rot.toList)
      (name : String) (store : PoseRequest → Option (List Float) → PoseRequest)
      (request : PoseRequest) (start : Cursor) (rest : List Text.Symbol)
      (held : start.rest = value.chars.map .char ++ rest) :
      Mirrors ((Field.of name (readOptional (readList readFloat)) store).read request start)
        (value.toFloats.map fun list => store request (some list)) rest := by
    have read := readOptional_mirrors (fits value member) (sent.there value member) held
      (readFloats_mirrors (fits value member) held)
    have same : value.toFloats.map (fun list => store request (some list)) =
        (value.toFloats.map some).map (store request) := by
      cases value.toFloats <;> rfl
    rw [same]
    exact Field.of_mirrors read request
  rw [← foldlM_addMember]
  refine Shape.read_mirrors rfl ?_ ?_ held
  · rintro ⟨key, value⟩ listed
    obtain ⟨named, member⟩ := PoseValues.mem_members listed
    rcases named with rfl | rfl
    · refine ⟨_, rfl, fun request start rest _ held => ?_⟩
      rw [addMember_pos]
      exact field member _ _ request start rest held
    · refine ⟨_, rfl, fun request start rest _ held => ?_⟩
      rw [addMember_rot]
      exact field member _ _ request start rest held
  · have distinct : ["pos", "rot"].Nodup := by decide
    exact distinct.sublist (pose.names_members "pos" "rot")

end PoseRequest

theorem PoseValues.length_bytes_le {pose : PoseValues} (sent : pose.Sent)
    (short : ∀ value ∈ pose.pos.toList ++ pose.rot.toList,
      ∃ xs, value.toFloats = .ok xs ∧ xs.length ≤ 4) :
    (Text.bytes pose.body.text).length ≤ Api.bodyLimit := by
  obtain ⟨depth, fits⟩ := sent.fits
  have member (chars : List Char) (present : chars ∈ (pose.members "pos" "rot").map memberText) :
      chars.length ≤ 4012 := by
    obtain ⟨⟨key, value⟩, listed, rfl⟩ := List.mem_map.1 present
    obtain ⟨named, sentValue⟩ := PoseValues.mem_members listed
    obtain ⟨xs, read, few⟩ := short value sentValue
    have size := length_chars_of_floats (fits value sentValue) read
    have name : (quote key.toList).length = 5 := by
      rcases named with rfl | rfl
      · decide
      · decide
    simp only [memberText, List.length_append, List.length_cons, name]
    omega
  have count := (pose.names_members "pos" "rot").length_le
  have body := length_separated_le member true
  have bytes := Text.length_bytes_le pose.body.text
  rw [List.length_map] at count body
  have chars : pose.body.text.toList.length =
      (separated true ((pose.members "pos" "rot").map memberText)).length + 2 := by
    simp [PoseValues.body, Value.text, Value.chars, memberChars_eq]
  rw [chars] at bytes
  rw [Api.bodyLimit]
  change (pose.members "pos" "rot").length ≤ 2 at count
  omega

namespace Api

theorem readBody_ok_iff {request : Request} {pose : PoseValues}
    (json : announcesJson request.headers = true) (sent : pose.Sent)
    (body : request.body = Text.bytes pose.body.text) (found : PoseRequest) :
    readBody request = .ok found ↔ request.body.length ≤ bodyLimit ∧ pose.lists = .ok found := by
  have held : (Cursor.ofBytes request.body).rest = pose.body.chars.map .char ++ [] := by
    rw [body, Cursor.ofBytes_bytes]
    simp [Cursor.ofString, Cursor.ofSymbols, Value.text]
  have agrees := Reader.whole_agrees (PoseRequest.read_mirrors sent held)
  have announced : (!announcesJson request.headers) = false := by
    rw [json]
    rfl
  rw [readBody, announced, if_neg (by simp), ← agrees.ok_iff]
  by_cases long : bodyLimit < request.body.length
  · rw [if_pos long]
    exact iff_of_false (by simp) fun both => Nat.not_lt.2 both.1 long
  · rw [if_neg long]
    refine ⟨fun read => ⟨Nat.not_lt.1 long, ok_of_mapError read⟩, ?_⟩
    rintro ⟨_, read⟩
    rw [read]
    rfl

end Api

end SoundScene
