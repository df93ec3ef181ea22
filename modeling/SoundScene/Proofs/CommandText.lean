import SoundScene.Proofs.ParsedValue
import SoundScene.Message

/-!
Commands that are written and read again.  Writing collapses the entries of a command that have one
name or one source id, and puts them in order; reading gives the commands in that form and nothing
else is lost (`decode_encode_normal`).
-/

namespace SoundScene

open Json

namespace Json

def AllFinite (xs : List Float) : Prop := ∀ x ∈ xs, x.isFinite = true

instance (xs : List Float) : Decidable (AllFinite xs) :=
  inferInstanceAs (Decidable (∀ x ∈ xs, x.isFinite = true))

theorem ofFloats_eq {xs : List Float} (finite : AllFinite xs) :
    Value.ofFloats xs = .list (xs.map fun x => .number (.real x)) := by
  rw [Value.ofFloats]
  refine congrArg Value.list (List.map_congr_left fun x member => ?_)
  rw [Value.ofFloat, if_pos (finite x member)]

theorem toFloats_ofFloats {xs : List Float} (finite : AllFinite xs) :
    (Value.ofFloats xs).toFloats = .ok xs := by
  rw [ofFloats_eq finite]
  exact mapM_views fun _ _ => rfl

theorem Fits.ofFloat {depth : Nat} (x : Float) : Fits depth (Value.ofFloat x) := by
  rw [Value.ofFloat]
  split
  · rename_i finite
    exact .number finite
  · exact .null

theorem Fits.ofFloats {depth : Nat} (xs : List Float) : Fits (depth + 1) (Value.ofFloats xs) := by
  apply Fits.list
  intro item member
  obtain ⟨x, _, rfl⟩ := List.mem_map.1 member
  exact .ofFloat x

theorem Fits.ofStrings {depth : Nat} (texts : List String) :
    Fits (depth + 1) (Value.ofStrings texts) := by
  apply Fits.list
  intro item member
  obtain ⟨text, _, rfl⟩ := List.mem_map.1 member
  exact .string text

theorem sorted_ofFloat (x : Float) : (Value.ofFloat x).sorted = Value.ofFloat x := by
  rw [Value.ofFloat]
  split <;> rfl

theorem Value.sorted_list (items : List Value) :
    (Value.list items).sorted = .list (items.map sorted) := by
  have inner : sortedItems items = items.map sorted := by
    induction items with
    | nil => rfl
    | cons item rest ih => rw [sortedItems, ih, List.map_cons]
  rw [sorted, inner]

theorem Value.sorted_object (members : List (String × Value)) :
    (Value.object members).sorted =
      .ofMembers (members.map fun member => (member.1, member.2.sorted)) := by
  have inner : sortedMembers members = members.map fun member => (member.1, member.2.sorted) := by
    induction members with
    | nil => rfl
    | cons member rest ih => rw [sortedMembers, ih, List.map_cons]
  rw [sorted, inner]

theorem sorted_ofFloats (xs : List Float) : (Value.ofFloats xs).sorted = Value.ofFloats xs := by
  rw [Value.ofFloats, Value.sorted_list, List.map_map]
  exact congrArg Value.list (List.map_congr_left fun x _ => sorted_ofFloat x)

end Json

theorem Point.ofValue_toValue {position : Position} (finite : AllFinite position.toList) :
    Point.ofValue position.toValue = .ok position := by
  rw [Point.ofValue, Point.toValue, toFloats_ofFloats finite]
  rfl

theorem Rotor.ofValue_toValue {orientation : Orientation} (finite : AllFinite orientation.toList) :
    Rotor.ofValue orientation.toValue = .ok orientation := by
  rw [Rotor.ofValue, Rotor.toValue, toFloats_ofFloats finite]
  rfl

def optional {α : Type} (name : String) (view : α → Value) (value : Option α) :
    List (String × Value) :=
  value.toList.map fun x => (name, view x)

theorem optional_names {α : Type} (name : String) (view : α → Value) (value : Option α) :
    ((optional name view value).map Prod.fst).Sublist [name] := by
  cases value <;> simp [optional]

theorem ascending_of_names {members : List (String × Value)} {names : List String}
    (ascending : names.Pairwise (· < ·)) (named : (members.map Prod.fst).Sublist names) :
    Keyed.Ascending members :=
  List.pairwise_map.1 (ascending.sublist named)

theorem foldlM_optional {ε σ α β : Type} {step : σ → β → Except ε σ} (set : Option α → σ)
    {view : α → β} {value : Option α}
    (reads : ∀ x, value = some x → step (set none) (view x) = .ok (set (some x))) :
    (value.toList.map view).foldlM step (set none) = .ok (set value) := by
  cases value with
  | none => rfl
  | some x =>
      rw [Option.toList_some, List.map_singleton, List.foldlM_cons, reads x rfl]
      rfl

theorem foldlM_optional_append {ε σ α β : Type} {step : σ → β → Except ε σ} (set : Option α → σ)
    {view : α → β} {value : Option α} {others : List β} {final : σ}
    (reads : ∀ x, value = some x → step (set none) (view x) = .ok (set (some x)))
    (rest : others.foldlM step (set value) = .ok final) :
    (value.toList.map view ++ others).foldlM step (set none) = .ok final := by
  rw [List.foldlM_append, foldlM_optional set reads]
  exact rest

namespace Loudspeaker

structure Finite (loudspeaker : Loudspeaker) : Prop where
  pos : AllFinite loudspeaker.pos.toList
  rot : AllFinite loudspeaker.rot.toList

def members (loudspeaker : Loudspeaker) : List (String × Value) :=
  optional "model" .string loudspeaker.model ++
    [("pos", loudspeaker.pos.toValue), ("rot", loudspeaker.rot.toValue)]

theorem members_ascending (loudspeaker : Loudspeaker) : Keyed.Ascending loudspeaker.members := by
  have names : ["model", "pos", "rot"].Pairwise (· < ·) := by decide
  refine ascending_of_names names ?_
  rw [members, List.map_append]
  exact (optional_names "model" Value.string _).append (List.Sublist.refl _)

theorem sorted_toValue (loudspeaker : Loudspeaker) :
    loudspeaker.toValue.sorted = .object loudspeaker.members := by
  rw [toValue, Value.sorted_object, Value.ofMembers,
    Keyed.ofList_eq_of_mem_iff loudspeaker.members_ascending]
  intro member
  simp only [members, optional, Point.toValue, Rotor.toValue, List.map_append, List.map_cons,
    List.map_nil, List.map_map, sorted_ofFloats, List.mem_append]
  exact or_comm

theorem ofValue_sorted {loudspeaker : Loudspeaker} (finite : loudspeaker.Finite) :
    ofValue loudspeaker.toValue.sorted = .ok loudspeaker := by
  have read : loudspeaker.members.foldlM Draft.addMember {} =
      .ok ⟨some loudspeaker.pos, some loudspeaker.rot, loudspeaker.model⟩ := by
    refine foldlM_optional_append (fun model => ({ model } : Draft)) (fun _ _ => rfl) ?_
    simp [Draft.addMember, Point.ofValue_toValue finite.pos, Rotor.ofValue_toValue finite.rot, bind,
      Except.bind, pure, Except.pure]
  rw [sorted_toValue, ofValue, read]
  rfl

theorem fits_sorted {depth : Nat} (loudspeaker : Loudspeaker) :
    Fits (depth + 2) loudspeaker.toValue.sorted := by
  rw [sorted_toValue]
  apply Fits.object (Keyed.ofList_of_ascending loudspeaker.members_ascending)
  intro member present
  rcases List.mem_append.1 present with named | placed
  · obtain ⟨model, _, rfl⟩ := List.mem_map.1 named
    exact .string model
  · simp only [List.mem_cons, List.not_mem_nil, or_false] at placed
    rcases placed with rfl | rfl
    · exact .ofFloats _
    · exact .ofFloats _

end Loudspeaker

namespace Source.Patch

structure Finite (patch : Patch) : Prop where
  position : ∀ position, patch.position = some position → AllFinite position.toList
  orientation : ∀ orientation, patch.orientation = some orientation → AllFinite orientation.toList
  volume : ∀ volume, patch.volume = some volume → volume.isFinite = true

def sortedMembers (patch : Patch) : List (String × Value) :=
  optional "active" .bool patch.active ++ optional "fixed" .bool patch.fixed ++
    optional "model" .string patch.model ++ optional "mute" .bool patch.mute ++
    optional "name" .string patch.name ++ optional "pos" Point.toValue patch.position ++
    optional "rot" Rotor.toValue patch.orientation ++ optional "volume" .ofFloat patch.volume

theorem sortedMembers_ascending (patch : Patch) : Keyed.Ascending patch.sortedMembers := by
  have names : ["active", "fixed", "model", "mute", "name", "pos", "rot", "volume"].Pairwise
      (· < ·) := by decide
  refine ascending_of_names names ?_
  simp only [sortedMembers, List.map_append]
  have active := optional_names "active" Value.bool patch.active
  have fixed := active.append (optional_names "fixed" Value.bool patch.fixed)
  have model := fixed.append (optional_names "model" Value.string patch.model)
  have mute := model.append (optional_names "mute" Value.bool patch.mute)
  have name := mute.append (optional_names "name" Value.string patch.name)
  have position := name.append (optional_names "pos" Point.toValue patch.position)
  have orientation := position.append (optional_names "rot" Rotor.toValue patch.orientation)
  exact orientation.append (optional_names "volume" Value.ofFloat patch.volume)

theorem toValue_eq (patch : Patch) : patch.toValue = .object patch.sortedMembers := by
  rw [toValue, Value.ofMembers, Keyed.ofList_eq_of_mem_iff patch.sortedMembers_ascending]
  intro member
  simp only [members, sortedMembers, optional, List.mem_append]
  simp only [or_assoc, or_comm, or_left_comm]

theorem decode_sortedMembers {patch : Patch} (finite : patch.Finite) :
    decode patch.sortedMembers = .ok patch := by
  obtain ⟨position, orientation, active, name, model, volume, mute, fixed⟩ := patch
  simp only [decode, sortedMembers, List.append_assoc]
  -- Each step sets the next field of what the steps before it have read.
  refine foldlM_optional_append (fun active => ({ active } : Patch)) (fun _ _ => rfl) ?_
  refine foldlM_optional_append (fun fixed => ({ active, fixed } : Patch)) (fun _ _ => rfl) ?_
  refine foldlM_optional_append (fun model => ({ active, fixed, model } : Patch))
    (fun _ _ => rfl) ?_
  refine foldlM_optional_append (fun mute => ({ active, fixed, model, mute } : Patch))
    (fun _ _ => rfl) ?_
  refine foldlM_optional_append (fun name => ({ active, fixed, model, mute, name } : Patch))
    (fun _ _ => rfl) ?_
  refine foldlM_optional_append
    (fun position => ({ active, fixed, model, mute, name, position } : Patch)) ?_ ?_
  · intro point held
    have read := Point.ofValue_toValue (finite.position point held)
    simp only [addMember, ↓reduceIte, read]
    rfl
  refine foldlM_optional_append
    (fun orientation => ({ active, fixed, model, mute, name, position, orientation } : Patch)) ?_ ?_
  · intro rotor held
    have read := Rotor.ofValue_toValue (finite.orientation rotor held)
    have other : ("rot" : String) ≠ "pos" := by decide
    simp only [addMember, if_neg other, ↓reduceIte, read]
    rfl
  refine foldlM_optional
    (fun volume => ({ active, fixed, model, mute, name, position, orientation, volume } : Patch)) ?_
  intro x held
  have number : Value.ofFloat x = .number (.real x) := if_pos (finite.volume x held)
  rw [number]
  rfl

theorem fits_toValue {depth : Nat} (patch : Patch) :
    Fits (depth + 2) patch.toValue := by
  rw [toValue_eq]
  apply Fits.object (Keyed.ofList_of_ascending patch.sortedMembers_ascending)
  intro member present
  simp only [sortedMembers, optional, List.mem_append, List.mem_map, Option.mem_toList, or_assoc]
    at present
  rcases present with ⟨active, _, rfl⟩ | ⟨fixed, _, rfl⟩ | ⟨model, _, rfl⟩ | ⟨mute, _, rfl⟩ |
    ⟨name, _, rfl⟩ | ⟨position, _, rfl⟩ | ⟨orientation, _, rfl⟩ | ⟨volume, _, rfl⟩
  · exact .bool active
  · exact .bool fixed
  · exact .string model
  · exact .bool mute
  · exact .string name
  · exact .ofFloats _
  · exact .ofFloats _
  · exact .ofFloat volume

end Source.Patch

namespace StateEntry

def names : List String :=
  ["loudspeakers", "ref-pos", "ref-rot", "ref-pos-offset", "ref-rot-offset"]

/-- An entry that a text can hold: its numbers are finite, and what is not understood has another
name and leaves room for the two brackets around it. -/
def Writable : StateEntry → Prop
  | .loudspeakers set => ∀ loudspeaker ∈ set, loudspeaker.Finite
  | .position point | .offsetPosition point => AllFinite point.toList
  | .orientation rotor | .offsetOrientation rotor => AllFinite rotor.toList
  | .other name value => name ∉ names ∧ Fits (depthLimit - 2) value

theorem listOfValue_sorted {set : List Loudspeaker}
    (finite : ∀ loudspeaker ∈ set, loudspeaker.Finite) :
    Loudspeaker.listOfValue (.list (set.map fun loudspeaker => loudspeaker.toValue.sorted)) =
      .ok set :=
  mapM_views fun loudspeaker member => Loudspeaker.ofValue_sorted (finite loudspeaker member)

theorem decode_toValue {entry : StateEntry} (writable : entry.Writable) :
    decode entry.name entry.toValue = .ok entry := by
  cases entry with
  | loudspeakers set =>
      have set := listOfValue_sorted writable
      simp [decode, read, name, toValue, set, Except.map, Except.mapError]
  | position point =>
      have point := Point.ofValue_toValue writable
      simp [decode, read, name, toValue, point, Except.map, Except.mapError]
  | orientation rotor =>
      have rotor := Rotor.ofValue_toValue writable
      simp [decode, read, name, toValue, rotor, Except.map, Except.mapError]
  | offsetPosition point =>
      have point := Point.ofValue_toValue writable
      simp [decode, read, name, toValue, point, Except.map, Except.mapError]
  | offsetOrientation rotor =>
      have rotor := Rotor.ofValue_toValue writable
      simp [decode, read, name, toValue, rotor, Except.map, Except.mapError]
  | other name value =>
      have unknown := writable.1
      simp only [names, List.mem_cons, List.not_mem_nil, or_false, not_or] at unknown
      simp [decode, read, StateEntry.name, toValue, unknown, Except.mapError]

theorem fits_toValue {entry : StateEntry} (writable : entry.Writable) :
    Fits (depthLimit - 2) entry.toValue := by
  have room {depth : Nat} (few : depth ≤ 124) : depth + 1 ≤ depthLimit - 2 := Nat.succ_le_succ few
  cases entry with
  | loudspeakers set =>
      have list : Fits 3 (toValue (.loudspeakers set)) := by
        apply Fits.list
        intro item member
        obtain ⟨loudspeaker, _, rfl⟩ := List.mem_map.1 member
        exact loudspeaker.fits_sorted
      exact list.mono (room (by decide))
  | position point => exact (Fits.ofFloats _).mono (room (Nat.zero_le _))
  | orientation rotor => exact (Fits.ofFloats _).mono (room (Nat.zero_le _))
  | offsetPosition point => exact (Fits.ofFloats _).mono (room (Nat.zero_le _))
  | offsetOrientation rotor => exact (Fits.ofFloats _).mono (room (Nat.zero_le _))
  | other name value => exact writable.2

end StateEntry

namespace Command

def Writable : Command → Prop
  | .state entries => ∀ entry ∈ entries, entry.Writable
  | .create batch | .modify batch => ∀ entry ∈ batch, entry.2.Finite
  | .delete _ | .subscribe _ => True

/-- The form in which a command comes back from its text. -/
def normal : Command → Command
  | .state entries => .state (collapse StateEntry.name entries)
  | .create batch => .create (collapse Prod.fst batch)
  | .modify batch => .modify (collapse Prod.fst batch)
  | .delete ids => .delete ids
  | .subscribe topics => .subscribe topics

/-- The second command is the first one with its entries collapsed; lists of texts stay whole. -/
inductive Normalises : Command → Command → Prop
  | state {entries kept} : Collapses StateEntry.name entries kept →
      Normalises (.state entries) (.state kept)
  | create {batch kept} : Collapses Prod.fst batch kept → Normalises (.create batch) (.create kept)
  | modify {batch kept} : Collapses Prod.fst batch kept → Normalises (.modify batch) (.modify kept)
  | delete {ids} : Normalises (.delete ids) (.delete ids)
  | subscribe {topics} : Normalises (.subscribe topics) (.subscribe topics)

theorem normalises_normal (command : Command) : command.Normalises command.normal := by
  cases command with
  | state entries => exact .state (collapses_collapse ..)
  | create batch => exact .create (collapses_collapse ..)
  | modify batch => exact .modify (collapses_collapse ..)
  | delete ids => exact .delete
  | subscribe topics => exact .subscribe

theorem payload_state (entries : List StateEntry) :
    (Command.state entries).payload = .object
      ((collapse StateEntry.name entries).map fun entry => (entry.name, entry.toValue)) :=
  congrArg Value.object (ofList_views StateEntry.name StateEntry.toValue entries)

theorem ofMembers_batch (batch : Batch) :
    Value.ofMembers (batch.map fun (id, patch) => (id, patch.toValue)) = .object
      ((collapse Prod.fst batch).map fun (id, patch) => (id, patch.toValue)) :=
  congrArg Value.object (ofList_views Prod.fst (fun entry => entry.2.toValue) batch)

theorem decodeBatch_collapse {batch : Batch} (finite : ∀ entry ∈ batch, entry.2.Finite)
    (name : String) :
    decodeBatch name (.ofMembers (batch.map fun (id, patch) => (id, patch.toValue))) =
      .ok (collapse Prod.fst batch) := by
  rw [ofMembers_batch]
  refine mapM_views fun entry member => ?_
  have read := Source.Patch.decode_sortedMembers (finite entry (mem_of_mem_collapse member))
  simp only [Source.Patch.toValue_eq, expectMembers, read, bind, Except.bind]
  rfl

theorem decodeTexts_ofStrings (name : String) (texts : List String) :
    decodeTexts name (.ofStrings texts) = .ok texts :=
  mapM_views fun _ _ => rfl

theorem decode_payload {command : Command} (writable : command.Writable) :
    decode command.name command.payload = .ok command.normal := by
  cases command with
  | state entries =>
      let readEntry (member : String × Value) := StateEntry.decode member.1 member.2
      have read : ((collapse StateEntry.name entries).map fun entry =>
          (entry.name, entry.toValue)).mapM readEntry = .ok (collapse StateEntry.name entries) :=
        mapM_views fun entry member =>
          StateEntry.decode_toValue (writable entry (mem_of_mem_collapse member))
      rw [payload_state, name, decode, if_pos rfl]
      change (List.mapM readEntry _ >>= fun decoded => Except.ok (Command.state decoded)) = _
      rw [read]
      rfl
  | create batch =>
      have read := decodeBatch_collapse writable "new-src"
      simp [decode, name, payload, read, Except.map, normal]
  | modify batch =>
      have read := decodeBatch_collapse writable "mod-src"
      simp [decode, name, payload, read, Except.map, normal]
  | delete ids => simp [decode, name, payload, decodeTexts_ofStrings, Except.map, normal]
  | subscribe topics => simp [decode, name, payload, decodeTexts_ofStrings, Except.map, normal]

theorem fits_payload {command : Command} (writable : command.Writable) :
    Fits (depthLimit - 1) command.payload := by
  have batched (batch : Batch) :
      Fits (depthLimit - 1) (.ofMembers (batch.map fun (id, patch) => (id, patch.toValue))) := by
    apply Fits.ofMembers
    intro member present
    obtain ⟨entry, _, rfl⟩ := List.mem_map.1 present
    exact entry.2.fits_toValue
  cases command with
  | state entries =>
      apply Fits.ofMembers
      intro member present
      obtain ⟨entry, held, rfl⟩ := List.mem_map.1 present
      exact StateEntry.fits_toValue (writable entry held)
  | create batch => exact batched batch
  | modify batch => exact batched batch
  | delete ids => exact .ofStrings ids
  | subscribe topics => exact .ofStrings topics

theorem name_normal (command : Command) : command.normal.name = command.name := by
  cases command <;> rfl

theorem payload_normal (command : Command) : command.normal.payload = command.payload := by
  have batched (batch : Batch) :
      Value.ofMembers ((collapse Prod.fst batch).map fun (id, patch) => (id, patch.toValue)) =
        Value.ofMembers (batch.map fun (id, patch) => (id, patch.toValue)) := by
    rw [ofMembers_batch, ofMembers_batch, collapse_collapse]
  cases command with
  | state entries => rw [normal, payload_state, payload_state, collapse_collapse]
  | create batch => exact batched batch
  | modify batch => exact batched batch
  | delete ids => rfl
  | subscribe topics => rfl

end Command

namespace Message

theorem list_of_decode {text : String} {commands : List Command}
    (decoded : decode text = .ok commands) :
    ∃ items, Value.parse text = .ok (.list items) ∧ ofItems items = .ok commands := by
  rw [decode] at decoded
  split at decoded
  · next value parsed =>
    rw [ofValue.eq_def] at decoded
    split at decoded
    · exact ⟨_, parsed, decoded⟩
    · cases decoded
  · cases decoded

theorem ofItems_items {commands : List Command}
    (writable : ∀ command ∈ commands, command.Writable) :
    ofItems (items commands) = .ok (commands.map Command.normal) := by
  induction commands with
  | nil => rfl
  | cons command rest ih =>
      have head := Command.decode_payload (writable command (by simp))
      have others := ih fun other member => writable other (by simp [member])
      change (Command.decode command.name command.payload >>= fun first =>
        ofItems (items rest) >>= fun later => pure (first :: later)) = _
      rw [head, others]
      rfl

theorem fits_toValue {commands : List Command} (writable : ∀ command ∈ commands, command.Writable) :
    Fits depthLimit (toValue commands) := by
  apply Fits.list
  intro item member
  obtain ⟨command, present, listed⟩ := List.mem_flatMap.1 member
  simp only [List.mem_cons, List.not_mem_nil, or_false] at listed
  rcases listed with rfl | rfl
  · exact .string command.name
  · exact Command.fits_payload (writable command present)

theorem encode_normal (commands : List Command) :
    encode (commands.map Command.normal) = encode commands := by
  have same (command : Command) : [Value.string command.normal.name, command.normal.payload] =
      [.string command.name, command.payload] := by
    rw [Command.name_normal, Command.payload_normal]
  rw [encode, encode, toValue, toValue, items, items, List.flatMap_map]
  simp only [same]

theorem decode_encode {commands : List Command}
    (writable : ∀ command ∈ commands, command.Writable) :
    decode (encode commands) = .ok (commands.map Command.normal) := by
  rw [decode, encode, parse_text (fits_toValue writable)]
  exact ofItems_items writable

/-- Commands come back from a message in normal form, whatever form they were written in, and the
normal form is written as the same text. -/
theorem decode_encode_normal {commands : List Command}
    (writable : ∀ command ∈ commands, command.Writable) :
    decode (encode commands) = .ok (commands.map Command.normal) ∧
      (∀ command ∈ commands, command.Normalises command.normal) ∧
      encode (commands.map Command.normal) = encode commands := by
  exact ⟨decode_encode writable, fun command _ => command.normalises_normal, encode_normal commands⟩

theorem decode_encode_normal_mixed :
    let placed : Position := ⟨1.5, -2.0, 0.0⟩
    let known : StateEntry := .other "cpu" (.object [("load", .number (.real 0.5))])
    let commands : List Command := [.state [.position ⟨0.0, 0.0, 0.0⟩, known, .position placed],
      .create [("b", { volume := some 0.5 }), ("a", {}), ("b", { position := some placed })],
      .delete ["a", "a"]]
    (∀ command ∈ commands, command.Writable) ∧
      commands.map Command.normal = [.state [known, .position placed],
        .create [("a", {}), ("b", { position := some placed })], .delete ["a", "a"]] ∧
      decode (encode commands) = .ok (commands.map Command.normal) ∧
      (∀ command ∈ commands, command.Normalises command.normal) ∧
      encode (commands.map Command.normal) = encode commands := by
  intro placed known commands
  have point : AllFinite placed.toList := by decide +kernel
  have zero : AllFinite (Point.toList ⟨0.0, 0.0, 0.0⟩) := by decide +kernel
  have half : Float.isFinite 0.5 = true := by decide +kernel
  have load : Fits (124 + 1) (.object [("load", .number (.real 0.5))]) := by
    refine Fits.object rfl fun member held => ?_
    rw [List.mem_singleton.1 held]
    exact .number half
  have entries : (Command.state [.position ⟨0.0, 0.0, 0.0⟩, known, .position placed]).Writable := by
    intro entry member
    simp only [List.mem_cons, List.not_mem_nil, or_false] at member
    rcases member with rfl | rfl | rfl
    · exact zero
    · exact ⟨by decide, load⟩
    · exact point
  have sources : (Command.create [("b", { volume := some 0.5 }), ("a", {}),
      ("b", { position := some placed })]).Writable := by
    intro entry member
    simp only [List.mem_cons, List.not_mem_nil, or_false] at member
    rcases member with rfl | rfl | rfl
    · exact ⟨nofun, nofun, by rintro volume ⟨⟩; exact half⟩
    · exact ⟨nofun, nofun, nofun⟩
    · exact ⟨by rintro position ⟨⟩; exact point, nofun, nofun⟩
  have writable : ∀ command ∈ commands, command.Writable := by
    intro command member
    simp only [commands, List.mem_cons, List.not_mem_nil, or_false] at member
    rcases member with rfl | rfl | rfl
    · exact entries
    · exact sources
    · exact trivial
  exact ⟨writable, by decide +kernel, decode_encode_normal writable⟩

end Message

end SoundScene
