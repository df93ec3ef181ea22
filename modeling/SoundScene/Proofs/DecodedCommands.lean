import SoundScene.Proofs.CommandText

/-!
What a message is decoded to.  Many texts give the same commands, but the commands that come out of
any text are in normal form: they can be written, and they come back as they are
(`decode_canonical`).
-/

namespace SoundScene

open Json

namespace Json

theorem Number.isFinite_toFloat {n : Number} (plain : n.Plain) : n.toFloat.isFinite = true := by
  cases n with
  | real x => exact plain
  | int n =>
      obtain ⟨low, high⟩ := plain
      have small : n.natAbs ≤ 2 ^ 64 := by omega
      have size : (Decimal.toFloat ⟨n.natAbs, 0⟩).isFinite = true :=
        Decimal.isFinite_toFloat_whole (Nat.lt_of_le_of_lt small (by decide +kernel))
      rw [toFloat]
      by_cases negative : n < 0
      · rw [if_pos negative]
        exact Double.isFinite_neg size
      · rw [if_neg negative]
        exact size

variable {depth : Nat}

theorem isFinite_of_toFloat {value : Value} {x : Float} (fits : Fits depth value)
    (ran : value.toFloat = .ok x) : x.isFinite = true := by
  cases fits with
  | number plain =>
      cases ran
      exact Number.isFinite_toFloat plain
  | null | bool _ | string _ | list _ | object _ _ => cases ran

theorem allFinite_of_toFloats {value : Value} {xs : List Float} (fits : Fits depth value)
    (ran : value.toFloats = .ok xs) : AllFinite xs := by
  cases fits with
  | list inner =>
      intro x member
      obtain ⟨item, present, read⟩ := exists_of_mapM ran x member
      exact isFinite_of_toFloat (inner item present) read
  | null | bool _ | number _ | string _ | object _ _ => cases ran

end Json

variable {depth : Nat} {value : Value}

theorem Point.finite_of_ofList {xs : List Float} {point : Position} (finite : AllFinite xs)
    (ran : ofList xs = .ok point) : AllFinite point.toList := by
  rw [ofList.eq_def] at ran
  split at ran
  · cases ran
    have zero : Float.isFinite 0.0 = true := by decide +kernel
    simpa [AllFinite, toList, zero] using finite
  · cases ran
    exact finite
  · cases ran

theorem Point.finite_of_ofValue {point : Position} (fits : Fits depth value)
    (ran : ofValue value = .ok point) : AllFinite point.toList := by
  obtain ⟨xs, read, ran⟩ := ok_of_bind ran
  exact finite_of_ofList (allFinite_of_toFloats fits read) ran

theorem Rotor.finite_of_ofList {xs : List Float} {rotor : Orientation} (finite : AllFinite xs)
    (ran : ofList xs = .ok rotor) : AllFinite rotor.toList := by
  rw [ofList.eq_def] at ran
  split at ran
  · cases ran
    exact finite
  · cases ran

theorem Rotor.finite_of_ofValue {rotor : Orientation} (fits : Fits depth value)
    (ran : ofValue value = .ok rotor) : AllFinite rotor.toList := by
  obtain ⟨xs, read, ran⟩ := ok_of_bind ran
  exact finite_of_ofList (allFinite_of_toFloats fits read) ran

namespace Loudspeaker

structure Draft.Finite (draft : Draft) : Prop where
  pos : ∀ point, draft.pos = some point → AllFinite point.toList
  rot : ∀ rotor, draft.rot = some rotor → AllFinite rotor.toList

theorem Draft.Finite.finish {draft : Draft} (finite : draft.Finite) {missing : Mismatch}
    {loudspeaker : Loudspeaker} (ran : draft.finish missing = .ok loudspeaker) :
    loudspeaker.Finite := by
  rw [Draft.finish] at ran
  split at ran
  · next point held =>
    cases ran
    refine ⟨finite.pos point held, ?_⟩
    cases turned : draft.rot with
    | none =>
        have identity : AllFinite (Rotor.identity : Orientation).toList := by decide +kernel
        exact identity
    | some rotor => exact finite.rot rotor turned
  · cases ran

theorem Draft.Finite.addMember {draft next : Draft} (finite : draft.Finite)
    {member : String × Value} (fits : Fits depth member.2)
    (ran : draft.addMember member = .ok next) : next.Finite := by
  rw [Draft.addMember] at ran
  split at ran
  · obtain ⟨point, read, ran⟩ := ok_of_bind ran
    cases ran
    exact ⟨by rintro _ ⟨⟩; exact Point.finite_of_ofValue fits read, finite.rot⟩
  split at ran
  · obtain ⟨rotor, read, ran⟩ := ok_of_bind ran
    cases ran
    exact ⟨finite.pos, by rintro _ ⟨⟩; exact Rotor.finite_of_ofValue fits read⟩
  split at ran
  · obtain ⟨model, _, ran⟩ := ok_of_bind ran
    cases ran
    exact ⟨finite.pos, finite.rot⟩
  · cases ran
    exact finite

theorem finite_of_ofItems {items : List Value} (fits : ∀ item ∈ items, Fits depth item)
    {loudspeaker : Loudspeaker} (ran : ofItems items = .ok loudspeaker) : loudspeaker.Finite := by
  obtain ⟨pos, readPos, ran⟩ := ok_of_bind ran
  obtain ⟨rot, readRot, ran⟩ := ok_of_bind ran
  obtain ⟨model, _, ran⟩ := ok_of_bind ran
  obtain ⟨whole, finished, ran⟩ := ok_of_bind ran
  have drafted : Draft.Finite ⟨pos, rot, model.join⟩ := by
    constructor
    · intro point held
      obtain ⟨value, place, read⟩ := ok_of_mapM_option readPos point held
      exact Point.finite_of_ofValue (fits value (List.mem_of_getElem? place)) read
    · intro rotor held
      obtain ⟨value, place, read⟩ := ok_of_mapM_option readRot rotor held
      exact Rotor.finite_of_ofValue (fits value (List.mem_of_getElem? place)) read
  split at ran
  · cases ran
  · cases ran
    exact drafted.finish finished

theorem finite_of_ofValue {loudspeaker : Loudspeaker} (fits : Fits depth value)
    (ran : ofValue value = .ok loudspeaker) : loudspeaker.Finite := by
  cases fits with
  | list inner => exact finite_of_ofItems inner ran
  | object _ inner =>
      obtain ⟨draft, read, finished⟩ := ok_of_bind ran
      have blank : Draft.Finite {} := ⟨nofun, nofun⟩
      have drafted : draft.Finite := by
        refine foldlM_keeps (fun draft finite member present next step => ?_) blank read
        exact Draft.Finite.addMember finite (inner member present) step
      exact drafted.finish finished
  | null | bool _ | number _ | string _ => cases ran

theorem finite_of_listOfValue {set : List Loudspeaker} (fits : Fits depth value)
    (ran : listOfValue value = .ok set) : ∀ loudspeaker ∈ set, loudspeaker.Finite := by
  cases fits with
  | list inner =>
      intro loudspeaker member
      obtain ⟨item, present, read⟩ := exists_of_mapM ran loudspeaker member
      exact finite_of_ofValue (inner item present) read
  | null | bool _ | number _ | string _ | object _ _ => cases ran

end Loudspeaker

namespace Source.Patch

theorem Finite.addMember {patch next : Patch} (finite : patch.Finite) {member : String × Value}
    (fits : Fits depth member.2) (ran : patch.addMember member = .ok next) : next.Finite := by
  rw [Patch.addMember] at ran
  split at ran
  · obtain ⟨point, read, ran⟩ := ok_of_bind ran
    cases ran
    exact { finite with position := by rintro _ ⟨⟩; exact Point.finite_of_ofValue fits read }
  split at ran
  · obtain ⟨rotor, read, ran⟩ := ok_of_bind ran
    cases ran
    exact { finite with orientation := by rintro _ ⟨⟩; exact Rotor.finite_of_ofValue fits read }
  split at ran
  · obtain ⟨active, _, ran⟩ := ok_of_bind ran
    cases ran
    exact { finite with }
  split at ran
  · obtain ⟨name, _, ran⟩ := ok_of_bind ran
    cases ran
    exact { finite with }
  split at ran
  · obtain ⟨model, _, ran⟩ := ok_of_bind ran
    cases ran
    exact { finite with }
  split at ran
  · obtain ⟨volume, read, ran⟩ := ok_of_bind ran
    cases ran
    exact { finite with volume := by rintro _ ⟨⟩; exact isFinite_of_toFloat fits read }
  split at ran
  · obtain ⟨mute, _, ran⟩ := ok_of_bind ran
    cases ran
    exact { finite with }
  split at ran
  · obtain ⟨fixed, _, ran⟩ := ok_of_bind ran
    cases ran
    exact { finite with }
  · cases ran
    exact finite

theorem finite_of_decode {members : List (String × Value)} {patch : Patch}
    (fits : ∀ member ∈ members, Fits depth member.2) (ran : decode members = .ok patch) :
    patch.Finite := by
  have blank : Finite {} := ⟨nofun, nofun, nofun⟩
  refine foldlM_keeps (fun patch finite member present next step => ?_) blank ran
  exact Finite.addMember finite (fits member present) (ok_of_mapError step)

end Source.Patch

theorem StateEntry.of_decode {name : String} {entry : StateEntry}
    (ran : decode name value = .ok entry) :
    entry.name = name ∧ (Fits (depthLimit - 2) value → entry.Writable) := by
  have read := ok_of_mapError ran
  rw [StateEntry.read] at read
  split at read
  · next same =>
    obtain ⟨set, found, rfl⟩ := ok_of_map read
    exact ⟨same.symm, fun fits => Loudspeaker.finite_of_listOfValue fits found⟩
  split at read
  · next same =>
    obtain ⟨point, found, rfl⟩ := ok_of_map read
    exact ⟨same.symm, fun fits => Point.finite_of_ofValue fits found⟩
  split at read
  · next same =>
    obtain ⟨rotor, found, rfl⟩ := ok_of_map read
    exact ⟨same.symm, fun fits => Rotor.finite_of_ofValue fits found⟩
  split at read
  · next same =>
    obtain ⟨point, found, rfl⟩ := ok_of_map read
    exact ⟨same.symm, fun fits => Point.finite_of_ofValue fits found⟩
  split at read
  · next same =>
    obtain ⟨rotor, found, rfl⟩ := ok_of_map read
    exact ⟨same.symm, fun fits => Rotor.finite_of_ofValue fits found⟩
  · cases read
    have unknown : name ∉ names := by simp [names, *]
    exact ⟨rfl, fun fits => ⟨unknown, fits⟩⟩

namespace Command

/-- Entries and sources ascend, so no two have one name or one id. -/
def Ordered : Command → Prop
  | .state entries => entries.Pairwise fun first second => first.name < second.name
  | .create batch | .modify batch => batch.Pairwise fun first second => first.1 < second.1
  | .delete _ | .subscribe _ => True

theorem normal_of_ordered {command : Command} (ordered : command.Ordered) :
    command.normal = command := by
  cases command with
  | state entries => exact congrArg Command.state (collapse_of_ascending ordered)
  | create batch => exact congrArg Command.create (collapse_of_ascending ordered)
  | modify batch => exact congrArg Command.modify (collapse_of_ascending ordered)
  | delete ids => rfl
  | subscribe topics => rfl

theorem ordered_of_mapM {α : Type} {read : String × Value → Except Failure α} {name : α → String}
    {members : List (String × Value)} {items : List α} (ascending : Keyed.Ascending members)
    (named : ∀ member item, read member = .ok item → name item = member.1)
    (ran : members.mapM read = .ok items) :
    items.Pairwise fun first second => name first < name second := by
  have keys : (members.map Prod.fst).Pairwise (· < ·) := List.pairwise_map.2 ascending
  rw [← map_of_mapM named ran] at keys
  exact List.pairwise_map.1 keys

theorem ok_of_expectMembers {name : String} {members : List (String × Value)}
    (ran : expectMembers name value = .ok members) : value = .object members := by
  rw [expectMembers.eq_def] at ran
  split at ran
  · cases ran
    rfl
  · cases ran

theorem sound_of_decodeBatch {name : String} {batch : Batch} (fits : Fits (depth + 2) value)
    (ran : decodeBatch name value = .ok batch) :
    (∀ entry ∈ batch, entry.2.Finite) ∧ batch.Pairwise fun first second => first.1 < second.1 := by
  obtain ⟨members, held, ran⟩ := ok_of_bind ran
  rw [ok_of_expectMembers held] at fits
  obtain ⟨ascending, inner⟩ := fits.of_object
  constructor
  · intro entry present
    obtain ⟨member, listed, read⟩ := exists_of_mapM ran entry present
    obtain ⟨attributes, held, read⟩ := ok_of_bind read
    obtain ⟨patch, decoded, read⟩ := ok_of_bind read
    cases read
    have fits := inner member listed
    rw [ok_of_expectMembers held] at fits
    exact Source.Patch.finite_of_decode fits.of_object.2 decoded
  · refine ordered_of_mapM ascending (fun member entry read => ?_) ran
    obtain ⟨attributes, _, read⟩ := ok_of_bind read
    obtain ⟨patch, _, read⟩ := ok_of_bind read
    cases read
    rfl

theorem canonical_of_decode {name : String} {command : Command}
    (fits : Fits (depthLimit - 1) value) (ran : decode name value = .ok command) :
    command.Writable ∧ command.Ordered := by
  rw [decode] at ran
  split at ran
  · obtain ⟨members, held, ran⟩ := ok_of_bind ran
    obtain ⟨entries, listed, ran⟩ := ok_of_bind ran
    cases ran
    rw [ok_of_expectMembers held] at fits
    obtain ⟨ascending, inner⟩ := (show Fits (125 + 1) _ from fits).of_object
    constructor
    · intro entry present
      obtain ⟨member, place, read⟩ := exists_of_mapM listed entry present
      exact (StateEntry.of_decode read).2 (inner member place)
    · exact ordered_of_mapM ascending (fun _ _ read => (StateEntry.of_decode read).1) listed
  split at ran
  · obtain ⟨batch, read, rfl⟩ := ok_of_map ran
    exact sound_of_decodeBatch (show Fits (124 + 2) _ from fits) read
  split at ran
  · obtain ⟨batch, read, rfl⟩ := ok_of_map ran
    exact sound_of_decodeBatch (show Fits (124 + 2) _ from fits) read
  split at ran
  · obtain ⟨ids, _, rfl⟩ := ok_of_map ran
    exact ⟨trivial, trivial⟩
  split at ran
  · obtain ⟨topics, _, rfl⟩ := ok_of_map ran
    exact ⟨trivial, trivial⟩
  · cases ran

end Command

namespace Message

theorem canonical_of_ofItems {items : List Value} {commands : List Command}
    (fits : ∀ item ∈ items, Fits (depthLimit - 1) item) (ran : ofItems items = .ok commands) :
    ∀ command ∈ commands, command.Writable ∧ command.Ordered := by
  induction items using ofItems.induct generalizing commands with
  | case1 =>
      cases ran
      nofun
  | case2 name => cases ran
  | case3 name payload rest ih =>
      rw [ofItems] at ran
      obtain ⟨first, head, ran⟩ := ok_of_bind ran
      obtain ⟨later, tail, ran⟩ := ok_of_bind ran
      cases ran
      intro command member
      rcases List.mem_cons.1 member with rfl | member
      · exact Command.canonical_of_decode (fits payload (by simp)) head
      · exact ih (fun item present => fits item (by simp [present])) tail command member
  | case4 name payload rest other =>
      rw [ofItems] at ran
      · cases ran
      · exact other

/-- The commands of a message are in normal form, and they come back from the text they are written
as. -/
theorem decode_canonical {text : String} {commands : List Command}
    (decoded : decode text = .ok commands) :
    (∀ command ∈ commands, command.Writable ∧ command.Ordered) ∧
      decode (encode commands) = .ok commands := by
  obtain ⟨items, parsed, ran⟩ := list_of_decode decoded
  have canonical := canonical_of_ofItems (parse_fits parsed).of_list ran
  have normal : commands.map Command.normal = commands := by
    refine (List.map_congr_left fun command member => ?_).trans (List.map_id commands)
    exact Command.normal_of_ordered (canonical command member).2
  refine ⟨canonical, ?_⟩
  rw [decode_encode fun command member => (canonical command member).1, normal]

/-- Two members with one name, positions without height, a loudspeaker as a list of its parts and an
attribute that nothing reads: the text that is written is another one. -/
theorem decode_canonical_rewritten :
    let text := "[\"state\",\x7b\"ref-pos\":[1,2],\"loudspeakers\":[[[0,1]]],\"cpu\":3," ++
      "\"cpu\":4\x7d,\"new-src\",\x7b\"b\":\x7b\"level\":3\x7d,\"a\":\x7b\"pos\":[0.5,0]\x7d,\"b\":\x7b\x7d\x7d]"
    let commands : List Command := [.state [.other "cpu" (.number (.int 4)),
      .loudspeakers [⟨⟨0.0, 1.0, 0.0⟩, ⟨0.0, 0.0, 0.0, 1.0⟩, none⟩], .position ⟨1.0, 2.0, 0.0⟩],
      .create [("a", { position := some ⟨0.5, 0.0, 0.0⟩ }), ("b", {})]]
    decode text = .ok commands ∧
      (∀ command ∈ commands, command.Writable ∧ command.Ordered) ∧
      decode (encode commands) = .ok commands ∧ encode commands ≠ text := by
  intro text commands
  have decoded : decode text = .ok commands := by decide +kernel
  obtain ⟨canonical, again⟩ := decode_canonical decoded
  exact ⟨decoded, canonical, again, by decide +kernel⟩

end Message

end SoundScene
