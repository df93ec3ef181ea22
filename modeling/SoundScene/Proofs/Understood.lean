import SoundScene.Proofs.CommandText
import SoundScene.Proofs.DecodedCommands
import SoundScene.Hub

/-!
What a message says that is not understood.  A state command may have entries with any names, and a
source attributes with any names, but only some names are known.  A message from which everything
else is taken away is refused for the same reason, or it has the same commands but for the entries
that are not understood (`ofValue_prune`), so it does the same (`handle_prune`).
-/

namespace SoundScene

open Json

def Json.Value.restrict (names : List String) : Value → Value
  | .object members => .object (members.filter (·.1 ∈ names))
  | other => other

namespace StateEntry

def isUnderstood : StateEntry → Bool
  | .other .. => false
  | _ => true

theorem decode_unknown {name : String} (unknown : name ∉ names) (value : Value) :
    decode name value = .ok (.other name value) := by
  simp only [names, List.mem_cons, List.not_mem_nil, or_false, not_or] at unknown
  simp [decode, read, unknown, Except.mapError]

theorem isUnderstood_of_decode {name : String} (known : name ∈ names) {value : Value}
    {entry : StateEntry} (ran : decode name value = .ok entry) : entry.isUnderstood = true := by
  simp only [names, List.mem_cons, List.not_mem_nil, or_false] at known
  have read := ok_of_mapError ran
  rcases known with rfl | rfl | rfl | rfl | rfl
  all_goals
    obtain ⟨_, _, rfl⟩ := ok_of_map read
    rfl

end StateEntry

namespace Source.Patch

def names : List String :=
  ["pos", "rot", "active", "name", "model", "volume", "mute", "fixed"]

theorem addMember_unknown (patch : Patch) {member : String × Value} (unknown : member.1 ∉ names) :
    patch.addMember member = .ok patch := by
  simp only [names, List.mem_cons, List.not_mem_nil, or_false, not_or] at unknown
  simp [addMember, unknown]

theorem decode_filter (members : List (String × Value)) :
    decode (members.filter (·.1 ∈ names)) = decode members := by
  refine foldlM_filter (fun patch member _ dropped => ?_) ({} : Patch)
  rw [addMember_unknown patch (of_decide_eq_false dropped)]
  rfl

end Source.Patch

namespace Command

/-- The command without the entries that are not understood. -/
def understood : Command → Command
  | .state entries => .state (entries.filter StateEntry.isUnderstood)
  | other => other

theorem understood_understood (command : Command) :
    command.understood.understood = command.understood := by
  cases command with
  | state entries => exact congrArg Command.state (List.filter_filter.trans (by simp))
  | _ => rfl

def pruneBatch : Value → Value
  | .object members =>
    .object (members.map fun (id, value) => (id, value.restrict Source.Patch.names))
  | other => other

def prune (name : String) (payload : Value) : Value :=
  if name = "state" then payload.restrict StateEntry.names
  else if name = "new-src" ∨ name = "mod-src" then pruneBatch payload
  else payload

theorem expectMembers_restrict (name : String) (names : List String) (value : Value) :
    expectMembers name (value.restrict names) =
      (expectMembers name value).map (·.filter (·.1 ∈ names)) := by
  cases value <;> rfl

def readEntry (member : String × Value) : Except Failure (String × Source.Patch) := do
  let attributes ← expectMembers member.1 member.2
  let patch ← Source.Patch.decode attributes
  pure (member.1, patch)

theorem readEntry_restrict (id : String) (value : Value) :
    readEntry (id, value.restrict Source.Patch.names) = readEntry (id, value) := by
  rw [readEntry, readEntry, expectMembers_restrict]
  cases expectMembers id value with
  | error failure => rfl
  | ok attributes =>
      change (Source.Patch.decode (attributes.filter _) >>= _) = _
      rw [Source.Patch.decode_filter]
      rfl

theorem decodeBatch_prune (name : String) (payload : Value) :
    decodeBatch name (pruneBatch payload) = decodeBatch name payload := by
  cases payload with
  | object members =>
      change (members.map _).mapM readEntry = members.mapM readEntry
      rw [List.mapM_map]
      exact congrArg (members.mapM ·) (funext fun member => readEntry_restrict member.1 member.2)
  | _ => rfl

def readEntries (members : List (String × Value)) : Except Failure (List StateEntry) :=
  members.mapM fun member => StateEntry.decode member.1 member.2

theorem readEntries_filter (members : List (String × Value)) :
    readEntries (members.filter (·.1 ∈ StateEntry.names)) =
      (readEntries members).map (·.filter StateEntry.isUnderstood) := by
  refine mapM_filter (fun member _ dropped => ?_) fun member _ known entry ran => ?_
  · exact ⟨_, StateEntry.decode_unknown (of_decide_eq_false dropped) member.2, rfl⟩
  · exact StateEntry.isUnderstood_of_decode (of_decide_eq_true known) ran

theorem decode_prune (name : String) (payload : Value) :
    decode name (prune name payload) = (decode name payload).map understood := by
  have same {α : Type} {read : Except Failure α} {command : α → Command}
      (whole : ∀ value, (command value).understood = command value) :
      read.map command = (read.map command).map understood := by
    cases read with
    | error failure => rfl
    | ok value => exact congrArg Except.ok (whole value).symm
  rw [decode, decode]
  by_cases state : name = "state"
  · rw [if_pos state, if_pos state, prune, if_pos state, expectMembers_restrict]
    cases expectMembers name payload with
    | error failure => rfl
    | ok members =>
        change (readEntries (members.filter _) >>= _) = (readEntries members >>= _).map _
        rw [readEntries_filter]
        cases readEntries members <;> rfl
  · rw [if_neg state, if_neg state, prune, if_neg state]
    by_cases batch : name = "new-src" ∨ name = "mod-src"
    · rw [if_pos batch, decodeBatch_prune]
      rcases batch with rfl | rfl
      · exact same fun _ => rfl
      · exact same fun _ => rfl
    · rw [if_neg batch]
      rw [not_or] at batch
      rw [if_neg batch.1, if_neg batch.2]
      split
      · exact same fun _ => rfl
      split
      · exact same fun _ => rfl
      · rfl

end Command

namespace Message

def pruneItems : List Value → List Value
  | .string name :: payload :: rest =>
    .string name :: Command.prune name payload :: pruneItems rest
  | name :: payload :: rest => name :: payload :: pruneItems rest
  | short => short

/-- The message without the entries and attributes that are not understood. -/
def prune : Value → Value
  | .list items => .list (pruneItems items)
  | other => other

theorem ofItems_prune (items : List Value) :
    ofItems (pruneItems items) = (ofItems items).map (·.map Command.understood) := by
  induction items using ofItems.induct with
  | case1 => rfl
  | case2 name => cases name <;> rfl
  | case3 name payload rest ih =>
      rw [pruneItems, ofItems, ofItems, Command.decode_prune, ih]
      cases Command.decode name payload with
      | error failure => rfl
      | ok command => cases ofItems rest <;> rfl
  | case4 name payload rest other =>
      cases name with
      | string text => exact absurd rfl (other text)
      | _ => rfl

theorem ofValue_prune (value : Value) :
    ofValue (prune value) = (ofValue value).map (·.map Command.understood) := by
  cases value with
  | list items => exact ofItems_prune items
  | _ => rfl

theorem fits_restrict {depth : Nat} {value : Value} (fits : Fits depth value)
    (names : List String) : Fits depth (value.restrict names) := by
  cases value with
  | object members =>
      cases fits with
      | object sorted inner =>
          have ascending : Keyed.Ascending members := sorted ▸ Keyed.ascending_ofList members
          refine .object (Keyed.ofList_of_ascending (ascending.filter _)) fun member listed => ?_
          exact inner member (List.mem_of_mem_filter listed)
  | _ => exact fits

theorem fits_pruneBatch {depth : Nat} {payload : Value} (fits : Fits depth payload) :
    Fits depth (Command.pruneBatch payload) := by
  cases payload with
  | object members =>
      cases fits with
      | object sorted inner =>
          have ascending : Keyed.Ascending members := sorted ▸ Keyed.ascending_ofList members
          refine .object (Keyed.ofList_of_ascending ?_) fun member listed => ?_
          · exact List.pairwise_map.2 ascending
          · obtain ⟨whole, held, rfl⟩ := List.mem_map.1 listed
            exact fits_restrict (inner whole held) Source.Patch.names
  | _ => exact fits

theorem fits_prunePayload {depth : Nat} {payload : Value} (fits : Fits depth payload)
    (name : String) : Fits depth (Command.prune name payload) := by
  rw [Command.prune]
  split
  · exact fits_restrict fits StateEntry.names
  split
  · exact fits_pruneBatch fits
  · exact fits

theorem fits_pruneItems {depth : Nat} {items : List Value}
    (fits : ∀ item ∈ items, Fits depth item) : ∀ item ∈ pruneItems items, Fits depth item := by
  induction items using pruneItems.induct with
  | case1 name payload rest ih =>
      simp only [List.forall_mem_cons] at fits
      obtain ⟨first, second, others⟩ := fits
      simp only [pruneItems, List.forall_mem_cons]
      exact ⟨first, fits_prunePayload second name, ih others⟩
  | case2 name payload rest other ih =>
      simp only [List.forall_mem_cons] at fits
      obtain ⟨first, second, others⟩ := fits
      rw [pruneItems]
      · simp only [List.forall_mem_cons]
        exact ⟨first, second, ih others⟩
      · exact other
  | case3 short single pair =>
      rw [pruneItems]
      · exact fits
      · exact single
      · exact pair

theorem fits_prune {value : Value} (fits : Fits depthLimit value) :
    Fits depthLimit (prune value) := by
  cases value with
  | list items => exact .list (fits_pruneItems fits.of_list)
  | _ => exact fits

end Message

namespace Scene

theorem ofEntries_understood (entries : List StateEntry) :
    StateChange.ofEntries (entries.filter StateEntry.isUnderstood) = .ofEntries entries := by
  rw [StateChange.ofEntries, StateChange.ofEntries, List.foldl_filter]
  congr
  funext change entry
  cases entry <;> rfl

theorem run_understood (scene : Scene) (command : Command) (origin : Origin) :
    scene.run command.understood origin = scene.run command origin := by
  cases command with
  | state entries => exact congrArg (scene.change · origin) (ofEntries_understood entries)
  | _ => rfl

theorem runAll_understood (scene : Scene) (origin : Origin) (commands : List Command) :
    scene.runAll origin (commands.map Command.understood) = scene.runAll origin commands := by
  induction commands generalizing scene with
  | nil => rfl
  | cons command rest ih =>
      rw [List.map_cons, runAll, runAll, run_understood]
      cases scene.run command origin with
      | error failure => rfl
      | ok result => simp only [ih]

end Scene

namespace Message

/-- What the messages have in common that is understood: why they are refused, or their commands. -/
def decodeUnderstood (text : String) : Except Failure (List Command) :=
  (decode text).map (·.map Command.understood)

end Message

namespace Hub

open Message

theorem handle_of_understood (hub : Hub) {first second : String}
    (same : decodeUnderstood first = decodeUnderstood second) :
    hub.handle first = hub.handle second := by
  rw [decodeUnderstood, decodeUnderstood] at same
  rw [handle, handle]
  cases one : decode first with
  | error failure =>
      cases other : decode second with
      | error reason =>
          rw [one, other] at same
          cases same
          rfl
      | ok commands =>
          rw [one, other] at same
          cases same
  | ok commands =>
      cases other : decode second with
      | error reason =>
          rw [one, other] at same
          cases same
      | ok others =>
          rw [one, other] at same
          have mapped : commands.map Command.understood = others.map Command.understood :=
            Except.ok.inj same
          have runs : hub.scene.runAll .renderer commands = hub.scene.runAll .renderer others := by
            rw [← Scene.runAll_understood, mapped, Scene.runAll_understood]
          have length : commands.length = others.length := by
            simpa using congrArg List.length mapped
          simp only [runs, length]

/-- Taking away what is not understood changes neither why a message is refused nor which commands
it has, but for the entries that are taken away.  So it does the same to every scene and every
hub. -/
theorem handle_prune (value : Value) :
    ofValue (prune value) = (ofValue value).map (·.map Command.understood) ∧
      (∀ (scene : Scene) (origin : Origin),
        (ofValue (prune value)).map (scene.runAll origin) =
          (ofValue value).map (scene.runAll origin)) ∧
      ∀ text, Value.parse text = .ok value →
        (∃ pruned, Value.parse pruned = .ok (prune value)) ∧
        ∀ pruned, Value.parse pruned = .ok (prune value) →
          ∀ hub : Hub, hub.handle pruned = hub.handle text := by
  refine ⟨ofValue_prune value, fun scene origin => ?_, fun text parsed => ⟨?_, ?_⟩⟩
  · rw [ofValue_prune]
    cases ofValue value with
    | error failure => rfl
    | ok commands => exact congrArg Except.ok (scene.runAll_understood origin commands)
  · exact ⟨_, parse_text (fits_prune (parse_fits parsed))⟩
  · intro pruned parsedToo hub
    refine hub.handle_of_understood ?_
    simp only [decodeUnderstood, decode, parsed, parsedToo, ofValue_prune]
    cases ofValue value with
    | error failure => rfl
    | ok commands => simp [Except.map, Command.understood_understood]

theorem handle_prune_mixed :
    let text := "[\"state\",\x7b\"cpu\":[1],\"ref-pos\":[1,2],\"zoom\":null\x7d," ++
      "\"new-src\",\x7b\"a\":\x7b\"level\":\x7b\x7d,\"pos\":[0.5,0],\"rgb\":[]\x7d\x7d," ++
      "\"mod-src\",\x7b\"b\":\x7b\"mood\":0\x7d\x7d]"
    let pruned := "[\"state\",\x7b\"ref-pos\":[1,2]\x7d," ++
      "\"new-src\",\x7b\"a\":\x7b\"pos\":[0.5,0]\x7d\x7d,\"mod-src\",\x7b\"b\":\x7b\x7d\x7d]"
    let value : Value := .list [
      .string "state", .object [("cpu", .list [.number (.int 1)]),
        ("ref-pos", .list [.number (.int 1), .number (.int 2)]), ("zoom", .null)],
      .string "new-src", .object [("a", .object [("level", .object []),
        ("pos", .list [.number (.real 0.5), .number (.int 0)]), ("rgb", .list [])])],
      .string "mod-src", .object [("b", .object [("mood", .number (.int 0))])]]
    Value.parse text = .ok value ∧ Value.parse pruned = .ok (prune value) ∧ prune value ≠ value ∧
      ofValue (prune value) = (ofValue value).map (·.map Command.understood) ∧
      (initial.handle text).answer = .error (.sourceNotFound "b") ∧
      (initial.handle text).hub.scene.isLive "a" = true ∧
      initial.handle pruned = initial.handle text := by
  intro text pruned value
  have parsed : Value.parse text = .ok value := by decide +kernel
  have parsedToo : Value.parse pruned = .ok (prune value) := by decide +kernel
  obtain ⟨decoded, _, handled⟩ := handle_prune value
  obtain ⟨_, same⟩ := handled text parsed
  exact ⟨parsed, parsedToo, by decide +kernel, decoded, by decide +kernel, by decide +kernel,
    same pruned parsedToo initial⟩

end Hub

end SoundScene
