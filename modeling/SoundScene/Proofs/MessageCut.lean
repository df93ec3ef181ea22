import SoundScene.Proofs.CommandText
import SoundScene.Proofs.InPlace
import SoundScene.Proofs.Told

/-!
Messages that stop half way.  A message is taken as a whole or not at all as far as its form goes;
after that its commands are done in turn, up to the first that fails, and that one does nothing
(`handle_cut`).  Two messages may be sent as one.
-/

namespace SoundScene

open Json

def Event.By (origin : Origin) (event : Event) : Prop :=
  ∀ other, event.origin? = some other → other = origin

namespace Scene

variable {origin : Origin}

/-- The commands succeed in place one after another, and each gives its list of events. -/
inductive Runs (origin : Origin) : Scene → List Command → List (List Event) → Scene → Prop
  | done {scene} : Runs origin scene [] [] scene
  | step {scene middle final command rest events later} :
      Edit.command command origin scene = .ok events middle →
      Runs origin middle rest later final →
      Runs origin scene (command :: rest) (events :: later) final

theorem command_ok_iff {scene next : Scene} {command : Command} {events : List Event} :
    Edit.command command origin scene = .ok events next ↔
      scene.run command origin = .ok (events, next) := by
  rw [Edit.command_eq, Edit.settled_eq_ok_iff]

theorem command_error_iff {scene next : Scene} {command : Command} {failure : Failure} :
    Edit.command command origin scene = .error failure next ↔
      scene.run command origin = .error failure ∧ next = scene := by
  rw [Edit.command_eq, Edit.settled_eq_error_iff]

theorem change_by {scene next : Scene} {change : StateChange} {events : List Event}
    (ran : scene.change change origin = .ok (events, next)) :
    ∀ event ∈ events, event.By origin := by
  obtain ⟨first, middle, before, after⟩ := change_cases ran
  have named : ∀ event ∈ first, event.By origin := by
    rcases before with ⟨_, rfl, _⟩ | ⟨set, _, _, rfl⟩
    · nofun
    · intro event member other named
      rw [List.mem_singleton.1 member] at named
      cases named
  rcases after with ⟨_, rfl, _⟩ | ⟨_, rfl, rfl⟩
  · exact named
  · intro event member
    rcases List.mem_append.1 member with member | member
    · exact named event member
    · rw [List.mem_singleton.1 member]
      rintro other ⟨⟩
      rfl

theorem run_by {scene next : Scene} {command : Command} {events : List Event}
    (ran : scene.run command origin = .ok (events, next)) : ∀ event ∈ events, event.By origin := by
  have listed {α : Type} {view : α → Event} (named : ∀ item, (view item).origin? = some origin)
      (items : List α) : ∀ event ∈ items.map view, event.By origin := by
    intro event member other held
    obtain ⟨item, _, rfl⟩ := List.mem_map.1 member
    rw [named item] at held
    exact (Option.some.inj held).symm
  cases command with
  | state entries => exact change_by ran
  | create batch =>
      obtain ⟨created, _, ran⟩ := ok_of_bind ran
      cases ran
      exact listed (fun _ => rfl) created.1
  | modify batch =>
      obtain ⟨changed, _, ran⟩ := ok_of_bind ran
      cases ran
      exact listed (fun _ => rfl) changed.1
  | delete ids =>
      obtain ⟨_, _, ran⟩ := ok_of_bind ran
      cases ran
      exact listed (fun _ => rfl) ids
  | subscribe topics => cases ran

theorem Runs.by {scene final : Scene} {commands : List Command} {events : List (List Event)}
    (runs : Runs origin scene commands events final) :
    ∀ event ∈ events.flatten, event.By origin := by
  induction runs with
  | done => nofun
  | step ran _ ih =>
      intro event member
      rw [List.flatten_cons, List.mem_append] at member
      rcases member with member | member
      · exact run_by (command_ok_iff.1 ran) event member
      · exact ih event member

theorem Runs.runAll_eq {scene final : Scene} {commands : List Command} {events : List (List Event)}
    (runs : Runs origin scene commands events final) :
    scene.runAll origin commands = ⟨final, events, none⟩ := by
  induction runs with
  | done => rfl
  | step ran _ ih =>
      rw [runAll, command_ok_iff.1 ran]
      dsimp only
      rw [ih]

theorem Runs.length_eq {scene final : Scene} {commands : List Command} {events : List (List Event)}
    (runs : Runs origin scene commands events final) : events.length = commands.length := by
  induction runs with
  | done => rfl
  | step _ _ ih => rw [List.length_cons, List.length_cons, ih]

theorem runAll_append (scene : Scene) (origin : Origin) (first second : List Command) :
    scene.runAll origin (first ++ second) =
      match (scene.runAll origin first).failure with
      | some _ => scene.runAll origin first
      | none =>
        let later := (scene.runAll origin first).scene.runAll origin second
        { later with events := (scene.runAll origin first).events ++ later.events } := by
  induction first generalizing scene with
  | nil => rfl
  | cons command rest ih =>
      rw [List.cons_append, runAll, runAll]
      cases scene.run command origin with
      | error failure => rfl
      | ok result =>
          dsimp only
          rw [ih]
          obtain ⟨middle, events, failure⟩ := result.2.runAll origin rest
          cases failure <;> rfl

theorem runAll_stops (scene : Scene) (origin : Origin) (commands : List Command) :
    let run := scene.runAll origin commands
    run.events.length ≤ commands.length ∧
      Runs origin scene (commands.take run.events.length) run.events run.scene ∧
      (run.failure = none ↔ run.events.length = commands.length) ∧
      ∀ command, commands[run.events.length]? = some command →
        ∃ failure, run.failure = some failure ∧
          Edit.command command origin run.scene = .error failure run.scene := by
  induction commands generalizing scene with
  | nil =>
      refine ⟨Nat.le_refl 0, .done, iff_of_true rfl rfl, ?_⟩
      rintro _ ⟨⟩
  | cons command rest ih =>
      rw [runAll]
      cases ran : scene.run command origin with
      | error failure =>
          refine ⟨Nat.zero_le _, .done, iff_of_false (Option.some_ne_none _) ?_, ?_⟩
          · exact (Nat.succ_ne_zero _).symm
          · rintro _ ⟨⟩
            exact ⟨failure, rfl, command_error_iff.2 ⟨ran, rfl⟩⟩
      | ok result =>
          obtain ⟨within, runs, all, stops⟩ := ih result.2
          refine ⟨Nat.succ_le_succ within, .step (command_ok_iff.2 ran) runs, ?_, stops⟩
          exact all.trans Nat.succ_inj.symm

end Scene

namespace Hub

open Scene

/-- The outcome of a message that is cut behind its first `count` commands. -/
structure CutAt (hub : Hub) (commands : List Command) (outcome : Outcome Nat) (count : Nat) :
    Prop where
  within : count ≤ commands.length
  runs : ∃ events, Runs .renderer hub.scene (commands.take count) events outcome.hub.scene ∧
    outcome.events = events.flatten
  rest : outcome.hub = { hub with scene := outcome.hub.scene }
  whole : outcome.answer = .ok commands.length ↔ count = commands.length
  stops : ∀ command, commands[count]? = some command → ∃ failure,
    outcome.answer = .error failure ∧
      Edit.command command .renderer outcome.hub.scene = .error failure outcome.hub.scene

theorem CutAt.count_eq {hub : Hub} {commands : List Command} {outcome : Outcome Nat} {count : Nat}
    (cut : CutAt hub commands outcome count) :
    count = (hub.scene.runAll .renderer commands).events.length := by
  obtain ⟨events, runs, _⟩ := cut.runs
  have length : events.length = count := by
    rw [runs.length_eq, List.length_take, Nat.min_eq_left cut.within]
  -- Behind the cut nothing succeeds: the list ends there, or its next command fails.
  have stopped : (outcome.hub.scene.runAll .renderer (commands.drop count)).events = [] := by
    cases behind : commands.drop count with
    | nil => rfl
    | cons command others =>
        have next : commands[count]? = some command := by
          rw [← List.head?_drop, behind]
          rfl
        obtain ⟨failure, _, failed⟩ := cut.stops command next
        rw [runAll, (command_error_iff.1 failed).1]
  have parts := runAll_append hub.scene .renderer (commands.take count) (commands.drop count)
  rw [List.take_append_drop, runs.runAll_eq] at parts
  rw [parts]
  dsimp only
  rw [stopped, List.append_nil, length]

theorem handle_eq {hub : Hub} {text : String} {commands : List Command}
    (decoded : Message.decode text = .ok commands) :
    hub.handle text =
      ⟨match (hub.scene.runAll .renderer commands).failure with
        | some failure => .error failure
        | none => .ok commands.length,
        (hub.scene.runAll .renderer commands).events.flatten,
        { hub with scene := (hub.scene.runAll .renderer commands).scene }⟩ := by
  unfold handle
  split
  · next failure refused =>
    rw [decoded] at refused
    cases refused
  · next other read =>
    rw [decoded] at read
    cases read
    rfl

theorem cutAt_handle {hub : Hub} {text : String} {commands : List Command}
    (decoded : Message.decode text = .ok commands) :
    CutAt hub commands (hub.handle text) (hub.scene.runAll .renderer commands).events.length := by
  obtain ⟨within, runs, all, stops⟩ := runAll_stops hub.scene .renderer commands
  rw [handle_eq decoded]
  refine ⟨within, ⟨_, runs, rfl⟩, rfl, ?_, ?_⟩
  · rw [← all]
    cases (hub.scene.runAll .renderer commands).failure with
    | none => exact iff_of_true rfl rfl
    | some failure => exact iff_of_false nofun nofun
  · intro command next
    obtain ⟨failure, held, failed⟩ := stops command next
    exact ⟨failure, by rw [held], failed⟩

def handleBoth (hub : Hub) (first second : String) : Outcome Nat :=
  let before := hub.handle first
  match before.answer with
  | .error _ => before
  | .ok count =>
    let after := before.hub.handle second
    ⟨after.answer.map (count + ·), before.events ++ after.events, after.hub⟩

theorem handle_of_append {hub : Hub} {first second whole : String} {before after : List Command}
    (readFirst : Message.decode first = .ok before) (readSecond : Message.decode second = .ok after)
    (readWhole : Message.decode whole = .ok (before ++ after)) :
    hub.handle whole = hub.handleBoth first second := by
  rw [handleBoth, handle_eq readWhole, handle_eq readFirst, runAll_append]
  cases failed : (hub.scene.runAll .renderer before).failure with
  | some failure => rw [failed]
  | none =>
      dsimp only
      rw [handle_eq readSecond]
      dsimp only
      cases ((hub.scene.runAll .renderer before).scene.runAll .renderer after).failure with
      | some failure => rw [List.flatten_append]; rfl
      | none => rw [List.flatten_append, List.length_append]; rfl

end Hub

namespace Message

/-- The items of the whole are those of the first text and then those of the second. -/
def Joins (first second whole : String) : Prop :=
  ∃ before after, Value.parse first = .ok (.list before) ∧
    Value.parse second = .ok (.list after) ∧ Value.parse whole = .ok (.list (before ++ after))

theorem ofItems_append {items others : List Value} {commands later : List Command}
    (ran : ofItems items = .ok commands) (more : ofItems others = .ok later) :
    ofItems (items ++ others) = .ok (commands ++ later) := by
  induction items using ofItems.induct generalizing commands with
  | case1 =>
      cases ran
      exact more
  | case2 name => cases ran
  | case3 name payload rest ih =>
      rw [ofItems] at ran
      obtain ⟨first, head, ran⟩ := ok_of_bind ran
      obtain ⟨tail, read, ran⟩ := ok_of_bind ran
      cases ran
      rw [List.cons_append, List.cons_append, ofItems, head, ih read]
      rfl
  | case4 name payload rest other =>
      rw [ofItems] at ran
      · cases ran
      · exact other

theorem exists_joins {first second : String} {before after : List Command}
    (readFirst : decode first = .ok before) (readSecond : decode second = .ok after) :
    ∃ whole, Joins first second whole := by
  obtain ⟨items, parsed, _⟩ := list_of_decode readFirst
  obtain ⟨others, parsedToo, _⟩ := list_of_decode readSecond
  have fits : Fits depthLimit (.list (items ++ others)) := by
    apply Fits.list
    intro item member
    rcases List.mem_append.1 member with member | member
    · exact (parse_fits parsed).of_list item member
    · exact (parse_fits parsedToo).of_list item member
  exact ⟨(Value.list (items ++ others)).text, items, others, parsed, parsedToo, parse_text fits⟩

theorem Joins.decode_eq {first second whole : String} {before after : List Command}
    (joins : Joins first second whole) (readFirst : decode first = .ok before)
    (readSecond : decode second = .ok after) : decode whole = .ok (before ++ after) := by
  obtain ⟨items, others, parsed, parsedToo, joined⟩ := joins
  rw [decode, parsed] at readFirst
  rw [decode, parsedToo] at readSecond
  rw [decode, joined]
  exact ofItems_append readFirst readSecond

end Message

namespace Hub

open Message

/-- A message that cannot be read changes nothing.  One that can be read is cut at one place: the
commands before it have all been done and published, the next one, if there is any, is the failure
and has done nothing.  A message that joins two others is handled as they are in turn. -/
theorem handle_cut (hub : Hub) (text : String) :
    (∀ failure, decode text = .error failure → hub.handle text = ⟨.error failure, [], hub⟩) ∧
      ∀ commands, decode text = .ok commands →
        (∃! count, CutAt hub commands (hub.handle text) count) ∧
        (∀ event ∈ (hub.handle text).events, event.By .renderer) ∧
        ∀ second later, decode second = .ok later →
          (∃ whole, Joins text second whole) ∧
            ∀ whole, Joins text second whole → hub.handle whole = hub.handleBoth text second := by
  refine ⟨fun failure refused => by rw [handle, refused], fun commands decoded => ?_⟩
  have cut : CutAt hub commands (hub.handle text) _ := cutAt_handle decoded
  refine ⟨⟨_, cut, fun count other => other.count_eq⟩, ?_, fun second later readSecond => ?_⟩
  · obtain ⟨events, runs, published⟩ := cut.runs
    rw [published]
    exact runs.by
  · refine ⟨exists_joins decoded readSecond, fun whole joins => ?_⟩
    exact handle_of_append decoded readSecond (joins.decode_eq decoded readSecond)

theorem handle_cut_halfway :
    let text := "[\"new-src\",\x7b\"a\":\x7b\x7d\x7d,\"del-src\",[\"b\"],\"del-src\",[\"a\"]]"
    let second := "[\"mod-src\",\x7b\"a\":\x7b\x7d\x7d]"
    let broken := "[\"new-src\",\x7b\"a\":\x7b\x7d\x7d,\"jump\",null]"
    let commands : List Command := [.create [("a", {})], .delete ["b"], .delete ["a"]]
    decode text = .ok commands ∧ decode second = .ok [.modify [("a", {})]] ∧
      decode broken = .error (.unknownCommand "jump") ∧
      initial.handle broken = ⟨.error (.unknownCommand "jump"), [], initial⟩ ∧
      (∃! count, CutAt initial commands (initial.handle text) count) ∧
      CutAt initial commands (initial.handle text) 1 ∧
      (∀ event ∈ (initial.handle text).events, event.By .renderer) ∧
      (∃ whole, Joins text second whole) ∧
      ∀ whole, Joins text second whole → initial.handle whole = initial.handleBoth text second := by
  intro text second broken commands
  have decoded : decode text = .ok commands := by decide +kernel
  have readSecond : decode second = .ok [.modify [("a", {})]] := by decide +kernel
  have refused : decode broken = .error (.unknownCommand "jump") := by decide +kernel
  obtain ⟨unique, told, joined⟩ := (handle_cut initial text).2 commands decoded
  obtain ⟨exists_whole, same⟩ := joined second _ readSecond
  have unchanged := (handle_cut initial broken).1 _ refused
  exact ⟨decoded, readSecond, refused, unchanged, unique, cutAt_handle decoded, told, exists_whole,
    same⟩

end Hub

end SoundScene
