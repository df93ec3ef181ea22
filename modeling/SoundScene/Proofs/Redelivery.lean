import SoundScene.Proofs.Commuting
import SoundScene.Proofs.Lockstep

/-!
Commands that arrive twice.  Patches overwrite, sources are made and deleted only if that has not
happened yet, and loudspeakers are told only once.  So for one reason or another a command that
comes again leaves the scene as it is, and it is known beforehand whether it is refused
(`command_again`).
-/

namespace SoundScene

namespace Source

/-- The patch that does what one patch and then another does. -/
def Patch.followedBy (first second : Patch) : Patch where
  position := second.position.or first.position
  orientation := second.orientation.or first.orientation
  active := second.active.or first.active
  name := second.name.or first.name
  model := second.model.or first.model
  volume := second.volume.or first.volume
  mute := second.mute.or first.mute
  fixed := second.fixed.or first.fixed

theorem apply_followedBy (source : Source) (first second : Patch) :
    (source.apply first).apply second = source.apply (first.followedBy second) := by
  simp only [apply, Patch.followedBy, Option.getD_or, Option.or_assoc]

theorem foldl_apply (source : Source) (first : Patch) (patches : List Patch) :
    patches.foldl apply (source.apply first) =
      source.apply (patches.foldl Patch.followedBy first) := by
  induction patches generalizing first with
  | nil => rfl
  | cons patch rest ih => rw [List.foldl_cons, apply_followedBy, ih, List.foldl_cons]

theorem foldl_apply_again (source : Source) (patches : List Patch) :
    patches.foldl apply (patches.foldl apply source) = patches.foldl apply source := by
  have one (source : Source) : patches.foldl apply source =
      source.apply (patches.foldl Patch.followedBy {}) := foldl_apply source {} patches
  rw [one (patches.foldl apply source), one source, apply_apply]

end Source

/-- What a command is refused with if it has just succeeded; nothing if it may come again. -/
def Command.refusal? : Command → Option Failure
  | .create batch => batch.head?.map fun entry => .sourceExists entry.1
  | .delete ids => ids.head?.map .sourceNotFound
  | .state entries => (lastLoudspeakers entries).map fun _ => .loudspeakersExist
  | .modify _ | .subscribe _ => none

namespace Scene

variable {scene next : Scene}

theorem isLive_of_create {batch : Batch} {created : List Source}
    (ran : scene.create batch = .ok (created, next)) {id : String}
    (listed : id ∈ batch.map (·.1)) : next.isLive id = true := by
  have kept (held : Option Source) (there : held.isSome = true ∨ id ∈ batch.map (·.1)) :
      ((Command.create batch).writes.foldl (writeOne id) held).isSome = true := by
    clear ran listed
    induction batch generalizing held with
    | nil => simpa [Command.writes] using there
    | cons entry rest ih =>
        refine ih _ ?_
        rw [writeOne]
        by_cases same : entry.1 = id
        · exact .inl (by rw [if_pos same]; rfl)
        · rw [if_neg same]
          simpa [Ne.symm same] using there
  have found := source?_writeAll scene (Command.create batch).writes id
  rw [← create_eq_writeAll ran] at found
  exact (congrArg Option.isSome found).trans (kept _ (.inr listed))

theorem isLive_of_delete {ids : List String} (ran : scene.delete ids = .ok next) {id : String}
    (listed : id ∈ ids) : next.isLive id = false := by
  have gone (held : Option Source) (missing : held = none ∨ id ∈ ids) :
      (Command.delete ids).writes.foldl (writeOne id) held = none := by
    clear ran listed
    induction ids generalizing held with
    | nil => simpa [Command.writes] using missing
    | cons other rest ih =>
        refine ih _ ?_
        rw [writeOne]
        by_cases same : other = id
        · exact .inl (if_pos same)
        · rw [if_neg same]
          simpa [Ne.symm same] using missing
  have found := source?_writeAll scene (Command.delete ids).writes id
  rw [← delete_eq_writeAll ran, gone _ (.inr listed)] at found
  exact congrArg Option.isSome found

theorem create_again {batch : Batch} {created : List Source} {failure : Failure}
    (ran : scene.create batch = .ok (created, next))
    (refused : (Command.create batch).refusal? = some failure) :
    next.create batch = .error failure := by
  cases batch with
  | nil => cases refused
  | cons entry rest =>
      cases refused
      have live : next.isLive entry.1 = true := isLive_of_create ran (by simp)
      simp [create, firstRefused, live]

theorem delete_again {ids : List String} {failure : Failure} (ran : scene.delete ids = .ok next)
    (refused : (Command.delete ids).refusal? = some failure) :
    next.delete ids = .error failure := by
  cases ids with
  | nil => cases refused
  | cons id rest =>
      cases refused
      have gone : next.isLive id = false := isLive_of_delete ran (by simp)
      simp [delete, firstRefused, gone]

theorem modify_again {batch : Batch} {changed : List Source}
    (ran : scene.modify batch = .ok (changed, next)) :
    ∃ more, next.modify batch = .ok (more, next) := by
  have live : next.isLive = scene.isLive := by
    funext id
    have found := congrArg Option.isSome (source?_modify ran id)
    rwa [Option.isSome_map] at found
  have passes : (batch.map (·.1)).find? (fun id => !next.isLive id) = none := by
    rw [live]
    rw [modify] at ran
    split at ran
    · cases ran
    · assumption
  have again : next.modify batch = .ok ((patchAll next.sources batch).1,
      { next with sources := (patchAll next.sources batch).2 }) := by
    rw [modify, passes]
  have same : { next with sources := (patchAll next.sources batch).2 } = next := by
    refine eq_of_parts (Table.ext_find? fun id => ?_) rfl rfl
    refine (source?_modify again id).trans ?_
    have found : next.sources.find? id = _ := source?_modify ran id
    rw [source?, found, Option.map_map]
    exact congrArg (Option.map · _) (funext fun source => Source.foldl_apply_again ..)
  exact ⟨_, again.trans (by rw [same])⟩

theorem stated_again (scene : Scene) (entries : List StateEntry) :
    (scene.stated entries).stated entries = scene.stated entries := by
  have placed : entries.foldl StateEntry.place (entries.foldl StateEntry.place scene.reference) =
      entries.foldl StateEntry.place scene.reference := by
    simp only [← StateChange.apply_ofEntries, Reference.apply_apply]
  simp only [stated, placed, ← Option.or_assoc, Option.or_self]

theorem run_state_again {entries : List StateEntry} {first : Origin} {events : List Event}
    (ran : scene.run (.state entries) first = .ok (events, next)) (second : Origin) :
    match (Command.state entries).refusal? with
    | some failure => next.run (.state entries) second = .error failure
    | none => ∃ more, next.run (.state entries) second = .ok (more, next) := by
  by_cases refused : scene.loudspeakers.isSome = true ∧ ∃ set, .loudspeakers set ∈ entries
  · obtain ⟨known, carries⟩ := refused
    obtain ⟨held, known⟩ := Option.isSome_iff_exists.1 known
    have carried : (Command.state entries).CarriesLoudspeakers := carries
    rw [run_of_known known carried] at ran
    cases ran
  · rw [run_state_of_fits first refused] at ran
    cases ran
    rw [Command.refusal?]
    cases last : lastLoudspeakers entries with
    | some set =>
        have known : (scene.stated entries).loudspeakers = some set := by
          rw [stated, last, Option.some_or]
        have carried : (Command.state entries).CarriesLoudspeakers := by
          by_contra silent
          rw [lastLoudspeakers_eq_none_iff.2 (not_exists.1 silent)] at last
          cases last
        exact run_of_known known carried second
    | none =>
        have fits : ¬ ((scene.stated entries).loudspeakers.isSome = true ∧
            ∃ set, .loudspeakers set ∈ entries) := by
          rintro ⟨_, set, carried⟩
          exact lastLoudspeakers_eq_none_iff.1 last set carried
        have again := run_state_of_fits second fits
        rw [stated_again] at again
        exact ⟨_, again⟩

theorem run_again {stated : Command} {first : Origin} {events : List Event}
    (ran : scene.run stated first = .ok (events, next)) (second : Origin) :
    match stated.refusal? with
    | some failure => next.run stated second = .error failure
    | none => ∃ more, next.run stated second = .ok (more, next) := by
  cases stated with
  | state entries => exact run_state_again ran second
  | create batch =>
      obtain ⟨made, created, ran⟩ := ok_of_bind ran
      cases ran
      cases refused : (Command.create batch).refusal? with
      | some failure =>
          dsimp only
          rw [run, create_again created refused]
          rfl
      | none =>
          rw [Command.refusal?, Option.map_eq_none_iff, List.head?_eq_none_iff] at refused
          rw [refused]
          exact ⟨[], rfl⟩
  | modify batch =>
      obtain ⟨made, changed, ran⟩ := ok_of_bind ran
      cases ran
      obtain ⟨more, again⟩ := modify_again changed
      refine ⟨more.map fun source => .modified source second, ?_⟩
      rw [run, again]
      rfl
  | delete ids =>
      obtain ⟨made, deleted, ran⟩ := ok_of_bind ran
      cases ran
      cases refused : (Command.delete ids).refusal? with
      | some failure =>
          dsimp only
          rw [run, delete_again deleted refused]
          rfl
      | none =>
          rw [Command.refusal?, Option.map_eq_none_iff, List.head?_eq_none_iff] at refused
          rw [refused]
          exact ⟨[], rfl⟩
  | subscribe topics => cases ran

theorem statedEvents_onAccountOf (scene : Scene) (entries : List StateEntry)
    (first second : Origin) :
    (scene.statedEvents entries first).map (Event.onAccountOf second) =
      scene.statedEvents entries second := by
  rw [statedEvents, statedEvents, List.map_append, List.map_map]
  refine congrArg (_ ++ ·) ?_
  split <;> rfl

theorem run_onAccountOf (scene : Scene) (stated : Command) (first second : Origin) :
    (scene.run stated first).map (fun told => (told.1.map (Event.onAccountOf second), told.2)) =
      scene.run stated second := by
  cases stated with
  | state entries =>
      by_cases refused : scene.loudspeakers.isSome = true ∧ ∃ set, .loudspeakers set ∈ entries
      · obtain ⟨known, carries⟩ := refused
        obtain ⟨held, known⟩ := Option.isSome_iff_exists.1 known
        have carried : (Command.state entries).CarriesLoudspeakers := carries
        rw [run_of_known known carried, run_of_known known carried]
        rfl
      · rw [run_state_of_fits first refused, run_state_of_fits second refused, Except.map,
          statedEvents_onAccountOf]
  | create batch =>
      rw [run, run]
      cases scene.create batch with
      | error failure => rfl
      | ok made => simp [bind, Except.bind, pure, Except.pure, Except.map, Event.onAccountOf]
  | modify batch =>
      rw [run, run]
      cases scene.modify batch with
      | error failure => rfl
      | ok made => simp [bind, Except.bind, pure, Except.pure, Except.map, Event.onAccountOf]
  | delete ids =>
      rw [run, run]
      cases scene.delete ids with
      | error failure => rfl
      | ok made => simp [bind, Except.bind, pure, Except.pure, Except.map, Event.onAccountOf]
  | subscribe topics => rfl

end Scene

namespace Edit

open Scene

/-- A command that comes twice leaves what it has left the first time.  If it has failed it fails
again, and if it has succeeded it is refused or succeeds again, depending on the command alone. -/
theorem command_again (stated : Command) (first second : Origin) (scene : Scene) :
    let once := left (command stated first scene)
    left (command stated second once) = once ∧
      match answer (command stated first scene) with
      | .error failure => answer (command stated second once) = .error failure
      | .ok _ => match stated.refusal? with
        | some failure => answer (command stated second once) = .error failure
        | none => ∃ more, answer (command stated second once) = .ok more := by
  rw [command_eq stated first]
  cases ran : scene.run stated first with
  | error failure =>
      have again : scene.run stated second = .error failure := by
        rw [← run_onAccountOf scene stated first, ran]
        rfl
      dsimp only [settled, left, answer]
      rw [command_eq, again]
      exact ⟨rfl, rfl⟩
  | ok result =>
      have again := run_again ran second
      dsimp only [settled, left, answer]
      rw [command_eq]
      cases refused : stated.refusal? with
      | some failure =>
          rw [refused] at again
          rw [again]
          exact ⟨rfl, rfl⟩
      | none =>
          rw [refused] at again
          obtain ⟨more, again⟩ := again
          rw [again]
          exact ⟨rfl, more, rfl⟩

theorem command_again_repeated :
    let scene := initial.writeAll [.create "a" {}]
    let patched : Command := .modify [("a", { mute := some true, volume := some 0.5 }),
      ("a", { mute := some false, fixed := some true })]
    let entries : List StateEntry := [.position ⟨1.0, 0.0, 0.0⟩, .loudspeakers []]
    let doubled : Command := .create [("b", {}), ("b", {})]
    left (command patched .operator (left (command patched .renderer scene))) =
        left (command patched .renderer scene) ∧
      (∃ more, answer (command patched .operator (left (command patched .renderer scene))) =
        .ok more) ∧
      answer (command (.state entries) .renderer
        (left (command (.state entries) .renderer scene))) = .error .loudspeakersExist ∧
      answer (command doubled .renderer (left (command doubled .renderer scene))) =
        .error (.sourceExists "b") := by
  intro scene patched entries doubled
  obtain ⟨kept, succeeds⟩ := command_again patched .renderer .operator scene
  obtain ⟨_, known⟩ := command_again (.state entries) .renderer .renderer scene
  obtain ⟨_, refused⟩ := command_again doubled .renderer .renderer scene
  exact ⟨kept, succeeds, known, refused⟩

end Edit

end SoundScene
