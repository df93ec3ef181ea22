import SoundScene.Hub
import SoundScene.Proofs.Chains

/-!
What events tell.  Each event stands for one change of the scene, and a command leads from the scene
before it to the scene after it by the changes that its events tell of, in their order (`run_told`).
A copy of the scene can therefore be kept by looking at nothing but the events
(`ToldAll.replayAll_eq`).
-/

namespace SoundScene

namespace Scene

def WellKeyed (scene : Scene) : Prop :=
  ∀ key source, scene.source? key = some source → source.id = key

inductive Reachable : Scene → Prop
  | initial : Reachable initial
  | run {scene next command origin events} : Reachable scene →
      scene.run command origin = .ok (events, next) → Reachable next

def replay (scene : Scene) : Event → Scene
  | .created source _ | .modified source _ =>
    { scene with sources := scene.sources.insert source.id source }
  | .deleted id _ => { scene with sources := scene.sources.erase id }
  | .referenceChanged reference _ => { scene with reference }
  | .loudspeakersCreated set => { scene with loudspeakers := some set }

def replayAll (scene : Scene) (events : List Event) : Scene := events.foldl replay scene

/-- One change of a scene, with the event that tells of it. -/
inductive Told : Scene → Event → Scene → Prop
  | created {scene entry origin} : scene.isLive entry.1 = false →
      Told scene (.created (fresh entry) origin)
        { scene with sources := scene.sources.insert entry.1 (fresh entry) }
  | modified {scene id source patch origin} : scene.source? id = some source →
      Told scene (.modified (source.apply patch) origin)
        { scene with sources := scene.sources.insert id (source.apply patch) }
  | deleted {scene id origin} : scene.isLive id = true →
      Told scene (.deleted id origin) { scene with sources := scene.sources.erase id }
  | referenceChanged {scene patch origin} : patch.isEmpty = false →
      Told scene (.referenceChanged (scene.reference.apply patch) origin)
        (scene.patchReference patch)
  | loudspeakersCreated {scene set} : scene.loudspeakers = none →
      Told scene (.loudspeakersCreated set) { scene with loudspeakers := some set }

inductive ToldAll : Scene → List Event → Scene → Prop
  | done {scene} : ToldAll scene [] scene
  | step {scene middle final event events} : Told scene event middle →
      ToldAll middle events final → ToldAll scene (event :: events) final

theorem Told.toldAll {scene next : Scene} {event : Event} (told : Told scene event next) :
    ToldAll scene [event] next :=
  .step told .done

theorem wellKeyed_initial : initial.WellKeyed := by
  intro key source found
  simp [initial, source?, Table.find?, Table.empty, Keyed.find?] at found

theorem WellKeyed.insert {scene : Scene} (keyed : scene.WellKeyed) (source : Source) :
    { scene with sources := scene.sources.insert source.id source }.WellKeyed := by
  intro key other found
  simp only [source?, Table.find?_insert] at found
  split at found
  · rename_i same
    cases found
    exact same
  · exact keyed key other found

theorem WellKeyed.erase {scene : Scene} (keyed : scene.WellKeyed) (id : String) :
    { scene with sources := scene.sources.erase id }.WellKeyed := by
  intro key other found
  simp only [source?, Table.find?_erase] at found
  split at found
  · simp at found
  · exact keyed key other found

theorem Told.wellKeyed {scene next : Scene} {event : Event} (told : Told scene event next)
    (keyed : scene.WellKeyed) : next.WellKeyed := by
  cases told with
  | created _ => exact keyed.insert (fresh _)
  | modified found =>
      have same := keyed _ _ found
      subst same
      exact keyed.insert (Source.apply _ _)
  | deleted _ => exact keyed.erase _
  | referenceChanged _ => exact keyed
  | loudspeakersCreated _ => exact keyed

theorem Told.replay_eq {scene next : Scene} {event : Event} (told : Told scene event next)
    (keyed : scene.WellKeyed) : scene.replay event = next := by
  cases told with
  | created _ => rfl
  | modified found =>
      have same := keyed _ _ found
      subst same
      rfl
  | deleted _ => rfl
  | referenceChanged _ => rfl
  | loudspeakersCreated _ => rfl

theorem ToldAll.append {scene middle final : Scene} {first second : List Event}
    (told : ToldAll scene first middle) (more : ToldAll middle second final) :
    ToldAll scene (first ++ second) final := by
  induction told with
  | done => exact more
  | step change _ ih => exact .step change (ih more)

theorem ToldAll.wellKeyed {scene final : Scene} {events : List Event}
    (told : ToldAll scene events final) (keyed : scene.WellKeyed) : final.WellKeyed := by
  induction told with
  | done => exact keyed
  | step change _ ih => exact ih (change.wellKeyed keyed)

theorem ToldAll.replayAll_eq {scene final : Scene} {events : List Event}
    (told : ToldAll scene events final) (keyed : scene.WellKeyed) :
    scene.replayAll events = final := by
  induction told with
  | done => rfl
  | step change _ ih =>
      rw [replayAll, List.foldl_cons, change.replay_eq keyed]
      exact ih (change.wellKeyed keyed)

theorem isLive_insert (scene : Scene) (key id : String) (source : Source) :
    { scene with sources := scene.sources.insert key source }.isLive id =
      (decide (key = id) || scene.isLive id) := by
  by_cases same : key = id <;> simp [isLive, Table.contains, Table.find?_insert, same]

theorem isLive_erase (scene : Scene) (key id : String) :
    { scene with sources := scene.sources.erase key }.isLive id =
      (!decide (key = id) && scene.isLive id) := by
  by_cases same : key = id <;> simp [isLive, Table.contains, Table.find?_erase, same]

theorem ToldAll.split {scene final : Scene} {first second : List Event}
    (told : ToldAll scene (first ++ second) final) :
    ∃ middle, ToldAll scene first middle ∧ ToldAll middle second final := by
  induction first generalizing scene with
  | nil => exact ⟨scene, .done, told⟩
  | cons event rest ih =>
      cases told with
      | step change others =>
          obtain ⟨middle, before, after⟩ := ih others
          exact ⟨middle, .step change before, after⟩

/-- A source that was deleted is not modified before it is created again. -/
def RespectsDeletion (events : List Event) : Prop :=
  ∀ before between after id source origin deleter,
    events = before ++ .deleted id deleter :: between ++ .modified source origin :: after →
    source.id = id → ∃ created creator, .created created creator ∈ between ∧ created.id = id

theorem Told.isLive_eq_false {scene next : Scene} {event : Event} {id : String}
    (told : Told scene event next) (unknown : scene.isLive id = false)
    (others : ∀ created creator, event = .created created creator → created.id ≠ id) :
    next.isLive id = false := by
  cases told with
  | @created entry origin _ =>
      have different : entry.1 ≠ id := others (fresh entry) origin rfl
      rw [isLive_insert, unknown]
      simp [different]
  | @modified key source _ _ found =>
      have different : key ≠ id := by
        rintro rfl
        rw [isLive, Table.contains] at unknown
        rw [source?] at found
        simp [found] at unknown
      rw [isLive_insert, unknown]
      simp [different]
  | deleted _ =>
      rw [isLive_erase, unknown]
      simp
  | referenceChanged _ => exact unknown
  | loudspeakersCreated _ => exact unknown

theorem ToldAll.isLive_eq_false {scene final : Scene} {events : List Event} {id : String}
    (told : ToldAll scene events final) (unknown : scene.isLive id = false)
    (others : ∀ created creator, .created created creator ∈ events → created.id ≠ id) :
    final.isLive id = false := by
  induction told with
  | done => exact unknown
  | step change _ ih =>
      refine ih (change.isLive_eq_false unknown ?_) ?_
      · rintro created creator rfl
        exact others created creator (by simp)
      · exact fun created creator member => others created creator (by simp [member])

theorem ToldAll.respectsDeletion {scene final : Scene} {events : List Event}
    (told : ToldAll scene events final) (keyed : scene.WellKeyed) : RespectsDeletion events := by
  intro before between after id source origin deleter same named
  subst same
  obtain ⟨atModified, untilModified, fromModified⟩ := told.split
  obtain ⟨atDeleted, untilDeleted, fromDeleted⟩ := untilModified.split
  by_cases created : ∃ created creator, .created created creator ∈ between ∧ created.id = id
  · exact created
  · exfalso
    have others : ∀ made creator, .created made creator ∈ between → made.id ≠ id :=
      fun made creator member equal => created ⟨made, creator, member, equal⟩
    have keyedThere := fromDeleted.wellKeyed (untilDeleted.wellKeyed keyed)
    have gone : atModified.isLive id = false := by
      cases fromDeleted with
      | step erased untouched =>
          refine untouched.isLive_eq_false ?_ others
          cases erased with
          | deleted _ => simp [isLive_erase]
    cases fromModified with
    | step patched _ =>
        cases patched with
        | @modified key held _ _ found =>
            have equal : held.id = key := keyedThere key held found
            have live : key = id := equal.symm.trans named
            rw [isLive, Table.contains] at gone
            rw [source?] at found
            rw [← live, found] at gone
            simp at gone

/-! The operations of a scene, change by change. -/

theorem firstRefused_eq_none {refused : String → Bool} {seen ids : List String}
    (passed : firstRefused refused seen ids = none) :
    ids.Nodup ∧ ∀ id ∈ ids, refused id = false ∧ id ∉ seen := by
  induction ids generalizing seen with
  | nil => simp
  | cons id rest ih =>
      simp only [firstRefused] at passed
      split at passed
      · simp at passed
      · rename_i fits
        simp only [Bool.or_eq_true, List.contains_iff_mem, not_or, Bool.not_eq_true] at fits
        obtain ⟨distinct, others⟩ := ih passed
        refine ⟨List.nodup_cons.2 ⟨fun again => ?_, distinct⟩, fun other member => ?_⟩
        · exact (others id again).2 (by simp)
        · rcases List.mem_cons.1 member with rfl | member
          · exact fits
          · exact ⟨(others other member).1, fun old => (others other member).2 (by simp [old])⟩

theorem create_told {scene next : Scene} {batch : Batch} {created : List Source}
    (ran : scene.create batch = .ok (created, next)) (origin : Origin) :
    ToldAll scene (created.map fun source => .created source origin) next := by
  simp only [create] at ran
  split at ran
  · simp at ran
  · rename_i passed
    obtain ⟨distinct, unknown⟩ := firstRefused_eq_none passed
    simp only [Except.ok.injEq, Prod.mk.injEq] at ran
    obtain ⟨rfl, rfl⟩ := ran
    clear passed
    induction batch generalizing scene with
    | nil => exact .done
    | cons entry rest ih =>
        simp only [List.map_cons, List.nodup_cons, List.mem_cons, forall_eq_or_imp] at distinct unknown
        refine .step (.created unknown.1.1) (ih distinct.2 fun id member => ⟨?_, by simp⟩)
        rw [isLive_insert]
        have different : entry.1 ≠ id := fun same => distinct.1 (same ▸ member)
        simp [different, (unknown.2 id member).1]

theorem patchAll_told (scene : Scene) (batch : Batch) (origin : Origin) :
    ToldAll scene ((patchAll scene.sources batch).1.map fun source => .modified source origin)
      { scene with sources := (patchAll scene.sources batch).2 } := by
  induction batch generalizing scene with
  | nil => exact .done
  | cons entry rest ih =>
      obtain ⟨id, patch⟩ := entry
      simp only [patchAll]
      split
      · rename_i source found
        exact .step (.modified found)
          (ih { scene with sources := scene.sources.insert id (source.apply patch) })
      · exact ih scene

theorem modify_told {scene next : Scene} {batch : Batch} {changed : List Source}
    (ran : scene.modify batch = .ok (changed, next)) (origin : Origin) :
    ToldAll scene (changed.map fun source => .modified source origin) next := by
  simp only [modify] at ran
  split at ran
  · simp at ran
  · simp only [Except.ok.injEq, Prod.mk.injEq] at ran
    obtain ⟨rfl, rfl⟩ := ran
    exact patchAll_told scene batch origin

theorem delete_told {scene next : Scene} {ids : List String}
    (ran : scene.delete ids = .ok next) (origin : Origin) :
    ToldAll scene (ids.map fun id => .deleted id origin) next := by
  simp only [delete] at ran
  split at ran
  · simp at ran
  · rename_i passed
    obtain ⟨distinct, known⟩ := firstRefused_eq_none passed
    simp only [Except.ok.injEq] at ran
    subst ran
    clear passed
    induction ids generalizing scene with
    | nil => exact .done
    | cons id rest ih =>
        simp only [List.nodup_cons, List.mem_cons, forall_eq_or_imp, Bool.not_eq_false'] at distinct known
        refine .step (.deleted known.1.1) (ih distinct.2 fun other member => ⟨?_, by simp⟩)
        rw [isLive_erase]
        have different : id ≠ other := fun same => distinct.1 (same ▸ member)
        simp [different, (known.2 other member).1]

theorem createLoudspeakers_told {scene next : Scene} {set : List Loudspeaker}
    (ran : scene.createLoudspeakers set = .ok next) :
    Told scene (.loudspeakersCreated set) next := by
  simp only [createLoudspeakers] at ran
  split at ran
  · simp at ran
  · rename_i unknown
    simp only [Except.ok.injEq] at ran
    exact ran ▸ .loudspeakersCreated unknown

theorem patchReference_told (scene : Scene) (patch : Reference.Patch) (origin : Origin)
    (filled : patch.isEmpty = false) :
    Told scene (.referenceChanged (scene.patchReference patch).reference origin)
      (scene.patchReference patch) :=
  .referenceChanged filled

theorem change_cases {scene next : Scene} {change : StateChange} {origin : Origin}
    {events : List Event} (ran : scene.change change origin = .ok (events, next)) :
    ∃ first middle,
      (change.loudspeakers = none ∧ first = [] ∧ middle = scene ∨
        ∃ set, change.loudspeakers = some set ∧ scene.createLoudspeakers set = .ok middle ∧
          first = [.loudspeakersCreated set]) ∧
      (change.reference.isEmpty = true ∧ events = first ∧ next = middle ∨
        change.reference.isEmpty = false ∧ next = middle.patchReference change.reference ∧
          events = first ++ [.referenceChanged next.reference origin]) := by
  have patched {first : List Event} {middle : Scene}
      (ran : (if change.reference.isEmpty then (.ok (first, middle) : Except Failure _)
        else .ok (first ++ [.referenceChanged (middle.patchReference change.reference).reference
          origin], middle.patchReference change.reference)) = .ok (events, next)) :
      change.reference.isEmpty = true ∧ events = first ∧ next = middle ∨
        change.reference.isEmpty = false ∧ next = middle.patchReference change.reference ∧
          events = first ++ [.referenceChanged next.reference origin] := by
    by_cases empty : change.reference.isEmpty = true
    · rw [if_pos empty] at ran
      cases ran
      exact .inl ⟨empty, rfl, rfl⟩
    · rw [if_neg empty] at ran
      cases ran
      exact .inr ⟨Bool.not_eq_true _ ▸ empty, rfl, rfl⟩
  rw [Scene.change] at ran
  cases held : change.loudspeakers with
  | none =>
      rw [held] at ran
      obtain ⟨_, made, ran⟩ := ok_of_bind ran
      cases made
      exact ⟨[], scene, .inl ⟨rfl, rfl, rfl⟩, patched ran⟩
  | some set =>
      rw [held] at ran
      obtain ⟨_, made, ran⟩ := ok_of_bind ran
      obtain ⟨middle, created, made⟩ := ok_of_map made
      cases made
      exact ⟨[.loudspeakersCreated set], middle, .inr ⟨set, rfl, created, rfl⟩, patched ran⟩

theorem change_told {scene next : Scene} {change : StateChange} {origin : Origin}
    {events : List Event} (ran : scene.change change origin = .ok (events, next)) :
    ToldAll scene events next := by
  obtain ⟨first, middle, before, after⟩ := change_cases ran
  have told : ToldAll scene first middle := by
    rcases before with ⟨_, rfl, rfl⟩ | ⟨set, _, created, rfl⟩
    · exact .done
    · exact (createLoudspeakers_told created).toldAll
  rcases after with ⟨_, rfl, rfl⟩ | ⟨filled, rfl, rfl⟩
  · exact told
  · exact told.append (patchReference_told middle _ origin filled).toldAll

theorem run_told {scene next : Scene} {command : Command} {origin : Origin} {events : List Event}
    (ran : scene.run command origin = .ok (events, next)) : ToldAll scene events next := by
  cases command with
  | state entries => exact change_told ran
  | create batch =>
      obtain ⟨_, made, ran⟩ := ok_of_bind ran
      cases ran
      exact create_told made origin
  | modify batch =>
      obtain ⟨_, made, ran⟩ := ok_of_bind ran
      cases ran
      exact modify_told made origin
  | delete ids =>
      obtain ⟨_, made, ran⟩ := ok_of_bind ran
      cases ran
      exact delete_told made origin
  | subscribe topics => simp [run] at ran

theorem Reachable.wellKeyed {scene : Scene} (reachable : scene.Reachable) : scene.WellKeyed := by
  induction reachable with
  | initial => exact wellKeyed_initial
  | run _ ran ih => exact (run_told ran).wellKeyed ih

theorem runAll_told (scene : Scene) (origin : Origin) (commands : List Command) :
    ToldAll scene (scene.runAll origin commands).events.flatten
      (scene.runAll origin commands).scene := by
  induction commands generalizing scene with
  | nil => exact .done
  | cons command rest ih =>
      simp only [runAll]
      split
      · exact .done
      · rename_i events next ran
        exact (run_told ran).append (ih next)

end Scene

end SoundScene
