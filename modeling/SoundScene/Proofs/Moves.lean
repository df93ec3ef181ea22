import SoundScene.Hub
import SoundScene.Proofs.Collapse

/-!
What gestures do to a scene.  A gesture on something that is there moves it and does nothing else
(`run_gesture`), whoever it comes from.  After many gestures each thing is where the last of them
that said so put it (`moveAll_eq`), so two orders of the same gestures lead to the same scene exactly
if they agree on what is said last of each thing (`moveAll_eq_iff`).
-/

namespace SoundScene

namespace Gesture

def Reaches (gesture : Gesture) (scene : Scene) : Prop :=
  ∀ id, gesture.target = .source id → scene.isLive id = true

theorem Reaches.exists_source {gesture : Gesture} {scene : Scene} (reaches : gesture.Reaches scene)
    {id : String} (meant : gesture.target = .source id) : ∃ source, scene.source? id = some source :=
  Option.isSome_iff_exists.1 (reaches id meant)

def patch (gesture : Gesture) : Source.Patch :=
  { position := gesture.position, orientation := gesture.orientation }

def referencePatch (gesture : Gesture) : Reference.Patch :=
  match gesture.target with
  | .source _ => {}
  | .reference => { position := gesture.position, orientation := gesture.orientation }
  | .offset => { offsetPosition := gesture.position, offsetOrientation := gesture.orientation }

end Gesture

namespace Scene

def move (scene : Scene) (gesture : Gesture) : Scene where
  sources := match gesture.target with
    | .source id => match scene.source? id with
      | some source => scene.sources.insert id (source.apply gesture.patch)
      | none => scene.sources
    | .reference | .offset => scene.sources
  reference := scene.reference.apply gesture.referencePatch
  loudspeakers := scene.loudspeakers

def moveAll (scene : Scene) (gestures : List Gesture) : Scene := gestures.foldl move scene

theorem isLive_move (scene : Scene) (gesture : Gesture) (id : String) :
    (scene.move gesture).isLive id = scene.isLive id := by
  rw [isLive, isLive, Table.contains, Table.contains, move]
  split
  · split
    · rename_i key source found
      rw [Table.find?_insert]
      split
      · rename_i same
        rw [source?, same] at found
        rw [found]
        rfl
      · rfl
    · rfl
  · rfl
  · rfl

theorem reaches_move {scene : Scene} {gesture : Gesture} (first : Gesture) :
    gesture.Reaches (scene.move first) ↔ gesture.Reaches scene := by
  simp only [Gesture.Reaches, isLive_move]

theorem reaches_moveAll {scene : Scene} {gesture : Gesture} (gestures : List Gesture) :
    gesture.Reaches (scene.moveAll gestures) ↔ gesture.Reaches scene := by
  induction gestures generalizing scene with
  | nil => exact Iff.rfl
  | cons first rest ih => exact ih.trans (reaches_move first)

theorem run_modify_one {scene : Scene} {id : String} {patch : Source.Patch} {source : Source}
    (found : scene.source? id = some source) (origin : Origin) :
    scene.run (.modify [(id, patch)]) origin = .ok ([.modified (source.apply patch) origin],
      { scene with sources := scene.sources.insert id (source.apply patch) }) := by
  have live : scene.isLive id = true := by
    rw [isLive, Table.contains]
    exact Option.isSome_of_eq_some found
  have there : scene.sources.find? id = some source := found
  simp [run, modify, live, patchAll, there, bind, Except.bind, pure, Except.pure]

theorem run_modify_missing {scene : Scene} {id : String} (missing : scene.isLive id = false)
    (patch : Source.Patch) (origin : Origin) :
    scene.run (.modify [(id, patch)]) origin = .error (.sourceNotFound id) := by
  simp [run, modify, missing, bind, Except.bind]

theorem run_reference {scene : Scene} {entries : List StateEntry} {patch : Reference.Patch}
    (means : StateChange.ofEntries entries = { reference := patch }) (some : patch.isEmpty = false)
    (origin : Origin) :
    scene.run (.state entries) origin =
      .ok ([.referenceChanged (scene.reference.apply patch) origin], scene.patchReference patch) := by
  simp [run, change, means, some, bind, Except.bind, pure, Except.pure, patchReference]

def eventOf (scene : Scene) (gesture : Gesture) (origin : Origin) : Event :=
  match gesture.target with
  | .source id => .modified (((scene.source? id).getD (.initial id)).apply gesture.patch) origin
  | .reference | .offset => .referenceChanged (scene.reference.apply gesture.referencePatch) origin

theorem run_gesture (scene : Scene) {gesture : Gesture} {command : Command}
    (meant : gesture.toCommand = .ok command) (origin : Origin) :
    (gesture.Reaches scene ∧
        scene.run command origin = .ok ([scene.eventOf gesture origin], scene.move gesture)) ∨
      (¬ gesture.Reaches scene ∧ ∃ failure, scene.run command origin = .error failure) := by
  obtain ⟨target, position, orientation⟩ := gesture
  rw [Gesture.toCommand] at meant
  split at meant
  · cases meant
  · rename_i some
    have said : (position.isNone && orientation.isNone) = false := Bool.not_eq_true _ ▸ some
    cases meant
    cases target with
    | source id =>
        cases live : scene.isLive id with
        | true =>
            obtain ⟨source, found⟩ := Option.isSome_iff_exists.1 live
            have there : scene.source? id = Option.some source := found
            refine .inl ⟨?_, ?_⟩
            · rintro other ⟨⟩
              exact live
            · rw [move, eventOf]
              simp only [there]
              exact run_modify_one found origin
        | false =>
            refine .inr ⟨fun reaches => ?_, _, run_modify_missing live _ origin⟩
            rw [reaches id rfl] at live
            cases live
    | reference =>
        have means : StateChange.ofEntries (position.toList.map .position ++
            orientation.toList.map .orientation) = { reference := { position, orientation } } := by
          cases position <;> cases orientation <;> rfl
        refine .inl ⟨nofun, run_reference means ?_ origin⟩
        simpa [Reference.Patch.isEmpty] using said
    | offset =>
        have means : StateChange.ofEntries (position.toList.map .offsetPosition ++
            orientation.toList.map .offsetOrientation) =
            { reference := { offsetPosition := position, offsetOrientation := orientation } } := by
          cases position <;> cases orientation <;> rfl
        refine .inl ⟨nofun, run_reference means ?_ origin⟩
        simpa [Reference.Patch.isEmpty] using said

end Scene

namespace Target

def last {α : Type} (target : Target) (part : Gesture → Option α) : List Gesture → Option α
  | [] => none
  | gesture :: rest =>
    (target.last part rest).or (if gesture.target = target then part gesture else none)

/-- Two lists of gestures that say the same last of each thing. -/
def Agree (first second : List Gesture) : Prop :=
  ∀ target : Target, target.last Gesture.position first = target.last Gesture.position second ∧
    target.last Gesture.orientation first = target.last Gesture.orientation second

theorem isSome_last_iff {α : Type} (target : Target) (part : Gesture → Option α)
    (gestures : List Gesture) : (target.last part gestures).isSome = true ↔
      ∃ gesture ∈ gestures, gesture.target = target ∧ (part gesture).isSome = true := by
  induction gestures with
  | nil => simp [last]
  | cons gesture rest ih =>
      rw [last, Option.isSome_or, Bool.or_eq_true, ih]
      simp only [List.mem_cons, exists_eq_or_imp]
      refine Or.comm.trans (or_congr ?_ Iff.rfl)
      split <;> simp [*]

end Target

namespace Scene

def lastPatch (id : String) (gestures : List Gesture) : Source.Patch :=
  { position := (Target.source id).last Gesture.position gestures
    orientation := (Target.source id).last Gesture.orientation gestures }

def lastReferencePatch (gestures : List Gesture) : Reference.Patch :=
  { position := Target.reference.last Gesture.position gestures
    orientation := Target.reference.last Gesture.orientation gestures
    offsetPosition := Target.offset.last Gesture.position gestures
    offsetOrientation := Target.offset.last Gesture.orientation gestures }

theorem apply_lastPatch_cons (source : Source) (id : String) (gesture : Gesture)
    (rest : List Gesture) :
    (if gesture.target = .source id then source.apply gesture.patch else source).apply
        (lastPatch id rest) = source.apply (lastPatch id (gesture :: rest)) := by
  simp only [lastPatch, Target.last]
  split
  · simp only [Source.apply, Gesture.patch, Option.getD_or, Option.getD_none, Option.none_or]
  · simp only [Option.or_none]

theorem apply_lastReferencePatch_cons (reference : Reference) (gesture : Gesture)
    (rest : List Gesture) :
    (reference.apply gesture.referencePatch).apply (lastReferencePatch rest) =
      reference.apply (lastReferencePatch (gesture :: rest)) := by
  simp only [lastReferencePatch, Target.last, Gesture.referencePatch]
  cases gesture.target <;> simp [Reference.apply, Option.getD_or]

theorem source?_move (scene : Scene) (gesture : Gesture) (id : String) :
    (scene.move gesture).source? id = (scene.source? id).map fun source =>
      if gesture.target = .source id then source.apply gesture.patch else source := by
  rw [source?, move]
  split
  · rename_i key target
    simp only [target, Target.source.injEq]
    split
    · rename_i source found
      rw [Table.find?_insert]
      split
      · rename_i same
        rw [← same, found, Option.map_some]
      · rename_i different
        simp [source?]
    · rename_i missing
      split
      · rename_i same
        rw [← same, missing]
        exact missing
      · simp [source?]
  · simp [*, source?]
  · simp [*, source?]

theorem source?_move_self {scene : Scene} {gesture : Gesture} {id : String} {source : Source}
    (meant : gesture.target = .source id) (found : scene.source? id = some source) :
    (scene.move gesture).source? id = some (source.apply gesture.patch) := by
  rw [source?_move, found, Option.map_some, if_pos meant]

theorem eventOf_source {scene : Scene} {gesture : Gesture} {id : String} {source : Source}
    (meant : gesture.target = .source id) (found : scene.source? id = some source)
    (origin : Origin) :
    scene.eventOf gesture origin = .modified (source.apply gesture.patch) origin := by
  rw [eventOf, meant]
  dsimp only
  rw [found, Option.getD_some]

/-- After some gestures each thing is where the last that said so put it, and the rest is as it was. -/
theorem moveAll_eq (scene : Scene) (gestures : List Gesture) :
    (∀ id, (scene.moveAll gestures).source? id =
        (scene.source? id).map (·.apply (lastPatch id gestures))) ∧
      (scene.moveAll gestures).reference = scene.reference.apply (lastReferencePatch gestures) ∧
      (scene.moveAll gestures).loudspeakers = scene.loudspeakers := by
  induction gestures generalizing scene with
  | nil => exact ⟨fun id => (Option.map_id' ..).symm, rfl, rfl⟩
  | cons gesture rest ih =>
      obtain ⟨sources, reference, loudspeakers⟩ := ih (scene.move gesture)
      refine ⟨fun id => ?_, reference.trans ?_, loudspeakers⟩
      · rw [moveAll, List.foldl_cons, ← moveAll, sources, source?_move, Option.map_map]
        refine congrArg (Option.map · _) (funext fun source => ?_)
        exact apply_lastPatch_cons source id gesture rest
      · exact apply_lastReferencePatch_cons scene.reference gesture rest

theorem eq_of_parts {first second : Scene} (sources : first.sources = second.sources)
    (reference : first.reference = second.reference)
    (loudspeakers : first.loudspeakers = second.loudspeakers) : first = second := by
  cases first
  cases second
  simp only [mk.injEq]
  exact ⟨sources, reference, loudspeakers⟩

theorem eq_of_getD {α : Type} {first second : Option α} {default : α}
    (some : first.isSome = true ↔ second.isSome = true)
    (same : first.getD default = second.getD default) : first = second := by
  cases first <;> cases second <;> simp_all

theorem moveAll_eq_iff {scene : Scene} {first second : List Gesture} (perm : first.Perm second)
    (reach : ∀ gesture ∈ first, gesture.Reaches scene) :
    scene.moveAll first = scene.moveAll second ↔ Target.Agree first second := by
  have some {α : Type} (target : Target) (part : Gesture → Option α) :
      (target.last part first).isSome = true ↔ (target.last part second).isSome = true := by
    simp only [Target.isSome_last_iff, perm.mem_iff]
  obtain ⟨sources, reference, loudspeakers⟩ := scene.moveAll_eq first
  obtain ⟨others, other, loudspeakers'⟩ := scene.moveAll_eq second
  constructor
  · intro same target
    cases target with
    | source id =>
        cases found : scene.source? id with
        | none =>
            -- Nothing is said of a source that is not there.
            have silent {α : Type} (part : Gesture → Option α) :
                (Target.source id).last part first = none := by
              rw [← Option.not_isSome_iff_eq_none, Target.isSome_last_iff]
              rintro ⟨gesture, member, target, _⟩
              have live := reach gesture member id target
              rw [isLive, Table.contains, show scene.sources.find? id = none from found] at live
              cases live
            have silent' {α : Type} (part : Gesture → Option α) :
                (Target.source id).last part second = none := by
              rw [← Option.not_isSome_iff_eq_none, ← some, silent]
              nofun
            exact ⟨(silent _).trans (silent' _).symm, (silent _).trans (silent' _).symm⟩
        | some source =>
            have patched := others id
            rw [← same, sources id, found] at patched
            have patched := Option.some.inj patched
            exact ⟨eq_of_getD (some ..) (congrArg Source.position patched),
              eq_of_getD (some ..) (congrArg Source.orientation patched)⟩
    | reference =>
        rw [← same, reference] at other
        exact ⟨eq_of_getD (some ..) (congrArg (·.pose.pos) other),
          eq_of_getD (some ..) (congrArg (·.pose.rot) other)⟩
    | offset =>
        rw [← same, reference] at other
        exact ⟨eq_of_getD (some ..) (congrArg (·.offset.pos) other),
          eq_of_getD (some ..) (congrArg (·.offset.rot) other)⟩
  · intro agree
    have tables : (scene.moveAll first).sources = (scene.moveAll second).sources := by
      refine Table.ext_find? fun id => (sources id).trans (Eq.trans ?_ (others id).symm)
      simp only [lastPatch, (agree (.source id)).1, (agree (.source id)).2]
    have references : (scene.moveAll first).reference = (scene.moveAll second).reference := by
      rw [reference, other]
      simp only [lastReferencePatch, (agree .reference).1, (agree .reference).2,
        (agree .offset).1, (agree .offset).2]
    exact eq_of_parts tables references (loudspeakers.trans loudspeakers'.symm)

end Scene

namespace Hub

theorem perform_of_reaches {hub : Hub} {gesture : Gesture} {command : Command}
    (meant : gesture.toCommand = .ok command) (reaches : gesture.Reaches hub.scene) :
    ∃ outbox, hub.perform gesture = ⟨.ok [hub.scene.eventOf gesture .operator],
      [hub.scene.eventOf gesture .operator],
      { hub with scene := hub.scene.move gesture, outbox }⟩ := by
  rcases hub.scene.run_gesture meant .operator with ⟨_, ran⟩ | ⟨unreached, _⟩
  · refine ⟨(hub.outbox.send [command]).2, ?_⟩
    simp [perform, Scene.perform, meant, bind, Except.bind, pure, Except.pure, ran]
  · exact absurd reaches unreached

theorem perform_cases (hub : Hub) (gesture : Gesture) :
    (∃ failure, hub.perform gesture = ⟨.error failure, [], hub⟩) ∨
      ∃ outbox, hub.perform gesture = ⟨.ok [hub.scene.eventOf gesture .operator],
        [hub.scene.eventOf gesture .operator],
        { hub with scene := hub.scene.move gesture, outbox }⟩ := by
  cases meant : gesture.toCommand with
  | error failure =>
      exact .inl ⟨failure, by simp [perform, Scene.perform, meant, bind, Except.bind]⟩
  | ok command =>
      rcases hub.scene.run_gesture meant .operator with ⟨reaches, _⟩ | ⟨_, failure, ran⟩
      · exact .inr (perform_of_reaches meant reaches)
      · exact .inl ⟨failure, by simp [perform, Scene.perform, meant, bind, Except.bind, ran]⟩

end Hub

end SoundScene
