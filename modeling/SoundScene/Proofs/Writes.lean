import SoundScene.Proofs.Calls
import SoundScene.Proofs.MessageCut

/-!
Commands as writes.  A command that succeeds makes its items one after another, as if each stood
alone (`run_eq_writeAll`), and one that fails makes none.  So a run of calls leaves behind one list
of writes, and the scene after it is what these writes make of the scene before (`scene_serveAll`).
-/

namespace SoundScene

inductive Write where
  | create (id : String) (patch : Source.Patch)
  | modify (id : String) (patch : Source.Patch)
  | delete (id : String)
  | state (entry : StateEntry)
deriving DecidableEq, Repr

def Command.writes : Command → List Write
  | .state entries => entries.map .state
  | .create batch => batch.map fun entry => .create entry.1 entry.2
  | .modify batch => batch.map fun entry => .modify entry.1 entry.2
  | .delete ids => ids.map .delete
  | .subscribe _ => []

namespace StateEntry

def patch : StateEntry → Reference.Patch
  | .position point => { position := some point }
  | .orientation rotor => { orientation := some rotor }
  | .offsetPosition point => { offsetPosition := some point }
  | .offsetOrientation rotor => { offsetOrientation := some rotor }
  | .loudspeakers _ | .other .. => {}

def loudspeakers? : StateEntry → Option (List Loudspeaker)
  | .loudspeakers set => some set
  | _ => none

end StateEntry

namespace Scene

/-- Makes one write.  A source that is not there is not made by a modification. -/
def write (scene : Scene) : Write → Scene
  | .create id patch => { scene with sources := scene.sources.insert id (fresh (id, patch)) }
  | .modify id patch =>
    match scene.source? id with
    | some source => { scene with sources := scene.sources.insert id (source.apply patch) }
    | none => scene
  | .delete id => { scene with sources := scene.sources.erase id }
  | .state entry =>
    { scene with
      reference := scene.reference.apply entry.patch
      loudspeakers := entry.loudspeakers?.or scene.loudspeakers }

def writeAll (scene : Scene) (writes : List Write) : Scene := writes.foldl write scene

theorem writeAll_append (scene : Scene) (first second : List Write) :
    scene.writeAll (first ++ second) = (scene.writeAll first).writeAll second :=
  List.foldl_append

theorem create_eq_writeAll {scene next : Scene} {batch : Batch} {created : List Source}
    (ran : scene.create batch = .ok (created, next)) :
    next = scene.writeAll (Command.create batch).writes := by
  rw [create] at ran
  split at ran
  · cases ran
  · rename_i passed
    -- The check is about the whole batch, and the induction is about its rest.
    clear passed
    cases ran
    induction batch generalizing scene with
    | nil => rfl
    | cons entry rest ih => exact @ih (scene.write (.create entry.1 entry.2))

theorem modify_eq_writeAll {scene next : Scene} {batch : Batch} {changed : List Source}
    (ran : scene.modify batch = .ok (changed, next)) :
    next = scene.writeAll (Command.modify batch).writes := by
  rw [modify] at ran
  split at ran
  · cases ran
  · rename_i passed
    clear passed
    cases ran
    induction batch generalizing scene with
    | nil => rfl
    | cons entry rest ih =>
        obtain ⟨id, patch⟩ := entry
        refine Eq.trans ?_ (@ih (scene.write (.modify id patch)))
        rw [patchAll, write, source?]
        cases scene.sources.find? id <;> rfl

theorem delete_eq_writeAll {scene next : Scene} {ids : List String}
    (ran : scene.delete ids = .ok next) : next = scene.writeAll (Command.delete ids).writes := by
  rw [delete] at ran
  split at ran
  · cases ran
  · rename_i passed
    clear passed
    cases ran
    induction ids generalizing scene with
    | nil => rfl
    | cons id rest ih => exact @ih (scene.write (.delete id))

def enter (scene : Scene) (change : StateChange) : Scene :=
  { scene with
    reference := scene.reference.apply change.reference
    loudspeakers := change.loudspeakers.or scene.loudspeakers }

theorem apply_of_isEmpty {reference : Reference} {patch : Reference.Patch}
    (empty : patch.isEmpty = true) : reference.apply patch = reference := by
  obtain ⟨position, orientation, offsetPosition, offsetOrientation⟩ := patch
  simp only [Reference.Patch.isEmpty, Bool.and_eq_true, Option.isNone_iff_eq_none] at empty
  obtain ⟨⟨⟨rfl, rfl⟩, rfl⟩, rfl⟩ := empty
  rfl

theorem change_eq_enter {scene next : Scene} {change : StateChange} {origin : Origin}
    {events : List Event} (ran : scene.change change origin = .ok (events, next)) :
    next = scene.enter change := by
  obtain ⟨first, middle, before, after⟩ := change_cases ran
  have known : middle = { scene with
      loudspeakers := change.loudspeakers.or scene.loudspeakers } := by
    rcases before with ⟨silent, _, rfl⟩ | ⟨set, carried, created, _⟩
    · rw [silent]
      rfl
    · rw [createLoudspeakers] at created
      split at created
      · cases created
      · cases created
        rw [carried]
        rfl
  -- A patch that carries nothing is not applied, which comes to the same.
  rcases after with ⟨empty, _, rfl⟩ | ⟨_, rfl, _⟩
  · rw [known, enter, apply_of_isEmpty empty]
  · rw [known]
    rfl

theorem enter_add (scene : Scene) (change : StateChange) (entry : StateEntry) :
    scene.enter (change.add entry) = (scene.enter change).write (.state entry) := by
  cases entry <;> rfl

theorem enter_foldl_add (scene : Scene) (change : StateChange) (entries : List StateEntry) :
    scene.enter (entries.foldl StateChange.add change) =
      (scene.enter change).writeAll (Command.state entries).writes := by
  induction entries generalizing change with
  | nil => rfl
  | cons entry rest ih =>
      rw [List.foldl_cons, ih, enter_add]
      rfl

theorem run_eq_writeAll {scene next : Scene} {command : Command} {origin : Origin}
    {events : List Event} (ran : scene.run command origin = .ok (events, next)) :
    next = scene.writeAll command.writes := by
  cases command with
  | state entries => exact (change_eq_enter ran).trans (enter_foldl_add scene {} entries)
  | create batch =>
      obtain ⟨_, made, ran⟩ := ok_of_bind ran
      cases ran
      exact create_eq_writeAll made
  | modify batch =>
      obtain ⟨_, made, ran⟩ := ok_of_bind ran
      cases ran
      exact modify_eq_writeAll made
  | delete ids =>
      obtain ⟨_, made, ran⟩ := ok_of_bind ran
      cases ran
      exact delete_eq_writeAll made
  | subscribe topics => cases ran

theorem Runs.eq_writeAll {scene final : Scene} {origin : Origin} {commands : List Command}
    {events : List (List Event)} (runs : Runs origin scene commands events final) :
    final = scene.writeAll (commands.flatMap Command.writes) := by
  induction runs with
  | done => rfl
  | step ran _ ih =>
      rw [ih, run_eq_writeAll (command_ok_iff.1 ran), List.flatMap_cons, writeAll_append]

def succeeded (scene : Scene) (origin : Origin) (commands : List Command) : List Command :=
  commands.take (scene.runAll origin commands).events.length

theorem runAll_eq_writeAll (scene : Scene) (origin : Origin) (commands : List Command) :
    (scene.runAll origin commands).scene =
      scene.writeAll ((scene.succeeded origin commands).flatMap Command.writes) :=
  (runAll_stops scene origin commands).2.1.eq_writeAll

def writeOne (id : String) (held : Option Source) : Write → Option Source
  | .create key patch => if key = id then some (fresh (id, patch)) else held
  | .modify key patch => if key = id then held.map (·.apply patch) else held
  | .delete key => if key = id then none else held
  | .state _ => held

theorem source?_write (scene : Scene) (made : Write) (id : String) :
    (scene.write made).source? id = writeOne id (scene.source? id) made := by
  cases made with
  | create key patch =>
      rw [source?, write, Table.find?_insert, writeOne]
      by_cases same : key = id
      · rw [if_pos same, if_pos same, same]
      · rw [if_neg same, if_neg same, source?]
  | modify key patch =>
      rw [write, writeOne]
      cases found : scene.source? key with
      | none =>
          dsimp only
          split
          · rename_i same
            rw [← same, found]
            rfl
          · rfl
      | some source =>
          dsimp only
          rw [source?, Table.find?_insert]
          split
          · rename_i same
            rw [← same, found]
            rfl
          · rfl
  | delete key =>
      rw [source?, write, Table.find?_erase, writeOne]
      split <;> rfl
  | state entry => rfl

theorem reference_write (scene : Scene) (made : Write) :
    (scene.write made).reference = match made with
      | .state entry => scene.reference.apply entry.patch
      | _ => scene.reference := by
  cases made with
  | modify id patch =>
      rw [write]
      split <;> rfl
  | _ => rfl

theorem loudspeakers_write (scene : Scene) (made : Write) :
    (scene.write made).loudspeakers = match made with
      | .state entry => entry.loudspeakers?.or scene.loudspeakers
      | _ => scene.loudspeakers := by
  cases made with
  | modify id patch =>
      rw [write]
      split <;> rfl
  | _ => rfl

theorem source?_writeAll (scene : Scene) (writes : List Write) (id : String) :
    (scene.writeAll writes).source? id = writes.foldl (writeOne id) (scene.source? id) := by
  induction writes generalizing scene with
  | nil => rfl
  | cons made rest ih =>
      rw [List.foldl_cons, ← source?_write]
      exact ih (scene.write made)

end Scene

namespace Hub

open Scene

def done (hub : Hub) : Call → List Command
  | .message text =>
    match Message.decode text with
    | .error _ => []
    | .ok commands => hub.scene.succeeded .renderer commands
  | .gesture gesture =>
    match gesture.toCommand with
    | .error _ => []
    | .ok command => hub.scene.succeeded .operator [command]

def writesOf (hub : Hub) : List Call → List Write
  | [] => []
  | call :: rest => (hub.done call).flatMap Command.writes ++ (hub.serve call).2.writesOf rest

theorem scene_serve (hub : Hub) (call : Call) :
    (hub.serve call).2.scene = hub.scene.writeAll ((hub.done call).flatMap Command.writes) := by
  cases call with
  | message text =>
      rw [serve, handle, done]
      cases Message.decode text with
      | error failure => rfl
      | ok commands => exact runAll_eq_writeAll ..
  | gesture gesture =>
      rw [serve, perform, Scene.perform, done]
      cases gesture.toCommand with
      | error failure => rfl
      | ok command =>
          dsimp only
          rw [← runAll_eq_writeAll, runAll]
          simp only [bind, Except.bind]
          cases hub.scene.run command .operator <;> rfl

theorem scene_serveAll (hub : Hub) (calls : List Call) :
    (hub.serveAll calls).2.scene = hub.scene.writeAll (hub.writesOf calls) := by
  induction calls generalizing hub with
  | nil => rfl
  | cons call rest ih =>
      rw [writesOf, writeAll_append, ← scene_serve]
      exact ih (hub.serve call).2

end Hub

end SoundScene
