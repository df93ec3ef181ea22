import SoundScene.Event

/-!
Commands that change a scene in place.  Every step of a command changes the scene that the next step
finds, and a step that fails leaves behind all that was done before it.  Still a command that fails
leaves the scene as it found it, because all that can fail is checked before the first change
(`command_eq`).
-/

namespace SoundScene

/-- A step that changes the scene where it is, or fails there. -/
abbrev Edit := EStateM Failure Scene

namespace Edit

variable {α β : Type}

def check (refused : Scene → String → Bool) (failure : String → Failure) :
    (seen : List String) → List String → Edit Unit
  | _, [] => pure ()
  | seen, id :: rest => do
    let scene ← get
    if refused scene id || seen.contains id then throw (failure id)
    else check refused failure (id :: seen) rest

def createAll : Batch → Edit (List Source)
  | [] => pure []
  | entry :: rest => do
    let source := Scene.fresh entry
    modify fun scene => { scene with sources := scene.sources.insert source.id source }
    let others ← createAll rest
    pure (source :: others)

def create (batch : Batch) : Edit (List Source) := do
  check Scene.isLive .sourceExists [] (batch.map (·.1))
  createAll batch

def patchAll : Batch → Edit (List Source)
  | [] => pure []
  | (id, patch) :: rest => do
    let scene ← get
    match scene.source? id with
    | some source =>
      let changed := source.apply patch
      set { scene with sources := scene.sources.insert id changed }
      let others ← patchAll rest
      pure (changed :: others)
    | none => patchAll rest

def modifyAll (batch : Batch) : Edit (List Source) := do
  let scene ← get
  match (batch.map (·.1)).find? fun id => !scene.isLive id with
  | some id => throw (.sourceNotFound id)
  | none => patchAll batch

def eraseAll : List String → Edit Unit
  | [] => pure ()
  | id :: rest => do
    modify fun scene => { scene with sources := scene.sources.erase id }
    eraseAll rest

def delete (ids : List String) : Edit Unit := do
  check (fun scene id => !scene.isLive id) .sourceNotFound [] ids
  eraseAll ids

def createLoudspeakers (loudspeakers : List Loudspeaker) : Edit Unit := do
  let scene ← get
  match scene.loudspeakers with
  | some _ => throw .loudspeakersExist
  | none => set { scene with loudspeakers := some loudspeakers }

def introduce : Option (List Loudspeaker) → Edit (List Event)
  | some loudspeakers => do
    createLoudspeakers loudspeakers
    pure [.loudspeakersCreated loudspeakers]
  | none => pure []

def patchReference (patch : Reference.Patch) (origin : Origin) : Edit (List Event) :=
  if patch.isEmpty then pure []
  else do
    modify fun scene => scene.patchReference patch
    let scene ← get
    pure [.referenceChanged scene.reference origin]

def change (change : StateChange) (origin : Origin) : Edit (List Event) := do
  let first ← introduce change.loudspeakers
  let second ← patchReference change.reference origin
  pure (first ++ second)

def command (command : Command) (origin : Origin) : Edit (List Event) :=
  match command with
  | .state entries => change (.ofEntries entries) origin
  | .create batch => do
    let created ← create batch
    pure (created.map fun source => .created source origin)
  | .modify batch => do
    let changed ← modifyAll batch
    pure (changed.map fun source => .modified source origin)
  | .delete ids => do
    delete ids
    pure (ids.map fun id => .deleted id origin)
  | .subscribe _ => throw (.invalidMessage "\"subscribe\" is not accepted from the server")

def settled (scene : Scene) : Except Failure (α × Scene) → EStateM.Result Failure Scene α
  | .ok (value, next) => .ok value next
  | .error failure => .error failure scene

theorem settled_eq_ok_iff {scene next : Scene} {result : Except Failure (α × Scene)} {value : α} :
    settled scene result = .ok value next ↔ result = .ok (value, next) := by
  cases result with
  | error failure => constructor <;> nofun
  | ok pair =>
      constructor
      · rintro ⟨⟩
        rfl
      · rintro ⟨⟩
        rfl

theorem settled_eq_error_iff {scene next : Scene} {result : Except Failure (α × Scene)}
    {failure : Failure} :
    settled scene result = .error failure next ↔ result = .error failure ∧ next = scene := by
  cases result with
  | ok pair => constructor <;> nofun
  | error reason =>
      constructor
      · rintro ⟨⟩
        exact ⟨rfl, rfl⟩
      · rintro ⟨⟨⟩, rfl⟩
        rfl

theorem bind_apply (first : Edit α) (next : α → Edit β) (scene : Scene) :
    (first >>= next) scene = match first scene with
      | .ok value middle => next value middle
      | .error failure middle => .error failure middle := by
  change EStateM.bind first next scene = _
  rw [EStateM.bind]
  cases first scene <;> rfl

theorem get_bind (next : Scene → Edit β) (scene : Scene) :
    (get >>= next) scene = next scene scene :=
  rfl

theorem check_eq (refused : Scene → String → Bool) (failure : String → Failure)
    (seen ids : List String) (scene : Scene) :
    check refused failure seen ids scene =
      match Scene.firstRefused (refused scene) seen ids with
      | some id => .error (failure id) scene
      | none => .ok () scene := by
  induction ids generalizing seen with
  | nil => rfl
  | cons id rest ih =>
      rw [check, get_bind, Scene.firstRefused]
      by_cases stops : (refused scene id || seen.contains id) = true
      · rw [if_pos stops, if_pos stops]
        rfl
      · rw [if_neg stops, if_neg stops]
        exact ih (id :: seen)

theorem createAll_eq (batch : Batch) (scene : Scene) :
    createAll batch scene = .ok (batch.map Scene.fresh) { scene with
      sources := (batch.map Scene.fresh).foldl (fun table source => table.insert source.id source)
        scene.sources } := by
  induction batch generalizing scene with
  | nil => rfl
  | cons entry rest ih =>
      change (createAll rest >>= fun others => pure (Scene.fresh entry :: others)) _ = _
      rw [bind_apply, ih]
      rfl

theorem create_eq (batch : Batch) (scene : Scene) :
    create batch scene = settled scene (scene.create batch) := by
  rw [create, bind_apply, check_eq, Scene.create]
  cases Scene.firstRefused scene.isLive [] (batch.map (·.1)) with
  | some id => rfl
  | none => exact createAll_eq batch scene

theorem patchAll_eq (batch : Batch) (scene : Scene) :
    patchAll batch scene = .ok (Scene.patchAll scene.sources batch).1
      { scene with sources := (Scene.patchAll scene.sources batch).2 } := by
  induction batch generalizing scene with
  | nil => rfl
  | cons entry rest ih =>
      obtain ⟨id, patch⟩ := entry
      rw [patchAll, get_bind, Scene.patchAll, Scene.source?]
      cases scene.sources.find? id with
      | none => exact ih scene
      | some source =>
          change (patchAll rest >>= fun others => pure (source.apply patch :: others)) _ = _
          rw [bind_apply, ih]
          rfl

theorem modifyAll_eq (batch : Batch) (scene : Scene) :
    modifyAll batch scene = settled scene (scene.modify batch) := by
  rw [modifyAll, get_bind, Scene.modify]
  cases (batch.map (·.1)).find? (fun id => !scene.isLive id) with
  | some id => rfl
  | none => exact patchAll_eq batch scene

theorem eraseAll_eq (ids : List String) (scene : Scene) :
    eraseAll ids scene = .ok () { scene with sources := ids.foldl Table.erase scene.sources } := by
  induction ids generalizing scene with
  | nil => rfl
  | cons id rest ih => exact ih { scene with sources := scene.sources.erase id }

theorem delete_eq (ids : List String) (scene : Scene) :
    delete ids scene = settled scene ((scene.delete ids).map fun next => ((), next)) := by
  rw [delete, bind_apply, check_eq, Scene.delete]
  cases Scene.firstRefused (fun id => !scene.isLive id) [] ids with
  | some id => rfl
  | none => exact eraseAll_eq ids scene

theorem createLoudspeakers_eq (loudspeakers : List Loudspeaker) (scene : Scene) :
    createLoudspeakers loudspeakers scene =
      settled scene ((scene.createLoudspeakers loudspeakers).map fun next => ((), next)) := by
  rw [createLoudspeakers, get_bind, Scene.createLoudspeakers]
  cases scene.loudspeakers <;> rfl

theorem change_eq (stated : StateChange) (origin : Origin) (scene : Scene) :
    change stated origin scene = settled scene (scene.change stated origin) := by
  -- The second part is the same whatever the first one has done, and it never fails.
  have moved (first : List Event) (middle : Scene) :
      (patchReference stated.reference origin >>= fun second => pure (first ++ second)) middle =
        settled scene (if stated.reference.isEmpty then .ok (first, middle)
          else .ok (first ++ [.referenceChanged (middle.patchReference stated.reference).reference
            origin], middle.patchReference stated.reference)) := by
    rw [patchReference]
    by_cases empty : stated.reference.isEmpty = true
    · rw [if_pos empty, if_pos empty]
      exact congrArg (EStateM.Result.ok · middle) (List.append_nil first)
    · rw [if_neg empty, if_neg empty]
      rfl
  rw [change, bind_apply, Scene.change]
  cases stated.loudspeakers with
  | none => exact moved [] scene
  | some loudspeakers =>
      rw [introduce, bind_apply, createLoudspeakers_eq]
      dsimp only
      cases scene.createLoudspeakers loudspeakers with
      | error failure => rfl
      | ok middle => exact moved [.loudspeakersCreated loudspeakers] middle

/-- A command does in place what it does to a copy, and if it fails the scene is as it was. -/
theorem command_eq (stated : Command) (origin : Origin) (scene : Scene) :
    command stated origin scene = settled scene (scene.run stated origin) := by
  cases stated with
  | state entries => exact change_eq (.ofEntries entries) origin scene
  | create batch =>
      rw [command, bind_apply, create_eq, Scene.run]
      cases scene.create batch <;> rfl
  | modify batch =>
      rw [command, bind_apply, modifyAll_eq, Scene.run]
      cases scene.modify batch <;> rfl
  | delete ids =>
      rw [command, bind_apply, delete_eq, Scene.run]
      cases scene.delete ids <;> rfl
  | subscribe topics => rfl

end Edit

end SoundScene
