import SoundScene.Proofs.Writes

/-!
Batches as transactions.  A batch is checked as a whole before anything is changed, but what the
check lets pass is what the same operation can do on one item after another, where every step finds
the scene that the step before it has left.  So a batch ends as the steps end on a copy of the
scene, and if one of them fails the scene is as it was (`batches_inTurn`).
-/

namespace SoundScene

namespace Edit

variable {α γ : Type}

/-- Makes one step for each item, up to the first that fails, and joins what they return. -/
def inTurn (join : γ → γ → γ) (nothing : γ) (step : α → Edit γ) : List α → Edit γ
  | [] => pure nothing
  | item :: rest => do
    let first ← step item
    let others ← inTurn join nothing step rest
    pure (join first others)

/-- Works on a copy, which becomes the scene only if nothing fails. -/
def onCopy (edit : Edit γ) : Edit γ := fun scene =>
  match edit scene with
  | .ok value next => .ok value next
  | .error failure _ => .error failure scene

/-- The operation does in place what it does to a value, and it ends as the steps do on a copy. -/
structure Transaction (whole : Edit γ) (onValue : Scene → Except Failure (γ × Scene))
    (steps : Edit γ) : Prop where
  settles : ∀ scene, whole scene = settled scene (onValue scene)
  turns : whole = onCopy steps

theorem inTurn_cons (join : γ → γ → γ) (nothing : γ) (step : α → Edit γ) (item : α)
    (rest : List α) (scene : Scene) :
    inTurn join nothing step (item :: rest) scene = match step item scene with
      | .error failure reached => .error failure reached
      | .ok first middle => match inTurn join nothing step rest middle with
        | .error failure reached => .error failure reached
        | .ok others final => .ok (join first others) final := by
  change (step item >>= fun first => inTurn join nothing step rest >>= fun others =>
    pure (join first others)) scene = _
  rw [bind_apply]
  cases step item scene with
  | error failure reached => rfl
  | ok first middle =>
      dsimp only
      rw [bind_apply]
      cases inTurn join nothing step rest middle <;> rfl

theorem transaction_of_cons {join : γ → γ → γ} {nothing : γ} {whole : List α → Edit γ}
    {onValue : Scene → List α → Except Failure (γ × Scene)}
    (settles : ∀ items scene, whole items scene = settled scene (onValue scene items))
    (nil : ∀ scene, onValue scene [] = .ok (nothing, scene))
    (cons : ∀ scene item rest, onValue scene (item :: rest) = (do
      let (first, middle) ← onValue scene [item]
      let (others, final) ← onValue middle rest
      pure (join first others, final)))
    (items : List α) :
    Transaction (whole items) (onValue · items)
      (inTurn join nothing (fun item => whole [item]) items) := by
  refine ⟨settles items, funext fun scene => ?_⟩
  induction items generalizing scene with
  | nil =>
      rw [settles, nil]
      rfl
  | cons item rest ih =>
      rw [settles, cons, onCopy, inTurn_cons, settles]
      cases onValue scene [item] with
      | error failure => rfl
      | ok first =>
          obtain ⟨value, middle⟩ := first
          have later := ih middle
          rw [settles, onCopy] at later
          dsimp only [settled]
          cases ended : inTurn join nothing (fun item => whole [item]) rest middle with
          | error failure reached =>
              rw [ended, settled_eq_error_iff] at later
              simp [later.1, bind, Except.bind]
          | ok others final =>
              rw [ended, settled_eq_ok_iff] at later
              simp [later, bind, Except.bind, pure, Except.pure]

end Edit

namespace Scene

theorem firstRefused_congr {first second : String → Bool} {seen others ids : List String}
    (same : ∀ id ∈ ids, (first id || seen.contains id) = (second id || others.contains id)) :
    firstRefused first seen ids = firstRefused second others ids := by
  induction ids generalizing seen others with
  | nil => rfl
  | cons id rest ih =>
      have later : ∀ other ∈ rest, (first other || (id :: seen).contains other) =
          (second other || (id :: others).contains other) := by
        intro other member
        simp only [List.contains_cons]
        rw [Bool.or_left_comm, same other (by simp [member]), Bool.or_left_comm]
      rw [firstRefused, firstRefused, same id (by simp), ih later]

theorem firstRefused_cons {first second : String → Bool} {id : String}
    (passes : first id = false)
    (later : ∀ other, second other = (decide (id = other) || first other))
    (rest : List String) :
    firstRefused first [] (id :: rest) = firstRefused second [] rest := by
  rw [firstRefused, if_neg (by simp [passes])]
  refine firstRefused_congr fun other _ => ?_
  rw [later]
  simp [Bool.or_comm, eq_comm]

theorem firstRefused_append (refused : String → Bool) (seen first second : List String) :
    firstRefused refused seen (first ++ second) = (firstRefused refused seen first).or
      (firstRefused refused (first.reverse ++ seen) second) := by
  induction first generalizing seen with
  | nil => rfl
  | cons id rest ih =>
      rw [List.cons_append, firstRefused, firstRefused]
      split
      · rfl
      · rw [ih, List.reverse_cons, List.append_assoc]
        rfl

theorem firstRefused_repeated (refused : String → Bool) {id : String} {before : List String}
    (listed : id ∈ before) (rest : List String) :
    firstRefused refused [] (before ++ id :: rest) =
      some ((firstRefused refused [] before).getD id) := by
  have again : (before.reverse ++ []).contains id = true := by simp [listed]
  rw [firstRefused_append, firstRefused, again, Bool.or_true, if_pos rfl]
  cases firstRefused refused [] before <;> rfl

theorem create_cons (scene : Scene) (entry : String × Source.Patch) (rest : Batch) :
    scene.create (entry :: rest) = (do
      let (first, middle) ← scene.create [entry]
      let (others, final) ← middle.create rest
      pure (first ++ others, final)) := by
  by_cases live : scene.isLive entry.1 = true
  · simp [create, firstRefused, live, bind, Except.bind]
  · let middle : Scene := { scene with sources := scene.sources.insert entry.1 (fresh entry) }
    have one : scene.create [entry] = .ok ([fresh entry], middle) := by
      simp only [create, List.map_cons, List.map_nil, firstRefused, live]
      rfl
    have later : ∀ id, middle.isLive id = (decide (entry.1 = id) || scene.isLive id) :=
      fun id => isLive_insert ..
    rw [one, create, List.map_cons, firstRefused_cons (Bool.eq_false_iff.2 live) later]
    simp only [bind, Except.bind]
    rw [create]
    cases firstRefused middle.isLive [] (rest.map (·.1)) <;> rfl

theorem modify_cons (scene : Scene) (entry : String × Source.Patch) (rest : Batch) :
    scene.modify (entry :: rest) = (do
      let (first, middle) ← scene.modify [entry]
      let (others, final) ← middle.modify rest
      pure (first ++ others, final)) := by
  obtain ⟨id, patch⟩ := entry
  cases found : scene.source? id with
  | none =>
      have dead : scene.isLive id = false :=
        Option.isSome_eq_false_iff.2 (Option.isNone_iff_eq_none.2 found)
      simp [modify, dead, bind, Except.bind]
  | some source =>
      have live : scene.isLive id = true := Option.isSome_of_eq_some found
      have there : scene.sources.find? id = some source := found
      let middle : Scene := { scene with sources := scene.sources.insert id (source.apply patch) }
      have one : scene.modify [(id, patch)] = .ok ([source.apply patch], middle) := by
        simp [modify, live, patchAll, there, middle]
      have same : middle.isLive = scene.isLive := by
        funext other
        rw [isLive_insert]
        by_cases equal : id = other
        · simp [← equal, live]
        · simp [equal]
      rw [one, modify, List.map_cons, List.find?_cons_of_neg (by simp [live]), ← same]
      simp only [bind, Except.bind]
      rw [modify]
      cases (rest.map (·.1)).find? (fun id => !middle.isLive id) with
      | some missing => rfl
      | none => simp [patchAll, there, middle, pure, Except.pure]

theorem delete_cons (scene : Scene) (id : String) (rest : List String) :
    scene.delete (id :: rest) = (do
      let middle ← scene.delete [id]
      middle.delete rest) := by
  by_cases live : scene.isLive id = true
  · let middle : Scene := { scene with sources := scene.sources.erase id }
    have one : scene.delete [id] = .ok middle := by
      simp [delete, firstRefused, live, middle]
    have later : ∀ other,
        (!middle.isLive other) = (decide (id = other) || !scene.isLive other) := by
      intro other
      rw [isLive_erase, Bool.not_and, Bool.not_not]
    rw [one, delete, firstRefused_cons (by simp [live]) later]
    simp only [bind, Except.bind]
    rw [delete]
    cases firstRefused (fun id => !middle.isLive id) [] rest <;> rfl
  · simp [delete, firstRefused, live, bind, Except.bind]

def patchesFor (id : String) (batch : Batch) : List Source.Patch :=
  (batch.filter fun entry => entry.1 = id).map (·.2)

theorem source?_modify {scene next : Scene} {batch : Batch} {changed : List Source}
    (ran : scene.modify batch = .ok (changed, next)) (id : String) :
    next.source? id = (scene.source? id).map fun source =>
      (patchesFor id batch).foldl Source.apply source := by
  rw [modify_eq_writeAll ran, source?_writeAll, Command.writes, List.foldl_map]
  generalize scene.source? id = held
  clear ran
  induction batch generalizing held with
  | nil => simp [patchesFor]
  | cons entry rest ih =>
      rw [List.foldl_cons, ih, writeOne]
      by_cases same : entry.1 = id
      · simp [patchesFor, same, Function.comp_def]
      · simp [patchesFor, same]

end Scene

namespace Edit

open Scene

theorem create_repeated {before : Batch} {id : String} (listed : id ∈ before.map (·.1))
    (patch : Source.Patch) (rest : Batch) (scene : Scene) :
    ∃ first, create (before ++ (id, patch) :: rest) scene = .error (.sourceExists first) scene ∧
      ∀ created next, create before scene = .ok created next → first = id := by
  have refused := firstRefused_repeated scene.isLive listed (rest.map (·.1))
  refine ⟨(firstRefused scene.isLive [] (before.map (·.1))).getD id, ?_, ?_⟩
  · rw [create_eq, Scene.create, List.map_append, List.map_cons, refused]
    rfl
  · intro created next made
    rw [create_eq, settled_eq_ok_iff, Scene.create] at made
    cases passed : firstRefused scene.isLive [] (before.map (·.1)) with
    | none => rfl
    | some other => simp [passed] at made

theorem delete_repeated {before : List String} {id : String} (listed : id ∈ before)
    (rest : List String) (scene : Scene) :
    ∃ first, delete (before ++ id :: rest) scene = .error (.sourceNotFound first) scene ∧
      ∀ next, delete before scene = .ok () next → first = id := by
  have refused := firstRefused_repeated (fun id => !scene.isLive id) listed rest
  refine ⟨(firstRefused (fun id => !scene.isLive id) [] before).getD id, ?_, ?_⟩
  · rw [delete_eq, Scene.delete, refused]
    rfl
  · intro next made
    rw [delete_eq, settled_eq_ok_iff, Scene.delete] at made
    cases passed : firstRefused (fun id => !scene.isLive id) [] before with
    | none => rfl
    | some other => simp [passed, Except.map] at made

/-- An operation on a batch does what it does on one item after another, or nothing if one of these
steps fails.  A source that is listed again is there already if it is to be made, gone already if it
is to be deleted, and patched once more if it is to be modified. -/
theorem batches_inTurn (batch : Batch) (ids : List String) :
    (Transaction (create batch) (·.create batch)
        (inTurn (· ++ ·) [] (fun entry => create [entry]) batch) ∧
      Transaction (modifyAll batch) (·.modify batch)
        (inTurn (· ++ ·) [] (fun entry => modifyAll [entry]) batch) ∧
      Transaction (delete ids) (fun scene => (scene.delete ids).map fun next => ((), next))
        (inTurn (fun _ _ => ()) () (fun id => delete [id]) ids)) ∧
      (∀ scene before id patch rest, batch = before ++ (id, patch) :: rest →
        id ∈ before.map (·.1) →
        ∃ first, create batch scene = .error (.sourceExists first) scene ∧
          ∀ created next, create before scene = .ok created next → first = id) ∧
      (∀ scene before id rest, ids = before ++ id :: rest → id ∈ before →
        ∃ first, delete ids scene = .error (.sourceNotFound first) scene ∧
          ∀ next, delete before scene = .ok () next → first = id) ∧
      ∀ scene changed next, modifyAll batch scene = .ok changed next →
        ∀ id, next.source? id = (scene.source? id).map fun source =>
          (patchesFor id batch).foldl Source.apply source := by
  refine ⟨⟨?_, ?_, ?_⟩, ?_, ?_, ?_⟩
  · exact transaction_of_cons create_eq (fun _ => rfl) create_cons batch
  · exact transaction_of_cons modifyAll_eq (fun _ => rfl) modify_cons batch
  · refine transaction_of_cons delete_eq (fun _ => rfl) (fun scene id rest => ?_) ids
    rw [delete_cons]
    cases scene.delete [id] with
    | error failure => rfl
    | ok middle =>
        simp only [bind, Except.bind, Except.map, pure, Except.pure]
        cases middle.delete rest <;> rfl
  · rintro scene before id patch rest rfl listed
    exact create_repeated listed patch rest scene
  · rintro scene before id rest rfl listed
    exact delete_repeated listed rest scene
  · intro scene changed next made id
    rw [modifyAll_eq, settled_eq_ok_iff] at made
    exact source?_modify made id

theorem batches_inTurn_repeated :
    let batch : Batch := [("a", { mute := some true }), ("b", {}), ("a", { fixed := some true })]
    let ids := ["b", "a", "b"]
    let scene := initial.writeAll [.create "a" {}, .create "b" {}]
    Transaction (create batch) (·.create batch)
        (inTurn (· ++ ·) [] (fun entry => create [entry]) batch) ∧
      create batch initial = .error (.sourceExists "a") initial ∧
      delete ids scene = .error (.sourceNotFound "b") scene ∧
      ∃ changed next, modifyAll batch scene = .ok changed next ∧
        next.source? "a" = some { Source.initial "a" with mute := true, fixed := true } := by
  intro batch ids scene
  obtain ⟨⟨creating, _, _⟩, created, deleted, modified⟩ := batches_inTurn batch ids
  refine ⟨creating, ?_, ?_, ?_⟩
  · obtain ⟨first, refused, same⟩ := created initial [("a", { mute := some true }), ("b", {})] "a"
      { fixed := some true } [] rfl (by simp)
    rw [refused, same _ _ rfl]
  · obtain ⟨first, refused, same⟩ := deleted scene ["b", "a"] "b" [] rfl (by simp)
    rw [refused, same _ rfl]
  · refine ⟨_, _, rfl, (modified scene _ _ rfl "a").trans ?_⟩
    decide +kernel

end Edit

end SoundScene
