import SoundScene.Proofs.Writes

/-!
The last writer wins.  Each part of a source is what the latest write since its latest creation
carries for it, and each part of the reference what the latest write of all carries; what nobody
wrote is as in a new source or a new scene (`lastWritten_serveAll`).
-/

namespace SoundScene

/-- What the latest of some items that carry a value carries; or, if none does, the value before. -/
def Settles {α β : Type} (carries : α → Option β) (items : List α) (start value : β) : Prop :=
  (∃ before item after, items = before ++ item :: after ∧ carries item = some value ∧
      ∀ later ∈ after, carries later = none) ∨
    (∀ item ∈ items, carries item = none) ∧ value = start

theorem settles_foldl {α β σ : Type} {step : σ → α → σ} {part : σ → β} {carries : α → Option β}
    (steps : ∀ state item, part (step state item) = (carries item).getD (part state))
    (items : List α) (start : σ) :
    Settles carries items (part start) (part (items.foldl step start)) := by
  induction items generalizing start with
  | nil => exact .inr ⟨nofun, rfl⟩
  | cons item rest ih =>
      rcases ih (step start item) with ⟨before, latest, after, split, held, silent⟩ | ⟨silent, same⟩
      · exact .inl ⟨item :: before, latest, after, congrArg (item :: ·) split, held, silent⟩
      · rw [List.foldl_cons, same, steps]
        cases held : carries item with
        | some value => exact .inl ⟨[], item, rest, rfl, held, silent⟩
        | none => exact .inr ⟨List.forall_mem_cons.2 ⟨held, silent⟩, rfl⟩

namespace Write

def patch? (id : String) : Write → Option Source.Patch
  | .create key patch | .modify key patch => if key = id then some patch else none
  | .delete _ | .state _ => none

def carries {α : Type} (id : String) (part : Source.Patch → Option α) (write : Write) : Option α :=
  (write.patch? id).bind part

def refers {α : Type} (part : Reference.Patch → Option α) : Write → Option α
  | .state entry => part entry.patch
  | .create .. | .modify .. | .delete _ => none

def Renews (id : String) : Write → Prop
  | .create key _ | .delete key => key = id
  | .modify .. | .state _ => False

end Write

/-- The writes from the latest creation of a source on, after which it is not deleted. -/
def Life (id : String) (writes life : List Write) : Prop :=
  ∃ before patch after, writes = before ++ life ∧ life = .create id patch :: after ∧
    ∀ write ∈ after, ¬ write.Renews id

/-- Each part is what the latest of the writes carries, or what a new source has. -/
structure Source.LastWritten (source : Source) (writes : List Write) : Prop where
  position : Settles (Write.carries source.id (·.position)) writes Point.origin source.position
  orientation : Settles (Write.carries source.id (·.orientation)) writes Rotor.identity
    source.orientation
  active : Settles (Write.carries source.id (·.active)) writes true source.active
  name : Settles (Write.carries source.id (·.name.map some)) writes none source.name
  model : Settles (Write.carries source.id (·.model.map some)) writes none source.model
  volume : Settles (Write.carries source.id (·.volume)) writes 1.0 source.volume
  mute : Settles (Write.carries source.id (·.mute)) writes false source.mute
  fixed : Settles (Write.carries source.id (·.fixed)) writes false source.fixed

structure Reference.LastWritten (reference : Reference) (writes : List Write) : Prop where
  position : Settles (Write.refers (·.position)) writes Point.origin reference.pose.pos
  orientation : Settles (Write.refers (·.orientation)) writes Rotor.identity reference.pose.rot
  offsetPosition : Settles (Write.refers (·.offsetPosition)) writes Point.origin
    reference.offset.pos
  offsetOrientation : Settles (Write.refers (·.offsetOrientation)) writes Rotor.identity
    reference.offset.rot

namespace Source

def take (id : String) (source : Source) (made : Write) : Source :=
  match made.patch? id with
  | some patch => source.apply patch
  | none => source

theorem take_part {α : Type} {id : String} {part : Source → α} {carried : Patch → Option α}
    (applied : ∀ source patch, part (source.apply patch) = (carried patch).getD (part source))
    (source : Source) (made : Write) :
    part (source.take id made) = (made.carries id carried).getD (part source) := by
  rw [take, Write.carries]
  cases made.patch? id with
  | none => rfl
  | some patch => exact applied source patch

theorem id_foldl_take (id : String) (source : Source) (writes : List Write) :
    (writes.foldl (take id) source).id = source.id := by
  induction writes generalizing source with
  | nil => rfl
  | cons made rest ih =>
      rw [List.foldl_cons, ih, take]
      cases made.patch? id <;> rfl

theorem lastWritten_foldl_take (id : String) (writes : List Write) :
    (writes.foldl (take id) (initial id)).LastWritten writes := by
  have settled {α : Type} (part : Source → α) (carried : Patch → Option α)
      (applied : ∀ source patch, part (source.apply patch) = (carried patch).getD (part source)) :
      Settles (Write.carries id carried) writes (part (initial id))
        (part (writes.foldl (take id) (initial id))) :=
    settles_foldl (take_part applied) writes (initial id)
  -- A name or a model that is written is never taken away, so the part is optional itself.
  have optional {α : Type} (first second : Option α) :
      first.or second = (first.map some).getD second := by
    cases first <;> rfl
  have named : (writes.foldl (take id) (initial id)).id = id := id_foldl_take id _ writes
  constructor <;> rw [named]
  · exact settled (·.position) (·.position) fun _ _ => rfl
  · exact settled (·.orientation) (·.orientation) fun _ _ => rfl
  · exact settled (·.active) (·.active) fun _ _ => rfl
  · exact settled (·.name) (·.name.map some) fun _ _ => optional ..
  · exact settled (·.model) (·.model.map some) fun _ _ => optional ..
  · exact settled (·.volume) (·.volume) fun _ _ => rfl
  · exact settled (·.mute) (·.mute) fun _ _ => rfl
  · exact settled (·.fixed) (·.fixed) fun _ _ => rfl

end Source

namespace Scene

theorem writeOne_of_not_renews {id : String} {made : Write} (kept : ¬ made.Renews id)
    (held : Option Source) : writeOne id held made = held.map (·.take id made) := by
  cases made with
  | create key patch =>
      have other : key ≠ id := kept
      rw [writeOne, if_neg other]
      simp [Source.take, Write.patch?, other]
  | modify key patch =>
      rw [writeOne]
      by_cases same : key = id <;> simp [Source.take, Write.patch?, same]
  | delete key =>
      have other : key ≠ id := kept
      rw [writeOne, if_neg other]
      exact (Option.map_id' ..).symm
  | state entry => exact (Option.map_id' ..).symm

theorem eq_create_of_renews {id : String} {made : Write} {held : Option Source} {source : Source}
    (renews : made.Renews id) (there : writeOne id held made = some source) :
    ∃ patch, made = .create id patch ∧ source = (Source.initial id).take id made := by
  cases made with
  | create key patch =>
      have same : key = id := renews
      subst same
      rw [writeOne, if_pos rfl] at there
      cases there
      exact ⟨patch, rfl, by simp [Source.take, Write.patch?, fresh]⟩
  | delete key =>
      have same : key = id := renews
      rw [writeOne, if_pos same] at there
      cases there
  | modify key patch => cases renews
  | state entry => cases renews

theorem foldl_writeOne_cases {id : String} {held : Option Source} {source : Source}
    {writes : List Write} (there : writes.foldl (writeOne id) held = some source) :
    (∃ life, Life id writes life ∧ source = life.foldl (Source.take id) (.initial id)) ∨
      (∀ made ∈ writes, ¬ made.Renews id) ∧
        ∃ old, held = some old ∧ source = writes.foldl (Source.take id) old := by
  induction writes generalizing held with
  | nil => exact .inr ⟨List.forall_mem_nil _, source, there, rfl⟩
  | cons made rest ih =>
      rcases ih there with
        ⟨life, ⟨before, patch, after, split, starts⟩, same⟩ | ⟨kept, old, stood, same⟩
      · exact .inl ⟨life, ⟨made :: before, patch, after, congrArg (made :: ·) split, starts⟩, same⟩
      · -- Nothing later renews the source, so this write starts its life or leaves it.
        by_cases renews : made.Renews id
        · obtain ⟨patch, starts, rfl⟩ := eq_create_of_renews renews stood
          exact .inl ⟨made :: rest, ⟨[], patch, rest, rfl, congrArg (· :: rest) starts, kept⟩, same⟩
        · rw [writeOne_of_not_renews renews] at stood
          obtain ⟨older, before, rfl⟩ := Option.map_eq_some_iff.1 stood
          exact .inr ⟨List.forall_mem_cons.2 ⟨renews, kept⟩, older, before, same⟩

end Scene

namespace Reference

def take (reference : Reference) : Write → Reference
  | .state entry => apply reference entry.patch
  | .create .. | .modify .. | .delete _ => reference

theorem take_part {α : Type} {part : Reference → α} {carried : Patch → Option α}
    (applied : ∀ reference patch,
      part (apply reference patch) = (carried patch).getD (part reference))
    (reference : Reference) (made : Write) :
    part (take reference made) = (made.refers carried).getD (part reference) := by
  cases made with
  | state entry => exact applied reference entry.patch
  | _ => rfl

theorem lastWritten_foldl_take (writes : List Write) :
    LastWritten (writes.foldl take initial) writes := by
  have settled {α : Type} (part : Reference → α) (carried : Patch → Option α)
      (applied : ∀ reference patch,
        part (apply reference patch) = (carried patch).getD (part reference)) :
      Settles (Write.refers carried) writes (part initial) (part (writes.foldl take initial)) :=
    settles_foldl (take_part applied) writes initial
  constructor
  · exact settled (·.pose.pos) (·.position) fun _ _ => rfl
  · exact settled (·.pose.rot) (·.orientation) fun _ _ => rfl
  · exact settled (·.offset.pos) (·.offsetPosition) fun _ _ => rfl
  · exact settled (·.offset.rot) (·.offsetOrientation) fun _ _ => rfl

end Reference

namespace Scene

theorem reference_writeAll (scene : Scene) (writes : List Write) :
    (scene.writeAll writes).reference = writes.foldl Reference.take scene.reference := by
  induction writes generalizing scene with
  | nil => rfl
  | cons made rest ih =>
      have one : (scene.write made).reference = Reference.take scene.reference made := by
        rw [reference_write]
        cases made <;> rfl
      rw [List.foldl_cons, ← one]
      exact ih (scene.write made)

end Scene

namespace Hub

open Scene

/-- In a scene that was empty at first, each part of a live source is what the latest successful
write since its latest creation carries, and each part of the reference what the latest of all
carries. -/
theorem lastWritten_serveAll {hub : Hub} (empty : hub.scene = .initial) (calls : List Call) :
    (∀ id source, (hub.serveAll calls).2.scene.source? id = some source →
        source.id = id ∧ ∃ life, Life id (hub.writesOf calls) life ∧ source.LastWritten life) ∧
      (hub.serveAll calls).2.scene.reference.LastWritten (hub.writesOf calls) := by
  rw [scene_serveAll, empty]
  refine ⟨fun id source found => ?_, ?_⟩
  · rw [source?_writeAll] at found
    rcases foldl_writeOne_cases found with ⟨life, lives, rfl⟩ | ⟨_, old, missing, _⟩
    · exact ⟨Source.id_foldl_take .., life, lives, Source.lastWritten_foldl_take id life⟩
    · cases missing
  · rw [reference_writeAll]
    exact Reference.lastWritten_foldl_take _

theorem lastWritten_serveAll_renewed :
    let calls : List Call := [
      .message "[\"new-src\",\x7b\"a\":\x7b\"mute\":true,\"name\":\"old\"\x7d\x7d]",
      .message "[\"del-src\",[\"a\"],\"new-src\",\x7b\"a\":\x7b\"pos\":[1,2]\x7d\x7d]",
      .gesture ⟨.source "a", none, some ⟨0.0, 0.0, 1.0, 0.0⟩⟩,
      .message "[\"mod-src\",\x7b\"a\":\x7b\"fixed\":true\x7d\x7d,\"del-src\",[\"b\"]]"]
    let source : Source :=
      ⟨"a", ⟨1.0, 2.0, 0.0⟩, ⟨0.0, 0.0, 1.0, 0.0⟩, true, none, none, 1.0, false, true⟩
    initial.scene = .initial ∧ (initial.serveAll calls).2.scene.source? "a" = some source ∧
      (source.id = "a" ∧ ∃ life, Life "a" (initial.writesOf calls) life ∧ source.LastWritten life) ∧
      (initial.serveAll calls).2.scene.reference.LastWritten (initial.writesOf calls) := by
  intro calls source
  have found : (initial.serveAll calls).2.scene.source? "a" = some source := by decide +kernel
  have empty : initial.scene = .initial := rfl
  obtain ⟨sources, reference⟩ := lastWritten_serveAll empty calls
  exact ⟨empty, found, sources "a" source found, reference⟩

end Hub

end SoundScene
