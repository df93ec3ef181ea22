import SoundScene.Proofs.LoudspeakerSet
import SoundScene.Proofs.Writes

/-!
State commands as transactions.  The entries of a state command are gathered first and then made at
once, the loudspeakers before the reference.  That comes to the same as to make them one after
another, whatever is repeated and however it is mixed, and if the loudspeakers are refused then
nothing is changed at all (`run_state`).
-/

namespace SoundScene

namespace StateEntry

def place (reference : Reference) : StateEntry → Reference
  | .position point => { reference with pose.pos := point }
  | .orientation rotor => { reference with pose.rot := rotor }
  | .offsetPosition point => { reference with offset.pos := point }
  | .offsetOrientation rotor => { reference with offset.rot := rotor }
  | .loudspeakers _ | .other .. => reference

def places : StateEntry → Bool
  | .position _ | .orientation _ | .offsetPosition _ | .offsetOrientation _ => true
  | .loudspeakers _ | .other .. => false

end StateEntry

open StateEntry

def lastLoudspeakers (entries : List StateEntry) : Option (List Loudspeaker) :=
  (entries.filterMap loudspeakers?).getLast?

theorem lastLoudspeakers_cons (entry : StateEntry) (rest : List StateEntry)
    (held : Option (List Loudspeaker)) :
    (lastLoudspeakers (entry :: rest)).or held =
      (lastLoudspeakers rest).or (entry.loudspeakers?.or held) := by
  simp only [lastLoudspeakers]
  cases carried : entry.loudspeakers? with
  | none => simp [carried]
  | some set =>
      rw [List.filterMap_cons_some carried, List.getLast?_cons]
      cases (rest.filterMap loudspeakers?).getLast? <;> rfl

theorem lastLoudspeakers_eq_none_iff {entries : List StateEntry} :
    lastLoudspeakers entries = none ↔ ∀ set, .loudspeakers set ∉ entries := by
  simp only [lastLoudspeakers, List.getLast?_eq_none_iff, List.filterMap_eq_nil_iff]
  constructor
  · intro silent set member
    cases silent _ member
  · intro absent entry member
    cases entry with
    | loudspeakers set => exact absurd member (absent set)
    | _ => rfl

namespace StateChange

theorem apply_foldl_add (reference : Reference) (entries : List StateEntry) (change : StateChange) :
    reference.apply (entries.foldl add change).reference =
      entries.foldl place (reference.apply change.reference) := by
  induction entries generalizing change with
  | nil => rfl
  | cons entry rest ih =>
      have one : reference.apply (change.add entry).reference =
          place (reference.apply change.reference) entry := by
        cases entry <;> rfl
      rw [List.foldl_cons, ih, one, List.foldl_cons]

theorem loudspeakers_foldl_add (entries : List StateEntry) (change : StateChange) :
    (entries.foldl add change).loudspeakers =
      (lastLoudspeakers entries).or change.loudspeakers := by
  induction entries generalizing change with
  | nil => rfl
  | cons entry rest ih =>
      have one : (change.add entry).loudspeakers = entry.loudspeakers?.or change.loudspeakers := by
        cases entry <;> rfl
      rw [List.foldl_cons, ih, one, lastLoudspeakers_cons]

theorem isEmpty_foldl_add (entries : List StateEntry) (change : StateChange) :
    (entries.foldl add change).reference.isEmpty =
      (change.reference.isEmpty && !entries.any places) := by
  induction entries generalizing change with
  | nil => simp
  | cons entry rest ih =>
      have one : (change.add entry).reference.isEmpty =
          (change.reference.isEmpty && !entry.places) := by
        cases entry <;> simp [add, places, Reference.Patch.isEmpty]
      rw [List.foldl_cons, ih, one, List.any_cons, Bool.not_or, Bool.and_assoc]

theorem apply_ofEntries (reference : Reference) (entries : List StateEntry) :
    reference.apply (ofEntries entries).reference = entries.foldl place reference :=
  apply_foldl_add reference entries {}

theorem loudspeakers_ofEntries (entries : List StateEntry) :
    (ofEntries entries).loudspeakers = lastLoudspeakers entries := by
  rw [ofEntries, loudspeakers_foldl_add, Option.or_none]

theorem isEmpty_ofEntries (entries : List StateEntry) :
    (ofEntries entries).reference.isEmpty = !entries.any places :=
  isEmpty_foldl_add entries {}

end StateChange

namespace Scene

/-- What the entries make of the scene, one after another. -/
def stated (scene : Scene) (entries : List StateEntry) : Scene :=
  { scene with
    reference := entries.foldl place scene.reference
    loudspeakers := (lastLoudspeakers entries).or scene.loudspeakers }

/-- What is told of it: the loudspeakers if there is an entry about them, and the reference as it is
at last if there is an entry about it. -/
def statedEvents (scene : Scene) (entries : List StateEntry) (origin : Origin) : List Event :=
  (lastLoudspeakers entries).toList.map .loudspeakersCreated ++
    if entries.any places then [.referenceChanged (scene.stated entries).reference origin] else []

variable {scene : Scene} {entries : List StateEntry}

theorem foldl_place_of_untouched (untouched : entries.any places = false) (reference : Reference) :
    entries.foldl place reference = reference := by
  rw [← StateChange.apply_ofEntries,
    apply_of_isEmpty (by simp [StateChange.isEmpty_ofEntries, untouched])]

theorem change_ofEntries (origin : Origin)
    (fits : scene.loudspeakers = none ∨ lastLoudspeakers entries = none) :
    scene.change (.ofEntries entries) origin =
      .ok (scene.statedEvents entries origin, scene.stated entries) := by
  rw [change, StateChange.loudspeakers_ofEntries, StateChange.isEmpty_ofEntries]
  cases last : lastLoudspeakers entries with
  | none =>
      cases touched : entries.any places with
      | true =>
          simp [statedEvents, stated, last, touched, patchReference, StateChange.apply_ofEntries,
            bind, Except.bind, pure, Except.pure]
      | false =>
          simp [statedEvents, stated, last, touched, foldl_place_of_untouched touched, bind,
            Except.bind, pure, Except.pure]
  | some set =>
      have unknown : scene.loudspeakers = none := by simpa [last] using fits
      cases touched : entries.any places with
      | true =>
          simp [createLoudspeakers, unknown, statedEvents, stated, last, touched, patchReference,
            StateChange.apply_ofEntries, Functor.map, Except.map]
      | false =>
          simp [createLoudspeakers, unknown, statedEvents, stated, last, touched,
            foldl_place_of_untouched touched, Except.map]

theorem run_state_of_fits (origin : Origin)
    (fits : ¬ (scene.loudspeakers.isSome = true ∧ ∃ set, .loudspeakers set ∈ entries)) :
    scene.run (.state entries) origin =
      .ok (scene.statedEvents entries origin, scene.stated entries) := by
  refine change_ofEntries origin ?_
  rw [lastLoudspeakers_eq_none_iff]
  by_cases known : scene.loudspeakers.isSome = true
  · exact .inr fun set member => fits ⟨known, set, member⟩
  · exact .inl (by simpa using known)

theorem stated_cons (scene : Scene) (entry : StateEntry) (rest : List StateEntry) :
    (scene.stated [entry]).stated rest = scene.stated (entry :: rest) := by
  simp only [stated, List.foldl_cons, List.foldl_nil, lastLoudspeakers_cons]
  rfl

theorem runAll_entries (origin : Origin)
    (once : (entries.filterMap loudspeakers?).length + scene.loudspeakers.toList.length ≤ 1) :
    ∃ told, scene.runAll origin (entries.map fun entry => .state [entry]) =
      ⟨scene.stated entries, told, none⟩ := by
  induction entries generalizing scene with
  | nil => exact ⟨[], rfl⟩
  | cons entry rest ih =>
      have fits : ¬ (scene.loudspeakers.isSome = true ∧ ∃ set, .loudspeakers set ∈ [entry]) := by
        rintro ⟨known, set, carried⟩
        obtain ⟨held, known⟩ := Option.isSome_iff_exists.1 known
        rw [← List.mem_singleton.1 carried, known] at once
        simp [loudspeakers?] at once
      have later : (rest.filterMap loudspeakers?).length +
          (scene.stated [entry]).loudspeakers.toList.length ≤ 1 := by
        cases carried : entry.loudspeakers? with
        | none => simpa [stated, lastLoudspeakers, carried] using once
        | some set =>
            have known : (scene.stated [entry]).loudspeakers = some set := by
              simp [stated, lastLoudspeakers, carried]
            simp only [List.filterMap_cons, carried, List.length_cons] at once
            rw [known, Option.toList_some, List.length_singleton]
            omega
      obtain ⟨told, ran⟩ := ih later
      refine ⟨scene.statedEvents [entry] origin :: told, ?_⟩
      rw [List.map_cons, runAll, run_state_of_fits origin fits]
      simp only [ran, stated_cons]

/-- A state command that comes with loudspeakers where some are known is refused and does nothing.
Any other does what its entries do in turn, and tells of it once for the loudspeakers and once for
the reference.  If it has one list of loudspeakers at most, each entry may come in a command of its
own. -/
theorem run_state (scene : Scene) (entries : List StateEntry) (origin : Origin) :
    let refused := scene.loudspeakers.isSome = true ∧ ∃ set, .loudspeakers set ∈ entries
    (refused → scene.run (.state entries) origin = .error .loudspeakersExist ∧
        Edit.command (.state entries) origin scene = .error .loudspeakersExist scene) ∧
      (¬ refused → scene.run (.state entries) origin =
          .ok (scene.statedEvents entries origin, scene.stated entries)) ∧
      (¬ refused → (entries.filterMap loudspeakers?).length ≤ 1 →
        ∃ told, scene.runAll origin (entries.map fun entry => .state [entry]) =
          ⟨scene.stated entries, told, none⟩) := by
  intro refused
  refine ⟨?_, run_state_of_fits origin, ?_⟩
  · rintro ⟨known, carries⟩
    obtain ⟨held, known⟩ := Option.isSome_iff_exists.1 known
    have carried : (Command.state entries).CarriesLoudspeakers := carries
    have ran : scene.run (.state entries) origin = .error .loudspeakersExist :=
      run_of_known known carried origin
    exact ⟨ran, command_error_iff.2 ⟨ran, rfl⟩⟩
  · intro fits few
    refine runAll_entries origin ?_
    cases known : scene.loudspeakers with
    | none => simpa using few
    | some held =>
        have silent : entries.filterMap loudspeakers? = [] := by
          rw [← List.getLast?_eq_none_iff, ← lastLoudspeakers, lastLoudspeakers_eq_none_iff]
          exact fun set member => fits ⟨by simp [known], set, member⟩
        simp [silent]

theorem run_state_mixed :
    let entries : List StateEntry := [.position ⟨1.0, 0.0, 0.0⟩, .other "cpu" .null,
      .loudspeakers [], .offsetOrientation ⟨0.0, 0.0, 1.0, 0.0⟩, .position ⟨2.0, 0.0, 0.0⟩]
    let reference : Reference :=
      ⟨⟨⟨2.0, 0.0, 0.0⟩, Rotor.identity⟩, ⟨Point.origin, ⟨0.0, 0.0, 1.0, 0.0⟩⟩⟩
    let known : Scene := { initial with loudspeakers := some [] }
    initial.run (.state entries) .renderer =
        .ok ([.loudspeakersCreated [], .referenceChanged reference .renderer],
          { known with reference }) ∧
      (∃ told, initial.runAll .renderer (entries.map fun entry => .state [entry]) =
        ⟨{ known with reference }, told, none⟩) ∧
      known.run (.state entries) .renderer = .error .loudspeakersExist ∧
      Edit.command (.state entries) .renderer known = .error .loudspeakersExist known := by
  intro entries reference known
  obtain ⟨_, succeeds, alone⟩ := run_state initial entries .renderer
  obtain ⟨refuses, _, _⟩ := run_state known entries .renderer
  have fits : ¬ (initial.loudspeakers.isSome = true ∧ ∃ set, .loudspeakers set ∈ entries) := by
    simp [initial]
  have carries : known.loudspeakers.isSome = true ∧ ∃ set, .loudspeakers set ∈ entries :=
    ⟨rfl, [], by simp [entries]⟩
  exact ⟨succeeds fits, alone fits (by decide), refuses carries⟩

end Scene

end SoundScene
