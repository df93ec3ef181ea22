import SoundScene.Proofs.Batches
import SoundScene.Proofs.StateCommands

/-!
Commands about different things.  A command finds out whether it succeeds, and what it tells, from
the parts of the scene that it is about (`answer_congr`), and it leaves every other part alone
(`left_other`).  So two commands that are about different parts may change places: each answers what
it would have answered, and the scene is the same at last (`commands_commute`).
-/

namespace SoundScene

/-- A part of the scene that a command may be about. -/
inductive Subject where
  | source (id : String)
  | reference
  | loudspeakers
deriving DecidableEq, Repr

namespace StateEntry

def About : StateEntry → Subject → Prop
  | .loudspeakers _, subject => subject = .loudspeakers
  | .position _, subject | .orientation _, subject | .offsetPosition _, subject
  | .offsetOrientation _, subject => subject = .reference
  | .other .., _ => False

end StateEntry

def Write.About : Write → Subject → Prop
  | .create id _, subject | .modify id _, subject | .delete id, subject => subject = .source id
  | .state entry, subject => entry.About subject

namespace Command

def About (command : Command) (subject : Subject) : Prop :=
  ∃ made ∈ command.writes, made.About subject

def ids : Command → List String
  | .create batch | .modify batch => batch.map (·.1)
  | .delete ids => ids
  | .state _ | .subscribe _ => []

def OfSources : Command → Prop
  | .create _ | .modify _ | .delete _ => True
  | .state _ | .subscribe _ => False

theorem About.of_sources {command : Command} (sources : command.OfSources) {subject : Subject}
    (about : command.About subject) : ∃ id ∈ command.ids, subject = .source id := by
  obtain ⟨made, member, about⟩ := about
  cases command with
  | create batch =>
      obtain ⟨entry, listed, rfl⟩ := List.mem_map.1 member
      exact ⟨entry.1, List.mem_map_of_mem listed, about⟩
  | modify batch =>
      obtain ⟨entry, listed, rfl⟩ := List.mem_map.1 member
      exact ⟨entry.1, List.mem_map_of_mem listed, about⟩
  | delete ids =>
      obtain ⟨id, listed, rfl⟩ := List.mem_map.1 member
      exact ⟨id, listed, about⟩
  | state entries => cases sources
  | subscribe topics => cases sources

theorem about_of_mem_ids {command : Command} {id : String} (listed : id ∈ command.ids) :
    command.About (.source id) := by
  cases command with
  | create batch =>
      obtain ⟨entry, member, rfl⟩ := List.mem_map.1 listed
      exact ⟨.create entry.1 entry.2, List.mem_map_of_mem member, rfl⟩
  | modify batch =>
      obtain ⟨entry, member, rfl⟩ := List.mem_map.1 listed
      exact ⟨.modify entry.1 entry.2, List.mem_map_of_mem member, rfl⟩
  | delete ids => exact ⟨.delete id, List.mem_map_of_mem listed, rfl⟩
  | state entries => cases listed
  | subscribe topics => cases listed

theorem About.of_state {entries : List StateEntry} {subject : Subject}
    (about : (Command.state entries).About subject) :
    subject = .reference ∨ subject = .loudspeakers := by
  obtain ⟨made, member, about⟩ := about
  obtain ⟨entry, _, rfl⟩ := List.mem_map.1 member
  cases entry with
  | loudspeakers set => exact .inr about
  | other name value => cases about
  | _ => exact .inl about

end Command

namespace Scene

/-- Two scenes have the same in one part. -/
def SameAt (first second : Scene) : Subject → Prop
  | .source id => first.source? id = second.source? id
  | .reference => first.reference = second.reference
  | .loudspeakers => first.loudspeakers = second.loudspeakers

variable {first second scene : Scene} {subject : Subject}

theorem SameAt.symm (same : SameAt first second subject) : SameAt second first subject := by
  cases subject <;> exact Eq.symm same

theorem SameAt.trans {third : Scene} (same : SameAt first second subject)
    (later : SameAt second third subject) : SameAt first third subject := by
  cases subject <;> exact Eq.trans same later

theorem eq_of_sameAt (same : ∀ subject, SameAt first second subject) : first = second :=
  eq_of_parts (Table.ext_find? fun id => same (.source id)) (same .reference) (same .loudspeakers)

theorem SameAt.write (same : SameAt first second subject) (made : Write) :
    SameAt (first.write made) (second.write made) subject := by
  cases subject with
  | source id =>
      have held : first.source? id = second.source? id := same
      rw [SameAt, source?_write, source?_write, held]
  | reference =>
      have held : first.reference = second.reference := same
      rw [SameAt, reference_write, reference_write, held]
  | loudspeakers =>
      have held : first.loudspeakers = second.loudspeakers := same
      rw [SameAt, loudspeakers_write, loudspeakers_write, held]

theorem SameAt.writeAll (same : SameAt first second subject) (writes : List Write) :
    SameAt (first.writeAll writes) (second.writeAll writes) subject := by
  induction writes generalizing first second with
  | nil => exact same
  | cons made rest ih => exact ih (same.write made)

theorem sameAt_write (scene : Scene) {made : Write} (other : ¬ made.About subject) :
    SameAt (scene.write made) scene subject := by
  cases subject with
  | source id =>
      rw [SameAt, source?_write]
      cases made with
      | state entry => rfl
      | create key patch =>
          have different : key ≠ id := fun same => other (same ▸ rfl)
          exact if_neg different
      | modify key patch =>
          have different : key ≠ id := fun same => other (same ▸ rfl)
          exact if_neg different
      | delete key =>
          have different : key ≠ id := fun same => other (same ▸ rfl)
          exact if_neg different
  | reference =>
      rw [SameAt, reference_write]
      cases made with
      | state entry =>
          cases entry with
          | loudspeakers set => rfl
          | other name value => rfl
          | _ => exact absurd rfl other
      | _ => rfl
  | loudspeakers =>
      rw [SameAt, loudspeakers_write]
      cases made with
      | state entry =>
          cases entry with
          | loudspeakers set => exact absurd rfl other
          | _ => rfl
      | _ => rfl

theorem sameAt_writeAll (scene : Scene) {writes : List Write}
    (others : ∀ made ∈ writes, ¬ made.About subject) :
    SameAt (scene.writeAll writes) scene subject := by
  induction writes generalizing scene with
  | nil => cases subject <;> rfl
  | cons made rest ih =>
      have later := ih (scene.write made) fun other member => others other (by simp [member])
      exact later.trans (scene.sameAt_write (others made (by simp)))

theorem patchAll_congr {table other : Table Source} {batch : Batch}
    (same : ∀ entry ∈ batch, table.find? entry.1 = other.find? entry.1) :
    (patchAll table batch).1 = (patchAll other batch).1 := by
  induction batch generalizing table other with
  | nil => rfl
  | cons entry rest ih =>
      obtain ⟨id, patch⟩ := entry
      have here : table.find? id = other.find? id := same (id, patch) (by simp)
      have others : ∀ entry ∈ rest, table.find? entry.1 = other.find? entry.1 :=
        fun entry member => same entry (by simp [member])
      rw [patchAll, patchAll, here]
      cases other.find? id with
      | none => exact ih others
      | some source =>
          refine congrArg (source.apply patch :: ·) (ih fun entry member => ?_)
          rw [Table.find?_insert, Table.find?_insert, others entry member]

theorem isLive_congr {id : String} (same : SameAt first second (.source id)) :
    first.isLive id = second.isLive id := by
  rw [isLive, isLive, Table.contains, Table.contains]
  exact congrArg Option.isSome same

theorem statedEvents_congr {entries : List StateEntry}
    (placed : entries.any StateEntry.places = true → first.reference = second.reference)
    (origin : Origin) :
    first.statedEvents entries origin = second.statedEvents entries origin := by
  rw [statedEvents, statedEvents]
  cases touched : entries.any StateEntry.places with
  | true => simp only [stated, placed touched]
  | false => rfl

theorem answer_state_congr {entries : List StateEntry}
    (known : ∀ set, .loudspeakers set ∈ entries → first.loudspeakers = second.loudspeakers)
    (placed : entries.any StateEntry.places = true → first.reference = second.reference)
    (origin : Origin) :
    (first.run (.state entries) origin).map (·.1) =
      (second.run (.state entries) origin).map (·.1) := by
  by_cases refused : second.loudspeakers.isSome = true ∧ ∃ set, .loudspeakers set ∈ entries
  · obtain ⟨there, set, member⟩ := refused
    obtain ⟨held, there⟩ := Option.isSome_iff_exists.1 there
    have carries : (Command.state entries).CarriesLoudspeakers := ⟨set, member⟩
    rw [run_of_known there carries, run_of_known ((known set member).trans there) carries]
  · have fits : ¬ (first.loudspeakers.isSome = true ∧ ∃ set, .loudspeakers set ∈ entries) := by
      rintro ⟨there, set, member⟩
      exact refused ⟨known set member ▸ there, set, member⟩
    rw [run_state_of_fits origin refused, run_state_of_fits origin fits]
    exact congrArg Except.ok (statedEvents_congr placed origin)

theorem answer_congr {command : Command}
    (same : ∀ subject, command.About subject → SameAt first second subject) (origin : Origin) :
    (first.run command origin).map (·.1) = (second.run command origin).map (·.1) := by
  have live : ∀ id ∈ command.ids, first.isLive id = second.isLive id := fun id listed =>
    isLive_congr (same (.source id) (Command.about_of_mem_ids listed))
  cases command with
  | create batch =>
      have passes : firstRefused first.isLive [] (batch.map (·.1)) =
          firstRefused second.isLive [] (batch.map (·.1)) :=
        firstRefused_congr fun id listed => by rw [live id listed]
      rw [run, run, create, create, passes]
      cases firstRefused second.isLive [] (batch.map (·.1)) <;> rfl
  | modify batch =>
      have passes : (batch.map (·.1)).find? (fun id => !first.isLive id) =
          (batch.map (·.1)).find? (fun id => !second.isLive id) :=
        List.find?_congr fun id listed => by rw [live id listed]
      have changed : (patchAll first.sources batch).1 = (patchAll second.sources batch).1 :=
        patchAll_congr fun entry listed =>
          same (.source entry.1) (Command.about_of_mem_ids (List.mem_map_of_mem listed))
      rw [run, run, modify, modify, passes]
      cases (batch.map (·.1)).find? (fun id => !second.isLive id) with
      | some id => rfl
      | none =>
          have told := congrArg (List.map fun source => Event.modified source origin) changed
          exact congrArg Except.ok told
  | delete ids =>
      have passes : firstRefused (fun id => !first.isLive id) [] ids =
          firstRefused (fun id => !second.isLive id) [] ids :=
        firstRefused_congr fun id listed => by rw [live id listed]
      rw [run, run, delete, delete, passes]
      cases firstRefused (fun id => !second.isLive id) [] ids <;> rfl
  | state entries =>
      refine answer_state_congr (fun set member => ?_) (fun touched => ?_) origin
      · exact same .loudspeakers ⟨.state (.loudspeakers set), List.mem_map_of_mem member, rfl⟩
      · obtain ⟨entry, member, places⟩ := List.any_eq_true.1 touched
        refine same .reference ⟨.state entry, List.mem_map_of_mem member, ?_⟩
        cases entry with
        | loudspeakers set => cases places
        | other name value => cases places
        | _ => rfl
  | subscribe topics => rfl

end Scene

namespace Edit

open Scene

variable {α β : Type}

def answer : EStateM.Result Failure Scene α → Except Failure α
  | .ok value _ => .ok value
  | .error failure _ => .error failure

def left : EStateM.Result Failure Scene α → Scene
  | .ok _ scene | .error _ scene => scene

/-- In a scene two steps may change places: each answers the same whether it comes first or second,
and in both orders the same scene is left. -/
structure Commute (first : Edit α) (second : Edit β) (scene : Scene) : Prop where
  firstAnswers : answer (first (left (second scene))) = answer (first scene)
  secondAnswers : answer (second (left (first scene))) = answer (second scene)
  leaves : left (second (left (first scene))) = left (first (left (second scene)))

variable {stated : Command} {subject : Subject}

theorem answer_command (stated : Command) (origin : Origin) (scene : Scene) :
    answer (command stated origin scene) = (scene.run stated origin).map (·.1) := by
  rw [command_eq]
  cases scene.run stated origin <;> rfl

theorem left_command (stated : Command) (origin : Origin) (scene : Scene) :
    left (command stated origin scene) = match answer (command stated origin scene) with
      | .ok _ => scene.writeAll stated.writes
      | .error _ => scene := by
  rw [command_eq]
  cases ran : scene.run stated origin with
  | error failure => rfl
  | ok result => exact run_eq_writeAll ran

theorem left_other (scene : Scene) (origin : Origin) (other : ¬ stated.About subject) :
    SameAt (left (command stated origin scene)) scene subject := by
  rw [left_command]
  cases answer (command stated origin scene) with
  | error failure => cases subject <;> rfl
  | ok events => exact scene.sameAt_writeAll fun made member about => other ⟨made, member, about⟩

theorem command_congr {first second : Scene}
    (same : ∀ subject, stated.About subject → SameAt first second subject) (origin : Origin) :
    answer (command stated origin first) = answer (command stated origin second) ∧
      ∀ subject, SameAt first second subject →
        SameAt (left (command stated origin first)) (left (command stated origin second))
          subject := by
  have answers : answer (command stated origin first) = answer (command stated origin second) := by
    rw [answer_command, answer_command, answer_congr same]
  refine ⟨answers, fun subject held => ?_⟩
  rw [left_command, left_command, answers]
  cases answer (command stated origin second) with
  | error failure => exact held
  | ok events => exact held.writeAll stated.writes

theorem commute_of_apart {first second : Command}
    (apart : ∀ subject, first.About subject → ¬ second.About subject) (here there : Origin)
    (scene : Scene) :
    Commute (command first here) (command second there) scene := by
  have firstFinds (subject : Subject) (about : first.About subject) :
      SameAt (left (command second there scene)) scene subject :=
    left_other scene there (apart subject about)
  have secondFinds (subject : Subject) (about : second.About subject) :
      SameAt (left (command first here scene)) scene subject :=
    left_other scene here fun other => apart subject other about
  obtain ⟨firstAnswers, firstMakes⟩ := command_congr firstFinds here
  obtain ⟨secondAnswers, secondMakes⟩ := command_congr secondFinds there
  refine ⟨firstAnswers, secondAnswers, eq_of_sameAt fun subject => ?_⟩
  by_cases about : first.About subject
  · have made := firstMakes subject (firstFinds subject about)
    exact (left_other _ there (apart subject about)).trans made.symm
  · have kept : SameAt (left (command first here scene)) scene subject :=
      left_other scene here about
    exact (secondMakes subject kept).trans (left_other _ here about).symm

/-- Commands on different sources may change places, and so may a command on sources and one on the
state.  It does not matter which of them fail. -/
theorem commands_commute (here there : Origin) (scene : Scene) :
    (∀ first second : Command, first.OfSources → second.OfSources →
        (∀ id ∈ first.ids, id ∉ second.ids) →
        Commute (command first here) (command second there) scene) ∧
      ∀ (entries : List StateEntry) (second : Command), second.OfSources →
        Commute (command (.state entries) here) (command second there) scene := by
  constructor
  · intro first second sources others apart
    refine commute_of_apart (fun subject about again => ?_) here there scene
    obtain ⟨id, listed, rfl⟩ := about.of_sources sources
    obtain ⟨other, also, same⟩ := again.of_sources others
    cases same
    exact apart id listed also
  · intro entries second sources
    refine commute_of_apart (fun subject about again => ?_) here there scene
    obtain ⟨id, _, rfl⟩ := again.of_sources sources
    rcases about.of_state with same | same <;> cases same

theorem commands_commute_refused :
    let scene := initial.writeAll [.create "a" {}]
    let patched : Command := .modify [("a", { mute := some true }), ("a", { fixed := some true })]
    let deleted : Command := .delete ["b", "c"]
    let entries : List StateEntry := [.position ⟨1.0, 0.0, 0.0⟩, .loudspeakers []]
    Commute (command patched .operator) (command deleted .renderer) scene ∧
      answer (command deleted .renderer scene) = .error (.sourceNotFound "b") ∧
      Commute (command (.state entries) .renderer) (command patched .operator) scene ∧
      answer (command (.state entries) .renderer scene) = .ok [.loudspeakersCreated [],
        .referenceChanged ⟨⟨⟨1.0, 0.0, 0.0⟩, Rotor.identity⟩, Pose.identity⟩ .renderer] := by
  intro scene patched deleted entries
  obtain ⟨apart, _⟩ := commands_commute .operator .renderer scene
  obtain ⟨_, beside⟩ := commands_commute .renderer .operator scene
  refine ⟨apart patched deleted trivial trivial (by decide), ?_, beside entries patched trivial, ?_⟩
  · decide +kernel
  · decide +kernel

end Edit

end SoundScene
