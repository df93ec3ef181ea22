import Mathlib
import SoundScene.Proofs.Traffic

/-!
The order of events on the bus while several calls are under way.  Whatever the schedule, each event
is published once, and in the order of the changes the events lead from the first scene to the last.
They are published in that order exactly if no gesture is overtaken between letting go of the scene
and publishing its event (`bus_isPrefix_made_iff`).
-/

namespace SoundScene

def Earlier (first second : Numbered) : Prop := first.2 < second.2

namespace Traffic

/-- The step publishes an event while another call, which has let go of the scene, has an earlier
one still to publish. -/
def Overtakes (traffic : Traffic) (mover : Nat) : Prop :=
  ∃ stage event other late, traffic.stages[mover]? = some stage ∧
    stage.publishes? = some event ∧ other ∈ traffic.stages ∧ other.holds = false ∧
    late ∈ other.pending ∧ Earlier late event

def Overtaken (traffic : Traffic) : List Nat → Prop
  | [] => False
  | mover :: rest =>
    traffic.Overtakes mover ∨ ∃ next, traffic.step mover = some next ∧ next.Overtaken rest

def Clear (first second : Stage) : Prop :=
  (first.holds = true → ∀ event ∈ first.pending, ∀ other ∈ second.pending, Earlier other event) ∧
    (second.holds = true → ∀ event ∈ second.pending, ∀ other ∈ first.pending, Earlier other event)

structure Sound (origin : Scene) (traffic : Traffic) : Prop where
  told : Scene.ToldAll origin (traffic.made.map Prod.fst) traffic.hub.scene
  numbered : traffic.made = (traffic.made.map Prod.fst).zipIdx
  complete : (traffic.bus ++ traffic.stages.flatMap Stage.pending).Perm traffic.made
  sorted : ∀ stage ∈ traffic.stages, stage.pending.Pairwise Earlier
  holders : traffic.stages.countP Stage.holds = traffic.held.toNat
  clear : traffic.stages.Pairwise Clear

/-- The bus is in order so far, and nothing that is still to be published belongs before it. -/
structure InOrder (traffic : Traffic) : Prop where
  bus : traffic.bus.Pairwise Earlier
  ahead : ∀ told ∈ traffic.bus, ∀ stage ∈ traffic.stages, ∀ late ∈ stage.pending, Earlier told late

def OutOfOrder (traffic : Traffic) : Prop :=
  ∃ told late, Earlier late told ∧
    ((told ∈ traffic.bus ∧ ∃ stage ∈ traffic.stages, late ∈ stage.pending) ∨
      [told, late].Sublist traffic.bus)

theorem earlier_zipIdx (events : List Event) (start : Nat) :
    (events.zipIdx start).Pairwise Earlier := by
  have ascending : ((events.zipIdx start).map Prod.snd).Pairwise (· < ·) := by
    rw [List.zipIdx_map_snd]
    exact List.pairwise_lt_range'
  exact (List.pairwise_map (f := Prod.snd) (R := (· < ·))).1 ascending

theorem Clear.symm {first second : Stage} (clear : Clear first second) : Clear second first :=
  ⟨clear.2, clear.1⟩

theorem Clear.of_pending_nil {first second : Stage} (none : first.pending = []) :
    Clear first second := by
  simp [Clear, none]

theorem start_sound (hub : Hub) (calls : List Call) : Sound hub.scene (start hub calls) where
  told := .done
  numbered := rfl
  complete := by simp [start, Stage.pending, List.flatMap_map]
  sorted := by simp [start, Stage.pending]
  holders := by simp [start, Stage.holds, List.countP_eq_zero]
  clear := by
    simp only [start, List.pairwise_map]
    exact List.pairwise_of_forall fun _ _ => ⟨nofun, nofun⟩

namespace Sound

variable {origin : Scene} {traffic next : Traffic}

theorem made_sorted (sound : Sound origin traffic) : traffic.made.Pairwise Earlier := by
  rw [sound.numbered]
  exact earlier_zipIdx ..

theorem lt_length (sound : Sound origin traffic) {event : Numbered} (member : event ∈ traffic.made) :
    event.2 < traffic.made.length := by
  rw [sound.numbered] at member
  have bound := (List.mem_zipIdx' member).1
  simpa using bound

theorem mem_made_of_pending (sound : Sound origin traffic) {stage : Stage} {event : Numbered}
    (present : stage ∈ traffic.stages) (pending : event ∈ stage.pending) :
    event ∈ traffic.made :=
  sound.complete.subset (List.mem_append_right _ (List.mem_flatMap.2 ⟨stage, present, pending⟩))

theorem mem_made_of_bus (sound : Sound origin traffic) {event : Numbered}
    (told : event ∈ traffic.bus) : event ∈ traffic.made :=
  sound.complete.subset (List.mem_append_left _ told)

theorem holders_cons (sound : Sound origin traffic) {stage : Stage} {others : List Stage}
    (split : traffic.stages.Perm (stage :: others)) :
    others.countP Stage.holds + stage.holds.toNat = traffic.held.toNat := by
  rw [← sound.holders, split.countP_eq, List.countP_cons]
  cases stage.holds <;> rfl

theorem others_free (sound : Sound origin traffic) {stage : Stage} {others : List Stage}
    (split : traffic.stages.Perm (stage :: others))
    (alone : stage.holds = true ∨ traffic.held = false) :
    ∀ other ∈ others, other.holds = false := by
  have count := sound.holders_cons split
  have none : others.countP Stage.holds = 0 := by
    rcases alone with holds | free
    · have atMost := Bool.toNat_le traffic.held
      rw [holds] at count
      simp only [Bool.toNat_true] at count
      omega
    · rw [free] at count
      simp only [Bool.toNat_false] at count
      omega
  simpa using List.countP_eq_zero.1 none

theorem complete_cons (sound : Sound origin traffic) {stage : Stage} {others : List Stage}
    (split : traffic.stages.Perm (stage :: others)) :
    (traffic.bus ++ (stage.pending ++ others.flatMap Stage.pending)).Perm traffic.made :=
  ((split.flatMap_right Stage.pending).append_left traffic.bus).symm.trans sound.complete

theorem clear_cons (sound : Sound origin traffic) {stage : Stage} {others : List Stage}
    (split : traffic.stages.Perm (stage :: others)) :
    (∀ other ∈ others, Clear stage other) ∧ others.Pairwise Clear :=
  List.pairwise_cons.1 ((split.pairwise_iff Clear.symm).1 sound.clear)

theorem of_mover (sound : Sound origin traffic) {stage after : Stage} {others : List Stage}
    (old : traffic.stages.Perm (stage :: others)) (new : next.stages.Perm (after :: others))
    (told : Scene.ToldAll origin (next.made.map Prod.fst) next.hub.scene)
    (numbered : next.made = (next.made.map Prod.fst).zipIdx)
    (complete : (next.bus ++ (after.pending ++ others.flatMap Stage.pending)).Perm next.made)
    (sorted : after.pending.Pairwise Earlier)
    (holders : others.countP Stage.holds + after.holds.toNat = next.held.toNat)
    (clear : ∀ other ∈ others, Clear after other) : Sound origin next where
  told := told
  numbered := numbered
  complete := ((new.flatMap_right Stage.pending).append_left next.bus).trans complete
  sorted := by
    intro other present
    rcases List.mem_cons.1 (new.subset present) with rfl | present
    · exact sorted
    · exact sound.sorted other (old.symm.subset (List.mem_cons_of_mem _ present))
  holders := by
    rw [new.countP_eq, List.countP_cons, ← holders]
    cases after.holds <;> rfl
  clear := (new.pairwise_iff Clear.symm).2
    (List.pairwise_cons.2 ⟨clear, (sound.clear_cons old).2⟩)

theorem step {mover : Nat} (sound : Sound origin traffic)
    (stepped : traffic.step mover = some next) : Sound origin next := by
  obtain ⟨stage, after, others, _, old, new, effect⟩ := step_effect stepped
  have present : stage ∈ traffic.stages := old.symm.subset (by simp)
  have count := sound.holders_cons old
  have parts := sound.complete_cons old
  obtain ⟨apart, _⟩ := sound.clear_cons old
  cases effect with
  | quiet scene made bus held holds pending _ =>
      refine sound.of_mover old new (by rw [made, scene]; exact sound.told)
        (by rw [made]; exact sound.numbered) (by rw [bus, pending, made]; exact parts)
        (by rw [pending]; exact sound.sorted stage present) (by rw [holds, held]; exact count) ?_
      simpa only [Clear, holds, pending] using apart
  | acquire scene made bus free taken idle holds none empty _ =>
      refine sound.of_mover old new (by rw [made, scene]; exact sound.told)
        (by rw [made]; exact sound.numbered) (by rw [bus, empty, made, ← none]; exact parts)
        (by simp [empty]) ?_ fun other _ => .of_pending_nil empty
      rw [free, idle] at count
      rw [holds, taken]
      exact congrArg (· + 1) count
  | release scene made bus free holds idle none empty _ =>
      refine sound.of_mover old new (by rw [made, scene]; exact sound.told)
        (by rw [made]; exact sound.numbered) (by rw [bus, empty, made, ← none]; exact parts)
        (by simp [empty]) ?_ fun other _ => .of_pending_nil empty
      rw [idle, free]
      simpa using sound.others_free old (.inl holds)
  | change events told made bus held holds alone none pending _ =>
      refine sound.of_mover old new ?_ ?_ ?_ ?_ (by rw [holds, held]; exact count) ?_
      · rw [made, List.map_append, number, List.zipIdx_map_fst]
        exact sound.told.append told
      · rw [made, List.map_append, number, List.zipIdx_map_fst, List.zipIdx_append, List.length_map,
          ← sound.numbered, Nat.zero_add]
      · rw [bus, pending, made]
        rw [none, List.nil_append] at parts
        refine (List.perm_append_comm.append_left traffic.bus).trans ?_
        rw [← List.append_assoc]
        exact parts.append_right _
      · rw [pending]
        exact earlier_zipIdx ..
      · intro other member
        refine ⟨fun _ event fresh late waiting => ?_, fun taken => ?_⟩
        · rw [pending] at fresh
          have known := sound.mem_made_of_pending
            (old.symm.subset (List.mem_cons_of_mem _ member)) waiting
          exact Nat.lt_of_lt_of_le (sound.lt_length known) (List.le_snd_of_mem_zipIdx fresh)
        · have idle := sound.others_free old alone other member
          simp [idle] at taken
  | publish event scene made bus held holds pending _ =>
      have ordered := sound.sorted stage present
      rw [pending] at ordered parts
      refine sound.of_mover old new (by rw [made, scene]; exact sound.told)
        (by rw [made]; exact sound.numbered) (by rw [bus, made]; simpa using parts)
        (List.pairwise_cons.1 ordered).2 (by rw [holds, held]; exact count) ?_
      intro other member
      obtain ⟨above, below⟩ := apart other member
      rw [pending] at above below
      rw [← holds] at above
      exact ⟨fun held late waiting => above held late (by simp [waiting]),
        fun held late waiting first rest => below held late waiting first (by simp [rest])⟩

theorem pending_ne (sound : Sound origin traffic) {stage : Stage} {others : List Stage}
    (split : traffic.stages.Perm (stage :: others)) {event late : Numbered}
    (pending : event ∈ stage.pending) {other : Stage} (member : other ∈ others)
    (waiting : late ∈ other.pending) : event.2 ≠ late.2 := by
  have apart : (traffic.bus ++ (stage.pending ++ others.flatMap Stage.pending)).Pairwise
      fun first second => first.2 ≠ second.2 :=
    (sound.made_sorted.imp Nat.ne_of_lt).perm (sound.complete_cons split).symm Ne.symm
  have pendings := (List.pairwise_append.1 apart).2.1
  exact (List.pairwise_append.1 pendings).2.2 event pending late
    (List.mem_flatMap.2 ⟨other, member, waiting⟩)

end Sound

variable {origin : Scene} {traffic next : Traffic} {mover : Nat}

theorem InOrder.step (ordered : traffic.InOrder) (sound : Sound origin traffic)
    (stepped : traffic.step mover = some next) (fair : ¬ traffic.Overtakes mover) :
    next.InOrder := by
  obtain ⟨stage, after, others, found, old, new, effect⟩ := step_effect stepped
  have present : stage ∈ traffic.stages := old.symm.subset (by simp)
  have still {other : Stage} (member : other ∈ others) : other ∈ traffic.stages :=
    old.symm.subset (List.mem_cons_of_mem _ member)
  have unchanged (bus : next.bus = traffic.bus)
      (mine : ∀ told ∈ traffic.bus, ∀ late ∈ after.pending, Earlier told late) : next.InOrder := by
    refine ⟨by rw [bus]; exact ordered.bus, fun told published other member late waiting => ?_⟩
    rw [bus] at published
    rcases List.mem_cons.1 (new.subset member) with rfl | member
    · exact mine told published late waiting
    · exact ordered.ahead told published other (still member) late waiting
  cases effect with
  | quiet _ _ bus _ _ pending _ =>
      apply unchanged bus
      intro told published late waiting
      exact ordered.ahead told published stage present late (pending ▸ waiting)
  | acquire _ _ bus _ _ _ _ _ empty _ => exact unchanged bus (by simp [empty])
  | release _ _ bus _ _ _ _ empty _ => exact unchanged bus (by simp [empty])
  | change events _ _ bus _ _ _ _ pending _ =>
      apply unchanged bus
      intro told published late fresh
      rw [pending] at fresh
      exact Nat.lt_of_lt_of_le (sound.lt_length (sound.mem_made_of_bus published))
        (List.le_snd_of_mem_zipIdx fresh)
  | publish event _ _ bus _ holds pending publishes =>
      have sorted := sound.sorted stage present
      rw [pending, List.pairwise_cons] at sorted
      have first : event ∈ stage.pending := by simp [pending]
      have behind : ∀ other ∈ others, ∀ late ∈ other.pending, Earlier event late := by
        intro other member late waiting
        cases idle : other.holds with
        | true => exact ((sound.clear_cons old).1 other member).2 idle late waiting event first
        | false =>
            have different := sound.pending_ne old first member waiting
            have notBefore : ¬ Earlier late event := fun before =>
              fair ⟨stage, event, other, late, found, publishes, still member, idle, waiting, before⟩
            exact Nat.lt_of_le_of_ne (Nat.le_of_not_lt notBefore) different
      constructor
      · rw [bus, List.pairwise_append]
        refine ⟨ordered.bus, List.pairwise_singleton .., fun told published last same => ?_⟩
        exact List.mem_singleton.1 same ▸ ordered.ahead told published stage present event first
      · intro told published other member late waiting
        rw [bus, List.mem_append, List.mem_singleton] at published
        rcases published with published | rfl <;>
          rcases List.mem_cons.1 (new.subset member) with rfl | member
        · exact ordered.ahead told published stage present late (by simp [pending, waiting])
        · exact ordered.ahead told published other (still member) late waiting
        · exact sorted.1 late waiting
        · exact behind other member late waiting

theorem OutOfOrder.step (disordered : traffic.OutOfOrder)
    (stepped : traffic.step mover = some next) : next.OutOfOrder := by
  obtain ⟨told, late, before, place⟩ := disordered
  refine ⟨told, late, before, ?_⟩
  obtain ⟨stage, after, others, _, old, new, effect⟩ := step_effect stepped
  have stays {other : Stage} (member : other ∈ after :: others) : other ∈ next.stages :=
    new.symm.subset member
  have grows : ∃ more, next.bus = traffic.bus ++ more := by
    cases effect with
    | quiet _ _ bus | acquire _ _ bus | release _ _ bus | change _ _ _ bus =>
        exact ⟨[], by simp [bus]⟩
    | publish event _ _ bus => exact ⟨[event], bus⟩
  obtain ⟨more, bus⟩ := grows
  rcases place with ⟨published, other, member, waiting⟩ | behind
  · have still : told ∈ next.bus := bus ▸ List.mem_append_left _ published
    rcases List.mem_cons.1 (old.subset member) with rfl | member
    · cases effect with
      | quiet _ _ _ _ _ pending _ => exact .inl ⟨still, after, stays (by simp), pending ▸ waiting⟩
      | acquire _ _ _ _ _ _ _ none _ _ => simp [none] at waiting
      | release _ _ _ _ _ _ none _ _ => simp [none] at waiting
      | change _ _ _ _ _ _ _ none _ _ => simp [none] at waiting
      | publish event _ _ bus _ _ pending _ =>
          rw [pending] at waiting
          rcases List.mem_cons.1 waiting with rfl | waiting
          · refine .inr ?_
            rw [bus]
            exact (List.singleton_sublist.2 published).append (.refl [late])
          · exact .inl ⟨still, after, stays (by simp), waiting⟩
    · exact .inl ⟨still, other, stays (by simp [member]), waiting⟩
  · exact .inr (bus ▸ behind.trans (List.sublist_append_left ..))

theorem Overtakes.outOfOrder (overtakes : traffic.Overtakes mover) (sound : Sound origin traffic)
    (stepped : traffic.step mover = some next) : next.OutOfOrder := by
  obtain ⟨stage, event, other, late, found, publishes, present, _, waiting, before⟩ := overtakes
  obtain ⟨mine, after, others, foundMine, old, new, effect⟩ := step_effect stepped
  obtain rfl : stage = mine := Option.some.inj (found.symm.trans foundMine)
  cases effect with
  | quiet _ _ _ _ _ _ none | acquire _ _ _ _ _ _ _ _ _ none | release _ _ _ _ _ _ _ _ none
  | change _ _ _ _ _ _ _ _ _ none => simp [none] at publishes
  | publish first _ _ bus _ _ pending publishesFirst =>
      obtain rfl : event = first := Option.some.inj (publishes.symm.trans publishesFirst)
      refine ⟨event, late, before, .inl ⟨by simp [bus], other, ?_, waiting⟩⟩
      rcases List.mem_cons.1 (old.subset present) with rfl | member
      · have sorted := sound.sorted other present
        rw [pending] at sorted waiting
        rcases List.mem_cons.1 waiting with rfl | later
        · exact absurd before (Nat.lt_irrefl _)
        · exact absurd before (Nat.lt_asymm ((List.pairwise_cons.1 sorted).1 late later))
      · exact new.symm.subset (List.mem_cons_of_mem _ member)

theorem Sound.run {schedule : List Nat} {final : Traffic} (sound : Sound origin traffic)
    (ran : traffic.run schedule = some final) : Sound origin final :=
  run_preserves (fun sound stepped => sound.step stepped) sound ran

theorem OutOfOrder.run {schedule : List Nat} {final : Traffic} (disordered : traffic.OutOfOrder)
    (ran : traffic.run schedule = some final) : final.OutOfOrder :=
  run_preserves (fun disordered stepped => disordered.step stepped) disordered ran

theorem InOrder.run {schedule : List Nat} {final : Traffic} (ordered : traffic.InOrder)
    (sound : Sound origin traffic) (ran : traffic.run schedule = some final)
    (fair : ¬ traffic.Overtaken schedule) : final.InOrder := by
  induction schedule generalizing traffic with
  | nil =>
      cases ran
      exact ordered
  | cons mover rest ih =>
      obtain ⟨next, stepped, later⟩ := run_cons ran
      rw [Overtaken, not_or] at fair
      apply ih (ordered.step sound stepped fair.1) (sound.step stepped) later
      intro overtaken
      exact fair.2 ⟨next, stepped, overtaken⟩

theorem Overtaken.outOfOrder {schedule : List Nat} {final : Traffic}
    (overtaken : traffic.Overtaken schedule) (sound : Sound origin traffic)
    (ran : traffic.run schedule = some final) : final.OutOfOrder := by
  induction schedule generalizing traffic with
  | nil => exact overtaken.elim
  | cons mover rest ih =>
      obtain ⟨next, stepped, later⟩ := run_cons ran
      rcases overtaken with overtakes | ⟨other, steppedOther, overtaken⟩
      · exact (overtakes.outOfOrder sound stepped).run later
      · obtain rfl : other = next := Option.some.inj (steppedOther.symm.trans stepped)
        exact ih overtaken (sound.step stepped) later

theorem start_inOrder (hub : Hub) (calls : List Call) : (start hub calls).InOrder :=
  ⟨.nil, nofun⟩

theorem isPrefix_of_perm {told rest made : List Numbered} (split : (told ++ rest).Perm made)
    (sorted : made.Pairwise Earlier) (ascending : told.Pairwise Earlier)
    (ahead : ∀ event ∈ told, ∀ late ∈ rest, Earlier event late) : told <+: made := by
  induction told generalizing made with
  | nil => exact List.nil_prefix
  | cons event told ih =>
      obtain ⟨first, others⟩ := List.pairwise_cons.1 ascending
      cases made with
      | nil => simp at split
      | cons least made =>
          obtain ⟨below, above⟩ := List.pairwise_cons.1 sorted
          have same : event = least := by
            rcases List.mem_cons.1 (split.subset List.mem_cons_self) with same | later
            · exact same
            · have before : Earlier least event := below event later
              rcases List.mem_cons.1 (split.symm.subset List.mem_cons_self) with same | member
              · exact same.symm
              · rcases List.mem_append.1 member with member | member
                · exact absurd before (Nat.lt_asymm (first least member))
                · exact absurd before (Nat.lt_asymm (ahead event (by simp) least member))
          subst same
          refine List.cons_prefix_cons.2 ⟨rfl, ih split.cons_inv above others ?_⟩
          exact fun told member => ahead told (by simp [member])

theorem InOrder.isPrefix (ordered : traffic.InOrder) (sound : Sound origin traffic) :
    traffic.bus <+: traffic.made := by
  apply isPrefix_of_perm sound.complete sound.made_sorted ordered.bus
  intro told published late waiting
  obtain ⟨stage, present, pending⟩ := List.mem_flatMap.1 waiting
  exact ordered.ahead told published stage present late pending

theorem OutOfOrder.not_isPrefix (disordered : traffic.OutOfOrder) (sound : Sound origin traffic) :
    ¬ traffic.bus <+: traffic.made := by
  rintro ⟨rest, whole⟩
  have sorted := sound.made_sorted
  rw [← whole] at sorted
  obtain ⟨ascending, _, ahead⟩ := List.pairwise_append.1 sorted
  obtain ⟨told, late, before, ⟨published, stage, present, waiting⟩ | behind⟩ := disordered
  · have unpublished : (traffic.stages.flatMap Stage.pending).Perm rest :=
      (List.perm_append_left_iff traffic.bus).1 (whole ▸ sound.complete)
    have member := unpublished.subset (List.mem_flatMap.2 ⟨stage, present, waiting⟩)
    exact Nat.lt_asymm before (ahead told published late member)
  · have pair := ascending.sublist behind
    exact Nat.lt_asymm before ((List.pairwise_cons.1 pair).1 late (by simp))

/-- At any time the bus is a beginning of the list of all changes exactly if no step of the schedule
has overtaken a gesture.  Once all calls have returned each event is on the bus once, and if none was
overtaken a copy of the scene can be kept by the bus, and no deleted source is modified there. -/
theorem bus_isPrefix_made_iff {hub : Hub} (reachable : hub.scene.Reachable) (calls : List Call)
    {schedule : List Nat} {final : Traffic} (ran : (start hub calls).run schedule = some final) :
    Scene.ToldAll hub.scene (final.made.map Prod.fst) final.hub.scene ∧
      (final.bus <+: final.made ↔ ¬ (start hub calls).Overtaken schedule) ∧
      (final.Done → final.bus.Perm final.made) ∧
      (final.Done → ¬ (start hub calls).Overtaken schedule →
        final.bus = final.made ∧
          hub.scene.replayAll (final.bus.map Prod.fst) = final.hub.scene ∧
          Scene.RespectsDeletion (final.bus.map Prod.fst)) := by
  have first := start_sound hub calls
  have sound := first.run ran
  have ordered (fair : ¬ (start hub calls).Overtaken schedule) : final.bus <+: final.made :=
    ((start_inOrder hub calls).run first ran fair).isPrefix sound
  have complete (done : final.Done) : final.bus.Perm final.made := by
    have parts := sound.complete
    rwa [done.flatMap_eq_nil fun _ => rfl, List.append_nil] at parts
  refine ⟨sound.told, ⟨fun within overtaken => ?_, ordered⟩, complete, fun done fair => ?_⟩
  · exact (overtaken.outOfOrder first ran).not_isPrefix sound within
  · have same : final.bus = final.made := (ordered fair).eq_of_length (complete done).length_eq
    rw [same]
    exact ⟨rfl, sound.told.replayAll_eq reachable.wellKeyed,
      sound.told.respectsDeletion reachable.wellKeyed⟩

/-! A source is moved here while the renderer deletes it. -/

def populated : Hub :=
  { Hub.initial with scene :=
      { Scene.initial with sources := Table.empty.insert "a" (Source.initial "a") } }

def movement : Gesture := ⟨.source "a", some ⟨1.0, 2.0, 0.0⟩, none⟩

def deletion : String := Message.encode [.delete ["a"]]

def movedEvent : Event :=
  .modified ((Source.initial "a").apply { position := movement.position }) .operator

def deletedEvent : Event := .deleted "a" .renderer

def settled (bus : List Numbered) : Traffic where
  hub := { Hub.initial with
    outbox := (Outbox.empty.send [.modify [("a", { position := movement.position })]]).2 }
  held := false
  made := [(movedEvent, 0), (deletedEvent, 1)]
  bus := bus
  moved := [movement]
  announced := [movement]
  stages := [.returned none, .returned none]

theorem populated_reachable : populated.scene.Reachable :=
  @Scene.Reachable.run _ _ (.create [("a", {})]) .renderer [.created (Source.initial "a") .renderer]
    .initial rfl

theorem step_deletion :
    (start populated [.gesture movement, .message deletion]).step 1 =
      some { start populated [] with
        stages := [.arrived (.gesture movement), .decoded [.delete ["a"]]] } := by
  have decoded : Message.decode deletion = .ok [.delete ["a"]] := by cbv
  simp [Traffic.step, start, advance, decoded]

theorem settled_done (bus : List Numbered) : (settled bus).Done := by
  simp [Done, settled, Stage.isReturned]

theorem bus_isPrefix_made_iff_settled :
    let calls : List Call := [.gesture movement, .message deletion]
    let schedule := [1, 0, 0, 0, 0, 1, 1, 1, 1]
    let final := settled [(movedEvent, 0), (deletedEvent, 1)]
    populated.scene.Reachable ∧ (start populated calls).run schedule = some final ∧
      final.Done ∧ ¬ (start populated calls).Overtaken schedule ∧
      Scene.ToldAll populated.scene (final.made.map Prod.fst) final.hub.scene ∧
      final.bus.Perm final.made ∧ final.bus = final.made ∧
      populated.scene.replayAll (final.bus.map Prod.fst) = final.hub.scene ∧
      Scene.RespectsDeletion (final.bus.map Prod.fst) := by
  intro calls schedule final
  have ran : (start populated calls).run schedule = some final := by
    rw [Traffic.run, step_deletion]
    rfl
  obtain ⟨told, order, complete, faithful⟩ := bus_isPrefix_made_iff populated_reachable calls ran
  have done : final.Done := settled_done _
  have fair := order.1 List.prefix_rfl
  exact ⟨populated_reachable, ran, done, fair, told, complete done, faithful done fair⟩

/-- The deletion is published before the move, and a copy kept by the bus still has the source. -/
theorem deleted_before_moved :
    let calls : List Call := [.gesture movement, .message deletion]
    let final := settled [(deletedEvent, 1), (movedEvent, 0)]
    populated.scene.Reachable ∧
      (start populated calls).run [1, 0, 1, 1, 1, 1, 0, 0, 0] = some final ∧
      final.Done ∧ final.bus ≠ final.made ∧
      populated.scene.replayAll (final.bus.map Prod.fst) ≠ final.hub.scene ∧
      ¬ Scene.RespectsDeletion (final.bus.map Prod.fst) := by
  intro calls final
  refine ⟨populated_reachable, ?_, settled_done _, ?_, ?_, ?_⟩
  · rw [Traffic.run, step_deletion]
    rfl
  · simp [final, settled]
  · intro same
    have live : final.hub.scene.isLive "a" = true := by
      rw [← same]
      exact Scene.isLive_insert .. |>.trans (by rfl)
    cases live
  · intro respects
    obtain ⟨created, creator, member, _⟩ :=
      respects [] [] [] "a" _ .operator .renderer rfl rfl
    cases member

end Traffic

end SoundScene
