import SoundScene.Proofs.Calls

/-!
Calls that are under way at the same time.  A call moves in steps, and a schedule says which call
makes the next one.  A message has the scene to itself from its first command to the publishing of
its last event.  A gesture lets go of the scene as soon as it is made; that the renderer is told of
it and that its event is published are steps of their own.  A call that nobody interrupts does what
the hub does for it, so calls one after another are one of the schedules (`run_serveAll`).
-/

namespace SoundScene

abbrev Numbered := Event × Nat

/-- How far a call has come. -/
inductive Stage where
  | arrived (call : Call)
  /-- A message that is well-formed and waits for the scene. -/
  | decoded (commands : List Command)
  /-- A message that has the scene to itself. -/
  | holding (unpublished : List Numbered) (commands : List Command)
  /-- A gesture that is made; the renderer is not told of it yet. -/
  | notifying (gesture : Gesture) (command : Command) (unpublished : List Numbered)
  /-- A gesture that the renderer is told of. -/
  | publishing (unpublished : List Numbered)
  | returned (failure : Option Failure)
deriving DecidableEq

namespace Stage

def pending : Stage → List Numbered
  | .holding unpublished _ | .notifying _ _ unpublished | .publishing unpublished => unpublished
  | .arrived _ | .decoded _ | .returned _ => []

def publishes? : Stage → Option Numbered
  | .holding (event :: _) _ | .publishing (event :: _) => some event
  | _ => none

def holds : Stage → Bool
  | .holding .. => true
  | _ => false

def isReturned : Stage → Bool
  | .returned _ => true
  | _ => false

end Stage

structure Traffic where
  hub : Hub
  held : Bool
  made : List Numbered
  /-- The published events, in the order in which they were published. -/
  bus : List Numbered
  /-- The gestures that were made, in their order. -/
  moved : List Gesture
  /-- The gestures that the renderer was told of, in the order in which it was told. -/
  announced : List Gesture
  stages : List Stage
deriving DecidableEq

namespace Traffic

def start (hub : Hub) (calls : List Call) : Traffic :=
  ⟨hub, false, [], [], [], [], calls.map .arrived⟩

def number (traffic : Traffic) (events : List Event) : List Numbered :=
  events.zipIdx traffic.made.length

def change (traffic : Traffic) (events : List Event) (scene : Scene) : Traffic :=
  { traffic with
    hub := { traffic.hub with scene }
    made := traffic.made ++ traffic.number events }

def publish (traffic : Traffic) (event : Numbered) : Traffic :=
  { traffic with bus := traffic.bus ++ [event] }

/-- The next step of a call at some stage.  There is none for a call that has returned, or that
waits for the scene while a message has it. -/
def advance (traffic : Traffic) : Stage → Option (Traffic × Stage)
  | .arrived (.message text) =>
    match Message.decode text with
    | .error failure => some (traffic, .returned (some failure))
    | .ok commands => some (traffic, .decoded commands)
  | .arrived (.gesture gesture) =>
    match gesture.toCommand with
    | .error failure => some (traffic, .returned (some failure))
    | .ok command =>
      if traffic.held then none
      else match traffic.hub.scene.run command .operator with
        | .error failure => some (traffic, .returned (some failure))
        | .ok (events, scene) =>
          some ({ traffic.change events scene with moved := traffic.moved ++ [gesture] },
            .notifying gesture command (traffic.number events))
  | .decoded commands =>
    if traffic.held then none else some ({ traffic with held := true }, .holding [] commands)
  | .holding (event :: rest) commands => some (traffic.publish event, .holding rest commands)
  | .holding [] (command :: rest) =>
    match traffic.hub.scene.run command .renderer with
    | .error failure => some ({ traffic with held := false }, .returned (some failure))
    | .ok (events, scene) =>
      some (traffic.change events scene, .holding (traffic.number events) rest)
  | .holding [] [] => some ({ traffic with held := false }, .returned none)
  | .notifying gesture command unpublished =>
    let (_, outbox) := traffic.hub.outbox.send [command]
    some ({ traffic with
        hub := { traffic.hub with outbox }
        announced := traffic.announced ++ [gesture] },
      .publishing unpublished)
  | .publishing (event :: rest) => some (traffic.publish event, .publishing rest)
  | .publishing [] => some (traffic, .returned none)
  | .returned _ => none

def step (traffic : Traffic) (mover : Nat) : Option Traffic :=
  match traffic.stages[mover]? with
  | none => none
  | some stage =>
    match traffic.advance stage with
    | none => none
    | some (next, after) => some { next with stages := traffic.stages.set mover after }

def run (traffic : Traffic) : List Nat → Option Traffic
  | [] => some traffic
  | mover :: rest =>
    match traffic.step mover with
    | none => none
    | some next => next.run rest

def Done (traffic : Traffic) : Prop := ∀ stage ∈ traffic.stages, stage.isReturned = true

/-- What one step does to the scene, to the bus and to the call that makes it. -/
inductive Effect (traffic next : Traffic) (stage after : Stage) : Prop
  | quiet : next.hub.scene = traffic.hub.scene → next.made = traffic.made →
      next.bus = traffic.bus → next.held = traffic.held → after.holds = stage.holds →
      after.pending = stage.pending → stage.publishes? = none → Effect traffic next stage after
  | acquire : next.hub.scene = traffic.hub.scene → next.made = traffic.made →
      next.bus = traffic.bus → traffic.held = false → next.held = true →
      stage.holds = false → after.holds = true → stage.pending = [] → after.pending = [] →
      stage.publishes? = none → Effect traffic next stage after
  | release : next.hub.scene = traffic.hub.scene → next.made = traffic.made →
      next.bus = traffic.bus → next.held = false → stage.holds = true → after.holds = false →
      stage.pending = [] → after.pending = [] → stage.publishes? = none →
      Effect traffic next stage after
  | change (events : List Event) : Scene.ToldAll traffic.hub.scene events next.hub.scene →
      next.made = traffic.made ++ traffic.number events → next.bus = traffic.bus →
      next.held = traffic.held → after.holds = stage.holds →
      stage.holds = true ∨ traffic.held = false → stage.pending = [] →
      after.pending = traffic.number events → stage.publishes? = none →
      Effect traffic next stage after
  | publish (event : Numbered) : next.hub.scene = traffic.hub.scene →
      next.made = traffic.made → next.bus = traffic.bus ++ [event] →
      next.held = traffic.held → after.holds = stage.holds →
      stage.pending = event :: after.pending → stage.publishes? = some event →
      Effect traffic next stage after

theorem effect_of_advance {traffic next : Traffic} {stage after : Stage}
    (advanced : traffic.advance stage = some (next, after)) (stages : List Stage) :
    Effect traffic { next with stages } stage after := by
  unfold advance at advanced
  split at advanced
  · split at advanced <;> cases advanced <;> exact .quiet rfl rfl rfl rfl rfl rfl rfl
  · split at advanced
    · cases advanced
      exact .quiet rfl rfl rfl rfl rfl rfl rfl
    · split at advanced
      · cases advanced
      · rename_i free
        split at advanced
        · cases advanced
          exact .quiet rfl rfl rfl rfl rfl rfl rfl
        · rename_i ran
          cases advanced
          exact .change _ (Scene.run_told ran) rfl rfl rfl rfl (.inr (by simpa using free))
            rfl rfl rfl
  · split at advanced
    · cases advanced
    · rename_i free
      cases advanced
      exact .acquire rfl rfl rfl (by simpa using free) rfl rfl rfl rfl rfl rfl
  · cases advanced
    exact .publish _ rfl rfl rfl rfl rfl rfl rfl
  · split at advanced
    · cases advanced
      exact .release rfl rfl rfl rfl rfl rfl rfl rfl rfl
    · rename_i ran
      cases advanced
      exact .change _ (Scene.run_told ran) rfl rfl rfl rfl (.inl rfl) rfl rfl rfl
  · cases advanced
    exact .release rfl rfl rfl rfl rfl rfl rfl rfl rfl
  · cases advanced
    exact .quiet rfl rfl rfl rfl rfl rfl rfl
  · cases advanced
    exact .publish _ rfl rfl rfl rfl rfl rfl rfl
  · cases advanced
    exact .quiet rfl rfl rfl rfl rfl rfl rfl
  · cases advanced

theorem step_cases {traffic next : Traffic} {mover : Nat}
    (stepped : traffic.step mover = some next) :
    ∃ stage after others, traffic.stages[mover]? = some stage ∧
      traffic.stages.Perm (stage :: others) ∧ next.stages.Perm (after :: others) ∧
      (∃ middle, traffic.advance stage = some (middle, after) ∧
        next = { middle with stages := traffic.stages.set mover after }) := by
  unfold step at stepped
  split at stepped
  · cases stepped
  · rename_i stage found
    split at stepped
    · cases stepped
    · rename_i middle after advanced
      cases stepped
      obtain ⟨bound, rfl⟩ := List.getElem?_eq_some_iff.1 found
      refine ⟨_, after, traffic.stages.take mover ++ traffic.stages.drop (mover + 1), found, ?_, ?_,
        middle, advanced, rfl⟩
      · have split : traffic.stages = traffic.stages.take mover ++
            traffic.stages[mover] :: traffic.stages.drop (mover + 1) := by
          rw [← List.drop_eq_getElem_cons bound, List.take_append_drop]
        exact (List.Perm.of_eq split).trans List.perm_middle
      · change (traffic.stages.set mover after).Perm _
        rw [List.set_eq_take_append_cons_drop, if_pos bound]
        exact List.perm_middle

theorem step_effect {traffic next : Traffic} {mover : Nat}
    (stepped : traffic.step mover = some next) :
    ∃ stage after others, traffic.stages[mover]? = some stage ∧
      traffic.stages.Perm (stage :: others) ∧ next.stages.Perm (after :: others) ∧
      Effect traffic next stage after := by
  obtain ⟨stage, after, others, found, old, new, middle, advanced, rfl⟩ := step_cases stepped
  exact ⟨stage, after, others, found, old, new, effect_of_advance advanced _⟩

theorem run_cons {traffic final : Traffic} {mover : Nat} {rest : List Nat}
    (ran : traffic.run (mover :: rest) = some final) :
    ∃ next, traffic.step mover = some next ∧ next.run rest = some final := by
  rw [run] at ran
  split at ran
  · cases ran
  · rename_i next stepped
    exact ⟨next, stepped, ran⟩

theorem run_preserves {Holds : Traffic → Prop}
    (kept : ∀ {traffic next mover}, Holds traffic → traffic.step mover = some next → Holds next)
    {traffic final : Traffic} {schedule : List Nat} (held : Holds traffic)
    (ran : traffic.run schedule = some final) : Holds final := by
  induction schedule generalizing traffic with
  | nil =>
      cases ran
      exact held
  | cons mover rest ih =>
      obtain ⟨next, stepped, later⟩ := run_cons ran
      exact ih (kept held stepped) later

theorem Done.flatMap_eq_nil {α : Type} {traffic : Traffic} (done : traffic.Done)
    {view : Stage → List α} (empty : ∀ failure, view (.returned failure) = []) :
    traffic.stages.flatMap view = [] := by
  apply List.flatMap_eq_nil_iff.2
  intro stage present
  have returned := done stage present
  cases stage with
  | returned failure => exact empty failure
  | _ => simp [Stage.isReturned] at returned

theorem run_append (traffic : Traffic) (first second : List Nat) :
    traffic.run (first ++ second) = (traffic.run first).bind fun next => next.run second := by
  induction first generalizing traffic with
  | nil => rfl
  | cons mover rest ih =>
      rw [List.cons_append, run, run]
      split
      · rfl
      · exact ih _

/-! Calls one after another are one of the schedules. -/

/-- Steps of one call that no other call interrupts. -/
inductive Leads : Traffic → Stage → Traffic → Stage → Prop
  | stay {traffic stage} : Leads traffic stage traffic stage
  | step {traffic stage middle after final last} : traffic.advance stage = some (middle, after) →
      Leads middle after final last → Leads traffic stage final last

theorem Leads.trans {first middle final : Traffic} {stage after last : Stage}
    (leads : Leads first stage middle after) (more : Leads middle after final last) :
    Leads first stage final last := by
  induction leads with
  | stay => exact more
  | step advanced _ ih => exact .step advanced (ih more)

theorem advance_stages (traffic : Traffic) (stages : List Stage) (stage : Stage) :
    { traffic with stages }.advance stage =
      (traffic.advance stage).map fun moved => ({ moved.1 with stages }, moved.2) := by
  fun_cases advance traffic stage <;> simp_all [advance, change, number, publish]

theorem Leads.run {traffic final : Traffic} {stage last : Stage}
    (leads : Leads traffic stage final last) (before rest : List Stage) :
    ∃ count, { traffic with stages := before ++ stage :: rest }.run
        (List.replicate count before.length) =
      some { final with stages := before ++ last :: rest } := by
  induction leads with
  | stay => exact ⟨0, rfl⟩
  | @step traffic stage middle after _ _ advanced _ ih =>
      obtain ⟨count, ran⟩ := ih
      refine ⟨count + 1, ?_⟩
      have stepped : { traffic with stages := before ++ stage :: rest }.step before.length =
          some { middle with stages := before ++ after :: rest } := by
        simp [Traffic.step, advance_stages, advanced]
      rw [List.replicate_succ, Traffic.run, stepped]
      exact ran

theorem leads_publishing (traffic : Traffic) (unpublished : List Numbered) :
    Leads traffic (.publishing unpublished) { traffic with bus := traffic.bus ++ unpublished }
      (.returned none) := by
  induction unpublished generalizing traffic with
  | nil => simpa using Leads.step (by rfl) .stay
  | cons event rest ih => simpa [publish] using Leads.step (by rfl) (ih (traffic.publish event))

theorem leads_holding (traffic : Traffic) (unpublished : List Numbered) (commands : List Command) :
    Leads traffic (.holding unpublished commands)
      { traffic with bus := traffic.bus ++ unpublished } (.holding [] commands) := by
  induction unpublished generalizing traffic with
  | nil => simpa using Leads.stay
  | cons event rest ih => simpa [publish] using Leads.step (by rfl) (ih (traffic.publish event))

theorem map_number (traffic : Traffic) (events : List Event) :
    (traffic.number events).map Prod.fst = events :=
  List.zipIdx_map_fst ..

theorem leads_commands (traffic : Traffic) (commands : List Command) :
    ∃ final failure, Leads traffic (.holding [] commands) final (.returned failure) ∧
      final.hub =
        { traffic.hub with scene := (traffic.hub.scene.runAll .renderer commands).scene } ∧
      final.held = false ∧
      final.bus.map Prod.fst = traffic.bus.map Prod.fst ++
        (traffic.hub.scene.runAll .renderer commands).events.flatten := by
  induction commands generalizing traffic with
  | nil => exact ⟨_, none, .step rfl .stay, rfl, rfl, by simp [Scene.runAll]⟩
  | cons command rest ih =>
      cases ran : traffic.hub.scene.run command .renderer with
      | error failure =>
          have refused : traffic.advance (.holding [] (command :: rest)) =
              some ({ traffic with held := false }, .returned (some failure)) := by
            simp only [advance, ran]
          refine ⟨_, some failure, .step refused .stay, ?_⟩
          simp [Scene.runAll, ran]
      | ok outcome =>
          obtain ⟨events, scene⟩ := outcome
          let changed := traffic.change events scene
          let told := { changed with bus := changed.bus ++ traffic.number events }
          have made : traffic.advance (.holding [] (command :: rest)) =
              some (changed, .holding (traffic.number events) rest) := by
            simp only [advance, ran, changed]
          obtain ⟨final, failure, leads, hub, free, bus⟩ := ih told
          refine ⟨final, failure, .step made ((leads_holding changed _ rest).trans leads), ?_,
            free, ?_⟩
          · simpa [told, changed, change, Scene.runAll, ran] using hub
          · simpa [told, changed, change, Scene.runAll, ran, map_number] using bus

theorem leads_serve {traffic : Traffic} (free : traffic.held = false) (call : Call) :
    ∃ final failure, Leads traffic (.arrived call) final (.returned failure) ∧
      final.hub = (traffic.hub.serve call).2 ∧ final.held = false ∧
      final.bus.map Prod.fst = traffic.bus.map Prod.fst ++ (traffic.hub.serve call).1 := by
  cases call with
  | message text =>
      cases read : Message.decode text with
      | error failure =>
          have refused : traffic.advance (.arrived (.message text)) =
              some (traffic, .returned (some failure)) := by simp only [advance, read]
          refine ⟨traffic, some failure, .step refused .stay, ?_⟩
          simp [Hub.serve, Hub.handle, read, free]
      | ok commands =>
          let alone := { traffic with held := true }
          have understood : traffic.advance (.arrived (.message text)) =
              some (traffic, .decoded commands) := by simp only [advance, read]
          have taken : traffic.advance (.decoded commands) = some (alone, .holding [] commands) := by
            simp [advance, free, alone]
          obtain ⟨final, failure, leads, hub, released, bus⟩ := leads_commands alone commands
          refine ⟨final, failure, .step understood (.step taken leads), ?_, released, ?_⟩
          · simpa [alone, Hub.serve, Hub.handle, read] using hub
          · simpa [alone, Hub.serve, Hub.handle, read] using bus
  | gesture gesture =>
      cases meant : gesture.toCommand with
      | error failure =>
          have refused : traffic.advance (.arrived (.gesture gesture)) =
              some (traffic, .returned (some failure)) := by simp only [advance, meant]
          refine ⟨traffic, some failure, .step refused .stay, ?_⟩
          simp [Hub.serve, Hub.perform, Scene.perform, meant, bind, Except.bind, free]
      | ok command =>
          cases ran : traffic.hub.scene.run command .operator with
          | error failure =>
              have refused : traffic.advance (.arrived (.gesture gesture)) =
                  some (traffic, .returned (some failure)) := by simp [advance, meant, free, ran]
              refine ⟨traffic, some failure, .step refused .stay, ?_⟩
              simp [Hub.serve, Hub.perform, Scene.perform, meant, ran, bind, Except.bind, free]
          | ok outcome =>
              obtain ⟨events, scene⟩ := outcome
              let changed := { traffic.change events scene with moved := traffic.moved ++ [gesture] }
              have made : traffic.advance (.arrived (.gesture gesture)) =
                  some (changed, .notifying gesture command (traffic.number events)) := by
                simp [advance, meant, free, ran, changed]
              let told := { changed with
                hub := { changed.hub with outbox := (changed.hub.outbox.send [command]).2 }
                announced := changed.announced ++ [gesture] }
              refine ⟨_, none, .step made (.step rfl (leads_publishing told _)), ?_⟩
              simp [told, Hub.serve, Hub.perform, Scene.perform, meant, ran, bind, Except.bind, pure,
                Except.pure, changed, change, free, map_number]

theorem run_serveAll (hub : Hub) (calls : List Call) :
    ∃ schedule final, (start hub calls).run schedule = some final ∧ final.Done ∧
      final.hub = (hub.serveAll calls).2 ∧ final.bus.map Prod.fst = (hub.serveAll calls).1 := by
  suffices ∀ (traffic : Traffic) (before : List Stage), traffic.held = false →
      (∀ stage ∈ before, stage.isReturned = true) →
      ∃ schedule final,
        { traffic with stages := before ++ calls.map Stage.arrived }.run schedule = some final ∧
        final.Done ∧ final.hub = (traffic.hub.serveAll calls).2 ∧
        final.bus.map Prod.fst =
          traffic.bus.map Prod.fst ++ (traffic.hub.serveAll calls).1 from
    this (start hub calls) [] rfl nofun
  induction calls with
  | nil =>
      intro traffic before free returned
      exact ⟨[], _, rfl, by simpa [Done] using returned, rfl, by simp [Hub.serveAll]⟩
  | cons call rest ih =>
      intro traffic before free returned
      obtain ⟨middle, failure, leads, hub, released, bus⟩ := leads_serve free call
      obtain ⟨count, first⟩ := leads.run before (rest.map Stage.arrived)
      obtain ⟨schedule, final, later, done, same, told⟩ :=
        ih middle (before ++ [.returned failure]) released (by
          intro stage present
          rcases List.mem_append.1 present with present | present
          · exact returned stage present
          · rw [List.mem_singleton.1 present]
            rfl)
      refine ⟨List.replicate count before.length ++ schedule, final, ?_, done, ?_, ?_⟩
      · rw [run_append, List.map_cons, first]
        simpa using later
      · rw [same, hub]
        rfl
      · rw [told, bus, hub, List.append_assoc]
        rfl

end Traffic

end SoundScene
