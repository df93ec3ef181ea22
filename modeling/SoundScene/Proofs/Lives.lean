import Mathlib.Data.List.Forall2
import SoundScene.Proofs.Calls
import SoundScene.Proofs.MessageCut
import SoundScene.Proofs.Moves

/-!
The lives of sources in the published events.  A source is created, then modified any number of
times, then deleted, and so on from the start; it is there exactly while its latest life goes on.
What the renderer's messages do is told on its account, and each accepted gesture is told once, on
the operator's account (`lives_serveAll`).
-/

namespace SoundScene

namespace Event

def IsModification : Event → Prop
  | .modified .. => True
  | _ => False

def isDeletion : Event → Bool
  | .deleted .. => true
  | _ => false

def about (id : String) (events : List Event) : List Event :=
  events.filter fun event => event.sourceId? = some id

theorem about_concat (id : String) (events : List Event) (event : Event) :
    about id (events ++ [event]) =
      about id events ++ if event.sourceId? = some id then [event] else [] := by
  rw [about, List.filter_append]
  by_cases named : event.sourceId? = some id <;> simp [about, named]

end Event

/-- A life that goes on: a source is created, and then it is only modified. -/
def Begun (life : List Event) : Prop :=
  ∃ source origin later, life = .created source origin :: later ∧
    ∀ event ∈ later, event.IsModification

def Ended (life : List Event) : Prop :=
  ∃ begun id origin, Begun begun ∧ life = begun ++ [.deleted id origin]

def Lives (events : List Event) : Prop :=
  ∃ (past : List (List Event)) (current : List Event), events = past.flatten ++ current ∧
    (∀ life ∈ past, Ended life) ∧ (current = [] ∨ Begun current)

/-- Lives one after another, of which the last goes on exactly if the source is live. -/
def LivesTo (live : Bool) (events : List Event) : Prop :=
  ∃ (past : List (List Event)) (current : List Event), events = past.flatten ++ current ∧
    (∀ life ∈ past, Ended life) ∧ (live = false ∧ current = [] ∨ live = true ∧ Begun current)

namespace LivesTo

variable {live : Bool} {events : List Event}

theorem create (lives : LivesTo false events) (source : Source) (origin : Origin) :
    LivesTo true (events ++ [.created source origin]) := by
  obtain ⟨past, current, rfl, ended, ⟨_, rfl⟩ | ⟨impossible, _⟩⟩ := lives
  · refine ⟨past, [.created source origin], by rw [List.append_nil], ended, .inr ⟨rfl, ?_⟩⟩
    exact ⟨source, origin, [], rfl, List.forall_mem_nil _⟩
  · cases impossible

theorem modify (lives : LivesTo true events) (source : Source) (origin : Origin) :
    LivesTo true (events ++ [.modified source origin]) := by
  obtain ⟨past, current, rfl, ended, ⟨impossible, _⟩ | ⟨_, begun⟩⟩ := lives
  · cases impossible
  · obtain ⟨first, creator, later, rfl, modified⟩ := begun
    refine ⟨past, _, List.append_assoc .., ended, .inr ⟨rfl, ?_⟩⟩
    refine ⟨first, creator, later ++ [.modified source origin], rfl, fun event member => ?_⟩
    rcases List.mem_append.1 member with member | member
    · exact modified event member
    · rw [List.mem_singleton.1 member]
      trivial

theorem delete (lives : LivesTo true events) (id : String) (origin : Origin) :
    LivesTo false (events ++ [.deleted id origin]) := by
  obtain ⟨past, current, rfl, ended, ⟨impossible, _⟩ | ⟨_, begun⟩⟩ := lives
  · cases impossible
  · refine ⟨past ++ [current ++ [.deleted id origin]], [], by simp, fun life member => ?_,
      .inl ⟨rfl, rfl⟩⟩
    rcases List.mem_append.1 member with member | member
    · exact ended life member
    · rw [List.mem_singleton.1 member]
      exact ⟨current, id, origin, begun, rfl⟩

theorem lives (known : LivesTo live events) : Lives events := by
  obtain ⟨past, current, split, ended, ⟨_, settled⟩ | ⟨_, begun⟩⟩ := known
  · exact ⟨past, current, split, ended, .inl settled⟩
  · exact ⟨past, current, split, ended, .inr begun⟩

theorem getLast?_of_begun {life : List Event} (begun : Begun life) (before : List Event) :
    ∃ last, (before ++ life).getLast? = some last ∧ last.isDeletion = false := by
  obtain ⟨source, origin, later, rfl, modified⟩ := begun
  rcases List.eq_nil_or_concat' later with rfl | ⟨others, last, rfl⟩
  · exact ⟨_, List.getLast?_concat, rfl⟩
  · have kind := modified last (by simp)
    refine ⟨last, ?_, ?_⟩
    · rw [← List.cons_append, ← List.append_assoc]
      exact List.getLast?_concat
    · cases last <;> first | rfl | cases kind

theorem live_iff (known : LivesTo live events) :
    live = true ↔ ∃ last, events.getLast? = some last ∧ last.isDeletion = false := by
  obtain ⟨past, current, rfl, ended, ⟨rfl, rfl⟩ | ⟨rfl, begun⟩⟩ := known
  · refine iff_of_false nofun ?_
    rintro ⟨last, found, kept⟩
    rw [List.append_nil] at found
    -- All lives are over, so the latest event is the deletion that ends the last of them.
    rcases List.eq_nil_or_concat' past with rfl | ⟨others, life, rfl⟩
    · cases found
    · obtain ⟨begun, id, origin, _, rfl⟩ := ended life (by simp)
      rw [List.flatten_append, List.flatten_singleton, ← List.append_assoc,
        List.getLast?_concat] at found
      cases found
      cases kept
  · exact iff_of_true rfl (getLast?_of_begun begun past.flatten)

end LivesTo

namespace Scene

theorem Told.isLive_other {scene next : Scene} {event : Event} (told : Told scene event next)
    (keyed : scene.WellKeyed) {id : String} (other : event.sourceId? ≠ some id) :
    next.isLive id = scene.isLive id := by
  cases told with
  | @created entry origin _ =>
      have different : entry.1 ≠ id := fun same => other (congrArg some same)
      rw [isLive_insert, decide_eq_false different, Bool.false_or]
  | @modified key source patch origin found =>
      have named : source.id = key := keyed key source found
      have different : key ≠ id := fun same => other (congrArg some (named.trans same))
      rw [isLive_insert, decide_eq_false different, Bool.false_or]
  | @deleted key origin _ =>
      have different : key ≠ id := fun same => other (congrArg some same)
      rw [isLive_erase, decide_eq_false different, Bool.not_false, Bool.true_and]
  | referenceChanged _ => rfl
  | loudspeakersCreated _ => rfl

theorem Told.livesTo {scene next : Scene} {event : Event} (told : Told scene event next)
    (keyed : scene.WellKeyed) {id : String} {events : List Event}
    (lives : LivesTo (scene.isLive id) (Event.about id events)) :
    LivesTo (next.isLive id) (Event.about id (events ++ [event])) := by
  rw [Event.about_concat]
  by_cases named : event.sourceId? = some id
  · rw [if_pos named]
    cases told with
    | @created entry origin unknown =>
        have same : entry.1 = id := Option.some.inj named
        subst same
        rw [unknown] at lives
        rw [isLive_insert, decide_eq_true rfl]
        exact lives.create (fresh entry) origin
    | @modified key source patch origin found =>
        have same : key = id := (keyed key source found).symm.trans (Option.some.inj named)
        subst same
        have live : scene.isLive key = true := Option.isSome_of_eq_some found
        rw [live] at lives
        rw [isLive_insert, decide_eq_true rfl]
        exact lives.modify (source.apply patch) origin
    | @deleted key origin live =>
        have same : key = id := Option.some.inj named
        subst same
        rw [live] at lives
        rw [isLive_erase, decide_eq_true rfl]
        exact lives.delete key origin
    | referenceChanged _ => cases named
    | loudspeakersCreated _ => cases named
  · rw [if_neg named, List.append_nil, told.isLive_other keyed named]
    exact lives

theorem ToldAll.livesTo {scene final : Scene} {events : List Event}
    (told : ToldAll scene events final) (keyed : scene.WellKeyed) {id : String} {past : List Event}
    (lives : LivesTo (scene.isLive id) (Event.about id past)) :
    LivesTo (final.isLive id) (Event.about id (past ++ events)) := by
  induction told generalizing past with
  | done =>
      rw [List.append_nil]
      exact lives
  | @step _ _ _ event events change _ ih =>
      rw [← List.singleton_append, ← List.append_assoc]
      exact ih (change.wellKeyed keyed) (change.livesTo keyed lives)

theorem ToldAll.livesTo_initial {final : Scene} {events : List Event}
    (told : ToldAll initial events final) (id : String) :
    LivesTo (final.isLive id) (Event.about id events) := by
  have none : LivesTo (initial.isLive id) (Event.about id []) :=
    ⟨[], [], rfl, List.forall_mem_nil _, .inl ⟨rfl, rfl⟩⟩
  exact told.livesTo wellKeyed_initial none

end Scene

def Gesture.Reported (gesture : Gesture) (event : Event) : Prop :=
  match gesture.target with
  | .source id => ∃ source, event = .modified source .operator ∧ source.id = id
  | .reference | .offset => ∃ reference, event = .referenceChanged reference .operator

namespace Scene

theorem reported_eventOf {scene : Scene} {gesture : Gesture} (keyed : scene.WellKeyed) :
    gesture.Reported (scene.eventOf gesture .operator) := by
  rw [Gesture.Reported, eventOf]
  cases gesture.target with
  | source id =>
      refine ⟨_, rfl, ?_⟩
      cases found : scene.source? id with
      | none => rfl
      | some source => exact keyed id source found
  | reference => exact ⟨_, rfl⟩
  | offset => exact ⟨_, rfl⟩

end Scene

namespace Hub

open Scene

def accepts (hub : Hub) : Call → List Gesture
  | .message _ => []
  | .gesture gesture =>
    match (hub.perform gesture).answer with
    | .ok _ => [gesture]
    | .error _ => []

def acceptsAll (hub : Hub) : List Call → List Gesture
  | [] => []
  | call :: rest => hub.accepts call ++ (hub.serve call).2.acceptsAll rest

def ofOperator (events : List Event) : List Event :=
  events.filter fun event => event.origin? = some .operator

theorem handle_by (hub : Hub) (text : String) :
    ∀ event ∈ (hub.handle text).events, event.By .renderer := by
  cases read : Message.decode text with
  | error failure =>
      rw [handle, read]
      exact List.forall_mem_nil _
  | ok commands =>
      obtain ⟨_, runs, _⟩ := runAll_stops hub.scene .renderer commands
      rw [handle_eq read]
      exact runs.by

theorem serve_reported {hub : Hub} (keyed : hub.scene.WellKeyed) (call : Call) :
    List.Forall₂ Gesture.Reported (hub.accepts call) (ofOperator (hub.serve call).1) := by
  cases call with
  | message text =>
      have none : ofOperator (hub.handle text).events = [] := by
        apply List.filter_eq_nil_iff.2
        intro event member mine
        cases hub.handle_by text event member .operator (of_decide_eq_true mine)
      rw [serve, none]
      exact .nil
  | gesture gesture =>
      rw [accepts, serve]
      rcases hub.perform_cases gesture with ⟨failure, refused⟩ | ⟨outbox, made⟩
      · rw [refused]
        exact .nil
      · rw [made]
        have mine : ofOperator [hub.scene.eventOf gesture .operator] =
            [hub.scene.eventOf gesture .operator] := by
          rw [ofOperator, eventOf]
          cases gesture.target <;> rfl
        rw [mine]
        exact .cons (reported_eventOf keyed) .nil

theorem serveAll_reported {hub : Hub} (keyed : hub.scene.WellKeyed) (calls : List Call) :
    List.Forall₂ Gesture.Reported (hub.acceptsAll calls) (ofOperator (hub.serveAll calls).1) := by
  induction calls generalizing hub with
  | nil => exact .nil
  | cons call rest ih =>
      have later := ih ((hub.serve_told call).wellKeyed keyed)
      rw [serveAll, acceptsAll, ofOperator, List.filter_append]
      exact List.rel_append (serve_reported keyed call) later

/-- From an empty scene on, the events about each source are lives, and it is live exactly while the
last of them goes on; messages are told on the renderer's account; and the events on the operator's
account are one for each accepted gesture. -/
theorem lives_serveAll {hub : Hub} (fresh : hub.scene = .initial) (calls : List Call) :
    let events := (hub.serveAll calls).1
    (∀ id, Lives (Event.about id events) ∧
        ((hub.serveAll calls).2.scene.isLive id = true ↔
          ∃ last, (Event.about id events).getLast? = some last ∧ last.isDeletion = false)) ∧
      (∀ before text after, calls = before ++ .message text :: after →
        ∀ event ∈ ((hub.serveAll before).2.handle text).events, event.By .renderer) ∧
      List.Forall₂ Gesture.Reported (hub.acceptsAll calls) (ofOperator events) := by
  intro events
  have told := hub.serveAll_told calls
  rw [fresh] at told
  refine ⟨fun id => ?_, fun before text _ _ => handle_by _ text, ?_⟩
  · have known := told.livesTo_initial id
    exact ⟨known.lives, known.live_iff⟩
  · exact serveAll_reported (fresh ▸ wellKeyed_initial) calls

theorem lives_serveAll_renewed :
    let text := "[\"del-src\",[\"a\"],\"new-src\",\x7b\"a\":\x7b\x7d\x7d,\"del-src\",[\"b\"]]"
    let gesture : Gesture := ⟨.source "a", some ⟨1.0, 2.0, 0.0⟩, none⟩
    let before : List Call := [.gesture gesture,
      .message "[\"new-src\",\x7b\"a\":\x7b\x7d\x7d]", .gesture gesture]
    let calls : List Call := before ++ [.message text]
    let events := (initial.serveAll calls).1
    initial.scene = .initial ∧ initial.acceptsAll calls = [gesture] ∧
      (Event.about "a" events).map Event.kind =
        ["source_created", "source_modified", "source_deleted", "source_created"] ∧
      Lives (Event.about "a" events) ∧
      ((initial.serveAll calls).2.scene.isLive "a" = true ↔
        ∃ last, (Event.about "a" events).getLast? = some last ∧ last.isDeletion = false) ∧
      (∀ event ∈ ((initial.serveAll before).2.handle text).events, event.By .renderer) ∧
      List.Forall₂ Gesture.Reported (initial.acceptsAll calls) (ofOperator events) := by
  intro text gesture before calls events
  have fresh : initial.scene = .initial := rfl
  have accepted : initial.acceptsAll calls = [gesture] := by decide +kernel
  have told : (Event.about "a" events).map Event.kind =
      ["source_created", "source_modified", "source_deleted", "source_created"] := by
    decide +kernel
  obtain ⟨lives, remote, reported⟩ := lives_serveAll fresh calls
  exact ⟨fresh, accepted, told, (lives "a").1, (lives "a").2, remote before text [] rfl, reported⟩

end Hub

end SoundScene
