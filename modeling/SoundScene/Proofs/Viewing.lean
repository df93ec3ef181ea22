import Mathlib.Data.List.Basic
import Mathlib.Data.List.Induction
import SoundScene.Proofs.Feeds
import SoundScene.Proofs.Replies

/-!
A viewer and its feed.  Texts of the viewer and turns to the feed come one after another in some
order, and events are published in between.  Until the connection ends every text is answered, and
every event that is taken up is sent if it is shown at that moment; a viewer that keeps up takes up
every event (`run_streams`).
-/

namespace SoundScene

def Feed.Received.incoming? : Feed.Received Event → Option Incoming
  | .nothing => none
  | .lost count => some (.lost count)
  | .item event => some (.event event)

inductive WatchStep where
  /-- Somebody publishes, or another reader comes, receives or goes. -/
  | feed (call : FeedCall Event)
  | text (text : String) (arrives : Bool)
  | noText
  | closed
  /-- The connection turns to the feed. -/
  | poll (arrives : Bool)
deriving DecidableEq, Repr

namespace WatchStep

def text? : WatchStep → Option String
  | .text content _ => some content
  | _ => none

def told? : WatchStep → Option Event
  | .feed call => call.item?
  | _ => none

def Spares (viewer : String) : WatchStep → Prop
  | .feed call => call.reader? ≠ some viewer
  | _ => True

end WatchStep

/-- The viewer missed this many of the events that were published, took up the others in their
order, and the rest is still to come. -/
inductive Gets : (told : List Event) → (taken : List Incoming) → (rest : List Event) → Prop
  | done {rest} : Gets rest [] rest
  | event {event told taken rest} : Gets told taken rest →
      Gets (event :: told) (.event event :: taken) rest
  | lost {missed told taken rest} : Gets told taken rest →
      Gets (missed ++ told) (.lost missed.length :: taken) rest
  | own {incoming told taken rest} : incoming.isFed = false → Gets told taken rest →
      Gets told (incoming :: taken) rest

namespace Gets

variable {told rest : List Event} {taken : List Incoming}

theorem append {later : List Event} {more : List Incoming} (gets : Gets told taken rest)
    (others : Gets rest more later) : Gets told (taken ++ more) later := by
  induction gets with
  | done => exact others
  | event _ ih => exact .event (ih others)
  | lost _ ih => exact .lost (ih others)
  | own apart _ ih => exact .own apart (ih others)

theorem published (gets : Gets told taken rest) (more : List Event) :
    Gets (told ++ more) taken (rest ++ more) := by
  induction gets with
  | done => exact .done
  | event _ ih => exact .event ih
  | lost _ ih =>
      rw [List.append_assoc]
      exact .lost ih
  | own apart _ ih => exact .own apart ih

theorem sublist (gets : Gets told taken rest) : (taken.filterMap (·.event?)).Sublist told := by
  induction gets with
  | done => exact List.nil_sublist _
  | event _ ih => exact ih.cons_cons _
  | lost _ ih => exact ih.trans (List.sublist_append_right _ _)
  | @own incoming _ _ _ apart _ ih =>
      cases incoming with
      | event => cases apart
      | _ => exact ih

theorem eq_append (gets : Gets told taken rest) (complete : ∀ count, .lost count ∉ taken) :
    told = taken.filterMap (·.event?) ++ rest := by
  induction gets with
  | done => rfl
  | event _ ih =>
      exact congrArg _ (ih fun count member => complete count (List.mem_cons_of_mem _ member))
  | lost _ _ => exact absurd List.mem_cons_self (complete _)
  | @own incoming _ _ _ apart _ ih =>
      have others := ih fun count member => complete count (List.mem_cons_of_mem _ member)
      cases incoming with
      | event => cases apart
      | _ => exact others

end Gets

structure Watch where
  feed : Feed Event
  connection : Connection

namespace Watch

def start (viewer : String) (capacity : Nat) (calls : List (FeedCall Event)) : Watch :=
  ⟨((Feed.ofCapacity capacity).callAll calls).subscribe viewer, .initial⟩

def incoming? (viewer : String) (watch : Watch) : WatchStep → Option (Incoming × Bool)
  | .feed _ => none
  | .text text arrives => some (.text text, arrives)
  | .noText => some (.noText, true)
  | .closed => some (.closed, true)
  | .poll arrives => (watch.feed.receive viewer).1.incoming?.map (·, arrives)

def step (viewer : String) (watch : Watch) (step : WatchStep) : Watch where
  feed := match step with
    | .feed call => watch.feed.call call
    | .poll _ => (watch.feed.receive viewer).2
    | .text .. | .noText | .closed => watch.feed
  connection := match watch.incoming? viewer step with
    | some (incoming, arrives) => watch.connection.take incoming arrives
    | none => watch.connection

def run (viewer : String) (watch : Watch) (steps : List WatchStep) : Watch :=
  steps.foldl (step viewer) watch

def taken (viewer : String) : Watch → List WatchStep → List Incoming
  | _, [] => []
  | watch, first :: rest =>
    (watch.incoming? viewer first).toList.map (·.1) ++ (watch.step viewer first).taken viewer rest

/-- The steps before the one that ends the connection. -/
def live (viewer : String) : Watch → List WatchStep → List WatchStep
  | _, [] => []
  | watch, first :: rest =>
    let next := watch.step viewer first
    if next.connection.isOpen then first :: next.live viewer rest else []

def Ends (viewer : String) (watch : Watch) (step : WatchStep) : Prop :=
  ∃ incoming arrives, watch.incoming? viewer step = some (incoming, arrives) ∧
    (incoming = .closed ∨ arrives = false ∧ (watch.connection.filter.respond incoming).1 ≠ none)

/-- At no time more events are published and not taken up than the feed keeps. -/
def KeepsUp (viewer : String) (watch : Watch) (steps : List WatchStep) : Prop :=
  ∀ early late, steps = early ++ late → (early.filterMap (·.told?)).length ≤
    ((watch.taken viewer early).filterMap (·.event?)).length + watch.feed.capacity

/-- What a viewer got while its connection was open. -/
structure Streams (viewer : String) (start : Watch) (steps : List WatchStep) : Prop where
  replied : ((start.run viewer steps).connection.sent.filterMap (·.reply?)).length =
    (steps.filterMap (·.text?)).length
  answered : ∀ place text, (steps.filterMap (·.text?))[place]? = some text → ∃ reply,
    ((start.run viewer steps).connection.sent.filterMap (·.reply?))[place]? = some reply ∧
      Answers text (Filter.initial.hearAll ((steps.filterMap (·.text?)).take place)) reply
        (Filter.initial.hearAll ((steps.filterMap (·.text?)).take (place + 1)))
  filter : (start.run viewer steps).connection.filter =
    Filter.initial.hearAll (steps.filterMap (·.text?))
  shown : ∀ before event after,
    (start.run viewer steps).connection.sent = before ++ .event event :: after →
      (Filter.initial.hearAll ((steps.filterMap (·.text?)).take
        (before.filterMap (·.reply?)).length)).Passes event
  framed : ∀ event, .event event ∈ (start.run viewer steps).connection.sent → ∀ now,
    (Frame.event event).ReadsAs now "" "event" (event.toValue now).sorted
  passed : (start.run viewer steps).connection.sent.filterMap (·.event?) =
    Filter.initial.passing (start.taken viewer steps)
  ordered : ((start.run viewer steps).connection.sent.filterMap (·.event?)).Sublist
    (steps.filterMap (·.told?))
  accounted : ∃ missed,
    missed.length = ((start.run viewer steps).feed.drain viewer).1 ∧
      Gets (steps.filterMap (·.told?)) (start.taken viewer steps)
        (missed ++ ((start.run viewer steps).feed.drain viewer).2.1)
  complete : start.KeepsUp viewer steps →
    (∀ count, .lost count ∉ start.taken viewer steps) ∧
      steps.filterMap (·.told?) = (start.taken viewer steps).filterMap (·.event?) ++
        ((start.run viewer steps).feed.drain viewer).2.1

variable {viewer : String} {watch : Watch}

theorem connection_step (viewer : String) (watch : Watch) (step : WatchStep) :
    (watch.step viewer step).connection =
      match watch.incoming? viewer step with
      | some (incoming, arrives) => watch.connection.take incoming arrives
      | none => watch.connection := rfl

theorem run_append (viewer : String) (watch : Watch) (first second : List WatchStep) :
    watch.run viewer (first ++ second) = (watch.run viewer first).run viewer second :=
  List.foldl_append

theorem run_concat (viewer : String) (watch : Watch) (before : List WatchStep)
    (last : WatchStep) :
    watch.run viewer (before ++ [last]) = (watch.run viewer before).step viewer last :=
  run_append ..

theorem taken_append (viewer : String) (watch : Watch) (first second : List WatchStep) :
    watch.taken viewer (first ++ second) =
      watch.taken viewer first ++ (watch.run viewer first).taken viewer second := by
  induction first generalizing watch with
  | nil => rfl
  | cons step rest ih =>
      rw [List.cons_append, taken, ih, taken, List.append_assoc]
      rfl

theorem taken_concat (viewer : String) (watch : Watch) (before : List WatchStep)
    (last : WatchStep) : watch.taken viewer (before ++ [last]) = watch.taken viewer before ++
      ((watch.run viewer before).incoming? viewer last).toList.map (·.1) := by
  rw [taken_append, taken, taken, List.append_nil]

theorem texts_taken (viewer : String) (watch : Watch) (steps : List WatchStep) :
    (watch.taken viewer steps).filterMap (·.text?) = steps.filterMap (·.text?) := by
  induction steps generalizing watch with
  | nil => rfl
  | cons step rest ih =>
      rw [taken, List.filterMap_append, ih]
      cases step with
      | poll arrives =>
          rw [incoming?]
          cases (watch.feed.receive viewer).1 <;> rfl
      | _ => rfl

theorem connection_run {steps : List WatchStep} (fresh : watch.connection = .initial)
    (opened : (watch.run viewer steps).connection.isOpen = true) :
    .closed ∉ watch.taken viewer steps ∧
      (watch.run viewer steps).connection =
        Connection.initial.takeAll (watch.taken viewer steps) := by
  -- A connection that is open at the end was open before each step, so the last one is taken off.
  induction steps using List.reverseRecOn with
  | nil => exact ⟨List.not_mem_nil, fresh⟩
  | append_singleton before last ih =>
      rw [run_concat, connection_step] at opened ⊢
      rw [taken_concat]
      cases due : (watch.run viewer before).incoming? viewer last with
      | none =>
          rw [due] at opened
          obtain ⟨lasting, same⟩ := ih opened
          simpa using ⟨lasting, same⟩
      | some pair =>
          obtain ⟨incoming, arrives⟩ := pair
          rw [due] at opened
          obtain ⟨earlier, other, sent⟩ := Connection.take_of_open opened
          obtain ⟨lasting, same⟩ := ih earlier
          constructor
          · simpa using ⟨lasting, other.symm⟩
          · dsimp only
            rw [sent, same, Connection.takeAll, Connection.takeAll, List.foldl_append]
            rfl

theorem connection_run_of_closed (closed : watch.connection.isOpen = false) (steps : List WatchStep) :
    (watch.run viewer steps).connection = watch.connection := by
  induction steps generalizing watch with
  | nil => rfl
  | cons step rest ih =>
      have same : (watch.step viewer step).connection = watch.connection := by
        rw [connection_step]
        split
        · exact Connection.take_of_closed closed ..
        · rfl
      exact (ih (same ▸ closed)).trans same

theorem step_ends (opened : watch.connection.isOpen = true) {step : WatchStep}
    (ended : (watch.step viewer step).connection.isOpen = false) :
    (watch.step viewer step).connection.sent = watch.connection.sent ∧ watch.Ends viewer step := by
  rw [connection_step] at ended ⊢
  cases due : watch.incoming? viewer step with
  | none =>
      rw [due] at ended
      cases opened.symm.trans ended
  | some pair =>
      obtain ⟨incoming, arrives⟩ := pair
      rw [due] at ended
      obtain ⟨same, why⟩ := Connection.take_ends opened ended
      exact ⟨same, incoming, arrives, due, why⟩

theorem live_cases (opened : watch.connection.isOpen = true) (steps : List WatchStep) :
    (watch.run viewer (watch.live viewer steps)).connection.isOpen = true ∧
      (watch.run viewer steps).connection.sent =
        (watch.run viewer (watch.live viewer steps)).connection.sent ∧
      ∃ dead, steps = watch.live viewer steps ++ dead ∧ ∀ step rest, dead = step :: rest →
        (watch.run viewer (watch.live viewer steps)).Ends viewer step := by
  induction steps generalizing watch with
  | nil => exact ⟨opened, rfl, [], rfl, nofun⟩
  | cons first rest ih =>
      rw [live]
      cases lasts : (watch.step viewer first).connection.isOpen with
      | true =>
          obtain ⟨up, same, dead, split, ends⟩ := ih lasts
          exact ⟨up, same, dead, congrArg _ split, ends⟩
      | false =>
          obtain ⟨same, ends⟩ := step_ends opened lasts
          have finished : (watch.run viewer (first :: rest)).connection =
              (watch.step viewer first).connection := connection_run_of_closed lasts rest
          refine ⟨opened, (congrArg Connection.sent finished).trans same, first :: rest, rfl, ?_⟩
          rintro _ _ ⟨⟩
          exact ends

def Follows (viewer : String) (told : List Event) (taken : List Incoming) (feed : Feed Event) :
    Prop :=
  ∃ history next, feed.Keeps history ∧ feed.next? viewer = some next ∧ next ≤ history.length ∧
    Gets told taken (history.drop next)

theorem follows_start (viewer : String) (capacity : Nat) (calls : List (FeedCall Event)) :
    Follows viewer [] [] (start viewer capacity calls).feed := by
  obtain ⟨history, keeps⟩ := Feed.keeps_callAll (Feed.keeps_ofCapacity capacity) calls
  refine ⟨history, history.length, keeps.withReaders _, ?_, Nat.le_refl _, ?_⟩
  · rw [← keeps.published]
    exact Feed.next?_subscribe_self
  · rw [List.drop_length]
    exact .done

namespace Follows

variable {told : List Event} {taken : List Incoming} {feed : Feed Event}

theorem call (follows : Follows viewer told taken feed) {call : FeedCall Event}
    (apart : call.reader? ≠ some viewer) :
    Follows viewer (told ++ call.item?.toList) taken (feed.call call) := by
  obtain ⟨history, next, keeps, reads, within, gets⟩ := follows
  have heard : feed.readers ≠ [] := by
    intro none
    rw [Feed.next?, none] at reads
    cases reads
  refine ⟨_, next, keeps.call heard call, (Feed.next?_call apart).trans reads, ?_, ?_⟩
  · rw [List.length_append]
    omega
  · rw [List.drop_append_of_le_length within]
    exact gets.published _

theorem own (follows : Follows viewer told taken feed) {incoming : Incoming}
    (apart : incoming.isFed = false) : Follows viewer told (taken ++ [incoming]) feed := by
  obtain ⟨history, next, keeps, reads, within, gets⟩ := follows
  exact ⟨history, next, keeps, reads, within, gets.append (.own apart .done)⟩

theorem receive (follows : Follows viewer told taken feed) :
    Follows viewer told (taken ++ (feed.receive viewer).1.incoming?.toList)
      (feed.receive viewer).2 := by
  obtain ⟨history, next, keeps, reads, within, gets⟩ := follows
  have kept := keeps.receive viewer
  rcases Feed.receive_cases keeps reads within with
    ⟨start, behind, oldest, received⟩ | ⟨_, item, found, received⟩ | ⟨_, received⟩
  · rw [received] at kept ⊢
    have within : start ≤ history.length := by omega
    obtain ⟨missed, length, cut⟩ := Feed.exists_missed (Nat.le_of_lt behind) within
    refine ⟨history, start, kept, Feed.next?_setNext_self reads start, within, ?_⟩
    rw [cut] at gets
    refine gets.append ?_
    rw [Feed.Received.incoming?, ← length]
    exact .lost .done
  · rw [received] at kept ⊢
    obtain ⟨below, rfl⟩ := List.getElem?_eq_some_iff.1 found
    refine ⟨history, next + 1, kept, Feed.next?_setNext_self reads _, below, ?_⟩
    rw [List.drop_eq_getElem_cons below] at gets
    exact gets.append (.event .done)
  · rw [received, Feed.Received.incoming?, Option.toList_none, List.append_nil]
    exact ⟨history, next, keeps, reads, within, gets⟩

theorem step {watch : Watch} (follows : Follows viewer told taken watch.feed) {step : WatchStep}
    (spares : step.Spares viewer) :
    Follows viewer (told ++ step.told?.toList)
      (taken ++ (watch.incoming? viewer step).toList.map (·.1)) (watch.step viewer step).feed := by
  cases step with
  | feed call =>
      rw [incoming?, Option.toList_none, List.map_nil, List.append_nil]
      exact follows.call spares
  | poll arrives =>
      have due : (watch.incoming? viewer (.poll arrives)).toList.map (·.1) =
          (watch.feed.receive viewer).1.incoming?.toList := by
        rw [incoming?]
        cases (watch.feed.receive viewer).1.incoming? <;> rfl
      change Follows viewer (told ++ []) _ _
      rw [due, List.append_nil]
      exact follows.receive
  | text | noText | closed =>
      change Follows viewer (told ++ []) (taken ++ [_]) watch.feed
      rw [List.append_nil]
      exact follows.own rfl

end Follows

theorem follows_run {steps : List WatchStep} (follows : Follows viewer [] [] watch.feed)
    (spares : ∀ step ∈ steps, step.Spares viewer) :
    Follows viewer (steps.filterMap (·.told?)) (watch.taken viewer steps)
      (watch.run viewer steps).feed := by
  induction steps using List.reverseRecOn with
  | nil => exact follows
  | append_singleton before last ih =>
      have earlier := ih fun step member => spares step (List.mem_append_left _ member)
      have told : (before ++ [last]).filterMap (·.told?) =
          before.filterMap (·.told?) ++ last.told?.toList := by
        rw [List.filterMap_append, List.filterMap_cons]
        cases last.told? <;> rfl
      rw [run_concat, taken_concat, told]
      exact earlier.step (spares last (by simp))

theorem capacity_run (viewer : String) (watch : Watch) (steps : List WatchStep) :
    (watch.run viewer steps).feed.capacity = watch.feed.capacity := by
  induction steps generalizing watch with
  | nil => rfl
  | cons step rest ih =>
      refine (ih (watch.step viewer step)).trans ?_
      cases step with
      | feed call => exact Feed.capacity_call call
      | poll arrives => exact Feed.capacity_call (.receive viewer)
      | _ => rfl

theorem KeepsUp.near {steps : List WatchStep} (keepsUp : watch.KeepsUp viewer steps)
    (complete : ∀ count, .lost count ∉ watch.taken viewer steps) {history : List Event}
    {next : Nat} (gets : Gets (steps.filterMap (·.told?)) (watch.taken viewer steps)
      (history.drop next)) : history.length - (watch.run viewer steps).feed.capacity ≤ next := by
  have behind := keepsUp steps [] (List.append_nil _).symm
  have all := congrArg List.length (gets.eq_append complete)
  rw [List.length_append, List.length_drop] at all
  rw [capacity_run]
  omega

theorem KeepsUp.misses_none {steps : List WatchStep} (follows : Follows viewer [] [] watch.feed)
    (spares : ∀ step ∈ steps, step.Spares viewer) (keepsUp : watch.KeepsUp viewer steps) :
    ∀ count, .lost count ∉ watch.taken viewer steps := by
  induction steps using List.reverseRecOn with
  | nil => exact fun count => List.not_mem_nil
  | append_singleton before last ih =>
      have others : ∀ step ∈ before, step.Spares viewer :=
        fun step member => spares step (List.mem_append_left _ member)
      have upBefore : watch.KeepsUp viewer before := by
        rintro early late rfl
        exact keepsUp early (late ++ [last]) (List.append_assoc ..)
      have complete := ih others upBefore
      intro count member
      rw [taken_concat, List.mem_append] at member
      rcases member with early | due
      · exact complete count early
      -- Nothing was lost before, so the viewer's place is where the events that it took up end.
      · obtain ⟨history, next, keeps, reads, within, gets⟩ := follows_run follows others
        have near := upBefore.near complete gets
        cases last with
        | poll arrives =>
            rcases Feed.receive_cases keeps reads within with
              ⟨start, behind, rfl, _⟩ | ⟨_, item, _, received⟩ | ⟨_, received⟩
            · omega
            · simp [incoming?, received, Feed.Received.incoming?] at due
            · simp [incoming?, received, Feed.Received.incoming?] at due
        | _ => simp [incoming?] at due

theorem streams_of_open {start : Watch} {live : List WatchStep}
    (fresh : start.connection = .initial) (follows : Follows viewer [] [] start.feed)
    (spares : ∀ step ∈ live, step.Spares viewer)
    (opened : (start.run viewer live).connection.isOpen = true) : start.Streams viewer live := by
  obtain ⟨lasting, same⟩ := connection_run fresh opened
  have connection : (start.run viewer live).connection =
      ⟨Filter.initial.hearAll (live.filterMap (·.text?)),
        Filter.initial.frames (start.taken viewer live), true⟩ := by
    rw [same, Connection.takeAll_of_open rfl lasting, texts_taken]
    rfl
  have replies : (start.run viewer live).connection.sent.filterMap (·.reply?) =
      Filter.initial.replies (live.filterMap (·.text?)) := by
    rw [connection]
    exact (Filter.replies_frames _ _).trans (congrArg _ (texts_taken viewer start live))
  have events : (start.run viewer live).connection.sent.filterMap (·.event?) =
      Filter.initial.passing (start.taken viewer live) := by
    rw [connection]
    exact Filter.events_frames _ _
  obtain ⟨history, next, keeps, reads, within, gets⟩ := follows_run follows spares
  obtain ⟨lost, waiting⟩ := Feed.drain_of_next keeps reads
  refine ⟨?_, ?_, congrArg Connection.filter connection, ?_, ?_, events, ?_, ?_, ?_⟩
  · rw [replies, Filter.length_replies]
  · intro place text there
    refine ⟨_, replies ▸ Filter.getElem?_replies _ there, ?_⟩
    rw [Filter.hearAll_take_succ _ there]
    exact Filter.answerText_answers (Filter.tidy_initial.hearAll _) _
  · intro before event after split
    rw [connection] at split
    exact texts_taken viewer start live ▸ Filter.passes_of_frames split
  · exact fun event _ => Frame.readsAs_event event
  · rw [events]
    exact (Filter.passing_sublist _ _).trans gets.sublist
  · rw [lost, waiting]
    obtain ⟨missed, length, cut⟩ := Feed.exists_missed (Nat.le_max_left next _)
      (Nat.max_le.2 ⟨within, Nat.sub_le _ (start.run viewer live).feed.capacity⟩)
    refine ⟨missed, by omega, ?_⟩
    rw [← cut]
    exact gets
  · intro keepsUp
    have complete := keepsUp.misses_none follows spares
    refine ⟨complete, ?_⟩
    rw [waiting, Nat.max_eq_left (keepsUp.near complete gets)]
    exact gets.eq_append complete

end Watch

end SoundScene
