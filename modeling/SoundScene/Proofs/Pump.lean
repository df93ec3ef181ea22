import Mathlib.Data.List.Basic
import Mathlib.Data.List.Induction
import SoundScene.Link
import SoundScene.Proofs.CommandText

/-!
The link as a pump.  The renderer is first sent the command that subscribes to the topics; then what
is queued goes to it in its order, nothing twice and nothing left out, and what the renderer sends
goes to the hub until the first text that is refused.  The
step that ends the link decides with what result it ends, and the hub counts as connected until then
(`pumps_serve`).
-/

namespace SoundScene

open Json (Value)

namespace LinkStep

def text? : LinkStep → Option String
  | .text content => some content
  | _ => none

def queued? : LinkStep → Option String
  | .queued content => some content
  | _ => none

def texts (steps : List LinkStep) : List String := steps.filterMap text?

/-- What is queued until nobody is left who could queue a message. -/
def queue (steps : List LinkStep) : List String :=
  (steps.takeWhile (· ≠ .abandoned)).filterMap queued?

theorem texts_concat (steps : List LinkStep) (step : LinkStep) :
    texts (steps ++ [step]) = texts steps ++ step.text?.toList := by
  cases step <;> simp [texts, text?]

theorem queue_concat (steps : List LinkStep) (step : LinkStep) :
    queue (steps ++ [step]) =
      if .abandoned ∈ steps then queue steps else queue steps ++ step.queued?.toList := by
  induction steps with
  | nil => cases step <;> rfl
  | cons first rest ih =>
      by_cases last : first = .abandoned
      · simp [queue, last]
      · have more (later : List LinkStep) :
            queue (first :: later) = first.queued?.toList ++ queue later := by
          rw [queue, List.takeWhile_cons_of_pos (by simpa using last), List.filterMap_cons]
          cases first.queued? <;> rfl
        rw [List.cons_append, more, more, ih]
        split <;> simp_all [Ne.symm last]

theorem queue_of_silent (steps : List LinkStep) {step : LinkStep} (silent : step.queued? = none) :
    queue (steps ++ [step]) = queue steps := by
  rw [queue_concat, silent, Option.toList_none, List.append_nil, ite_self]

end LinkStep

namespace Hub

def hear (hub : Hub) : List String → Outcome Unit
  | [] => ⟨.ok (), [], hub⟩
  | text :: rest =>
    let handled := hub.handle text
    match handled.answer with
    | .error failure => ⟨.error failure, handled.events, handled.hub⟩
    | .ok _ =>
      let later := handled.hub.hear rest
      { later with events := handled.events ++ later.events }

theorem hear_singleton (hub : Hub) (text : String) :
    hub.hear [text] = ⟨(hub.handle text).answer.map fun _ => (), (hub.handle text).events,
      (hub.handle text).hub⟩ := by
  rw [hear]
  cases (hub.handle text).answer with
  | error failure => rfl
  | ok count => simp [hear, Except.map]

theorem hear_append {hub : Hub} {texts : List String} (rest : List String)
    (heard : (hub.hear texts).answer = .ok ()) :
    hub.hear (texts ++ rest) =
      let later := (hub.hear texts).hub.hear rest
      { later with events := (hub.hear texts).events ++ later.events } := by
  induction texts generalizing hub with
  | nil => rfl
  | cons text others ih =>
      rw [hear] at heard
      rw [List.cons_append, hear, hear]
      cases answer : (hub.handle text).answer with
      | error failure => simp [answer] at heard
      | ok count =>
          simp only [answer] at heard
          simp only [ih heard, List.append_assoc]

theorem handle_congr (hub : Hub) {other : Hub} (same : hub.scene = other.scene) (text : String) :
    hub.handle text = { other.handle text with
      hub := { hub with scene := (other.handle text).hub.scene } } := by
  rw [handle, handle, same]
  cases Message.decode text with
  | error failure => simp [← same]
  | ok commands => rfl

end Hub

namespace Link

theorem run_append (link : Link) (first second : List LinkStep) :
    link.run (first ++ second) = (link.run first).run second :=
  List.foldl_append ..

theorem step_of_ended {link : Link} {result : Except Failure Unit}
    (ended : link.outcome = some result) (step : LinkStep) : link.step step = link := by
  rw [Link.step.eq_def, ended]

theorem run_of_ended {link : Link} {result : Except Failure Unit}
    (ended : link.outcome = some result) (steps : List LinkStep) : link.run steps = link := by
  induction steps with
  | nil => rfl
  | cons step rest ih => rw [run, List.foldl_cons, step_of_ended ended]; exact ih

theorem up_of_append {link : Link} {first second : List LinkStep}
    (up : (link.run (first ++ second)).outcome = none) : (link.run first).outcome = none := by
  cases ended : (link.run first).outcome with
  | none => rfl
  | some result =>
      rw [run_append, run_of_ended ended, ended] at up
      cases up

/-- How the next step ends a link that is up, has taken some steps and has some messages waiting. -/
inductive Ends (hub : Hub) (waiting : List String) (steps : List LinkStep) :
    LinkStep → Except Failure Unit → Prop
  | refused {text failure} :
      (hub.hear (LinkStep.texts steps ++ [text])).answer = .error failure →
      Ends hub waiting steps (.text text) (.error failure)
  | closed : Ends hub waiting steps .closed (.ok ())
  | broken {reason} : Ends hub waiting steps (.broken reason) (.error (.transport reason))
  | unsent {reason} : waiting ≠ [] →
      Ends hub waiting steps (.unsent reason) (.error (.transport reason))
  | abandoned : waiting = [] → .abandoned ∈ steps → Ends hub waiting steps .outgoing (.ok ())

structure Hears (hub : Hub) (steps : List LinkStep) (link : Link) : Prop where
  scene : link.hub.scene = (hub.hear (LinkStep.texts steps)).hub.scene
  events : link.events = (hub.hear (LinkStep.texts steps)).events
  accepted : link.outcome = none → (hub.hear (LinkStep.texts steps)).answer = .ok ()

structure Greets (topics : List String) (text : String) : Prop where
  encoded : text = Message.encode [.subscribe topics]
  read : Value.parse text = .ok (.list [.string "subscribe", .ofStrings topics])
  decoded : Message.decode text = .ok [.subscribe topics]

/-- What was queued is sent, waits, or is the one message whose sending failed. -/
structure Sends (hub : Hub) (topics : List String) (steps : List LinkStep) (link : Link) :
    Prop where
  attended : link.attended = true ↔ .abandoned ∉ steps
  order : ∃ first taken lost, link.sent = first :: taken ∧ Greets topics first ∧
    taken ++ lost ++ link.hub.outbox.waiting = hub.outbox.waiting ++ LinkStep.queue steps ∧
    (lost = [] ∨ ∃ text reason, lost = [text] ∧ steps.getLast? = some (.unsent reason) ∧
      link.outcome = some (.error (.transport reason)))

theorem greets_greeting (topics : List String) : Greets topics (greeting topics) := by
  have writable : ∀ command ∈ [Command.subscribe topics], command.Writable := by
    intro command member
    rw [List.mem_singleton.1 member]
    trivial
  exact ⟨rfl, Json.parse_text (Message.fits_toValue writable), Message.decode_encode writable⟩

theorem step_of_silent (link : Link) {step : LinkStep} (silent : step.text? = none) :
    (link.step step).hub.scene = link.hub.scene ∧ (link.step step).events = link.events := by
  fun_cases Link.step link step
  all_goals simp_all [finish, fail, enqueue, LinkStep.text?]
  fun_cases sendNext link <;> simp [finish]

theorem sendNext_nil {link : Link} (waiting : link.hub.outbox.waiting = []) :
    link.sendNext = if link.attended then link else link.finish (.ok ()) := by
  rw [sendNext, Outbox.take, waiting]

theorem sendNext_cons {link : Link} {text : String} {rest : List String}
    (waiting : link.hub.outbox.waiting = text :: rest) :
    link.sendNext = { link with
      hub := { link.hub with outbox := { link.hub.outbox with waiting := rest } }
      sent := link.sent ++ [text] } := by
  rw [sendNext, Outbox.take, waiting]

theorem takeText_queue (link : Link) (text : String) :
    (link.takeText text).attended = link.attended ∧ (link.takeText text).sent = link.sent ∧
      (link.takeText text).hub.outbox = link.hub.outbox := by
  rw [takeText, link.hub.handle_congr rfl]
  cases (link.hub.handle text).answer <;> exact ⟨rfl, rfl, rfl⟩

theorem Hears.step {hub : Hub} {steps : List LinkStep} {link : Link} (hears : Hears hub steps link)
    (up : link.outcome = none) (step : LinkStep) :
    Hears hub (steps ++ [step]) (link.step step) := by
  have accepted := hears.accepted up
  cases said : step.text? with
  | none =>
      obtain ⟨scene, events⟩ := link.step_of_silent said
      have texts : LinkStep.texts (steps ++ [step]) = LinkStep.texts steps := by
        rw [LinkStep.texts_concat, said, Option.toList_none, List.append_nil]
      refine ⟨?_, ?_, ?_⟩ <;> rw [texts]
      · exact scene.trans hears.scene
      · exact events.trans hears.events
      · exact fun _ => accepted
  | some text =>
      have named : step = .text text := by cases step <;> cases said; rfl
      have heard := Hub.hear_append [text] accepted
      rw [Hub.hear_singleton] at heard
      have moved : link.step step = link.takeText text := by simp only [named, Link.step, up]
      have texts : LinkStep.texts (steps ++ [step]) = LinkStep.texts steps ++ [text] := by
        rw [LinkStep.texts_concat, said, Option.toList_some]
      rw [moved, takeText, link.hub.handle_congr hears.scene text]
      refine ⟨?_, ?_, ?_⟩
      all_goals
        rw [texts, heard]
        cases ((hub.hear (LinkStep.texts steps)).hub.handle text).answer <;>
          simp [finish, hears.events, Except.map]

namespace Sends

variable {hub : Hub} {topics : List String} {steps : List LinkStep} {link : Link}

theorem gone (sends : Sends hub topics steps link) (attended : link.attended = false) :
    .abandoned ∈ steps := by
  by_contra absent
  rw [sends.attended.2 absent] at attended
  cases attended

theorem attended_concat (sends : Sends hub topics steps link) {step : LinkStep}
    (more : step ≠ .abandoned) : link.attended = true ↔ .abandoned ∉ steps ++ [step] := by
  rw [sends.attended, List.mem_append, List.mem_singleton, or_iff_left more.symm]

theorem taken (sends : Sends hub topics steps link) (up : link.outcome = none) :
    ∃ first taken, link.sent = first :: taken ∧ Greets topics first ∧
      taken ++ link.hub.outbox.waiting = hub.outbox.waiting ++ LinkStep.queue steps := by
  obtain ⟨first, taken, lost, sent, greets, order, rfl | ⟨_, _, _, _, ended⟩⟩ := sends.order
  · exact ⟨first, taken, sent, greets, by rwa [List.append_nil] at order⟩
  · rw [up] at ended
    cases ended

theorem keep (sends : Sends hub topics steps link) (up : link.outcome = none) {step : LinkStep}
    {next : Link} (attended : next.attended = link.attended) (same : next.sent = link.sent)
    (waiting : next.hub.outbox.waiting = link.hub.outbox.waiting)
    (silent : LinkStep.queue (steps ++ [step]) = LinkStep.queue steps)
    (more : step ≠ .abandoned) : Sends hub topics (steps ++ [step]) next := by
  obtain ⟨first, taken, sent, greets, order⟩ := sends.taken up
  refine ⟨attended ▸ sends.attended_concat more, first, taken, [], same.trans sent, greets, ?_,
    .inl rfl⟩
  rw [waiting, silent, List.append_nil, order]

theorem step (sends : Sends hub topics steps link) (up : link.outcome = none) (step : LinkStep) :
    Sends hub topics (steps ++ [step]) (link.step step) := by
  obtain ⟨first, taken, sent, greets, order⟩ := sends.taken up
  have unqueued := @LinkStep.queue_of_silent steps step
  rw [Link.step.eq_def, up]
  cases step with
  | text text =>
      obtain ⟨attended, same, outbox⟩ := link.takeText_queue text
      exact sends.keep up attended same (congrArg _ outbox) (unqueued rfl) nofun
  | noText | closed | broken reason => exact sends.keep up rfl rfl rfl (unqueued rfl) nofun
  | queued text =>
      have queue := LinkStep.queue_concat steps (.queued text)
      -- A message counts as queued exactly as long as somebody is left who can queue it.
      cases attended : link.attended with
      | false =>
          rw [if_pos (sends.gone attended)] at queue
          exact sends.keep up rfl rfl rfl queue nofun
      | true =>
          rw [if_neg (sends.attended.1 attended)] at queue
          refine ⟨sends.attended_concat nofun, first, taken, [], sent, greets, ?_, .inl rfl⟩
          change taken ++ [] ++ (link.hub.outbox.waiting ++ [text]) = _
          rw [queue, List.append_nil, ← List.append_assoc, order, List.append_assoc]
          rfl
  | abandoned =>
      refine ⟨by simp, first, taken, [], sent, greets, ?_, .inl rfl⟩
      rw [unqueued rfl, List.append_nil]
      exact order
  | outgoing =>
      cases waiting : link.hub.outbox.waiting with
      | nil =>
          simp only [sendNext_nil waiting]
          split <;> exact sends.keep up rfl rfl rfl (unqueued rfl) nofun
      | cons text rest =>
          simp only [sendNext_cons waiting]
          refine ⟨sends.attended_concat nofun, first, taken ++ [text], [], by rw [sent]; rfl, greets,
            ?_, .inl rfl⟩
          rw [unqueued rfl, ← order, waiting]
          simp
  | unsent reason =>
      cases waiting : link.hub.outbox.waiting with
      | nil =>
          simp only [Outbox.take, waiting]
          exact sends.keep up rfl rfl rfl (unqueued rfl) nofun
      | cons text rest =>
          simp only [Outbox.take, waiting]
          refine ⟨sends.attended_concat nofun, first, taken, [text], sent, greets, ?_,
            .inr ⟨text, reason, rfl, List.getLast?_concat, rfl⟩⟩
          rw [unqueued rfl, ← order, waiting]
          simp [fail, finish]

end Sends

theorem Hears.answer_iff {hub : Hub} {steps : List LinkStep} {link : Link}
    (hears : Hears hub steps link) (up : link.outcome = none) (text : String) (failure : Failure) :
    (hub.hear (LinkStep.texts steps ++ [text])).answer = .error failure ↔
      (link.hub.handle text).answer = .error failure := by
  rw [Hub.hear_append [text] (hears.accepted up), Hub.hear_singleton,
    link.hub.handle_congr hears.scene text]
  cases ((hub.hear (LinkStep.texts steps)).hub.handle text).answer <;> simp [Except.map]

theorem step_outgoing_sent {link : Link} (up : link.outcome = none) :
    (link.step .outgoing).sent = link.sent ++ link.hub.outbox.waiting.head?.toList := by
  rw [Link.step.eq_def, up]
  cases waiting : link.hub.outbox.waiting with
  | nil =>
      simp only [sendNext_nil waiting, List.head?_nil, Option.toList_none, List.append_nil]
      split <;> rfl
  | cons text rest => simp only [sendNext_cons waiting, List.head?_cons, Option.toList_some]

theorem step_outcome_iff {hub : Hub} {topics : List String} {steps : List LinkStep} {link : Link}
    (hears : Hears hub steps link) (sends : Sends hub topics steps link) (up : link.outcome = none)
    (step : LinkStep) (result : Except Failure Unit) :
    (link.step step).outcome = some result ↔
      Ends hub link.hub.outbox.waiting steps step result := by
  have staysUp {step : LinkStep} {next : Link} (same : next.outcome = none)
      (harmless : ∀ {result}, ¬ Ends hub link.hub.outbox.waiting steps step result) :
      next.outcome = some result ↔ Ends hub link.hub.outbox.waiting steps step result := by
    rw [same]
    exact ⟨nofun, fun ends => absurd ends harmless⟩
  rw [Link.step.eq_def, up]
  cases step with
  | text text =>
      have refused := hears.answer_iff up text
      simp only [takeText]
      cases answer : (link.hub.handle text).answer with
      | ok count =>
          refine staysUp up fun ends => ?_
          cases ends with
          | refused heard => exact absurd (answer.symm.trans ((refused _).1 heard)) nofun
      | error failure =>
          constructor
          · rintro ⟨⟩
            exact .refused ((refused failure).2 answer)
          · intro ends
            cases ends with
            | refused heard =>
                rw [(refused _).1 heard] at answer
                cases answer
                rfl
  | noText => exact staysUp up nofun
  | abandoned => exact staysUp rfl nofun
  | queued text =>
      refine staysUp ?_ nofun
      dsimp only
      split <;> exact up
  | closed => exact ⟨by rintro ⟨⟩; exact .closed, by rintro ⟨⟩; rfl⟩
  | broken reason => exact ⟨by rintro ⟨⟩; exact .broken, by rintro ⟨⟩; rfl⟩
  | outgoing =>
      cases waiting : link.hub.outbox.waiting with
      | nil =>
          simp only [sendNext_nil waiting]
          cases attended : link.attended with
          | true =>
              refine waiting ▸ staysUp up fun ends => ?_
              cases ends with
              | abandoned _ gone => exact sends.attended.1 attended gone
          | false =>
              exact ⟨by rintro ⟨⟩; exact .abandoned rfl (sends.gone attended), by rintro ⟨⟩; rfl⟩
      | cons text rest =>
          simp only [sendNext_cons waiting]
          exact waiting ▸ staysUp up fun ends => by
            cases ends with
            | abandoned empty => exact absurd (waiting.symm.trans empty) nofun
  | unsent reason =>
      cases waiting : link.hub.outbox.waiting with
      | nil =>
          simp only [Outbox.take, waiting]
          exact waiting ▸ staysUp up fun ends => by
            cases ends with
            | unsent more => exact more waiting
      | cons text rest =>
          simp only [Outbox.take, waiting]
          exact ⟨by rintro ⟨⟩; exact .unsent nofun, by rintro ⟨⟩; rfl⟩

theorem step_connected {link : Link} (flagged : link.hub.connected = link.outcome.isNone)
    (step : LinkStep) :
    (link.step step).hub.connected = (link.step step).outcome.isNone := by
  have frame (text : String) : (link.hub.handle text).hub.connected = link.hub.connected := by
    rw [link.hub.handle_congr rfl]
  fun_cases Link.step link step
  all_goals simp_all [finish, fail, enqueue]
  · rw [takeText]
    split <;> simp_all [finish]
  · fun_cases sendNext link <;> simp_all [finish]

structure Carries (hub : Hub) (topics : List String) (steps : List LinkStep) (link : Link) :
    Prop where
  hears : Hears hub steps link
  sends : Sends hub topics steps link
  connected : link.hub.connected = link.outcome.isNone

theorem carries_nil (hub : Hub) (topics : List String) :
    Carries hub topics [] (serve hub topics none []) where
  hears := ⟨rfl, rfl, fun _ => rfl⟩
  sends := ⟨⟨nofun, fun _ => rfl⟩, greeting topics, [], [], rfl, greets_greeting topics,
    (List.append_nil _).symm, .inl rfl⟩
  connected := rfl

theorem Carries.step {hub : Hub} {topics : List String} {steps : List LinkStep} {link : Link}
    (carries : Carries hub topics steps link) (up : link.outcome = none) (step : LinkStep) :
    Carries hub topics (steps ++ [step]) (link.step step) :=
  ⟨carries.hears.step up step, carries.sends.step up step, step_connected carries.connected step⟩

theorem serve_concat (hub : Hub) (topics : List String) (unsent : Option String)
    (before : List LinkStep) (last : LinkStep) :
    serve hub topics unsent (before ++ [last]) = (serve hub topics unsent before).step last :=
  run_append ..

theorem carries_of_up {hub : Hub} {topics : List String} {steps : List LinkStep}
    (up : (serve hub topics none steps).outcome = none) :
    Carries hub topics steps (serve hub topics none steps) := by
  -- The facts are about all steps so far, so the induction takes off the last one.
  induction steps using List.reverseRecOn with
  | nil => exact carries_nil hub topics
  | append_singleton before last ih =>
      have earlier : (serve hub topics none before).outcome = none := up_of_append up
      rw [serve_concat]
      exact (ih earlier).step earlier last

theorem exists_live (link : Link) (steps : List LinkStep) :
    ∃ live dead, steps = live ++ dead ∧ link.run steps = link.run live ∧
      (dead = [] ∨ (link.run live).outcome ≠ none) ∧
      ∀ before after, live = before ++ after → after ≠ [] → (link.run before).outcome = none := by
  induction steps generalizing link with
  | nil => exact ⟨[], [], rfl, rfl, .inl rfl, by simp_all⟩
  | cons step rest ih =>
      cases ended : link.outcome with
      | some result =>
          refine ⟨[], step :: rest, rfl, run_of_ended ended _, .inr ?_, by simp_all⟩
          exact ended ▸ nofun
      | none =>
          obtain ⟨live, dead, split, same, finished, up⟩ := ih (link.step step)
          refine ⟨step :: live, dead, congrArg _ split, same, finished, ?_⟩
          rintro (_ | ⟨first, before⟩) after cut more
          · exact ended
          · cases cut
            exact up before after rfl more

/-- What a whole link has done with the steps that it took. -/
structure Pumps (hub : Hub) (topics : List String) (unsent : Option String)
    (steps : List LinkStep) (link : Link) : Prop where
  connected : link.hub.connected = link.outcome.isNone
  scene : link.hub.scene = (hub.hear (LinkStep.texts steps)).hub.scene
  events : link.events = (hub.hear (LinkStep.texts steps)).events
  sent : match unsent with
    | some _ => link.sent = [] ∧ link.hub.outbox = hub.outbox
    | none => Sends hub topics steps link
  outcome : ∀ result, link.outcome = some result ↔
    (∃ reason, unsent = some reason ∧ result = .error (.transport reason)) ∨
      ∃ before last, steps = before ++ [last] ∧
        Ends hub (serve hub topics unsent before).hub.outbox.waiting before last result

theorem pumps_ungreeted (hub : Hub) (topics : List String) (reason : String) :
    Pumps hub topics (some reason) [] ((opened hub).fail reason) where
  connected := rfl
  scene := rfl
  events := rfl
  sent := ⟨rfl, rfl⟩
  outcome result := by
    constructor
    · rintro ⟨⟩
      exact .inl ⟨reason, rfl, rfl⟩
    · rintro (⟨_, ⟨⟩, rfl⟩ | ⟨before, last, split, _⟩)
      · rfl
      · simp at split

theorem pumps_of_carries {hub : Hub} {topics : List String} {steps : List LinkStep} {link : Link}
    (carries : Carries hub topics steps link)
    (outcome : ∀ result, link.outcome = some result ↔ ∃ before last, steps = before ++ [last] ∧
      Ends hub (serve hub topics none before).hub.outbox.waiting before last result) :
    Pumps hub topics none steps link where
  connected := carries.connected
  scene := carries.hears.scene
  events := carries.hears.events
  sent := carries.sends
  outcome result := (outcome result).trans (by simp)

theorem pumps_greeted {hub : Hub} {topics : List String} {live : List LinkStep}
    (up : ∀ before after, live = before ++ after → after ≠ [] →
      (serve hub topics none before).outcome = none) :
    Pumps hub topics none live (serve hub topics none live) := by
  rcases List.eq_nil_or_concat' live with rfl | ⟨before, last, rfl⟩
  · refine pumps_of_carries (carries_nil hub topics) fun result => ⟨nofun, ?_⟩
    rintro ⟨before, last, split, _⟩
    simp at split
  · have earlier := up before [last] rfl nofun
    have carries := carries_of_up earlier
    rw [serve_concat]
    refine pumps_of_carries (carries.step earlier last) fun result => ?_
    rw [step_outcome_iff carries.hears carries.sends earlier]
    constructor
    · exact fun ends => ⟨before, last, rfl, ends⟩
    · rintro ⟨other, final, split, ends⟩
      obtain ⟨rfl, same⟩ := List.append_inj' split rfl
      cases same
      exact ends

/-- The link takes steps until one of them ends it.  It is up before each of them, and each turn to
the queue sends the first message that waits, if any. -/
theorem pumps_serve (hub : Hub) (topics : List String) (unsent : Option String)
    (steps : List LinkStep) :
    let link := serve hub topics unsent steps
    ∃ live dead, steps = live ++ dead ∧ Pumps hub topics unsent live link ∧
      (link.outcome = none → dead = []) ∧
      ∀ before step after, live = before ++ step :: after →
        let earlier := serve hub topics unsent before
        earlier.outcome = none ∧ earlier.hub.connected = true ∧
          (step = .outgoing → (earlier.step step).sent =
            earlier.sent ++ earlier.hub.outbox.waiting.head?.toList) := by
  intro link
  cases unsent with
  | some reason =>
      have ended : link = (opened hub).fail reason := run_of_ended rfl steps
      refine ⟨[], steps, rfl, ?_, ?_, by simp⟩
      · rw [ended]
        exact pumps_ungreeted hub topics reason
      · rw [ended]
        nofun
  | none =>
      obtain ⟨live, dead, split, same, finished, up⟩ := exists_live _ steps
      have served : link = serve hub topics none live := same
      refine ⟨live, dead, split, ?_, ?_, ?_⟩
      · rw [served]
        exact pumps_greeted up
      · rw [served]
        exact fun running => finished.resolve_right fun ended => ended running
      · intro before step after cut earlier
        have running : earlier.outcome = none := up before (step :: after) cut nofun
        refine ⟨running, ?_, ?_⟩
        · rw [(carries_of_up running).connected, running]
          rfl
        · rintro rfl
          exact step_outgoing_sent running

theorem pumps_serve_broken :
    let steps : List LinkStep :=
      [.queued "first", .queued "second", .outgoing, .broken "reset", .outgoing]
    let link := serve .initial ["*"] none steps
    link.sent = ["[\"subscribe\",[\"*\"]]", "first"] ∧ link.hub.outbox.waiting = ["second"] ∧
      link.outcome = some (.error (.transport "reset")) ∧ link.hub.connected = false ∧
      ∃ live dead, steps = live ++ dead ∧ Pumps .initial ["*"] none live link := by
  intro steps link
  obtain ⟨live, dead, split, pumps, _, _⟩ := pumps_serve .initial ["*"] none steps
  have outcome : link.outcome = some (.error (.transport "reset")) := rfl
  refine ⟨by decide +kernel, rfl, outcome, ?_, live, dead, split, pumps⟩
  rw [pumps.connected, outcome]
  rfl

theorem run_of_connect {hub : Hub} {topics : List String} {reply : LinkReply} {link : Link}
    (connected : connect hub topics reply = .ok link) (steps : List LinkStep) :
    link.run steps = serve hub topics none steps := by
  cases reply with
  | refused reason => cases connected
  | accepted confirmed =>
      rw [connect] at connected
      split at connected <;> cases connected
      rfl

end Link

end SoundScene
