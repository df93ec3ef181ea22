import SoundScene.Hub

/-!
The link to the renderer.  It first subscribes to topics, and then carries texts both ways until the
renderer closes it, it breaks, a text is refused, or nobody is left who could queue a message.
-/

namespace SoundScene

/-- The dialect of messages that is asked for when the link is opened. -/
def dialect : String := "ssr-json"

inductive LinkStep where
  | text (text : String)
  /-- The renderer sends something that is no text. -/
  | noText
  | closed
  | broken (reason : String)
  | queued (text : String)
  /-- Nobody is left who could queue a message. -/
  | abandoned
  /-- The link turns to the queue. -/
  | outgoing
  /-- The link turns to the queue, and sending the message fails. -/
  | unsent (reason : String)
deriving DecidableEq, Repr

structure Link where
  hub : Hub
  sent : List String
  events : List Event
  attended : Bool
  outcome : Option (Except Failure Unit)

namespace Link

def greeting (topics : List String) : String := Message.encode [.subscribe topics]

def finish (link : Link) (result : Except Failure Unit) : Link :=
  { link with hub := { link.hub with connected := false }, outcome := some result }

def fail (link : Link) (reason : String) : Link := link.finish (.error (.transport reason))

/-- Handles a text of the renderer.  One that is refused ends the link, with what it did so far. -/
def takeText (link : Link) (text : String) : Link :=
  let handled := link.hub.handle text
  let next := { link with hub := handled.hub, events := link.events ++ handled.events }
  match handled.answer with
  | .ok _ => next
  | .error failure => next.finish (.error failure)

def sendNext (link : Link) : Link :=
  match link.hub.outbox.take with
  | (some text, outbox) =>
    { link with hub := { link.hub with outbox }, sent := link.sent ++ [text] }
  | (none, _) => if link.attended then link else link.finish (.ok ())

def enqueue (link : Link) (text : String) : Link :=
  let outbox := link.hub.outbox
  let waiting := outbox.waiting ++ [text]
  { link with hub := { link.hub with outbox := { outbox with waiting } } }

/-- One step of a link; after its end nothing more happens. -/
def step (link : Link) (step : LinkStep) : Link :=
  match link.outcome with
  | some _ => link
  | none =>
    match step with
    | .text text => link.takeText text
    | .noText => link
    | .closed => link.finish (.ok ())
    | .broken reason => link.fail reason
    | .queued text => if link.attended then link.enqueue text else link
    | .abandoned => { link with attended := false }
    | .outgoing => link.sendNext
    | .unsent reason =>
      match link.hub.outbox.take with
      | (some _, outbox) => { link with hub := { link.hub with outbox } }.fail reason
      | (none, _) => link

def run (link : Link) (steps : List LinkStep) : Link := steps.foldl step link

def opened (hub : Hub) : Link := ⟨{ hub with connected := true }, [], [], true, none⟩

/-- Greets the renderer.  A greeting that cannot be sent, for some reason, ends the link. -/
def greet (link : Link) (topics : List String) : Option String → Link
  | none => { link with sent := link.sent ++ [greeting topics] }
  | some reason => link.fail reason

/-- A whole link: it is opened, the renderer is greeted, and then it takes steps. -/
def serve (hub : Hub) (topics : List String) (unsent : Option String) (steps : List LinkStep) :
    Link :=
  ((opened hub).greet topics unsent).run steps

def flush (link : Link) : Link :=
  link.run (List.replicate link.hub.outbox.waiting.length .outgoing)

end Link

inductive LinkReply where
  /-- There is nobody to connect to, or the request fails. -/
  | refused (reason : String)
  /-- The renderer agrees and names the dialect that it will speak, if any. -/
  | accepted (dialect : Option String)
deriving DecidableEq, Repr

/-- The link is opened only with a renderer that speaks the dialect; else all stays as it is. -/
def Link.connect (hub : Hub) (topics : List String) : LinkReply → Except Failure Link
  | .refused reason => .error (.transport reason)
  | .accepted confirmed =>
    if confirmed = some dialect then .ok ((opened hub).greet topics none)
    else .error (.transport "the server sent no subprotocol")

end SoundScene
