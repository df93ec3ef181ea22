import SoundScene.Viewer.Answer

/-!
The connection of a viewer.  Texts of the viewer and published events come in, in any order.  Each
text gets one reply, and each event that the filter shows at that moment is sent in an envelope.
-/

namespace SoundScene

inductive Frame where
  | reply (reply : ViewerReply)
  | event (event : Event)

def Frame.toValue (frame : Frame) (now : String) : Json.Value :=
  match frame with
  | .reply answer => answer.toValue now
  | .event told => told.inEnvelope now

inductive Incoming where
  | text (text : String)
  /-- The viewer sends something that is no text. -/
  | noText
  /-- The feed hands out an event. -/
  | event (event : Event)
  /-- The feed tells how many events were lost. -/
  | lost (count : Nat)
  /-- The viewer closes the connection, or its stream ends. -/
  | closed
deriving DecidableEq, Repr

/-- What is sent for something that comes in, and the filter after it. -/
def Filter.respond (filter : Filter) : Incoming → Option Frame × Filter
  | .text text =>
    let (reply, filter) := filter.answerText text
    (some (.reply reply), filter)
  | .event event => (if filter.shows event then some (.event event) else none, filter)
  | .noText | .lost _ | .closed => (none, filter)

structure Connection where
  filter : Filter
  sent : List Frame
  isOpen : Bool

namespace Connection

def initial : Connection := ⟨.initial, [], true⟩

instance : Inhabited Connection := ⟨initial⟩

/-- Sends a frame if there is one.  The connection ends with a frame that does not arrive. -/
def send (connection : Connection) (frame : Option Frame) (arrives : Bool) : Connection :=
  match frame with
  | none => connection
  | some frame =>
    if arrives then { connection with sent := connection.sent ++ [frame] }
    else { connection with isOpen := false }

/-- Takes up what comes in.  A frame that is sent for it may fail to arrive. -/
def take (connection : Connection) (incoming : Incoming) (arrives : Bool) : Connection :=
  if !connection.isOpen then connection
  else if incoming = .closed then { connection with isOpen := false }
  else
    let (frame, filter) := connection.filter.respond incoming
    { connection with filter }.send frame arrives

def takeAll (connection : Connection) (incoming : List Incoming) : Connection :=
  incoming.foldl (fun connection incoming => connection.take incoming true) connection

end Connection

end SoundScene
