import SoundScene.Json.Record
import SoundScene.Timestamp

/-!
Envelopes: what a viewer and this side send each other.  An envelope that is sent carries the time
as a text; one that is received carries a time that was understood.
-/

namespace SoundScene

open Json

inductive EnvelopeKind where
  | command
  | response
  | event
  | error
deriving DecidableEq, Repr

namespace EnvelopeKind

def name : EnvelopeKind → String
  | .command => "command"
  | .response => "response"
  | .event => "event"
  | .error => "error"

def all : List EnvelopeKind := [.command, .response, .event, .error]

def expected : String := "one of command, response, event, error"

def ofName (name : String) : Except Mismatch EnvelopeKind :=
  match all.find? (·.name = name) with
  | some kind => .ok kind
  | none => .error (.wrongKind (.string name) expected)

/-- Reads the single member of an object, whose value is `null`. -/
def readMember : Reader EnvelopeKind := fun start => do
  let key ← (readText.refine ofName) start.advance
  let colon ← readColon key.next
  let held ← readNull colon.next
  let here := held.next.skipBlanks
  if here.rest.head? = some (.char '}') then
    let stop := (colon.after held).onward.goTo held.next.pastPiece
    pure (key.goTo stop).ofAdvance
  else malformed .expectedValue here.past

/-- A kind is its name, or an object of the name alone without a value. -/
def read : Reader EnvelopeKind := fun start =>
  let here := start.skipBlanks
  if here.rest.head? = some (.char '{') then do
    let kind ← readMember here
    pure kind.ofBlanks
  else readText.refine ofName start

end EnvelopeKind

def envelope (id : String) (kind : EnvelopeKind) (stamp : String) (payload : Value) : Value :=
  .object [("id", .string id), ("type", .string kind.name), ("timestamp", .string stamp),
    ("payload", payload)]

structure Envelope where
  id : String
  kind : EnvelopeKind
  timestamp : Timestamp
  payload : Value
deriving DecidableEq, Repr

namespace Envelope

def readTimestamp : Reader Timestamp := readText.refine fun text =>
  match Timestamp.parse text with
  | some moment => .ok moment
  | none => .error (.invalidText text)

/-- All but the id have to be given. -/
def shape : Shape Envelope where
  title := "struct ViewerMessage"
  fields := [.of "id" readText fun envelope id => { envelope with id },
    .of "type" EnvelopeKind.read fun envelope kind => { envelope with kind },
    .of "timestamp" readTimestamp fun envelope timestamp => { envelope with timestamp },
    .of "payload" (readValue (depthLimit - 1)) fun envelope payload => { envelope with payload }]
  required := ["type", "timestamp", "payload"]
  initial := ⟨"", .command, .epoch, .null⟩

def parse (text : String) : Except Fault Envelope := shape.read.whole (Cursor.ofString text)

def toValue (held : Envelope) : Value :=
  envelope held.id held.kind held.timestamp.text held.payload

end Envelope

end SoundScene
