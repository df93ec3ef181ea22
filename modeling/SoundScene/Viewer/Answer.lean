import SoundScene.Filter
import SoundScene.Viewer.Envelope
import SoundScene.Viewer.Request

/-!
What a viewer is sent: one reply for each text that it sends, and an envelope for each event that
its filter shows.
-/

namespace SoundScene

open Json

namespace Filter

def counts (filter : Filter) (countName : String) : List (String × Value) :=
  [(countName, .ofNat filter.followed.length), ("excluded_count", .ofNat filter.muted.length),
    ("wildcard", .bool filter.all)]

def apply (filter : Filter) : ViewerRequest → Filter
  | .subscribe ids => filter.subscribe ids
  | .unsubscribe ids => filter.unsubscribe ids

def summary (filter : Filter) : ViewerRequest → Value
  | .subscribe ids => .ofMembers (("subscribed", .ofStrings ids) :: filter.counts "count")
  | .unsubscribe ids =>
    .ofMembers (("unsubscribed", .ofStrings ids) :: filter.counts "remaining_count")

end Filter

inductive ViewerFault where
  | malformed
  | unknownCommand
  | nothingListed
deriving DecidableEq, Repr

namespace ViewerFault

def code : ViewerFault → Nat
  | .malformed | .nothingListed => 400
  | .unknownCommand => 404

def message : ViewerFault → String
  | .malformed => "malformed JSON"
  | .unknownCommand => "unknown command"
  | .nothingListed => "source_ids must not be empty"

def toValue (fault : ViewerFault) : Value :=
  .ofMembers [("code", .ofNat fault.code), ("message", .string fault.message)]

end ViewerFault

structure ViewerReply where
  id : String
  content : Except ViewerFault Value

namespace ViewerReply

def toValue (reply : ViewerReply) (now : String) : Value :=
  match reply.content with
  | .ok payload => envelope reply.id .response now payload
  | .error fault => envelope reply.id .error now fault.toValue

end ViewerReply

namespace Filter

/-- Answers a request; one that is refused leaves the filter as it is. -/
def answerRequest (filter : Filter) (id : String) (request : Option ViewerRequest) :
    ViewerReply × Filter :=
  match request with
  | none => (⟨id, .error .unknownCommand⟩, filter)
  | some (.subscribe []) => (⟨id, .error .nothingListed⟩, filter)
  | some request =>
    let filter := filter.apply request
    (⟨id, .ok (filter.summary request)⟩, filter)

def answerText (filter : Filter) (text : String) : ViewerReply × Filter :=
  match Envelope.parse text with
  | .error _ => (⟨"", .error .malformed⟩, filter)
  | .ok received => filter.answerRequest received.id (ViewerRequest.ofValue received.payload)

end Filter

def Event.inEnvelope (event : Event) (now : String) : Value :=
  envelope "" .event now (event.toValue now).sorted

end SoundScene
