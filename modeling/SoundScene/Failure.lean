import SoundScene.Json.Fault

/-!
Everything that can go wrong, with the message, the number and the HTTP status it is reported by.
Numbers from 1000 are faults of a text or request, from 2000 conflicts with the scene, from 3000
faults of the link, of the fetched address or of the settings.
-/

namespace SoundScene

inductive Failure where
  | json (fault : Json.Fault)
  | invalidMessage (reason : String)
  | missingPayload (command : String)
  | unknownCommand (name : String)
  | invalidAttribute (name reason : String)
  | invalidRequest (reason : String)
  | sourceExists (id : String)
  | sourceNotFound (id : String)
  | loudspeakersExist
  | transport (reason : String)
  | addressFetch (reason : String)
  | settings (reason : String)
deriving DecidableEq, Repr

namespace Failure

def message : Failure → String
  | .json fault => "unable to parse JSON: " ++ fault.message
  | .invalidMessage reason => "invalid message: " ++ reason
  | .missingPayload command => "no data for \"" ++ command ++ "\" command"
  | .unknownCommand name => "unknown command: \"" ++ name ++ "\""
  | .invalidAttribute name reason =>
    "invalid value for \"" ++ name ++ "\": " ++ reason
  | .invalidRequest reason => "invalid request: " ++ reason
  | .sourceExists id => "source \"" ++ id ++ "\" already exists"
  | .sourceNotFound id => "source \"" ++ id ++ "\" does not exist"
  | .loudspeakersExist => "loudspeakers already exist"
  | .transport reason => "transport error: " ++ reason
  | .addressFetch reason => "config fetch failed: " ++ reason
  | .settings reason => "invalid configuration: " ++ reason

def code : Failure → Nat
  | .json _ => 1000
  | .invalidMessage _ => 1001
  | .missingPayload _ => 1002
  | .unknownCommand _ => 1003
  | .invalidAttribute .. => 1004
  | .invalidRequest _ => 1005
  | .sourceExists _ => 2001
  | .sourceNotFound _ => 2002
  | .loudspeakersExist => 2003
  | .transport _ => 3001
  | .addressFetch _ => 3002
  | .settings _ => 3003

def status : Failure → Nat
  | .json _ | .invalidMessage _ | .missingPayload _ | .unknownCommand _ | .invalidAttribute ..
  | .invalidRequest _ => 400
  | .sourceNotFound _ => 404
  | .sourceExists _ | .loudspeakersExist => 409
  | .transport _ | .addressFetch _ => 502
  | .settings _ => 500

def toValue (failure : Failure) : Json.Value :=
  .object [("error", .object [("code", .ofNat failure.code), ("message", .string failure.message)])]

def ofMismatch (name : String) (mismatch : Json.Mismatch) : Failure :=
  .invalidAttribute name mismatch.message

end Failure

end SoundScene
