import SoundScene.Failure
import SoundScene.Json.Record

/-!
The address of the renderer, as far as a document that is fetched at the start gives it.  Where no
document is to be had the address of the settings is used.
-/

namespace SoundScene

open Json

structure Address where
  /-- The whole address; it stands before the host and the port. -/
  url : Option String := none
  host : Option String := none
  port : Option Nat := none
deriving DecidableEq, Repr

namespace Address

def shape : Shape Address where
  title := "struct Address"
  fields := [.of "url" (readOptional readText) fun address url => { address with url },
    .of "host" (readOptional readText) fun address host => { address with host },
    .of "port" (readOptional (readNat 65536 "a port")) fun address port => { address with port }]
  required := []
  initial := {}

def parse (text : String) : Except Fault Address := shape.read.whole (Cursor.ofString text)

def defaultHost : String := "localhost"

def defaultPort : Nat := 9422

def webSocketUrl (address : Address) : String :=
  address.url.getD <|
    "ws://" ++ address.host.getD defaultHost ++ ":" ++ (address.port.getD defaultPort).repr

/-- What became of the request for the document. -/
inductive Fetched where
  /-- No client for secure connections could be set up, so nothing was requested. -/
  | noClient
  | noAnswer
  | answered (status : Nat) (body : String)
deriving DecidableEq, Repr

/-- The document of an answer, unless its status reports an error. -/
def ofFetched : Fetched → Except Failure Address
  | .noClient => .error (.addressFetch "builder error")
  | .noAnswer => .error (.addressFetch "error sending request")
  | .answered status body =>
    if 400 ≤ status ∧ status < 600 then
      .error (.addressFetch ("HTTP status " ++ status.repr))
    else
      match parse body with
      | .ok address => .ok address
      | .error _ => .error (.addressFetch "error decoding response body")

/-- The address to connect to, given that of the settings and what the fetch gave, if there was
one. -/
def resolve (configured : String) (fetched : Option (Except Failure Address)) : String :=
  match fetched with
  | some (.ok address) => address.webSocketUrl
  | some (.error _) | none => configured

end Address

end SoundScene
