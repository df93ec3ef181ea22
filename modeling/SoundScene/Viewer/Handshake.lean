import SoundScene.Http.Message

/-!
The request that opens the connection of a viewer.  It has to ask for the change of protocol in
full; the first part that is missing is reported.
-/

namespace SoundScene

open Http

inductive HandshakeFault where
  | notGet
  | noConnection
  | noUpgrade
  | noKey
  | noVersion
  /-- The connection that the request came by cannot change its protocol. -/
  | notUpgradable
deriving DecidableEq, Repr

namespace HandshakeFault

def status : HandshakeFault → Nat
  | .notGet => 405
  | .noConnection | .noUpgrade | .noKey | .noVersion => 400
  | .notUpgradable => 426

def message : HandshakeFault → String
  | .notGet => "Request method must be `GET`"
  | .noConnection => "Connection header did not include 'upgrade'"
  | .noUpgrade => "`Upgrade` header did not include 'websocket'"
  | .noKey => "`Sec-WebSocket-Key` header missing"
  | .noVersion => "`Sec-WebSocket-Version` header did not include '13'"
  | .notUpgradable => "WebSocket request couldn't be upgraded since no upgrade state was present"

def occurs (part : List Char) : List Char → Bool
  | [] => part.isEmpty
  | c :: rest => part.isPrefixOf (c :: rest) || occurs part rest

/-- The fault of a request that came by a connection of its own. -/
def ofRequest (request : Request) : HandshakeFault :=
  let header (name : String) : String := ((request.headers.find? name).getD "").toLower
  if request.method ≠ "GET" then .notGet
  else if !occurs "upgrade".toList (header "connection").toList then .noConnection
  else if header "upgrade" ≠ "websocket" then .noUpgrade
  else if (request.headers.find? "sec-websocket-key").isNone then .noKey
  else if header "sec-websocket-version" ≠ "13" then .noVersion
  else .notUpgradable

def response (fault : HandshakeFault) : Response := .ofText fault.status fault.message

end HandshakeFault

end SoundScene
