import SoundScene.Api.Endpoint
import SoundScene.Api.Move
import SoundScene.Http.MediaType
import SoundScene.Http.Percent
import SoundScene.Viewer.Handshake

/-!
The service that answers requests about the scene.  Of several faults of a request the first in this
order is reported: the path, the method, the id, the kind of the body, the body, the lengths of its
lists, the gesture, the source.
-/

namespace SoundScene

open Json Http

structure Served where
  response : Response
  events : List Event
  hub : Hub

namespace Api

def version : String := "0.1.0"

def health (hub : Hub) (now : String) : Value :=
  .object [("status", .string "healthy"), ("timestamp", .string now),
    ("version", .string version), ("ssr_connected", .bool hub.connected)]

def ofAnswer (answer : Except Failure Value) : Response :=
  match answer with
  | .ok value => .ofValue 200 value
  | .error failure => .ofValue failure.status failure.toValue

def idOf (piece : String) : Except Response String :=
  match percentDecode piece with
  | some id => .ok id
  | none => .error (.ofText 400 "Invalid URL: Invalid UTF-8 in `id`")

def bodyLimit : Nat := 2097152

def bodyFault (fault : Fault) : Response :=
  if fault.isFlaw then
    .ofText 400 ("Failed to parse the request body as JSON: " ++ fault.messageWithPath)
  else
    .ofText 422
      ("Failed to deserialize the JSON body into the target type: " ++ fault.messageWithPath)

def announcesJson (headers : Headers) : Bool :=
  ((headers.find? "content-type").bind MediaType.parse).any MediaType.isJson

def readBody (request : Request) : Except Response PoseRequest :=
  if !announcesJson request.headers then
    .error (.ofText 415 "Expected request with `Content-Type: application/json`")
  else if bodyLimit < request.body.length then
    .error (.ofText 413 "Failed to buffer the request body: length limit exceeded")
  else (PoseRequest.read.whole (Cursor.ofBytes request.body)).mapError bodyFault

def look (hub : Hub) (response : Response) : Served := ⟨response, [], hub⟩

def serveMove (hub : Hub) (target : Except Response Target) (request : Request) : Served :=
  let asked := do
    let target ← target
    let body ← readBody request
    pure (target, body)
  match asked with
  | .error response => look hub response
  | .ok (target, body) =>
    let outcome := hub.move target body
    ⟨ofAnswer outcome.answer, outcome.events, outcome.hub⟩

def serveEndpoint (hub : Hub) (now : String) (request : Request) : Endpoint → Served
  | .health => look hub (.ofValue 200 (health hub now))
  | .scene => look hub (.ofValue 200 (hub.scene.snapshot.report hub.connected))
  | .sources => look hub (.ofValue 200 (sourceList hub.scene.sources.values))
  | .source piece => look hub <|
    match idOf piece with
    | .error response => response
    | .ok id => ofAnswer ((hub.source id).map fun source => source.report.toValue)
  | .moveSource piece => serveMove hub ((idOf piece).map .source) request
  | .moveReference => serveMove hub (.ok .reference) request
  | .moveOffset => serveMove hub (.ok .offset) request
  | .viewers => look hub (HandshakeFault.ofRequest request).response

def allow (endpoint : Option Endpoint) : Headers :=
  endpoint.toList.map fun endpoint => ("allow", ",".intercalate endpoint.methods)

def anyOrigin : Headers := [("access-control-allow-origin", "*")]

/-- Pages of every origin may ask for everything. -/
def preflight (endpoint : Option Endpoint) : Response :=
  let anything : Headers :=
    [("access-control-allow-methods", "*"), ("access-control-allow-headers", "*")]
  ⟨200, anyOrigin ++ anything ++ allow endpoint, ""⟩

def expose (served : Served) : Served :=
  { served with
    response := served.response.withHeaders
      (anyOrigin ++ [("access-control-expose-headers", "*")]) }

def withoutBody (served : Served) : Served :=
  { served with response := served.response.withoutBody }

def serve (hub : Hub) (now : String) (request : Request) : Served :=
  let endpoint := Endpoint.ofTarget request.target
  if request.method = "OPTIONS" then look hub (preflight endpoint)
  else expose <|
    match endpoint with
    | none => look hub (.ofStatus 404)
    | some endpoint =>
      if !endpoint.methods.contains request.method then
        look hub ((Response.ofStatus 405).withHeaders (allow endpoint))
      else
        let served := serveEndpoint hub now request endpoint
        if request.method = "HEAD" then withoutBody served else served

end Api

end SoundScene
