import SoundScene.Api.Schema
import SoundScene.Api.Service

/-!
The document that describes the service to its clients, in the OpenAPI format.
-/

namespace SoundScene.Api

open Json

def poseName : String := "PoseDto"

def sourceName : String := "SourceDto"

def referenceName : String := "ReferenceDto"

def loudspeakerName : String := "LoudspeakerDto"

def sceneName : String := "SceneDto"

def requestName : String := "PoseUpdateRequest"

def healthName : String := "HealthResponse"

def errorName : String := "ErrorResponse"

def errorBodyName : String := "ErrorBody"

def positionProperty : Property := ⟨"pos", .reals, .required, "`[x, y, z]`"⟩

def orientationProperty : Property := ⟨"rot", .reals, .required, "`[x, y, z, w]`"⟩

def errorExample : String :=
  "Structured JSON error response body.\n\n```json\n\x7b\n  \"error\": \x7b\n" ++
    "    \"code\": 2002,\n" ++
    "    \"message\": \"source \\\"vocals\\\" does not exist\"\n  \x7d\n\x7d\n```"

def records : List RecordSchema := [
  ⟨healthName, "Health check response.",
    [⟨"status", .text, .required, ""⟩, ⟨"timestamp", .text, .required, ""⟩,
      ⟨"version", .text, .required, ""⟩, ⟨"ssr_connected", .flag, .required, ""⟩]⟩,
  ⟨sceneName, "Response body for `GET /scene`.",
    [⟨"connected", .flag, .required, "Whether the SSR link is up."⟩,
      ⟨"reference", .record referenceName, .required, "Reference and offset."⟩,
      ⟨"loudspeakers", .records loudspeakerName, .required,
        "Loudspeakers (empty until the renderer sends them)."⟩,
      ⟨"sources", .records sourceName, .required, "Live sources in id order."⟩]⟩,
  ⟨sourceName, "One source as returned by the API.",
    [⟨"id", .text, .required, "Source id."⟩, positionProperty, orientationProperty,
      ⟨"active", .flag, .required, "Whether the source is shown."⟩,
      ⟨"name", .text, .nullable, "Human-readable name."⟩,
      ⟨"model", .text, .nullable, "Source model."⟩,
      ⟨"volume", .real, .required, "Linear volume factor."⟩,
      ⟨"mute", .flag, .required, "Mute state."⟩, ⟨"fixed", .flag, .required, "Fixed state."⟩]⟩,
  ⟨referenceName, "Reference with its offset, both relative and resolved.",
    [positionProperty, orientationProperty,
      ⟨"offset", .record poseName, .required, "Offset relative to the reference."⟩,
      ⟨"offset_in_scene", .record poseName, .required, "Offset in scene coordinates."⟩]⟩,
  ⟨loudspeakerName, "One loudspeaker with its resolved scene pose.",
    [⟨"relative", .record poseName, .required, "Pose relative to the reference."⟩,
      ⟨"in_scene", .record poseName, .required, "Pose in scene coordinates."⟩,
      ⟨"model", .text, .nullable, "Loudspeaker model."⟩]⟩,
  ⟨poseName, "A pose as number lists.", [positionProperty, orientationProperty]⟩,
  ⟨requestName,
    "Request body of the gesture endpoints.\n\nAt least one of `pos` and `rot` must be present.",
    [⟨"pos", .reals, .nullable, "New position, `[x, y]` or `[x, y, z]`."⟩,
      ⟨"rot", .reals, .nullable, "New orientation quaternion, `[x, y, z, w]`."⟩]⟩,
  ⟨errorName, errorExample,
    [⟨"error", .record errorBodyName, .required, "Structured error payload."⟩]⟩,
  ⟨errorBodyName, "Inner error body with numeric code and human-readable message.",
    [⟨"code", .count, .required, "Numeric error code."⟩,
      ⟨"message", .text, .required, "Human-readable error message."⟩]⟩]

inductive Tag where
  | system
  | scene
  | gestures
deriving DecidableEq, Repr

namespace Tag

def name : Tag → String
  | .system => "System"
  | .scene => "Scene"
  | .gestures => "Gestures"

def description : Tag → String
  | .system => "Health"
  | .scene => "Mirrored scene state"
  | .gestures => "Operator edits sent to the renderer"

def toValue (tag : Tag) : Value :=
  .ofMembers [("name", .string tag.name), ("description", .string tag.description)]

end Tag

structure ResponseSchema where
  status : Nat
  description : String
  form : Form
deriving DecidableEq, Repr

def jsonContent (form : Form) : Value :=
  .ofMembers [("application/json", .ofMembers [("schema", form.toValue)])]

def ResponseSchema.toValue (response : ResponseSchema) : Value :=
  .ofMembers [("description", .string response.description),
    ("content", jsonContent response.form)]

structure Operation where
  path : String
  method : String
  id : String
  tag : Tag
  summary : String
  description : String
  responses : List ResponseSchema
deriving DecidableEq, Repr

namespace Operation

def parameters (operation : Operation) : List (String × Value) :=
  if operation.path.toList.contains '\x7b' then
    [("parameters", .list [.ofMembers [("name", .string "id"), ("in", .string "path"),
      ("description", .string "Source id"), ("required", .bool true),
      ("schema", Form.text.toValue)]])]
  else []

def requestBody (operation : Operation) : List (String × Value) :=
  if operation.tag = .gestures then
    [("requestBody", .ofMembers [("content", jsonContent (.record requestName)),
      ("required", .bool true)])]
  else []

def toValue (operation : Operation) : Value :=
  let responses := operation.responses.map fun response =>
    (response.status.repr, response.toValue)
  .ofMembers [(operation.method, .ofMembers (
    [("operationId", .string operation.id), ("tags", .ofStrings [operation.tag.name]),
      ("summary", .string operation.summary), ("responses", .ofMembers responses)] ++
    described operation.description ++ operation.parameters ++ operation.requestBody))]

end Operation

def badPose : ResponseSchema := ⟨400, "Invalid pose", .record errorName⟩

def noSource : ResponseSchema := ⟨404, "Source not found", .record errorName⟩

def operations : List Operation := [
  ⟨"/health", "get", "health_handler", .system, "Health check",
    "Returns service health, version, current timestamp, and whether the SSR link is up.",
    [⟨200, "Service is healthy", .record healthName⟩]⟩,
  ⟨"/api/v1/scene", "get", "get_scene", .scene, "Get the scene",
    "Returns the mirrored scene: reference with offset, loudspeakers resolved against the " ++
      "reference, and all live sources.",
    [⟨200, "Scene snapshot", .record sceneName⟩]⟩,
  ⟨"/api/v1/sources", "get", "list_sources", .scene, "List sources",
    "Returns all live sources in id order.",
    [⟨200, "Source list", .records sourceName⟩]⟩,
  ⟨"/api/v1/sources/\x7bid\x7d", "get", "get_source", .scene, "Get source",
    "# Errors\n\nReturns [`ClientError::SourceNotFound`] if the source does not exist.",
    [⟨200, "Source details", .record sourceName⟩, noSource]⟩,
  ⟨"/api/v1/sources/\x7bid\x7d/pose", "put", "move_source", .gestures, "Move a source",
    "Applies the new position and/or orientation and sends one `mod-src` message to the renderer.",
    [⟨200, "Updated source", .record sourceName⟩, badPose, noSource]⟩,
  ⟨"/api/v1/reference/pose", "put", "move_reference", .gestures, "Move the reference",
    "Applies the new reference pose and sends one `state` message with `ref-pos`/`ref-rot`.",
    [⟨200, "Updated reference", .record referenceName⟩, badPose]⟩,
  ⟨"/api/v1/reference/offset", "put", "move_reference_offset", .gestures,
    "Move the reference offset",
    "Applies the new offset pose and sends one `state` message with " ++
      "`ref-pos-offset`/`ref-rot-offset`.",
    [⟨200, "Updated reference", .record referenceName⟩, badPose]⟩]

def info : Value :=
  .ofMembers [("title", .string "ssr-scene-client"), ("version", .string version),
    ("description", .string "Local API of the SoundScape Renderer scene client"),
    ("license", .ofMembers [("name", .string "MIT"), ("identifier", .string "MIT")])]

def document : Value :=
  .ofMembers [("openapi", .string "3.1.0"), ("info", info),
    ("paths", .ofMembers (operations.map fun operation => (operation.path, operation.toValue))),
    ("components", .ofMembers [("schemas",
      .ofMembers (records.map fun schema => (schema.name, schema.toValue)))]),
    ("tags", .list ([Tag.system, .scene, .gestures].map Tag.toValue))]

end SoundScene.Api
