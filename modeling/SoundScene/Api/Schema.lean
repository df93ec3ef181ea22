import SoundScene.Json.Value

/-!
Descriptions of the values that requests and responses carry.
-/

namespace SoundScene.Api

open Json

inductive Form where
  | text
  | flag
  | real
  | count
  | reals
  | record (name : String)
  | records (name : String)
deriving DecidableEq, Repr

namespace Form

def reference (name : String) : List (String × Value) :=
  [("$ref", .string ("#/components/schemas/" ++ name))]

def kind? : Form → Option String
  | .text => some "string"
  | .flag => some "boolean"
  | .real => some "number"
  | .count => some "integer"
  | .reals | .records _ => some "array"
  | .record _ => none

def realDetails : List (String × Value) := [("format", .string "double")]

def details : Form → List (String × Value)
  | .text | .flag => []
  | .real => realDetails
  | .count => [("format", .string "int32"), ("minimum", .ofNat 0)]
  | .reals => [("items", .ofMembers (("type", .string "number") :: realDetails))]
  | .record name => reference name
  | .records name => [("items", .ofMembers (reference name))]

def members (form : Form) (nullable : Bool) : List (String × Value) :=
  let kind := form.kind?.toList.map fun kind =>
    ("type", if nullable then .ofStrings [kind, "null"] else .string kind)
  kind ++ form.details

def toValue (form : Form) : Value := .ofMembers (form.members false)

end Form

/-- Whether a property always has a value of its form, or may be missing or `null`. -/
inductive Presence where
  | required
  | nullable
deriving DecidableEq, Repr

structure Property where
  name : String
  form : Form
  presence : Presence
  description : String
deriving DecidableEq, Repr

def described (description : String) : List (String × Value) :=
  if description.isEmpty then [] else [("description", .string description)]

namespace Property

def toValue (property : Property) : Value :=
  .ofMembers (property.form.members (property.presence = .nullable) ++
    described property.description)

end Property

structure RecordSchema where
  name : String
  description : String
  properties : List Property
deriving DecidableEq, Repr

namespace RecordSchema

def requiredNames (schema : RecordSchema) : List String :=
  (schema.properties.filter (·.presence = .required)).map (·.name)

def toValue (schema : RecordSchema) : Value :=
  let properties := schema.properties.map fun property => (property.name, property.toValue)
  let required := if schema.requiredNames.isEmpty then []
    else [("required", .ofStrings schema.requiredNames)]
  .ofMembers ([("type", .string "object"), ("properties", .ofMembers properties)] ++
    described schema.description ++ required)

end RecordSchema

end SoundScene.Api
