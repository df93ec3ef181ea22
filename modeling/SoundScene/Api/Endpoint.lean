import SoundScene.Text.Split

/-!
The paths that requests are made to, and the methods of each.
-/

namespace SoundScene

/-- What a path stands for; ids are as they stand in the path, still percent-encoded. -/
inductive Endpoint where
  | health
  | scene
  | sources
  | source (id : String)
  | moveSource (id : String)
  | moveReference
  | moveOffset
  | viewers
deriving DecidableEq, Repr

namespace Endpoint

def isSchemeChar (c : Char) : Bool := c.isAlphanum || c = '+' || c = '-' || c = '.'

def endsPath (c : Char) : Bool := c = '?' || c = '#'

/-- The target as it is for the host that is asked.  One that starts with a scheme and a host loses
both. -/
def withoutHost (target : List Char) : List Char :=
  match target.dropWhile isSchemeChar with
  | ':' :: '/' :: '/' :: rest => rest.dropWhile fun c => !(c = '/' || endsPath c)
  | _ => target

def pathOf (target : String) : List Char :=
  (withoutHost target.toList).takeWhile fun c => !endsPath c

/-- The endpoint of a path in pieces.  An id is one piece; one that ends the path is not empty. -/
def ofPieces : List String → Option Endpoint
  | ["", "health"] => some .health
  | ["", "ws"] => some .viewers
  | ["", "api", "v1", "scene"] => some .scene
  | ["", "api", "v1", "sources"] => some .sources
  | ["", "api", "v1", "reference", "pose"] => some .moveReference
  | ["", "api", "v1", "reference", "offset"] => some .moveOffset
  | ["", "api", "v1", "sources", id] => if id.isEmpty then none else some (.source id)
  | ["", "api", "v1", "sources", id, "pose"] => some (.moveSource id)
  | _ => none

def ofTarget (target : String) : Option Endpoint :=
  ofPieces ((Text.pieces '/' (pathOf target)).map String.ofList)

example : ofTarget "http://[::1]:80/health?full" = some .health := by decide +kernel

example : ofTarget "/api/v1/sources//pose" = some (.moveSource "") ∧
    ofTarget "/api/v1/sources/" = none := by decide +kernel

/-- A gesture is made with `PUT`; everything else is read, with `GET` or `HEAD`. -/
def methods : Endpoint → List String
  | .moveSource _ | .moveReference | .moveOffset => ["PUT"]
  | .health | .scene | .sources | .source _ | .viewers => ["GET", "HEAD"]

end Endpoint

end SoundScene
