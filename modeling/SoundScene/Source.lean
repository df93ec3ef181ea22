import SoundScene.Json.Typed

/-!
Sound sources and the partial updates that are made to them.
-/

namespace SoundScene

structure Source where
  id : String
  position : Position
  orientation : Orientation
  active : Bool
  name : Option String
  model : Option String
  volume : Float
  mute : Bool
  fixed : Bool
deriving DecidableEq, Repr

namespace Source

open Json

structure Patch where
  position : Option Position := none
  orientation : Option Orientation := none
  active : Option Bool := none
  name : Option String := none
  model : Option String := none
  volume : Option Float := none
  mute : Option Bool := none
  fixed : Option Bool := none
deriving DecidableEq, Repr

/-- A source before anything is said about it: at the origin and audible. -/
def initial (id : String) : Source :=
  ⟨id, Point.origin, Rotor.identity, true, none, none, 1.0, false, false⟩

def apply (source : Source) (patch : Patch) : Source where
  id := source.id
  position := patch.position.getD source.position
  orientation := patch.orientation.getD source.orientation
  active := patch.active.getD source.active
  name := patch.name.or source.name
  model := patch.model.or source.model
  volume := patch.volume.getD source.volume
  mute := patch.mute.getD source.mute
  fixed := patch.fixed.getD source.fixed

def toValue (source : Source) : Value :=
  .object [("id", .string source.id), ("pos", source.position.toValue),
    ("rot", source.orientation.toValue), ("active", .bool source.active),
    ("name", .ofOption source.name), ("model", .ofOption source.model),
    ("volume", .ofFloat source.volume), ("mute", .bool source.mute),
    ("fixed", .bool source.fixed)]

namespace Patch

def isEmpty (patch : Patch) : Bool :=
  patch.position.isNone && patch.orientation.isNone && patch.active.isNone &&
    patch.name.isNone && patch.model.isNone && patch.volume.isNone && patch.mute.isNone &&
    patch.fixed.isNone

def members (patch : Patch) : List (String × Value) :=
  patch.position.toList.map (fun position => ("pos", position.toValue)) ++
    patch.orientation.toList.map (fun orientation => ("rot", orientation.toValue)) ++
    patch.active.toList.map (fun active => ("active", .bool active)) ++
    patch.name.toList.map (fun name => ("name", .string name)) ++
    patch.model.toList.map (fun model => ("model", .string model)) ++
    patch.volume.toList.map (fun volume => ("volume", .ofFloat volume)) ++
    patch.mute.toList.map (fun mute => ("mute", .bool mute)) ++
    patch.fixed.toList.map (fun fixed => ("fixed", .bool fixed))

def toValue (patch : Patch) : Value := .ofMembers patch.members

/-- Reads one attribute into a patch; an attribute that is not known is passed over. -/
def addMember (patch : Patch) (member : String × Value) : Except Mismatch Patch :=
  if member.1 = "pos" then do
    pure { patch with position := some (← Point.ofValue member.2) }
  else if member.1 = "rot" then do
    pure { patch with orientation := some (← Rotor.ofValue member.2) }
  else if member.1 = "active" then do
    pure { patch with active := some (← member.2.toBool) }
  else if member.1 = "name" then do
    pure { patch with name := some (← member.2.toText) }
  else if member.1 = "model" then do
    pure { patch with model := some (← member.2.toText) }
  else if member.1 = "volume" then do
    pure { patch with volume := some (← member.2.toFloat) }
  else if member.1 = "mute" then do
    pure { patch with mute := some (← member.2.toBool) }
  else if member.1 = "fixed" then do
    pure { patch with fixed := some (← member.2.toBool) }
  else .ok patch

end Patch

end Source

end SoundScene
