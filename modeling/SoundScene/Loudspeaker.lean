import SoundScene.Json.Geometry

/-!
Loudspeakers, placed relative to the reference.
-/

namespace SoundScene

structure Loudspeaker where
  pos : Position
  rot : Orientation
  model : Option String
deriving DecidableEq, Repr

namespace Loudspeaker

open Json

def pose (loudspeaker : Loudspeaker) : Pose Float := ⟨loudspeaker.pos, loudspeaker.rot⟩

/-- A model is shown only where there is one. -/
def toValue (loudspeaker : Loudspeaker) : Value :=
  .object ([("pos", loudspeaker.pos.toValue), ("rot", loudspeaker.rot.toValue)] ++
    loudspeaker.model.toList.map fun model => ("model", .string model))

structure Draft where
  pos : Option Position := none
  rot : Option Orientation := none
  model : Option String := none

/-- The position is needed; the orientation is the identity when it is not given. -/
def Draft.finish (draft : Draft) (missing : Mismatch) : Except Mismatch Loudspeaker :=
  match draft.pos with
  | some pos => .ok ⟨pos, draft.rot.getD Rotor.identity, draft.model⟩
  | none => .error missing

/-- Reads a member; one with another key is passed over. -/
def Draft.addMember (draft : Draft) (member : String × Value) : Except Mismatch Draft :=
  if member.1 = "pos" then do
    pure { draft with pos := some (← Point.ofValue member.2) }
  else if member.1 = "rot" then do
    pure { draft with rot := some (← Rotor.ofValue member.2) }
  else if member.1 = "model" then do
    pure { draft with model := ← member.2.toOptional Value.toText }
  else .ok draft

def title : String := "struct Loudspeaker"

/-- Reads the parts in the order position, orientation, model; the last two may be left out. -/
def ofItems (items : List Value) : Except Mismatch Loudspeaker := do
  let pos ← items[0]?.mapM Point.ofValue
  let rot ← items[1]?.mapM Rotor.ofValue
  let model ← items[2]?.mapM (Value.toOptional Value.toText)
  let whole ← Draft.finish ⟨pos, rot, model.join⟩ (.tooShort 0 (title ++ " with 3 elements"))
  if 3 < items.length then .error (.tooLong items.length) else pure whole

/-- A loudspeaker is an object, or the list of its parts. -/
def ofValue : Value → Except Mismatch Loudspeaker
  | .object members => do
    let draft ← members.foldlM Draft.addMember {}
    draft.finish (.missingField "pos")
  | .list items => ofItems items
  | other => .error (.wrongKind other.found title)

def shape : Shape Draft where
  title := title
  fields := [.of "pos" Point.read fun draft pos => { draft with pos := some pos },
    .of "rot" Rotor.read fun draft rot => { draft with rot := some rot },
    .of "model" (readOptional readText) fun draft model => { draft with model }]
  required := ["pos"]
  initial := {}

def read : Reader Loudspeaker := shape.read.refine fun draft => draft.finish (.missingField "pos")

def listOfValue : Value → Except Mismatch (List Loudspeaker)
  | .list items => items.mapM ofValue
  | other => .error (.wrongKind other.found "a sequence")

end Loudspeaker

end SoundScene
