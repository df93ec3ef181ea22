import SoundScene.Failure
import SoundScene.Loudspeaker
import SoundScene.Reference
import SoundScene.Source

/-!
The commands that the renderer and this side send each other, and their payloads.  `Command.decode`
reads a payload under a command's name, `Command.payload` writes it.  Writing collapses what a
payload cannot hold twice: of the entries with one name, or one source id, the last stays.
-/

namespace SoundScene

open Json

inductive StateEntry where
  | loudspeakers (set : List Loudspeaker)
  | position (position : Position)
  | orientation (orientation : Orientation)
  | offsetPosition (position : Position)
  | offsetOrientation (orientation : Orientation)
  | other (name : String) (value : Value)
deriving DecidableEq, Repr

namespace StateEntry

def name : StateEntry → String
  | .loudspeakers _ => "loudspeakers"
  | .position _ => "ref-pos"
  | .orientation _ => "ref-rot"
  | .offsetPosition _ => "ref-pos-offset"
  | .offsetOrientation _ => "ref-rot-offset"
  | .other name _ => name

def toValue : StateEntry → Value
  | .loudspeakers set => .list (set.map fun loudspeaker => loudspeaker.toValue.sorted)
  | .position point | .offsetPosition point => point.toValue
  | .orientation rotor | .offsetOrientation rotor => rotor.toValue
  | .other _ value => value

/-- Reads the value of an entry; one with an unknown name is kept as it is. -/
def read (name : String) (value : Value) : Except Mismatch StateEntry :=
  if name = "loudspeakers" then (Loudspeaker.listOfValue value).map .loudspeakers
  else if name = "ref-pos" then (Point.ofValue value).map .position
  else if name = "ref-rot" then (Rotor.ofValue value).map .orientation
  else if name = "ref-pos-offset" then (Point.ofValue value).map .offsetPosition
  else if name = "ref-rot-offset" then (Rotor.ofValue value).map .offsetOrientation
  else .ok (.other name value)

def decode (name : String) (value : Value) : Except Failure StateEntry :=
  (read name value).mapError (Failure.ofMismatch name)

end StateEntry

abbrev Batch := List (String × Source.Patch)

inductive Command where
  | state (entries : List StateEntry)
  | create (batch : Batch)
  | modify (batch : Batch)
  | delete (ids : List String)
  | subscribe (topics : List String)
deriving DecidableEq, Repr

namespace Source.Patch

/-- Reads the attributes in the order of their names; the first one that is wrong is reported. -/
def decode (members : List (String × Value)) : Except Failure Patch :=
  members.foldlM (fun patch member =>
    (patch.addMember member).mapError (Failure.ofMismatch member.1)) {}

end Source.Patch

namespace Command

def name : Command → String
  | .state _ => "state"
  | .create _ => "new-src"
  | .modify _ => "mod-src"
  | .delete _ => "del-src"
  | .subscribe _ => "subscribe"

def payload : Command → Value
  | .state entries => .ofMembers (entries.map fun entry => (entry.name, entry.toValue))
  | .create batch | .modify batch => .ofMembers (batch.map fun (id, patch) => (id, patch.toValue))
  | .delete texts | .subscribe texts => .ofStrings texts

def expectMembers (name : String) : Value → Except Failure (List (String × Value))
  | .object members => .ok members
  | other => .error (.invalidAttribute name ("expected a JSON object, not " ++ other.text))

def decodeBatch (name : String) (payload : Value) : Except Failure Batch := do
  let members ← expectMembers name payload
  members.mapM fun (id, value) => do
    let members ← expectMembers id value
    let patch ← Source.Patch.decode members
    pure (id, patch)

def decodeText (name : String) : Value → Except Failure String
  | .string text => .ok text
  | other => .error (.invalidAttribute name ("expected a string, not " ++ other.text))

def decodeTexts (name : String) : Value → Except Failure (List String)
  | .list items => items.mapM (decodeText name)
  | other => .error (.invalidAttribute name ("expected a list of strings, not " ++ other.text))

def decode (name : String) (payload : Value) : Except Failure Command :=
  if name = "state" then do
    let members ← expectMembers name payload
    let entries ← members.mapM fun (name, value) => StateEntry.decode name value
    pure (.state entries)
  else if name = "new-src" then (decodeBatch name payload).map .create
  else if name = "mod-src" then (decodeBatch name payload).map .modify
  else if name = "del-src" then (decodeTexts name payload).map .delete
  else if name = "subscribe" then (decodeTexts name payload).map .subscribe
  else .error (.unknownCommand name)

end Command

end SoundScene
