import SoundScene.Json.Parser

/-!
What a viewer asks for: to follow sources, or to follow them no more.
-/

namespace SoundScene

open Json

inductive ViewerRequest where
  | subscribe (ids : List String)
  | unsubscribe (ids : List String)
deriving DecidableEq, Repr

namespace ViewerRequest

def name : ViewerRequest → String
  | .subscribe _ => "subscribe"
  | .unsubscribe _ => "unsubscribe"

def ids : ViewerRequest → List String
  | .subscribe ids | .unsubscribe ids => ids

def textOf? : Value → Option String
  | .string text => some text
  | _ => none

def textsOf? : Value → Option (List String)
  | .list items => items.mapM textOf?
  | _ => none

/-- A request of the given name for the sources that a value lists. -/
def ofParts (name ids : Value) : Option ViewerRequest := do
  let name ← textOf? name
  let ids ← textsOf? ids
  if name = "subscribe" then some (.subscribe ids)
  else if name = "unsubscribe" then some (.unsubscribe ids)
  else none

/-- The value of the one member with a key; a key that stands twice gives none. -/
def only? (key : String) (members : List (String × Value)) : Option Value :=
  match members.filter (·.1 = key) with
  | [(_, value)] => some value
  | _ => none

def ofMembers (members : List (String × Value)) : Option ViewerRequest := do
  ofParts (← only? "command" members) (← only? "source_ids" members)

/-- A request is an object of its name and the ids, or the list of the two. -/
def ofValue : Value → Option ViewerRequest
  | .object members => ofMembers members
  | .list [name, ids] => ofParts name ids
  | _ => none

/-- Reads the members of an object as they stand, or any other value. -/
def readParts : Reader Value := fun start =>
  let here := start.skipBlanks
  if here.rest.head? = some (.char '{') then do
    let members ← readBracketed (readMembers (fun _ => readValue (depthLimit - 1)) true) here
    pure (members.map Value.object).ofBlanks
  else readValue depthLimit start

/-- Reads a request of its own; here a key may not stand twice. -/
def parse (text : String) : Option ViewerRequest :=
  match readParts.whole (Cursor.ofString text) with
  | .ok value => ofValue value
  | .error _ => none

end ViewerRequest

end SoundScene
