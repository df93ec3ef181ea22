import SoundScene.Json.Skip
import SoundScene.Json.Typed

/-!
Readers for values of a known kind.  They read the text as they go, so a value of the wrong kind is
reported before a malformation further on.  A record is an object of its fields in any order, or the
list of its fields in their order; members with other keys are passed over.
-/

namespace SoundScene.Json

open Text (Symbol)

variable {α σ : Type}

def describe (here : Cursor) : Except Fault (Found × Place) :=
  if here.rest.head? = some (.char '[') then .ok (.list, here.place)
  else if here.rest.head? = some (.char '{') then .ok (.object, here.place)
  else do
    let scalar ← readScalar here
    pure (scalar.value.found, scalar.next.place)

def unexpected (expected : String) (here : Cursor) : Except Fault α := do
  let (found, place) ← describe here
  mismatched (.wrongKind found expected) place

def readFloat : Reader Float := fun start =>
  let here := start.skipBlanks
  if here.rest.head?.any fun symbol => symbol = .char '-' || Cursor.isDigit symbol then do
    let number ← readNumber here
    pure (number.map Number.toFloat).ofBlanks
  else unexpected "f64" here

def readText : Reader String := fun start =>
  let here := start.skipBlanks
  if here.rest.head? = some (.char '"') then do
    let text ← readString here.advance
    pure (text.ofAdvance).ofBlanks
  else unexpected "a string" here

def readNat (limit : Nat) (expected : String) : Reader Nat := fun start =>
  let here := start.skipBlanks
  if here.rest.head?.any fun symbol => symbol = .char '-' || Cursor.isDigit symbol then do
    let number ← readNumber here
    match number.value with
    | .int (.ofNat n) =>
      if n < limit then
        pure (number.map fun _ => n).ofBlanks
      else mismatched (.wrongKind (.number number.value) expected) number.next.place
    | other => mismatched (.wrongKind (.number other) expected) number.next.place
  else unexpected expected here

def readList (item : Reader α) : Reader (List α) := fun start =>
  let here := start.skipBlanks
  if here.rest.head? = some (.char '[') then do
    let items ← readBracketed (readItems (fun index => item.at (.item index)) 0) here
    pure items.ofBlanks
  else unexpected "a sequence" here

def readNull : Reader Unit := fun start =>
  let here := start.skipBlanks
  if here.rest.head? = some (.char 'n') then do
    let word ← readWord () ['u', 'l', 'l'] here
    pure word.ofBlanks
  else unexpected "unit" here

/-- Reads nothing for `null`. -/
def readOptional (read : Reader α) : Reader (Option α) := fun start =>
  let here := start.skipBlanks
  if here.rest.head? = some (.char 'n') then do
    let word ← readWord none ['u', 'l', 'l'] here
    pure word.ofBlanks
  else do
    let held ← read here
    pure (held.map some).ofBlanks

/-- Reads further what was read, reporting a value that does not do at the place behind it. -/
def Reader.refine {β : Type} (read : Reader α) (view : α → Except Mismatch β) : Reader β :=
  fun start => do
    let held ← read start
    match view held.value with
    | .ok value => pure ⟨value, held.next, held.shorter⟩
    | .error mismatch => mismatched mismatch held.next.place

structure Field (σ : Type) where
  name : String
  read : σ → Reader σ

def Field.of (name : String) (read : Reader α) (store : σ → α → σ) : Field σ :=
  ⟨name, fun state start => do
    let held ← read start
    pure (held.map (store state))⟩

structure Gathered (σ : Type) where
  seen : List String
  state : σ

def Gathered.add (gathered : Gathered σ) (name : String) (state : σ) : Gathered σ :=
  ⟨name :: gathered.seen, state⟩

/-- The place where a second field of one name is reported: behind its key and, if the object ends
there, behind the brace. -/
def duplicatePlace (afterKey : Cursor) : Place :=
  let here := afterKey.skipBlanks
  if here.rest.head? = some (.char '}') then here.advance.place else here.place

/-- Reads a member of a record at the quote of its key, or passes over one with another key. -/
def readField (fields : List (Field σ)) (gathered : Gathered σ) : Reader (Gathered σ) :=
  fun start => do
    let key ← readString start.advance
    match fields.find? (·.name = key.value) with
    | none =>
      let colon ← readColon key.next
      let stop ← (skipValue colon.next).mapError fun fault => fault.within (.member key.value)
      pure ((key.after (colon.goTo stop)).map fun _ => gathered).ofAdvance
    | some field =>
      if gathered.seen.contains field.name then
        mismatched (.duplicateField field.name) (duplicatePlace key.next)
      else
        let colon ← readColon key.next
        let held ← (field.read gathered.state).at (.member key.value) colon.next
        pure ((key.after (colon.after held)).map (gathered.add field.name)).ofAdvance

def readFields (fields : List (Field σ)) (gathered : Gathered σ) (first : Bool) (start : Cursor) :
    Except Fault (Kept (Gathered σ) start) := do
  match ← nextKey? first start with
  | none => pure (.pastBlanks start gathered)
  | some here =>
    let member ← readField fields gathered here.val
    have := member.shorter
    have := here.property
    let rest ← readFields fields member.value false member.next
    pure (.behind here (.after member rest))
termination_by start.size

def readParts (index : Nat) (gathered : Gathered σ) :
    List (Field σ) → (start : Cursor) → Except Fault (Kept (Gathered σ) start)
  | [], start => .ok (.stay start gathered)
  | field :: fields, start => do
    match ← nextItem? (index = 0) start with
    | none => pure (.pastBlanks start gathered)
    | some here =>
      let held ← (field.read gathered.state).at (.item index) here.val
      let rest ← readParts (index + 1) (gathered.add field.name held.value) fields held.next
      pure (.behind here (.after held rest))

def readListEnd : Reader Unit := fun start =>
  let here := start.skipBlanks
  match held : here.rest with
  | [] => malformed .endInList here.place
  | symbol :: _ =>
    if symbol = .char ']' then
      .ok (.mark start held)
    else if symbol = .char ',' then
      let there := here.advance.skipBlanks
      if there.rest.head? = some (.char ']') then malformed .trailingComma there.past
      else malformed .trailingCharacters there.past
    else malformed .trailingCharacters here.past

/-- How a record is read: what messages call it, its fields, and those that may not be missing. -/
structure Shape (σ : Type) where
  title : String
  fields : List (Field σ)
  required : List String
  initial : σ

namespace Shape

def missing? (shape : Shape σ) (gathered : Gathered σ) : Option String :=
  shape.required.find? fun name => !gathered.seen.contains name

def read (shape : Shape σ) : Reader σ := fun start =>
  let here := start.skipBlanks
  if here.rest.head? = some (.char '{') then do
    let gathered ← readBracketed (readFields shape.fields ⟨[], shape.initial⟩ true) here
    match shape.missing? gathered.value with
    | some name => mismatched (.missingField name) gathered.next.place
    | none =>
      pure (gathered.map Gathered.state).ofBlanks
  else if here.rest.head? = some (.char '[') then do
    let gathered ← readParts 0 ⟨[], shape.initial⟩ shape.fields here.advance
    let stop ← readListEnd gathered.next
    match shape.missing? gathered.value with
    | some _ =>
      let expected := shape.title ++ " with " ++ shape.fields.length.repr ++ " elements"
      mismatched (.tooShort gathered.value.seen.length expected) stop.next.place
    | none =>
      pure ((gathered.before stop).map fun _ => gathered.value.state).ofAdvance.ofBlanks
  else unexpected shape.title here

end Shape

end SoundScene.Json
