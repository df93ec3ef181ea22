import SoundScene.Json.Token

/-!
Reading JSON values.  Lists and objects are read by loops over any reader of items (`readItems`,
`readMembers`); `readValue` is then a recursion on how deep brackets may still nest.
-/

namespace SoundScene.Json

open Text (Symbol)

variable {α : Type}

def nextItem? (first : Bool) (start : Cursor) : Except Fault (Option (Cursor.Onward start)) :=
  let here := start.skipBlanks
  match here.rest with
  | [] => malformed .endInList here.place
  | symbol :: _ =>
    if symbol = .char ']' then .ok none
    else if first then .ok (some start.pastBlanks)
    else if symbol = .char ',' then
      let there := here.advance.skipBlanks
      match there.rest with
      | [] => malformed .endInValue there.place
      | symbol :: _ =>
        if symbol = .char ']' then malformed .trailingComma there.past
        else .ok (some start.pastMark)
    else malformed .expectedListEnd here.past

def nextKey? (first : Bool) (start : Cursor) : Except Fault (Option (Cursor.Onward start)) :=
  let here := start.skipBlanks
  match here.rest with
  | [] => malformed .endInObject here.place
  | symbol :: _ =>
    if symbol = .char '}' then .ok none
    else if first then
      if symbol = .char '"' then .ok (some start.pastBlanks)
      else malformed .keyNotString here.past
    else if symbol = .char ',' then
      let there := here.advance.skipBlanks
      match there.rest with
      | [] => malformed .endInValue there.place
      | symbol :: _ =>
        if symbol = .char '"' then .ok (some start.pastMark)
        else if symbol = .char '}' then malformed .trailingComma there.past
        else malformed .keyNotString there.past
    else malformed .expectedObjectEnd here.past

def readItems (item : Nat → Reader α) (index : Nat) (start : Cursor) :
    Except Fault (Kept (List α) start) := do
  match ← nextItem? (index = 0) start with
  | none => pure (.pastBlanks start [])
  | some here =>
    let head ← item index here.val
    have := head.shorter
    have := here.property
    let tail ← readItems item (index + 1) head.next
    pure (.behind here (.after head (tail.map (head.value :: ·))))
termination_by start.size

def readColon : Reader Unit := fun start =>
  let here := start.skipBlanks
  match held : here.rest with
  | [] => malformed .endInObject here.place
  | symbol :: _ =>
    if symbol = .char ':' then .ok (.mark start held)
    else malformed .expectedColon here.past

def readMember (value : String → Reader α) : Reader (String × α) := fun start => do
  let key ← readString start.advance
  let colon ← readColon key.next
  let held ← value key.value colon.next
  pure ((key.after (colon.after held)).map (key.value, ·)).ofAdvance

def readMembers (value : String → Reader α) (first : Bool) (start : Cursor) :
    Except Fault (Kept (List (String × α)) start) := do
  match ← nextKey? first start with
  | none => pure (.pastBlanks start [])
  | some here =>
    let member ← readMember value here.val
    have := member.shorter
    have := here.property
    let tail ← readMembers value false member.next
    pure (.behind here (.after member (tail.map (member.value :: ·))))
termination_by start.size

def readBracketed (inner : (start : Cursor) → Except Fault (Kept α start)) : Reader α :=
  fun start =>
    match held : start.rest with
    | [] => malformed .endInValue start.place
    | _ :: _ => do
      let inside ← inner start.advance
      pure ((Parsed.piece inside.value held).goTo (inside.onward.goTo inside.next.pastNext))

def readScalar : Reader Value := fun start =>
  match start.rest with
  | [] => malformed .endInValue start.place
  | symbol :: _ =>
    if symbol = .char '"' then do
      let text ← readString start.advance
      pure (text.map .string).ofAdvance
    else if symbol = .char '-' ∨ Cursor.isDigit symbol then do
      let number ← readNumber start
      pure (number.map .number)
    else if symbol = .char 'n' then readWord .null ['u', 'l', 'l'] start
    else if symbol = .char 't' then readWord (.bool true) ['r', 'u', 'e'] start
    else if symbol = .char 'f' then readWord (.bool false) ['a', 'l', 's', 'e'] start
    else malformed .expectedValue start.past

/-- Reads a value in which brackets nest at most `depth` deep. -/
def readValue : (depth : Nat) → Reader Value
  | 0, start =>
    let here := start.skipBlanks
    if here.rest.head? = some (.char '[') ∨ here.rest.head? = some (.char '{') then
      malformed .tooDeep here.past
    else do
      let scalar ← readScalar here
      pure scalar.ofBlanks
  | depth + 1, start =>
    let here := start.skipBlanks
    if here.rest.head? = some (.char '[') then do
      let items ← readBracketed (readItems (fun _ => readValue depth) 0) here
      pure (items.map .list).ofBlanks
    else if here.rest.head? = some (.char '{') then do
      let members ← readBracketed (readMembers (fun _ => readValue depth) true) here
      pure (members.map Value.ofMembers).ofBlanks
    else do
      let scalar ← readScalar here
      pure scalar.ofBlanks

def depthLimit : Nat := 127

def Value.parse (text : String) : Except Fault Value :=
  Reader.whole (readValue depthLimit) (Cursor.ofString text)

end SoundScene.Json
