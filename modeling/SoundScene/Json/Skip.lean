import SoundScene.Json.Parser

/-!
Passing over a value that is not needed.  Only its form matters: numbers may be of any size,
brackets may nest to any depth, and a string may hold halves of pairs and bytes that are no
characters.
-/

namespace SoundScene.Json

open Text (Symbol)

def skipEscape : Reader Unit := fun start =>
  match held : start.rest with
  | [] => malformed .endInString start.place
  | symbol :: _ =>
    if symbol = .char 'u' then do
      let code ← readHex start.advance
      pure (code.map fun _ => ()).ofAdvance
    else if (escaped? symbol).isSome then .ok (.piece () held)
    else malformed .invalidEscape start.past

def skipString (start : Cursor) : Except Fault (Parsed Unit start) :=
  match held : start.rest with
  | [] => malformed .endInString start.place
  | symbol :: _ =>
    have := Cursor.size_advance_lt_of_rest held
    if symbol = .char '"' then .ok (.piece () held)
    else if symbol = .char '\\' then do
      let escape ← skipEscape start.advance
      have := escape.shorter
      let rest ← skipString escape.next
      pure (escape.after rest).ofAdvance
    else if isControl symbol then malformed .controlCharacter start.place
    else do
      let rest ← skipString start.advance
      pure rest.ofAdvance
termination_by start.size

/-- Passes over the digits before a point; a zero stands alone. -/
def skipWhole : Reader Unit := fun start =>
  match held : start.rest with
  | [] => malformed .invalidNumber start.place
  | symbol :: _ =>
    if symbol = .char '0' then
      if start.advance.rest.head?.any Cursor.isDigit then
        malformed .invalidNumber start.advance.past
      else .ok (.piece () held)
    else if Cursor.isDigit symbol then
      .ok ((Parsed.piece () held).goTo start.advance.pastDigits)
    else malformed .invalidNumber start.past

def skipDigits (start : Cursor) : Except Fault (Cursor.Onward start) :=
  if start.spanDigits.1 = [] then malformed .invalidNumber start.past
  else .ok start.pastDigits

def skipFraction (start : Cursor) : Except Fault (Cursor.Onward start) :=
  if start.rest.head? = some (.char '.') then do
    let stop ← skipDigits start.advance
    pure stop.ofAdvance
  else .ok start.stay

def skipExponent (start : Cursor) : Except Fault (Cursor.Onward start) :=
  if startsExponent start then do
    let sign := readSign start.advance
    let stop ← skipDigits sign.next
    pure (sign.onward.goTo stop).ofAdvance
  else .ok start.stay

def skipUnsigned : Reader Unit := fun start => do
  let whole ← skipWhole start
  let fraction ← skipFraction whole.next
  let exponent ← skipExponent fraction.val
  pure (whole.goTo (fraction.goTo exponent))

def skipScalar : Reader Unit := fun start =>
  match start.rest with
  | [] => malformed .endInValue start.place
  | symbol :: _ =>
    if symbol = .char '"' then do
      let text ← skipString start.advance
      pure text.ofAdvance
    else if symbol = .char '-' then do
      let number ← skipUnsigned start.advance
      pure number.ofAdvance
    else if Cursor.isDigit symbol then skipUnsigned start
    else if symbol = .char 'n' then readWord () ['u', 'l', 'l'] start
    else if symbol = .char 't' then readWord () ['r', 'u', 'e'] start
    else if symbol = .char 'f' then readWord () ['a', 'l', 's', 'e'] start
    else malformed .expectedValue start.past

inductive Bracket where
  | list
  | object
deriving DecidableEq, Repr

def Bracket.closing : Bracket → Symbol
  | .list => .char ']'
  | .object => .char '}'

def Bracket.unclosed : Bracket → Flaw
  | .list => .endInList
  | .object => .endInObject

/-- The flaw of a text that goes on with neither a comma nor the closing bracket. -/
def Bracket.unseparated : Bracket → Flaw
  | .list => .expectedListEnd
  | .object => .expectedObjectEnd

def skipKey (bracket : Bracket) (start : Cursor) : Except Fault (Cursor.Onward start) :=
  match bracket with
  | .list => .ok start.stay
  | .object =>
    let here := start.skipBlanks
    match here.rest with
    | [] => malformed .endInObject here.place
    | symbol :: _ =>
      if symbol = .char '"' then do
        let key ← skipString here.advance
        let colon ← readColon key.next
        pure (key.after colon).onward.ofAdvance.ofBlanks
      else malformed .keyNotString here.past

/-- Where passing over stands: before a value, or after one, or after an opening bracket. -/
inductive SkipState where
  | value
  | afterValue
  | afterOpening
deriving DecidableEq, Repr

def SkipState.rank : SkipState → Nat
  | .value => 0
  | .afterValue | .afterOpening => 1

/-- Passes over what is left of a value inside some open brackets, the innermost first. -/
def skipRest (state : SkipState) (brackets : List Bracket) (start : Cursor) :
    Except Fault (Cursor.Onward start) :=
  match state with
  | .value =>
    have := start.size_skipBlanks_le
    match held : start.skipBlanks.rest with
    | [] => malformed .endInValue start.skipBlanks.place
    | symbol :: _ => do
      have := Cursor.size_advance_lt_of_rest held
      if symbol = .char '[' then
        let stop ← skipRest .afterOpening (.list :: brackets) start.skipBlanks.advance
        pure stop.ofAdvance.ofBlanks
      else if symbol = .char '{' then
        let stop ← skipRest .afterOpening (.object :: brackets) start.skipBlanks.advance
        pure stop.ofAdvance.ofBlanks
      else
        let scalar ← skipScalar start.skipBlanks
        have := scalar.shorter
        let stop ← skipRest .afterValue brackets scalar.next
        pure (scalar.onward.goTo stop).ofBlanks
  | .afterValue | .afterOpening =>
    match brackets with
    | [] => .ok start.stay
    | bracket :: outer =>
      have := start.size_skipBlanks_le
      match held : start.skipBlanks.rest with
      | [] => malformed bracket.unclosed start.skipBlanks.place
      | symbol :: _ => do
        have := Cursor.size_advance_lt_of_rest held
        if symbol = bracket.closing then
          let stop ← skipRest .afterValue outer start.skipBlanks.advance
          pure stop.ofAdvance.ofBlanks
        else if state = .afterOpening then
          let key ← skipKey bracket start.skipBlanks
          have := key.property
          let stop ← skipRest .value brackets key.val
          pure (key.goTo stop).ofBlanks
        else if symbol = .char ',' then
          let key ← skipKey bracket start.skipBlanks.advance
          have := key.property
          let stop ← skipRest .value brackets key.val
          pure (key.goTo stop).ofAdvance.ofBlanks
        else malformed bracket.unseparated start.skipBlanks.past
termination_by 2 * start.size + state.rank
decreasing_by all_goals (simp only [SkipState.rank]; omega)

def skipValue : (start : Cursor) → Except Fault (Cursor.Onward start) :=
  skipRest .value []

end SoundScene.Json
