import SoundScene.Json.Fault
import SoundScene.Text.Utf8

/-!
A place in a text together with what is still to be read there.  A reader returns where it stopped
and that this is further on, so that a loop of readers ends.
-/

namespace SoundScene.Json

open Text (Symbol)

def Place.after (place : Place) (symbol : Symbol) : Place :=
  if symbol = .char '\n' then ⟨place.line + 1, 0⟩
  else ⟨place.line, place.column + symbol.width⟩

def Place.back (place : Place) (bytes : Nat) : Place := ⟨place.line, place.column - bytes⟩

structure Cursor where
  rest : List Symbol
  place : Place
deriving DecidableEq, Repr

namespace Cursor

def ofSymbols (symbols : List Symbol) : Cursor := ⟨symbols, ⟨1, 0⟩⟩

def ofString (text : String) : Cursor := ofSymbols (text.toList.map .char)

def ofBytes (bytes : List UInt8) : Cursor := ofSymbols (Text.symbols bytes)

def size (c : Cursor) : Nat := c.rest.length

def advance (c : Cursor) : Cursor :=
  match c.rest with
  | [] => c
  | symbol :: rest => ⟨rest, c.place.after symbol⟩

theorem size_advance_le (c : Cursor) : c.advance.size ≤ c.size := by
  unfold advance size
  split <;> simp_all

theorem size_advance_lt {c : Cursor} (more : c.rest ≠ []) : c.advance.size < c.size := by
  unfold advance size
  split <;> simp_all

theorem size_advance_lt_of_rest {c : Cursor} {symbol : Symbol} {rest : List Symbol}
    (held : c.rest = symbol :: rest) : c.advance.size < c.size :=
  c.size_advance_lt (by simp [held])

theorem size_le_self (c : Cursor) : c.size ≤ c.size := Nat.le_refl _

def past (c : Cursor) : Place :=
  match c.rest with
  | [] => c.place
  | .char '\n' :: _ => ⟨c.place.line + 1, 0⟩
  | _ :: _ => ⟨c.place.line, c.place.column + 1⟩

def placeAfter : (bytes : Nat) → List Symbol → Place → Place
  | 0, _, place => place
  | _, [], place => place
  | bytes, symbol :: rest, place =>
    if symbol.width ≤ bytes then placeAfter (bytes - symbol.width) rest (place.after symbol)
    else ⟨place.line, place.column + bytes⟩

def endPlace (c : Cursor) : Place := c.rest.foldl Place.after c.place

def bytesLeft (c : Cursor) : Nat := Text.byteCount c.rest

/-- The four characters that may stand between the parts of a JSON text. -/
def isSpace (c : Char) : Bool := c = ' ' || c = '\n' || c = '\t' || c = '\r'

def skipSpace : List Symbol → Place → Cursor
  | .char c :: rest, place =>
    if isSpace c then skipSpace rest (place.after (.char c)) else ⟨.char c :: rest, place⟩
  | rest, place => ⟨rest, place⟩

theorem size_skipSpace_le (rest : List Symbol) (place : Place) :
    (skipSpace rest place).size ≤ rest.length := by
  fun_induction skipSpace rest place <;> simp_all [size]
  omega

def skipBlanks (c : Cursor) : Cursor := skipSpace c.rest c.place

theorem size_skipBlanks_le (c : Cursor) : c.skipBlanks.size ≤ c.size :=
  size_skipSpace_le c.rest c.place

def isDigit (symbol : Symbol) : Bool :=
  match symbol with
  | .char c => c.isDigit
  | .stray _ => false

def spanDigitsFrom : List Symbol → Place → List Char × Cursor
  | .char c :: rest, place =>
    if c.isDigit then
      let (digits, stop) := spanDigitsFrom rest (place.after (.char c))
      (c :: digits, stop)
    else ([], ⟨.char c :: rest, place⟩)
  | rest, place => ([], ⟨rest, place⟩)

theorem size_spanDigitsFrom_le (rest : List Symbol) (place : Place) :
    (spanDigitsFrom rest place).2.size ≤ rest.length := by
  fun_induction spanDigitsFrom rest place <;> simp_all [size]
  omega

def spanDigits (c : Cursor) : List Char × Cursor := spanDigitsFrom c.rest c.place

theorem size_spanDigits_le (c : Cursor) : c.spanDigits.2.size ≤ c.size :=
  size_spanDigitsFrom_le c.rest c.place

end Cursor

/-- A value that was read, and where reading stopped: further on than it started. -/
structure Parsed (α : Type) (start : Cursor) where
  value : α
  next : Cursor
  shorter : next.size < start.size

structure Kept (α : Type) (start : Cursor) where
  value : α
  next : Cursor
  within : next.size ≤ start.size

abbrev Cursor.Onward (start : Cursor) : Type := { c : Cursor // c.size ≤ start.size }

namespace Cursor

variable {start : Cursor}

def stay (start : Cursor) : Onward start := ⟨start, start.size_le_self⟩

def pastBlanks (start : Cursor) : Onward start := ⟨start.skipBlanks, start.size_skipBlanks_le⟩

def pastNext (start : Cursor) : Onward start := ⟨start.advance, start.size_advance_le⟩

def pastDigits (start : Cursor) : Onward start := ⟨start.spanDigits.2, start.size_spanDigits_le⟩

def pastPiece (start : Cursor) : Onward start :=
  ⟨start.skipBlanks.advance,
    Nat.le_trans start.skipBlanks.size_advance_le start.size_skipBlanks_le⟩

/-- Past the blanks and the piece behind them, and past the blanks that follow. -/
def pastMark (start : Cursor) : Onward start :=
  ⟨start.skipBlanks.advance.skipBlanks,
    Nat.le_trans start.skipBlanks.advance.size_skipBlanks_le
      (Nat.le_trans start.skipBlanks.size_advance_le start.size_skipBlanks_le)⟩

def Onward.ofBlanks (stop : Onward start.skipBlanks) : Onward start :=
  ⟨stop.val, Nat.le_trans stop.property start.size_skipBlanks_le⟩

def Onward.ofAdvance (stop : Onward start.advance) : Onward start :=
  ⟨stop.val, Nat.le_trans stop.property start.size_advance_le⟩

def Onward.goTo (first : Onward start) (stop : Onward first.val) : Onward start :=
  ⟨stop.val, Nat.le_trans stop.property first.property⟩

end Cursor

open Cursor (Onward)

namespace Parsed

variable {α β : Type} {start : Cursor}

theorem within (parsed : Parsed α start) : parsed.next.size ≤ start.size :=
  Nat.le_of_lt parsed.shorter

def onward (parsed : Parsed α start) : Onward start := ⟨parsed.next, parsed.within⟩

def map (view : α → β) (parsed : Parsed α start) : Parsed β start :=
  ⟨view parsed.value, parsed.next, parsed.shorter⟩

def goTo (parsed : Parsed α start) (stop : Onward parsed.next) : Parsed α start :=
  ⟨parsed.value, stop.val, Nat.lt_of_le_of_lt stop.property parsed.shorter⟩

def after (first : Parsed α start) (parsed : Parsed β first.next) : Parsed β start :=
  ⟨parsed.value, parsed.next, Nat.lt_trans parsed.shorter first.shorter⟩

def ofBlanks (parsed : Parsed α start.skipBlanks) : Parsed α start :=
  ⟨parsed.value, parsed.next, Nat.lt_of_lt_of_le parsed.shorter start.size_skipBlanks_le⟩

def ofAdvance (parsed : Parsed α start.advance) : Parsed α start :=
  ⟨parsed.value, parsed.next, Nat.lt_of_lt_of_le parsed.shorter start.size_advance_le⟩

def piece (value : α) {symbol : Symbol} {rest : List Symbol}
    (held : start.rest = symbol :: rest) : Parsed α start :=
  ⟨value, start.advance, Cursor.size_advance_lt_of_rest held⟩

def mark (start : Cursor) {symbol : Symbol} {rest : List Symbol}
    (held : start.skipBlanks.rest = symbol :: rest) : Parsed Unit start :=
  ⟨(), start.skipBlanks.advance,
    Nat.lt_of_lt_of_le (Cursor.size_advance_lt_of_rest held) start.size_skipBlanks_le⟩

end Parsed

namespace Kept

variable {α β : Type} {start : Cursor}

def map (view : α → β) (kept : Kept α start) : Kept β start :=
  ⟨view kept.value, kept.next, kept.within⟩

def stay (start : Cursor) (value : α) : Kept α start := ⟨value, start, start.size_le_self⟩

def reached (value : α) (stop : Onward start) : Kept α start := ⟨value, stop.val, stop.property⟩

def onward (kept : Kept α start) : Onward start := ⟨kept.next, kept.within⟩

def andThen (first : Kept α start) (kept : Kept β first.next) : Kept β start :=
  ⟨kept.value, kept.next, Nat.le_trans kept.within first.within⟩

def pastBlanks (start : Cursor) (value : α) : Kept α start :=
  ⟨value, start.skipBlanks, start.size_skipBlanks_le⟩

def after (first : Parsed α start) (kept : Kept β first.next) : Kept β start :=
  ⟨kept.value, kept.next, Nat.le_trans kept.within first.within⟩

def behind (first : Onward start) (kept : Kept β first.val) : Kept β start :=
  ⟨kept.value, kept.next, Nat.le_trans kept.within first.property⟩

def ofAdvance (kept : Kept α start.advance) : Kept α start :=
  ⟨kept.value, kept.next, Nat.le_trans kept.within start.size_advance_le⟩

def before (kept : Kept α start) (parsed : Parsed β kept.next) : Parsed β start :=
  ⟨parsed.value, parsed.next, Nat.lt_of_lt_of_le parsed.shorter kept.within⟩

end Kept

abbrev Reader (α : Type) : Type := (start : Cursor) → Except Fault (Parsed α start)

def malformed {α : Type} (flaw : Flaw) (place : Place) : Except Fault α :=
  .error ⟨.flaw flaw, place, []⟩

def mismatched {α : Type} (mismatch : Mismatch) (place : Place) : Except Fault α :=
  .error ⟨.mismatch mismatch, place, []⟩

/-- Faults of a reader seen from the value around it. -/
def Reader.at {α : Type} (read : Reader α) (step : Step) : Reader α :=
  fun start => (read start).mapError fun fault => fault.within step

def Reader.whole {α : Type} (read : Reader α) (start : Cursor) : Except Fault α := do
  let parsed ← read start
  let stop := parsed.next.skipBlanks
  if stop.rest = [] then pure parsed.value else malformed .trailingCharacters stop.past

end SoundScene.Json
