import SoundScene.Json.Cursor

/-!
Words, strings and numbers.  Every literal is first read as a double, and one that overflows is
refused; an integer literal of at most 64 bits keeps its integer form.
-/

namespace SoundScene.Json

open Text (Symbol)

def readLetters : List Char → (start : Cursor) → Except Fault (Cursor.Onward start)
  | [], start => .ok start.stay
  | letter :: letters, start =>
    match start.rest with
    | [] => malformed .endInValue start.place
    | symbol :: _ =>
      if symbol = .char letter then do
        let stop ← readLetters letters start.advance
        pure stop.ofAdvance
      else malformed .expectedWord start.past

def readWord {α : Type} (value : α) (letters : List Char) : Reader α := fun start =>
  match held : start.rest with
  | [] => malformed .endInValue start.place
  | _ :: _ => do
    let stop ← readLetters letters start.advance
    pure ((Parsed.piece value held).goTo stop)

/-- Reads the four digits of a numbered character; four bytes are taken whatever they are. -/
def readHex : Reader Nat := fun start =>
  match held : start.rest with
  | a :: b :: c :: d :: rest =>
    match (Text.chars? [a, b, c, d]).bind Text.hexNumeral? with
    | some value =>
      .ok ⟨value, ⟨rest, Cursor.placeAfter 4 start.rest start.place⟩, by
        simp only [Cursor.size, held, List.length_cons]; omega⟩
    | none => malformed .invalidEscape (Cursor.placeAfter 4 start.rest start.place)
  | _ =>
    if start.bytesLeft < 4 then malformed .endInString start.endPlace
    else malformed .invalidEscape (Cursor.placeAfter 4 start.rest start.place)

def readPairMark (mark : Char) : Reader Unit := fun start =>
  match held : start.rest with
  | [] => malformed .endInString start.place
  | symbol :: _ =>
    if symbol = .char mark then .ok (.piece () held)
    else malformed .cutSurrogate start.past

def isHighSurrogate (code : Nat) : Bool := 0xD800 ≤ code && code ≤ 0xDBFF

def isLowSurrogate (code : Nat) : Bool := 0xDC00 ≤ code && code ≤ 0xDFFF

/-- Reads a numbered character after its mark.  Characters past the first plane take two numbers. -/
def readNumbered : Reader Char := fun start => do
  let high ← readHex start
  if isLowSurrogate high.value then malformed .loneSurrogate high.next.place
  else if isHighSurrogate high.value then
    let slash ← readPairMark '\\' high.next
    let mark ← readPairMark 'u' slash.next
    let low ← readHex mark.next
    if isLowSurrogate low.value then
      let code := 0x10000 + (high.value - 0xD800) * 0x400 + (low.value - 0xDC00)
      let whole := high.after (slash.after (mark.after low))
      pure (whole.map fun _ => Char.ofNat code)
    else malformed .loneSurrogate low.next.place
  else pure (high.map Char.ofNat)

def escaped? : Symbol → Option Char
  | .char c =>
    if c = '"' ∨ c = '\\' ∨ c = '/' then some c
    else if c = 'b' then some '\x08'
    else if c = 'f' then some '\x0c'
    else if c = 'n' then some '\n'
    else if c = 'r' then some '\r'
    else if c = 't' then some '\t'
    else none
  | .stray _ => none

def isControl : Symbol → Bool
  | .char c => c.toNat < 0x20
  | .stray _ => false

def readEscape : Reader Char := fun start =>
  match held : start.rest with
  | [] => malformed .endInString start.place
  | symbol :: _ =>
    if symbol = .char 'u' then do
      let numbered ← readNumbered start.advance
      pure numbered.ofAdvance
    else match escaped? symbol with
      | some meant => .ok (.piece meant held)
      | none => malformed .invalidEscape start.past

def readSymbols (start : Cursor) : Except Fault (Parsed (List Symbol) start) :=
  match held : start.rest with
  | [] => malformed .endInString start.place
  | symbol :: _ =>
    have := Cursor.size_advance_lt_of_rest held
    if symbol = .char '"' then .ok (.piece [] held)
    else if symbol = .char '\\' then do
      let first ← readEscape start.advance
      have := first.shorter
      let more ← readSymbols first.next
      pure ((first.after more).map (.char first.value :: ·)).ofAdvance
    else if isControl symbol then malformed .controlCharacter start.past
    else do
      let more ← readSymbols start.advance
      pure (more.map (symbol :: ·)).ofAdvance
termination_by start.size

/-- Reads a string after its opening quote.  A byte that is part of no character is noticed once the
whole string is read.  The fault is placed as far before the end as the text that was read goes on
from the first such byte; without escapes behind it that is the place of the byte itself. -/
def readString : Reader String := fun start => do
  let symbols ← readSymbols start
  match Text.chars? symbols.value with
  | some chars => pure ⟨String.ofList chars, symbols.next, symbols.shorter⟩
  | none =>
    let tail := Text.byteCount (Text.fromStray symbols.value)
    malformed .invalidCharacter (symbols.next.place.back tail)

/-- A number as it is written: `whole.fraction * 10 ^ exponent`. -/
structure Literal where
  negative : Bool
  whole : List Char
  fraction : Option (List Char)
  exponent : Option Int
deriving DecidableEq, Repr

namespace Literal

def fractionDigits (literal : Literal) : List Char :=
  ((literal.fraction.getD []).reverse.dropWhile (· = '0')).reverse

def digits (literal : Literal) : List Char :=
  (literal.whole ++ literal.fractionDigits).dropWhile (· = '0')

/-- How many digits are told apart.  A number halfway between two doubles has fewer, so what stands
behind them matters only by being there. -/
def digitLimit : Nat := 768

/-- Digits past the limit, even zeros, count as a single one. -/
def limited (digits : List Char) : List Char :=
  if digitLimit < digits.length then digits.take digitLimit ++ ['1'] else digits

def decimal (literal : Literal) : Decimal :=
  let kept := limited literal.digits
  ⟨Text.numeral kept,
    literal.exponent.getD 0 + literal.digits.length - kept.length - literal.fractionDigits.length⟩

example : (Literal.mk false ['0'] (some ['0', '2', '5', '0']) (some 7)).decimal = ⟨25, 4⟩ := by
  decide +kernel

example : limited (List.replicate 769 '0') = List.replicate 768 '0' ++ ['1'] := by decide +kernel

def toFloat (literal : Literal) : Float :=
  if literal.negative then -literal.decimal.toFloat else literal.decimal.toFloat

/-- The integer form, for an integer of at most 64 bits.  Zero with a sign has none. -/
def toInt? (literal : Literal) : Option Int :=
  if literal.fraction.isSome ∨ literal.exponent.isSome then none
  else
    let size := Text.numeral literal.whole
    if literal.negative then
      if size = 0 ∨ Nat.pow 2 63 < size then none else some (-size)
    else if size < Nat.pow 2 64 then some size
    else none

def toNumber (literal : Literal) : Number :=
  match literal.toInt? with
  | some n => .int n
  | none => .real literal.toFloat

end Literal

def readWhole : Reader (List Char) := fun start =>
  match held : start.rest with
  | [] => malformed .endInValue start.place
  | symbol :: _ =>
    if symbol = .char '0' then
      if start.advance.rest.head?.any Cursor.isDigit then
        malformed .invalidNumber start.advance.past
      else .ok (.piece ['0'] held)
    else
      match symbol with
      | .char c =>
        if c.isDigit then
          let more := start.advance.spanDigits
          .ok ((Parsed.piece (c :: more.1) held).goTo start.advance.pastDigits)
        else malformed .invalidNumber start.past
      | .stray _ => malformed .invalidNumber start.past

def digitMissing {α : Type} (here : Cursor) : Except Fault α :=
  if here.rest = [] then malformed .endInValue here.place else malformed .invalidNumber here.past

def readFraction (start : Cursor) : Except Fault (Kept (Option (List Char)) start) :=
  if start.rest.head? = some (.char '.') then
    let (digits, stop) := start.advance.spanDigits
    if digits = [] then digitMissing stop
    else .ok (Kept.reached (some digits) start.advance.pastDigits).ofAdvance
  else .ok (.stay start none)

/-- The largest exponent that is read to its end when the number is not zero. -/
def exponentLimit : Nat := Nat.pow 2 31 - 1

/-- The place right after the digit that takes an exponent past the limit. -/
def overflowPlace? (value : Nat) : List Char → Place → Option Place
  | [], _ => none
  | c :: rest, place =>
    let next := value * 10 + Text.digitValue c
    if exponentLimit < next then some (place.after (.char c))
    else overflowPlace? next rest (place.after (.char c))

def readSign (start : Cursor) : Kept Bool start :=
  if start.rest.head? = some (.char '-') then (Kept.stay start.advance true).ofAdvance
  else if start.rest.head? = some (.char '+') then (Kept.stay start.advance false).ofAdvance
  else .stay start false

def startsExponent (start : Cursor) : Bool :=
  start.rest.head? = some (.char 'e') || start.rest.head? = some (.char 'E')

/-- Reads an exponent, if there is one.  A huge positive one is refused where it gets too large. -/
def readExponent (zero : Bool) (start : Cursor) : Except Fault (Kept (Option Int) start) :=
  if startsExponent start then
    let sign := readSign start.advance
    let (digits, stop) := sign.next.spanDigits
    let negative := sign.value
    let finish (exponent : Int) : Kept (Option Int) start :=
      (sign.andThen (Kept.reached (some exponent) sign.next.pastDigits)).ofAdvance
    if digits = [] then digitMissing stop
    else
      let size := Text.numeral digits
      match overflowPlace? 0 digits sign.next.place with
      | some place =>
        if !zero && !negative then malformed .numberOutOfRange place
        else .ok (finish (if negative then -size else 0))
      | none => .ok (finish (if negative then -size else size))
  else .ok (.stay start none)

def readUnsigned (negative : Bool) : Reader Literal := fun start => do
  let whole ← readWhole start
  let fraction ← readFraction whole.next
  let digits := whole.value ++ fraction.value.getD []
  let exponent ← readExponent (digits.all (· = '0')) fraction.next
  let literal : Literal := ⟨negative, whole.value, fraction.value, exponent.value⟩
  if literal.toFloat.isFinite then
    pure ((whole.map fun _ => literal).goTo (fraction.andThen exponent).onward)
  else malformed .numberOutOfRange exponent.next.place

def readNumber : Reader Number := fun start =>
  if start.rest.head? = some (.char '-') then do
    let literal ← readUnsigned true start.advance
    pure (literal.map Literal.toNumber).ofAdvance
  else do
    let literal ← readUnsigned false start
    pure (literal.map Literal.toNumber)

end SoundScene.Json
