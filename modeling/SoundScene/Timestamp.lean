import SoundScene.Calendar
import SoundScene.Text.Scan

/-!
Moments of universal time.  They are read from a date, a time of day and an offset in a lenient form
of the internet date format, and written in its strict form with the offset `Z`.
-/

namespace SoundScene

open Text

structure Timestamp where
  date : Date
  /-- The second of the day.  A leap second has the number of the second before it. -/
  second : Nat
  nanos : Nat
  isLeapSecond : Bool
deriving DecidableEq, Repr

namespace Timestamp

/-- A year has up to four digits, or any number of them behind a sign. -/
def scanYear : Scan Int := do
  Scan.blanks
  if ← Scan.optional '-' then
    let year ← Scan.anyNatural
    pure (-(year : Int))
  else if ← Scan.optional '+' then
    let year ← Scan.anyNatural
    pure year
  else
    let year ← Scan.natural 4
    pure year

/-- A part of a date or time, of one or two digits. -/
def scanPart : Scan Nat := do
  Scan.blanks
  Scan.natural 2

/-- A mark between two parts; blanks may come before it. -/
def scanMark (c : Char) : Scan Unit := do
  Scan.blanks
  Scan.char c

def scanDate : Scan Date := do
  let year ← scanYear
  scanMark '-'
  let month ← scanPart
  scanMark '-'
  let day ← scanPart
  let date : Date := ⟨year, month, day⟩
  if date.isValid then pure date else Scan.refuse

/-- The nanoseconds of a fraction: its first nine digits count, the others are passed over. -/
def scanFraction : Scan Nat := do
  if ← Scan.optional '.' then
    let digits ← Scan.digits 9
    let _ ← Scan.many Char.isDigit
    pure (numeral digits * Nat.pow 10 (9 - digits.length))
  else pure 0

def scanPair (most : Char) : Scan Nat := do
  let tens ← Scan.one fun c => c.isDigit && c ≤ most
  let ones ← Scan.one Char.isDigit
  pure (numeral [tens, ones])

def scanUtc : Scan Unit := do
  let _ ← Scan.one fun c => c = 'u' || c = 'U'
  let _ ← Scan.one fun c => c = 't' || c = 'T'
  let _ ← Scan.one fun c => c = 'c' || c = 'C'

/-- The offset from universal time in seconds: `Z`, or a sign, hours and minutes, which colons and
blanks may separate. -/
def scanOffset : Scan Int := do
  match ← Scan.peek with
  | some 'z' | some 'Z' =>
    let _ ← Scan.one fun _ => true
    pure 0
  | _ =>
    let sign ← Scan.one fun c => c = '+' || c = '-' || c = '\u2212'
    let hours ← scanPair '9'
    let _ ← Scan.many fun c => c = ':' || isBlank c
    let minutes ← scanPair '5'
    let seconds := hours * 3600 + minutes * 60
    if 86400 ≤ seconds then Scan.refuse
    else if sign = '+' then pure seconds
    else pure (-(seconds : Int))

/-- The same moment on the clock of universal time, for one whose clock is ahead by `offset`. -/
def shift (date : Date) (second : Nat) (offset : Int) : Date × Nat :=
  let total := (second : Int) - offset
  if total < 0 then (date.previous, (total + 86400).toNat)
  else if 86400 ≤ total then (date.next, (total - 86400).toNat)
  else (date, total.toNat)

def scan : Scan Timestamp := do
  let date ← scanDate
  let _ ← Scan.one fun c => c = 'T' || c = 't' || c = ' '
  let hour ← scanPart
  scanMark ':'
  let minute ← scanPart
  scanMark ':'
  let second ← scanPart
  if 23 < hour ∨ 59 < minute ∨ 60 < second then Scan.refuse
  else
    let nanos ← scanFraction
    Scan.blanks
    let offset ← (scanUtc *> pure 0) <|> scanOffset
    Scan.blanks
    let (date, start) := shift date (hour * 3600 + minute * 60 + min second 59) offset
    if Date.yearInRange date.year then pure ⟨date, start, nanos, second = 60⟩ else Scan.refuse

def parse (text : String) : Option Timestamp := scan.whole text.toList

def padded (width n : Nat) : List Char :=
  let digits := digitsOf n
  List.replicate (width - digits.length) '0' ++ digits

/-- A year of other than four digits takes a sign. -/
def yearChars (year : Int) : List Char :=
  if 0 ≤ year ∧ year ≤ 9999 then padded 4 year.toNat
  else (if year < 0 then '-' else '+') :: padded 4 year.natAbs

/-- A fraction is written with three, six or nine digits, and not at all when it is zero. -/
def fractionChars (nanos : Nat) : List Char :=
  if nanos = 0 then []
  else if nanos % 1000000 = 0 then '.' :: padded 3 (nanos / 1000000)
  else if nanos % 1000 = 0 then '.' :: padded 6 (nanos / 1000)
  else '.' :: padded 9 nanos

def text (moment : Timestamp) : String :=
  let second := moment.second % 60 + if moment.isLeapSecond then 1 else 0
  String.ofList <|
    yearChars moment.date.year ++ '-' :: padded 2 moment.date.month ++
    '-' :: padded 2 moment.date.day ++ 'T' :: padded 2 (moment.second / 3600) ++
    ':' :: padded 2 (moment.second / 60 % 60) ++ ':' :: padded 2 second ++
    fractionChars moment.nanos ++ ['Z']

def epoch : Timestamp := ⟨⟨1970, 1, 1⟩, 0, 0, false⟩

end Timestamp

end SoundScene
