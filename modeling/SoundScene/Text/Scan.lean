import SoundScene.Text.Blank
import SoundScene.Text.Digits

/-!
Scanners: functions that take what they need from the front of a text, or refuse it.  They are
sequenced with `do`; a refused scanner ends the whole scan.
-/

namespace SoundScene.Text

abbrev Scan (α : Type) : Type := StateT (List Char) Option α

namespace Scan

variable {α : Type}

def refuse : Scan α := fun _ => none

def blanks : Scan Unit := fun text => some ((), trimStart text)

def peek : Scan (Option Char) := fun text => some (text.head?, text)

def one (accepted : Char → Bool) : Scan Char
  | c :: rest => if accepted c then some (c, rest) else none
  | [] => none

def char (c : Char) : Scan Unit := do
  let _ ← one (· = c)

def optional (c : Char) : Scan Bool
  | d :: rest => if d = c then some (true, rest) else some (false, d :: rest)
  | [] => some (false, [])

def many (accepted : Char → Bool) : Scan (List Char) :=
  fun text => some (text.span accepted)

/-- Takes up to `most` decimal digits, and at least one. -/
def digits (most : Nat) : Scan (List Char) := fun text =>
  let taken := (text.take most).takeWhile Char.isDigit
  if taken.isEmpty then none else some (taken, text.drop taken.length)

def natural (most : Nat) : Scan Nat := do
  pure (numeral (← digits most))

def anyNatural : Scan Nat := do
  let digits ← many Char.isDigit
  if digits.isEmpty then refuse else pure (numeral digits)

/-- The value that a scanner takes the whole of a text for. -/
def whole (scan : Scan α) (text : List Char) : Option α :=
  match scan text with
  | some (value, []) => some value
  | _ => none

end Scan

end SoundScene.Text
