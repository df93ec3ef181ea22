/-!
The characters of a sequence of bytes in UTF-8.  `symbols` never fails: a byte that is part of no
character is kept as it is, so a reader can pass over it where it does not matter.
-/

namespace SoundScene.Text

/-- A piece of a text: a character, or a byte that is part of none. -/
inductive Symbol where
  | char (c : Char)
  | stray (b : UInt8)
deriving DecidableEq, Repr

def Symbol.width : Symbol → Nat
  | .char c => c.utf8Size
  | .stray _ => 1

/-- The low six bits of a byte that continues a character. -/
def tailBits (b : UInt8) : Option Nat :=
  if 0x80 ≤ b.toNat ∧ b.toNat < 0xC0 then some (b.toNat - 0x80) else none

/-- The character of a code point that needs at least `least`, the size that its form is for. -/
def charFrom (least code : Nat) : Option Char :=
  if valid : code.isValidChar then
    if least ≤ code then some (Char.ofNatAux code valid) else none
  else none

/-- The character that some bytes start with, and how many bytes follow its first one. -/
def firstChar (first : UInt8) (rest : List UInt8) : Option (Char × Nat) :=
  let lead := first.toNat
  if lead < 0x80 then (charFrom 0 lead).map (·, 0)
  else if 0xC0 ≤ lead ∧ lead < 0xE0 then
    match rest with
    | b :: _ => do
      let low ← tailBits b
      let c ← charFrom 0x80 ((lead - 0xC0) * 64 + low)
      pure (c, 1)
    | _ => none
  else if 0xE0 ≤ lead ∧ lead < 0xF0 then
    match rest with
    | a :: b :: _ => do
      let high ← tailBits a
      let low ← tailBits b
      let c ← charFrom 0x800 (((lead - 0xE0) * 64 + high) * 64 + low)
      pure (c, 2)
    | _ => none
  else if 0xF0 ≤ lead ∧ lead < 0xF8 then
    match rest with
    | a :: b :: d :: _ => do
      let high ← tailBits a
      let middle ← tailBits b
      let low ← tailBits d
      let c ← charFrom 0x10000 ((((lead - 0xF0) * 64 + high) * 64 + middle) * 64 + low)
      pure (c, 3)
    | _ => none
  else none

def symbols : List UInt8 → List Symbol
  | [] => []
  | first :: rest =>
    match firstChar first rest with
    | some (c, more) => .char c :: symbols (rest.drop more)
    | none => .stray first :: symbols rest
termination_by bytes => bytes.length
decreasing_by all_goals grind

def chars? : List Symbol → Option (List Char)
  | [] => some []
  | .char c :: rest => (chars? rest).map (c :: ·)
  | .stray _ :: _ => none

def byteCount (symbols : List Symbol) : Nat :=
  symbols.foldl (fun bytes symbol => bytes + symbol.width) 0

/-- The symbols from the first byte on that is part of no character. -/
def fromStray : List Symbol → List Symbol
  | [] => []
  | .char _ :: rest => fromStray rest
  | .stray b :: rest => .stray b :: rest

def utf8 (c : Char) : List UInt8 := (String.singleton c).toUTF8.toList

example : symbols [0x61, 0xC3, 0xA9, 0xFF, 0xE2, 0x82, 0x22] =
    [.char 'a', .char 'é', .stray 0xFF, .stray 0xE2, .stray 0x82, .char '"'] := by decide +kernel

example : byteCount (fromStray (symbols [0x61, 0xFF, 0xC3, 0xA9])) = 3 := by decide +kernel

end SoundScene.Text
