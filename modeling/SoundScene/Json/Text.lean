import SoundScene.Json.Value

/-!
The text of JSON values: no blanks, members in the order of the list, and only the characters
escaped that have to be.  A double is written with its shortest digits and always shows that it is
one, by a fraction or by an exponent.
-/

namespace SoundScene.Json

def hexDigit (n : Nat) : Char := Nat.digitChar (n % 16)

/-- A quote, a backslash and the control characters are escaped; all else stands for itself. -/
def escape (c : Char) : List Char :=
  if c = '"' then ['\\', '"']
  else if c = '\\' then ['\\', '\\']
  else if c = '\n' then ['\\', 'n']
  else if c = '\r' then ['\\', 'r']
  else if c = '\t' then ['\\', 't']
  else if c = '\x08' then ['\\', 'b']
  else if c = '\x0c' then ['\\', 'f']
  else if c.toNat < 0x20 then ['\\', 'u', '0', '0', hexDigit (c.toNat / 16), hexDigit c.toNat]
  else [c]

def quote (text : List Char) : List Char :=
  '"' :: text.flatMap escape ++ ['"']

def intChars : Int → List Char
  | .ofNat n => Text.digitsOf n
  | .negSucc n => '-' :: Text.digitsOf (n + 1)

/--
Lays a decimal out.  With its leading digit at `10 ^ e` it is positional for `-5 ≤ e ≤ 15`, with a
fraction of at least one digit; otherwise it is in scientific form, where a lone digit takes no
point and the exponent always takes a sign.
-/
def layout (d : Decimal) : List Char :=
  let digits := Text.digitsOf d.digits
  let point : Int := d.magnitude
  let lead : Int := point - 1
  if -5 ≤ lead ∧ lead ≤ 15 then
    if 0 ≤ d.exponent then digits ++ List.replicate d.exponent.toNat '0' ++ ['.', '0']
    else if 0 < point then digits.take point.toNat ++ '.' :: digits.drop point.toNat
    else '0' :: '.' :: List.replicate (-point).toNat '0' ++ digits
  else
    let fraction := if digits.length = 1 then [] else '.' :: digits.drop 1
    let sign := if lead < 0 then '-' else '+'
    digits.take 1 ++ fraction ++ 'e' :: sign :: Text.digitsOf lead.natAbs

/-- Whether the sign bit is set, which also tells the two zeros apart. -/
def isNegative (x : Float) : Bool := x.toBits.toNat / Nat.pow 2 63 = 1

def sizeChars (x : Float) : List Char :=
  if x == 0.0 then ['0', '.', '0'] else layout (Decimal.shortest x)

def floatChars (x : Float) : List Char :=
  if isNegative x then '-' :: sizeChars (-x) else sizeChars x

def Number.chars : Number → List Char
  | .int n => intChars n
  | .real x => floatChars x

namespace Value

mutual

def chars : Value → List Char
  | .null => "null".toList
  | .bool true => "true".toList
  | .bool false => "false".toList
  | .number n => n.chars
  | .string s => quote s.toList
  | .list items => '[' :: itemChars items ++ [']']
  | .object members => '{' :: memberChars members ++ ['}']

def itemChars : List Value → List Char
  | [] => []
  | [item] => item.chars
  | item :: next :: rest => item.chars ++ ',' :: itemChars (next :: rest)

def memberChars : List (String × Value) → List Char
  | [] => []
  | [(key, value)] => quote key.toList ++ ':' :: value.chars
  | (key, value) :: next :: rest =>
    quote key.toList ++ ':' :: value.chars ++ ',' :: memberChars (next :: rest)

end

def text (value : Value) : String := String.ofList value.chars

end Value

end SoundScene.Json
