import SoundScene.Text.Digits
import SoundScene.Text.Utf8

/-!
Percent-encoding: a byte may be written as `%` and two hexadecimal digits.
-/

namespace SoundScene.Http

def byte? (high low : Char) : Option UInt8 := (Text.hexNumeral? [high, low]).map UInt8.ofNat

/-- A percent sign without two digits behind it stands for itself. -/
def percentBytes : List Char → List UInt8
  | '%' :: high :: low :: rest =>
    match byte? high low with
    | some byte => byte :: percentBytes rest
    | none => 0x25 :: percentBytes (high :: low :: rest)
  | c :: rest => Text.utf8 c ++ percentBytes rest
  | [] => []

def percentDecode (text : String) : Option String :=
  (Text.chars? (Text.symbols (percentBytes text.toList))).map String.ofList

end SoundScene.Http
