import SoundScene.Json.Value
import SoundScene.Text.Digits
import SoundScene.Text.Split

/-!
Pointers: texts such as `/a/0` that name a part of a value by keys and indices.
-/

namespace SoundScene.Json

/-- In a step of a pointer `~1` stands for a slash and `~0` for a tilde. -/
def unescapeStep : List Char → List Char
  | '~' :: '0' :: rest => '~' :: unescapeStep rest
  | '~' :: '1' :: rest => '/' :: unescapeStep rest
  | c :: rest => c :: unescapeStep rest
  | [] => []

/-- An index is written without zeros before it. -/
def indexOf? (step : List Char) : Option Nat :=
  let padded := 1 < step.length && step.head? = some '0'
  if step.isEmpty || padded || !step.all Char.isDigit then none else some (Text.numeral step)

namespace Value

def part? (value : Value) (step : List Char) : Option Value :=
  match value with
  | .object _ => value.member? (String.ofList step)
  | .list items => (indexOf? step).bind fun index => items[index]?
  | _ => none

def atPointer? (value : Value) (pointer : String) : Option Value :=
  match pointer.toList with
  | [] => some value
  | '/' :: steps =>
    ((Text.pieces '/' steps).map unescapeStep).foldlM part? value
  | _ => none

example : (Value.list [.null, .object [("a/b", .bool true)]]).atPointer? "/1/a~1b" =
    some (.bool true) := by decide +kernel

end Value

end SoundScene.Json
