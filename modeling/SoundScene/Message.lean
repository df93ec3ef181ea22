import SoundScene.Command
import SoundScene.Json.Parser

/-!
Messages: one JSON list in which command names and payloads alternate.  A message is decoded as a
whole before any of its commands is run.
-/

namespace SoundScene

open Json

namespace Message

/-- The name of a command as an error message shows it: a text stands for itself. -/
def label : Value → String
  | .string name => name
  | other => other.text

/-- Reads names and payloads in turn.  A name without payload is reported before its kind is. -/
def ofItems : List Value → Except Failure (List Command)
  | [] => .ok []
  | [name] => .error (.missingPayload (label name))
  | .string name :: payload :: rest => do
    let command ← Command.decode name payload
    let commands ← ofItems rest
    pure (command :: commands)
  | name :: _ :: _ => .error (.unknownCommand name.text)

def ofValue : Value → Except Failure (List Command)
  | .list items => ofItems items
  | other => .error (.invalidMessage ("message must be a JSON array, not " ++ other.text))

def decode (text : String) : Except Failure (List Command) :=
  match Value.parse text with
  | .ok value => ofValue value
  | .error fault => .error (.json fault)

def items (commands : List Command) : List Value :=
  commands.flatMap fun command => [.string command.name, command.payload]

def toValue (commands : List Command) : Value := .list (items commands)

def encode (commands : List Command) : String := (toValue commands).text

end Message

end SoundScene
