import SoundScene.Failure
import SoundScene.Settings.EnvFile
import SoundScene.Settings.SocketAddress
import SoundScene.Text.Split

/-!
The settings, read from variables.  A variable that is missing leaves the default; of those that
are set only a bad address to listen on is an error.
-/

namespace SoundScene

open Text

/-- The pieces between commas, without the blanks around them and without those that are blank. -/
def topicList (text : String) : List String :=
  (((pieces ',' text.toList).map trim).filter fun piece => !piece.isEmpty).map String.ofList

structure Settings where
  listen : SocketAddress
  rendererUrl : String
  /-- Where such a document is to be fetched. -/
  documentUrl : Option String
  /-- How long fetching it may take, in milliseconds. -/
  fetchTimeout : Nat
  topics : List String
  feedCapacity : Nat
  jsonLog : Bool
deriving DecidableEq, Repr

namespace Settings

def defaultListen : SocketAddress := .v4 ⟨127, 0, 0, 1⟩ 9423

def defaultUrl : String := "ws://localhost:9422"

def defaultTopics : List String := ["scene", "renderer"]

/-- A number of at most 64 bits; a plus sign may come before it. -/
def natural? (text : String) : Option Nat :=
  let digits := match text.toList with
    | '+' :: rest => rest
    | text => text
  if digits.isEmpty || !digits.all Char.isDigit then none
  else
    let n := numeral digits
    if n < Nat.pow 2 64 then some n else none

def listenOf (text : Option String) : Except Failure SocketAddress :=
  match text with
  | none => .ok defaultListen
  | some text =>
    match SocketAddress.parse text with
    | some address => .ok address
    | none => .error (.settings "LISTEN_ADDR: invalid socket address syntax")

/-- The topics that a variable lists, or the default ones if it lists none. -/
def topicsOf (text : Option String) : List String :=
  match text with
  | none => defaultTopics
  | some text =>
    let topics := topicList text
    if topics.isEmpty then defaultTopics else topics

def ofVariables (bindings : EnvFile.Variables) : Except Failure Settings := do
  let value? := EnvFile.value? bindings
  let listen ← listenOf (value? "LISTEN_ADDR")
  pure {
    listen
    rendererUrl := (value? "SSR_URL").getD defaultUrl
    documentUrl := (value? "SSR_CONFIG_URL").filter fun url => !(trim url.toList).isEmpty
    fetchTimeout := ((value? "SSR_CONFIG_TIMEOUT_MS").bind natural?).getD 5000
    topics := topicsOf (value? "SSR_SUBSCRIPTIONS")
    feedCapacity := ((value? "EVENT_BUS_CAPACITY").bind natural?).getD 1024
    jsonLog := value? "LOG_FORMAT" = some "json" }

def load (bindings : EnvFile.Variables) (file : Option String) : Except Failure Settings :=
  ofVariables <| match file with
    | some text => EnvFile.load bindings text
    | none => bindings

end Settings

end SoundScene
