import SoundScene.Text.Blank
import SoundScene.Text.Word

/-!
Files of assignments `KEY=value`, one a line.  Values may be quoted, may run over several lines
between quotes, and may name other variables.  Reading stops at the first line that is malformed;
what stands before it counts.
-/

namespace SoundScene.EnvFile

open Text

/-- The variables that are set, the first entry of a name being the one that counts. -/
abbrev Variables := List (String × String)

def value? (bindings : Variables) (name : String) : Option String :=
  (bindings.find? (·.1 = name)).map (·.2)

/-- The text that a name in a value stands for.  A variable is looked up as `name=value` and gives
what is behind the name and an equal sign, so a name that runs on into the value, up to an equal
sign there, gives the rest of the value. -/
def named (bindings : Variables) (name : String) : List Char :=
  let start := name.toList ++ ['=']
  let found := bindings.findSome? fun (key, value) =>
    start.isPrefixOf? (key.toList ++ '=' :: value.toList)
  found.getD []

def define (bindings : Variables) (name value : String) : Variables :=
  if (value? bindings name).isSome then bindings else bindings ++ [(name, value)]

example : named [("URL", "ws://h?a=b")] "URL" = "ws://h?a=b".toList ∧
    named [("URL", "ws://h?a=b")] "URL=ws://h?a" = ['b'] ∧
    named [("URL", "ws://h?a=b")] "UR" = [] := by decide +kernel

/-! Lines. -/

/-- What the end of a line would be part of. -/
inductive LineState where
  | complete
  | blank
  | escape
  | strong
  | strongEscape
  | weak
  | weakEscape
deriving DecidableEq, Repr

namespace LineState

/-- After an ordinary character outside of quotes. -/
def plain (c : Char) : LineState :=
  if c = '\\' then .escape else if c = '"' then .weak else if c = '\'' then .strong else .complete

/-- One character further on; nothing where a comment starts. -/
def next : LineState → Char → Option LineState
  | .blank, c => if c = '#' then none else some (plain c)
  | .complete, c =>
    if isBlank c && c ≠ '\n' && c ≠ '\r' then some .blank else some (plain c)
  | .escape, _ => some .complete
  | .weak, c => some (if c = '\\' then .weakEscape else if c = '"' then .complete else .weak)
  | .weakEscape, _ => some .weak
  | .strong, c => some (if c = '\\' then .strongEscape else if c = '\'' then .complete else .strong)
  | .strongEscape, _ => some .strong

/-- The part of a line before its comment, and the state at its end if it has no comment. -/
def run : LineState → List Char → List Char × Option LineState
  | state, [] => ([], some state)
  | state, c :: rest =>
    match state.next c with
    | none => ([], none)
    | some state =>
      let (kept, final) := run state rest
      (c :: kept, final)

end LineState

def splitLines : List Char → List (List Char)
  | [] => []
  | c :: rest =>
    if c = '\n' then [c] :: splitLines rest
    else match splitLines rest with
      | [] => [[c]]
      | line :: lines => (c :: line) :: lines

def chomp (line : List Char) : List Char :=
  match line.reverse with
  | '\n' :: '\r' :: rest => rest.reverse
  | '\n' :: rest => rest.reverse
  | _ => line

/-- Joins lines while quotes are open; a text that ends inside of quotes loses its last lines. -/
def joinLines : (held : List Char) → LineState → List (List Char) → List (List Char)
  | _, _, [] => []
  | held, state, line :: rest =>
    let whole := held ++ line
    if (trimStart whole).head? = some '#' then [] :: joinLines [] .complete rest
    else match state.run line with
      | (kept, none) => (held ++ kept) :: joinLines [] .complete rest
      | (_, some .complete) => chomp whole :: joinLines [] .complete rest
      | (_, some state) => joinLines whole state rest

/-! Values. -/

inductive ValueMode where
  | plain (quoted : Bool)
  | literal
  | escaped (quoted : Bool)
  | name (quoted : Bool) (taken : List Char)
  | braced (quoted : Bool) (taken : List Char)
  | ending
deriving DecidableEq, Repr

namespace ValueMode

variable (lookUp : String → List Char)

/-- What is still to be written at the end of a value, unless a quote or brace is open. -/
def finish : ValueMode → Option (List Char)
  | .plain quoted | .escaped quoted => if quoted then none else some []
  | .name quoted taken => if quoted then none else some (lookUp (String.ofList taken))
  | .literal | .braced .. => none
  | .ending => some []

/-- What a character writes, and the mode after it.  The character that ends a name stands for
itself, whatever it is. -/
def step : ValueMode → Char → Option (List Char × ValueMode)
  | .plain quoted, c =>
    if c = '$' then some ([], .name quoted [])
    else if c = '\\' then some ([], .escaped quoted)
    else if c = '"' then some ([], .plain !quoted)
    else if quoted then some ([c], .plain quoted)
    else if c = '\'' then some ([], .literal)
    else if c = ' ' ∨ c = '\t' then some ([], .ending)
    else some ([c], .plain quoted)
  | .literal, c => if c = '\'' then some ([], .plain false) else some ([c], .literal)
  | .escaped quoted, c =>
    if c = 'n' then some (['\n'], .plain quoted)
    else if c = '\\' ∨ c = '\'' ∨ c = '"' ∨ c = '$' ∨ c = ' ' then some ([c], .plain quoted)
    else none
  | .name quoted taken, c =>
    if isWord c then some ([], .name quoted (taken ++ [c]))
    else if c = '{' ∧ taken = [] then some ([], .braced quoted [])
    else if c = '$' then some (lookUp (String.ofList taken), .name quoted [])
    else some (lookUp (String.ofList taken) ++ [c], .plain quoted)
  | .braced quoted taken, c =>
    if c = '}' then some (lookUp (String.ofList taken), .plain quoted)
    else some ([], .braced quoted (taken ++ [c]))
  | .ending, c => if c = ' ' ∨ c = '\t' then some ([], .ending) else none

end ValueMode

/-- The value that a text stands for.  Behind a blank only a comment may follow. -/
def value (lookUp : String → List Char) : ValueMode → List Char → Option (List Char)
  | mode, [] => mode.finish lookUp
  | mode, c :: rest =>
    if mode = .ending ∧ c = '#' then some []
    else do
      let (written, mode) ← mode.step lookUp c
      let more ← value lookUp mode rest
      pure (written ++ more)

/-! Assignments. -/

def isKeyStart (c : Char) : Bool := c.isAlpha || c = '_'

def isKeyPart (c : Char) : Bool := c.isAlphanum || c = '_' || c = '.'

/-- The key that a text starts with, and what follows it and blanks. -/
def key? (text : List Char) : Option (List Char × List Char) :=
  if text.head?.any isKeyStart then
    let (key, rest) := text.span isKeyPart
    some (key, trimStart rest)
  else none

def equalSign? : List Char → Option (List Char)
  | '=' :: rest => some (trimStart rest)
  | _ => none

/-- The key of an assignment and the text of its value; the word `export` may stand before. -/
def assignment? (text : List Char) : Option (List Char × List Char) := do
  let (key, rest) ← key? text
  match equalSign? rest with
  | some rest => some (key, rest)
  | none =>
    if key = "export".toList then do
      let (key, rest) ← key? rest
      let rest ← equalSign? rest
      some (key, rest)
    else none

def isEmptyOrComment (text : List Char) : Bool := text.isEmpty || text.head? = some '#'

/-- What a line says: nothing, or the key and the value of an assignment. -/
def line? (bindings : Variables) (line : List Char) : Option (Option (String × String)) :=
  let text := trim line
  if isEmptyOrComment text then some none
  else do
    let (key, rest) ← assignment? text
    let lookUp := named bindings
    let value ← if isEmptyOrComment rest then some [] else value lookUp (.plain false) rest
    some (some (String.ofList key, String.ofList value))

def readLines (bindings : Variables) : List (List Char) → Variables
  | [] => bindings
  | line :: rest =>
    match line? bindings line with
    | none => bindings
    | some none => readLines bindings rest
    | some (some (key, value)) => readLines (define bindings key value) rest

def load (bindings : Variables) (text : String) : Variables :=
  let text := match text.toList with
    | '\uFEFF' :: rest => rest
    | text => text
  readLines bindings (joinLines [] .complete (splitLines text))

end SoundScene.EnvFile
