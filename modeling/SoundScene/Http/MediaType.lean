import SoundScene.Text.Scan

/-!
Media types, such as `application/json; charset=utf-8`.  Only the form of the parameters is looked
at.
-/

namespace SoundScene.Http

open Text

structure MediaType where
  main : String
  sub : String
  /-- What stands behind the last plus sign of the second part, and is none of `sub`. -/
  suffix : Option String
deriving DecidableEq, Repr

namespace MediaType

def isToken (c : Char) : Bool :=
  c.isAlphanum || "!#$%&'*+-.^_`|~".toList.contains c

inductive ParameterState where
  | start
  | name
  | valueStart
  | value
  | quoteStart
  | quoted
  | quoteEnd
deriving DecidableEq, Repr

namespace ParameterState

def isQuotable (c : Char) : Bool := 31 < c.toNat && c.toNat ≠ 127

def step : ParameterState → Char → Option ParameterState
  | .start, c => if c = ' ' then some .start else if isToken c then some .name else none
  | .name, c => if c = '=' then some .valueStart else if isToken c then some .name else none
  | .valueStart, c => if c = '"' then some .quoteStart else if isToken c then some .value else none
  | .value, c => if c = ';' then some .start else if isToken c then some .value else none
  | .quoteStart, c => if isQuotable c then some .quoted else none
  | .quoted, c => if c = '"' then some .quoteEnd else if isQuotable c then some .quoted else none
  | .quoteEnd, c => if c = ';' then some .start else if c = ' ' then some .quoteEnd else none

def mayEnd : ParameterState → Bool
  | .start | .valueStart | .value | .quoteEnd => true
  | .name | .quoteStart | .quoted => false

end ParameterState

def areParameters (text : List Char) : Bool :=
  (text.foldlM ParameterState.step .start).any ParameterState.mayEnd

/-- Splits at the last plus sign that is not at the start. -/
def splitSuffix (sub : List Char) : List Char × Option (List Char) :=
  let suffix := (sub.reverse.takeWhile (· ≠ '+')).reverse
  let front := sub.take (sub.length - suffix.length - 1)
  if sub.contains '+' && !front.isEmpty then (front, some suffix) else (sub, none)

def lower (text : List Char) : String := String.ofList (text.map Char.toLower)

def scan : Scan MediaType := do
  let main ← Scan.many isToken
  Scan.char '/'
  let sub ← Scan.many isToken
  let rest ← Scan.many fun _ => true
  let accepted := match rest with
    | [] => true
    | c :: parameters => c = ';' && !sub.isEmpty && areParameters parameters
  if main.isEmpty || !accepted then Scan.refuse
  else
    let (sub, suffix) := splitSuffix sub
    pure ⟨lower main, lower sub, suffix.map lower⟩

def isPrintable (c : Char) : Bool := c = '\t' || (32 ≤ c.toNat && c.toNat < 127)

def parse (text : String) : Option MediaType :=
  if text.toList.all isPrintable then scan.whole text.toList else none

/-- Whether the type is JSON, or a format that is written in JSON. -/
def isJson (type : MediaType) : Bool :=
  type.main = "application" && (type.sub = "json" || type.suffix = some "json")

end MediaType

end SoundScene.Http
