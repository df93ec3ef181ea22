import SoundScene.Json.Text
import SoundScene.Text.Quoted

/-!
What can go wrong when JSON is read: the text is malformed (`Flaw`), or a well-formed value is not
of the kind that is needed (`Mismatch`).  A `Fault` says which, and where in the text it was
noticed.
-/

namespace SoundScene.Json

inductive Flaw where
  | endInValue
  | endInList
  | endInObject
  | endInString
  | expectedValue
  | expectedWord
  | expectedListEnd
  | expectedObjectEnd
  | expectedColon
  | trailingComma
  | trailingCharacters
  | keyNotString
  | controlCharacter
  | invalidEscape
  | loneSurrogate
  | cutSurrogate
  | invalidCharacter
  | invalidNumber
  | numberOutOfRange
  | tooDeep
deriving DecidableEq, Repr

def Flaw.message : Flaw → String
  | .endInValue => "EOF while parsing a value"
  | .endInList => "EOF while parsing a list"
  | .endInObject => "EOF while parsing an object"
  | .endInString => "EOF while parsing a string"
  | .expectedValue => "expected value"
  | .expectedWord => "expected ident"
  | .expectedListEnd => "expected `,` or `]`"
  | .expectedObjectEnd => "expected `,` or `\x7d`"
  | .expectedColon => "expected `:`"
  | .trailingComma => "trailing comma"
  | .trailingCharacters => "trailing characters"
  | .keyNotString => "key must be a string"
  | .controlCharacter => "control character (\\u0000-\\u001F) found while parsing a string"
  | .invalidEscape => "invalid escape"
  | .loneSurrogate => "lone leading surrogate in hex escape"
  | .cutSurrogate => "unexpected end of hex escape"
  | .invalidCharacter => "invalid unicode code point"
  | .invalidNumber => "invalid number"
  | .numberOutOfRange => "number out of range"
  | .tooDeep => "recursion limit exceeded"

inductive Found where
  | null
  | bool (b : Bool)
  | number (n : Number)
  | string (s : String)
  | list
  | object
deriving DecidableEq, Repr

def Found.describe : Found → String
  | .null => "null"
  | .bool true => "boolean `true`"
  | .bool false => "boolean `false`"
  | .number (.int n) => "integer `" ++ String.ofList (intChars n) ++ "`"
  | .number (.real x) => "floating point `" ++ String.ofList (floatChars x) ++ "`"
  | .string s => "string " ++ Text.quoted s
  | .list => "sequence"
  | .object => "map"

def Value.found : Value → Found
  | .null => .null
  | .bool b => .bool b
  | .number n => .number n
  | .string s => .string s
  | .list _ => .list
  | .object _ => .object

inductive Mismatch where
  | wrongKind (found : Found) (expected : String)
  | wrongCount (expected : String) (found : Nat)
  | missingField (name : String)
  | duplicateField (name : String)
  | tooShort (length : Nat) (expected : String)
  | tooLong (length : Nat)
  | invalidText (text : String)
deriving DecidableEq, Repr

def Mismatch.message : Mismatch → String
  | .wrongKind found expected => "invalid type: " ++ found.describe ++ ", expected " ++ expected
  | .wrongCount expected found =>
    "expected a list of " ++ expected ++ " numbers, found " ++ found.repr
  | .missingField name => "missing field `" ++ name ++ "`"
  | .duplicateField name => "duplicate field `" ++ name ++ "`"
  | .tooShort length expected => "invalid length " ++ length.repr ++ ", expected " ++ expected
  | .tooLong length =>
    "invalid length " ++ length.repr ++ ", expected fewer elements in array"
  | .invalidText text => "invalid value: string " ++ Text.quoted text

structure Place where
  line : Nat
  column : Nat
deriving DecidableEq, Repr

inductive Step where
  | member (key : String)
  | item (index : Nat)
deriving DecidableEq, Repr

inductive Cause where
  | flaw (why : Flaw)
  | mismatch (why : Mismatch)
deriving DecidableEq, Repr

def Cause.message : Cause → String
  | .flaw why => why.message
  | .mismatch why => why.message

/-- What went wrong, where it was noticed, and the way to the value that was being read there. -/
structure Fault where
  cause : Cause
  place : Place
  path : List Step
deriving DecidableEq, Repr

namespace Fault

def message (fault : Fault) : String :=
  fault.cause.message ++ " at line " ++ fault.place.line.repr ++
    " column " ++ fault.place.column.repr

def within (fault : Fault) (step : Step) : Fault :=
  { fault with path := step :: fault.path }

/-- Members are joined by points; an index stands in brackets right after what it belongs to. -/
def pathText : (first : Bool) → List Step → String
  | _, [] => ""
  | first, .member key :: rest => (if first then "" else ".") ++ key ++ pathText false rest
  | _, .item index :: rest => "[" ++ index.repr ++ "]" ++ pathText false rest

def messageWithPath (fault : Fault) : String :=
  if fault.path = [] then fault.message else pathText true fault.path ++ ": " ++ fault.message

def isFlaw (fault : Fault) : Bool :=
  match fault.cause with
  | .flaw _ => true
  | .mismatch _ => false

end Fault

end SoundScene.Json
