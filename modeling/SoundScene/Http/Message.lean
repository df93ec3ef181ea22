import SoundScene.Json.Text

/-!
Requests and responses of the hypertext transfer protocol.
-/

namespace SoundScene.Http

/-- Named lines before the body; names are compared without regard to case. -/
abbrev Headers := List (String × String)

def Headers.find? (headers : Headers) (name : String) : Option String :=
  (List.find? (fun header => header.1.toLower = name.toLower) headers).map (·.2)

structure Request where
  method : String
  target : String
  headers : Headers
  body : List UInt8
deriving DecidableEq, Repr

structure Response where
  status : Nat
  headers : Headers
  body : String
deriving DecidableEq, Repr

namespace Response

def ofStatus (status : Nat) : Response := ⟨status, [], ""⟩

def ofText (status : Nat) (body : String) : Response :=
  ⟨status, [("content-type", "text/plain; charset=utf-8")], body⟩

def ofValue (status : Nat) (value : Json.Value) : Response :=
  ⟨status, [("content-type", "application/json")], value.text⟩

def withHeaders (response : Response) (headers : Headers) : Response :=
  { response with headers := response.headers ++ headers }

def withoutBody (response : Response) : Response := { response with body := "" }

end Response

end SoundScene.Http
