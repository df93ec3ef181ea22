import SoundScene.Keyed
import SoundScene.Decimal

/-!
JSON values.  Integers that fit 64 bits keep their integer form and every other number is a double.
An object is a list of members: those that are read have ascending keys (`Value.ofMembers`), and a
record that is written keeps the order in which its members are listed.
-/

namespace SoundScene.Json

inductive Number where
  | int (n : Int)
  | real (x : Float)
deriving DecidableEq, Repr

/-- The number as a double; an integer is rounded to the nearest one. -/
def Number.toFloat : Number → Float
  | .int n =>
    let size := Decimal.toFloat ⟨n.natAbs, 0⟩
    if n < 0 then -size else size
  | .real x => x

inductive Value where
  | null
  | bool (b : Bool)
  | number (n : Number)
  | string (s : String)
  | list (items : List Value)
  | object (members : List (String × Value))
deriving Repr, Inhabited

namespace Value

mutual

def decEq : (first second : Value) → Decidable (first = second)
  | .null, .null => isTrue rfl
  | .bool b, .bool c => decidable_of_iff (b = c) (by simp)
  | .number n, .number m => decidable_of_iff (n = m) (by simp)
  | .string s, .string t => decidable_of_iff (s = t) (by simp)
  | .list xs, .list ys => @decidable_of_iff _ (xs = ys) (by simp) (decEqItems xs ys)
  | .object xs, .object ys => @decidable_of_iff _ (xs = ys) (by simp) (decEqMembers xs ys)
  | .null, .bool _ | .null, .number _ | .null, .string _ | .null, .list _ | .null, .object _
  | .bool _, .null | .bool _, .number _ | .bool _, .string _ | .bool _, .list _
  | .bool _, .object _ | .number _, .null | .number _, .bool _ | .number _, .string _
  | .number _, .list _ | .number _, .object _ | .string _, .null | .string _, .bool _
  | .string _, .number _ | .string _, .list _ | .string _, .object _ | .list _, .null
  | .list _, .bool _ | .list _, .number _ | .list _, .string _ | .list _, .object _
  | .object _, .null | .object _, .bool _ | .object _, .number _ | .object _, .string _
  | .object _, .list _ => isFalse nofun

def decEqItems : (first second : List Value) → Decidable (first = second)
  | [], [] => isTrue rfl
  | [], _ :: _ => isFalse nofun
  | _ :: _, [] => isFalse nofun
  | x :: xs, y :: ys =>
    match decEq x y, decEqItems xs ys with
    | isTrue head, isTrue tail => isTrue (by rw [head, tail])
    | isFalse head, _ => isFalse fun equal => head (List.cons.inj equal).1
    | _, isFalse tail => isFalse fun equal => tail (List.cons.inj equal).2

def decEqMembers : (first second : List (String × Value)) → Decidable (first = second)
  | [], [] => isTrue rfl
  | [], _ :: _ => isFalse nofun
  | _ :: _, [] => isFalse nofun
  | (key, x) :: xs, (other, y) :: ys =>
    if same : key = other then
      match decEq x y, decEqMembers xs ys with
      | isTrue head, isTrue tail => isTrue (by rw [same, head, tail])
      | isFalse head, _ => isFalse fun equal => head (Prod.mk.inj (List.cons.inj equal).1).2
      | _, isFalse tail => isFalse fun equal => tail (List.cons.inj equal).2
    else isFalse fun equal => same (Prod.mk.inj (List.cons.inj equal).1).1

end

instance : DecidableEq Value := decEq

/-- The object of some members: keys in ascending order, the last member of a key staying. -/
def ofMembers (members : List (String × Value)) : Value :=
  .object (Keyed.ofList members)

/-- A double that is not finite has no JSON form and is written as `null`. -/
def ofFloat (x : Float) : Value :=
  if x.isFinite then .number (.real x) else .null

def ofNat (n : Nat) : Value := .number (.int n)

def ofStrings (texts : List String) : Value := .list (texts.map .string)

def ofFloats (xs : List Float) : Value := .list (xs.map ofFloat)

def ofOption (text : Option String) : Value :=
  match text with
  | some text => .string text
  | none => .null

def member? (key : String) : Value → Option Value
  | .object members => Keyed.find? key members
  | _ => none

mutual

/-- Puts the members of every object in ascending key order. -/
def sorted : Value → Value
  | .list items => .list (sortedItems items)
  | .object members => ofMembers (sortedMembers members)
  | other => other

def sortedItems : List Value → List Value
  | [] => []
  | item :: rest => item.sorted :: sortedItems rest

def sortedMembers : List (String × Value) → List (String × Value)
  | [] => []
  | (key, value) :: rest => (key, value.sorted) :: sortedMembers rest

end

end Value

end SoundScene.Json
