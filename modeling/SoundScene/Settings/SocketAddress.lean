import SoundScene.Text.Scan

/-!
Socket addresses: an address of the internet protocol in version 4 or 6, and a port.  Each address
has one text that is written and several that are read.
-/

namespace SoundScene

open Text

structure Octets where
  a : Nat
  b : Nat
  c : Nat
  d : Nat
deriving DecidableEq, Repr

inductive SocketAddress where
  | v4 (octets : Octets) (port : Nat)
  /-- Eight groups of sixteen bits, and the number of the scope, which is zero for none. -/
  | v6 (groups : List Nat) (scope port : Nat)
deriving DecidableEq, Repr

namespace SocketAddress

/-- A number below a limit; zeros may come before it. -/
def scanBelow (limit : Nat) : Scan Nat := do
  let n ← Scan.anyNatural
  if n < limit then pure n else Scan.refuse

/-- A byte in at most three digits, without a zero before another digit. -/
def scanOctet : Scan Nat := do
  let digits ← Scan.many Char.isDigit
  let padded := 1 < digits.length && digits.head? = some '0'
  if digits.isEmpty || 3 < digits.length || padded then Scan.refuse
  else if numeral digits < 256 then pure (numeral digits)
  else Scan.refuse

def scanOctets : Scan Octets := do
  let a ← scanOctet
  Scan.char '.'
  let b ← scanOctet
  Scan.char '.'
  let c ← scanOctet
  Scan.char '.'
  let d ← scanOctet
  pure ⟨a, b, c, d⟩

/-- A group of one to four hexadecimal digits. -/
def scanGroup : Scan Nat := do
  let digits ← Scan.many fun c => (hexValue? c).isSome
  if digits.isEmpty || 4 < digits.length then Scan.refuse
  else hexNumeral? digits

/-- A colon comes before all groups but the first. -/
def scanColon (first : Bool) : Scan Unit :=
  if first then pure () else Scan.char ':'

/-- As many groups as come next and fit, and whether the last two were given as four bytes. -/
def scanGroups : (room : Nat) → (first : Bool) → Scan (List Nat × Bool)
  | 0, _ => pure ([], false)
  | room + 1, first =>
    let embedded : Scan (List Nat × Bool) := do
      scanColon first
      let octets ← scanOctets
      if room = 0 then Scan.refuse
      else pure ([octets.a * 256 + octets.b, octets.c * 256 + octets.d], true)
    let plain : Scan (List Nat × Bool) := do
      scanColon first
      let group ← scanGroup
      let (groups, bytes) ← scanGroups room false
      pure (group :: groups, bytes)
    embedded <|> plain <|> pure ([], false)

/-- Eight groups, or fewer with `::` in place of at least one group of zero. -/
def scanV6 : Scan (List Nat) := do
  let (front, bytes) ← scanGroups 8 true
  if front.length = 8 then pure front
  else if bytes then Scan.refuse
  else
    Scan.char ':'
    Scan.char ':'
    let (back, _) ← scanGroups (7 - front.length) true
    pure (front ++ List.replicate (8 - front.length - back.length) 0 ++ back)

def scanScope : Scan Nat := do
  Scan.char '%'
  scanBelow (Nat.pow 2 32)

def scanPort : Scan Nat := do
  Scan.char ':'
  scanBelow (Nat.pow 2 16)

def scanSocketV4 : Scan SocketAddress := do
  let octets ← scanOctets
  let port ← scanPort
  pure (.v4 octets port)

def scanSocketV6 : Scan SocketAddress := do
  Scan.char '['
  let groups ← scanV6
  let scope ← scanScope <|> pure 0
  Scan.char ']'
  let port ← scanPort
  pure (.v6 groups scope port)

def parse (text : String) : Option SocketAddress :=
  Scan.whole (scanSocketV4 <|> scanSocketV6) text.toList

def octetsText (octets : Octets) : String :=
  ".".intercalate ([octets.a, octets.b, octets.c, octets.d].map Nat.repr)

def groupsText (groups : List Nat) : String :=
  ":".intercalate (groups.map fun group => String.ofList (Nat.toDigits 16 group))

/-- How many groups of zero a list starts with. -/
def zeros (groups : List Nat) : Nat := (groups.takeWhile (· = 0)).length

/-- Where the longest run of zeros starts, the first of several, and its length. -/
def longestZeros : (start : Nat) → List Nat → Nat × Nat
  | _, [] => (0, 0)
  | start, group :: groups =>
    let later := longestZeros (start + 1) groups
    let here := zeros (group :: groups)
    if later.2 ≤ here then (start, here) else later

/-- A run of two zeros or more is left out, and an embedded address of version 4 keeps its form. -/
def v6Text (groups : List Nat) : String :=
  match groups with
  | [0, 0, 0, 0, 0, 0xFFFF, high, low] =>
    "::ffff:" ++ octetsText ⟨high / 256, high % 256, low / 256, low % 256⟩
  | _ =>
    let (start, length) := longestZeros 0 groups
    if 1 < length then
      groupsText (groups.take start) ++ "::" ++ groupsText (groups.drop (start + length))
    else groupsText groups

def text : SocketAddress → String
  | .v4 octets port => octetsText octets ++ ":" ++ port.repr
  | .v6 groups scope port =>
    let shownScope := if scope = 0 then "" else "%" ++ scope.repr
    "[" ++ v6Text groups ++ shownScope ++ "]:" ++ port.repr

end SocketAddress

end SoundScene
