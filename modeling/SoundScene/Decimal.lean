import SoundScene.Text.Digits

/-!
Decimal numbers and the doubles they stand for.  `Decimal.toFloat` rounds a decimal to the nearest
double.  `Decimal.shortest` goes the other way: of the decimals that `toFloat` takes to the given
double it returns one with the fewest digits, and of those the one nearest to the exact value.
-/

namespace SoundScene

/-- The natural multiple `digits * 10 ^ exponent` of a power of ten. -/
structure Decimal where
  digits : Nat
  exponent : Int
deriving DecidableEq, Repr

/-- The exact value `mantissa * 2 ^ scale` of a finite double without its sign. -/
structure Binary where
  mantissa : Nat
  scale : Int
deriving DecidableEq, Repr

def decimalLength (n : Nat) : Nat :=
  (Text.digitsOf n).length

namespace Decimal

/-- The power of ten next above the leading digit: the number is less than `10 ^ magnitude`. -/
def magnitude (d : Decimal) : Int :=
  decimalLength d.digits + d.exponent

/--
The nearest double, a tie going to the even one.  Past the largest double it is infinite and far
below the least one it is zero; both are settled by the magnitude before any power is computed.
-/
def toFloat (d : Decimal) : Float :=
  if d.digits = 0 then 0.0
  else if d.magnitude < -330 then 0.0
  else if 310 < d.magnitude then 1.0 / 0.0
  else Float.ofScientific d.digits (d.exponent < 0) d.exponent.natAbs

end Decimal

namespace Binary

/-- Splits a finite double into its mantissa and scale, read off the bits. -/
def ofFloat (x : Float) : Binary :=
  let bits : Nat := x.toBits.toNat
  let exponent : Nat := bits / Nat.pow 2 52 % Nat.pow 2 11
  let fraction : Nat := bits % Nat.pow 2 52
  if exponent = 0 then ⟨fraction, -1074⟩ else ⟨Nat.pow 2 52 + fraction, (exponent : Int) - 1075⟩

/-- The numerator of the value over a denominator `den`: the value is `num / den`. -/
def num (b : Binary) : Nat := b.mantissa * Nat.pow 2 b.scale.toNat

def den (b : Binary) : Nat := Nat.pow 2 (-b.scale).toNat

/-- The least power of ten above the value, found by counting digits of a whole part. -/
def magnitude (b : Binary) : Int :=
  if b.den ≤ b.num then decimalLength (b.num / b.den)
  else 1 - (decimalLength (b.den / b.num) : Int)

def exactDecimal (b : Binary) : Decimal :=
  if 0 ≤ b.scale then ⟨b.num, 0⟩ else ⟨b.mantissa * Nat.pow 5 (-b.scale).toNat, b.scale⟩

/-- The two neighbours of the value among the multiples of `10 ^ exponent`, the nearer one first;
halfway between them the even one comes first. -/
def neighbours (b : Binary) (exponent : Int) : List Decimal :=
  let top := b.num * Nat.pow 10 (-exponent).toNat
  let unit := b.den * Nat.pow 10 exponent.toNat
  let low := top / unit
  let below := top % unit
  let lowFirst := 2 * below < unit ∨ 2 * below = unit ∧ low % 2 = 0
  if lowFirst then [⟨low, exponent⟩, ⟨low + 1, exponent⟩]
  else [⟨low + 1, exponent⟩, ⟨low, exponent⟩]

end Binary

namespace Decimal

def strip (d : Decimal) : Decimal :=
  if d.digits = 0 then d
  else if d.digits % 10 = 0 then strip ⟨d.digits / 10, d.exponent + 1⟩
  else d
termination_by d.digits

/-- The nearer neighbour with `count` digits that reads back as the positive double `x`. -/
def withDigits (x : Float) (count : Nat) : Option Decimal :=
  let exact := Binary.ofFloat x
  (exact.neighbours (exact.magnitude - count)).find? fun d => d.toFloat = x

/--
The decimal that a positive finite double is written with.  Digit counts are tried in turn and the
first that reads back wins; seventeen are enough, and the exact value stands behind them.
-/
def shortest (x : Float) : Decimal :=
  match (List.range 17).findSome? fun i => withDigits x (i + 1) with
  | some d => d.strip
  | none => (Binary.ofFloat x).exactDecimal.strip

end Decimal

end SoundScene
