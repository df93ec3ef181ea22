import SoundScene.Proofs.Doubles

/-!
Decimals and the doubles that they are rounded to.  `Decimal.toFloat` takes a decimal to the nearest
double (`toFloat_eq_nearest`), so only the value of the decimal matters; and the decimal that a
double is written with is taken to that double again (`toFloat_shortest`).
-/

namespace SoundScene

open Float.Model Float.Model.UnpackedFloat Rounding

namespace Decimal

def num (d : Decimal) : Nat := d.digits * 10 ^ d.exponent.toNat

def den (d : Decimal) : Nat := 10 ^ (-d.exponent).toNat

theorem den_pos (d : Decimal) : 0 < d.den := Nat.pow_pos (by decide)

def nearest (d : Decimal) : Float := .ofModel (.pack (Rounding.nearest d.num d.den))

theorem exactlyRepresentablePowersOfTen_eq : ∀ power : Fin 23,
    Float.exactlyRepresentablePowersOfTen[power] =
      Float.ofModel (.pack (Rounding.nearest (10 ^ power.val) 1)) := by
  decide +kernel

structure Exact (whole mantissa : Nat) : Prop where
  pos : 0 < whole
  digits : whole.log2 ≤ 1000
  same : mantissa * 2 ^ whole.log2 = whole * 2 ^ 52

namespace Exact

variable {whole mantissa : Nat}

theorem full (exact : Exact whole mantissa) : 2 ^ 52 ≤ mantissa := by
  refine Nat.le_of_mul_le_mul_right ?_ (Nat.two_pow_pos whole.log2)
  rw [exact.same, Nat.mul_comm]
  exact Nat.mul_le_mul_right _ (Nat.log2_self_le (Nat.ne_of_gt exact.pos))

theorem canonical (exact : Exact whole mantissa) : Canonical mantissa (whole.log2 - 52) where
  pos := Nat.lt_of_lt_of_le (Nat.two_pow_pos 52) exact.full
  fits := by
    refine Nat.lt_of_mul_lt_mul_right (a := 2 ^ whole.log2) ?_
    calc mantissa * 2 ^ whole.log2 = whole * 2 ^ 52 := exact.same
      _ < 2 ^ (whole.log2 + 1) * 2 ^ 52 :=
        Nat.mul_lt_mul_of_pos_right Nat.lt_log2_self (Nat.two_pow_pos 52)
      _ = 2 ^ 53 * 2 ^ whole.log2 := by
        rw [← Nat.pow_add, ← Nat.pow_add, Nat.add_assoc, Nat.add_comm]
  least := by omega
  full := .inl exact.full

theorem nearest_eq (exact : Exact whole mantissa) :
    Rounding.nearest whole 1 = .finite .positive mantissa (whole.log2 - 52) exact.canonical.pos := by
  refine nearest_eq_of_canonical Nat.one_pos exact.canonical ?_
  have same : mantissa * 2 ^ whole.log2 * 1 = whole * 1 * 2 ^ 52 := by
    rw [Nat.mul_one, Nat.mul_one, exact.same]
  have scales : 0 + ((whole.log2 : Int) - 52 + 1074).toNat + 52 = whole.log2 + 1074 := by omega
  have crossed := cross_of_scales same scales
  rw [Nat.pow_zero, Nat.mul_one, Nat.mul_one, Nat.mul_one] at crossed
  rw [Nat.mul_one]
  exact crossed.symm

theorem unpack (exact : Exact whole mantissa) :
    (Float.Model.pack (Rounding.nearest whole 1)).unpack =
      .finite .positive mantissa (whole.log2 - 52) exact.canonical.pos := by
  have digits := exact.digits
  rw [exact.nearest_eq]
  exact Double.unpack_pack exact.canonical (by omega) .positive

end Exact

theorem exact_of_lt {whole : Nat} (pos : 0 < whole) (bound : whole < 2 ^ 53) :
    Exact whole (whole * 2 ^ (52 - whole.log2)) where
  pos := pos
  digits := by
    have digits : whole.log2 < 53 := (Nat.log2_lt (Nat.ne_of_gt pos)).2 bound
    omega
  same := by
    have digits : whole.log2 < 53 := (Nat.log2_lt (Nat.ne_of_gt pos)).2 bound
    rw [Nat.mul_assoc, ← Nat.pow_add, Nat.sub_add_cancel (by omega)]

theorem exact_power (power : Fin 23) : ∃ mantissa, Exact (10 ^ power.val) mantissa := by
  have divides : ∀ power : Fin 23, 10 ^ power.val * 2 ^ 52 / 2 ^ (10 ^ power.val).log2 *
      2 ^ (10 ^ power.val).log2 = 10 ^ power.val * 2 ^ 52 := by decide +kernel
  have digits : ∀ power : Fin 23, (10 ^ power.val).log2 ≤ 1000 := by decide +kernel
  exact ⟨_, Nat.pow_pos (by decide), digits power, divides power⟩

theorem toFloat_toUInt64 {whole : Nat} (pos : 0 < whole) (bound : whole < 2 ^ 53) :
    whole.toUInt64.toFloat = Float.ofModel (.pack (Rounding.nearest whole 1)) := by
  have exact := exact_of_lt pos bound
  have digits : whole.log2 < 53 := (Nat.log2_lt (Nat.ne_of_gt pos)).2 bound
  have kept : whole.toUInt64.toNat = whole := by
    change whole % 2 ^ 64 = whole
    omega
  have signed : compare (whole : Int) 0 = .gt := by
    rw [Int.compare_eq_gt]
    omega
  have target : Format.binary64.targetExponent (totalExponent whole 0) = whole.log2 - 52 := by
    simp only [Format.targetExponent, totalExponent, Format.mantissaBits, Format.minExponent]
    omega
  have shift : ((0 : Int) - (whole.log2 - 52)).toNat = 52 - whole.log2 := by omega
  have converted : UnpackedFloat.ofUInt64 Format.binary64 whole.toUInt64 =
      rounded (whole * 2 ^ (52 - whole.log2)) 1 (whole.log2 - 52) := by
    rw [UnpackedFloat.ofUInt64, UnpackedFloat.ofNat, UnpackedFloat.ofInt, UnpackedFloat.normalize, kept, signed]
    simp only [UnpackedFloat.round, Int.toNat_natCast, target, decreaseExponent, shift, rounded,
      Nat.div_one, Nat.mod_one, Nat.shiftLeft_eq]
    have scale : (0 : Int) - ((52 - whole.log2 : Nat) : Int) = whole.log2 - 52 := by omega
    rw [scale]
    rfl
  rw [UInt64.toFloat, Float.Model.ofUInt64, converted, rounded_one exact.canonical,
    exact.nearest_eq]

theorem product_of_scales {first second whole other place step rise base up : Nat}
    (same : first * 2 ^ place = whole * 2 ^ up) (equal : second * 2 ^ step = other * 2 ^ up)
    (scales : place + step + base = rise + up + up) :
    first * second * 2 ^ rise = whole * other * 2 ^ base := by
  refine Nat.eq_of_mul_eq_mul_right (Nat.two_pow_pos (up + up)) ?_
  calc first * second * 2 ^ rise * 2 ^ (up + up)
      = first * second * 2 ^ (rise + up + up) := by
        simp only [Nat.pow_add]
        ac_rfl
    _ = first * 2 ^ place * (second * 2 ^ step) * 2 ^ base := by
        rw [← scales, Nat.pow_add, Nat.pow_add]
        ac_rfl
    _ = whole * other * 2 ^ base * 2 ^ (up + up) := by
        rw [same, equal, Nat.pow_add]
        ac_rfl

section Small

variable {whole : Nat} (pos : 0 < whole) (bound : whole < 2 ^ 53) (power : Fin 23)
include pos bound

theorem mul_power :
    whole.toUInt64.toFloat * Float.exactlyRepresentablePowersOfTen[power] =
      Float.ofModel (.pack (Rounding.nearest (whole * 10 ^ power.val) 1)) := by
  have number := exact_of_lt pos bound
  obtain ⟨mantissa, ten⟩ := exact_power power
  have digits := ten.digits
  rw [toFloat_toUInt64 pos bound, exactlyRepresentablePowersOfTen_eq]
  change Float.ofModel (.pack (mul Format.binary64 (Float.Model.pack _).unpack
    (Float.Model.pack _).unpack)) = _
  rw [number.unpack, ten.unpack, mul_eq_nearest]
  · exact Nat.one_pos
  · omega
  · calc 2 ^ 52 ≤ 2 ^ 52 * 2 ^ 52 := Nat.le_mul_of_pos_right _ (Nat.two_pow_pos 52)
      _ ≤ _ := Nat.mul_le_mul number.full ten.full
  · have scales : whole.log2 + (10 ^ power.val).log2 + 1074 =
        ((whole.log2 : Int) - 52 + ((10 ^ power.val).log2 - 52) + 1074).toNat + 52 + 52 := by omega
    have product := product_of_scales number.same ten.same scales
    rw [Nat.mul_one]
    exact product

theorem div_power :
    whole.toUInt64.toFloat / Float.exactlyRepresentablePowersOfTen[power] =
      Float.ofModel (.pack (Rounding.nearest whole (10 ^ power.val))) := by
  have number := exact_of_lt pos bound
  obtain ⟨mantissa, ten⟩ := exact_power power
  have digits := ten.digits
  rw [toFloat_toUInt64 pos bound, exactlyRepresentablePowersOfTen_eq]
  change Float.ofModel (.pack (div Format.binary64 (Float.Model.pack _).unpack
    (Float.Model.pack _).unpack)) = _
  have scales : ((whole.log2 : Int) - 52) - ((10 ^ power.val).log2 - 52) =
      (whole.log2 : Nat) - ((10 ^ power.val).log2 : Nat) := by omega
  rw [number.unpack, ten.unpack, div_eq_nearest _ _ ten.pos ?_ scales]
  · calc _ = whole * 2 ^ 52 * 10 ^ power.val := by rw [number.same]
      _ = whole * (10 ^ power.val * 2 ^ 52) := by ac_rfl
      _ = _ := by rw [← ten.same, Nat.mul_assoc]
  · omega

end Small

theorem model_mul_power {whole : Nat} (pos : 0 < whole) {power : Nat} (bound : power ≤ 2048) :
    Float.Model.ofScientific whole power =
      .pack (Rounding.nearest (whole * 10 ^ power) 1) := by
  have ten : 0 < 10 ^ power := Nat.pow_pos (by decide)
  have scaled : 0 < whole <<< 53 := by
    rw [Nat.shiftLeft_eq]
    exact Nat.mul_pos pos (Nat.two_pow_pos 53)
  rw [Float.Model.ofScientific, UnpackedFloat.ofScientific, dif_neg (Nat.ne_of_gt pos)]
  rw [if_neg (by change ¬ (power : Int) > 2048; omega),
    if_neg (by change ¬ (power : Int) < -(2048 + whole.log2); omega),
    if_pos (Int.natCast_nonneg power)]
  change Float.Model.pack (mul Format.binary64 (.finite .positive (whole <<< 53) (-53) scaled)
    (.finite .positive (10 ^ power) 0 ten)) = _
  rw [mul_eq_nearest]
  · exact Nat.one_pos
  · omega
  · rw [Nat.shiftLeft_eq, Nat.mul_right_comm]
    calc 2 ^ 52 ≤ 2 ^ 53 := by decide
      _ ≤ whole * 10 ^ power * 2 ^ 53 := Nat.le_mul_of_pos_left _ (Nat.mul_pos pos ten)
  · have same : whole * 10 ^ power * 2 ^ 0 * 1 = whole * 10 ^ power * 1 * 2 ^ 0 := by ac_rfl
    have scales : 53 + ((-53 : Int) + 0 + 1074).toNat + 0 = 0 + 1074 := by decide
    have crossed := cross_of_scales same scales
    rw [Nat.mul_one, Nat.mul_one] at crossed
    rw [Nat.shiftLeft_eq, Nat.mul_one, Nat.mul_right_comm whole]
    exact crossed

theorem model_div_power {whole : Nat} (pos : 0 < whole) {power : Nat} (some : 0 < power)
    (bound : power ≤ 2048 + whole.log2) :
    Float.Model.ofScientific whole (-power) =
      .pack (Rounding.nearest whole (10 ^ power)) := by
  have ten : 0 < 10 ^ power := Nat.pow_pos (by decide)
  rw [Float.Model.ofScientific, UnpackedFloat.ofScientific, dif_neg (Nat.ne_of_gt pos)]
  rw [if_neg (by change ¬ (-(power : Int)) > 2048; omega),
    if_neg (by change ¬ (-(power : Int)) < -(2048 + whole.log2); omega), if_neg (by omega)]
  have size : (- -(power : Int)).toNat = power := by omega
  simp only [size]
  rw [div_eq_nearest pos ten ten (by decide) (show (0 : Int) - 0 = (0 : Nat) - (0 : Nat) by decide)]
  rw [Nat.pow_zero, Nat.mul_one, Nat.mul_one]

theorem ofScientific_up {whole : Nat} (pos : 0 < whole) {power : Nat} (bound : power ≤ 2048) :
    Float.ofScientific whole false power =
      Float.ofModel (.pack (Rounding.nearest (whole * 10 ^ power) 1)) := by
  rw [Float.ofScientific]
  split
  · rename_i small
    exact mul_power pos small.1 ⟨power, by omega⟩
  · exact congrArg Float.ofModel (model_mul_power pos bound)

theorem ofScientific_down {whole : Nat} (pos : 0 < whole) {power : Nat} (some : 0 < power)
    (bound : power ≤ 2048 + whole.log2) :
    Float.ofScientific whole true power =
      Float.ofModel (.pack (Rounding.nearest whole (10 ^ power))) := by
  rw [Float.ofScientific]
  split
  · rename_i small
    exact div_power pos small.1 ⟨power, by omega⟩
  · have negative : Int.negOfNat power = -(power : Int) := Int.negOfNat_eq
    simp only [↓reduceIte, negative]
    exact congrArg Float.ofModel (model_div_power pos some bound)

end Decimal

theorem decimalLength_le_iff {n k : Nat} (pos : 0 < k) : decimalLength n ≤ k ↔ n < 10 ^ k :=
  Nat.length_toDigits_le_iff (by decide) pos

theorem decimalLength_pos (n : Nat) : 0 < decimalLength n := Nat.length_toDigits_pos

theorem lt_pow_decimalLength (n : Nat) : n < 10 ^ decimalLength n :=
  (decimalLength_le_iff (decimalLength_pos n)).1 (Nat.le_refl _)

theorem decimalLength_le_log2 (n : Nat) : decimalLength n ≤ n.log2 + 1 :=
  (decimalLength_le_iff (Nat.succ_pos _)).2
    (Nat.lt_of_lt_of_le Nat.lt_log2_self (Nat.pow_le_pow_left (by decide) _))

theorem pow_le_of_lt_decimalLength {n k : Nat} (longer : k < decimalLength n) (pos : 0 < n) :
    10 ^ k ≤ n := by
  cases k with
  | zero => exact pos
  | succ k =>
      apply Nat.le_of_not_lt
      intro less
      have short := (decimalLength_le_iff (Nat.succ_pos k)).2 less
      omega

theorem lt_decimalLength {n k : Nat} (least : 10 ^ k ≤ n) : k < decimalLength n := by
  cases k with
  | zero => exact decimalLength_pos n
  | succ k =>
      apply Nat.lt_of_not_le
      intro short
      exact Nat.not_lt.2 least ((decimalLength_le_iff (Nat.succ_pos k)).1 short)

theorem decimalLength_mul_pow {n : Nat} (pos : 0 < n) (k : Nat) :
    decimalLength (n * 10 ^ k) = decimalLength n + k := by
  have some := decimalLength_pos n
  have above : n * 10 ^ k < 10 ^ (decimalLength n + k) := by
    rw [Nat.pow_add]
    exact Nat.mul_lt_mul_of_pos_right (lt_pow_decimalLength n) (Nat.pow_pos (by decide))
  have below : 10 ^ (decimalLength n - 1 + k) ≤ n * 10 ^ k := by
    rw [Nat.pow_add]
    exact Nat.mul_le_mul_right _ (pow_le_of_lt_decimalLength (by omega) pos)
  have atMost := (decimalLength_le_iff (by omega)).2 above
  have atLeast := lt_decimalLength below
  omega

namespace Decimal

theorem toFloat_eq_nearest (d : Decimal) (nonzero : d.digits ≠ 0) (low : -330 ≤ d.magnitude)
    (high : d.magnitude ≤ 310) : d.toFloat = d.nearest := by
  have pos := Nat.pos_of_ne_zero nonzero
  have length := decimalLength_pos d.digits
  have short := decimalLength_le_log2 d.digits
  rw [magnitude] at low high
  rw [toFloat, if_neg nonzero, if_neg (by rw [magnitude]; omega), if_neg (by rw [magnitude]; omega)]
  by_cases negative : d.exponent < 0
  · have up : d.exponent.toNat = 0 := by omega
    have down : d.exponent.natAbs = (-d.exponent).toNat := by omega
    rw [decide_eq_true negative, down, ofScientific_down pos (by omega) (by omega), nearest, num, den,
      up, Nat.pow_zero, Nat.mul_one]
  · have up : d.exponent.natAbs = d.exponent.toNat := by omega
    have down : (-d.exponent).toNat = 0 := by omega
    rw [decide_eq_false negative, up, ofScientific_up pos (by omega), nearest, num, den, down,
      Nat.pow_zero]

theorem nearest_eq {first second : Decimal}
    (same : first.num * second.den = second.num * first.den) : first.nearest = second.nearest := by
  rw [nearest, nearest, nearest_eq_of_cross first.den_pos second.den_pos same]

theorem toFloat_mul_pow (digits : Nat) (exponent : Int) (k : Nat) :
    toFloat ⟨digits * 10 ^ k, exponent - k⟩ = toFloat ⟨digits, exponent⟩ := by
  rcases Nat.eq_zero_or_pos digits with rfl | pos
  · rw [Nat.zero_mul]
    rfl
  · have ten : 0 < 10 ^ k := Nat.pow_pos (by decide)
    have nonzero : digits ≠ 0 := Nat.ne_of_gt pos
    have longer : digits * 10 ^ k ≠ 0 := Nat.ne_of_gt (Nat.mul_pos pos ten)
    have same : magnitude ⟨digits * 10 ^ k, exponent - k⟩ = magnitude ⟨digits, exponent⟩ := by
      simp only [magnitude, decimalLength_mul_pow pos]
      omega
    by_cases low : magnitude ⟨digits, exponent⟩ < -330
    · simp only [toFloat, same, low, nonzero, longer, ↓reduceIte]
    · by_cases high : 310 < magnitude ⟨digits, exponent⟩
      · simp only [toFloat, same, low, high, nonzero, longer, ↓reduceIte]
      · rw [toFloat_eq_nearest ⟨digits, exponent⟩ nonzero (by omega) (by omega),
          toFloat_eq_nearest ⟨digits * 10 ^ k, exponent - k⟩ longer (by omega) (by omega)]
        refine nearest_eq ?_
        have exponents : k + (exponent - k).toNat + (-exponent).toNat =
            exponent.toNat + (-(exponent - k)).toNat := by omega
        simp only [num, den]
        rw [Nat.mul_assoc digits, ← Nat.pow_add, Nat.mul_assoc digits, ← Nat.pow_add, exponents,
          Nat.pow_add, Nat.mul_assoc]

theorem toFloat_strip (d : Decimal) : d.strip.toFloat = d.toFloat := by
  fun_induction strip d with
  | case1 d zero => rfl
  | case2 d nonzero even ih =>
      have whole : d.digits / 10 * 10 ^ 1 = d.digits := by omega
      have shifted := toFloat_mul_pow (d.digits / 10) (d.exponent + 1) 1
      rw [whole] at shifted
      rw [ih, ← shifted]
      congr 2
      omega
  | case3 d nonzero odd => rfl

theorem strip_digits_le (d : Decimal) : d.strip.digits ≤ d.digits := by
  fun_induction strip d with
  | case1 d zero => exact Nat.le_refl _
  | case2 d nonzero even ih => exact Nat.le_trans ih (Nat.div_le_self ..)
  | case3 d nonzero odd => exact Nat.le_refl _

end Decimal

namespace Binary

variable {b : Binary}

theorem exactDecimal_up (up : 0 ≤ b.scale) :
    b.exactDecimal = ⟨b.mantissa * 2 ^ b.scale.toNat, 0⟩ := by
  rw [exactDecimal, if_pos up, num, Nat.pow_eq]

theorem exactDecimal_down (down : b.scale < 0) :
    b.exactDecimal = ⟨b.mantissa * 5 ^ (-b.scale).toNat, b.scale⟩ := by
  rw [exactDecimal, if_neg (by omega), Nat.pow_eq]

theorem exactDecimal_digits_ne_zero (canonical : Canonical b.mantissa b.scale) :
    b.exactDecimal.digits ≠ 0 := by
  refine Nat.ne_of_gt ?_
  by_cases up : 0 ≤ b.scale
  · rw [exactDecimal_up up]
    exact Nat.mul_pos canonical.pos (Nat.two_pow_pos _)
  · rw [exactDecimal_down (by omega)]
    exact Nat.mul_pos canonical.pos (Nat.pow_pos (by decide))

theorem nearest_exactDecimal (canonical : Canonical b.mantissa b.scale) :
    Rounding.nearest b.exactDecimal.num b.exactDecimal.den =
      .finite .positive b.mantissa b.scale canonical.pos := by
  have least := canonical.least
  refine nearest_eq_of_canonical (Decimal.den_pos _) canonical ?_
  by_cases up : 0 ≤ b.scale
  · have same : b.mantissa * 2 ^ b.scale.toNat * 1 =
        b.mantissa * 2 ^ b.scale.toNat * 1 * 2 ^ 0 := by ac_rfl
    have scales : 0 + (b.scale + 1074).toNat + 0 = b.scale.toNat + 1074 := by omega
    have crossed := cross_of_scales same scales
    rw [Nat.pow_zero, Nat.mul_one, Nat.mul_one, Nat.mul_one] at crossed
    rw [exactDecimal_up up, Decimal.num, Decimal.den, Int.toNat_zero, Nat.pow_zero, Nat.mul_one,
      Int.neg_zero, Int.toNat_zero, Nat.pow_zero, Nat.mul_one]
    exact crossed.symm
  · have ten (k : Nat) : 10 ^ k = 2 ^ k * 5 ^ k := by rw [← Nat.mul_pow]
    have same : b.mantissa * 2 ^ 0 * 10 ^ (-b.scale).toNat =
        b.mantissa * 5 ^ (-b.scale).toNat * 1 * 2 ^ (-b.scale).toNat := by
      rw [ten]
      ac_rfl
    have scales : 0 + (b.scale + 1074).toNat + (-b.scale).toNat = 0 + 1074 := by omega
    have crossed := cross_of_scales same scales
    have none : b.scale.toNat = 0 := by omega
    rw [Nat.pow_zero, Nat.mul_one, Nat.mul_one] at crossed
    rw [exactDecimal_down (by omega), Decimal.num, Decimal.den]
    simp only [none, Nat.pow_zero, Nat.mul_one]
    exact crossed.symm

theorem digits_up_lt (canonical : Canonical b.mantissa b.scale) (bounded : b.scale ≤ 971) :
    b.mantissa * 2 ^ b.scale.toNat < 10 ^ 310 := by
  have most : b.scale.toNat ≤ 971 := by omega
  have power := Nat.pow_le_pow_right (n := 2) (by decide) most
  calc b.mantissa * 2 ^ b.scale.toNat < 2 ^ 53 * 2 ^ b.scale.toNat :=
        Nat.mul_lt_mul_of_pos_right canonical.fits (Nat.two_pow_pos _)
    _ ≤ 2 ^ 53 * 2 ^ 971 := Nat.mul_le_mul (Nat.le_refl _) power
    _ ≤ 10 ^ 310 := by decide +kernel

theorem digits_down_lt (canonical : Canonical b.mantissa b.scale) :
    b.mantissa * 5 ^ (-b.scale).toNat < 10 ^ (16 + (-b.scale).toNat) := by
  have power : 5 ^ (-b.scale).toNat ≤ 10 ^ (-b.scale).toNat := Nat.pow_le_pow_left (by decide) _
  calc b.mantissa * 5 ^ (-b.scale).toNat < 2 ^ 53 * 5 ^ (-b.scale).toNat :=
        Nat.mul_lt_mul_of_pos_right canonical.fits (Nat.pow_pos (by decide))
    _ ≤ 10 ^ 16 * 10 ^ (-b.scale).toNat := Nat.mul_le_mul (by decide) power
    _ = 10 ^ (16 + (-b.scale).toNat) := (Nat.pow_add ..).symm

theorem pow_le_digits_down (canonical : Canonical b.mantissa b.scale) :
    10 ^ ((-b.scale).toNat - 324) ≤ b.mantissa * 5 ^ (-b.scale).toNat := by
  have least := canonical.least
  generalize shift : (-b.scale).toNat = k
  have most : k ≤ 1074 := by omega
  refine Nat.le_trans ?_ (Nat.le_mul_of_pos_left _ canonical.pos)
  by_cases small : k ≤ 324
  · rw [Nat.sub_eq_zero_of_le small]
    exact Nat.pow_pos (by decide)
  · refine Nat.le_of_mul_le_mul_right ?_ (Nat.pow_pos (n := 324) (show 0 < 10 by decide))
    calc 10 ^ (k - 324) * 10 ^ 324 = 10 ^ k := by
          rw [← Nat.pow_add 10 (k - 324) 324, Nat.sub_add_cancel (by omega)]
      _ = 5 ^ k * 2 ^ k := by rw [← Nat.mul_pow]
      _ ≤ 5 ^ k * 2 ^ 1074 := Nat.mul_le_mul (Nat.le_refl _) (Nat.pow_le_pow_right (by decide) most)
      _ ≤ 5 ^ k * 10 ^ 324 := Nat.mul_le_mul_left _ (by decide +kernel)

theorem exactDecimal_magnitude (canonical : Canonical b.mantissa b.scale) (bounded : b.scale ≤ 971) :
    -330 ≤ b.exactDecimal.magnitude ∧ b.exactDecimal.magnitude ≤ 310 := by
  by_cases up : 0 ≤ b.scale
  · have short := (decimalLength_le_iff (by decide)).2 (digits_up_lt canonical bounded)
    rw [exactDecimal_up up, Decimal.magnitude]
    simp only
    omega
  · have short := (decimalLength_le_iff (by omega)).2 (digits_down_lt canonical)
    have long := lt_decimalLength (pow_le_digits_down canonical)
    rw [exactDecimal_down (by omega), Decimal.magnitude]
    simp only
    omega

theorem exactDecimal_digits_lt (canonical : Canonical b.mantissa b.scale) (bounded : b.scale ≤ 971) :
    b.exactDecimal.digits < 10 ^ 768 := by
  have least := canonical.least
  by_cases up : 0 ≤ b.scale
  · rw [exactDecimal_up up]
    exact Nat.lt_of_lt_of_le (digits_up_lt canonical bounded) (by decide +kernel)
  · have most : (-b.scale).toNat ≤ 1074 := by omega
    have power := Nat.pow_le_pow_right (n := 5) (by decide) most
    rw [exactDecimal_down (by omega)]
    calc b.mantissa * 5 ^ (-b.scale).toNat < 2 ^ 53 * 5 ^ (-b.scale).toNat :=
          Nat.mul_lt_mul_of_pos_right canonical.fits (Nat.pow_pos (by decide))
      _ ≤ 2 ^ 53 * 5 ^ 1074 := Nat.mul_le_mul (Nat.le_refl _) power
      _ ≤ 10 ^ 768 := by decide +kernel

end Binary

namespace Decimal

theorem toFloat_exactDecimal {x : Float} (finite : x.isFinite = true)
    (nonzero : (Binary.ofFloat x).mantissa ≠ 0) (positive : Double.sign x = .positive) :
    (Binary.ofFloat x).exactDecimal.toFloat = x := by
  rcases Double.unpack_cases x finite with ⟨zero, _⟩ | ⟨canonical, bounded, unpacked⟩
  · exact absurd zero nonzero
  · obtain ⟨low, high⟩ := Binary.exactDecimal_magnitude canonical bounded
    rw [toFloat_eq_nearest _ (Binary.exactDecimal_digits_ne_zero canonical) low high, nearest,
      Binary.nearest_exactDecimal canonical, ← positive, ← unpacked]
    exact Double.pack_unpack finite

end Decimal

namespace Binary

variable {b : Binary}

theorem num_pos (pos : 0 < b.mantissa) : 0 < b.num := Nat.mul_pos pos (Nat.pow_pos (by decide))

theorem den_pos : 0 < b.den := Nat.pow_pos (by decide)

theorem num_le_of_magnitude (pos : 0 < b.mantissa) (count : Nat) :
    b.num * 10 ^ (-(b.magnitude - count)).toNat ≤
      b.den * 10 ^ (b.magnitude - count).toNat * 10 ^ count := by
  rw [Nat.mul_assoc, ← Nat.pow_add]
  by_cases large : b.den ≤ b.num
  · have size : b.magnitude = decimalLength (b.num / b.den) := if_pos large
    have exponents : (b.magnitude - count).toNat + count =
        decimalLength (b.num / b.den) + (-(b.magnitude - count)).toNat := by omega
    have less : b.num < 10 ^ decimalLength (b.num / b.den) * b.den :=
      (Nat.div_lt_iff_lt_mul b.den_pos).1 (lt_pow_decimalLength _)
    rw [exponents, Nat.pow_add, ← Nat.mul_assoc, Nat.mul_comm b.den]
    exact Nat.mul_le_mul_right _ (Nat.le_of_lt less)
  · have size : b.magnitude = 1 - decimalLength (b.den / b.num) := if_neg large
    have some := decimalLength_pos (b.den / b.num)
    have exponents : (-(b.magnitude - count)).toNat = decimalLength (b.den / b.num) - 1 + count := by
      omega
    have none : (b.magnitude - count).toNat = 0 := by omega
    have whole : 0 < b.den / b.num := Nat.div_pos (by omega) (num_pos pos)
    have least : 10 ^ (decimalLength (b.den / b.num) - 1) * b.num ≤ b.den :=
      (Nat.le_div_iff_mul_le (num_pos pos)).1 (pow_le_of_lt_decimalLength (by omega) whole)
    rw [exponents, none, Nat.zero_add, Nat.pow_add, ← Nat.mul_assoc, Nat.mul_comm b.num]
    exact Nat.mul_le_mul_right _ least

theorem neighbours_digits_le (pos : 0 < b.mantissa) {count : Nat} {d : Decimal}
    (member : d ∈ b.neighbours (b.magnitude - count)) : d.digits ≤ 10 ^ count + 1 := by
  have unit_pos : 0 < b.den * 10 ^ (b.magnitude - count).toNat :=
    Nat.mul_pos b.den_pos (Nat.pow_pos (by decide))
  have low : b.num * 10 ^ (-(b.magnitude - count)).toNat /
      (b.den * 10 ^ (b.magnitude - count).toNat) ≤ 10 ^ count := by
    refine Nat.le_of_mul_le_mul_left ?_ unit_pos
    exact Nat.le_trans (Nat.mul_div_le ..) (num_le_of_magnitude pos count)
  simp only [neighbours, Nat.pow_eq] at member
  split at member <;> simp only [List.mem_cons, List.not_mem_nil, or_false] at member <;>
    rcases member with rfl | rfl <;> simp only <;> omega

end Binary

namespace Decimal

theorem withDigits_spec {x : Float} {count : Nat} {d : Decimal}
    (pos : 0 < (Binary.ofFloat x).mantissa) (found : withDigits x count = some d) :
    d.toFloat = x ∧ d.digits ≤ 10 ^ count + 1 := by
  rw [withDigits] at found
  have reads := List.find?_some found
  exact ⟨of_decide_eq_true reads, Binary.neighbours_digits_le pos (List.mem_of_find?_eq_some found)⟩

/-- The decimal that a positive double is written with is taken to that double again. -/
theorem toFloat_shortest {x : Float} (finite : x.isFinite = true)
    (nonzero : (Binary.ofFloat x).mantissa ≠ 0) (positive : Double.sign x = .positive) :
    (shortest x).toFloat = x := by
  rw [shortest]
  split
  · rename_i d found
    obtain ⟨index, _, found⟩ := List.exists_of_findSome?_eq_some found
    rw [toFloat_strip]
    exact (withDigits_spec (Nat.pos_of_ne_zero nonzero) found).1
  · rw [toFloat_strip]
    exact toFloat_exactDecimal finite nonzero positive

theorem shortest_digits_lt {x : Float} (finite : x.isFinite = true)
    (nonzero : (Binary.ofFloat x).mantissa ≠ 0) : (shortest x).digits < 10 ^ 768 := by
  rw [shortest]
  split
  · rename_i d found
    obtain ⟨index, member, found⟩ := List.exists_of_findSome?_eq_some found
    have few := (withDigits_spec (Nat.pos_of_ne_zero nonzero) found).2
    have bound := List.mem_range.1 member
    have power : 10 ^ (index + 1) ≤ 10 ^ 17 := Nat.pow_le_pow_right (by decide) (by omega)
    calc d.strip.digits ≤ 10 ^ (index + 1) + 1 := Nat.le_trans (strip_digits_le d) few
      _ ≤ 10 ^ 17 + 1 := by omega
      _ < 10 ^ 768 := by decide +kernel
  · rcases Double.unpack_cases x finite with ⟨zero, _⟩ | ⟨canonical, bounded, _⟩
    · exact absurd zero nonzero
    · exact Nat.lt_of_le_of_lt (strip_digits_le _) (Binary.exactDecimal_digits_lt canonical bounded)

theorem shortest_digits_ne_zero {x : Float} (finite : x.isFinite = true)
    (nonzero : (Binary.ofFloat x).mantissa ≠ 0) (positive : Double.sign x = .positive) :
    (shortest x).digits ≠ 0 := by
  intro zero
  have reads := toFloat_shortest finite nonzero positive
  rw [toFloat, if_pos zero] at reads
  rw [← reads] at nonzero
  exact nonzero rfl

theorem shortest_magnitude {x : Float} (finite : x.isFinite = true)
    (nonzero : (Binary.ofFloat x).mantissa ≠ 0) (positive : Double.sign x = .positive) :
    -330 ≤ (shortest x).magnitude ∧ (shortest x).magnitude ≤ 310 := by
  have reads := toFloat_shortest finite nonzero positive
  rw [toFloat, if_neg (shortest_digits_ne_zero finite nonzero positive)] at reads
  constructor
  · apply Int.not_lt.1
    intro low
    rw [if_pos low] at reads
    rw [← reads] at nonzero
    exact nonzero rfl
  · apply Int.not_lt.1
    intro high
    rw [if_neg (by omega), if_pos high] at reads
    rw [← reads] at finite
    exact absurd finite (by decide +kernel)

theorem isFinite_toFloat_whole {n : Nat} (bound : n < 10 ^ 300) :
    (toFloat ⟨n, 0⟩).isFinite = true := by
  rcases Nat.eq_zero_or_pos n with rfl | pos
  · rfl
  · have length := (decimalLength_le_iff (by decide)).2 bound
    have some := decimalLength_pos n
    have size : magnitude ⟨n, 0⟩ = decimalLength n := Int.add_zero _
    have digits : n.log2 < 1000 := by
      refine (Nat.log2_lt (Nat.ne_of_gt pos)).2 (Nat.lt_of_lt_of_le bound ?_)
      decide +kernel
    rw [toFloat_eq_nearest ⟨n, 0⟩ (Nat.ne_of_gt pos) (by omega) (by omega), nearest]
    change (Float.ofModel (.pack (Rounding.nearest (n * 1) 1))).isFinite = true
    rw [Nat.mul_one]
    by_cases small : n < 2 ^ 53
    · have exact := exact_of_lt pos small
      rw [exact.nearest_eq]
      exact Double.isFinite_pack exact.canonical (by omega) _
    · obtain ⟨mantissa, scale, canonical, bounded, rounds⟩ :=
        nearest_whole (Nat.le_trans (by decide) (Nat.le_of_not_lt small)) (Nat.le_of_lt digits)
      rw [rounds]
      exact Double.isFinite_pack canonical bounded _

end Decimal

end SoundScene
