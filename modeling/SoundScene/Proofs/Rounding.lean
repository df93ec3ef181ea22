import Mathlib
import SoundScene.Decimal

/-!
Rounding of quotients of natural numbers to doubles.  The arithmetic of doubles rounds a mantissa
and a scale with two more bits; here it is shown that only the quotient matters and not the scale at
which it is cut (`rounded_eq_nearest`).
-/

namespace SoundScene

open Float.Model Float.Model.UnpackedFloat

namespace Rounding

/-- The whole part of a quotient, its first binary place, and whether anything is behind that. -/
def cut (num den : Nat) : ExtendedMantissa :=
  ⟨num / den, 2 * num / den % 2 != 0, 2 * num % den != 0⟩

theorem div_eq_div_of_cross {num den other below : Nat} (den_pos : 0 < den) (below_pos : 0 < below)
    (same : num * below = other * den) : num / den = other / below := by
  calc num / den = num * below / (den * below) := (Nat.mul_div_mul_right _ _ below_pos).symm
    _ = other * den / (below * den) := by rw [same, Nat.mul_comm den below]
    _ = other / below := Nat.mul_div_mul_right _ _ den_pos

theorem mod_eq_zero_of_cross {num den other below : Nat} (den_pos : 0 < den)
    (below_pos : 0 < below) (same : num * below = other * den) :
    num % den = 0 ↔ other % below = 0 := by
  have scaled : num % den * below = other % below * den := by
    rw [← Nat.mul_mod_mul_right, ← Nat.mul_mod_mul_right, same, Nat.mul_comm den below]
  constructor <;> intro zero <;> rw [zero, Nat.zero_mul] at scaled
  · exact (Nat.mul_eq_zero.1 scaled.symm).resolve_right (Nat.ne_of_gt den_pos)
  · exact (Nat.mul_eq_zero.1 scaled).resolve_right (Nat.ne_of_gt below_pos)

theorem cut_eq_of_cross {num den other below : Nat} (den_pos : 0 < den) (below_pos : 0 < below)
    (same : num * below = other * den) : cut num den = cut other below := by
  have doubled : 2 * num * below = 2 * other * den := by
    rw [Nat.mul_assoc, same, Nat.mul_assoc]
  have zero := mod_eq_zero_of_cross den_pos below_pos doubled
  have sticky : (2 * num % den != 0) = (2 * other % below != 0) := by
    rw [Bool.eq_iff_iff, bne_iff_ne, bne_iff_ne, ne_eq, ne_eq, zero]
  simp only [cut, div_eq_div_of_cross den_pos below_pos same,
    div_eq_div_of_cross den_pos below_pos doubled, sticky]

theorem cut_one (whole : Nat) : cut whole 1 = ⟨whole, false, false⟩ := by
  simp [cut, Nat.mod_one]

theorem ofMantissaAndAccuracy_eq (num : Nat) {den : Nat} (den_pos : 0 < den) :
    ExtendedMantissa.ofMantissaAndAccuracy (num / den) (accuracyOfFraction (num % den) den) =
      cut num den := by
  have division := Nat.div_add_mod num den
  have below := Nat.mod_lt num den_pos
  generalize num / den = whole at division
  generalize num % den = remainder at division below
  subst division
  have double : 2 * (den * whole + remainder) = 2 * remainder + den * (2 * whole) := by
    rw [Nat.mul_add, Nat.mul_left_comm, Nat.add_comm]
  have first : 2 * (den * whole + remainder) / den = 2 * remainder / den + 2 * whole := by
    rw [double, Nat.add_mul_div_left _ _ den_pos]
  have second : 2 * (den * whole + remainder) % den = 2 * remainder % den := by
    rw [double, Nat.add_mul_mod_self_left]
  have small : (den * whole + remainder) / den = whole := by
    rw [Nat.mul_add_div den_pos, Nat.div_eq_of_lt below, Nat.add_zero]
  simp only [cut, first, second, small, Nat.add_mul_mod_self_left]
  unfold accuracyOfFraction
  split
  · rename_i zero
    simp [ExtendedMantissa.ofMantissaAndAccuracy, zero]
  · rename_i nonzero
    rcases Nat.lt_trichotomy (2 * remainder) den with less | equal | greater
    · have order : compare (2 * remainder) den = .lt := Nat.compare_eq_lt.2 less
      have left : 2 * remainder ≠ 0 := by omega
      rw [order, Nat.div_eq_of_lt less, Nat.mod_eq_of_lt less]
      simp [ExtendedMantissa.ofMantissaAndAccuracy, left]
    · have order : compare (2 * remainder) den = .eq := Nat.compare_eq_eq.2 equal
      rw [order, equal, Nat.div_self den_pos, Nat.mod_self]
      simp [ExtendedMantissa.ofMantissaAndAccuracy]
    · have order : compare (2 * remainder) den = .gt := Nat.compare_eq_gt.2 greater
      have once : 2 * remainder / den = 1 := Nat.div_eq_of_lt_le (by omega) (by omega)
      have rest : 2 * remainder % den = 2 * remainder - den := by
        rw [Nat.mod_eq_sub_mod (by omega), Nat.mod_eq_of_lt (by omega)]
      have left : 2 * remainder - den ≠ 0 := by omega
      rw [order, once, rest]
      simp [ExtendedMantissa.ofMantissaAndAccuracy, left]

theorem mod_eq_zero_iff_double (num : Nat) {den : Nat} (den_pos : 0 < den) :
    num % den = 0 ↔ 2 * num / den % 2 = 0 ∧ 2 * num % den = 0 := by
  constructor
  · intro zero
    obtain ⟨whole, rfl⟩ := Nat.dvd_of_mod_eq_zero zero
    have double : 2 * (den * whole) = den * (2 * whole) := Nat.mul_left_comm ..
    rw [double, Nat.mul_div_cancel_left _ den_pos]
    exact ⟨by omega, Nat.mul_mod_right ..⟩
  · rintro ⟨even, exact⟩
    have division := Nat.div_add_mod (2 * num) den
    obtain ⟨half, twice⟩ := Nat.dvd_of_mod_eq_zero even
    rw [exact, Nat.add_zero, twice, Nat.mul_left_comm] at division
    have whole : num = den * half := Nat.eq_of_mul_eq_mul_left (by decide) division.symm
    rw [whole, Nat.mul_mod_right]

theorem cut_shiftRightOne (num : Nat) {den : Nat} (den_pos : 0 < den) :
    (cut num den).shiftRightOne = cut num (den * 2) := by
  have whole : num / den / 2 = num / (den * 2) := Nat.div_div_eq_div_mul ..
  have first : 2 * num / (den * 2) = num / den := by
    rw [Nat.mul_comm den, Nat.mul_div_mul_left _ _ (by decide)]
  have behind : 2 * num % (den * 2) = 2 * (num % den) := by
    rw [Nat.mul_comm den, Nat.mul_mod_mul_left]
  have sticky : (2 * num / den % 2 != 0 || 2 * num % den != 0) = (2 * (num % den) != 0) := by
    have zero := mod_eq_zero_iff_double num den_pos
    rw [Bool.eq_iff_iff, Bool.or_eq_true, bne_iff_ne, bne_iff_ne, bne_iff_ne]
    omega
  simp only [ExtendedMantissa.shiftRightOne, cut, whole, first, behind, sticky]

theorem cut_shiftRight (num : Nat) {den : Nat} (den_pos : 0 < den) (count : Nat) :
    cut num den >>> count = cut num (den * 2 ^ count) := by
  induction count with
  | zero =>
      rw [Nat.pow_zero, Nat.mul_one]
      rfl
  | succ count ih =>
      change (cut num den >>> count).shiftRightOne = _
      rw [ih, cut_shiftRightOne num (Nat.mul_pos den_pos (Nat.two_pow_pos _)), Nat.pow_succ,
        Nat.mul_assoc]

def place (whole : Nat) (scale : Int) : Int :=
  Format.binary64.targetExponent (totalExponent whole scale)

theorem place_eq (whole : Nat) (scale : Int) :
    place whole scale = max (whole.log2 + scale - 52) (-1074) := by
  simp only [place, Format.targetExponent, totalExponent, Format.mantissaBits, Format.minExponent]
  omega

/-- The double that the quotient times a power of two is rounded to. -/
def rounded (num den : Nat) (scale : Int) : UnpackedFloat :=
  roundWithAccuracy Format.binary64 .positive (num / den) scale
    (accuracyOfFraction (num % den) den)

def settle (shifted : ExtendedMantissa × Int) : UnpackedFloat :=
  if zero : shifted.1.mantissa = 0 then .zero .positive
  else .finite .positive shifted.1.mantissa shifted.2 (Nat.pos_of_ne_zero zero)

def finish (extended : ExtendedMantissa) (scale : Int) : UnpackedFloat :=
  settle (shiftToTargetExponent Format.binary64 extended.roundedMantissa scale .exact)

theorem shiftToTargetExponent_eq (num : Nat) {den : Nat} (den_pos : 0 < den) {scale : Int}
    (below : scale ≤ place (num / den) scale) :
    shiftToTargetExponent Format.binary64 (num / den) scale (accuracyOfFraction (num % den) den) =
      (cut num (den * 2 ^ (place (num / den) scale - scale).toNat), place (num / den) scale) := by
  have reached : scale + ((place (num / den) scale - scale).toNat : Int) =
      place (num / den) scale := by omega
  rw [shiftToTargetExponent, shiftToExponent, ofMantissaAndAccuracy_eq num den_pos]
  change (cut num den >>> (place (num / den) scale - scale).toNat, _) = _
  rw [cut_shiftRight num den_pos]
  exact Prod.ext rfl reached

theorem rounded_eq_finish (num : Nat) {den : Nat} (den_pos : 0 < den) {scale : Int}
    (below : scale ≤ place (num / den) scale) :
    rounded num den scale =
      finish (cut num (den * 2 ^ (place (num / den) scale - scale).toNat))
        (place (num / den) scale) := by
  have shifted := shiftToTargetExponent_eq num den_pos below
  change finish (shiftToTargetExponent Format.binary64 (num / den) scale
    (accuracyOfFraction (num % den) den)).1 (shiftToTargetExponent Format.binary64 (num / den) scale
    (accuracyOfFraction (num % den) den)).2 = _
  rw [shifted]

theorem log2_div_mul_two_pow {num den : Nat} (den_pos : 0 < den) (whole : 0 < num / den)
    (count : Nat) : (num * 2 ^ count / den).log2 = (num / den).log2 + count := by
  have low : 2 ^ (num / den).log2 * den ≤ num :=
    (Nat.le_div_iff_mul_le den_pos).1 (Nat.log2_self_le (Nat.ne_of_gt whole))
  have high : num < 2 ^ ((num / den).log2 + 1) * den :=
    (Nat.div_lt_iff_lt_mul den_pos).1 Nat.lt_log2_self
  have scaledLow : 2 ^ ((num / den).log2 + count) * den ≤ num * 2 ^ count := by
    rw [Nat.pow_add, Nat.mul_right_comm]
    exact Nat.mul_le_mul_right _ low
  have scaledHigh : num * 2 ^ count < 2 ^ ((num / den).log2 + count + 1) * den := by
    rw [Nat.add_right_comm, Nat.pow_add, Nat.mul_right_comm]
    exact Nat.mul_lt_mul_of_pos_right high (Nat.two_pow_pos _)
  have least := (Nat.le_div_iff_mul_le den_pos).2 scaledLow
  have pos : num * 2 ^ count / den ≠ 0 :=
    Nat.ne_of_gt (Nat.lt_of_lt_of_le (Nat.two_pow_pos _) least)
  exact (Nat.log2_eq_iff pos).2 ⟨least, (Nat.div_lt_iff_lt_mul den_pos).2 scaledHigh⟩

theorem rounded_lower {num den : Nat} (den_pos : 0 < den) (enough : 2 ^ 52 ≤ num / den)
    (scale : Int) (count : Nat) :
    rounded (num * 2 ^ count) den (scale - count) = rounded num den scale := by
  have pos : 0 < num / den := Nat.lt_of_lt_of_le (Nat.two_pow_pos 52) enough
  have digits : 52 ≤ (num / den).log2 := (Nat.le_log2 (Nat.ne_of_gt pos)).2 enough
  have longer := log2_div_mul_two_pow den_pos pos count
  have same : place (num * 2 ^ count / den) (scale - count) = place (num / den) scale := by
    rw [place_eq, place_eq, longer]
    omega
  have below : scale ≤ place (num / den) scale := by
    rw [place_eq]
    omega
  rw [rounded_eq_finish num den_pos below, rounded_eq_finish _ den_pos (by omega), same]
  have shifts : (place (num / den) scale - (scale - count)).toNat =
      (place (num / den) scale - scale).toNat + count := by omega
  have cuts : cut (num * 2 ^ count) (den * 2 ^ ((place (num / den) scale - scale).toNat + count)) =
      cut num (den * 2 ^ (place (num / den) scale - scale).toNat) := by
    have scaled := Nat.mul_pos den_pos (Nat.two_pow_pos (place (num / den) scale - scale).toNat)
    refine cut_eq_of_cross ?_ scaled ?_
    · exact Nat.mul_pos den_pos (Nat.two_pow_pos _)
    · rw [Nat.pow_add, Nat.mul_assoc num, ← Nat.mul_assoc den, Nat.mul_comm (2 ^ count)]
  rw [shifts, cuts]

/-- The double nearest to a quotient, a tie going to the even one. -/
def nearest (num den : Nat) : UnpackedFloat := rounded (num * 2 ^ 1074) den (-1074)

theorem compare_eq_of_cross {num den other below : Nat} (den_pos : 0 < den) (below_pos : 0 < below)
    (same : num * below = other * den) : compare num den = compare other below := by
  rcases Nat.lt_trichotomy num den with less | equal | greater
  · have scaled : other * den < below * den := by
      rw [← same, Nat.mul_comm below]
      exact Nat.mul_lt_mul_of_pos_right less below_pos
    rw [Nat.compare_eq_lt.2 less, Nat.compare_eq_lt.2 (Nat.lt_of_mul_lt_mul_right scaled)]
  · subst equal
    have equal : other = below := by
      rw [Nat.mul_comm num] at same
      exact (Nat.eq_of_mul_eq_mul_right den_pos same).symm
    rw [equal, Nat.compare_eq_eq.2 rfl, Nat.compare_eq_eq.2 rfl]
  · have scaled : below * den < other * den := by
      rw [← same, Nat.mul_comm below]
      exact Nat.mul_lt_mul_of_pos_right greater below_pos
    rw [Nat.compare_eq_gt.2 greater, Nat.compare_eq_gt.2 (Nat.lt_of_mul_lt_mul_right scaled)]

theorem accuracyOfFraction_eq_of_cross {num den other below : Nat} (den_pos : 0 < den)
    (below_pos : 0 < below) (same : num * below = other * den) :
    accuracyOfFraction (num % den) den = accuracyOfFraction (other % below) below := by
  have scaled : num % den * below = other % below * den := by
    rw [← Nat.mul_mod_mul_right, ← Nat.mul_mod_mul_right, same, Nat.mul_comm den below]
  have zero := mod_eq_zero_of_cross den_pos below_pos same
  have order : compare (2 * (num % den)) den = compare (2 * (other % below)) below :=
    compare_eq_of_cross den_pos below_pos (by rw [Nat.mul_assoc, scaled, Nat.mul_assoc])
  simp only [accuracyOfFraction, zero, order]

theorem rounded_eq_of_cross {num den other below : Nat} (den_pos : 0 < den)
    (below_pos : 0 < below) (same : num * below = other * den) (scale : Int) :
    rounded num den scale = rounded other below scale := by
  simp only [rounded, div_eq_div_of_cross den_pos below_pos same,
    accuracyOfFraction_eq_of_cross den_pos below_pos same]

theorem nearest_eq_of_cross {num den other below : Nat} (den_pos : 0 < den)
    (below_pos : 0 < below) (same : num * below = other * den) :
    nearest num den = nearest other below := by
  refine rounded_eq_of_cross den_pos below_pos ?_ _
  rw [Nat.mul_right_comm, same, Nat.mul_right_comm]

/-- Whatever scale a quotient is taken at, with enough digits it is rounded to its nearest double. -/
theorem rounded_eq_nearest {num den whole below : Nat} (den_pos : 0 < den) (below_pos : 0 < below)
    {scale : Int} (least : -1074 ≤ scale) (enough : 2 ^ 52 ≤ num / den ∨ scale = -1074)
    (same : num * 2 ^ (scale + 1074).toNat * below = whole * 2 ^ 1074 * den) :
    rounded num den scale = nearest whole below := by
  have lowered : rounded num den scale = rounded (num * 2 ^ (scale + 1074).toNat) den (-1074) := by
    rcases enough with enough | bottom
    · have lower := rounded_lower den_pos enough scale (scale + 1074).toNat
      have reached : scale - ((scale + 1074).toNat : Int) = -1074 := by omega
      rw [← lower, reached]
    · subst bottom
      simp
  rw [lowered]
  exact rounded_eq_of_cross den_pos below_pos same _

/-- The mantissas and scales of the positive doubles. -/
structure Canonical (whole : Nat) (scale : Int) : Prop where
  pos : 0 < whole
  fits : whole < 2 ^ 53
  least : -1074 ≤ scale
  full : 2 ^ 52 ≤ whole ∨ scale = -1074

theorem Canonical.place_eq {whole : Nat} {scale : Int} (canonical : Canonical whole scale) :
    place whole scale = scale := by
  have nonzero := Nat.ne_of_gt canonical.pos
  have digits : whole.log2 < 53 := (Nat.log2_lt nonzero).2 canonical.fits
  have least := canonical.least
  rw [Rounding.place_eq]
  rcases canonical.full with full | bottom
  · have all : 52 ≤ whole.log2 := (Nat.le_log2 nonzero).2 full
    omega
  · omega

theorem settle_canonical {whole : Nat} {scale : Int} (canonical : Canonical whole scale) :
    settle (shiftToTargetExponent Format.binary64 whole scale .exact) =
      .finite .positive whole scale canonical.pos := by
  have below : scale ≤ place (whole / 1) scale :=
    Int.le_of_eq (by rw [Nat.div_one, canonical.place_eq])
  have stays := shiftToTargetExponent_eq whole Nat.one_pos below
  simp only [Nat.div_one, canonical.place_eq, Int.sub_self, Int.toNat_zero, Nat.pow_zero,
    Nat.mul_one, cut_one] at stays
  have exact : accuracyOfFraction 0 1 = .exact := rfl
  rw [Nat.mod_one, exact] at stays
  rw [stays]
  exact dif_neg (Nat.ne_of_gt canonical.pos)

theorem rounded_one {whole : Nat} {scale : Int} (canonical : Canonical whole scale) :
    rounded whole 1 scale = .finite .positive whole scale canonical.pos := by
  have below : scale ≤ place (whole / 1) scale :=
    Int.le_of_eq (by rw [Nat.div_one, canonical.place_eq])
  have finished := rounded_eq_finish whole Nat.one_pos below
  simp only [Nat.div_one, canonical.place_eq, Int.sub_self, Int.toNat_zero, Nat.pow_zero,
    Nat.mul_one, cut_one] at finished
  exact finished.trans (settle_canonical canonical)

theorem roundedMantissa_bounds (extended : ExtendedMantissa) :
    extended.mantissa ≤ extended.roundedMantissa ∧ extended.roundedMantissa ≤ extended.mantissa + 1 := by
  obtain ⟨mantissa, first, behind⟩ := extended
  cases first <;> cases behind <;>
    simp only [ExtendedMantissa.roundedMantissa, ExtendedMantissa.accuracy,
      Accuracy.roundToNearestEven] <;> omega

theorem finish_full {extended : ExtendedMantissa} {scale : Int} (full : 2 ^ 52 ≤ extended.mantissa)
    (fits : extended.mantissa < 2 ^ 53) (least : -1074 ≤ scale) :
    ∃ (whole : Nat) (next : Int) (canonical : Canonical whole next), next ≤ scale + 1 ∧
      finish extended scale = .finite .positive whole next canonical.pos := by
  obtain ⟨low, high⟩ := roundedMantissa_bounds extended
  by_cases small : extended.roundedMantissa < 2 ^ 53
  · have canonical : Canonical extended.roundedMantissa scale :=
      ⟨by omega, small, least, .inl (by omega)⟩
    exact ⟨_, scale, canonical, by omega, settle_canonical canonical⟩
  · have carried : extended.roundedMantissa = 2 ^ 53 := by omega
    have canonical : Canonical (2 ^ 52) (scale + 1) := ⟨by decide, by decide, by omega, .inl (by decide)⟩
    refine ⟨2 ^ 52, scale + 1, canonical, by omega, ?_⟩
    have moved : place (2 ^ 53 / 1) scale = scale + 1 := by
      rw [Nat.div_one, Rounding.place_eq, Nat.log2_two_pow]
      omega
    have below : scale ≤ place (2 ^ 53 / 1) scale := by omega
    have shifted := shiftToTargetExponent_eq (2 ^ 53) Nat.one_pos below
    have once : (scale + 1 - scale).toNat = 1 := by omega
    have halved : cut (2 ^ 53) (1 * 2 ^ 1) = ⟨2 ^ 52, false, false⟩ := rfl
    have exact : accuracyOfFraction 0 1 = .exact := rfl
    rw [moved, once, halved, Nat.div_one, Nat.mod_one, exact] at shifted
    rw [finish, carried, shifted]
    rfl

theorem nearest_eq_of_canonical {num den whole : Nat} {scale : Int} (den_pos : 0 < den)
    (canonical : Canonical whole scale)
    (same : num * 2 ^ 1074 = whole * 2 ^ (scale + 1074).toNat * den) :
    nearest num den = .finite .positive whole scale canonical.pos := by
  rw [← rounded_one canonical]
  refine (rounded_eq_nearest Nat.one_pos den_pos canonical.least ?_ ?_).symm
  · rw [Nat.div_one]
    exact canonical.full
  · rw [Nat.mul_one, same]

theorem nearest_whole {whole : Nat} (full : 2 ^ 52 ≤ whole) (digits : whole.log2 ≤ 1000) :
    ∃ (mantissa : Nat) (scale : Int) (canonical : Canonical mantissa scale), scale ≤ 971 ∧
      nearest whole 1 = .finite .positive mantissa scale canonical.pos := by
  have pos : 0 < whole := Nat.lt_of_lt_of_le (Nat.two_pow_pos 52) full
  have long : 52 ≤ whole.log2 := (Nat.le_log2 (Nat.ne_of_gt pos)).2 full
  have scale : ((0 : Int) + 1074).toNat = 1074 := rfl
  have same : whole * 2 ^ ((0 : Int) + 1074).toNat * 1 = whole * 2 ^ 1074 * 1 := by rw [scale]
  have direct : rounded whole 1 0 = nearest whole 1 :=
    rounded_eq_nearest Nat.one_pos Nat.one_pos (by decide) (.inl (by rwa [Nat.div_one])) same
  have moved : place (whole / 1) 0 = ((whole.log2 - 52 : Nat) : Int) := by
    rw [Nat.div_one, place_eq]
    omega
  have finished := rounded_eq_finish whole Nat.one_pos (show (0 : Int) ≤ place (whole / 1) 0 by omega)
  rw [moved, Int.sub_zero, Int.toNat_natCast, Nat.one_mul] at finished
  have split : 2 ^ (whole.log2 - 52) * 2 ^ 52 = 2 ^ whole.log2 := by
    rw [← Nat.pow_add, Nat.sub_add_cancel long]
  have low : 2 ^ 52 ≤ (cut whole (2 ^ (whole.log2 - 52))).mantissa := by
    refine (Nat.le_div_iff_mul_le (Nat.two_pow_pos _)).2 ?_
    rw [Nat.mul_comm, split]
    exact Nat.log2_self_le (Nat.ne_of_gt pos)
  have high : (cut whole (2 ^ (whole.log2 - 52))).mantissa < 2 ^ 53 := by
    refine (Nat.div_lt_iff_lt_mul (Nat.two_pow_pos _)).2 ?_
    have less := Nat.lt_log2_self (n := whole)
    omega
  have least : (-1074 : Int) ≤ ((whole.log2 - 52 : Nat) : Int) := by omega
  obtain ⟨mantissa, scale, canonical, bound, ends⟩ := finish_full low high least
  exact ⟨mantissa, scale, canonical, by omega, direct.symm.trans (finished.trans ends)⟩

theorem mul_eq_rounded {first second : Nat} (first_pos : 0 < first) (second_pos : 0 < second)
    (high low : Int) :
    mul Format.binary64 (.finite .positive first high first_pos)
        (.finite .positive second low second_pos) =
      rounded (first * second) 1 (high + low) := by
  simp only [rounded, Nat.div_one, Nat.mod_one]
  rfl

theorem mul_eq_nearest {first second whole below : Nat} (first_pos : 0 < first)
    (second_pos : 0 < second) {high low : Int} (below_pos : 0 < below)
    (least : -1074 ≤ high + low) (enough : 2 ^ 52 ≤ first * second)
    (same : first * second * 2 ^ (high + low + 1074).toNat * below = whole * 2 ^ 1074) :
    mul Format.binary64 (.finite .positive first high first_pos)
        (.finite .positive second low second_pos) = nearest whole below := by
  rw [mul_eq_rounded]
  refine rounded_eq_nearest Nat.one_pos below_pos least (.inl ?_) ?_
  · rwa [Nat.div_one]
  · rwa [Nat.mul_one]

theorem cross_of_scales {first second whole below up down shift rise base : Nat}
    (same : first * 2 ^ up * below = whole * second * 2 ^ down)
    (scales : shift + rise + down = up + base) :
    first * 2 ^ shift * 2 ^ rise * below = whole * 2 ^ base * second := by
  refine Nat.eq_of_mul_eq_mul_right (Nat.two_pow_pos down) ?_
  calc first * 2 ^ shift * 2 ^ rise * below * 2 ^ down
      = first * 2 ^ (shift + rise + down) * below := by
        simp only [Nat.pow_add]
        ac_rfl
    _ = first * 2 ^ up * below * 2 ^ base := by
        rw [scales, Nat.pow_add]
        ac_rfl
    _ = whole * 2 ^ base * second * 2 ^ down := by
        rw [same]
        ac_rfl

theorem div_eq_nearest {first second whole below up down : Nat} (first_pos : 0 < first)
    (second_pos : 0 < second) {high low : Int} (below_pos : 0 < below)
    (least : -1074 ≤ high - low) (scales : high - low = up - down)
    (same : first * 2 ^ up * below = whole * second * 2 ^ down) :
    div Format.binary64 (.finite .positive first high first_pos)
        (.finite .positive second low second_pos) = nearest whole below := by
  let target := min (high - low) (Format.binary64.targetExponent
    (totalExponent first high - totalExponent second low))
  have value : target = min (high - low)
      (max ((first.log2 : Int) - second.log2 + (high - low) - 53) (-1074)) := by
    simp only [target, Format.targetExponent, totalExponent, Format.mantissaBits, Format.minExponent]
    omega
  let shift := (high - low - target).toNat
  have shiftValue : (shift : Int) = high - low - target := by omega
  have divided : div Format.binary64 (.finite .positive first high first_pos)
      (.finite .positive second low second_pos) = rounded (first * 2 ^ shift) second target := by
    rw [rounded, ← Nat.shiftLeft_eq]
    rfl
  rw [divided]
  refine rounded_eq_nearest second_pos below_pos (by omega) ?_ ?_
  · by_cases bottom : target = -1074
    · exact .inr bottom
    · refine .inl ((Nat.le_div_iff_mul_le second_pos).2 ?_)
      have digits : second.log2 + 53 ≤ first.log2 + shift := by omega
      have high := Nat.log2_self_le (Nat.ne_of_gt first_pos)
      have low : second ≤ 2 ^ (second.log2 + 1) := Nat.le_of_lt Nat.lt_log2_self
      calc 2 ^ 52 * second ≤ 2 ^ 52 * 2 ^ (second.log2 + 1) := Nat.mul_le_mul_left _ low
        _ = 2 ^ (second.log2 + 53) := by rw [← Nat.pow_add, Nat.add_comm, Nat.add_assoc]
        _ ≤ 2 ^ (first.log2 + shift) := Nat.pow_le_pow_right (by decide) digits
        _ = 2 ^ first.log2 * 2 ^ shift := Nat.pow_add ..
        _ ≤ first * 2 ^ shift := Nat.mul_le_mul_right _ high
  · have scales : shift + (target + 1074).toNat + down = up + 1074 := by omega
    have crossed := cross_of_scales same scales
    exact crossed

end Rounding

end SoundScene
