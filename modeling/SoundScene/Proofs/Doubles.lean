import SoundScene.Proofs.Rounding
import SoundScene.Json.Text

/-!
The parts of a finite double: its sign, its mantissa and its scale.  They are read off the bits
(`parts`), and the bits are made of them again (`pack_unpack`, `unpack_pack`).
-/

namespace SoundScene

open Float.Model Float.Model.UnpackedFloat Rounding

namespace Double

abbrev Bits := BitVec 64

theorem unpackMantissa_toNat (bits : Bits) :
    (@unpackMantissa Format.binary64 bits).toNat = bits.toNat % 2 ^ 52 := by
  simp [unpackMantissa, BitVec.extractLsb_toNat]

theorem unpackExponent_toNat (bits : Bits) :
    (@unpackExponent Format.binary64 bits).toNat = bits.toNat / 2 ^ 52 % 2 ^ 11 := by
  simp [unpackExponent, BitVec.extractLsb_toNat, Nat.shiftRight_eq_div_pow]

theorem unpackSign_toNat (bits : Bits) :
    (@unpackSign Format.binary64 bits).toNat = bits.toNat / 2 ^ 63 := by
  have bound : bits.toNat < 2 ^ 64 := bits.isLt
  simp [unpackSign, BitVec.extractLsb_toNat, Nat.shiftRight_eq_div_pow]
  omega

theorem toBitVec_ofBitVec (sign : BitVec 1) : (Sign.ofBitVec sign).toBitVec = sign := by
  rcases BitVec.eq_zero_or_eq_one sign with rfl | rfl <;> rfl

theorem ofBitVec_toBitVec (sign : Sign) : Sign.ofBitVec sign.toBitVec = sign := by
  cases sign <;> rfl

theorem packComponents_toNat (sign : Sign) (exponent : BitVec 11) (mantissa : BitVec 52) :
    (packComponents Format.binary64 sign exponent mantissa).toNat =
      (sign.toBitVec.toNat * 2 ^ 11 + exponent.toNat) * 2 ^ 52 + mantissa.toNat := by
  rw [packComponents, BitVec.toNat_append, BitVec.toNat_append,
    ← Nat.shiftLeft_add_eq_or_of_lt mantissa.isLt, ← Nat.shiftLeft_add_eq_or_of_lt exponent.isLt,
    Nat.shiftLeft_eq, Nat.shiftLeft_eq]

theorem packComponents_unpack (bits : Bits) :
    packComponents Format.binary64 (Sign.ofBitVec (@unpackSign Format.binary64 bits))
      (@unpackExponent Format.binary64 bits) (@unpackMantissa Format.binary64 bits) = bits := by
  refine BitVec.eq_of_toNat_eq ?_
  rw [packComponents_toNat, toBitVec_ofBitVec, unpackMantissa_toNat, unpackExponent_toNat,
    unpackSign_toNat]
  omega

theorem unpackSign_packComponents (sign : Sign) (exponent : BitVec 11) (mantissa : BitVec 52) :
    @unpackSign Format.binary64 (packComponents Format.binary64 sign exponent mantissa) =
      sign.toBitVec := by
  refine BitVec.eq_of_toNat_eq ?_
  have short := exponent.isLt
  have small := mantissa.isLt
  have packed := packComponents_toNat sign exponent mantissa
  rw [unpackSign_toNat, packed]
  omega

theorem toNat_one_append (mantissa : BitVec 52) :
    (1#1 ++ mantissa).toNat = 2 ^ 52 + mantissa.toNat := by
  rw [BitVec.toNat_append, ← Nat.shiftLeft_add_eq_or_of_lt mantissa.isLt]
  rfl

section Unpacking

variable {bits : Bits} {exponent mantissa : Nat}

theorem unpack_infinite (full : (@unpackExponent Format.binary64 bits).toNat = 2047) :
    (UnpackedFloat.unpack Format.binary64 bits).isFinite = false := by
  have ones : @unpackExponent Format.binary64 bits = -1#11 := BitVec.eq_of_toNat_eq full
  simp only [UnpackedFloat.unpack]
  rw [if_pos ones]
  split <;> rfl

theorem unpack_zero (none : (@unpackExponent Format.binary64 bits).toNat = 0)
    (empty : (@unpackMantissa Format.binary64 bits).toNat = 0) :
    UnpackedFloat.unpack Format.binary64 bits =
      .zero (Sign.ofBitVec (@unpackSign Format.binary64 bits)) := by
  have zeros : @unpackExponent Format.binary64 bits = 0#11 := BitVec.eq_of_toNat_eq none
  have nothing : @unpackMantissa Format.binary64 bits = 0#52 := BitVec.eq_of_toNat_eq empty
  simp only [UnpackedFloat.unpack]
  rw [if_neg (by rw [zeros]; decide), if_pos zeros, dif_pos nothing]

theorem unpack_subnormal (none : (@unpackExponent Format.binary64 bits).toNat = 0)
    (pos : 0 < (@unpackMantissa Format.binary64 bits).toNat) :
    UnpackedFloat.unpack Format.binary64 bits =
      .finite (Sign.ofBitVec (@unpackSign Format.binary64 bits)) _ (-1074) pos := by
  have zeros : @unpackExponent Format.binary64 bits = 0#11 := BitVec.eq_of_toNat_eq none
  have something : @unpackMantissa Format.binary64 bits ≠ 0#52 := by
    intro nothing
    rw [nothing] at pos
    cases pos
  simp only [UnpackedFloat.unpack]
  rw [if_neg (by rw [zeros]; decide), if_pos zeros, dif_neg something]
  simp only [zeros]
  rfl

theorem unpack_normal (some : 0 < (@unpackExponent Format.binary64 bits).toNat)
    (room : (@unpackExponent Format.binary64 bits).toNat < 2047) :
    UnpackedFloat.unpack Format.binary64 bits =
      .finite (Sign.ofBitVec (@unpackSign Format.binary64 bits))
        (2 ^ 52 + (@unpackMantissa Format.binary64 bits).toNat)
        ((@unpackExponent Format.binary64 bits).toNat - 1075) (by omega) := by
  have notOnes : @unpackExponent Format.binary64 bits ≠ -1#11 := by
    intro ones
    rw [ones] at room
    exact absurd room (by decide)
  have notZeros : @unpackExponent Format.binary64 bits ≠ 0#11 := by
    intro zeros
    rw [zeros] at some
    cases some
  simp only [UnpackedFloat.unpack]
  rw [if_neg notOnes, if_neg notZeros]
  congr 1
  exact toNat_one_append _

end Unpacking

def bits (x : Float) : Bits := x.toModel.toBits.toBitVec

def sign (x : Float) : Sign := Sign.ofBitVec (@unpackSign Format.binary64 (bits x))

theorem ofFloat_subnormal {x : Float}
    (none : (@unpackExponent Format.binary64 (bits x)).toNat = 0) :
    Binary.ofFloat x = ⟨(@unpackMantissa Format.binary64 (bits x)).toNat, -1074⟩ := by
  rw [unpackExponent_toNat] at none
  rw [unpackMantissa_toNat]
  exact if_pos none

theorem ofFloat_normal {x : Float}
    (some : (@unpackExponent Format.binary64 (bits x)).toNat ≠ 0) :
    Binary.ofFloat x = ⟨2 ^ 52 + (@unpackMantissa Format.binary64 (bits x)).toNat,
      (@unpackExponent Format.binary64 (bits x)).toNat - 1075⟩ := by
  rw [unpackExponent_toNat] at some ⊢
  rw [unpackMantissa_toNat]
  exact if_neg some

theorem unpack_cases (x : Float) (finite : x.isFinite = true) :
    ((Binary.ofFloat x).mantissa = 0 ∧ x.toModel.unpack = .zero (sign x)) ∨
      ∃ canonical : Canonical (Binary.ofFloat x).mantissa (Binary.ofFloat x).scale,
        (Binary.ofFloat x).scale ≤ 971 ∧
          x.toModel.unpack = .finite (sign x) _ (Binary.ofFloat x).scale canonical.pos := by
  have short : (@unpackMantissa Format.binary64 (bits x)).toNat < 2 ^ 52 := BitVec.isLt _
  have some : (@unpackExponent Format.binary64 (bits x)).toNat ≠ 2047 := fun full =>
    Bool.false_ne_true ((unpack_infinite full).symm.trans finite)
  have room : (@unpackExponent Format.binary64 (bits x)).toNat < 2047 := by
    have few : (@unpackExponent Format.binary64 (bits x)).toNat < 2 ^ 11 := BitVec.isLt _
    omega
  by_cases none : (@unpackExponent Format.binary64 (bits x)).toNat = 0
  · rw [ofFloat_subnormal none]
    by_cases empty : (@unpackMantissa Format.binary64 (bits x)).toNat = 0
    · exact .inl ⟨empty, unpack_zero none empty⟩
    · have pos := Nat.pos_of_ne_zero empty
      have canonical : Canonical (@unpackMantissa Format.binary64 (bits x)).toNat (-1074) :=
        ⟨pos, by omega, by omega, .inr rfl⟩
      exact .inr ⟨canonical, show (-1074 : Int) ≤ 971 by decide, unpack_subnormal none pos⟩
  · have canonical : Canonical (2 ^ 52 + (@unpackMantissa Format.binary64 (bits x)).toNat)
        ((@unpackExponent Format.binary64 (bits x)).toNat - 1075) :=
      ⟨by omega, by omega, by omega, .inl (by omega)⟩
    rw [ofFloat_normal none]
    refine .inr ⟨canonical, ?_, unpack_normal (Nat.pos_of_ne_zero none) room⟩
    change ((@unpackExponent Format.binary64 (bits x)).toNat : Int) - 1075 ≤ 971
    omega

theorem pack_finite {whole : Nat} {scale : Int} (canonical : Canonical whole scale)
    (bounded : scale ≤ 971) (sign : Sign) :
    UnpackedFloat.pack Format.binary64 (.finite sign whole scale canonical.pos) =
      packComponents Format.binary64 sign
        (BitVec.ofNat 11 (if 2 ^ 52 ≤ whole then (scale + 1075).toNat else 0))
        (BitVec.ofNat 52 whole) := by
  have least := canonical.least
  have nonzero := Nat.ne_of_gt canonical.pos
  have digits : whole.log2 < 53 := (Nat.log2_lt nonzero).2 canonical.fits
  have biased : (scale + (Format.binary64.exponentBias : Int) +
      (Format.binary64.mantissaBitsWithoutImplicit : Int)).toNat = (scale + 1075).toNat := by
    change (scale + 1023 + 52).toNat = _
    omega
  have room : ¬ 2 ^ 11 ≤ (scale + 1075).toNat + 1 := by omega
  simp only [UnpackedFloat.pack, biased]
  rw [if_neg room]
  by_cases full : 2 ^ 52 ≤ whole
  · have all : 52 ≤ whole.log2 := (Nat.le_log2 nonzero).2 full
    have long : whole.log2 + 1 = Format.binary64.mantissaBits := by
      change whole.log2 + 1 = 53
      omega
    rw [if_pos long, if_pos full]
  · have less : whole.log2 < 52 := (Nat.log2_lt nonzero).2 (Nat.lt_of_not_le full)
    have short : whole.log2 + 1 ≠ Format.binary64.mantissaBits := by
      change whole.log2 + 1 ≠ 53
      omega
    rw [if_neg short, if_neg full]

theorem unpack_pack {whole : Nat} {scale : Int} (canonical : Canonical whole scale)
    (bounded : scale ≤ 971) (sign : Sign) :
    (Float.Model.pack (.finite sign whole scale canonical.pos)).unpack =
      .finite sign whole scale canonical.pos := by
  have fits := canonical.fits
  have least := canonical.least
  change UnpackedFloat.unpack Format.binary64
    (UnpackedFloat.pack Format.binary64 (.finite sign whole scale canonical.pos)) = _
  rw [pack_finite canonical bounded]
  by_cases full : 2 ^ 52 ≤ whole
  · rw [if_pos full]
    have exponent : (BitVec.ofNat 11 (scale + 1075).toNat).toNat = (scale + 1075).toNat := by
      rw [BitVec.toNat_ofNat]
      omega
    have mantissa : (BitVec.ofNat 52 whole).toNat = whole - 2 ^ 52 := by
      rw [BitVec.toNat_ofNat]
      omega
    rw [unpack_normal]
    · simp only [unpackSign_packComponents, unpackExponent_packComponents,
        unpackMantissa_packComponents, ofBitVec_toBitVec]
      congr 1
      · omega
      · omega
    · rw [unpackExponent_packComponents]
      omega
    · rw [unpackExponent_packComponents]
      omega
  · rw [if_neg full]
    have bottom := canonical.full.resolve_left full
    have mantissa : (BitVec.ofNat 52 whole).toNat = whole := by
      rw [BitVec.toNat_ofNat]
      omega
    rw [unpack_subnormal]
    · simp only [unpackSign_packComponents, unpackMantissa_packComponents, ofBitVec_toBitVec]
      congr 1
      exact bottom.symm
    · rw [unpackExponent_packComponents]
      rfl
    · rw [unpackMantissa_packComponents, mantissa]
      exact canonical.pos

theorem unpack_pack_zero (sign : Sign) : (Float.Model.pack (.zero sign)).unpack = .zero sign := by
  cases sign <;> rfl

theorem pack_unpack_bits {x : Float} (finite : x.isFinite = true) :
    UnpackedFloat.pack Format.binary64 x.toModel.unpack = bits x := by
  rw [← packComponents_unpack (bits x)]
  rcases unpack_cases x finite with ⟨empty, zero⟩ | ⟨canonical, bounded, unpacked⟩
  · rw [zero]
    by_cases none : (@unpackExponent Format.binary64 (bits x)).toNat = 0
    · rw [ofFloat_subnormal none] at empty
      have zeros : @unpackExponent Format.binary64 (bits x) = 0#11 := BitVec.eq_of_toNat_eq none
      have nothing : @unpackMantissa Format.binary64 (bits x) = 0#52 := BitVec.eq_of_toNat_eq empty
      rw [zeros, nothing]
      rfl
    · rw [ofFloat_normal none] at empty
      simp only at empty
      omega
  · have short : (@unpackMantissa Format.binary64 (bits x)).toNat < 2 ^ 52 := BitVec.isLt _
    rw [unpacked, pack_finite canonical bounded]
    by_cases none : (@unpackExponent Format.binary64 (bits x)).toNat = 0
    · have zeros : @unpackExponent Format.binary64 (bits x) = 0#11 := BitVec.eq_of_toNat_eq none
      rw [ofFloat_subnormal none, if_neg (Nat.not_le.2 short), BitVec.ofNat_toNat,
        BitVec.setWidth_eq, zeros]
      rfl
    · have exponent : (((@unpackExponent Format.binary64 (bits x)).toNat : Int) - 1075 + 1075).toNat =
          (@unpackExponent Format.binary64 (bits x)).toNat := by omega
      have mantissa : BitVec.ofNat 52 (2 ^ 52 + (@unpackMantissa Format.binary64 (bits x)).toNat) =
          @unpackMantissa Format.binary64 (bits x) := by
        refine BitVec.eq_of_toNat_eq ?_
        rw [BitVec.toNat_ofNat, Nat.add_mod_left, Nat.mod_eq_of_lt short]
      rw [ofFloat_normal none, if_pos (Nat.le_add_right ..), exponent, mantissa,
        BitVec.ofNat_toNat, BitVec.setWidth_eq]
      rfl

theorem pack_unpack {x : Float} (finite : x.isFinite = true) :
    Float.ofModel (.pack x.toModel.unpack) = x := by
  have same := pack_unpack_bits finite
  cases x with
  | ofModel model =>
      cases model with
      | mk word valid =>
          simp only [Float.Model.pack, same]
          rfl

theorem isNegative_iff (x : Float) : Json.isNegative x = true ↔ sign x = .negative := by
  have bit := unpackSign_toNat (bits x)
  have meaning : Json.isNegative x = decide ((bits x).toNat / 2 ^ 63 = 1) := rfl
  rw [meaning, ← bit, sign, Sign.ofBitVec]
  rcases BitVec.eq_zero_or_eq_one (@unpackSign Format.binary64 (bits x)) with
    zero | one
  · rw [zero]
    simp
  · rw [one]
    simp

theorem unpack_neg {x : Float} (finite : x.isFinite = true) :
    (-x).toModel.unpack = x.toModel.unpack.neg := by
  change (Float.Model.pack x.toModel.unpack.neg).unpack = _
  rcases unpack_cases x finite with ⟨_, zero⟩ | ⟨canonical, bounded, unpacked⟩
  · rw [zero]
    exact unpack_pack_zero _
  · rw [unpacked]
    exact unpack_pack canonical bounded _

theorem isFinite_neg {x : Float} (finite : x.isFinite = true) : (-x).isFinite = true := by
  change (-x).toModel.unpack.isFinite = true
  rw [unpack_neg finite]
  rcases unpack_cases x finite with ⟨_, zero⟩ | ⟨_, _, unpacked⟩
  · rw [zero]
    rfl
  · rw [unpacked]
    rfl

theorem neg_neg {x : Float} (finite : x.isFinite = true) : - -x = x := by
  have twice : (-x).toModel.unpack.neg = x.toModel.unpack := by
    rw [unpack_neg finite]
    cases x.toModel.unpack with
    | notANumber => rfl
    | infinity sign | zero sign | finite sign _ _ _ => cases sign <;> rfl
  change Float.ofModel (.pack (-x).toModel.unpack.neg) = x
  rw [twice, pack_unpack finite]

theorem sign_neg {x : Float} (finite : x.isFinite = true) : sign (-x) = -sign x := by
  have negated := unpack_neg finite
  rcases unpack_cases x finite with ⟨_, zero⟩ | ⟨_, _, unpacked⟩ <;>
    rcases unpack_cases (-x) (isFinite_neg finite) with ⟨_, other⟩ | ⟨_, _, other⟩
  · rw [zero, other] at negated
    exact UnpackedFloat.zero.inj negated
  · rw [zero, other] at negated
    cases negated
  · rw [unpacked, other] at negated
    cases negated
  · rw [unpacked, other] at negated
    exact (UnpackedFloat.finite.inj negated).1

theorem isFinite_pack {whole : Nat} {scale : Int} (canonical : Canonical whole scale)
    (bounded : scale ≤ 971) (sign : Sign) :
    (Float.ofModel (.pack (.finite sign whole scale canonical.pos))).isFinite = true := by
  change (Float.Model.pack _).unpack.isFinite = true
  rw [unpack_pack canonical bounded]
  rfl

theorem unpack_literal_zero : (0.0 : Float).toModel.unpack = .zero .positive := rfl

theorem beq_zero_iff {x : Float} (finite : x.isFinite = true) :
    (x == 0.0) = true ↔ (Binary.ofFloat x).mantissa = 0 := by
  have meaning : (x == 0.0) = (x.toModel.unpack.compare (.zero .positive) == some .eq) := by
    rw [← unpack_literal_zero]
    rfl
  rcases unpack_cases x finite with ⟨empty, zero⟩ | ⟨canonical, _, unpacked⟩
  · rw [meaning, zero]
    exact ⟨fun _ => empty, fun _ => rfl⟩
  · have nonzero := Nat.ne_of_gt canonical.pos
    rw [meaning, unpacked]
    cases sign x <;> simp [UnpackedFloat.compare, nonzero]

theorem eq_zero_of_mantissa {x : Float} (finite : x.isFinite = true) (positive : sign x = .positive)
    (empty : (Binary.ofFloat x).mantissa = 0) : x = 0.0 := by
  rcases unpack_cases x finite with ⟨_, zero⟩ | ⟨canonical, _, _⟩
  · rw [← pack_unpack finite, zero, positive]
    rfl
  · exact absurd canonical.pos (by omega)

end Double

end SoundScene
