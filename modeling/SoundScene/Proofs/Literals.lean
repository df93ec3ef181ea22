import SoundScene.Proofs.Decimals
import SoundScene.Json.Token

/-!
What the digits of a literal are worth.  Zeros before the digits and behind the fraction do not
count (`toFloat_decimal`), and the digits of a decimal that is laid out are worth that decimal
(`toFloat_ofDecimal`).
-/

namespace SoundScene

namespace Text

theorem numeral_append (first second : List Char) :
    numeral (first ++ second) = numeral first * 10 ^ second.length + numeral second := by
  rw [numeral, Nat.ofDigitChars_append, Nat.ofDigitChars_eq_ofDigitChars_zero, Nat.mul_comm]
  rfl

theorem numeral_replicate_zero (count : Nat) : numeral (List.replicate count '0') = 0 := by
  rw [numeral, Nat.ofDigitChars_replicate_zero, Nat.mul_zero]

theorem numeral_zeros_append (count : Nat) (digits : List Char) :
    numeral (List.replicate count '0' ++ digits) = numeral digits := by
  rw [numeral_append, numeral_replicate_zero, Nat.zero_mul, Nat.zero_add]

theorem numeral_append_zeros (digits : List Char) (count : Nat) :
    numeral (digits ++ List.replicate count '0') = numeral digits * 10 ^ count := by
  rw [numeral_append, numeral_replicate_zero, List.length_replicate, Nat.add_zero]

theorem eq_zeros_append_dropWhile (digits : List Char) :
    ∃ count, digits = List.replicate count '0' ++ digits.dropWhile (· = '0') := by
  refine ⟨(digits.takeWhile (· = '0')).length, ?_⟩
  have zeros : digits.takeWhile (· = '0') =
      List.replicate (digits.takeWhile (· = '0')).length '0' := by
    refine List.eq_replicate_iff.2 ⟨rfl, fun c member => ?_⟩
    simpa using List.all_eq_true.1 (List.all_takeWhile (l := digits)) c member
  rw [← zeros, List.takeWhile_append_dropWhile]

theorem numeral_dropWhile_zero (digits : List Char) :
    numeral (digits.dropWhile (· = '0')) = numeral digits := by
  obtain ⟨count, split⟩ := eq_zeros_append_dropWhile digits
  have same := numeral_zeros_append count (digits.dropWhile (· = '0'))
  rw [← split] at same
  exact same.symm

theorem digitValue_bounds {c : Char} (digit : c.isDigit = true) :
    digitValue c ≤ 9 ∧ (c ≠ '0' → 0 < digitValue c) := by
  simp only [Char.isDigit, Bool.and_eq_true, decide_eq_true_eq] at digit
  have least : '0'.toNat ≤ c.toNat := digit.1
  have most : c.toNat ≤ '9'.toNat := digit.2
  have nine : '9'.toNat = '0'.toNat + 9 := rfl
  rw [digitValue]
  refine ⟨by omega, fun nonzero => ?_⟩
  have different : c.toNat ≠ '0'.toNat := fun same => nonzero (Char.toNat_inj.1 same)
  omega

theorem numeral_cons (first : Char) (rest : List Char) :
    numeral (first :: rest) = digitValue first * 10 ^ rest.length + numeral rest := by
  rw [← List.singleton_append, numeral_append, numeral, Nat.ofDigitChars_cons,
    Nat.ofDigitChars_nil, Nat.mul_zero, Nat.zero_add]
  rfl

theorem pow_le_numeral {first : Char} (digit : first.isDigit = true) (nonzero : first ≠ '0')
    (rest : List Char) : 10 ^ rest.length ≤ numeral (first :: rest) := by
  rw [numeral_cons]
  exact Nat.le_trans (Nat.le_mul_of_pos_left _ ((digitValue_bounds digit).2 nonzero))
    (Nat.le_add_right ..)

theorem numeral_lt_pow {digits : List Char} (digital : ∀ c ∈ digits, c.isDigit = true) :
    numeral digits < 10 ^ digits.length := by
  induction digits with
  | nil => exact Nat.one_pos
  | cons first rest ih =>
      have small := (digitValue_bounds (digital first (by simp))).1
      have less := ih fun c member => digital c (by simp [member])
      rw [numeral_cons, List.length_cons, Nat.pow_succ]
      calc digitValue first * 10 ^ rest.length + numeral rest
          < 9 * 10 ^ rest.length + 10 ^ rest.length :=
            Nat.add_lt_add_of_le_of_lt (Nat.mul_le_mul_right _ small) less
        _ = 10 ^ rest.length * 10 := by omega

theorem digitsOf_head {n : Nat} (pos : 0 < n) :
    ∃ first rest, digitsOf n = first :: rest ∧ first ≠ '0' := by
  have some := decimalLength_pos n
  have least := pow_le_of_lt_decimalLength (Nat.sub_lt some Nat.one_pos) pos
  rw [decimalLength] at some least
  cases form : digitsOf n with
  | nil => simp [form] at some
  | cons first rest =>
      refine ⟨first, rest, rfl, ?_⟩
      rintro rfl
      have value := numeral_digitsOf n
      have less : numeral rest < 10 ^ rest.length := numeral_lt_pow fun c member =>
        isDigit_of_mem_digitsOf (by rw [form]; simp [member])
      rw [form, numeral_cons] at value
      rw [form, List.length_cons, Nat.add_sub_cancel] at least
      have zero : digitValue '0' = 0 := rfl
      rw [zero, Nat.zero_mul, Nat.zero_add] at value
      omega

end Text

namespace Json.Literal

open Text

theorem fraction_eq (literal : Literal) :
    ∃ count, literal.fraction.getD [] = literal.fractionDigits ++ List.replicate count '0' := by
  obtain ⟨count, split⟩ := eq_zeros_append_dropWhile (literal.fraction.getD []).reverse
  refine ⟨count, ?_⟩
  have turned := congrArg List.reverse split
  rwa [List.reverse_reverse, List.reverse_append, List.reverse_replicate] at turned

def row (literal : Literal) : List Char := literal.whole ++ literal.fraction.getD []

theorem row_eq (literal : Literal) :
    ∃ count, literal.row = literal.whole ++ literal.fractionDigits ++ List.replicate count '0' := by
  obtain ⟨count, split⟩ := literal.fraction_eq
  exact ⟨count, by rw [row, split, List.append_assoc]⟩

theorem numeral_digits_le (literal : Literal) : numeral literal.digits ≤ numeral literal.row := by
  obtain ⟨count, split⟩ := literal.row_eq
  rw [split, numeral_append_zeros, digits, numeral_dropWhile_zero]
  exact Nat.le_mul_of_pos_right _ (Nat.pow_pos (by decide))

theorem limited_digits (literal : Literal) (digital : ∀ c ∈ literal.row, c.isDigit = true)
    (short : numeral literal.row < 10 ^ digitLimit) : limited literal.digits = literal.digits := by
  refine if_neg (Nat.not_lt.2 ?_)
  have least := literal.numeral_digits_le
  have head := List.head?_dropWhile_not (fun c : Char => decide (c = '0'))
    (literal.whole ++ literal.fractionDigits)
  rw [← digits] at head
  cases form : literal.digits with
  | nil => exact Nat.zero_le _
  | cons first rest =>
      rw [form] at least head
      have nonzero : first ≠ '0' := of_decide_eq_false head
      have member : first ∈ literal.row := by
        obtain ⟨count, split⟩ := literal.row_eq
        have kept : first ∈ literal.digits := by simp [form]
        rw [split]
        exact List.mem_append_left _ ((List.dropWhile_sublist _).subset kept)
      have power := pow_le_numeral (digital first member) nonzero rest
      have fewer : 10 ^ rest.length < 10 ^ digitLimit := by omega
      exact (Nat.pow_lt_pow_iff_right (by decide)).1 fewer

theorem toFloat_decimal (literal : Literal) (digital : ∀ c ∈ literal.row, c.isDigit = true)
    (short : numeral literal.row < 10 ^ digitLimit) :
    literal.decimal.toFloat = Decimal.toFloat
      ⟨numeral literal.row, literal.exponent.getD 0 - (literal.fraction.getD []).length⟩ := by
  obtain ⟨count, split⟩ := literal.fraction_eq
  have kept := limited_digits literal digital short
  have worth : literal.decimal = ⟨numeral (literal.whole ++ literal.fractionDigits),
      literal.exponent.getD 0 - literal.fractionDigits.length⟩ := by
    simp only [decimal, kept]
    rw [digits, numeral_dropWhile_zero, Int.add_sub_cancel]
  have shifted := Decimal.toFloat_mul_pow (numeral (literal.whole ++ literal.fractionDigits))
    (literal.exponent.getD 0 - literal.fractionDigits.length) count
  rw [worth, ← shifted, ← numeral_append_zeros, row, split, List.append_assoc, List.length_append,
    List.length_replicate]
  congr 2
  omega

def fractionChars : Option (List Char) → List Char
  | none => []
  | some digits => '.' :: digits

def exponentChars : Option Int → List Char
  | none => []
  | some exponent => 'e' :: (if exponent < 0 then '-' else '+') :: digitsOf exponent.natAbs

def chars (literal : Literal) : List Char :=
  literal.whole ++ fractionChars literal.fraction ++ exponentChars literal.exponent

def ofDecimal (negative : Bool) (d : Decimal) : Literal :=
  let digits := digitsOf d.digits
  let point : Int := d.magnitude
  let lead : Int := point - 1
  if -5 ≤ lead ∧ lead ≤ 15 then
    if 0 ≤ d.exponent then
      ⟨negative, digits ++ List.replicate d.exponent.toNat '0', some ['0'], none⟩
    else if 0 < point then
      ⟨negative, digits.take point.toNat, some (digits.drop point.toNat), none⟩
    else ⟨negative, ['0'], some (List.replicate (-point).toNat '0' ++ digits), none⟩
  else ⟨negative, digits.take 1, if digits.length = 1 then none else some (digits.drop 1), some lead⟩

theorem chars_ofDecimal (negative : Bool) (d : Decimal) :
    (ofDecimal negative d).chars = layout d := by
  rw [ofDecimal, layout]
  split
  · split
    · simp [chars, fractionChars, exponentChars]
    · split <;> simp [chars, fractionChars, exponentChars]
  · split <;> simp [chars, fractionChars, exponentChars]

structure Plain (literal : Literal) : Prop where
  digital : ∀ c ∈ literal.row, c.isDigit = true
  leading : literal.whole = ['0'] ∨ ∃ first rest, literal.whole = first :: rest ∧ first ≠ '0'
  fraction : literal.fraction ≠ some []
  exponent : ∀ exponent, literal.exponent = some exponent → exponent.natAbs ≤ exponentLimit

theorem row_ofDecimal (negative : Bool) (d : Decimal) :
    ∃ before after, (ofDecimal negative d).row =
        List.replicate before '0' ++ digitsOf d.digits ++ List.replicate after '0' ∧
      (ofDecimal negative d).exponent.getD 0 -
          ((ofDecimal negative d).fraction.getD []).length = d.exponent - after ∧
      (after = 0 ∨ decimalLength d.digits + after ≤ digitLimit) := by
  have length : ((digitsOf d.digits).length : Int) = d.magnitude - d.exponent := by
    rw [Decimal.magnitude, decimalLength]
    omega
  have some : 0 < (digitsOf d.digits).length := decimalLength_pos d.digits
  simp only [row, ofDecimal]
  split
  · split
    · refine ⟨0, d.exponent.toNat + 1, ?_, ?_, ?_⟩
      · simp [List.replicate_succ']
      · simp only [Option.getD_none, Option.getD_some, List.length_singleton]
        omega
      · right
        change (digitsOf d.digits).length + _ ≤ 768
        omega
    · split
      · refine ⟨0, 0, ?_, ?_, .inl rfl⟩
        · simp
        · simp only [Option.getD_none, Option.getD_some, List.length_drop]
          omega
      · refine ⟨(-d.magnitude).toNat + 1, 0, ?_, ?_, .inl rfl⟩
        · simp [List.replicate_succ]
        · simp only [Option.getD_none, Option.getD_some, List.length_append, List.length_replicate]
          omega
  · refine ⟨0, 0, ?_, ?_, .inl rfl⟩
    · split
      · rename_i single
        simp [List.take_of_length_le (Nat.le_of_eq single)]
      · simp only [List.replicate_zero, List.nil_append, List.append_nil, Option.getD_some,
          List.take_append_drop]
    · split
      · change d.magnitude - 1 - 0 = d.exponent - 0
        omega
      · simp only [Option.getD_some, List.length_drop]
        omega

theorem digital_ofDecimal (negative : Bool) (d : Decimal) :
    ∀ c ∈ (ofDecimal negative d).row, c.isDigit = true := by
  obtain ⟨before, after, row, _, _⟩ := row_ofDecimal negative d
  intro c member
  rw [row] at member
  simp only [List.mem_append, List.mem_replicate] at member
  rcases member with (⟨_, rfl⟩ | digit) | ⟨_, rfl⟩
  · rfl
  · exact isDigit_of_mem_digitsOf digit
  · rfl

theorem plain_ofDecimal (negative : Bool) {d : Decimal} (pos : 0 < d.digits)
    (bounded : d.magnitude.natAbs < exponentLimit) : (ofDecimal negative d).Plain := by
  obtain ⟨first, rest, form, nonzero⟩ := digitsOf_head pos
  have length : ((digitsOf d.digits).length : Int) = d.magnitude - d.exponent := by
    rw [Decimal.magnitude, decimalLength]
    omega
  refine ⟨digital_ofDecimal negative d, ?_, ?_, ?_⟩ <;> simp only [ofDecimal, form] at length ⊢
  · split
    · split
      · exact .inr ⟨first, _, List.cons_append .., nonzero⟩
      · split
        · have some : d.magnitude.toNat = d.magnitude.toNat - 1 + 1 := by omega
          exact .inr ⟨first, _, by rw [some, List.take_succ_cons], nonzero⟩
        · exact .inl rfl
    · exact .inr ⟨first, _, List.take_succ_cons, nonzero⟩
  · split
    · split
      · simp
      · split
        · simp only [List.length_cons] at length
          simp only [ne_eq, Option.some.injEq, List.drop_eq_nil_iff, List.length_cons]
          omega
        · simp
    · split
      · simp
      · rename_i several
        simp only [List.length_cons] at several
        simp only [ne_eq, Option.some.injEq, List.drop_eq_nil_iff, List.length_cons]
        omega
  · split
    · split
      · simp
      · split <;> simp
    · intro exponent same
      simp only [Option.some.injEq] at same
      omega

theorem toFloat_ofDecimal (negative : Bool) {d : Decimal} (short : d.digits < 10 ^ digitLimit) :
    (ofDecimal negative d).decimal.toFloat = d.toFloat := by
  obtain ⟨before, after, row, exponent, few⟩ := row_ofDecimal negative d
  have value : numeral (ofDecimal negative d).row = d.digits * 10 ^ after := by
    rw [row, numeral_append_zeros, numeral_zeros_append, numeral_digitsOf]
  rw [toFloat_decimal _ (digital_ofDecimal negative d), value, exponent]
  · exact Decimal.toFloat_mul_pow ..
  · rw [value]
    rcases few with rfl | few
    · rwa [Nat.pow_zero, Nat.mul_one]
    · calc d.digits * 10 ^ after < 10 ^ decimalLength d.digits * 10 ^ after :=
          Nat.mul_lt_mul_of_pos_right (lt_pow_decimalLength _) (Nat.pow_pos (by decide))
        _ = 10 ^ (decimalLength d.digits + after) := (Nat.pow_add ..).symm
        _ ≤ 10 ^ digitLimit := Nat.pow_le_pow_right (by decide) few

end Json.Literal

end SoundScene
