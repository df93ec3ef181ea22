import SoundScene.Json.Typed
import SoundScene.Proofs.ParsedValue

/-!
How long the texts of values get.  A number takes at most a thousand characters
(`Number.length_chars_le`), however large or small it is, so the text of a list of numbers is as
short as the list (`length_chars_of_floats`).
-/

namespace SoundScene.Json

theorem length_layout_le {d : Decimal} (short : d.digits < 10 ^ 768) (low : -330 ≤ d.magnitude)
    (high : d.magnitude ≤ 310) : (layout d).length ≤ 999 := by
  have digits : (Text.digitsOf d.digits).length ≤ 768 :=
    (decimalLength_le_iff (by decide)).2 short
  have point : d.magnitude = (Text.digitsOf d.digits).length + d.exponent := rfl
  have lead : (Text.digitsOf (d.magnitude - 1).natAbs).length ≤ 3 :=
    (decimalLength_le_iff (by decide)).2 (by omega)
  rw [layout]
  generalize Text.digitsOf d.digits = digits at *
  generalize Text.digitsOf (d.magnitude - 1).natAbs = leading at *
  dsimp only
  split
  · split
    · simp only [List.length_append, List.length_replicate, List.length_cons, List.length_nil]
      omega
    split
    · simp only [List.length_append, List.length_take, List.length_cons, List.length_drop]
      omega
    · simp only [List.length_append, List.length_replicate, List.length_cons]
      omega
  · split <;>
      simp only [List.length_append, List.length_take, List.length_cons, List.length_nil,
        List.length_drop] <;>
      omega

theorem length_sizeChars_le {x : Float} (finite : x.isFinite = true)
    (positive : Double.sign x = .positive) : (sizeChars x).length ≤ 999 := by
  rw [sizeChars]
  by_cases zero : (x == 0.0) = true
  · rw [if_pos zero]
    decide
  · have nonzero := fun empty => zero ((Double.beq_zero_iff finite).2 empty)
    obtain ⟨low, high⟩ := Decimal.shortest_magnitude finite nonzero positive
    rw [if_neg zero]
    exact length_layout_le (Decimal.shortest_digits_lt finite nonzero) low high

theorem length_floatChars_le {x : Float} (finite : x.isFinite = true) :
    (floatChars x).length ≤ 1000 := by
  rw [floatChars]
  by_cases negative : isNegative x = true
  · have below := (Double.isNegative_iff x).1 negative
    have above : Double.sign (-x) = .positive := by
      rw [Double.sign_neg finite, below]
      rfl
    have size := length_sizeChars_le (Double.isFinite_neg finite) above
    rw [if_pos negative, List.length_cons]
    omega
  · have above : Double.sign x = .positive := by
      cases sign : Double.sign x with
      | positive => rfl
      | negative => exact absurd ((Double.isNegative_iff x).2 sign) negative
    have size := length_sizeChars_le finite above
    rw [if_neg negative]
    omega

theorem length_intChars_le {n : Int} (bound : n.natAbs < 10 ^ 20) : (intChars n).length ≤ 21 := by
  cases n with
  | ofNat n =>
      have size : (Text.digitsOf n).length ≤ 20 := (decimalLength_le_iff (by decide)).2 bound
      rw [intChars]
      omega
  | negSucc n =>
      have size : (Text.digitsOf (n + 1)).length ≤ 20 := (decimalLength_le_iff (by decide)).2 bound
      rw [intChars, List.length_cons]
      omega

theorem Number.length_chars_le {n : Number} (plain : n.Plain) : n.chars.length ≤ 1000 := by
  cases n with
  | int n =>
      obtain ⟨low, high⟩ := plain
      have size : (intChars n).length ≤ 21 := length_intChars_le (by omega)
      rw [Number.chars]
      omega
  | real x => exact length_floatChars_le plain

theorem length_separated_le {bound : Nat} {parts : List (List Char)}
    (short : ∀ part ∈ parts, part.length ≤ bound) (first : Bool) :
    (separated first parts).length ≤ (bound + 1) * parts.length := by
  induction parts generalizing first with
  | nil => exact Nat.le_refl 0
  | cons part parts ih =>
      have others := ih (fun other member => short other (by simp [member])) false
      have size := short part (by simp)
      rw [separated, List.length_append, List.length_cons, Nat.mul_succ]
      split
      · omega
      · rw [List.length_cons]
        omega

theorem length_chars_of_floats {depth : Nat} {value : Value} (fits : Fits depth value)
    {xs : List Float} (read : value.toFloats = .ok xs) :
    value.chars.length ≤ 1001 * xs.length + 2 := by
  cases value with
  | list items =>
      obtain ⟨_, every⟩ := fits.items
      obtain ⟨length, numbers⟩ := ok_of_mapM read
      have short (chars : List Char) (member : chars ∈ items.map Value.chars) :
          chars.length ≤ 1000 := by
        obtain ⟨item, present, rfl⟩ := List.mem_map.1 member
        obtain ⟨x, number⟩ := numbers item present
        cases every item present with
        | number plain => exact Number.length_chars_le plain
        | _ => cases number
      have size := length_separated_le short true
      rw [List.length_map, ← length] at size
      rw [Value.chars, itemChars_eq, List.length_append, List.length_cons, List.length_singleton]
      omega
  | _ => simp [Value.toFloats] at read

end SoundScene.Json
