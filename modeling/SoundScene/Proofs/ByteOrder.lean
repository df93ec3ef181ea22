import Mathlib.Tactic.SplitIfs

/-!
The order of texts.  Texts are compared character by character, and it comes to the same to compare
their bytes in UTF-8 one by one (`bytes_lt_iff`).
-/

namespace SoundScene.Text

def bytes (text : String) : List UInt8 := text.toUTF8.data.toList

theorem bytes_eq (text : String) : bytes text = text.toList.flatMap String.utf8EncodeChar := by
  conv => lhs; rw [← String.ofList_toList (s := text)]
  rw [bytes, String.toUTF8_eq_toByteArray, String.toByteArray_ofList]
  exact List.toList_data_toByteArray

theorem utf8EncodeChar_lt {c d : Char} (less : c < d) (rest others : List UInt8) :
    String.utf8EncodeChar c ++ rest < String.utf8EncodeChar d ++ others := by
  have codes : c.val.toNat < d.val.toNat := less
  have bound : d.val.toNat < 0x110000 := by
    rcases d.valid with low | ⟨_, high⟩
    · exact Nat.lt_trans low (by decide)
    · exact high
  unfold String.utf8EncodeChar
  generalize c.val.toNat = code at *
  generalize d.val.toNat = other at *
  dsimp only
  -- Two characters with as many bytes are digits to base 64; of others the first byte is smaller.
  split_ifs
  all_goals
    simp only [List.cons_append, List.cons_lt_cons_iff, UInt8.lt_iff_toNat_lt,
      ← UInt8.toNat_inj, UInt8.toNat_ofNat']
    simp (disch := omega) only [Nat.mod_eq_of_lt]
    omega

theorem bytes_lt {first second : String} (less : first < second) : bytes first < bytes second := by
  rw [bytes_eq, bytes_eq]
  have chars := List.lex_lt.2 (String.lt_iff.1 less)
  generalize first.toList = smaller at *
  generalize second.toList = larger at *
  induction chars with
  | @nil d others =>
      have filled : (d :: others).flatMap String.utf8EncodeChar ≠ [] := by
        simp [← List.length_eq_zero_iff, Nat.ne_of_gt d.utf8Size_pos]
      obtain ⟨byte, more, split⟩ := List.exists_cons_of_ne_nil filled
      rw [split]
      exact List.nil_lt_cons byte more
  | rel codes => exact utf8EncodeChar_lt codes _ _
  | cons _ ih => exact List.append_left_lt ih

theorem bytes_lt_iff (first second : String) : bytes first < bytes second ↔ first < second := by
  refine ⟨fun less => ?_, bytes_lt⟩
  refine String.not_le.1 fun notLess => ?_
  rcases Classical.em (first = second) with rfl | different
  · exact List.lt_irrefl _ less
  · exact List.lt_asymm less (bytes_lt (String.not_le.1 fun le =>
      different (String.le_antisymm le notLess)))

end SoundScene.Text
