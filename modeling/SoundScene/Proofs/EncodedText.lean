import SoundScene.Json.Cursor
import SoundScene.Proofs.ByteOrder

/-!
Texts that are sent as bytes.  The bytes of a text in UTF-8 are read as its characters, with none
that is part of no character (`symbols_bytes`), so a reader finds in them what it would find in the
text (`Cursor.ofBytes_bytes`).
-/

namespace SoundScene.Text

theorem charFrom_of_eq {c : Char} {least code : Nat} (same : code = c.val.toNat)
    (enough : least ≤ code) : charFrom least code = some c := by
  subst same
  rw [charFrom, dif_pos c.valid, if_pos enough]
  rfl

theorem toNat_byte {n : Nat} (small : n < 256) : (UInt8.ofNat n).toNat = n :=
  UInt8.toNat_ofNat_of_lt' small

theorem tailBits_of_lt {n : Nat} (small : n < 64) : tailBits (UInt8.ofNat (n + 128)) = some n := by
  rw [tailBits, toNat_byte (by omega), if_pos (by omega), Nat.add_sub_cancel]

theorem firstChar_utf8EncodeChar (c : Char) (rest : List UInt8) :
    ∃ first more, String.utf8EncodeChar c = first :: more ∧
      firstChar first (more ++ rest) = some (c, more.length) := by
  have bound : c.val.toNat < 0x110000 := by
    rcases c.valid with low | ⟨_, high⟩
    · exact Nat.lt_trans low (by decide)
    · exact high
  have meant {least code : Nat} := @charFrom_of_eq c least code
  have tail (n : Nat) := @tailBits_of_lt (n % 64) (Nat.mod_lt n (by decide))
  rw [String.utf8EncodeChar]
  generalize c.val.toNat = code at *
  -- The size of a character decides the form of its first byte, and so which bytes are looked at.
  split
  · refine ⟨_, [], rfl, ?_⟩
    simp only [firstChar, toNat_byte (show code < 256 by omega)]
    rw [if_pos (by omega), meant rfl (Nat.zero_le code)]
    rfl
  split
  · refine ⟨_, _, rfl, ?_⟩
    have lead : (UInt8.ofNat (code / 64 % 32 + 192)).toNat = code / 64 + 192 := by
      rw [toNat_byte (by omega), Nat.mod_eq_of_lt (by omega)]
    have whole : charFrom 0x80 (code / 64 * 64 + code % 64) = some c :=
      meant (by omega) (by omega)
    simp only [firstChar, lead, List.cons_append, tail]
    rw [if_neg (by omega), if_pos (by omega)]
    simp [whole]
  split
  · refine ⟨_, _, rfl, ?_⟩
    have lead : (UInt8.ofNat (code / 4096 % 16 + 224)).toNat = code / 4096 + 224 := by
      rw [toNat_byte (by omega), Nat.mod_eq_of_lt (by omega)]
    have whole : charFrom 0x800 ((code / 4096 * 64 + code / 64 % 64) * 64 + code % 64) = some c :=
      meant (by omega) (by omega)
    simp only [firstChar, lead, List.cons_append, tail]
    rw [if_neg (by omega), if_neg (by omega), if_pos (by omega)]
    simp [whole]
  · refine ⟨_, _, rfl, ?_⟩
    have lead : (UInt8.ofNat (code / 262144 % 8 + 240)).toNat = code / 262144 + 240 := by
      rw [toNat_byte (by omega), Nat.mod_eq_of_lt (by omega)]
    have whole : charFrom 0x10000 (((code / 262144 * 64 + code / 4096 % 64) * 64 +
        code / 64 % 64) * 64 + code % 64) = some c := meant (by omega) (by omega)
    simp only [firstChar, lead, List.cons_append, tail]
    rw [if_neg (by omega), if_neg (by omega), if_neg (by omega), if_pos (by omega)]
    simp [whole]

theorem symbols_utf8EncodeChar (c : Char) (rest : List UInt8) :
    symbols (String.utf8EncodeChar c ++ rest) = .char c :: symbols rest := by
  obtain ⟨first, more, encoded, read⟩ := firstChar_utf8EncodeChar c rest
  rw [encoded, List.cons_append, symbols, read]
  dsimp only
  rw [List.drop_left]

theorem symbols_bytes (text : String) : symbols (bytes text) = text.toList.map .char := by
  rw [bytes_eq]
  induction text.toList with
  | nil => rw [List.flatMap_nil, symbols, List.map_nil]
  | cons c rest ih => rw [List.flatMap_cons, symbols_utf8EncodeChar, ih, List.map_cons]

theorem length_bytes_le (text : String) : (bytes text).length ≤ 4 * text.toList.length := by
  rw [bytes_eq]
  induction text.toList with
  | nil => exact Nat.le_refl 0
  | cons c rest ih =>
      have size := Char.utf8Size_le_four c
      rw [List.flatMap_cons, List.length_append, String.length_utf8EncodeChar, List.length_cons]
      omega

end SoundScene.Text

namespace SoundScene.Json

theorem Cursor.ofBytes_bytes (text : String) :
    Cursor.ofBytes (Text.bytes text) = Cursor.ofString text :=
  congrArg Cursor.ofSymbols (Text.symbols_bytes text)

end SoundScene.Json
