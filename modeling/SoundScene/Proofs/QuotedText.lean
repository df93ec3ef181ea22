import SoundScene.Proofs.NumberText

/-!
Texts that are quoted and read again.  Each character comes back from what it is escaped to
(`readSymbols_escape`), so a text comes back from between its quotes (`readString_quote`).
-/

namespace SoundScene.Json

open Text (Symbol)

theorem hexValue?_hexDigit (n : Nat) : Text.hexValue? (hexDigit n) = some (n % 16) := by
  have every : ∀ digit : Fin 16, Text.hexValue? (Nat.digitChar digit.val) = some digit.val := by decide
  exact every ⟨n % 16, Nat.mod_lt _ (by decide)⟩

theorem hexNumeral?_control {c : Char} (control : c.toNat < 0x20) :
    Text.hexNumeral? ['0', '0', hexDigit (c.toNat / 16), hexDigit c.toNat] = some c.toNat := by
  have zero : Text.hexValue? '0' = some 0 := by decide
  simp only [Text.hexNumeral?, List.foldlM_cons, List.foldlM_nil, hexValue?_hexDigit, zero, Option.map_some,
    Option.bind_eq_bind, Option.bind_some, Option.pure_def, Option.some.injEq]
  omega

theorem readHex_next {start : Cursor} {a b c d : Char} {rest : List Symbol} {value : Nat}
    (held : start.rest = [a, b, c, d].map .char ++ rest)
    (numeral : Text.hexNumeral? [a, b, c, d] = some value) : Reads (readHex start) value rest := by
  obtain ⟨place, rfl⟩ := Cursor.exists_place held
  have read : (Text.chars? [.char a, .char b, .char c, .char d]).bind Text.hexNumeral? = some value :=
    numeral
  rw [readHex]
  split
  · rename_i found
    cases found
    rw [read]
    exact ⟨_, rfl, rfl, rfl⟩
  · rename_i none
    exact absurd rfl (none _ _ _ _ rest)

theorem readEscape_letter {start : Cursor} {letter meant : Char} {rest : List Symbol}
    (held : start.rest = .char letter :: rest) (escape : escaped? (.char letter) = some meant) :
    Reads (readEscape start) meant rest := by
  obtain ⟨place, rfl⟩ := Cursor.exists_place held
  have other : Symbol.char letter ≠ .char 'u' := by
    rintro ⟨⟩
    cases escape
  refine ⟨.piece meant rfl, (if_neg other).trans ?_, rfl, rfl⟩
  simp only [escape]

theorem readEscape_control {start : Cursor} {c : Char} (control : c.toNat < 0x20) {rest : List Symbol}
    (held : start.rest = .char 'u' ::
      (['0', '0', hexDigit (c.toNat / 16), hexDigit c.toNat].map .char ++ rest)) :
    Reads (readEscape start) c rest := by
  obtain ⟨place, rfl⟩ := Cursor.exists_place held
  let next : Cursor := ⟨['0', '0', hexDigit (c.toNat / 16), hexDigit c.toNat].map .char ++ rest,
    place.after (.char 'u')⟩
  obtain ⟨parsed, reads, value, stop⟩ := @readHex_next next _ _ _ _ rest _ rfl (hexNumeral?_control control)
  have low : isLowSurrogate parsed.value = false := by simp [isLowSurrogate, value]; omega
  have high : isHighSurrogate parsed.value = false := by simp [isHighSurrogate, value]; omega
  have numbered : readNumbered next = .ok (parsed.map Char.ofNat) := by
    simp only [readNumbered, reads, bind, Except.bind, low, high]
    rfl
  have meant : Char.ofNat parsed.value = c := by rw [value, Char.ofNat_toNat]
  let whole (parsed : Parsed Char next) : Parsed Char ⟨.char 'u' :: next.rest, place⟩ :=
    parsed.ofAdvance
  have steps : readEscape ⟨.char 'u' :: next.rest, place⟩ =
      readNumbered next >>= fun numbered => pure (whole numbered) := rfl
  refine ⟨whole (parsed.map Char.ofNat), steps.trans ?_, meant, stop⟩
  rw [numbered]
  rfl

theorem readSymbols_quote {start : Cursor} {rest : List Symbol}
    (held : start.rest = .char '"' :: rest) : Reads (readSymbols start) [] rest := by
  obtain ⟨place, rfl⟩ := Cursor.exists_place held
  rw [readSymbols]
  exact ⟨.piece [] rfl, if_pos rfl, rfl, rfl⟩

theorem readSymbols_backslash {start : Cursor} {c : Char} {tail rest symbols behind : List Symbol}
    (held : start.rest = .char '\\' :: tail)
    (escape : ∀ next : Cursor, next.rest = tail → Reads (readEscape next) c rest)
    (more : ∀ next : Cursor, next.rest = rest → Reads (readSymbols next) symbols behind) :
    Reads (readSymbols start) (.char c :: symbols) behind := by
  obtain ⟨place, rfl⟩ := Cursor.exists_place held
  let next : Cursor := ⟨tail, place.after (.char '\\')⟩
  obtain ⟨first, reads, meant, stop⟩ := escape next rfl
  obtain ⟨others, readsMore, value, final⟩ := more first.next stop
  let whole (first : Parsed Char next) (others : Parsed (List Symbol) first.next) :
      Parsed (List Symbol) ⟨.char '\\' :: next.rest, place⟩ :=
    ((first.after others).map (.char first.value :: ·)).ofAdvance
  have values : Symbol.char first.value :: others.value = .char c :: symbols := by rw [meant, value]
  refine ⟨whole first others, ?_, values, final⟩
  rw [readSymbols]
  refine (if_neg (by simp)).trans ((if_pos rfl).trans ?_)
  change (readEscape next >>= fun first =>
    readSymbols first.next >>= fun others => pure (whole first others)) = _
  rw [reads]
  change (readSymbols first.next >>= fun others => pure (whole first others)) = _
  rw [readsMore]
  rfl

theorem readSymbols_plain {start : Cursor} {c : Char} {rest symbols behind : List Symbol}
    (held : start.rest = .char c :: rest) (quote : c ≠ '"') (backslash : c ≠ '\\')
    (control : ¬ c.toNat < 0x20)
    (more : ∀ next : Cursor, next.rest = rest → Reads (readSymbols next) symbols behind) :
    Reads (readSymbols start) (.char c :: symbols) behind := by
  obtain ⟨place, rfl⟩ := Cursor.exists_place held
  let next : Cursor := ⟨rest, place.after (.char c)⟩
  obtain ⟨others, reads, value, final⟩ := more next rfl
  let whole (others : Parsed (List Symbol) next) : Parsed (List Symbol) ⟨.char c :: next.rest, place⟩ :=
    (others.map (.char c :: ·)).ofAdvance
  have values : Symbol.char c :: others.value = .char c :: symbols := by rw [value]
  refine ⟨whole others, ?_, values, final⟩
  rw [readSymbols]
  refine (if_neg (by simpa using quote)).trans ((if_neg (by simpa using backslash)).trans
    ((if_neg (by simpa [isControl] using control)).trans ?_))
  change (readSymbols next >>= fun others => pure (whole others)) = _
  rw [reads]
  rfl

theorem readSymbols_escape {start : Cursor} {c : Char} {rest symbols behind : List Symbol}
    (held : start.rest = (escape c).map .char ++ rest)
    (more : ∀ next : Cursor, next.rest = rest → Reads (readSymbols next) symbols behind) :
    Reads (readSymbols start) (.char c :: symbols) behind := by
  rw [escape] at held
  have letter {mark : Char} (meant : escaped? (.char mark) = some c)
      (held : start.rest = ['\\', mark].map .char ++ rest) :
      Reads (readSymbols start) (.char c :: symbols) behind :=
    readSymbols_backslash held (fun next same => readEscape_letter same meant) more
  split at held
  · rename_i same
    exact letter (by rw [same]; rfl) held
  split at held
  · rename_i same
    exact letter (by rw [same]; rfl) held
  split at held
  · rename_i same
    exact letter (by rw [same]; rfl) held
  split at held
  · rename_i same
    exact letter (by rw [same]; rfl) held
  split at held
  · rename_i same
    exact letter (by rw [same]; rfl) held
  split at held
  · rename_i same
    exact letter (by rw [same]; rfl) held
  split at held
  · rename_i same
    exact letter (by rw [same]; rfl) held
  split at held
  · rename_i control
    exact readSymbols_backslash held (fun next same => readEscape_control control same) more
  · rename_i quote backslash _ _ _ _ _ control
    exact readSymbols_plain held quote backslash control more

theorem readSymbols_text {text : List Char} {rest : List Symbol} {start : Cursor}
    (held : start.rest = (text.flatMap escape).map .char ++ .char '"' :: rest) :
    Reads (readSymbols start) (text.map .char) rest := by
  induction text generalizing start with
  | nil => exact readSymbols_quote held
  | cons c text ih =>
      rw [List.flatMap_cons, List.map_append, List.append_assoc] at held
      exact readSymbols_escape held fun next same => ih same

theorem chars?_map (text : List Char) : Text.chars? (text.map .char) = some text := by
  induction text with
  | nil => rfl
  | cons c text ih => simp [Text.chars?, ih]

theorem readString_quote {start : Cursor} {text : String} {rest : List Symbol}
    (held : start.rest = (text.toList.flatMap escape).map .char ++ .char '"' :: rest) :
    Reads (readString start) text rest := by
  obtain ⟨parsed, reads, value, stop⟩ := readSymbols_text held
  have chars : Text.chars? parsed.value = some text.toList := by rw [value, chars?_map]
  refine ⟨⟨text, parsed.next, parsed.shorter⟩, ?_, rfl, stop⟩
  simp only [readString, reads, bind, Except.bind, chars, String.ofList_toList]
  rfl

end SoundScene.Json
