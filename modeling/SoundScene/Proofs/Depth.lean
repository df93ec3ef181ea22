import SoundScene.Proofs.ParsedValue

/-!
Values in texts that may nest more or less deeply.  What is read where brackets may nest to some
depth is read the same where they may nest deeper (`readValue_deeper`).  So the text of a value is
read as this value, or the brackets of the value nest too deeply and it is not read at all
(`eq_of_parse_text`).
-/

namespace SoundScene.Json

open Text (Symbol)

variable {α : Type}

theorem readItems_of_ok {item other : Nat → Reader α}
    (same : ∀ index start parsed, item index start = .ok parsed → other index start = .ok parsed)
    {index : Nat} {start : Cursor} {kept : Kept (List α) start}
    (ran : readItems item index start = .ok kept) : readItems other index start = .ok kept := by
  induction size : start.size using Nat.strongRecOn generalizing index start with
  | _ _ ih =>
      subst size
      rw [readItems] at ran ⊢
      obtain ⟨next, found, ran⟩ := ok_of_bind ran
      rw [found]
      cases next with
      | none => exact ran
      | some here =>
          obtain ⟨head, first, ran⟩ := ok_of_bind ran
          obtain ⟨tail, others, ran⟩ := ok_of_bind ran
          have shorter := Nat.lt_of_lt_of_le head.shorter here.property
          have rest := ih _ shorter others rfl
          simp only [bind, Except.bind, same index here.val head first, rest]
          exact ran

theorem readMembers_of_ok {value other : String → Reader α}
    (same : ∀ key start parsed, value key start = .ok parsed → other key start = .ok parsed)
    {first : Bool} {start : Cursor} {kept : Kept (List (String × α)) start}
    (ran : readMembers value first start = .ok kept) :
    readMembers other first start = .ok kept := by
  induction size : start.size using Nat.strongRecOn generalizing first start with
  | _ _ ih =>
      subst size
      rw [readMembers] at ran ⊢
      obtain ⟨next, found, ran⟩ := ok_of_bind ran
      rw [found]
      cases next with
      | none => exact ran
      | some here =>
          obtain ⟨head, member, ran⟩ := ok_of_bind ran
          obtain ⟨tail, others, ran⟩ := ok_of_bind ran
          have shorter := Nat.lt_of_lt_of_le head.shorter here.property
          have rest := ih _ shorter others rfl
          obtain ⟨key, readKey, member⟩ := ok_of_bind member
          obtain ⟨colon, readColon, member⟩ := ok_of_bind member
          obtain ⟨held, readHeld, member⟩ := ok_of_bind member
          have again : readMember other here.val = .ok head := by
            simp only [readMember, readKey, readColon, same key.value colon.next held readHeld,
              bind, Except.bind]
            exact member
          simp only [bind, Except.bind, again, rest]
          exact ran

theorem readBracketed_of_ok {inner other : (start : Cursor) → Except Fault (Kept α start)}
    (same : ∀ start kept, inner start = .ok kept → other start = .ok kept) {start : Cursor}
    {parsed : Parsed α start} (ran : readBracketed inner start = .ok parsed) :
    readBracketed other start = .ok parsed := by
  rw [readBracketed] at ran ⊢
  split at ran
  · cases ran
  · obtain ⟨inside, reads, ran⟩ := ok_of_bind ran
    simp only [bind, Except.bind, same start.advance inside reads]
    exact ran

theorem readValue_succ {depth : Nat} {start : Cursor} {parsed : Parsed Value start}
    (ran : readValue depth start = .ok parsed) : readValue (depth + 1) start = .ok parsed := by
  induction depth generalizing start with
  | zero =>
      rw [readValue] at ran
      rw [readValue]
      split at ran
      · cases ran
      next flat =>
        rw [not_or] at flat
        rw [if_neg flat.1, if_neg flat.2]
        exact ran
  | succ depth ih =>
      rw [readValue] at ran
      rw [readValue]
      split at ran
      next list =>
        rw [if_pos list]
        obtain ⟨items, reads, ran⟩ := ok_of_bind ran
        have again := readBracketed_of_ok (fun _ _ => readItems_of_ok fun _ _ _ => ih) reads
        simp only [again, bind, Except.bind]
        exact ran
      next notList =>
        rw [if_neg notList]
        split at ran
        next object =>
          rw [if_pos object]
          obtain ⟨members, reads, ran⟩ := ok_of_bind ran
          have again := readBracketed_of_ok (fun _ _ => readMembers_of_ok fun _ _ _ => ih) reads
          simp only [again, bind, Except.bind]
          exact ran
        next notObject =>
          rw [if_neg notObject]
          exact ran

theorem readValue_deeper {depth more : Nat} (deeper : depth ≤ more) {start : Cursor}
    {parsed : Parsed Value start} (ran : readValue depth start = .ok parsed) :
    readValue more start = .ok parsed := by
  induction deeper with
  | refl => exact ran
  | step _ ih => exact readValue_succ ih

/-- The text of a value holds no other value, however deeply its brackets nest. -/
theorem eq_of_parse_text {depth : Nat} {value found : Value} (fits : Fits depth value)
    (parsed : Value.parse value.text = .ok found) : found = value := by
  obtain ⟨read, reads, ended⟩ := ok_of_bind parsed
  extract_lets stop at ended
  split at ended
  · cases ended
    have held : (Cursor.ofString value.text).rest = value.chars.map .char ++ [] := by
      simp [Cursor.ofString, Cursor.ofSymbols, Value.text]
    have room := fits.mono (Nat.le_max_left depth depthLimit)
    have ends : Ends [] := by simp [Ends]
    obtain ⟨whole, readsWhole, same, _⟩ := readValue_chars room ends held
    cases readsWhole.symm.trans (readValue_deeper (Nat.le_max_right depth depthLimit) reads)
    exact same
  · cases ended

end SoundScene.Json
