import SoundScene.Proofs.Chains
import SoundScene.Proofs.Collapse
import SoundScene.Proofs.ValueText

/-!
What a text can hold.  Every value that is read from a text fits one: its numbers are finite, its
members ascend and its brackets nest no deeper than a text allows (`parse_fits`), so it is written
as a text from which it is read again.
-/

namespace SoundScene.Json

variable {α : Type}

theorem Literal.plain_toNumber {literal : Literal} (finite : literal.toFloat.isFinite = true) :
    literal.toNumber.Plain := by
  rw [toNumber]
  cases integer : literal.toInt? with
  | none => exact finite
  | some n =>
      simp only [toInt?, Nat.pow_eq] at integer
      split at integer
      · cases integer
      · change -2 ^ 63 ≤ n ∧ n < 2 ^ 64
        by_cases negative : literal.negative = true
        · rw [if_pos negative] at integer
          split at integer
          · cases integer
          · cases integer
            omega
        · rw [if_neg negative] at integer
          split at integer
          · cases integer
            omega
          · cases integer

theorem readUnsigned_finite {negative : Bool} {start : Cursor} {parsed : Parsed Literal start}
    (ran : readUnsigned negative start = .ok parsed) : parsed.value.toFloat.isFinite = true := by
  obtain ⟨whole, _, ran⟩ := ok_of_bind ran
  obtain ⟨fraction, _, ran⟩ := ok_of_bind ran
  obtain ⟨exponent, _, ran⟩ := ok_of_bind ran
  extract_lets literal at ran
  split at ran
  · cases ran
    assumption
  · cases ran

theorem readNumber_plain {start : Cursor} {parsed : Parsed Number start}
    (ran : readNumber start = .ok parsed) : parsed.value.Plain := by
  rw [readNumber] at ran
  split at ran
  · obtain ⟨literal, reads, ran⟩ := ok_of_bind ran
    cases ran
    exact Literal.plain_toNumber (readUnsigned_finite reads)
  · obtain ⟨literal, reads, ran⟩ := ok_of_bind ran
    cases ran
    exact Literal.plain_toNumber (readUnsigned_finite reads)

theorem readWord_value {value : α} {letters : List Char} {start : Cursor} {parsed : Parsed α start}
    (ran : readWord value letters start = .ok parsed) : parsed.value = value := by
  rw [readWord] at ran
  split at ran
  · cases ran
  · obtain ⟨stop, _, ran⟩ := ok_of_bind ran
    cases ran
    rfl

theorem readScalar_fits {depth : Nat} {start : Cursor} {parsed : Parsed Value start}
    (ran : readScalar start = .ok parsed) : Fits depth parsed.value := by
  rw [readScalar] at ran
  split at ran
  · cases ran
  · split at ran
    · obtain ⟨text, _, ran⟩ := ok_of_bind ran
      cases ran
      exact .string text.value
    split at ran
    · obtain ⟨number, reads, ran⟩ := ok_of_bind ran
      cases ran
      exact .number (readNumber_plain reads)
    split at ran
    · rw [readWord_value ran]
      exact .null
    split at ran
    · rw [readWord_value ran]
      exact .bool true
    split at ran
    · rw [readWord_value ran]
      exact .bool false
    · cases ran

theorem readItems_all {item : Nat → Reader α} {Holds : α → Prop}
    (reads : ∀ index start parsed, item index start = .ok parsed → Holds parsed.value)
    {index : Nat} {start : Cursor} {kept : Kept (List α) start}
    (ran : readItems item index start = .ok kept) : ∀ x ∈ kept.value, Holds x := by
  -- Each item is read from a shorter text, so what remains is the measure.
  induction size : start.size using Nat.strongRecOn generalizing index start with
  | _ _ ih =>
      subst size
      rw [readItems] at ran
      obtain ⟨next, _, ran⟩ := ok_of_bind ran
      cases next with
      | none =>
          cases ran
          exact List.forall_mem_nil _
      | some here =>
          obtain ⟨head, first, ran⟩ := ok_of_bind ran
          obtain ⟨tail, others, ran⟩ := ok_of_bind ran
          cases ran
          intro x member
          rcases List.mem_cons.1 member with rfl | member
          · exact reads index here.val head first
          · exact ih _ (Nat.lt_of_lt_of_le head.shorter here.property) others rfl x member

theorem readMembers_all {value : String → Reader α} {Holds : α → Prop}
    (reads : ∀ key start parsed, value key start = .ok parsed → Holds parsed.value)
    {first : Bool} {start : Cursor} {kept : Kept (List (String × α)) start}
    (ran : readMembers value first start = .ok kept) : ∀ member ∈ kept.value, Holds member.2 := by
  induction size : start.size using Nat.strongRecOn generalizing first start with
  | _ _ ih =>
      subst size
      rw [readMembers] at ran
      obtain ⟨next, _, ran⟩ := ok_of_bind ran
      cases next with
      | none =>
          cases ran
          exact List.forall_mem_nil _
      | some here =>
          obtain ⟨head, member, ran⟩ := ok_of_bind ran
          obtain ⟨tail, others, ran⟩ := ok_of_bind ran
          cases ran
          intro other present
          rcases List.mem_cons.1 present with rfl | present
          · obtain ⟨key, _, member⟩ := ok_of_bind member
            obtain ⟨colon, _, member⟩ := ok_of_bind member
            obtain ⟨held, found, member⟩ := ok_of_bind member
            cases member
            exact reads key.value colon.next held found
          · exact ih _ (Nat.lt_of_lt_of_le head.shorter here.property) others rfl other present

theorem readBracketed_inner {inner : (start : Cursor) → Except Fault (Kept α start)}
    {start : Cursor} {parsed : Parsed α start} (ran : readBracketed inner start = .ok parsed) :
    ∃ inside, inner start.advance = .ok inside ∧ parsed.value = inside.value := by
  rw [readBracketed] at ran
  split at ran
  · cases ran
  · obtain ⟨inside, reads, ran⟩ := ok_of_bind ran
    cases ran
    exact ⟨inside, reads, rfl⟩

theorem Fits.ofMembers {depth : Nat} {members : List (String × Value)}
    (fits : ∀ member ∈ members, Fits depth member.2) : Fits (depth + 1) (.ofMembers members) := by
  apply Fits.object (Keyed.ofList_of_ascending (Keyed.ascending_ofList members))
  intro member present
  exact fits member (Keyed.mem_of_mem_ofList present)

theorem Fits.of_list {depth : Nat} {items : List Value} (fits : Fits (depth + 1) (.list items)) :
    ∀ item ∈ items, Fits depth item := by
  cases fits with
  | list inner => exact inner

theorem Fits.items {depth : Nat} {items : List Value} (fits : Fits depth (.list items)) :
    ∃ inner, ∀ item ∈ items, Fits inner item := by
  cases fits with
  | list inner => exact ⟨_, inner⟩

theorem Fits.of_object {depth : Nat} {members : List (String × Value)}
    (fits : Fits (depth + 1) (.object members)) :
    Keyed.Ascending members ∧ ∀ member ∈ members, Fits depth member.2 := by
  cases fits with
  | object sorted inner => exact ⟨sorted ▸ Keyed.ascending_ofList members, inner⟩

theorem readValue_fits {depth : Nat} {start : Cursor} {parsed : Parsed Value start}
    (ran : readValue depth start = .ok parsed) : Fits depth parsed.value := by
  induction depth generalizing start with
  | zero =>
      rw [readValue] at ran
      split at ran
      · cases ran
      · obtain ⟨scalar, reads, ran⟩ := ok_of_bind ran
        cases ran
        exact (readScalar_fits reads : Fits _ scalar.value)
  | succ depth ih =>
      rw [readValue] at ran
      split at ran
      · obtain ⟨items, reads, ran⟩ := ok_of_bind ran
        obtain ⟨inside, reads, same⟩ := readBracketed_inner reads
        cases ran
        refine Fits.list fun item member => ?_
        rw [same] at member
        exact readItems_all (fun _ _ _ read => ih read) reads item member
      split at ran
      · obtain ⟨members, reads, ran⟩ := ok_of_bind ran
        obtain ⟨inside, reads, same⟩ := readBracketed_inner reads
        cases ran
        refine Fits.ofMembers fun member present => ?_
        rw [same] at present
        exact readMembers_all (fun _ _ _ read => ih read) reads member present
      · obtain ⟨scalar, reads, ran⟩ := ok_of_bind ran
        cases ran
        exact (readScalar_fits reads : Fits _ scalar.value)

theorem parse_fits {text : String} {value : Value} (parsed : Value.parse text = .ok value) :
    Fits depthLimit value := by
  obtain ⟨read, reads, ended⟩ := ok_of_bind parsed
  extract_lets stop at ended
  split at ended
  · cases ended
    exact readValue_fits reads
  · cases ended

end SoundScene.Json
