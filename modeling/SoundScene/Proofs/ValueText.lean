import SoundScene.Proofs.QuotedText
import SoundScene.Json.Parser

/-!
Values that are written and read again.  A value comes back from its text as long as its members
ascend, its numbers have a text of their own and its brackets nest no deeper than those of a text
may (`parse_text`).
-/

namespace SoundScene.Json

open Text (Symbol)

theorem rest_advance {start : Cursor} {symbol : Symbol} {rest : List Symbol}
    (held : start.rest = symbol :: rest) : start.advance.rest = rest := by
  rw [Cursor.advance, held]

theorem skipBlanks_of_head {start : Cursor} {c : Char} {rest : List Symbol}
    (held : start.rest = .char c :: rest) (solid : Cursor.isSpace c = false) :
    start.skipBlanks = start := by
  obtain ⟨place, rfl⟩ := Cursor.exists_place held
  simp [Cursor.skipBlanks, Cursor.skipSpace, solid]

theorem readLetters_next {letters : List Char} {start : Cursor} {rest : List Symbol}
    (held : start.rest = letters.map .char ++ rest) :
    ∃ stop, readLetters letters start = .ok stop ∧ stop.val.rest = rest := by
  induction letters generalizing start with
  | nil => exact ⟨start.stay, rfl, held⟩
  | cons letter letters ih =>
      have first : start.rest = .char letter :: (letters.map .char ++ rest) := held
      obtain ⟨stop, reads, final⟩ := ih (rest_advance first)
      refine ⟨stop.ofAdvance, ?_, final⟩
      simp only [readLetters, first, ↓reduceIte, reads]
      rfl

theorem readWord_next {α : Type} (value : α) {letters : List Char} {start : Cursor} {first : Char}
    {rest : List Symbol} (held : start.rest = .char first :: (letters.map .char ++ rest)) :
    Reads (readWord value letters start) value rest := by
  obtain ⟨stop, reads, final⟩ := readLetters_next (rest_advance held)
  obtain ⟨place, rfl⟩ := Cursor.exists_place held
  simp only [readWord, reads]
  exact ⟨_, rfl, rfl, final⟩

/-- Parts with commas between them, or before each of them when others stand before. -/
def separated : (first : Bool) → List (List Char) → List Char
  | _, [] => []
  | first, part :: parts => (if first then part else ',' :: part) ++ separated false parts

theorem itemChars_eq (items : List Value) :
    Value.itemChars items = separated true (items.map Value.chars) := by
  have later (item : Value) (rest : List Value) : Value.itemChars (item :: rest) =
      item.chars ++ separated false (rest.map Value.chars) := by
    induction rest generalizing item with
    | nil => simp [Value.itemChars, separated]
    | cons next rest ih => simp [Value.itemChars, separated, ih]
  cases items with
  | nil => rfl
  | cons item rest => exact later item rest

def memberText (member : String × Value) : List Char :=
  quote member.1.toList ++ ':' :: member.2.chars

theorem memberChars_eq (members : List (String × Value)) :
    Value.memberChars members = separated true (members.map memberText) := by
  have later (member : String × Value) (rest : List (String × Value)) :
      Value.memberChars (member :: rest) =
        memberText member ++ separated false (rest.map memberText) := by
    induction rest generalizing member with
    | nil => simp [Value.memberChars, separated, memberText]
    | cons next rest ih => simp [Value.memberChars, separated, memberText, ih]
  cases members with
  | nil => rfl
  | cons member rest => exact later member rest

theorem ends_mark {c : Char} (mark : c = ',' ∨ c = ']' ∨ c = '}') (rest : List Symbol) :
    Ends (.char c :: rest) := by
  rintro symbol ⟨⟩
  rcases mark with rfl | rfl | rfl <;> exact ⟨rfl, by simp, by simp, by simp⟩

theorem ends_separated (parts : List (List Char)) {close : Char} (mark : close = ']' ∨ close = '}')
    (rest : List Symbol) : Ends ((separated false parts).map .char ++ .char close :: rest) := by
  cases parts with
  | nil => exact ends_mark (.inr mark) rest
  | cons part parts => exact ends_mark (.inl rfl) _

structure Opens (c : Char) : Prop where
  solid : Cursor.isSpace c = false
  inside : c ≠ ']'

theorem nextItem?_end (first : Bool) {start : Cursor} {rest : List Symbol}
    (held : start.rest = .char ']' :: rest) : nextItem? first start = .ok none := by
  have here := skipBlanks_of_head held rfl
  simp [nextItem?, here, held]

theorem nextItem?_next (first : Bool) {start : Cursor} {c : Char} (opens : Opens c)
    {rest : List Symbol}
    (held : start.rest = if first then .char c :: rest else .char ',' :: .char c :: rest) :
    ∃ here, nextItem? first start = .ok (some here) ∧ here.val.rest = .char c :: rest := by
  have other : Symbol.char c ≠ .char ']' := fun same => opens.inside (Symbol.char.inj same)
  cases first with
  | true =>
      rw [if_pos rfl] at held
      have here := skipBlanks_of_head held opens.solid
      refine ⟨start.pastBlanks, ?_, ?_⟩
      · simp [nextItem?, here, held, other]
      · exact (congrArg Cursor.rest here).trans held
  | false =>
      rw [if_neg (by simp)] at held
      have here := skipBlanks_of_head held rfl
      have behind := rest_advance held
      have there := skipBlanks_of_head behind opens.solid
      refine ⟨start.pastMark, ?_, ?_⟩
      · simp [nextItem?, here, held, there, behind, other]
      · simp only [Cursor.pastMark, here, there, behind]

theorem nextItem?_separated (first : Bool) {start : Cursor} {c : Char} {part : List Char}
    {parts : List (List Char)} {rest : List Symbol} (opens : Opens c)
    (form : ∃ more, part = c :: more)
    (held : start.rest = (separated first (part :: parts)).map .char ++ .char ']' :: rest) :
    ∃ here behind, nextItem? first start = .ok (some here) ∧
      here.val.rest = part.map .char ++ behind ∧ Ends behind ∧
      behind = (separated false parts).map .char ++ .char ']' :: rest := by
  obtain ⟨more, rfl⟩ := form
  let behind := (separated false parts).map .char ++ .char ']' :: rest
  have next : start.rest = if first then .char c :: (more.map .char ++ behind)
      else .char ',' :: .char c :: (more.map .char ++ behind) := by
    rw [held, separated]
    split <;> simp [behind]
  obtain ⟨here, goes, place⟩ := nextItem?_next first opens next
  exact ⟨here, behind, goes, place, ends_separated parts (.inl rfl) rest, rfl⟩

theorem readItems_separated {α : Type} {item : Nat → Reader α} {text : α → List Char}
    {items : List α} (opens : ∀ x ∈ items, ∃ c more, text x = c :: more ∧ Opens c)
    (reads : ∀ x ∈ items, ∀ index start rest, Ends rest →
      start.rest = (text x).map .char ++ rest → Reads (item index start) x rest)
    (index : Nat) {start : Cursor} {rest : List Symbol}
    (held : start.rest = (separated (index = 0) (items.map text)).map .char ++ .char ']' :: rest) :
    Keeps (readItems item index start) items (.char ']' :: rest) := by
  induction items generalizing index start with
  | nil =>
      have ended : start.rest = .char ']' :: rest := held
      refine ⟨.pastBlanks start [], ?_, rfl, ?_⟩
      · rw [readItems, nextItem?_end _ ended]
        rfl
      · exact (congrArg Cursor.rest (skipBlanks_of_head ended rfl)).trans ended
  | cons x items ih =>
      obtain ⟨c, more, form, opening⟩ := opens x (by simp)
      obtain ⟨here, behind, goes, place, ends, others⟩ :=
        nextItem?_separated _ opening ⟨more, form⟩ held
      obtain ⟨head, readsHead, value, stop⟩ := reads x (by simp) index here.val behind ends place
      obtain ⟨tail, readsTail, values, final⟩ := ih (fun y member => opens y (by simp [member]))
        (fun y member => reads y (by simp [member])) (index + 1) (stop.trans others)
      refine ⟨.behind here (.after head (tail.map (head.value :: ·))), ?_, ?_, final⟩
      · rw [readItems]
        simp only [goes, readsHead, readsTail, bind, Except.bind, pure, Except.pure]
      · change head.value :: tail.value = _
        rw [value, values]

theorem nextKey?_end (first : Bool) {start : Cursor} {rest : List Symbol}
    (held : start.rest = .char '}' :: rest) : nextKey? first start = .ok none := by
  have here := skipBlanks_of_head held rfl
  simp [nextKey?, here, held]

theorem nextKey?_next (first : Bool) {start : Cursor} {rest : List Symbol}
    (held : start.rest = if first then .char '"' :: rest else .char ',' :: .char '"' :: rest) :
    ∃ here, nextKey? first start = .ok (some here) ∧ here.val.rest = .char '"' :: rest := by
  cases first with
  | true =>
      rw [if_pos rfl] at held
      have here := skipBlanks_of_head held rfl
      refine ⟨start.pastBlanks, ?_, ?_⟩
      · simp [nextKey?, here, held]
      · exact (congrArg Cursor.rest here).trans held
  | false =>
      rw [if_neg (by simp)] at held
      have here := skipBlanks_of_head held rfl
      have behind := rest_advance held
      have there := skipBlanks_of_head behind rfl
      refine ⟨start.pastMark, ?_, ?_⟩
      · simp [nextKey?, here, held, there, behind]
      · simp only [Cursor.pastMark, here, there, behind]

theorem nextKey?_separated (first : Bool) {start : Cursor} {part : List Char}
    {parts : List (List Char)} {rest : List Symbol} (form : ∃ more, part = '"' :: more)
    (held : start.rest = (separated first (part :: parts)).map .char ++ .char '}' :: rest) :
    ∃ here behind, nextKey? first start = .ok (some here) ∧
      here.val.rest = part.map .char ++ behind ∧ Ends behind ∧
      behind = (separated false parts).map .char ++ .char '}' :: rest := by
  obtain ⟨more, rfl⟩ := form
  let behind := (separated false parts).map .char ++ .char '}' :: rest
  have next : start.rest = if first then .char '"' :: (more.map .char ++ behind)
      else .char ',' :: .char '"' :: (more.map .char ++ behind) := by
    rw [held, separated]
    split <;> simp [behind]
  obtain ⟨here, goes, place⟩ := nextKey?_next first next
  exact ⟨here, behind, goes, place, ends_separated parts (.inr rfl) rest, rfl⟩

theorem readColon_next {start : Cursor} {rest : List Symbol} (held : start.rest = .char ':' :: rest) :
    Reads (readColon start) () rest := by
  obtain ⟨place, rfl⟩ := Cursor.exists_place held
  exact ⟨.mark _ rfl, rfl, rfl, rfl⟩

theorem readMember_text {α : Type} {value : String → Reader α} {key : String} {chars : List Char}
    {x : α} {rest : List Symbol}
    (reads : ∀ start : Cursor, start.rest = chars.map .char ++ rest → Reads (value key start) x rest)
    {start : Cursor} (held : start.rest = (quote key.toList ++ ':' :: chars).map .char ++ rest) :
    Reads (readMember value start) (key, x) rest := by
  have first : start.rest = .char '"' :: ((key.toList.flatMap escape).map .char ++
      .char '"' :: .char ':' :: (chars.map .char ++ rest)) := by
    rw [held]
    simp [quote]
  obtain ⟨name, readsName, same, afterName⟩ := readString_quote (rest_advance first)
  obtain ⟨colon, readsColon, _, afterColon⟩ := readColon_next afterName
  obtain ⟨found, readsValue, meant, stop⟩ := reads colon.next afterColon
  refine ⟨((name.after (colon.after found)).map (name.value, ·)).ofAdvance, ?_, ?_, stop⟩
  · rw [← same] at readsValue
    simp only [readMember, readsName, readsColon, readsValue, bind, Except.bind]
    rfl
  · change (name.value, found.value) = _
    rw [same, meant]

theorem readMembers_separated {α : Type} {value : String → Reader α}
    {text : String × α → List Char} {members : List (String × α)}
    (keyed : ∀ member ∈ members, ∃ more, text member = '"' :: more)
    (reads : ∀ member ∈ members, ∀ start rest, Ends rest →
      start.rest = (text member).map .char ++ rest → Reads (readMember value start) member rest)
    (first : Bool) {start : Cursor} {rest : List Symbol}
    (held : start.rest = (separated first (members.map text)).map .char ++ .char '}' :: rest) :
    Keeps (readMembers value first start) members (.char '}' :: rest) := by
  induction members generalizing first start with
  | nil =>
      have ended : start.rest = .char '}' :: rest := held
      refine ⟨.pastBlanks start [], ?_, rfl, ?_⟩
      · rw [readMembers, nextKey?_end _ ended]
        rfl
      · exact (congrArg Cursor.rest (skipBlanks_of_head ended rfl)).trans ended
  | cons member members ih =>
      obtain ⟨here, behind, goes, place, ends, others⟩ :=
        nextKey?_separated _ (keyed member (by simp)) held
      obtain ⟨head, readsHead, same, stop⟩ := reads member (by simp) here.val behind ends place
      obtain ⟨tail, readsTail, values, final⟩ := ih (fun y member => keyed y (by simp [member]))
        (fun y member => reads y (by simp [member])) false (stop.trans others)
      refine ⟨.behind here (.after head (tail.map (head.value :: ·))), ?_, ?_, final⟩
      · rw [readMembers]
        simp only [goes, readsHead, readsTail, bind, Except.bind, pure, Except.pure]
      · change head.value :: tail.value = _
        rw [same, values]

theorem readBracketed_next {α : Type} {inner : (start : Cursor) → Except Fault (Kept α start)}
    {start : Cursor} {mark close : Char} {value : α} {inside rest : List Symbol}
    (held : start.rest = .char mark :: inside)
    (keeps : ∀ next : Cursor, next.rest = inside → Keeps (inner next) value (.char close :: rest)) :
    Reads (readBracketed inner start) value rest := by
  obtain ⟨kept, reads, same, stop⟩ := keeps start.advance (rest_advance held)
  obtain ⟨place, rfl⟩ := Cursor.exists_place held
  simp only [readBracketed, reads]
  exact ⟨_, rfl, same, rest_advance stop⟩

/-- A value that a text can hold: brackets nest at most `depth` deep, every number has a text of its
own, and the members of an object ascend. -/
inductive Fits : (depth : Nat) → Value → Prop
  | null {depth} : Fits depth .null
  | bool {depth} (b : Bool) : Fits depth (.bool b)
  | number {depth} {n : Number} : n.Plain → Fits depth (.number n)
  | string {depth} (s : String) : Fits depth (.string s)
  | list {depth} {items : List Value} : (∀ item ∈ items, Fits depth item) →
      Fits (depth + 1) (.list items)
  | object {depth} {members : List (String × Value)} : Keyed.ofList members = members →
      (∀ member ∈ members, Fits depth member.2) → Fits (depth + 1) (.object members)

theorem Fits.mono {depth more : Nat} {value : Value} (fits : Fits depth value)
    (deeper : depth ≤ more) : Fits more value := by
  induction fits generalizing more with
  | null => exact .null
  | bool b => exact .bool b
  | number plain => exact .number plain
  | string s => exact .string s
  | list _ ih =>
      obtain ⟨more, rfl⟩ : ∃ other, more = other + 1 := ⟨more - 1, by omega⟩
      exact .list fun item member => ih item member (by omega)
  | object sorted _ ih =>
      obtain ⟨more, rfl⟩ : ∃ other, more = other + 1 := ⟨more - 1, by omega⟩
      exact .object sorted fun member present => ih member present (by omega)

theorem opens_of_number {c : Char} (first : c = '-' ∨ c.isDigit = true) :
    Opens c ∧ c ≠ '[' ∧ c ≠ '\x7b' ∧ c ≠ '"' := by
  have differs {d : Char} (minus : d ≠ '-') (digit : d.isDigit = false) : c ≠ d := by
    rintro rfl
    rcases first with same | digital
    · exact minus same
    · rw [digit] at digital
      cases digital
  refine ⟨⟨?_, differs (by decide) rfl⟩, differs (by decide) rfl, differs (by decide) rfl,
    differs (by decide) rfl⟩
  simp only [Cursor.isSpace, Bool.or_eq_false_iff, decide_eq_false_iff_not]
  exact ⟨⟨⟨differs (by decide) rfl, differs (by decide) rfl⟩, differs (by decide) rfl⟩,
    differs (by decide) rfl⟩

theorem Fits.opens {depth : Nat} {value : Value} (fits : Fits depth value) :
    ∃ c more, value.chars = c :: more ∧ Opens c := by
  cases fits with
  | null => exact ⟨'n', _, rfl, rfl, by decide⟩
  | bool b =>
      cases b with
      | true => exact ⟨'t', _, rfl, rfl, by decide⟩
      | false => exact ⟨'f', _, rfl, rfl, by decide⟩
  | number plain =>
      obtain ⟨c, more, form, first⟩ := Number.chars_head plain
      exact ⟨c, more, form, (opens_of_number first).1⟩
  | string s => exact ⟨'"', _, rfl, rfl, by decide⟩
  | list _ => exact ⟨'[', _, rfl, rfl, by decide⟩
  | object _ _ => exact ⟨'\x7b', _, rfl, rfl, by decide⟩

theorem readScalar_number {start : Cursor} {n : Number} (plain : n.Plain) {rest : List Symbol}
    (ends : Ends rest) (held : start.rest = n.chars.map .char ++ rest) :
    Reads (readScalar start) (.number n) rest := by
  obtain ⟨c, more, form, first⟩ := Number.chars_head plain
  obtain ⟨parsed, reads, value, stop⟩ := readNumber_chars plain ends held
  obtain ⟨_, _, _, quote⟩ := opens_of_number first
  have head : start.rest = .char c :: (more.map .char ++ rest) := by rw [held, form]; rfl
  refine ⟨parsed.map .number, ?_, congrArg Value.number value, stop⟩
  have signed : Symbol.char c = .char '-' ∨ Cursor.isDigit (.char c) = true :=
    first.imp (congrArg Symbol.char) id
  simp only [readScalar, head, if_neg (fun same => quote (Symbol.char.inj same)), if_pos signed, reads]
  rfl

theorem readScalar_string {start : Cursor} {s : String} {rest : List Symbol}
    (held : start.rest = (quote s.toList).map .char ++ rest) :
    Reads (readScalar start) (.string s) rest := by
  have head : start.rest =
      .char '"' :: ((s.toList.flatMap escape).map .char ++ .char '"' :: rest) := by
    rw [held]
    simp [quote]
  obtain ⟨parsed, reads, value, stop⟩ := readString_quote (rest_advance head)
  refine ⟨(parsed.map Value.string).ofAdvance, ?_, congrArg Value.string value, stop⟩
  simp only [readScalar, head, ↓reduceIte, reads]
  rfl

theorem readScalar_word (value : Value) {first : Char} {letters : List Char}
    (word : ∀ symbols place, readScalar ⟨.char first :: symbols, place⟩ =
      readWord value letters ⟨.char first :: symbols, place⟩) {start : Cursor} {rest : List Symbol}
    (held : start.rest = .char first :: (letters.map .char ++ rest)) :
    Reads (readScalar start) value rest := by
  have reads := readWord_next value held
  obtain ⟨place, rfl⟩ := Cursor.exists_place held
  rw [word]
  exact reads

theorem readScalar_bool {start : Cursor} {b : Bool} {rest : List Symbol}
    (held : start.rest = (Value.bool b).chars.map .char ++ rest) :
    Reads (readScalar start) (.bool b) rest := by
  cases b with
  | true =>
      have head : start.rest = .char 't' :: (['r', 'u', 'e'].map .char ++ rest) := held
      exact readScalar_word (.bool true) (fun _ _ => rfl) head
  | false =>
      have head : start.rest = .char 'f' :: (['a', 'l', 's', 'e'].map .char ++ rest) := held
      exact readScalar_word (.bool false) (fun _ _ => rfl) head

theorem readValue_scalar {depth : Nat} {start : Cursor} {value : Value} {c : Char}
    {behind rest : List Symbol} (held : start.rest = .char c :: behind)
    (solid : Cursor.isSpace c = false) (bracket : c ≠ '[') (brace : c ≠ '\x7b')
    (reads : ∀ here : Cursor, here.rest = start.rest → Reads (readScalar here) value rest) :
    Reads (readValue depth start) value rest := by
  have here := congrArg Cursor.rest (skipBlanks_of_head held solid)
  obtain ⟨parsed, reads, value, stop⟩ := reads start.skipBlanks here
  have list : start.skipBlanks.rest.head? ≠ some (.char '[') := by
    rw [here, held]
    simpa using bracket
  have object : start.skipBlanks.rest.head? ≠ some (.char '\x7b') := by
    rw [here, held]
    simpa using brace
  refine ⟨parsed.ofBlanks, ?_, value, stop⟩
  cases depth with
  | zero =>
      simp only [readValue, list, object, or_self, ↓reduceIte, reads]
      rfl
  | succ depth =>
      simp only [readValue, list, object, ↓reduceIte, reads]
      rfl

theorem readValue_object {depth : Nat} {members : List (String × Value)}
    (values : ∀ member ∈ members, ∀ (start : Cursor) (rest : List Symbol), Ends rest →
      start.rest = member.2.chars.map .char ++ rest → Reads (readValue depth start) member.2 rest)
    {start : Cursor} {rest : List Symbol}
    (held : start.rest = (Value.object members).chars.map .char ++ rest) :
    Reads (readValue (depth + 1) start) (.ofMembers members) rest := by
  have head : start.rest = .char '\x7b' ::
      ((separated true (members.map memberText)).map .char ++ .char '\x7d' :: rest) := by
    rw [held, Value.chars, memberChars_eq]
    simp
  have here := (congrArg Cursor.rest (skipBlanks_of_head head rfl)).trans head
  have bracketed : Reads (readBracketed (readMembers (fun _ => readValue depth) true)
      start.skipBlanks) members rest :=
    readBracketed_next here fun next inside =>
      readMembers_separated (fun member _ => ⟨_, rfl⟩)
        (fun member present start rest ends held =>
          readMember_text (fun start held => values member present start rest ends held) held)
        true inside
  obtain ⟨parsed, reads, same, stop⟩ := bracketed
  refine ⟨(parsed.map Value.ofMembers).ofBlanks, ?_, congrArg Value.ofMembers same, stop⟩
  have other : (some (Symbol.char '\x7b')) ≠ some (.char '[') := by simp
  simp only [readValue, here, List.head?_cons, if_neg other, ↓reduceIte, reads]
  rfl

theorem readValue_chars {depth : Nat} {value : Value} (fits : Fits depth value) {start : Cursor}
    {rest : List Symbol} (ends : Ends rest) (held : start.rest = value.chars.map .char ++ rest) :
    Reads (readValue depth start) value rest := by
  induction fits generalizing start rest with
  | null =>
      have head : start.rest = .char 'n' :: (['u', 'l', 'l'].map .char ++ rest) := held
      exact readValue_scalar head rfl (by decide) (by decide) fun here same =>
        readScalar_word .null (fun _ _ => rfl) (same.trans head)
  | bool b =>
      have reads (here : Cursor) (same : here.rest = start.rest) :
          Reads (readScalar here) (.bool b) rest := readScalar_bool (same.trans held)
      cases b with
      | true => exact readValue_scalar held rfl (by decide) (by decide) reads
      | false => exact readValue_scalar held rfl (by decide) (by decide) reads
  | number plain =>
      obtain ⟨c, more, form, first⟩ := Number.chars_head plain
      obtain ⟨opens, bracket, brace, _⟩ := opens_of_number first
      have head : start.rest = .char c :: (more.map .char ++ rest) := by
        rw [held, Value.chars, form]
        rfl
      exact readValue_scalar head opens.solid bracket brace fun here same =>
        readScalar_number plain ends (same.trans held)
  | string s =>
      exact readValue_scalar held rfl (by decide) (by decide) fun here same =>
        readScalar_string (same.trans held)
  | @list depth items fits ih =>
      have head : start.rest = .char '[' ::
          ((separated true (items.map Value.chars)).map .char ++ .char ']' :: rest) := by
        rw [held, Value.chars, itemChars_eq]
        simp
      have here := (congrArg Cursor.rest (skipBlanks_of_head head rfl)).trans head
      have bracketed : Reads (readBracketed (readItems (fun _ => readValue depth) 0)
          start.skipBlanks) items rest :=
        readBracketed_next here fun next inside =>
          readItems_separated (fun item member => (fits item member).opens)
            (fun item member _ start rest ends held => ih item member ends held) 0 inside
      obtain ⟨parsed, reads, same, stop⟩ := bracketed
      refine ⟨(parsed.map Value.list).ofBlanks, ?_, congrArg Value.list same, stop⟩
      simp only [readValue, here, List.head?_cons, ↓reduceIte, reads]
      rfl
  | @object depth members sorted fits ih =>
      have reads := readValue_object (fun member present start rest ends held =>
        ih member present ends held) held
      rwa [Value.ofMembers, sorted] at reads

theorem parse_of_reads {value read : Value} (reads : ∀ start : Cursor,
    start.rest = value.chars.map .char ++ [] → Reads (readValue depthLimit start) read []) :
    Value.parse value.text = .ok read := by
  have held : (Cursor.ofString value.text).rest = value.chars.map .char ++ [] := by
    simp [Cursor.ofString, Cursor.ofSymbols, Value.text]
  obtain ⟨parsed, reads, same, stop⟩ := reads _ held
  have ended : parsed.next.skipBlanks.rest = [] := by
    rw [Cursor.skipBlanks, stop]
    rfl
  simp only [Value.parse, Reader.whole, reads, bind, Except.bind, ended, ↓reduceIte, same]
  rfl

theorem parse_text {value : Value} (fits : Fits depthLimit value) :
    Value.parse value.text = .ok value :=
  parse_of_reads fun _ held => readValue_chars fits nofun held

theorem parse_object {members : List (String × Value)}
    (fits : ∀ member ∈ members, Fits (depthLimit - 1) member.2) :
    Value.parse (Value.object members).text = .ok (.ofMembers members) :=
  parse_of_reads fun _ held => readValue_object
    (fun member present _ _ ends held => readValue_chars (fits member present) ends held) held

end SoundScene.Json
