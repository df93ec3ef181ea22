import SoundScene.Json.Record
import SoundScene.Proofs.ParsedValue

/-!
Readers for values of a known kind, on the texts of values.  Such a reader takes the text as it
comes and never makes a value of it, but on the text of a value it says what the value is read as
(`readList_mirrors`, `readFields_mirrors`).
-/

namespace SoundScene.Json

open Text (Symbol)

variable {α σ : Type}

/-- An outcome and what was meant go together: a result that shows the value, or both fail. -/
def Agrees {β : Type} (outcome : Except Fault β) (meant : Except Mismatch α)
    (Shows : β → α → Prop) : Prop :=
  match meant with
  | .ok value => ∃ result, outcome = .ok result ∧ Shows result value
  | .error _ => ∀ result, outcome ≠ .ok result

theorem Agrees.bind {β γ δ : Type} {outcome : Except Fault β} {meant : Except Mismatch α}
    {Shows : β → α → Prop} (agrees : Agrees outcome meant Shows) {next : β → Except Fault δ}
    {later : α → Except Mismatch γ} {Ends : δ → γ → Prop}
    (follows : ∀ result value, meant = .ok value → Shows result value →
      Agrees (next result) (later value) Ends) :
    Agrees (outcome >>= next) (meant >>= later) Ends := by
  cases meant with
  | error mismatch =>
      intro final ran
      obtain ⟨result, found, _⟩ := ok_of_bind ran
      exact agrees result found
  | ok value =>
      obtain ⟨result, rfl, shows⟩ := agrees
      exact follows result value rfl shows

theorem Agrees.finish {β γ : Type} {outcome : Except Fault β} {meant : Except Mismatch α}
    {Shows : β → α → Prop} (agrees : Agrees outcome meant Shows) {last : β → γ}
    {Ends : γ → α → Prop} (shows : ∀ result value, Shows result value → Ends (last result) value) :
    Agrees (outcome >>= fun result => pure (last result)) meant Ends := by
  cases meant with
  | error mismatch =>
      intro final ran
      obtain ⟨result, found, _⟩ := ok_of_bind ran
      exact agrees result found
  | ok value =>
      obtain ⟨result, rfl, held⟩ := agrees
      exact ⟨last result, rfl, shows result value held⟩

theorem Agrees.map {β γ : Type} {outcome : Except Fault β} {meant : Except Mismatch α}
    {view : α → γ} {Shows : β → γ → Prop}
    (agrees : Agrees outcome meant fun result value => Shows result (view value)) :
    Agrees outcome (meant.map view) Shows := by
  cases meant with
  | error mismatch => exact agrees
  | ok value => exact agrees

theorem Agrees.ok_iff {outcome : Except Fault α} {meant : Except Mismatch α}
    (agrees : Agrees outcome meant Eq) (value : α) : outcome = .ok value ↔ meant = .ok value := by
  cases meant with
  | error mismatch => exact iff_of_false (agrees value) nofun
  | ok other =>
      obtain ⟨_, rfl, rfl⟩ := agrees
      rw [Except.ok.injEq, Except.ok.injEq]

/-- Reading a text comes to what was meant and stops at the rest, or fails with it. -/
def Mirrors {start : Cursor} (outcome : Except Fault (Parsed α start)) (meant : Except Mismatch α)
    (rest : List Symbol) : Prop :=
  Agrees outcome meant fun parsed value => parsed.value = value ∧ parsed.next.rest = rest

def MirrorsInside {start : Cursor} (outcome : Except Fault (Kept α start))
    (meant : Except Mismatch α) (rest : List Symbol) : Prop :=
  Agrees outcome meant fun kept value => kept.value = value ∧ kept.next.rest = rest

theorem Mirrors.at {read : Reader α} {start : Cursor} {meant : Except Mismatch α}
    {rest : List Symbol} (mirrors : Mirrors (read start) meant rest) (step : Step) :
    Mirrors (read.at step start) meant rest := by
  cases meant with
  | error mismatch =>
      intro parsed ran
      exact mirrors parsed (ok_of_mapError ran)
  | ok value =>
      obtain ⟨parsed, reads, shows⟩ := mirrors
      exact ⟨parsed, by rw [Reader.at, reads]; rfl, shows⟩

theorem not_ok_unexpected {expected : String} {here : Cursor} {value : α} :
    unexpected expected here ≠ .ok value := by
  intro ran
  obtain ⟨_, _, ran⟩ := ok_of_bind ran
  cases ran

structure Heads (c : Char) (value : Value) : Prop where
  opens : Opens c
  null : c = 'n' → value = .null
  number : c = '-' ∨ c.isDigit = true ↔ ∃ n, value = .number n
  list : c = '[' ↔ ∃ items, value = .list items

theorem Fits.heads {depth : Nat} {value : Value} (fits : Fits depth value) :
    ∃ c more, value.chars = c :: more ∧ Heads c value := by
  cases fits with
  | null => exact ⟨'n', _, rfl, ⟨rfl, by decide⟩, fun _ => rfl, by simp, by simp⟩
  | bool b =>
      cases b with
      | true => exact ⟨'t', _, rfl, ⟨rfl, by decide⟩, by simp, by simp, by simp⟩
      | false => exact ⟨'f', _, rfl, ⟨rfl, by decide⟩, by simp, by simp, by simp⟩
  | number plain =>
      obtain ⟨c, more, form, first⟩ := Number.chars_head plain
      obtain ⟨opens, bracket, _, _⟩ := opens_of_number first
      refine ⟨c, more, form, opens, ?_, by simp [first], by simp [bracket]⟩
      rintro rfl
      rcases first with minus | digit
      · cases minus
      · cases digit
  | string s => exact ⟨'"', _, rfl, ⟨rfl, by decide⟩, by simp, by simp, by simp⟩
  | list _ => exact ⟨'[', _, rfl, ⟨rfl, by decide⟩, by simp, by simp, by simp⟩
  | object _ _ => exact ⟨'\x7b', _, rfl, ⟨rfl, by decide⟩, by simp, by simp, by simp⟩

section Values

variable {depth : Nat} {value : Value} {start : Cursor} {rest : List Symbol}

theorem Fits.skipBlanks (fits : Fits depth value)
    (held : start.rest = value.chars.map .char ++ rest) :
    ∃ c more, Heads c value ∧ start.skipBlanks = start ∧ start.rest = .char c :: more := by
  obtain ⟨c, more, form, heads⟩ := fits.heads
  have head : start.rest = .char c :: (more.map .char ++ rest) := by
    rw [held, form]
    rfl
  exact ⟨c, _, heads, skipBlanks_of_head head heads.opens.solid, head⟩

theorem readFloat_mirrors (fits : Fits depth value) (ends : Ends rest)
    (held : start.rest = value.chars.map .char ++ rest) :
    Mirrors (readFloat start) value.toFloat rest := by
  obtain ⟨c, more, heads, here, head⟩ := fits.skipBlanks held
  have signed : (start.skipBlanks.rest.head?.any fun symbol =>
      symbol = .char '-' || Cursor.isDigit symbol) = true ↔ ∃ n, value = .number n := by
    rw [here, head, ← heads.number]
    simp [Cursor.isDigit]
  by_cases number : ∃ n, value = .number n
  · obtain ⟨n, rfl⟩ := number
    have plain : n.Plain := by
      cases fits with
      | number plain => exact plain
    obtain ⟨parsed, reads, same, stop⟩ := readNumber_chars plain ends
      ((congrArg Cursor.rest here).trans held)
    refine ⟨(parsed.map Number.toFloat).ofBlanks, ?_, congrArg Number.toFloat same, stop⟩
    simp only [readFloat, if_pos (signed.2 ⟨n, rfl⟩), reads, bind, Except.bind]
    rfl
  · have wrong : ∃ mismatch, value.toFloat = .error mismatch := by
      cases value with
      | number n => exact absurd ⟨n, rfl⟩ number
      | _ => exact ⟨_, rfl⟩
    obtain ⟨mismatch, wrong⟩ := wrong
    rw [wrong]
    intro parsed ran
    rw [readFloat, if_neg (mt signed.1 number)] at ran
    exact not_ok_unexpected ran

end Values

theorem readItems_mirrors {item : Nat → Reader α} {view : Value → Except Mismatch α}
    {items : List Value} (opens : ∀ value ∈ items, ∃ c more, value.chars = c :: more ∧ Opens c)
    (mirrors : ∀ value ∈ items, ∀ index start rest, Ends rest →
      start.rest = value.chars.map .char ++ rest → Mirrors (item index start) (view value) rest)
    (index : Nat) {start : Cursor} {rest : List Symbol}
    (held : start.rest =
      (separated (index = 0) (items.map Value.chars)).map .char ++ .char ']' :: rest) :
    MirrorsInside (readItems item index start) (items.mapM view) (.char ']' :: rest) := by
  induction items generalizing index start with
  | nil =>
      have ended : start.rest = .char ']' :: rest := held
      refine ⟨.pastBlanks start [], ?_, rfl, ?_⟩
      · rw [readItems, nextItem?_end _ ended]
        rfl
      · exact (congrArg Cursor.rest (skipBlanks_of_head ended rfl)).trans ended
  | cons value items ih =>
      obtain ⟨c, more, form, opening⟩ := opens value (by simp)
      obtain ⟨here, behind, goes, place, ends, others⟩ :=
        nextItem?_separated _ opening ⟨more, form⟩ held
      have first := mirrors value (by simp) index here.val behind ends place
      rw [readItems, goes, List.mapM_cons]
      refine first.bind fun head x _ read => ?_
      obtain ⟨same, stop⟩ := read
      have later := ih (fun other member => opens other (by simp [member]))
        (fun other member => mirrors other (by simp [member])) (index + 1) (stop.trans others)
      refine later.bind fun tail xs _ listed => ?_
      obtain ⟨values, final⟩ := listed
      refine ⟨_, rfl, ?_, final⟩
      change head.value :: tail.value = _
      rw [same, values]

theorem readBracketed_mirrors {inner : (start : Cursor) → Except Fault (Kept α start)}
    {start : Cursor} {mark close : Char} {meant : Except Mismatch α} {inside rest : List Symbol}
    (held : start.rest = .char mark :: inside)
    (mirrors : ∀ next : Cursor, next.rest = inside →
      MirrorsInside (inner next) meant (.char close :: rest)) :
    Mirrors (readBracketed inner start) meant rest := by
  have within := mirrors start.advance (rest_advance held)
  obtain ⟨place, rfl⟩ := Cursor.exists_place held
  exact within.finish fun kept value ⟨same, stop⟩ => ⟨same, rest_advance stop⟩

def Value.toItems (view : Value → Except Mismatch α) : Value → Except Mismatch (List α)
  | .list items => items.mapM view
  | other => .error (.wrongKind other.found "a sequence")

theorem Value.toFloats_eq (value : Value) : value.toFloats = value.toItems toFloat := by
  cases value <;> rfl

theorem readList_mirrors {item : Reader α} {view : Value → Except Mismatch α}
    (mirrors : ∀ depth value start rest, Fits depth value → Ends rest →
      start.rest = value.chars.map .char ++ rest → Mirrors (item start) (view value) rest)
    {depth : Nat} {value : Value} (fits : Fits depth value) {start : Cursor} {rest : List Symbol}
    (held : start.rest = value.chars.map .char ++ rest) :
    Mirrors (readList item start) (value.toItems view) rest := by
  obtain ⟨c, more, heads, here, head⟩ := fits.skipBlanks held
  have bracket : start.skipBlanks.rest.head? = some (.char '[') ↔ ∃ items, value = .list items := by
    rw [here, head, ← heads.list]
    simp
  by_cases list : ∃ items, value = .list items
  · obtain ⟨items, rfl⟩ := list
    have listed : start.rest = .char '[' ::
        ((separated true (items.map Value.chars)).map .char ++ .char ']' :: rest) := by
      rw [held, Value.chars, itemChars_eq]
      simp
    obtain ⟨_, every⟩ := fits.items
    have bracketed : Mirrors (readBracketed (readItems (fun index => item.at (.item index)) 0)
        start.skipBlanks) (items.mapM view) rest :=
      readBracketed_mirrors ((congrArg Cursor.rest here).trans listed) fun next inside =>
        readItems_mirrors (fun value member => (every value member).opens)
          (fun value member index start rest ends held =>
            (mirrors _ value start rest (every value member) ends held).at (.item index)) 0 inside
    rw [readList, if_pos (bracket.2 ⟨items, rfl⟩)]
    exact bracketed.finish fun parsed value shows => shows
  · have wrong : ∃ mismatch, value.toItems view = .error mismatch := by
      cases value with
      | list items => exact absurd ⟨items, rfl⟩ list
      | _ => exact ⟨_, rfl⟩
    obtain ⟨mismatch, wrong⟩ := wrong
    rw [wrong]
    intro parsed ran
    rw [readList, if_neg (mt bracket.1 list)] at ran
    exact not_ok_unexpected ran

theorem readFloats_mirrors {depth : Nat} {value : Value} (fits : Fits depth value)
    {start : Cursor} {rest : List Symbol} (held : start.rest = value.chars.map .char ++ rest) :
    Mirrors (readList readFloat start) value.toFloats rest := by
  rw [Value.toFloats_eq]
  exact readList_mirrors (fun _ _ _ _ => readFloat_mirrors) fits held

theorem readOptional_mirrors {read : Reader α} {depth : Nat} {value : Value}
    (fits : Fits depth value) (there : value ≠ .null) {meant : Except Mismatch α} {start : Cursor}
    {rest : List Symbol} (held : start.rest = value.chars.map .char ++ rest)
    (mirrors : Mirrors (read start) meant rest) :
    Mirrors (readOptional read start) (meant.map some) rest := by
  obtain ⟨c, more, heads, here, head⟩ := fits.skipBlanks held
  have other : start.skipBlanks.rest.head? ≠ some (.char 'n') := by
    rw [here, head]
    simpa using mt heads.null there
  have found : Mirrors (read start.skipBlanks) meant rest := by
    rw [here]
    exact mirrors
  rw [readOptional, if_neg other]
  refine Agrees.map (found.finish ?_)
  rintro parsed value ⟨rfl, stop⟩
  exact ⟨rfl, stop⟩

section Records

variable {fields : List (Field σ)}

theorem Field.of_mirrors {name : String} {read : Reader α} {store : σ → α → σ} {start : Cursor}
    {meant : Except Mismatch α} {rest : List Symbol} (mirrors : Mirrors (read start) meant rest)
    (state : σ) :
    Mirrors ((Field.of name read store).read state start) (meant.map (store state)) rest := by
  refine Agrees.map (mirrors.finish ?_)
  rintro parsed value ⟨rfl, stop⟩
  exact ⟨rfl, stop⟩

theorem readField_mirrors {field : Field σ} {gathered : Gathered σ} {key : String} {value : Value}
    (known : fields.find? (·.name = key) = some field) (unseen : key ∉ gathered.seen)
    {meant : Except Mismatch σ} {rest : List Symbol}
    (mirrors : ∀ next : Cursor, next.rest = value.chars.map .char ++ rest →
      Mirrors (field.read gathered.state next) meant rest)
    {start : Cursor} (held : start.rest = (memberText (key, value)).map .char ++ rest) :
    Mirrors (readField fields gathered start) (meant.map (gathered.add key)) rest := by
  have named : field.name = key := by simpa using List.find?_some known
  have once : gathered.seen.contains field.name = false := by simpa [named] using unseen
  have first : start.rest = .char '"' :: ((key.toList.flatMap escape).map .char ++
      .char '"' :: .char ':' :: (value.chars.map .char ++ rest)) := by
    rw [held]
    simp [memberText, quote]
  obtain ⟨name, readsName, same, afterName⟩ := readString_quote (rest_advance first)
  obtain ⟨colon, readsColon, _, afterColon⟩ := readColon_next afterName
  subst same
  have found := (mirrors colon.next afterColon).at (.member name.value)
  have steps : readField fields gathered start =
      (field.read gathered.state).at (.member name.value) colon.next >>= fun held =>
        pure ((name.after (colon.after held)).map (gathered.add field.name)).ofAdvance := by
    simp only [readField, readsName, readsColon, bind, Except.bind, known, once]
    rfl
  rw [steps]
  refine Agrees.map (found.finish ?_)
  rintro parsed state ⟨rfl, stop⟩
  exact ⟨congrArg (gathered.add · parsed.value) named, stop⟩

def Gathered.addMember (step : σ → String × Value → Except Mismatch σ) (gathered : Gathered σ)
    (member : String × Value) : Except Mismatch (Gathered σ) :=
  (step gathered.state member).map (gathered.add member.1)

theorem readFields_mirrors {step : σ → String × Value → Except Mismatch σ}
    {members : List (String × Value)}
    (mirrors : ∀ member ∈ members, ∃ field, fields.find? (·.name = member.1) = some field ∧
      ∀ state start rest, Ends rest → start.rest = member.2.chars.map .char ++ rest →
        Mirrors (field.read state start) (step state member) rest)
    (distinct : (members.map Prod.fst).Nodup) {gathered : Gathered σ}
    (unseen : ∀ member ∈ members, member.1 ∉ gathered.seen) (first : Bool) {start : Cursor}
    {rest : List Symbol} (held : start.rest =
      (separated first (members.map memberText)).map .char ++ .char '\x7d' :: rest) :
    MirrorsInside (readFields fields gathered first start)
      (members.foldlM (Gathered.addMember step) gathered) (.char '\x7d' :: rest) := by
  induction members generalizing gathered first start with
  | nil =>
      have ended : start.rest = .char '\x7d' :: rest := held
      refine ⟨.pastBlanks start gathered, ?_, rfl, ?_⟩
      · rw [readFields, nextKey?_end _ ended]
        rfl
      · exact (congrArg Cursor.rest (skipBlanks_of_head ended rfl)).trans ended
  | cons member members ih =>
      obtain ⟨key, value⟩ := member
      obtain ⟨field, known, mirror⟩ := mirrors (key, value) (by simp)
      rw [List.map_cons, List.nodup_cons] at distinct
      obtain ⟨here, behind, goes, place, ends, others⟩ :=
        nextKey?_separated _ ⟨_, rfl⟩ held
      have read : Mirrors (readField fields gathered here.val)
          ((step gathered.state (key, value)).map (gathered.add key)) behind :=
        readField_mirrors known (unseen (key, value) (by simp))
          (fun next held => mirror gathered.state next behind ends held) place
      rw [readFields, goes, List.foldlM_cons]
      refine read.bind fun head added meant ⟨same, stop⟩ => ?_
      obtain ⟨state, _, rfl⟩ := ok_of_map meant
      have fresh (other : String × Value) (member : other ∈ members) :
          other.1 ∉ (gathered.add key state).seen := by
        rw [Gathered.add, List.mem_cons, not_or]
        refine ⟨fun same => distinct.1 ?_, unseen other (by simp [member])⟩
        exact List.mem_map.2 ⟨other, member, same⟩
      have later := ih (fun other member => mirrors other (by simp [member])) distinct.2 fresh
        false (stop.trans others)
      rw [← same] at later ⊢
      refine Agrees.finish later ?_
      rintro kept value ⟨rfl, final⟩
      exact ⟨rfl, final⟩

theorem foldlM_gathered (step : σ → String × Value → Except Mismatch σ)
    (members : List (String × Value)) (gathered : Gathered σ) :
    (members.foldlM (Gathered.addMember step) gathered).map Gathered.state =
      members.foldlM step gathered.state := by
  induction members generalizing gathered with
  | nil => rfl
  | cons member members ih =>
      rw [List.foldlM_cons, List.foldlM_cons, Gathered.addMember]
      cases step gathered.state member with
      | error mismatch => rfl
      | ok state => exact ih (gathered.add member.1 state)

/-- A record of which nothing has to be there is read as its members say, on the text of an object
that has only members of the record, each once. -/
theorem Shape.read_mirrors {shape : Shape σ} (free : shape.required = [])
    {step : σ → String × Value → Except Mismatch σ} {members : List (String × Value)}
    (mirrors : ∀ member ∈ members, ∃ field, shape.fields.find? (·.name = member.1) = some field ∧
      ∀ state start rest, Ends rest → start.rest = member.2.chars.map .char ++ rest →
        Mirrors (field.read state start) (step state member) rest)
    (distinct : (members.map Prod.fst).Nodup) {start : Cursor} {rest : List Symbol}
    (held : start.rest = (Value.object members).chars.map .char ++ rest) :
    Mirrors (shape.read start) (members.foldlM step shape.initial) rest := by
  have head : start.rest = .char '\x7b' ::
      ((separated true (members.map memberText)).map .char ++ .char '\x7d' :: rest) := by
    rw [held, Value.chars, memberChars_eq]
    simp
  have here := (congrArg Cursor.rest (skipBlanks_of_head head rfl)).trans head
  have complete (gathered : Gathered σ) : shape.missing? gathered = none := by
    rw [Shape.missing?, free]
    rfl
  have bracketed : Mirrors
      (readBracketed (readFields shape.fields ⟨[], shape.initial⟩ true) start.skipBlanks)
      (members.foldlM (Gathered.addMember step) ⟨[], shape.initial⟩) rest :=
    readBracketed_mirrors here fun next inside =>
      readFields_mirrors mirrors distinct (by simp) true inside
  rw [← foldlM_gathered step members ⟨[], shape.initial⟩, Shape.read, if_pos (by rw [here]; rfl)]
  simp only [complete]
  refine Agrees.map (bracketed.finish ?_)
  rintro parsed gathered ⟨rfl, stop⟩
  exact ⟨rfl, stop⟩

end Records

theorem Reader.whole_agrees {read : Reader α} {start : Cursor} {meant : Except Mismatch α}
    (mirrors : Mirrors (read start) meant []) : Agrees (read.whole start) meant Eq := by
  cases meant with
  | error mismatch =>
      intro value ran
      obtain ⟨parsed, found, _⟩ := ok_of_bind ran
      exact mirrors parsed found
  | ok value =>
      obtain ⟨parsed, reads, rfl, stop⟩ := mirrors
      have ended : parsed.next.skipBlanks.rest = [] := by
        rw [Cursor.skipBlanks, stop]
        rfl
      refine ⟨parsed.value, ?_, rfl⟩
      simp only [Reader.whole, reads, bind, Except.bind, ended, ↓reduceIte]
      rfl

end SoundScene.Json
