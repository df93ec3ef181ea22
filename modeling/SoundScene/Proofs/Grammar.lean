import Mathlib.Control.Monad.Basic
import SoundScene.Proofs.Chains
import SoundScene.Proofs.Forms
import SoundScene.Message

/-!
The grammar of messages: names and payloads in turn, each payload of the form that belongs to its
name.  A message is read exactly if the grammar accepts it, and any other is refused for the first
thing in it that is wrong (`decode_grammar`).
-/

namespace SoundScene

open Json

namespace Json

abbrev ValueForm := Form Value Mismatch

namespace ValueForm

def wrongKind (expected : String) : ValueForm := fun value =>
  .refused (.wrongKind value.found expected)

def number : ValueForm := .within .number (fun _ => .accepted) (wrongKind "f64")

def flag : ValueForm := .within .bool (fun _ => .accepted) (wrongKind "a boolean")

def text : ValueForm := .within .string (fun _ => .accepted) (wrongKind "a string")

def listOf (items : Form (List Value) Mismatch) : ValueForm :=
  .within .list items (wrongKind "a sequence")

def counted (counts : List Nat) (expected : String) : Form (List Value) Mismatch := fun items =>
  { accepts := items.length ∈ counts
    refuses := fun why => items.length ∉ counts ∧ why = .wrongCount expected items.length }

def numbers (counts : List Nat) (expected : String) : ValueForm :=
  listOf fun items => (number.each items).andThen (counted counts expected items)

def point : ValueForm := numbers [2, 3] "2 or 3"

def rotor : ValueForm := numbers [4] "4"

def optional (form : ValueForm) : ValueForm :=
  .within (fun _ : Unit => .null) (fun _ => .accepted) form

def member (table : List (String × ValueForm)) : Form (String × Value) Mismatch :=
  .among table fun _ => .accepted

end ValueForm

end Json

open ValueForm

namespace Loudspeaker

def parts : List (String × ValueForm) :=
  [("pos", point), ("rot", rotor), ("model", .optional text)]

def hasPosition : Form (List (String × Value)) Mismatch := fun members =>
  { accepts := ∃ place, ("pos", place) ∈ members
    refuses := fun why => (∀ place, ("pos", place) ∉ members) ∧ why = .missingField "pos" }

/-- A list of parts starts with the position and has no more parts than there are. -/
def fewParts : Form (List Value) Mismatch := fun items =>
  { accepts := 1 ≤ items.length ∧ items.length ≤ 3
    refuses := fun why => items = [] ∧ why = .tooShort 0 "struct Loudspeaker with 3 elements" ∨
      3 < items.length ∧ why = .tooLong items.length }

def inPlace : Form (Value × String × ValueForm) Mismatch := fun pair => pair.2.2 pair.1

def form : ValueForm :=
  .within .object (fun members => ((member parts).each members).andThen (hasPosition members)) <|
    .within .list (fun items => (inPlace.each (items.zip parts)).andThen (fewParts items)) <|
      wrongKind "struct Loudspeaker"

end Loudspeaker

def StateEntry.forms : List (String × ValueForm) :=
  [("loudspeakers", listOf Loudspeaker.form.each), ("ref-pos", point), ("ref-rot", rotor),
    ("ref-pos-offset", point), ("ref-rot-offset", rotor)]

def Source.Patch.forms : List (String × ValueForm) :=
  [("pos", point), ("rot", rotor), ("active", flag), ("name", text), ("model", text),
    ("volume", number), ("mute", flag), ("fixed", flag)]

namespace Command

abbrev PayloadForm := Form Value Failure

def wrong (name expected : String) : PayloadForm := fun value =>
  .refused (.invalidAttribute name ("expected " ++ expected ++ ", not " ++ value.text))

def object (name : String) (members : Form (List (String × Value)) Failure) : PayloadForm :=
  .within .object members (wrong name "a JSON object")

def member (forms : List (String × ValueForm)) : Form (String × Value) Failure := fun member =>
  (ValueForm.member forms member).reported (.ofMismatch member.1)

def source : Form (String × Value) Failure := fun entry =>
  object entry.1 (member Source.Patch.forms).each entry.2

def texts (name : String) : PayloadForm :=
  .within .list (Form.within .string (fun _ => .accepted) (wrong name "a string")).each
    (wrong name "a list of strings")

def forms : List (String × PayloadForm) :=
  [("state", object "state" (member StateEntry.forms).each),
    ("new-src", object "new-src" source.each), ("mod-src", object "mod-src" source.each),
    ("del-src", texts "del-src"), ("subscribe", texts "subscribe")]

def form : Form (String × Value) Failure := .among forms fun name => .refused (.unknownCommand name)

end Command

namespace Message

def command (name payload : Value) : Verdict Failure :=
  Form.within .string (fun text => Command.form (text, payload))
    (fun other => .refused (.unknownCommand other.text)) name

/-- Items of which every one in an even place is the name of a command, with a payload for the
command behind it. -/
structure Alternate (items : List Value) : Prop where
  even : items.length % 2 = 0
  commands : ∀ index name payload, items[2 * index]? = some name →
    items[2 * index + 1]? = some payload → (command name payload).accepts

/-- What is wrong at the start of some items, where a name and its payload should be. -/
inductive Offends : List Value → Failure → Prop
  | lastText (text : String) : Offends [.string text] (.missingPayload text)
  | last {name : Value} : (∀ text, name ≠ .string text) → Offends [name] (.missingPayload name.text)
  | command {name payload : Value} {rest : List Value} {failure : Failure} :
      (command name payload).refuses failure → Offends (name :: payload :: rest) failure

def itemsForm : Form (List Value) Failure := fun items =>
  { accepts := Alternate items
    refuses := fun failure => ∃ before rest, items = before ++ rest ∧ Alternate before ∧
      Offends rest failure }

def form : Form Value Failure :=
  .within .list itemsForm fun value =>
    .refused (.invalidMessage ("message must be a JSON array, not " ++ value.text))

end Message

namespace Json.ValueForm

theorem judges_number : number.Judges Value.toFloat := by
  refine .within (fun _ _ => Value.number.inj) (fun n => .accepted n.toFloat) fun value other => ?_
  cases value with
  | number n => exact absurd rfl (other n)
  | _ => exact .refused _

theorem judges_flag : flag.Judges Value.toBool := by
  refine .within (fun _ _ => Value.bool.inj) (fun b => .accepted b) fun value other => ?_
  cases value with
  | bool b => exact absurd rfl (other b)
  | _ => exact .refused _

theorem judges_text : text.Judges Value.toText := by
  refine .within (fun _ _ => Value.string.inj) (fun s => .accepted s) fun value other => ?_
  cases value with
  | string s => exact absurd rfl (other s)
  | _ => exact .refused _

theorem judges_optional {β : Type} {form : ValueForm} {read : Value → Except Mismatch β}
    (judges : form.Judges read) : (optional form).Judges (Value.toOptional read) := by
  refine .within (fun _ _ _ => rfl) (fun _ => .accepted none) fun value other => ?_
  cases value with
  | null => exact absurd rfl (other ())
  | _ => exact (judges _).map some

theorem matches_counted {β : Type} {counts : List Nat} {expected : String}
    {ofList : List Float → Except Mismatch β}
    (fits : ∀ xs, xs.length ∈ counts → ∃ result, ofList xs = .ok result)
    (wrong : ∀ xs, xs.length ∉ counts → ofList xs = .error (.wrongCount expected xs.length))
    {items : List Value} {xs : List Float} (same : xs.length = items.length) :
    (counted counts expected items).Matches (ofList xs) where
  ok listed := fits xs (same ▸ listed)
  error _ := by
    rintro ⟨missing, rfl⟩
    rw [← same] at missing ⊢
    exact wrong xs missing
  total := (Classical.em _).imp_right fun missing => ⟨_, missing, rfl⟩

theorem judges_numbers {β : Type} {counts : List Nat} {expected : String}
    {ofList : List Float → Except Mismatch β}
    (fits : ∀ xs, xs.length ∈ counts → ∃ result, ofList xs = .ok result)
    (wrong : ∀ xs, xs.length ∉ counts → ofList xs = .error (.wrongCount expected xs.length)) :
    (numbers counts expected).Judges fun value => value.toFloats >>= ofList := by
  refine .within (fun _ _ => Value.list.inj) (fun items => ?_) fun value other => ?_
  · refine (judges_number.mapM items).bind fun xs ran => matches_counted fits wrong ?_
    have units : xs.map (fun _ => ()) = items.map fun _ => () :=
      map_of_mapM (fun _ _ _ => rfl) ran
    simpa using congrArg List.length units
  · cases value with
    | list items => exact absurd rfl (other items)
    | _ => exact .refused _

theorem judges_point : point.Judges Point.ofValue := by
  refine judges_numbers (fun xs counted => ?_) fun xs other => ?_
  · match xs, counted with
    | [x, y], _ => exact ⟨_, rfl⟩
    | [x, y, z], _ => exact ⟨_, rfl⟩
  · rw [Point.ofList]
    · rintro x y rfl
      exact other (by simp)
    · rintro x y z rfl
      exact other (by simp)

theorem judges_rotor : rotor.Judges Rotor.ofValue := by
  refine judges_numbers (fun xs counted => ?_) fun xs other => ?_
  · match xs, counted with
    | [x, y, z, w], _ => exact ⟨_, rfl⟩
  · rw [Rotor.ofList]
    rintro x y z w rfl
    exact other (by simp)

end Json.ValueForm

namespace Loudspeaker

theorem judges_addMember (draft : Draft) : (member parts).Judges draft.addMember := by
  refine .among_cons (fun value => (judges_point value).bind_pure _) ?_ (by decide)
  refine .among_cons (fun value => (judges_rotor value).bind_pure _) ?_ (by decide)
  refine .among_cons (fun value => (judges_optional judges_text value).bind_pure _) ?_ (by decide)
  exact .among_nil fun _ => .accepted draft

theorem isSome_pos_of_addMember {draft next : Draft} {member : String × Value}
    (ran : draft.addMember member = .ok next) :
    next.pos.isSome = true ↔ member.1 = "pos" ∨ draft.pos.isSome = true := by
  rw [Draft.addMember] at ran
  split at ran
  · next same =>
    obtain ⟨point, _, ran⟩ := ok_of_bind ran
    cases ran
    exact iff_of_true rfl (.inl same)
  · next other =>
    have kept : next.pos = draft.pos := by
      split at ran
      · obtain ⟨rotor, _, ran⟩ := ok_of_bind ran
        cases ran
        rfl
      split at ran
      · obtain ⟨model, _, ran⟩ := ok_of_bind ran
        cases ran
        rfl
      · cases ran
        rfl
    rw [kept, or_iff_right other]

theorem isSome_pos_of_members {draft final : Draft} {members : List (String × Value)}
    (ran : members.foldlM Draft.addMember draft = .ok final) :
    final.pos.isSome = true ↔ (∃ place, ("pos", place) ∈ members) ∨ draft.pos.isSome = true := by
  induction members generalizing draft with
  | nil =>
      cases ran
      simp
  | cons member rest ih =>
      rw [List.foldlM_cons] at ran
      obtain ⟨next, first, later⟩ := ok_of_bind ran
      rw [ih later, isSome_pos_of_addMember first, ← or_assoc]
      refine or_congr_left ?_
      obtain ⟨key, value⟩ := member
      simp [eq_comm, or_comm, exists_or]

theorem matches_finish {members : List (String × Value)} {draft : Draft}
    (known : draft.pos.isSome = true ↔ ∃ place, ("pos", place) ∈ members) :
    (hasPosition members).Matches (draft.finish (.missingField "pos")) := by
  rw [Draft.finish]
  cases held : draft.pos with
  | none =>
      have absent : ¬ ∃ place, ("pos", place) ∈ members := by simp [← known, held]
      refine ⟨fun given => absurd given absent, ?_, .inr ⟨_, not_exists.1 absent, rfl⟩⟩
      rintro why ⟨_, rfl⟩
      rfl
  | some pos =>
      have given : ∃ place, ("pos", place) ∈ members := by simp [← known, held]
      refine ⟨fun _ => ⟨_, rfl⟩, ?_, .inl given⟩
      rintro why ⟨absent, _⟩
      exact absurd given (not_exists.2 absent)

def orMissing (form : ValueForm) : Form (Option Value) Mismatch
  | none => .accepted
  | some value => form value

theorem matches_orMissing {β : Type} {form : ValueForm} {read : Value → Except Mismatch β}
    (judges : form.Judges read) (item : Option Value) :
    (orMissing form item).Matches (item.mapM read) := by
  cases item with
  | none => exact .accepted none
  | some value => exact (judges value).map some

theorem each_inPlace (items : List Value) : inPlace.each (items.zip parts) =
    (orMissing point items[0]?).andThen
      ((orMissing rotor items[1]?).andThen (orMissing (.optional text) items[2]?)) := by
  match items with
  | [] => simp [orMissing, Form.each_nil, Verdict.accepted_andThen]
  | [pos] =>
      simp [parts, inPlace, orMissing, Form.each_cons, Form.each_nil, Verdict.accepted_andThen]
  | [pos, rot] => simp [parts, inPlace, orMissing, Form.each_cons, Form.each_nil]
  | pos :: rot :: model :: rest =>
      simp [parts, inPlace, orMissing, Form.each_cons, Form.each_nil, Verdict.andThen_accepted]

theorem matches_fewParts {items : List Value} {draft : Draft}
    (known : draft.pos.isSome = items[0]?.isSome) :
    (fewParts items).Matches (do
      let whole ← draft.finish (.tooShort 0 (title ++ " with 3 elements"))
      if 3 < items.length then .error (.tooLong items.length) else pure whole) := by
  rw [Draft.finish]
  cases items with
  | nil =>
      have absent : draft.pos = none := by simpa using known
      rw [absent]
      refine ⟨fun few => absurd few.1 (by decide), ?_, .inr ⟨_, .inl ⟨rfl, rfl⟩⟩⟩
      rintro why (⟨_, rfl⟩ | ⟨many, _⟩)
      · rfl
      · exact absurd many (by decide)
  | cons first rest =>
      obtain ⟨pos, given⟩ := Option.isSome_iff_exists.1 (known.trans rfl)
      rw [given]
      by_cases many : 3 < (first :: rest).length
      · refine ⟨fun few => absurd many (Nat.not_lt.2 few.2), ?_, .inr ⟨_, .inr ⟨many, rfl⟩⟩⟩
        rintro why (⟨impossible, _⟩ | ⟨_, rfl⟩)
        · cases impossible
        · exact if_pos many
      · refine ⟨fun _ => ⟨_, if_neg many⟩, ?_, .inl ⟨Nat.succ_pos _, Nat.not_lt.1 many⟩⟩
        rintro why (⟨impossible, _⟩ | ⟨more, _⟩)
        · cases impossible
        · exact absurd more many

theorem matches_ofItems (items : List Value) :
    ((inPlace.each (items.zip parts)).andThen (fewParts items)).Matches (ofItems items) := by
  rw [each_inPlace, Verdict.andThen_assoc, Verdict.andThen_assoc]
  refine (matches_orMissing judges_point _).bind fun pos given => ?_
  refine (matches_orMissing judges_rotor _).bind fun rot _ => ?_
  refine (matches_orMissing (judges_optional judges_text) _).bind fun model _ => ?_
  refine matches_fewParts ?_
  cases items with
  | nil =>
      cases given
      rfl
  | cons first rest =>
      obtain ⟨point, _, same⟩ := ok_of_map given
      cases same
      rfl

theorem judges_ofValue : form.Judges ofValue := by
  intro value
  cases value with
  | object members =>
      rw [form, Form.within_shape fun _ _ => Value.object.inj]
      refine (Form.Judges.foldlM judges_addMember {} members).bind fun draft ran => ?_
      refine matches_finish ?_
      simpa using isSome_pos_of_members ran
  | list items =>
      rw [form, Form.within_other nofun, Form.within_shape fun _ _ => Value.list.inj]
      exact matches_ofItems items
  | _ =>
      rw [form, Form.within_other nofun, Form.within_other nofun]
      exact .refused _

theorem judges_listOfValue : (listOf form.each).Judges listOfValue := by
  refine .within (fun _ _ => Value.list.inj) judges_ofValue.mapM fun value other => ?_
  cases value with
  | list items => exact absurd rfl (other items)
  | _ => exact .refused _

end Loudspeaker

theorem StateEntry.judges_decode :
    (Command.member StateEntry.forms).Judges fun member => StateEntry.decode member.1 member.2 := by
  have reads : (ValueForm.member forms).Judges fun member => read member.1 member.2 := by
    refine .among_cons (fun value => (Loudspeaker.judges_listOfValue value).map _) ?_ (by decide)
    refine .among_cons (fun value => (judges_point value).map _) ?_ (by decide)
    refine .among_cons (fun value => (judges_rotor value).map _) ?_ (by decide)
    refine .among_cons (fun value => (judges_point value).map _) ?_ (by decide)
    refine .among_cons (fun value => (judges_rotor value).map _) ?_ (by decide)
    exact .among_nil fun member => .accepted (StateEntry.other member.1 member.2)
  exact fun member => (reads member).mapError _

theorem Source.Patch.judges_addMember (patch : Patch) :
    (ValueForm.member forms).Judges patch.addMember := by
  refine .among_cons (fun value => (judges_point value).bind_pure _) ?_ (by decide)
  refine .among_cons (fun value => (judges_rotor value).bind_pure _) ?_ (by decide)
  refine .among_cons (fun value => (judges_flag value).bind_pure _) ?_ (by decide)
  refine .among_cons (fun value => (judges_text value).bind_pure _) ?_ (by decide)
  refine .among_cons (fun value => (judges_text value).bind_pure _) ?_ (by decide)
  refine .among_cons (fun value => (judges_number value).bind_pure _) ?_ (by decide)
  refine .among_cons (fun value => (judges_flag value).bind_pure _) ?_ (by decide)
  refine .among_cons (fun value => (judges_flag value).bind_pure _) ?_ (by decide)
  exact .among_nil fun _ => .accepted patch

theorem Source.Patch.judges_decode : (Command.member forms).each.Judges decode :=
  .foldlM (fun patch member => (judges_addMember patch member).mapError _) {}

namespace Command

theorem matches_expectMembers {β : Type} {name : String}
    {members : Form (List (String × Value)) Failure}
    {more : List (String × Value) → Except Failure β} (judges : members.Judges more)
    (payload : Value) :
    (object name members payload).Matches (expectMembers name payload >>= more) := by
  cases payload with
  | object held =>
      rw [object, Form.within_shape fun _ _ => Value.object.inj]
      exact judges held
  | _ =>
      rw [object, Form.within_other nofun]
      exact .refused _

theorem judges_decodeBatch (name : String) :
    (object name source.each).Judges (decodeBatch name) := by
  refine fun payload => matches_expectMembers (Form.Judges.mapM fun entry => ?_) payload
  refine matches_expectMembers (fun attributes => ?_) entry.2
  exact (Source.Patch.judges_decode attributes).bind_pure (entry.1, ·)

theorem judges_decodeText (name : String) :
    (Form.within .string (fun _ => .accepted) (wrong name "a string")).Judges
      (decodeText name) := by
  refine .within (fun _ _ => Value.string.inj) (fun text => .accepted text) fun value other => ?_
  cases value with
  | string text => exact absurd rfl (other text)
  | _ => exact .refused _

theorem judges_decodeTexts (name : String) : (texts name).Judges (decodeTexts name) := by
  refine .within (fun _ _ => Value.list.inj) (judges_decodeText name).mapM fun value other => ?_
  cases value with
  | list items => exact absurd rfl (other items)
  | _ => exact .refused _

theorem judges_decode : form.Judges fun pair => decode pair.1 pair.2 := by
  refine .among_cons (fun payload => ?_) ?_ (by decide)
  · refine matches_expectMembers (fun members => ?_) payload
    exact (StateEntry.judges_decode.mapM members).bind_pure Command.state
  refine .among_cons (fun payload => (judges_decodeBatch "new-src" payload).map _) ?_ (by decide)
  refine .among_cons (fun payload => (judges_decodeBatch "mod-src" payload).map _) ?_ (by decide)
  refine .among_cons (fun payload => (judges_decodeTexts "del-src" payload).map _) ?_ (by decide)
  refine .among_cons (fun payload => (judges_decodeTexts "subscribe" payload).map _) ?_ (by decide)
  exact .among_nil fun pair => .refused (Failure.unknownCommand pair.1)

end Command

namespace Message

theorem alternate_nil : Alternate [] := ⟨rfl, nofun⟩

theorem not_alternate_singleton (name : Value) : ¬ Alternate [name] := by
  rintro ⟨even, _⟩
  cases even

theorem alternate_cons {name payload : Value} {rest : List Value} :
    Alternate (name :: payload :: rest) ↔ (command name payload).accepts ∧ Alternate rest := by
  have length : (name :: payload :: rest).length % 2 = rest.length % 2 :=
    Nat.add_mod_right rest.length 2
  constructor
  · rintro ⟨even, commands⟩
    refine ⟨commands 0 name payload rfl rfl, length.symm.trans even, fun index => ?_⟩
    exact commands (index + 1)
  · rintro ⟨first, even, commands⟩
    refine ⟨length.trans even, fun index => ?_⟩
    cases index with
    | zero =>
        rintro _ _ ⟨⟩ ⟨⟩
        exact first
    | succ index => exact commands index

theorem itemsForm_nil : itemsForm [] = .accepted := by
  ext failure
  · exact iff_of_true alternate_nil trivial
  · refine iff_of_false ?_ id
    rintro ⟨before, rest, split, _, offends⟩
    obtain ⟨_, rfl⟩ := List.append_eq_nil_iff.1 split.symm
    cases offends

theorem itemsForm_singleton (name : Value) :
    itemsForm [name] = .refused (.missingPayload (label name)) := by
  ext failure
  · exact iff_of_false (not_alternate_singleton name) id
  · constructor
    · rintro ⟨before, rest, split, alternate, offends⟩
      match before with
      | [] =>
          cases split
          cases offends with
          | lastText text => rfl
          | last other =>
              cases name with
              | string text => exact absurd rfl (other text)
              | _ => rfl
      | [first] => exact absurd alternate (not_alternate_singleton first)
      | first :: second :: before => cases split
    · rintro rfl
      refine ⟨[], [name], rfl, alternate_nil, ?_⟩
      cases name with
      | string text => exact .lastText text
      | _ => exact .last nofun

theorem itemsForm_cons (name payload : Value) (rest : List Value) :
    itemsForm (name :: payload :: rest) = (command name payload).andThen (itemsForm rest) := by
  ext failure
  · exact alternate_cons
  · constructor
    · rintro ⟨before, others, split, alternate, offends⟩
      match before with
      | [] =>
          cases split
          cases offends with
          | command refused => exact .inl refused
      | [other] => exact absurd alternate (not_alternate_singleton other)
      | first :: second :: before =>
          cases split
          obtain ⟨accepted, alternate⟩ := alternate_cons.1 alternate
          exact .inr ⟨accepted, before, others, rfl, alternate, offends⟩
    · rintro (refused | ⟨accepted, before, others, rfl, alternate, offends⟩)
      · exact ⟨[], _, rfl, alternate_nil, .command refused⟩
      · exact ⟨name :: payload :: before, others, rfl, alternate_cons.2 ⟨accepted, alternate⟩,
          offends⟩

theorem judges_ofItems : itemsForm.Judges ofItems := by
  intro items
  induction items using ofItems.induct with
  | case1 =>
      rw [itemsForm_nil]
      exact .accepted []
  | case2 name =>
      rw [itemsForm_singleton]
      exact .refused _
  | case3 name payload rest ih =>
      rw [itemsForm_cons, command, Form.within_shape fun _ _ => Value.string.inj]
      exact (Command.judges_decode (name, payload)).bind fun first _ => ih.bind_pure (first :: ·)
  | case4 name payload rest other =>
      rw [itemsForm_cons, command, Form.within_other other, Verdict.refused_andThen, ofItems]
      · exact .refused _
      · exact other

theorem judges_ofValue : form.Judges ofValue := by
  refine .within (fun _ _ => Value.list.inj) judges_ofItems fun value other => ?_
  cases value with
  | list items => exact absurd rfl (other items)
  | _ => exact .refused _

/-- A message is read exactly if it is of the form of messages.  Otherwise it is refused for what is
wrong first: with the name that has no payload, the name that is none, or the payload that is not of
the form that its command asks for, and there again for what is wrong first. -/
theorem decode_grammar (value : Value) :
    ((∃ commands, ofValue value = .ok commands) ↔ (form value).accepts) ∧
      (∀ failure, ofValue value = .error failure ↔ (form value).refuses failure) ∧
      ∀ text, Value.parse text = .ok value →
        ((∃ commands, decode text = .ok commands) ↔ (form value).accepts) ∧
        ∀ failure, decode text = .error failure ↔ (form value).refuses failure := by
  have judged := judges_ofValue value
  refine ⟨judged.ok_iff, judged.error_iff, fun text parsed => ?_⟩
  rw [decode, parsed]
  exact ⟨judged.ok_iff, judged.error_iff⟩

theorem decode_grammar_first_fault :
    let text := "[\"del-src\",[\"a\"],\"state\",\x7b\"loudspeakers\":[[[0,1],[0,0,0,1],null]]," ++
      "\"ref-pos\":[1]\x7d,\"new-src\",[]]"
    let payload : Value := .object [("loudspeakers", .list [.list [.list [.number (.int 0),
      .number (.int 1)], .list [.number (.int 0), .number (.int 0), .number (.int 0),
      .number (.int 1)], .null]]), ("ref-pos", .list [.number (.int 1)])]
    let value : Value := .list [.string "del-src", .list [.string "a"], .string "state", payload,
      .string "new-src", .list []]
    let failure : Failure :=
      .invalidAttribute "ref-pos" "expected a list of 2 or 3 numbers, found 1"
    Value.parse text = .ok value ∧ decode text = .error failure ∧ (form value).refuses failure ∧
      ¬ (form value).accepts := by
  intro text payload value failure
  have parsed : Value.parse text = .ok value := by decide +kernel
  have refused : ofValue value = .error failure := by decide +kernel
  obtain ⟨accepts, refuses, ofText⟩ := decode_grammar value
  obtain ⟨_, refusesText⟩ := ofText text parsed
  have offends := (refuses failure).1 refused
  refine ⟨parsed, (refusesText failure).2 offends, offends, fun accepted => ?_⟩
  obtain ⟨commands, read⟩ := accepts.2 accepted
  cases read.symm.trans refused

end Message

end SoundScene
