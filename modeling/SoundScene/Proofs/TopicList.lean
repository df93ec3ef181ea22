import Mathlib.Data.List.Forall2
import SoundScene.Proofs.CommandText
import SoundScene.Proofs.Pump
import SoundScene.Settings

/-!
Lists of topics in a text.  A text is cut at its commas in one way only, and its topics are the
pieces that are not blank, in their order and without the blanks around them; and a list of topics
is read back from the text that joins them (`topicList_exact`).  Settings that are accepted name at
least one topic, so the renderer is never asked for none.
-/

namespace SoundScene

namespace Text

def AllBlank (text : List Char) : Prop := ∀ c ∈ text, isBlank c = true

structure Trimmed (text : List Char) : Prop where
  head : ∀ c, text.head? = some c → isBlank c = false
  last : ∀ c, text.getLast? = some c → isBlank c = false

theorem AllBlank.reverse {text : List Char} (blank : AllBlank text) : AllBlank text.reverse :=
  fun c member => blank c (List.mem_reverse.1 member)

theorem trimEnd_eq (text : List Char) : trimEnd text = (trimStart text.reverse).reverse := rfl

theorem trimStart_append {before word : List Char} (blank : AllBlank before)
    (head : ∀ c, word.head? = some c → isBlank c = false) : trimStart (before ++ word) = word := by
  rw [trimStart, List.dropWhile_append_of_pos blank]
  cases word with
  | nil => rfl
  | cons c rest => exact List.dropWhile_cons_of_neg (by simp [head c rfl])

theorem trimEnd_append {word after : List Char} (blank : AllBlank after)
    (last : ∀ c, word.getLast? = some c → isBlank c = false) : trimEnd (word ++ after) = word := by
  have turned : trimStart (after.reverse ++ word.reverse) = word.reverse := by
    refine trimStart_append blank.reverse fun c first => last c ?_
    rwa [List.head?_reverse] at first
  rw [trimEnd_eq, List.reverse_append, turned, List.reverse_reverse]

theorem exists_trimStart (text : List Char) : ∃ before, AllBlank before ∧
    text = before ++ trimStart text ∧
    ∀ c, (trimStart text).head? = some c → isBlank c = false := by
  refine ⟨text.takeWhile isBlank, fun c member => List.mem_takeWhile_imp member,
    List.takeWhile_append_dropWhile.symm, ?_⟩
  intro c first
  have stopped := List.head?_dropWhile_not isBlank text
  rw [trimStart] at first
  rw [first] at stopped
  exact stopped

theorem exists_trimEnd (text : List Char) : ∃ after, AllBlank after ∧
    text = trimEnd text ++ after ∧ ∀ c, (trimEnd text).getLast? = some c → isBlank c = false := by
  obtain ⟨before, blank, split, stopped⟩ := exists_trimStart text.reverse
  refine ⟨before.reverse, blank.reverse, ?_, ?_⟩
  · rw [trimEnd_eq, ← List.reverse_append, ← split, List.reverse_reverse]
  · intro c last
    rw [trimEnd_eq, List.getLast?_reverse] at last
    exact stopped c last

theorem trim_eq_iff {piece word : List Char} : trim piece = word ↔
    Trimmed word ∧ ∃ before after, AllBlank before ∧ AllBlank after ∧
      piece = before ++ word ++ after := by
  constructor
  · rintro rfl
    obtain ⟨before, blankBefore, split, head⟩ := exists_trimStart piece
    obtain ⟨after, blankAfter, tail, last⟩ := exists_trimEnd (trimStart piece)
    refine ⟨⟨?_, last⟩, before, after, blankBefore, blankAfter, ?_⟩
    · intro c first
      refine head c ?_
      rw [tail, List.head?_append]
      rw [trim] at first
      rw [first]
      rfl
    · rw [List.append_assoc]
      rw [trim, ← tail]
      exact split
  · rintro ⟨trimmed, before, after, blankBefore, blankAfter, rfl⟩
    cases word with
    | nil =>
        have blank : AllBlank (before ++ after) := by
          intro c member
          exact (List.mem_append.1 member).elim (blankBefore c) (blankAfter c)
        have start : trimStart (before ++ after ++ []) = [] := trimStart_append blank nofun
        rw [List.append_nil] at start ⊢
        rw [trim, start]
        rfl
    | cons c rest =>
        have start : trimStart (before ++ (c :: rest ++ after)) = c :: rest ++ after :=
          trimStart_append blankBefore trimmed.head
        rw [List.append_assoc, trim, start]
        exact trimEnd_append blankAfter trimmed.last

theorem trim_split (piece : List Char) : Trimmed (trim piece) ∧
    ∃ before after, AllBlank before ∧ AllBlank after ∧ piece = before ++ trim piece ++ after :=
  trim_eq_iff.1 rfl

theorem trim_eq_nil_iff {text : List Char} : trim text = [] ↔ AllBlank text := by
  rw [trim_eq_iff]
  constructor
  · rintro ⟨_, before, after, blankBefore, blankAfter, rfl⟩ c member
    rw [List.append_nil] at member
    exact (List.mem_append.1 member).elim (blankBefore c) (blankAfter c)
  · intro blank
    exact ⟨⟨nofun, nofun⟩, text, [], blank, nofun, by simp⟩

instance (text : List Char) : Decidable (AllBlank text) :=
  decidable_of_iff (text.all isBlank = true) List.all_eq_true

theorem pieces_eq_splitOn (mark : Char) (text : List Char) :
    pieces mark text = text.splitOn mark := by
  induction text with
  | nil => rfl
  | cons c rest ih =>
      rw [pieces, ih, List.splitOn_cons_eq_if_modifyHead]
      by_cases here : c = mark
      · simp [here]
      · rw [if_neg here, if_neg (by simpa using here)]
        cases cut : rest.splitOn mark with
        | nil => exact absurd cut (List.splitOn_ne_nil mark rest)
        | cons piece more => rfl

theorem not_mem_of_mem_pieces {mark : Char} {text piece : List Char}
    (member : piece ∈ pieces mark text) : mark ∉ piece := by
  induction text generalizing piece with
  | nil =>
      rw [pieces, List.mem_singleton] at member
      exact member ▸ List.not_mem_nil
  | cons c rest ih =>
      rw [pieces] at member
      split at member
      · rcases List.mem_cons.1 member with rfl | member
        · exact List.not_mem_nil
        · exact ih member
      · rename_i other
        split at member
        · rename_i nothing
          exact absurd nothing (pieces_ne_nil mark rest)
        · rename_i first more cut
          rcases List.mem_cons.1 member with rfl | member
          · rw [List.mem_cons, not_or]
            exact ⟨Ne.symm other, ih (cut ▸ List.mem_cons_self)⟩
          · exact ih (cut ▸ List.mem_cons_of_mem _ member)

end Text

open Text

/-- A text is cut at all its commas into some pieces. -/
structure IsCut (pieces : List String) (text : String) : Prop where
  some : pieces ≠ []
  unmarked : ∀ piece ∈ pieces, ',' ∉ piece.toList
  joined : ",".intercalate pieces = text

/-- What a list of topics can hold: a text with no comma in it and no blanks at its ends. -/
structure IsTopic (topic : String) : Prop where
  nonempty : topic ≠ ""
  unmarked : ',' ∉ topic.toList
  trimmed : Trimmed topic.toList

def Pads (piece topic : String) : Prop :=
  ∃ before after : String, AllBlank before.toList ∧ AllBlank after.toList ∧
    piece = before ++ topic ++ after

theorem IsCut.pieces_eq {cut : List String} {text : String} (isCut : IsCut cut text) :
    pieces ',' text.toList = cut.map String.toList := by
  rw [pieces_eq_splitOn, ← isCut.joined, String.toList_intercalate]
  refine List.splitOn_intercalate ',' ?_ (by simpa using isCut.some)
  intro chars member
  obtain ⟨piece, listed, rfl⟩ := List.mem_map.1 member
  exact isCut.unmarked piece listed

theorem isCut_pieces (text : String) :
    IsCut ((pieces ',' text.toList).map String.ofList) text where
  some := by simpa using pieces_ne_nil ',' text.toList
  unmarked := by
    intro piece member
    obtain ⟨chars, listed, rfl⟩ := List.mem_map.1 member
    rw [String.toList_ofList]
    exact not_mem_of_mem_pieces listed
  joined := by
    apply String.toList_inj.1
    rw [String.toList_intercalate, List.map_map]
    simp only [Function.comp_def, String.toList_ofList, List.map_id', pieces_eq_splitOn]
    exact List.intercalate_splitOn ','

theorem IsCut.unique {cut other : List String} {text : String} (isCut : IsCut cut text)
    (same : IsCut other text) : cut = other := by
  have chars : cut.map String.toList = other.map String.toList :=
    isCut.pieces_eq.symm.trans same.pieces_eq
  exact List.map_injective_iff.2 (fun _ _ => String.toList_inj.1) chars

theorem IsCut.topicList_eq {cut : List String} {text : String} (isCut : IsCut cut text) :
    topicList text = (cut.filter fun piece => ¬ AllBlank piece.toList).map fun piece =>
      String.ofList (trim piece.toList) := by
  rw [topicList, isCut.pieces_eq, List.map_map, List.filter_map, List.map_map]
  refine congrArg _ (List.filter_congr fun piece member => ?_)
  rw [Bool.eq_iff_iff]
  simp [← trim_eq_nil_iff]

theorem pads_trim (piece : String) : Pads piece (String.ofList (trim piece.toList)) := by
  obtain ⟨_, before, after, blankBefore, blankAfter, split⟩ := trim_split piece.toList
  refine ⟨.ofList before, .ofList after, ?_, ?_, ?_⟩
  · rwa [String.toList_ofList]
  · rwa [String.toList_ofList]
  · apply String.toList_inj.1
    simpa using split

theorem isTopic_trim {piece : String} (unmarked : ',' ∉ piece.toList)
    (word : ¬ AllBlank piece.toList) : IsTopic (String.ofList (trim piece.toList)) where
  nonempty := by
    intro empty
    exact word (trim_eq_nil_iff.1 (by simpa using congrArg String.toList empty))
  unmarked := by
    obtain ⟨_, before, after, _, _, split⟩ := trim_split piece.toList
    rw [String.toList_ofList]
    intro member
    rw [split] at unmarked
    exact unmarked (by simp [member])
  trimmed := by
    rw [String.toList_ofList]
    exact (trim_split piece.toList).1

theorem isTopic_of_mem {text topic : String} (member : topic ∈ topicList text) :
    IsTopic topic := by
  rw [(isCut_pieces text).topicList_eq] at member
  obtain ⟨piece, listed, rfl⟩ := List.mem_map.1 member
  obtain ⟨listed, word⟩ := List.mem_filter.1 listed
  exact isTopic_trim ((isCut_pieces text).unmarked piece listed) (of_decide_eq_true word)

theorem pads_topicList {cut : List String} {text : String} (isCut : IsCut cut text) :
    List.Forall₂ Pads (cut.filter fun piece => ¬ AllBlank piece.toList) (topicList text) := by
  rw [isCut.topicList_eq, List.forall₂_map_right_iff, List.forall₂_same]
  exact fun piece _ => pads_trim piece

structure Padded where
  before : String
  topic : String
  after : String

namespace Padded

structure WellFormed (padded : Padded) : Prop where
  before : AllBlank padded.before.toList
  topic : IsTopic padded.topic
  after : AllBlank padded.after.toList

def text (padded : Padded) : String := padded.before ++ padded.topic ++ padded.after

theorem comma_not_blank {text : List Char} (blank : AllBlank text) : ',' ∉ text := by
  intro member
  exact absurd (blank ',' member) (by decide)

theorem WellFormed.trim_eq {padded : Padded} (formed : padded.WellFormed) :
    trim padded.text.toList = padded.topic.toList := by
  refine trim_eq_iff.2 ⟨formed.topic.trimmed, _, _, formed.before, formed.after, ?_⟩
  simp [text]

theorem WellFormed.unmarked {padded : Padded} (formed : padded.WellFormed) :
    ',' ∉ padded.text.toList := by
  simp [text, comma_not_blank formed.before, comma_not_blank formed.after, formed.topic.unmarked]

theorem WellFormed.word {padded : Padded} (formed : padded.WellFormed) :
    ¬ AllBlank padded.text.toList := by
  rw [← trim_eq_nil_iff, formed.trim_eq]
  simpa using formed.topic.nonempty

end Padded

theorem topicList_join {row : List Padded} (formed : ∀ padded ∈ row, padded.WellFormed) :
    topicList (",".intercalate (row.map Padded.text)) = row.map Padded.topic := by
  by_cases none : row = []
  · subst none
    rfl
  · have isCut : IsCut (row.map Padded.text) (",".intercalate (row.map Padded.text)) := by
      refine ⟨by simpa using none, ?_, rfl⟩
      intro piece member
      obtain ⟨padded, listed, rfl⟩ := List.mem_map.1 member
      exact (formed padded listed).unmarked
    have kept : ((row.map Padded.text).filter fun piece => ¬ AllBlank piece.toList) =
        row.map Padded.text := by
      refine List.filter_eq_self.2 fun piece member => ?_
      obtain ⟨padded, listed, rfl⟩ := List.mem_map.1 member
      exact decide_eq_true (formed padded listed).word
    rw [isCut.topicList_eq, kept, List.map_map]
    refine List.map_congr_left fun padded member => ?_
    simp [(formed padded member).trim_eq]

namespace Settings

theorem topicsOf_spec (text : Option String) :
    topicsOf text ≠ [] ∧ ∀ topic ∈ topicsOf text, IsTopic topic := by
  have listed : defaultTopics = topicList "scene,renderer" := by decide +kernel
  have default : defaultTopics ≠ [] ∧ ∀ topic ∈ defaultTopics, IsTopic topic := by
    refine ⟨by simp [defaultTopics], ?_⟩
    rw [listed]
    exact fun topic => isTopic_of_mem
  cases text with
  | none => exact default
  | some text =>
      rw [topicsOf]
      split
      · exact default
      · rename_i some
        exact ⟨by simpa using some, fun topic => isTopic_of_mem⟩

theorem topics_of_ofVariables {bindings : EnvFile.Variables} {settings : Settings}
    (made : ofVariables bindings = .ok settings) :
    settings.topics = topicsOf (EnvFile.value? bindings "SSR_SUBSCRIPTIONS") := by
  rw [ofVariables] at made
  obtain ⟨listen, _, made⟩ := ok_of_bind made
  cases made
  rfl

end Settings

namespace Link

theorem sent_serve (hub : Hub) (topics : List String) (steps : List LinkStep) :
    ∃ later, (serve hub topics none steps).sent = greeting topics :: later := by
  obtain ⟨live, dead, _, same, _, up⟩ := exists_live ((opened hub).greet topics none) steps
  obtain ⟨first, later, _, sent, greets, _⟩ := (pumps_greeted up).sent.order
  rw [greets.encoded] at sent
  exact ⟨later, (congrArg Link.sent same).trans sent⟩

end Link

/-- The topics of a text are read exactly, and they come back from a text that lists them.  So all
settings that are accepted name topics, and the first message to the renderer asks for these. -/
theorem topicList_exact :
    (∀ text, (∀ topic ∈ topicList text, IsTopic topic) ∧ (∃! cut, IsCut cut text) ∧
      ∀ cut, IsCut cut text →
        List.Forall₂ Pads (cut.filter fun piece => ¬ AllBlank piece.toList) (topicList text)) ∧
    (∀ row : List Padded, (∀ padded ∈ row, padded.WellFormed) →
      topicList (",".intercalate (row.map Padded.text)) = row.map Padded.topic) ∧
    ∀ bindings file settings, Settings.load bindings file = .ok settings →
      settings.topics ≠ [] ∧ (∀ topic ∈ settings.topics, IsTopic topic) ∧
        Message.decode (Link.greeting settings.topics) = .ok [.subscribe settings.topics] ∧
        ∀ hub steps,
          (∃ later, (Link.serve hub settings.topics none steps).sent =
            Link.greeting settings.topics :: later) ∧
          ∀ reason, (Link.serve hub settings.topics (some reason) steps).sent = [] := by
  refine ⟨?reads, fun row => topicList_join, ?settings⟩
  case reads =>
    intro text
    have cut := isCut_pieces text
    exact ⟨fun topic => isTopic_of_mem, ⟨_, cut, fun other same => same.unique cut⟩,
      fun cut => pads_topicList⟩
  case settings =>
    intro bindings file settings loaded
    have named := Settings.topics_of_ofVariables loaded
    obtain ⟨some, topics⟩ := Settings.topicsOf_spec _
    rw [← named] at some topics
    refine ⟨some, topics, (Link.greets_greeting _).decoded, fun hub steps => ⟨Link.sent_serve .., ?_⟩⟩
    intro reason
    have ended : Link.serve hub settings.topics (.some reason) steps =
        (Link.opened hub).fail reason :=
      Link.run_of_ended rfl steps
    rw [ended]
    rfl

theorem topicList_exact_padded :
    let text := "\u3000scene ,\t,cpu load\n"
    let cut := ["\u3000scene ", "\t", "cpu load\n"]
    let row : List Padded := [⟨"\u3000", "scene", " "⟩, ⟨"", "cpu load", "\u2003\n"⟩]
    let bindings := [("SSR_SUBSCRIPTIONS", " ,\u00a0")]
    let settings : Settings := ⟨Settings.defaultListen, Settings.defaultUrl, none, 5000,
      ["scene", "renderer"], 1024, false⟩
    IsCut cut text ∧ topicList text = ["scene", "cpu load"] ∧
      List.Forall₂ Pads ["\u3000scene ", "cpu load\n"] (topicList text) ∧
      (∀ padded ∈ row, padded.WellFormed) ∧
      topicList "\u3000scene ,cpu load\u2003\n" = ["scene", "cpu load"] ∧
      Settings.load bindings none = .ok settings ∧ settings.topics ≠ [] ∧
      Message.decode (Link.greeting settings.topics) = .ok [.subscribe ["scene", "renderer"]] := by
  intro text cut row bindings settings
  obtain ⟨reads, joins, accepted⟩ := topicList_exact
  have isCut : IsCut cut text := ⟨by decide, by decide, by decide⟩
  have formed : ∀ padded ∈ row, padded.WellFormed := by
    have scene : IsTopic "scene" := (reads "scene").1 "scene" (by decide)
    have load : IsTopic "cpu load" := (reads "cpu load").1 "cpu load" (by decide)
    intro padded member
    rcases List.mem_cons.1 member with rfl | member
    · exact ⟨by decide, scene, by decide⟩
    · rw [List.mem_singleton.1 member]
      exact ⟨by decide, load, by decide⟩
  have loaded : Settings.load bindings none = .ok settings := by decide +kernel
  obtain ⟨some, _, greets, _⟩ := accepted bindings none settings loaded
  exact ⟨isCut, by decide +kernel, (reads text).2.2 cut isCut, formed, joins row formed, loaded,
    some, greets⟩

end SoundScene
