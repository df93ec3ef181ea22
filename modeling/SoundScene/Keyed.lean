/-!
Lists of entries in ascending key order with one entry a key.  JSON objects and the sources of a
scene are kept this way, so that the order in which they are shown does not depend on the order in
which they were filled.  `Keyed.insert` and `Keyed.erase` keep the order; what they do to a look-up
is said by `find?_insert` and `find?_erase`.
-/

namespace SoundScene.Keyed

variable {α : Type}

/-- Keys ascend strictly, character by character. -/
def Ascending (entries : List (String × α)) : Prop :=
  entries.Pairwise fun first second => first.1 < second.1

def find? (key : String) : List (String × α) → Option α
  | [] => none
  | (other, value) :: rest => if other = key then some value else find? key rest

/-- Puts an entry in its place; an entry that has the key already is replaced. -/
def insert (key : String) (value : α) : List (String × α) → List (String × α)
  | [] => [(key, value)]
  | (other, held) :: rest =>
    if key < other then (key, value) :: (other, held) :: rest
    else if key = other then (key, value) :: rest
    else (other, held) :: insert key value rest

def erase (key : String) : List (String × α) → List (String × α)
  | [] => []
  | (other, held) :: rest => if other = key then rest else (other, held) :: erase key rest

/-- Enters a list of pairs one after another, so the last pair of a key stays. -/
def ofList (pairs : List (String × α)) : List (String × α) :=
  pairs.foldl (fun entries pair => insert pair.1 pair.2 entries) []

theorem not_lt_find? {key : String} {entries : List (String × α)} (ascending : Ascending entries)
    (below : ∀ entry ∈ entries, key < entry.1) : find? key entries = none := by
  induction entries with
  | nil => rfl
  | cons entry rest ih =>
    have first := below entry (by simp)
    have different : entry.1 ≠ key := fun equal => String.lt_irrefl key (equal ▸ first)
    simp only [find?, different, ↓reduceIte]
    exact ih (List.Pairwise.of_cons ascending) fun other member => below other (by simp [member])

theorem mem_keys_insert {key : String} {value : α} {entries : List (String × α)}
    {entry : String × α} (member : entry ∈ insert key value entries) :
    entry.1 = key ∨ entry ∈ entries := by
  induction entries with
  | nil => simp_all [insert]
  | cons first rest ih =>
    simp only [insert] at member
    split at member
    · rcases List.mem_cons.1 member with rfl | member
      · exact .inl rfl
      · exact .inr member
    · split at member
      · rcases List.mem_cons.1 member with rfl | member
        · exact .inl rfl
        · exact .inr (List.mem_cons_of_mem _ member)
      · rcases List.mem_cons.1 member with rfl | member
        · exact .inr (by simp)
        · exact (ih member).imp_right (List.mem_cons_of_mem _)

theorem ascending_insert {key : String} {value : α} {entries : List (String × α)}
    (ascending : Ascending entries) : Ascending (insert key value entries) := by
  induction entries with
  | nil => simp [insert, Ascending]
  | cons first rest ih =>
    have above : ∀ entry ∈ rest, first.1 < entry.1 := fun _ member =>
      List.rel_of_pairwise_cons ascending member
    have tail := List.Pairwise.of_cons ascending
    simp only [insert]
    split
    next less =>
      refine List.pairwise_cons.2 ⟨fun entry member => ?_, ascending⟩
      rcases List.mem_cons.1 member with rfl | member
      · exact less
      · exact String.lt_trans less (above entry member)
    next notLess =>
      split
      next equal =>
        subst equal
        exact List.pairwise_cons.2 ⟨fun entry member => above entry member, tail⟩
      next different =>
        refine List.pairwise_cons.2 ⟨fun entry member => ?_, ih tail⟩
        rcases mem_keys_insert member with equal | member
        · rw [equal]
          exact String.not_le.1 fun le =>
            different (String.le_antisymm le (String.not_lt.1 notLess))
        · exact above entry member

theorem ascending_ofList (pairs : List (String × α)) : Ascending (ofList pairs) := by
  suffices ∀ entries : List (String × α), Ascending entries →
      Ascending (pairs.foldl (fun entries pair => insert pair.1 pair.2 entries) entries) from
    this [] List.Pairwise.nil
  induction pairs with
  | nil => exact fun entries ascending => ascending
  | cons pair rest ih => exact fun entries ascending => ih _ (ascending_insert ascending)

theorem sublist_erase (key : String) (entries : List (String × α)) :
    (erase key entries).Sublist entries := by
  induction entries with
  | nil => simp [erase]
  | cons first rest ih =>
    simp only [erase]
    split
    · exact List.sublist_cons_self ..
    · exact ih.cons_cons _

theorem ascending_erase {key : String} {entries : List (String × α)}
    (ascending : Ascending entries) : Ascending (erase key entries) :=
  List.Pairwise.sublist (sublist_erase key entries) ascending

theorem find?_insert (key other : String) (value : α) (entries : List (String × α)) :
    find? other (insert key value entries) =
      if key = other then some value else find? other entries := by
  induction entries with
  | nil => simp [insert, find?]
  | cons first rest ih =>
    simp only [insert]
    split
    · simp [find?]
    · split
      next equal =>
        by_cases same : key = other
        · simp [find?, same]
        · have : first.1 ≠ other := fun h => same (equal.trans h)
          simp [find?, same, this]
      next different =>
        simp only [find?, ih]
        by_cases same : first.1 = other
        · have : key ≠ other := fun equal => different (equal.trans same.symm)
          simp [same, this]
        · simp [same]

theorem find?_erase {key other : String} {entries : List (String × α)}
    (ascending : Ascending entries) :
    find? other (erase key entries) = if key = other then none else find? other entries := by
  induction entries with
  | nil => simp [erase, find?]
  | cons first rest ih =>
    have tail := List.Pairwise.of_cons ascending
    simp only [erase]
    split
    next equal =>
      by_cases same : key = other
      · subst same
        simp only [↓reduceIte]
        exact not_lt_find? tail fun entry member =>
          equal ▸ List.rel_of_pairwise_cons ascending member
      · have : first.1 ≠ other := fun h => same (equal ▸ h)
        simp [find?, same, this]
    next different =>
      simp only [find?, ih tail]
      by_cases same : first.1 = other
      · have : key ≠ other := fun equal => different (same.trans equal.symm)
        simp [same, this]
      · simp [same]

end SoundScene.Keyed

namespace SoundScene

/-- Entries in ascending key order, with the order carried along. -/
structure Table (α : Type) where
  entries : List (String × α)
  ascending : Keyed.Ascending entries

namespace Table

variable {α : Type}

instance [DecidableEq α] : DecidableEq (Table α) := fun first second =>
  if same : first.entries = second.entries then
    isTrue (by cases first; cases second; simp_all)
  else isFalse fun equal => same (congrArg entries equal)

def empty : Table α := ⟨[], List.Pairwise.nil⟩

instance : Inhabited (Table α) := ⟨empty⟩

instance : EmptyCollection (Table α) := ⟨empty⟩

def find? (table : Table α) (key : String) : Option α := Keyed.find? key table.entries

def contains (table : Table α) (key : String) : Bool := (table.find? key).isSome

def insert (table : Table α) (key : String) (value : α) : Table α :=
  ⟨Keyed.insert key value table.entries, Keyed.ascending_insert table.ascending⟩

def erase (table : Table α) (key : String) : Table α :=
  ⟨Keyed.erase key table.entries, Keyed.ascending_erase table.ascending⟩

def values (table : Table α) : List α := table.entries.map (·.2)

def size (table : Table α) : Nat := table.entries.length

theorem find?_insert (table : Table α) (key other : String) (value : α) :
    (table.insert key value).find? other = if key = other then some value else table.find? other :=
  Keyed.find?_insert ..

theorem find?_erase (table : Table α) (key other : String) :
    (table.erase key).find? other = if key = other then none else table.find? other :=
  Keyed.find?_erase table.ascending

end Table

end SoundScene
