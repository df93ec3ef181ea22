import SoundScene.Feed

/-!
Readers of a feed.  A feed keeps the end of what was published on it (`Keeps`), and each reader has
a place in that history.  A reader receives the item at its place, unless the item is not kept any
more (`receive_cases`), and nothing that others do moves its place (`next?_call`).
-/

namespace SoundScene

variable {α : Type}

inductive FeedCall (α : Type) where
  | publish (item : α)
  | subscribe (reader : String)
  | unsubscribe (reader : String)
  | receive (reader : String)
deriving DecidableEq, Repr

namespace FeedCall

def reader? : FeedCall α → Option String
  | .publish _ => none
  | .subscribe reader | .unsubscribe reader | .receive reader => some reader

def item? : FeedCall α → Option α
  | .publish item => some item
  | .subscribe _ | .unsubscribe _ | .receive _ => none

end FeedCall

namespace Feed

def call (feed : Feed α) : FeedCall α → Feed α
  | .publish item => (feed.publish item).2
  | .subscribe reader => feed.subscribe reader
  | .unsubscribe reader => (feed.unsubscribe reader).2
  | .receive reader => (feed.receive reader).2

def callAll (feed : Feed α) (calls : List (FeedCall α)) : Feed α := calls.foldl call feed

/-- How many items come before the one that a reader gets next. -/
def next? (feed : Feed α) (reader : String) : Option Nat :=
  (feed.readers.find? (·.1 = reader)).map (·.2)

/-- The feed keeps the end of a history. -/
structure Keeps (feed : Feed α) (history : List α) : Prop where
  published : feed.published = history.length
  kept : feed.kept = history.drop (history.length - feed.capacity)

variable {feed : Feed α} {history : List α} {reader other : String} {next : Nat}

theorem keeps_ofCapacity (capacity : Nat) : (ofCapacity capacity : Feed α).Keeps [] :=
  ⟨rfl, List.drop_nil.symm⟩

theorem Keeps.withReaders (keeps : feed.Keeps history) (readers : List (String × Nat)) :
    Keeps { feed with readers } history := ⟨keeps.published, keeps.kept⟩

theorem Keeps.oldest (keeps : feed.Keeps history) :
    feed.oldest = history.length - feed.capacity := by
  have length : feed.kept.length = history.length - (history.length - feed.capacity) := by
    rw [keeps.kept, List.length_drop]
  rw [Feed.oldest, keeps.published, length]
  omega

theorem Keeps.publish (keeps : feed.Keeps history) (heard : feed.readers ≠ []) (item : α) :
    (feed.publish item).2.Keeps (history ++ [item]) := by
  have some : feed.readers.isEmpty = false := List.isEmpty_eq_false_iff.2 heard
  have whole : feed.kept ++ [item] = (history ++ [item]).drop (history.length - feed.capacity) := by
    rw [keeps.kept, List.drop_append_of_le_length (by omega)]
  simp only [Feed.publish, some]
  constructor
  · simp [keeps.published]
  · simp only [Bool.false_eq_true, ↓reduceIte, whole, List.drop_drop, List.length_drop,
      List.length_append, List.length_singleton]
    congr 1
    omega

theorem exists_missed {start : Nat} (before : next ≤ start) (within : start ≤ history.length) :
    ∃ missed, missed.length = start - next ∧ history.drop next = missed ++ history.drop start := by
  refine ⟨(history.drop next).take (start - next), ?_, ?_⟩
  · rw [List.length_take, List.length_drop]
    omega
  · have later : (history.drop next).drop (start - next) = history.drop start := by
      rw [List.drop_drop, Nat.add_sub_cancel' before]
    rw [← later, List.take_append_drop]

theorem receive_of_next (keeps : feed.Keeps history) (reads : feed.next? reader = some next) :
    feed.receive reader =
      if next < history.length - feed.capacity then
        (.lost (history.length - feed.capacity - next),
          feed.setNext reader (history.length - feed.capacity))
      else match history[next]? with
        | some item => (.item item, feed.setNext reader (next + 1))
        | none => (.nothing, feed) := by
  obtain ⟨⟨name, place⟩, found, rfl⟩ := Option.map_eq_some_iff.1 reads
  rw [receive, found]
  dsimp only
  rw [keeps.published]
  split
  · rfl
  · rename_i near
    have there : feed.kept[place - feed.oldest]? = history[place]? := by
      rw [keeps.oldest, keeps.kept, List.getElem?_drop, Nat.add_sub_cancel' (Nat.le_of_not_lt near)]
    cases found : history[place]? with
    | none => simp only [there, found]
    | some item => simp only [there, found]

theorem receive_cases (keeps : feed.Keeps history) (reads : feed.next? reader = some next)
    (within : next ≤ history.length) :
    (∃ start, next < start ∧ start = history.length - feed.capacity ∧
        feed.receive reader = (.lost (start - next), feed.setNext reader start)) ∨
      (history.length - feed.capacity ≤ next ∧ ∃ item, history[next]? = some item ∧
        feed.receive reader = (.item item, feed.setNext reader (next + 1))) ∨
      (next = history.length ∧ feed.receive reader = (.nothing, feed)) := by
  rw [receive_of_next keeps reads]
  by_cases behind : next < history.length - feed.capacity
  · rw [if_pos behind]
    exact .inl ⟨_, behind, rfl, rfl⟩
  · rw [if_neg behind]
    refine .inr ?_
    cases found : history[next]? with
    | some item => exact .inl ⟨Nat.le_of_not_lt behind, item, rfl, rfl⟩
    | none => exact .inr ⟨Nat.le_antisymm within (List.getElem?_eq_none_iff.1 found), rfl⟩

theorem next?_setNext_self (reads : feed.next? reader = some next) (place : Nat) :
    (feed.setNext reader place).next? reader = some place := by
  obtain ⟨⟨name, before⟩, found, rfl⟩ := Option.map_eq_some_iff.1 reads
  rw [next?, setNext, List.find?_map]
  have same : ((fun entry : String × Nat => decide (entry.1 = reader)) ∘ fun entry =>
      if entry.1 = reader then (reader, place) else entry) = (decide <| ·.1 = reader) := by
    funext entry
    by_cases named : entry.1 = reader
    · simp [named]
    · simp [named]
  have named : name = reader := by simpa using List.find?_some found
  rw [same, found]
  simp [named]

theorem next?_setNext_other (different : other ≠ reader) (place : Nat) :
    (feed.setNext other place).next? reader = feed.next? reader := by
  rw [next?, next?, setNext]
  induction feed.readers with
  | nil => rfl
  | cons first rest ih =>
      rw [List.map_cons, List.find?_cons, List.find?_cons]
      by_cases named : first.1 = other
      · have apart : first.1 ≠ reader := named ▸ different
        rw [if_pos named, decide_eq_false different, decide_eq_false apart]
        exact ih
      · rw [if_neg named]
        split
        · rfl
        · exact ih

theorem next?_unsubscribe (different : other ≠ reader) :
    (feed.unsubscribe other).2.next? reader = feed.next? reader := by
  rw [next?, next?, unsubscribe, List.find?_filter]
  congr 2
  funext entry
  by_cases named : entry.1 = reader
  · simp [named, different.symm]
  · simp [named]

theorem next?_subscribe (different : other ≠ reader) :
    (feed.subscribe other).next? reader = feed.next? reader := by
  refine Eq.trans ?_ (next?_unsubscribe different)
  rw [next?, next?, subscribe, List.find?_append]
  simp [different]

theorem next?_subscribe_self : (feed.subscribe reader).next? reader = some feed.published := by
  have gone : (feed.unsubscribe reader).2.readers.find? (·.1 = reader) = none := by
    simp [unsubscribe]
  rw [next?, subscribe, List.find?_append, gone]
  simp [unsubscribe]

theorem next?_receive (different : other ≠ reader) :
    (feed.receive other).2.next? reader = feed.next? reader := by
  rw [receive]
  split
  · rfl
  · dsimp only
    split
    · exact next?_setNext_other different _
    · split
      · exact next?_setNext_other different _
      · rfl

theorem next?_publish (item : α) : (feed.publish item).2.next? reader = feed.next? reader := by
  rw [publish]
  split <;> rfl

theorem next?_call {call : FeedCall α} (apart : call.reader? ≠ some reader) :
    (feed.call call).next? reader = feed.next? reader := by
  cases call with
  | publish item => exact next?_publish item
  | subscribe other => exact next?_subscribe fun same => apart (congrArg some same)
  | unsubscribe other => exact next?_unsubscribe fun same => apart (congrArg some same)
  | receive other => exact next?_receive fun same => apart (congrArg some same)

theorem Keeps.receive (keeps : feed.Keeps history) (reader : String) :
    (feed.receive reader).2.Keeps history := by
  rw [Feed.receive]
  split
  · exact keeps
  · dsimp only
    split
    · exact keeps.withReaders _
    · split
      · exact keeps.withReaders _
      · exact keeps

theorem capacity_call (call : FeedCall α) : (feed.call call).capacity = feed.capacity := by
  cases call with
  | publish item =>
      rw [Feed.call, publish]
      split <;> rfl
  | receive reader =>
      rw [Feed.call, Feed.receive]
      split
      · rfl
      · dsimp only
        split
        · rfl
        · split <;> rfl
  | _ => rfl

theorem Keeps.call (keeps : feed.Keeps history) (heard : feed.readers ≠ []) (call : FeedCall α) :
    (feed.call call).Keeps (history ++ call.item?.toList) := by
  cases call with
  | publish item => exact keeps.publish heard item
  | subscribe reader => exact (List.append_nil history).symm ▸ keeps.withReaders _
  | unsubscribe reader => exact (List.append_nil history).symm ▸ keeps.withReaders _
  | receive reader => exact (List.append_nil history).symm ▸ keeps.receive reader

theorem keeps_call (keeps : feed.Keeps history) (call : FeedCall α) :
    ∃ history, (feed.call call).Keeps history := by
  by_cases silent : feed.readers = []
  · cases call with
    | publish item =>
        refine ⟨history, ?_⟩
        rw [Feed.call, Feed.publish, silent]
        exact keeps
    | subscribe reader => exact ⟨history, keeps.withReaders _⟩
    | unsubscribe reader => exact ⟨history, keeps.withReaders _⟩
    | receive reader => exact ⟨history, keeps.receive reader⟩
  · exact ⟨_, keeps.call silent call⟩

theorem keeps_callAll (keeps : feed.Keeps history) (calls : List (FeedCall α)) :
    ∃ history, (feed.callAll calls).Keeps history := by
  induction calls generalizing feed history with
  | nil => exact ⟨history, keeps⟩
  | cons first rest ih =>
      obtain ⟨history, after⟩ := keeps_call keeps first
      exact ih after

theorem drain_of_next (keeps : feed.Keeps history) (reads : feed.next? reader = some next) :
    (feed.drain reader).1 = history.length - feed.capacity - next ∧
      (feed.drain reader).2.1 = history.drop (max next (history.length - feed.capacity)) := by
  obtain ⟨⟨name, place⟩, found, rfl⟩ := Option.map_eq_some_iff.1 reads
  rw [drain, found]
  dsimp only
  rw [keeps.oldest, keeps.published, keeps.kept, List.drop_drop]
  constructor
  · omega
  · congr 1
    omega

end Feed

end SoundScene
