import Mathlib.Data.Set.Card
import SoundScene.Proofs.Collapse
import SoundScene.Proofs.Replies
import SoundScene.Proofs.Unfollowing

/-!
The counts that a viewer is told.  Only one list of a filter decides in each mode, and in the other
mode it may hold ids that nobody asks about now.  Still the count of a mode is exact: while only
listed ids are followed, it is the number of sources that are heard, and while everything is
followed, it is the number of sources that are not (`counted_callAll`).
-/

namespace SoundScene

open Json

namespace Filter

def heard (filter : Filter) : Set String :=
  {id | ∀ event : Event, event.sourceId? = some id → filter.shows event = true}

def unheard (filter : Filter) : Set String :=
  {id | ∀ event : Event, event.sourceId? = some id → filter.shows event = false}

/-- The lists of a filter and their lengths say what the filter does. -/
structure Counted (filter : Filter) : Prop where
  unmuted : filter.all = false → filter.muted = []
  special : everySource ∉ filter.followed ∧ everySource ∉ filter.muted
  heard : filter.all = false → filter.heard.encard = filter.followed.length
  unheard : filter.all = true → filter.unheard.encard = filter.muted.length
  sourceless : ∀ event : Event, event.sourceId? = none → filter.shows event = true

structure ReportedBy (filter : Filter) (payload : Value) : Prop where
  followed : payload.member? "count" = some (.ofNat filter.followed.length) ∨
    payload.member? "remaining_count" = some (.ofNat filter.followed.length)
  muted : payload.member? "excluded_count" = some (.ofNat filter.muted.length)
  all : payload.member? "wildcard" = some (.bool filter.all)

theorem shows_of_about (filter : Filter) {event : Event} {id : String}
    (about : event.sourceId? = some id) : filter.shows event = filter.follows id := by
  rw [shows, about]

theorem mem_heard_iff {filter : Filter} {id : String} :
    id ∈ filter.heard ↔ filter.follows id = true := by
  constructor
  · intro heard
    exact heard (.deleted id .renderer) rfl
  · intro follows event about
    rw [filter.shows_of_about about, follows]

theorem mem_unheard_iff {filter : Filter} {id : String} :
    id ∈ filter.unheard ↔ filter.follows id = false := by
  constructor
  · intro unheard
    exact unheard (.deleted id .renderer) rfl
  · intro silent event about
    rw [filter.shows_of_about about, silent]

theorem encard_of_nodup {ids : List String} (nodup : ids.Nodup) {set : Set String}
    (members : ∀ id, id ∈ set ↔ id ∈ ids) : set.encard = ids.length := by
  have same : set = (ids.toFinset : Set String) := by
    ext id
    rw [members, Finset.mem_coe, List.mem_toFinset]
  rw [same, Set.encard_coe_eq_coe_finsetCard, List.toFinset_card_of_nodup nodup]

theorem step_spares_special {filter : Filter} (plain : everySource ∉ filter.muted)
    (step : FilterStep) : everySource ∉ (filter.step step).muted := by
  cases step with
  | follow ids =>
      rw [Filter.step, subscribe]
      split
      · exact List.not_mem_nil
      · split
        · exact plain
        · exact List.not_mem_nil
  | drop id =>
      rw [Filter.step, drop]
      by_cases special : id = everySource
      · rw [if_pos special]
        exact List.not_mem_nil
      · rw [if_neg special]
        split
        · rw [mem_addId, not_or]
          exact ⟨plain, Ne.symm special⟩
        · exact plain

theorem stepAll_spares_special {filter : Filter} (plain : everySource ∉ filter.muted)
    (steps : List FilterStep) : everySource ∉ (filter.stepAll steps).muted := by
  induction steps generalizing filter with
  | nil => exact plain
  | cons step rest ih => exact ih (step_spares_special plain step)

theorem Tidy.counted {filter : Filter} (tidy : filter.Tidy) (plain : everySource ∉ filter.muted) :
    filter.Counted where
  unmuted := tidy.unmuted
  special := ⟨tidy.unlisted, plain⟩
  heard := by
    intro listed
    refine encard_of_nodup tidy.followed fun id => ?_
    rw [mem_heard_iff, follows, listed]
    simp
  unheard := by
    intro all
    refine encard_of_nodup tidy.muted fun id => ?_
    rw [mem_unheard_iff, follows, all]
    simp
  sourceless := by
    intro event about
    rw [shows, about]

theorem counted_of_calls (calls : List FilterCall) : (initial.callAll calls).Counted := by
  have plain : everySource ∉ (initial.callAll calls).muted := by
    rw [callAll_eq_stepAll]
    exact stepAll_spares_special List.not_mem_nil _
  exact (tidy_callAll calls).counted plain

theorem reportedBy_summary (filter : Filter) (request : ViewerRequest) :
    filter.ReportedBy (filter.summary request) := by
  have look (members : List (String × Value)) (key : String) :
      (Value.ofMembers members).member? key = (members.reverse.find? (·.1 = key)).map (·.2) :=
    Keyed.find?_ofList key members
  cases request with
  | subscribe ids => exact ⟨.inl (look ..), look .., look ..⟩
  | unsubscribe ids => exact ⟨.inr (look ..), look .., look ..⟩

theorem answerText_granted {filter : Filter} (tidy : filter.Tidy) {text : String} {payload : Value}
    (granted : (filter.answerText text).1.content = .ok payload) :
    (∃ call, (filter.answerText text).2 = filter.call call) ∧
      (filter.answerText text).2.ReportedBy payload := by
  obtain ⟨request, _, _, after, _, told, _⟩ :=
    (answerText_answers tidy text).granted payload granted
  refine ⟨?_, told ▸ reportedBy_summary _ request⟩
  cases request with
  | subscribe ids => exact ⟨.subscribe ids, after⟩
  | unsubscribe ids => exact ⟨.unsubscribe ids, after⟩

/-- Whatever a viewer has asked for, its filter does what the counts say, and the counts are what it
is told with the next request that is granted. -/
theorem counted_callAll (calls : List FilterCall) :
    (initial.callAll calls).Counted ∧
      ∀ text payload, ((initial.callAll calls).answerText text).1.content = .ok payload →
        ((initial.callAll calls).answerText text).2.ReportedBy payload ∧
          ((initial.callAll calls).answerText text).2.Counted := by
  refine ⟨counted_of_calls calls, ?_⟩
  intro text payload granted
  obtain ⟨⟨call, after⟩, told⟩ := answerText_granted (tidy_callAll calls) granted
  have more : (initial.callAll calls).call call = initial.callAll (calls ++ [call]) := by
    rw [callAll, callAll, List.foldl_append]
    rfl
  refine ⟨told, ?_⟩
  rw [after, more]
  exact counted_of_calls _

theorem counted_callAll_muted :
    let calls : List FilterCall := [.subscribe ["a", "b", "a"], .subscribe ["c", "*"]]
    let muting := "\x7b\"id\":\"1\",\"type\":\"command\"," ++
      "\"timestamp\":\"2024-01-01T00:00:00Z\"," ++
      "\"payload\":\x7b\"command\":\"unsubscribe\",\"source_ids\":[\"c\",\"c\"]\x7d\x7d"
    let before := initial.callAll calls
    let after := (before.answerText muting).2
    let payload := after.summary (.unsubscribe ["c", "c"])
    (before.answerText muting).1.content = .ok payload ∧ before.Counted ∧
      after.ReportedBy payload ∧ after.Counted ∧ after = ⟨true, ["a", "b"], ["c"]⟩ ∧
      after.unheard.encard = 1 := by
  intro calls muting before after payload
  have granted : (before.answerText muting).1.content = .ok payload := by decide +kernel
  have muted : after = ⟨true, ["a", "b"], ["c"]⟩ := by decide +kernel
  obtain ⟨counted, answers⟩ : before.Counted ∧
      ∀ text payload, (before.answerText text).1.content = .ok payload →
        (before.answerText text).2.ReportedBy payload ∧ (before.answerText text).2.Counted :=
    counted_callAll calls
  obtain ⟨reported, later⟩ : after.ReportedBy payload ∧ after.Counted :=
    answers muting payload granted
  refine ⟨granted, counted, reported, later, muted, ?_⟩
  have few : after.muted.length = 1 := congrArg (·.muted.length) muted
  rw [later.unheard (congrArg Filter.all muted), few, Nat.cast_one]

end Filter

end SoundScene
