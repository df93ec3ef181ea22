import Mathlib.Data.List.Nodup
import SoundScene.Proofs.Following

/-!
Lists of ids that a viewer stops following.  Each id of the list finds the filter as the one before
it has left it, and `*` changes what dropping an id means.  While everything is followed an id is
only muted, and `*` ends all mutes; so an id that the viewer had asked for by its name, and that
stands before `*` and not behind it, is still followed.  In this case the order of the list matters
and dropping it once more matters; in all others neither does (`unsubscribe_iff`).
-/

namespace SoundScene.Filter

/-- What holds of every filter that was only asked to follow and to stop following. -/
structure Tidy (filter : Filter) : Prop where
  unlisted : everySource ∉ filter.followed
  followed : filter.followed.Nodup
  muted : filter.muted.Nodup
  unmuted : filter.all = false → filter.muted = []

theorem nodup_addId {ids : List String} (nodup : ids.Nodup) (id : String) :
    (addId ids id).Nodup := by
  unfold addId
  split
  · exact nodup
  · rename_i absent
    have fresh : id ∉ ids := by simpa using absent
    rw [← List.concat_eq_append]
    exact nodup.concat fresh

theorem nodup_foldl_addId {followed : List String} (nodup : followed.Nodup) (ids : List String) :
    (ids.foldl addId followed).Nodup := by
  induction ids generalizing followed with
  | nil => exact nodup
  | cons id rest ih => exact ih (nodup_addId nodup id)

theorem foldl_addId_of_mem {ids held : List String} (present : ∀ id ∈ ids, id ∈ held) :
    ids.foldl addId held = held := by
  induction ids with
  | nil => rfl
  | cons id rest ih =>
      have known : addId held id = held := by simp [addId, present id]
      rw [List.foldl_cons, known]
      exact ih fun other member => present other (by simp [member])

theorem tidy_initial : initial.Tidy :=
  ⟨List.not_mem_nil, List.nodup_nil, List.nodup_nil, fun _ => rfl⟩

theorem Tidy.subscribe {filter : Filter} (tidy : filter.Tidy) (ids : List String) :
    (filter.subscribe ids).Tidy := by
  obtain ⟨unlisted, followed, muted, unmuted⟩ := tidy
  simp only [Filter.subscribe, List.contains_iff_mem]
  split
  · exact ⟨unlisted, followed, List.nodup_nil, by simp⟩
  · rename_i special
    split
    · exact ⟨unlisted, followed, muted, unmuted⟩
    · refine ⟨?_, nodup_foldl_addId followed ids, List.nodup_nil, fun _ => rfl⟩
      rw [mem_foldl_addId, not_or]
      exact ⟨unlisted, special⟩

theorem Tidy.drop {filter : Filter} (tidy : filter.Tidy) (id : String) :
    (filter.drop id).Tidy := by
  obtain ⟨unlisted, followed, muted, unmuted⟩ := tidy
  simp only [Filter.drop]
  split
  · exact ⟨unlisted, followed, List.nodup_nil, fun _ => rfl⟩
  · split
    · rename_i all
      refine ⟨unlisted, followed, nodup_addId muted id, ?_⟩
      intro listed
      simp [all] at listed
    · refine ⟨?_, followed.filter _, muted, unmuted⟩
      intro member
      exact unlisted (List.mem_of_mem_filter member)

theorem Tidy.unsubscribe {filter : Filter} (tidy : filter.Tidy) (ids : List String) :
    (filter.unsubscribe ids).Tidy := by
  induction ids generalizing filter with
  | nil => exact tidy
  | cons id rest ih => exact ih (tidy.drop id)

theorem tidy_callAll (calls : List FilterCall) : (initial.callAll calls).Tidy := by
  suffices ∀ filter : Filter, filter.Tidy → (filter.callAll calls).Tidy from
    this initial tidy_initial
  induction calls with
  | nil => exact fun filter tidy => tidy
  | cons call rest ih =>
      intro filter tidy
      refine ih _ ?_
      cases call with
      | subscribe ids => exact tidy.subscribe ids
      | unsubscribe ids => exact tidy.unsubscribe ids

/-- The first `*` of a list and all that stands behind it. -/
def fromSpecial (ids : List String) : List String := ids.dropWhile (· ≠ everySource)

theorem mem_of_mem_fromSpecial {ids : List String} {id : String} (member : id ∈ fromSpecial ids) :
    id ∈ ids :=
  (List.dropWhile_suffix _).subset member

theorem unsubscribe_cons (filter : Filter) (id : String) (rest : List String) :
    filter.unsubscribe (id :: rest) = (filter.drop id).unsubscribe rest := rfl

theorem unsubscribe_of_listed {filter : Filter} (tidy : filter.Tidy) (listed : filter.all = false)
    (ids : List String) :
    filter.unsubscribe ids = { filter with followed := filter.followed.filter (· ∉ ids) } := by
  induction ids generalizing filter with
  | nil => simp [unsubscribe]
  | cons id rest ih =>
      by_cases special : id = everySource
      · have kept : filter.drop id = filter := by
          simp [drop, special, ← listed, ← tidy.unmuted listed]
        rw [unsubscribe_cons, kept, ih tidy listed]
        congr 1
        refine List.filter_congr fun other member => ?_
        have different : other ≠ id := fun same => tidy.unlisted (special ▸ same ▸ member)
        simp [different]
      · have next : filter.drop id =
            { filter with followed := filter.followed.filter (· ≠ id) } := by
          simp [drop, special, listed]
        rw [unsubscribe_cons, ih (tidy.drop id) (by simp [next, listed]), next]
        simp [List.filter_filter, Bool.and_comm]

theorem unsubscribe_of_plain {filter : Filter} (all : filter.all = true) {ids : List String}
    (plain : everySource ∉ ids) :
    filter.unsubscribe ids = { filter with muted := ids.foldl addId filter.muted } := by
  induction ids generalizing filter with
  | nil => rfl
  | cons id rest ih =>
      simp only [List.mem_cons, not_or] at plain
      have next : filter.drop id = { filter with muted := addId filter.muted id } := by
        simp [drop, Ne.symm plain.1, all]
      rw [unsubscribe_cons, next]
      exact ih all plain.2

theorem unsubscribe_of_special {filter : Filter} (tidy : filter.Tidy) (all : filter.all = true)
    {ids : List String} (special : everySource ∈ ids) :
    filter.unsubscribe ids = ⟨false, filter.followed.filter (· ∉ fromSpecial ids), []⟩ := by
  induction ids generalizing filter with
  | nil => simp at special
  | cons id rest ih =>
      by_cases here : id = everySource
      · have next : filter.drop id = { filter with all := false, muted := [] } := by
          simp [drop, here]
        rw [unsubscribe_cons, unsubscribe_of_listed (tidy.drop id) (by simp [next]), next]
        congr 1
        refine List.filter_congr fun other member => ?_
        have different : other ≠ everySource := fun same => tidy.unlisted (same ▸ member)
        simp [fromSpecial, here, different]
      · have next : filter.drop id = { filter with muted := addId filter.muted id } := by
          simp [drop, here, all]
        have later : everySource ∈ rest := by simpa [Ne.symm here] using special
        rw [unsubscribe_cons, ih (tidy.drop id) (by simp [next, all]) later, next]
        simp [fromSpecial, here]

/-- The id was asked for by its name, everything is followed besides, and in the list it stands
before the first `*` and not behind it. -/
def Outlasts (filter : Filter) (ids : List String) (id : String) : Prop :=
  filter.all = true ∧ everySource ∈ ids ∧ id ∈ filter.followed ∧ id ∉ fromSpecial ids

/-- Two filters that cannot be told apart: neither by the events that they show nor by what a viewer
is told of them. -/
structure Alike (first second : Filter) : Prop where
  all : first.all = second.all
  followed : first.followed.length = second.followed.length
  muted : first.muted.length = second.muted.length
  shows : ∀ event, first.shows event = second.shows event

theorem follows_unsubscribe {filter : Filter} (tidy : filter.Tidy) {ids : List String} {id : String}
    (member : id ∈ ids) : (filter.unsubscribe ids).follows id = true ↔ filter.Outlasts ids id := by
  cases all : filter.all with
  | false => simp [unsubscribe_of_listed tidy all, follows, Outlasts, all, member]
  | true =>
      by_cases special : everySource ∈ ids
      · simp [unsubscribe_of_special tidy all special, follows, Outlasts, all, special]
      · simp [unsubscribe_of_plain all special, follows, Outlasts, all, special, mem_foldl_addId,
          member]

theorem alike_unsubscribe {filter : Filter} (tidy : filter.Tidy) {ids others : List String}
    (same : ∀ id, id ∈ ids ↔ id ∈ others)
    (outlast : ∀ id ∈ ids, filter.Outlasts ids id ↔ filter.Outlasts others id) :
    (filter.unsubscribe ids).Alike (filter.unsubscribe others) := by
  cases all : filter.all with
  | false =>
      rw [unsubscribe_of_listed tidy all, unsubscribe_of_listed tidy all]
      simp only [same]
      exact ⟨rfl, rfl, rfl, fun _ => rfl⟩
  | true =>
      by_cases special : everySource ∈ ids
      · have there : everySource ∈ others := (same everySource).1 special
        have left : filter.followed.filter (· ∉ fromSpecial ids) =
            filter.followed.filter (· ∉ fromSpecial others) := by
          refine List.filter_congr fun id member => ?_
          by_cases listed : id ∈ ids
          · have agree : id ∉ fromSpecial ids ↔ id ∉ fromSpecial others := by
              simpa [Outlasts, all, special, there, member] using outlast id listed
            exact decide_eq_decide.2 agree
          · have unlisted : id ∉ others := fun other => listed ((same id).2 other)
            have before : id ∉ fromSpecial ids :=
              fun member => listed (mem_of_mem_fromSpecial member)
            have after : id ∉ fromSpecial others :=
              fun member => unlisted (mem_of_mem_fromSpecial member)
            simp [before, after]
        rw [unsubscribe_of_special tidy all special, unsubscribe_of_special tidy all there, left]
        exact ⟨rfl, rfl, rfl, fun _ => rfl⟩
      · have nowhere : everySource ∉ others := fun other => special ((same everySource).2 other)
        rw [unsubscribe_of_plain all special, unsubscribe_of_plain all nowhere]
        have members : ∀ id, id ∈ ids.foldl addId filter.muted ↔
            id ∈ others.foldl addId filter.muted := by
          intro id
          rw [mem_foldl_addId, mem_foldl_addId, same]
        have perm := (List.perm_ext_iff_of_nodup (nodup_foldl_addId tidy.muted ids)
          (nodup_foldl_addId tidy.muted others)).2 members
        refine ⟨rfl, rfl, perm.length_eq, fun event => ?_⟩
        cases about : event.sourceId? with
        | none => simp [shows, about]
        | some id => simp [shows, about, follows, all, members]

theorem unsubscribe_unsubscribe {filter : Filter} (tidy : filter.Tidy) {ids : List String}
    (gone : ∀ id ∈ ids, ¬ filter.Outlasts ids id) :
    (filter.unsubscribe ids).unsubscribe ids = filter.unsubscribe ids := by
  cases all : filter.all with
  | false =>
      have next := tidy.unsubscribe ids
      rw [unsubscribe_of_listed tidy all] at next ⊢
      rw [unsubscribe_of_listed next all]
      simp [List.filter_filter]
  | true =>
      by_cases special : everySource ∈ ids
      · have next := tidy.unsubscribe ids
        rw [unsubscribe_of_special tidy all special] at next ⊢
        rw [unsubscribe_of_listed next rfl]
        congr 1
        refine List.filter_eq_self.2 fun id member => decide_eq_true fun listed => ?_
        obtain ⟨followed, behind⟩ := List.mem_filter.1 member
        exact gone id listed ⟨all, special, followed, of_decide_eq_true behind⟩
      · rw [unsubscribe_of_plain all special]
        rw [unsubscribe_of_plain (by exact all) special]
        congr 1
        exact foldl_addId_of_mem fun id member => mem_foldl_addId.2 (.inr member)

theorem Alike.follows_eq {first second : Filter} (alike : first.Alike second) (id : String) :
    first.follows id = second.follows id :=
  alike.shows (.deleted id .renderer)

/-- An id that is dropped in a list is silent, unless it outlasts the list.  Another list of the
same ids does the same if the same ids outlast it, and a list is done with at once if none does. -/
theorem unsubscribe_iff (calls : List FilterCall) (ids : List String) :
    let filter := initial.callAll calls
    (∀ id ∈ ids, ∀ event : Event, event.sourceId? = some id →
        ((filter.unsubscribe ids).shows event = true ↔ filter.Outlasts ids id)) ∧
      (∀ others : List String, (∀ id, id ∈ ids ↔ id ∈ others) →
        ((filter.unsubscribe ids).Alike (filter.unsubscribe others) ↔
          ∀ id ∈ ids, filter.Outlasts ids id ↔ filter.Outlasts others id)) ∧
      ((filter.unsubscribe ids).unsubscribe ids = filter.unsubscribe ids ↔
        ∀ id ∈ ids, ¬ filter.Outlasts ids id) := by
  intro filter
  have tidy : filter.Tidy := tidy_callAll calls
  refine ⟨?_, ?_, ?_⟩
  · intro id member event about
    simp only [shows, about]
    exact follows_unsubscribe tidy member
  · intro others same
    constructor
    · intro alike id member
      rw [← follows_unsubscribe tidy member, ← follows_unsubscribe tidy ((same id).1 member),
        alike.follows_eq]
    · exact alike_unsubscribe tidy same
  · constructor
    · intro again id member outlasts
      have heard := (follows_unsubscribe tidy member).2 outlasts
      rw [← again, follows_unsubscribe (tidy.unsubscribe ids) member] at heard
      have narrowed : (filter.unsubscribe ids).all = false := by
        rw [unsubscribe_of_special tidy outlasts.1 outlasts.2.1]
      exact absurd heard.1 (by simp [narrowed])
    · exact unsubscribe_unsubscribe tidy

theorem unsubscribe_iff_before_special :
    let filter := initial.callAll [.subscribe ["a"], .subscribe ["*"]]
    filter.Outlasts ["a", "*"] "a" ∧ ¬ filter.Outlasts ["*", "a", "a"] "a" ∧
      (filter.unsubscribe ["a", "*"]).shows (.deleted "a" .renderer) = true ∧
      (filter.unsubscribe ["*", "a", "a"]).shows (.deleted "a" .renderer) = false ∧
      ¬ (filter.unsubscribe ["a", "*"]).Alike (filter.unsubscribe ["*", "a", "a"]) ∧
      (filter.unsubscribe ["a", "*"]).unsubscribe ["a", "*"] ≠ filter.unsubscribe ["a", "*"] ∧
      (filter.unsubscribe ["*", "a", "a"]).unsubscribe ["*", "a", "a"] =
        filter.unsubscribe ["*", "a", "a"] := by
  intro filter
  obtain ⟨shown, alike, again⟩ := unsubscribe_iff [.subscribe ["a"], .subscribe ["*"]] ["a", "*"]
  obtain ⟨hidden, _, settled⟩ :=
    unsubscribe_iff [.subscribe ["a"], .subscribe ["*"]] ["*", "a", "a"]
  have outlasts : filter.Outlasts ["a", "*"] "a" := by
    unfold Outlasts
    decide
  have silenced : ∀ id ∈ ["*", "a", "a"], ¬ filter.Outlasts ["*", "a", "a"] id := by
    unfold Outlasts
    decide
  have same : ∀ id, id ∈ ["a", "*"] ↔ id ∈ ["*", "a", "a"] := by
    intro id
    simp [or_comm]
  refine ⟨outlasts, silenced "a" (by simp), (shown "a" (by simp) _ rfl).2 outlasts, ?_, ?_, ?_,
    settled.2 silenced⟩
  · rw [← Bool.not_eq_true, hidden "a" (by simp) _ rfl]
    exact silenced "a" (by simp)
  · intro told
    exact silenced "a" (by simp) (((alike _ same).1 told "a" (by simp)).1 outlasts)
  · intro repeated
    exact again.1 repeated "a" (by simp) outlasts

/-- A list of ids may leave one of them heard, depend on its order, and do more when repeated. -/
theorem unsubscribed_not_silent :
    (¬ ∀ (calls : List FilterCall) (ids : List String) (id : String) (event : Event), id ∈ ids →
        event.sourceId? = some id →
        ((initial.callAll calls).unsubscribe ids).shows event = false) ∧
      (¬ ∀ (calls : List FilterCall) (ids others : List String), ids.Perm others →
        ((initial.callAll calls).unsubscribe ids).Alike
          ((initial.callAll calls).unsubscribe others)) ∧
      ¬ ∀ (calls : List FilterCall) (ids : List String),
        ((initial.callAll calls).unsubscribe ids).unsubscribe ids =
          (initial.callAll calls).unsubscribe ids := by
  refine ⟨?_, ?_, ?_⟩
  · intro hidden
    have silent := hidden [.subscribe ["a"], .subscribe ["*"]] ["a", "*"] "a"
      (.deleted "a" .renderer) (by simp) rfl
    revert silent
    decide
  · intro alike
    have same := (alike [.subscribe ["a"], .subscribe ["*"]] ["a", "*"] ["*", "a"]
      (.swap ..)).followed
    revert same
    decide
  · intro again
    have same := again [.subscribe ["a"], .subscribe ["*"]] ["a", "*"]
    revert same
    decide

end SoundScene.Filter
