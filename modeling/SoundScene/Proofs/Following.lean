import SoundScene.Filter

/-!
Histories of a viewer's filter.  A call that stops following several ids does so one id after
another, so a history is read as single steps.  An id that was dropped and not asked for since is
shown again in one case: it was muted while it still stood in the list of followed ids, and later
the viewer stopped following everything (`shows_dropped_iff`).  An id that was asked for by its name
stays in that list and is not muted, so it is shown until it is dropped (`shows_listed`).
-/

namespace SoundScene

inductive FilterCall where
  | subscribe (ids : List String)
  | unsubscribe (ids : List String)
deriving DecidableEq, Repr

inductive FilterStep where
  | follow (ids : List String)
  | drop (id : String)
deriving DecidableEq, Repr

def FilterCall.steps : FilterCall → List FilterStep
  | .subscribe ids => [.follow ids]
  | .unsubscribe ids => ids.map .drop

namespace FilterStep

/-- Whether the step ends following everything, if everything was followed. -/
def narrows : FilterStep → Bool
  | .follow ids => !ids.isEmpty && !ids.contains everySource
  | .drop id => decide (id = everySource)

/-- The step neither drops the id nor asks for it, by its name or with everything else. -/
def Passes (id : String) : FilterStep → Prop
  | .follow ids => id ∉ ids ∧ everySource ∉ ids
  | .drop other => other ≠ id

end FilterStep

namespace FilterCall

def Silent (id : String) : FilterCall → Prop
  | .subscribe ids => id ∉ ids ∧ everySource ∉ ids
  | .unsubscribe _ => True

theorem Silent.passes {id : String} {call : FilterCall} (silent : call.Silent id)
    {step : FilterStep} (member : step ∈ call.steps) (other : step ≠ .drop id) :
    step.Passes id := by
  cases call with
  | subscribe ids =>
      simp only [steps, List.mem_singleton] at member
      exact member ▸ silent
  | unsubscribe ids =>
      obtain ⟨dropped, _, rfl⟩ := List.mem_map.1 member
      exact fun same => other (congrArg _ same)

def Spares (id : String) : FilterCall → Prop
  | .subscribe _ => True
  | .unsubscribe ids => id ∉ ids

theorem Spares.ne_drop {id : String} {call : FilterCall} (spares : call.Spares id)
    {step : FilterStep} (member : step ∈ call.steps) : step ≠ .drop id := by
  cases call with
  | subscribe ids =>
      rw [List.mem_singleton.1 member]
      nofun
  | unsubscribe ids =>
      obtain ⟨dropped, listed, rfl⟩ := List.mem_map.1 member
      rintro ⟨⟩
      exact spares listed

end FilterCall

namespace Filter

def call (filter : Filter) : FilterCall → Filter
  | .subscribe ids => filter.subscribe ids
  | .unsubscribe ids => filter.unsubscribe ids

def callAll (filter : Filter) (calls : List FilterCall) : Filter := calls.foldl call filter

def step (filter : Filter) : FilterStep → Filter
  | .follow ids => filter.subscribe ids
  | .drop id => filter.drop id

def stepAll (filter : Filter) (steps : List FilterStep) : Filter := steps.foldl step filter

theorem stepAll_append (filter : Filter) (first second : List FilterStep) :
    filter.stepAll (first ++ second) = (filter.stepAll first).stepAll second :=
  List.foldl_append

theorem callAll_eq_stepAll (filter : Filter) (calls : List FilterCall) :
    filter.callAll calls = filter.stepAll (calls.flatMap FilterCall.steps) := by
  induction calls generalizing filter with
  | nil => rfl
  | cons first rest ih =>
      rw [List.flatMap_cons, stepAll_append, ← ih]
      cases first with
      | subscribe ids => rfl
      | unsubscribe ids =>
          simp only [callAll, List.foldl_cons, call, unsubscribe, FilterCall.steps, stepAll,
            List.foldl_map]
          rfl

theorem mem_addId {ids : List String} {id other : String} :
    other ∈ addId ids id ↔ other ∈ ids ∨ other = id := by
  unfold addId
  split
  · rename_i present
    have member : id ∈ ids := by simpa using present
    exact ⟨.inl, fun either => either.elim (·) (· ▸ member)⟩
  · simp

theorem mem_foldl_addId {ids followed : List String} {id : String} :
    id ∈ ids.foldl addId followed ↔ id ∈ followed ∨ id ∈ ids := by
  induction ids generalizing followed with
  | nil => simp
  | cons first rest ih => simp [ih, mem_addId, or_assoc]

theorem follows_eq_true_iff {filter : Filter} {id : String} :
    filter.follows id = true ↔
      (filter.all = true ∧ id ∉ filter.muted) ∨ (filter.all = false ∧ id ∈ filter.followed) := by
  unfold follows
  cases filter.all <;> simp

theorem step_listed {filter : Filter} {id : String} {step : FilterStep}
    (listed : filter.all = false) (passes : step.Passes id) :
    (filter.step step).all = false ∧ (id ∈ (filter.step step).followed ↔ id ∈ filter.followed) := by
  cases step with
  | follow ids =>
      obtain ⟨unnamed, special⟩ := passes
      simp only [Filter.step, subscribe, List.contains_iff_mem, special, ↓reduceIte]
      split
      · exact ⟨listed, Iff.rfl⟩
      · simp [mem_foldl_addId, unnamed]
  | drop other =>
      simp only [Filter.step, drop, listed]
      split
      · exact ⟨rfl, Iff.rfl⟩
      · simp [Ne.symm (show other ≠ id from passes)]

theorem step_muted {filter : Filter} {id : String} {step : FilterStep}
    (all : filter.all = true) (muted : id ∈ filter.muted) (passes : step.Passes id) :
    (id ∈ (filter.step step).followed ↔ id ∈ filter.followed) ∧
      if step.narrows then (filter.step step).all = false
      else (filter.step step).all = true ∧ id ∈ (filter.step step).muted := by
  cases step with
  | follow ids =>
      obtain ⟨unnamed, special⟩ := passes
      simp only [Filter.step, subscribe, FilterStep.narrows, List.contains_iff_mem, special,
        ↓reduceIte]
      split
      · rename_i empty
        simp [empty, all, muted]
      · rename_i full
        simp [full, special, mem_foldl_addId, unnamed]
  | drop other =>
      simp only [Filter.step, drop, FilterStep.narrows, all]
      split
      · rename_i special
        simp [special]
      · rename_i special
        simp [special, mem_addId, muted]

theorem stepAll_listed {filter : Filter} {id : String} {steps : List FilterStep}
    (listed : filter.all = false) (pass : ∀ step ∈ steps, step.Passes id) :
    (filter.stepAll steps).follows id = true ↔ id ∈ filter.followed := by
  induction steps generalizing filter with
  | nil => simp [stepAll, follows_eq_true_iff, listed]
  | cons first rest ih =>
      obtain ⟨still, same⟩ := step_listed listed (pass first (by simp))
      exact (ih still fun step member => pass step (by simp [member])).trans same

theorem stepAll_muted {filter : Filter} {id : String} {steps : List FilterStep}
    (all : filter.all = true) (muted : id ∈ filter.muted)
    (pass : ∀ step ∈ steps, step.Passes id) :
    (filter.stepAll steps).follows id = true ↔
      id ∈ filter.followed ∧ ∃ step ∈ steps, step.narrows = true := by
  induction steps generalizing filter with
  | nil => simp [stepAll, follows_eq_true_iff, all, muted]
  | cons first rest ih =>
      obtain ⟨same, after⟩ := step_muted all muted (pass first (by simp))
      have later : ∀ step ∈ rest, step.Passes id := fun step member => pass step (by simp [member])
      change ((filter.step first).stepAll rest).follows id = true ↔ _
      split at after
      · rename_i narrow
        rw [stepAll_listed after later, same]
        exact ⟨fun held => ⟨held, first, by simp, narrow⟩, And.left⟩
      · rename_i wide
        rw [ih after.1 after.2 later, same]
        simp [wide]

theorem follows_after_drop {filter : Filter} {id : String} {steps : List FilterStep}
    (named : id ≠ everySource) (pass : ∀ step ∈ steps, step.Passes id) :
    ((filter.drop id).stepAll steps).follows id = true ↔
      filter.all = true ∧ id ∈ filter.followed ∧ ∃ step ∈ steps, step.narrows = true := by
  cases all : filter.all with
  | false =>
      have dropped : (filter.drop id).all = false ∧ id ∉ (filter.drop id).followed := by
        simp [drop, named, all]
      rw [stepAll_listed dropped.1 pass]
      simp [dropped.2]
  | true =>
      have dropped : (filter.drop id).all = true ∧ id ∈ (filter.drop id).muted ∧
          (filter.drop id).followed = filter.followed := by
        simp [drop, named, all, mem_addId]
      rw [stepAll_muted dropped.1 dropped.2.1 pass, dropped.2.2]
      simp

/-- When the id was dropped last, everything was followed and the id still stood in the list of
followed ids; later the filter was narrowed to that list. -/
def Resurfaces (id : String) (calls : List FilterCall) : Prop :=
  ∃ first last : List FilterStep,
    calls.flatMap FilterCall.steps = first ++ .drop id :: last ∧ .drop id ∉ last ∧
      (initial.stepAll first).all = true ∧ id ∈ (initial.stepAll first).followed ∧
        ∃ step ∈ last, step.narrows = true

theorem last_drop {id : String} {steps : List FilterStep} (dropped : .drop id ∈ steps) :
    ∃ first last, steps = first ++ .drop id :: last ∧ .drop id ∉ last := by
  obtain ⟨last, first, split, fresh⟩ := List.eq_append_cons_of_mem (List.mem_reverse.2 dropped)
  exact ⟨first.reverse, last.reverse, by simpa using congrArg List.reverse split,
    by simpa using fresh⟩

theorem mem_of_last_drop {id : String} {early late first last : List FilterStep}
    (split : early ++ late = first ++ .drop id :: last) (dropped : .drop id ∈ late)
    (final : .drop id ∉ last) {step : FilterStep} (member : step ∈ last) : step ∈ late := by
  rcases List.append_eq_append_iff.1 split with ⟨more, _, tail⟩ | ⟨more, _, tail⟩
  · simp [tail, member]
  · cases more with
    | nil =>
        rw [List.nil_append] at tail
        simp [← tail, member]
    | cons head rest =>
        rw [List.cons_append, List.cons.injEq] at tail
        exact absurd (by simp [tail.2, dropped]) final

theorem follows_of_last_drop {before after : List FilterCall} {ids : List String} {id : String}
    {first last : List FilterStep} (named : id ≠ everySource) (listed : id ∈ ids)
    (silent : ∀ call ∈ after, call.Silent id)
    (split : (before ++ .unsubscribe ids :: after).flatMap FilterCall.steps =
      first ++ .drop id :: last) (final : .drop id ∉ last) :
    (initial.callAll (before ++ .unsubscribe ids :: after)).follows id = true ↔
      (initial.stepAll first).all = true ∧ id ∈ (initial.stepAll first).followed ∧
        ∃ step ∈ last, step.narrows = true := by
  have pass : ∀ step ∈ last, step.Passes id := by
    intro step member
    rw [List.flatMap_append] at split
    have dropped : .drop id ∈ (FilterCall.unsubscribe ids :: after).flatMap FilterCall.steps := by
      simp [FilterCall.steps, listed]
    have late := mem_of_last_drop split dropped final member
    obtain ⟨call, made, part⟩ := List.mem_flatMap.1 late
    have quiet : call.Silent id := by
      rcases List.mem_cons.1 made with rfl | made
      · trivial
      · exact silent call made
    exact quiet.passes part fun same => final (same ▸ member)
  rw [callAll_eq_stepAll, split, stepAll_append]
  exact follows_after_drop named pass

/-- An id that was dropped and not asked for since is shown in one case only. -/
theorem shows_dropped_iff {before after : List FilterCall} {ids : List String} {id : String}
    (named : id ≠ everySource) (listed : id ∈ ids) (silent : ∀ call ∈ after, call.Silent id)
    {event : Event} (about : event.sourceId? = some id) :
    (initial.callAll (before ++ .unsubscribe ids :: after)).shows event = true ↔
      Resurfaces id (before ++ .unsubscribe ids :: after) := by
  simp only [shows, about]
  constructor
  · intro shown
    have dropped : .drop id ∈ (before ++ .unsubscribe ids :: after).flatMap FilterCall.steps := by
      simp [FilterCall.steps, listed]
    obtain ⟨first, last, split, final⟩ := last_drop dropped
    exact ⟨first, last, split, final,
      (follows_of_last_drop named listed silent split final).1 shown⟩
  · rintro ⟨first, last, split, final, dormant⟩
    exact (follows_of_last_drop named listed silent split final).2 dormant

theorem shows_dropped_iff_narrowed :
    let before : List FilterCall := [.subscribe ["a"], .subscribe ["*"]]
    let after : List FilterCall := [.unsubscribe ["*"]]
    "a" ≠ everySource ∧ "a" ∈ ["a"] ∧ (∀ call ∈ after, call.Silent "a") ∧
      (Event.deleted "a" .renderer).sourceId? = some "a" ∧
      ((initial.callAll (before ++ .unsubscribe ["a"] :: after)).shows (.deleted "a" .renderer) =
          true ↔
        Resurfaces "a" (before ++ .unsubscribe ["a"] :: after)) := by
  have silent : ∀ call ∈ [FilterCall.unsubscribe ["*"]], call.Silent "a" := by
    simp [FilterCall.Silent]
  exact ⟨by decide, by simp, silent, rfl, shows_dropped_iff (by decide) (by simp) silent rfl⟩

theorem dropped_not_silent :
    ¬ ∀ (before after : List FilterCall) (ids : List String) (id : String) (event : Event),
      id ≠ everySource → id ∈ ids → (∀ call ∈ after, call.Silent id) →
      event.sourceId? = some id →
      (initial.callAll (before ++ .unsubscribe ids :: after)).shows event = false := by
  intro hidden
  have shown : (initial.callAll [.subscribe ["a"], .subscribe ["*"], .unsubscribe ["a"],
      .unsubscribe ["*"]]).shows (.deleted "a" .renderer) = true := by
    decide
  have silent := hidden [.subscribe ["a"], .subscribe ["*"]] [.unsubscribe ["*"]] ["a"] "a"
    (.deleted "a" .renderer) (by decide) (by simp) (by simp [FilterCall.Silent]) rfl
  exact Bool.noConfusion (shown.symm.trans silent)

/-- The id is followed whether or not all are: it stands in the list, and it is not muted. -/
def Keeps (filter : Filter) (id : String) : Prop := id ∈ filter.followed ∧ id ∉ filter.muted

theorem Keeps.follows {filter : Filter} {id : String} (keeps : filter.Keeps id) :
    filter.follows id = true := by
  cases all : filter.all with
  | true => exact follows_eq_true_iff.2 (.inl ⟨all, keeps.2⟩)
  | false => exact follows_eq_true_iff.2 (.inr ⟨all, keeps.1⟩)

theorem keeps_subscribe (filter : Filter) {ids : List String} {id : String} (listed : id ∈ ids)
    (special : everySource ∉ ids) : (filter.subscribe ids).Keeps id := by
  have some : ids.isEmpty = false := List.isEmpty_eq_false_iff_exists_mem.2 ⟨id, listed⟩
  simp [Keeps, subscribe, special, some, mem_foldl_addId, listed]

theorem Keeps.step {filter : Filter} {id : String} (keeps : filter.Keeps id) {step : FilterStep}
    (spares : step ≠ .drop id) : (filter.step step).Keeps id := by
  obtain ⟨listed, heard⟩ := keeps
  cases step with
  | follow ids =>
      simp only [Filter.step, subscribe]
      split
      · exact ⟨listed, List.not_mem_nil⟩
      · split
        · exact ⟨listed, heard⟩
        · exact ⟨mem_foldl_addId.2 (.inl listed), List.not_mem_nil⟩
  | drop other =>
      have different : id ≠ other := fun same => spares (congrArg _ same.symm)
      simp only [Filter.step, drop]
      split
      · exact ⟨listed, List.not_mem_nil⟩
      · split
        · exact ⟨listed, fun muted => (mem_addId.1 muted).elim heard different⟩
        · exact ⟨List.mem_filter.2 ⟨listed, decide_eq_true different⟩, heard⟩

theorem Keeps.stepAll {filter : Filter} {id : String} (keeps : filter.Keeps id)
    {steps : List FilterStep} (spared : ∀ step ∈ steps, step ≠ .drop id) :
    (filter.stepAll steps).Keeps id := by
  induction steps generalizing filter with
  | nil => exact keeps
  | cons first rest ih =>
      have after := keeps.step (spared first List.mem_cons_self)
      exact ih after fun step member => spared step (List.mem_cons_of_mem _ member)

/-- An id that was asked for by its name is shown until it is dropped by its name, whatever else is
followed or dropped in the meantime. -/
theorem shows_listed {before after : List FilterCall} {ids : List String} {id : String}
    (listed : id ∈ ids) (special : everySource ∉ ids) (spared : ∀ call ∈ after, call.Spares id)
    {event : Event} (about : event.sourceId? = some id) :
    (initial.callAll (before ++ .subscribe ids :: after)).shows event = true := by
  have keeps : (initial.callAll (before ++ .subscribe ids :: after)).Keeps id := by
    rw [callAll, List.foldl_append, List.foldl_cons]
    change (Filter.callAll _ after).Keeps id
    rw [callAll_eq_stepAll]
    refine (keeps_subscribe _ listed special).stepAll fun step member => ?_
    obtain ⟨call, made, part⟩ := List.mem_flatMap.1 member
    exact (spared call made).ne_drop part
  simp only [shows, about]
  exact keeps.follows

theorem shows_listed_through :
    let before : List FilterCall := [.unsubscribe ["a"]]
    let after : List FilterCall := [.subscribe ["*", "b"], .unsubscribe ["b"], .subscribe [],
      .unsubscribe ["c", "*"]]
    "a" ∈ ["b", "a"] ∧ everySource ∉ ["b", "a"] ∧ (∀ call ∈ after, call.Spares "a") ∧
      (Event.deleted "a" .renderer).sourceId? = some "a" ∧
      (initial.callAll (before ++ .subscribe ["b", "a"] :: after)).shows (.deleted "a" .renderer) =
        true := by
  intro before after
  have spared : ∀ call ∈ after, call.Spares "a" := by
    simp [after, FilterCall.Spares]
  exact ⟨by simp, by decide, spared, rfl, shows_listed (by simp) (by decide) spared rfl⟩

end Filter

end SoundScene
