/-!
Forms: which things of a kind are accepted, and what is wrong with all others.  Forms are put
together as readers are.  One thing is looked at after another and the first fault counts
(`Verdict.andThen`, `Form.each`), something of a certain shape is judged by what it holds
(`Form.within`), and what is held under a key by the form that the key has (`Form.among`).  Each way
to put forms together has a rule by which a reader that is put together in the same way says exactly
what the form says (`Form.Judges`).
-/

namespace SoundScene

/-- What is to be said of something: whether it is accepted, and with which faults it is refused. -/
@[ext]
structure Verdict (ε : Type) where
  accepts : Prop
  refuses : ε → Prop

abbrev Form (α ε : Type) : Type := α → Verdict ε

namespace Verdict

variable {β γ ε : Type}

def accepted : Verdict ε := ⟨True, fun _ => False⟩

def refused (why : ε) : Verdict ε := ⟨False, (· = why)⟩

def andThen (first next : Verdict ε) : Verdict ε where
  accepts := first.accepts ∧ next.accepts
  refuses why := first.refuses why ∨ first.accepts ∧ next.refuses why

def reported (verdict : Verdict ε) (view : ε → γ) : Verdict γ where
  accepts := verdict.accepts
  refuses reason := ∃ why, verdict.refuses why ∧ reason = view why

theorem accepted_andThen (next : Verdict ε) : accepted.andThen next = next := by
  ext <;> simp [accepted, andThen]

theorem andThen_accepted (first : Verdict ε) : first.andThen accepted = first := by
  ext <;> simp [accepted, andThen]

theorem refused_andThen (why : ε) (next : Verdict ε) :
    (refused why).andThen next = refused why := by
  ext <;> simp [refused, andThen]

theorem andThen_assoc (first second third : Verdict ε) :
    (first.andThen second).andThen third = first.andThen (second.andThen third) := by
  ext <;> simp only [andThen]
  · exact and_assoc
  · simp only [and_or_left, or_assoc, and_assoc]

/-- An outcome says what the verdict says: a result if there is no fault, and else the fault. -/
structure Matches (verdict : Verdict ε) (outcome : Except ε β) : Prop where
  ok : verdict.accepts → ∃ result, outcome = .ok result
  error : ∀ why, verdict.refuses why → outcome = .error why
  total : verdict.accepts ∨ ∃ why, verdict.refuses why

namespace Matches

variable {verdict next : Verdict ε} {outcome : Except ε β}

theorem ok_iff (told : verdict.Matches outcome) :
    (∃ result, outcome = .ok result) ↔ verdict.accepts := by
  refine ⟨?_, told.ok⟩
  rintro ⟨result, rfl⟩
  refine told.total.resolve_right fun ⟨why, refused⟩ => ?_
  cases told.error why refused

theorem error_iff (told : verdict.Matches outcome) (why : ε) :
    outcome = .error why ↔ verdict.refuses why := by
  refine ⟨?_, told.error why⟩
  rintro rfl
  rcases told.total with accepted | ⟨other, refused⟩
  · obtain ⟨result, impossible⟩ := told.ok accepted
    cases impossible
  · cases told.error other refused
    exact refused

theorem accepted (result : β) : (accepted : Verdict ε).Matches (.ok result) where
  ok _ := ⟨result, rfl⟩
  error _ := False.elim
  total := .inl trivial

theorem refused (why : ε) : (refused why).Matches (.error why : Except ε β) where
  ok := False.elim
  error _ same := congrArg Except.error same.symm
  total := .inr ⟨why, rfl⟩

theorem bind {more : β → Except ε γ} (told : verdict.Matches outcome)
    (later : ∀ result, outcome = .ok result → next.Matches (more result)) :
    (verdict.andThen next).Matches (outcome >>= more) := by
  rcases told.total with passed | ⟨why, failed⟩
  · obtain ⟨result, rfl⟩ := told.ok passed
    have rest := later result rfl
    refine ⟨fun both => rest.ok both.2, fun why refused => ?_, ?_⟩
    · rcases refused with impossible | ⟨_, refused⟩
      · cases told.error why impossible
      · exact rest.error why refused
    · exact rest.total.imp (⟨passed, ·⟩) fun ⟨why, refused⟩ => ⟨why, .inr ⟨passed, refused⟩⟩
  · cases told.error why failed
    refine ⟨fun both => ?_, fun other refused => ?_, .inr ⟨why, .inl failed⟩⟩
    · obtain ⟨result, impossible⟩ := told.ok both.1
      cases impossible
    · rcases refused with refused | ⟨passed, _⟩
      · cases told.error other refused
        rfl
      · obtain ⟨result, impossible⟩ := told.ok passed
        cases impossible

theorem map (told : verdict.Matches outcome) (view : β → γ) :
    verdict.Matches (outcome.map view) := by
  refine ⟨fun passed => ?_, fun why failed => ?_, told.total⟩
  · obtain ⟨result, rfl⟩ := told.ok passed
    exact ⟨view result, rfl⟩
  · rw [told.error why failed]
    rfl

theorem bind_pure (told : verdict.Matches outcome) (view : β → γ) :
    verdict.Matches (outcome >>= fun result => pure (view result)) :=
  told.map view

theorem mapError (told : verdict.Matches outcome) (view : ε → γ) :
    (verdict.reported view).Matches (outcome.mapError view) := by
  refine ⟨fun passed => ?_, fun reason failed => ?_, told.total.imp_right ?_⟩
  · obtain ⟨result, rfl⟩ := told.ok passed
    exact ⟨result, rfl⟩
  · obtain ⟨why, failed, rfl⟩ := failed
    rw [told.error why failed]
    rfl
  · exact fun ⟨why, failed⟩ => ⟨view why, why, failed, rfl⟩

end Matches

end Verdict

namespace Form

variable {α β σ ε : Type}

def each (form : Form α ε) : Form (List α) ε := fun items =>
  { accepts := ∀ item ∈ items, (form item).accepts
    refuses := fun why => ∃ before item after, items = before ++ item :: after ∧
      (∀ other ∈ before, (form other).accepts) ∧ (form item).refuses why }

def within (shape : β → α) (held : Form β ε) (otherwise : Form α ε) : Form α ε := fun item =>
  { accepts := (∃ inner, item = shape inner ∧ (held inner).accepts) ∨
      (∀ inner, item ≠ shape inner) ∧ (otherwise item).accepts
    refuses := fun why => (∃ inner, item = shape inner ∧ (held inner).refuses why) ∨
      (∀ inner, item ≠ shape inner) ∧ (otherwise item).refuses why }

/-- Something with a key is judged by the form that the key has in a table, and by the key alone if
it has none. -/
def among (table : List (String × Form α ε)) (unknown : Form String ε) : Form (String × α) ε :=
  fun pair =>
    { accepts := (∃ form, (pair.1, form) ∈ table ∧ (form pair.2).accepts) ∨
        (∀ form, (pair.1, form) ∉ table) ∧ (unknown pair.1).accepts
      refuses := fun why => (∃ form, (pair.1, form) ∈ table ∧ (form pair.2).refuses why) ∨
        (∀ form, (pair.1, form) ∉ table) ∧ (unknown pair.1).refuses why }

/-- The reader succeeds on what the form accepts, and reports what is wrong with all else. -/
def Judges (form : Form α ε) (read : α → Except ε β) : Prop :=
  ∀ item, (form item).Matches (read item)

variable {form : Form α ε}

theorem each_nil : form.each [] = .accepted := by
  ext why
  · exact iff_of_true (List.forall_mem_nil _) trivial
  · refine iff_of_false ?_ id
    rintro ⟨before, item, after, split, _⟩
    exact List.append_ne_nil_of_right_ne_nil before (List.cons_ne_nil item after) split.symm

theorem each_cons (item : α) (rest : List α) :
    form.each (item :: rest) = (form item).andThen (form.each rest) := by
  ext why
  · exact List.forall_mem_cons
  · constructor
    · rintro ⟨before, wrong, after, split, passed, refused⟩
      cases before with
      | nil =>
          cases split
          exact .inl refused
      | cons other before =>
          cases split
          obtain ⟨first, others⟩ := List.forall_mem_cons.1 passed
          exact .inr ⟨first, before, wrong, after, rfl, others, refused⟩
    · rintro (refused | ⟨first, before, wrong, after, rfl, others, refused⟩)
      · exact ⟨[], item, rest, rfl, List.forall_mem_nil _, refused⟩
      · exact ⟨item :: before, wrong, after, rfl, List.forall_mem_cons.2 ⟨first, others⟩, refused⟩

theorem within_shape {shape : β → α}
    (injective : ∀ first second, shape first = shape second → first = second) (held : Form β ε)
    (otherwise : Form α ε) (inner : β) :
    within shape held otherwise (shape inner) = held inner := by
  have same (other : β) : shape inner = shape other ↔ inner = other :=
    ⟨injective inner other, congrArg shape⟩
  ext <;> simp [within, same]

theorem within_other {shape : β → α} {item : α} (other : ∀ inner, item ≠ shape inner)
    (held : Form β ε) (otherwise : Form α ε) :
    within shape held otherwise item = otherwise item := by
  ext <;> simp [within, other]

theorem among_nil (unknown : Form String ε) (pair : String × α) :
    among [] unknown pair = unknown pair.1 := by
  ext <;> simp [among]

theorem among_cons_self {key : String} {table : List (String × Form α ε)}
    (apart : key ∉ table.map Prod.fst) (unknown : Form String ε) (item : α) :
    among ((key, form) :: table) unknown (key, item) = form item := by
  have missing (other : Form α ε) : (key, other) ∉ table := fun member =>
    apart (List.mem_map_of_mem member)
  ext <;> simp [among, missing]

theorem among_cons_of_ne {key name : String} (other : name ≠ key)
    (table : List (String × Form α ε)) (unknown : Form String ε) (item : α) :
    among ((key, form) :: table) unknown (name, item) = among table unknown (name, item) := by
  ext <;> simp [among, other]

namespace Judges

theorem mapM {read : α → Except ε β} (judges : form.Judges read) :
    form.each.Judges fun items => items.mapM read := by
  intro items
  change (form.each items).Matches (items.mapM read)
  induction items with
  | nil =>
      rw [each_nil]
      exact .accepted []
  | cons item rest ih =>
      rw [each_cons, List.mapM_cons]
      exact (judges item).bind fun result _ => ih.bind_pure (result :: ·)

theorem foldlM {step : σ → α → Except ε σ} (judges : ∀ state, form.Judges (step state))
    (start : σ) : form.each.Judges fun items => items.foldlM step start := by
  intro items
  change (form.each items).Matches (items.foldlM step start)
  induction items generalizing start with
  | nil =>
      rw [each_nil]
      exact .accepted start
  | cons item rest ih =>
      rw [each_cons, List.foldlM_cons]
      exact (judges start item).bind fun next _ => ih next

theorem within {shape : β → α} {held : Form β ε} {otherwise : Form α ε} {read : α → Except ε σ}
    (injective : ∀ first second, shape first = shape second → first = second)
    (inside : ∀ inner, (held inner).Matches (read (shape inner)))
    (other : ∀ item, (∀ inner, item ≠ shape inner) → (otherwise item).Matches (read item)) :
    (within shape held otherwise).Judges read := by
  intro item
  by_cases shaped : ∃ inner, item = shape inner
  · obtain ⟨inner, rfl⟩ := shaped
    rw [within_shape injective]
    exact inside inner
  · have apart : ∀ inner, item ≠ shape inner := fun inner same => shaped ⟨inner, same⟩
    rw [within_other apart]
    exact other item apart

theorem among_cons {key : String} {table : List (String × Form α ε)} {unknown : Form String ε}
    {first others : String × α → Except ε β} (held : form.Judges fun item => first (key, item))
    (later : (among table unknown).Judges others) (apart : key ∉ table.map Prod.fst) :
    (among ((key, form) :: table) unknown).Judges
      fun pair => if pair.1 = key then first pair else others pair := by
  rintro ⟨name, item⟩
  by_cases same : name = key
  · subst same
    rw [among_cons_self apart]
    simpa only [↓reduceIte] using held item
  · rw [among_cons_of_ne same]
    simpa only [same, ↓reduceIte] using later (name, item)

theorem among_nil {unknown : Form String ε} {read : String × α → Except ε β}
    (judges : ∀ pair : String × α, (unknown pair.1).Matches (read pair)) :
    (among [] unknown).Judges read := by
  intro pair
  rw [Form.among_nil]
  exact judges pair

end Judges

end Form

end SoundScene
