/-!
Chains of steps that may fail.  What a chain returned comes from steps that all succeeded
(`ok_of_bind`, `exists_of_mapM`), and what each step keeps is kept by the chain (`foldlM_keeps`).
Items that do nothing may be left out (`mapM_filter`, `foldlM_filter`).
-/

namespace SoundScene

variable {ε α β γ σ : Type}

theorem ok_of_bind {first : Except ε α} {next : α → Except ε β} {result : β}
    (ran : (first >>= next) = .ok result) :
    ∃ value, first = .ok value ∧ next value = .ok result := by
  cases first with
  | error reason => simp [bind, Except.bind] at ran
  | ok value => exact ⟨value, rfl, ran⟩

theorem ok_of_map {view : α → β} {first : Except ε α} {result : β}
    (ran : first.map view = .ok result) : ∃ value, first = .ok value ∧ view value = result := by
  cases first with
  | error reason => cases ran
  | ok value => exact ⟨value, rfl, Except.ok.inj ran⟩

theorem ok_of_mapError {view : ε → γ} {first : Except ε α} {result : α}
    (ran : first.mapError view = .ok result) : first = .ok result := by
  cases first with
  | error reason => cases ran
  | ok value => exact congrArg Except.ok (Except.ok.inj ran)

theorem mapM_views {read : α → Except ε β} {view : β → α} {items : List β}
    (reads : ∀ item ∈ items, read (view item) = .ok item) :
    (items.map view).mapM read = .ok items := by
  induction items with
  | nil => rfl
  | cons item rest ih =>
      have others := ih fun other member => reads other (by simp [member])
      rw [List.map_cons, List.mapM_cons, reads item (by simp), others]
      rfl

theorem exists_of_mapM {read : α → Except ε β} {items : List α} {results : List β}
    (ran : items.mapM read = .ok results) :
    ∀ result ∈ results, ∃ item ∈ items, read item = .ok result := by
  induction items generalizing results with
  | nil =>
      cases ran
      nofun
  | cons item rest ih =>
      rw [List.mapM_cons] at ran
      obtain ⟨head, first, ran⟩ := ok_of_bind ran
      obtain ⟨tail, others, ran⟩ := ok_of_bind ran
      cases ran
      intro result member
      rcases List.mem_cons.1 member with rfl | member
      · exact ⟨item, by simp, first⟩
      · obtain ⟨other, present, reads⟩ := ih others result member
        exact ⟨other, by simp [present], reads⟩

theorem ok_of_mapM {read : α → Except ε β} {items : List α} {results : List β}
    (ran : items.mapM read = .ok results) :
    results.length = items.length ∧ ∀ item ∈ items, ∃ result, read item = .ok result := by
  induction items generalizing results with
  | nil =>
      cases ran
      exact ⟨rfl, nofun⟩
  | cons item rest ih =>
      rw [List.mapM_cons] at ran
      obtain ⟨head, first, ran⟩ := ok_of_bind ran
      obtain ⟨tail, others, ran⟩ := ok_of_bind ran
      cases ran
      obtain ⟨length, reads⟩ := ih others
      refine ⟨congrArg (· + 1) length, fun other member => ?_⟩
      rcases List.mem_cons.1 member with rfl | member
      · exact ⟨head, first⟩
      · exact reads other member

theorem map_of_mapM {read : α → Except ε β} {key : α → γ} {name : β → γ} {items : List α}
    {results : List β} (named : ∀ item result, read item = .ok result → name result = key item)
    (ran : items.mapM read = .ok results) : results.map name = items.map key := by
  induction items generalizing results with
  | nil =>
      cases ran
      rfl
  | cons item rest ih =>
      rw [List.mapM_cons] at ran
      obtain ⟨head, first, ran⟩ := ok_of_bind ran
      obtain ⟨tail, others, ran⟩ := ok_of_bind ran
      cases ran
      rw [List.map_cons, List.map_cons, named item head first, ih others]

theorem ok_of_mapM_option {read : α → Except ε β} {item : Option α} {found : Option β}
    (ran : item.mapM read = .ok found) :
    ∀ result, found = some result → ∃ value, item = some value ∧ read value = .ok result := by
  cases item with
  | none =>
      cases ran
      nofun
  | some value =>
      obtain ⟨result, held, ran⟩ := ok_of_map ran
      cases ran
      rintro _ ⟨⟩
      exact ⟨value, rfl, held⟩

theorem foldlM_keeps {step : σ → α → Except ε σ} {Holds : σ → Prop} {items : List α}
    (keeps : ∀ state, Holds state → ∀ item ∈ items, ∀ next, step state item = .ok next → Holds next)
    {start final : σ} (held : Holds start) (ran : items.foldlM step start = .ok final) :
    Holds final := by
  induction items generalizing start with
  | nil =>
      cases ran
      exact held
  | cons item rest ih =>
      rw [List.foldlM_cons] at ran
      obtain ⟨next, first, others⟩ := ok_of_bind ran
      have reached := keeps start held item (by simp) next first
      refine ih (fun state held other member => ?_) reached others
      exact keeps state held other (by simp [member])

theorem mapM_filter {read : α → Except ε β} {known : α → Bool} {kept : β → Bool} {items : List α}
    (unknown : ∀ item ∈ items, known item = false → ∃ result, read item = .ok result ∧
      kept result = false)
    (keeps : ∀ item ∈ items, known item = true → ∀ result, read item = .ok result →
      kept result = true) :
    (items.filter known).mapM read = (items.mapM read).map (·.filter kept) := by
  induction items with
  | nil => rfl
  | cons item rest ih =>
      have others := ih (fun other member => unknown other (List.mem_cons_of_mem _ member))
        fun other member => keeps other (List.mem_cons_of_mem _ member)
      rw [List.mapM_cons]
      cases passed : known item with
      | false =>
          obtain ⟨result, reads, dropped⟩ := unknown item List.mem_cons_self passed
          rw [List.filter_cons_of_neg (Bool.not_eq_true _ ▸ passed), others, reads]
          cases rest.mapM read with
          | error reason => rfl
          | ok results =>
              exact congrArg Except.ok (List.filter_cons_of_neg (by simp [dropped])).symm
      | true =>
          rw [List.filter_cons_of_pos passed, List.mapM_cons, others]
          cases reads : read item with
          | error reason => rfl
          | ok result =>
              have stays := keeps item List.mem_cons_self passed result reads
              cases rest.mapM read with
              | error reason => rfl
              | ok results => exact congrArg Except.ok (List.filter_cons_of_pos stays).symm

theorem foldlM_filter {step : σ → α → Except ε σ} {known : α → Bool} {items : List α}
    (unknown : ∀ state, ∀ item ∈ items, known item = false → step state item = .ok state)
    (start : σ) : (items.filter known).foldlM step start = items.foldlM step start := by
  induction items generalizing start with
  | nil => rfl
  | cons item rest ih =>
      have others := ih fun state other member =>
        unknown state other (List.mem_cons_of_mem _ member)
      cases passed : known item with
      | false =>
          rw [List.filter_cons_of_neg (Bool.not_eq_true _ ▸ passed), List.foldlM_cons,
            unknown start item List.mem_cons_self passed, others]
          rfl
      | true =>
          rw [List.filter_cons_of_pos passed, List.foldlM_cons, List.foldlM_cons]
          exact congrArg _ (funext others)

end SoundScene
