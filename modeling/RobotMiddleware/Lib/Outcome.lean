import Mathlib.Data.List.Basic

/-! Computations that may fail: a sequence that succeeded has a successful first
part, and a loop whose body never fails does not fail. -/

namespace RobotMiddleware.Lib.Outcome

theorem bind_ok {ε α β : Type} {first : Except ε α} {next : α → Except ε β} {value : β}
    (done : (first >>= next) = .ok value) : ∃ middle, first = .ok middle ∧ next middle = .ok value := by
  cases first with
  | error _ => cases done
  | ok middle => exact ⟨middle, rfl, done⟩

theorem map_ok {ε α β : Type} {first : Except ε α} {next : α → β} {value : β}
    (done : next <$> first = .ok value) : ∃ middle, first = .ok middle ∧ next middle = value := by
  cases first with
  | error _ => cases done
  | ok middle =>
    cases done
    exact ⟨middle, rfl, rfl⟩

theorem bind_some {α β : Type} {first : Option α} {next : α → Option β} {value : β}
    (done : (first >>= next) = some value) : ∃ middle, first = some middle ∧ next middle = some value :=
  Option.bind_eq_some_iff.mp done

theorem toOption_some {ε α : Type} {outcome : Except ε α} {value : α} (done : outcome.toOption = some value) :
    outcome = .ok value := by
  cases outcome with
  | error _ => cases done
  | ok =>
    cases done
    rfl

theorem foldlM_ok {ε α β : Type} {body : β → α → Except ε β} (items : List α) (start : β)
    (total : ∀ value, ∀ item ∈ items, ∃ next, body value item = .ok next) : ∃ last, items.foldlM body start = .ok last := by
  induction items generalizing start with
  | nil => exact ⟨start, rfl⟩
  | cons item rest ih =>
    obtain ⟨next, done⟩ := total start item (by simp)
    obtain ⟨last, finished⟩ := ih next fun value other member => total value other (by simp [member])
    exact ⟨last, by rw [List.foldlM_cons, done]; exact finished⟩

theorem mapM_ok {ε α β : Type} {body : α → Except ε β} (items : List α)
    (total : ∀ item ∈ items, ∃ value, body item = .ok value) : ∃ values, items.mapM body = .ok values := by
  induction items with
  | nil => exact ⟨[], rfl⟩
  | cons item rest ih =>
    obtain ⟨value, done⟩ := total item (by simp)
    obtain ⟨values, finished⟩ := ih fun other member => total other (by simp [member])
    exact ⟨value :: values, by rw [List.mapM_cons, done]; simp only [Except.bind, bind, finished]; rfl⟩

/-- Results that carry the items they belong to: one for each item, in their order. -/
theorem mapM_keyed {ε α β : Type} {body : α → Except ε β} {key : β → α} (items : List α)
    (total : ∀ item ∈ items, ∃ value, body item = .ok value ∧ key value = item) :
    ∃ values, items.mapM body = .ok values ∧ values.map key = items ∧ ∀ value ∈ values, body (key value) = .ok value := by
  induction items with
  | nil => exact ⟨[], rfl, rfl, by simp⟩
  | cons item rest ih =>
    obtain ⟨value, done, rfl⟩ := total item (by simp)
    obtain ⟨values, finished, keys, each⟩ := ih fun other member => total other (by simp [member])
    refine ⟨value :: values, ?_, by rw [List.map_cons, keys], ?_⟩
    · rw [List.mapM_cons, done]
      simp only [Except.bind, bind, finished]
      rfl
    · simp only [List.mem_cons, forall_eq_or_imp]
      exact ⟨done, each⟩

end RobotMiddleware.Lib.Outcome
