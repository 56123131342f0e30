import RobotMiddleware.Lib.Outcome

/-! Loops over a list that deal with one item at a time. What an iteration
achieves for its item, and later iterations do not undo, holds for every item at
the end. -/

namespace RobotMiddleware.Lib.Loops
open Outcome

variable {ε α β : Type} {items : List α}

theorem foldlM_each {body : β → α → Except ε β} {inv : β → Prop} {achieved : α → β → Prop} {start last : β}
    (pass : ∀ value item next, item ∈ items → inv value → body value item = .ok next →
      inv next ∧ achieved item next ∧ ∀ other, achieved other value → achieved other next)
    (begins : inv start) (done : items.foldlM body start = .ok last) :
    inv last ∧ (∀ item ∈ items, achieved item last) ∧ ∀ other, achieved other start → achieved other last := by
  induction items generalizing start with
  | nil =>
    cases done
    exact ⟨begins, by simp, fun _ before => before⟩
  | cons item rest ih =>
    rw [List.foldlM_cons] at done
    obtain ⟨next, first, remaining⟩ := bind_ok done
    obtain ⟨kept, now, stays⟩ := pass start item next (by simp) begins first
    obtain ⟨final, each, stay⟩ := ih (fun value other after member => pass value other after (by simp [member])) kept remaining
    refine ⟨final, ?_, fun other before => stay other (stays other before)⟩
    simp only [List.mem_cons, forall_eq_or_imp]
    exact ⟨stay item now, each⟩

theorem foldlM_keeps {body : β → α → Except ε β} {inv : β → Prop} {start last : β}
    (pass : ∀ value item next, item ∈ items → inv value → body value item = .ok next → inv next)
    (begins : inv start) (done : items.foldlM body start = .ok last) : inv last :=
  (@foldlM_each _ _ _ items body inv (fun _ _ => True) _ _
    (fun value item next member held step => ⟨pass value item next member held step, trivial, fun _ _ => trivial⟩)
    begins done).1

/-- An invariant that also speaks of the items still to come. -/
theorem foldlM_rest {body : β → α → Except ε β} {inv : List α → β → Prop} {start last : β}
    (pass : ∀ item rest value next, inv (item :: rest) value → body value item = .ok next → inv rest next)
    (begins : inv items start) (done : items.foldlM body start = .ok last) : inv [] last := by
  induction items generalizing start with
  | nil =>
    cases done
    exact begins
  | cons item rest ih =>
    rw [List.foldlM_cons] at done
    obtain ⟨next, first, remaining⟩ := bind_ok done
    exact ih (pass item rest start next begins first) remaining

theorem foldlM_hom {γ : Type} {first : β → α → Except ε β} {last : γ → α → Except ε γ} (hom : β → γ)
    (items : List α) (start : β) (each : ∀ value item, last (hom value) item = hom <$> first value item) :
    items.foldlM last (hom start) = hom <$> items.foldlM first start := by
  induction items generalizing start with
  | nil => rfl
  | cons item rest ih =>
    rw [List.foldlM_cons, List.foldlM_cons, each]
    cases first start item with
    | error => rfl
    | ok next => exact ih next

theorem foldl_each {body : β → α → β} {inv : β → Prop} {achieved : α → β → Prop} {start : β}
    (pass : ∀ value item, item ∈ items → inv value →
      inv (body value item) ∧ achieved item (body value item) ∧ ∀ other, achieved other value → achieved other (body value item))
    (begins : inv start) :
    inv (items.foldl body start) ∧ (∀ item ∈ items, achieved item (items.foldl body start)) ∧
      ∀ other, achieved other start → achieved other (items.foldl body start) := by
  induction items generalizing start with
  | nil => exact ⟨begins, by simp, fun _ before => before⟩
  | cons item rest ih =>
    obtain ⟨kept, now, stays⟩ := pass start item (by simp) begins
    obtain ⟨final, each, stay⟩ := ih (fun value other member => pass value other (by simp [member])) kept
    rw [List.foldl_cons]
    refine ⟨final, ?_, fun other before => stay other (stays other before)⟩
    simp only [List.mem_cons, forall_eq_or_imp]
    exact ⟨stay item now, each⟩

theorem foldl_keeps {body : β → α → β} {inv : β → Prop} {start : β}
    (pass : ∀ value item, item ∈ items → inv value → inv (body value item)) (begins : inv start) :
    inv (items.foldl body start) :=
  (@foldl_each _ _ items body inv (fun _ _ => True) _
    (fun value item member held => ⟨pass value item member held, trivial, fun _ _ => trivial⟩) begins).1

end RobotMiddleware.Lib.Loops
