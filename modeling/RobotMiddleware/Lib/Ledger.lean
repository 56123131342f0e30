import Mathlib.Data.List.Perm.Basic

/-! A counter for every key, and the list of those who hold a key: the counters
are right when each counts its key's occurrences in the list. -/

namespace RobotMiddleware.Lib.Ledger

universe u
variable {κ : Type u} [DecidableEq κ] {count after : κ → Nat} {held rest : List κ} {key : κ}

/-- Every counter equals the number of its holders. -/
def Balanced (count : κ → Nat) (held : List κ) : Prop := ∀ key, count key = held.count key

theorem Balanced.mem_iff (balanced : Balanced count held) (key : κ) : key ∈ held ↔ 0 < count key := by
  rw [balanced key, List.count_pos_iff]

theorem Balanced.perm (balanced : Balanced count held) (same : held.Perm rest) : Balanced count rest :=
  fun key => (balanced key).trans (same.count_eq key)

theorem Balanced.gain (balanced : Balanced count held)
    (gained : ∀ other, after other = if other = key then count key + 1 else count other) : Balanced after (key :: held) := by
  intro other
  rw [gained other, List.count_cons, balanced key, balanced other]
  by_cases same : other = key
  · simp [same]
  · simp [same, Ne.symm same]

theorem Balanced.lose (balanced : Balanced count (key :: rest))
    (lost : ∀ other, after other = if other = key then count key - 1 else count other) : Balanced after rest := by
  intro other
  rw [lost other, balanced key, balanced other, List.count_cons, List.count_cons]
  by_cases same : other = key
  · simp [same]
  · simp [same, Ne.symm same]

end RobotMiddleware.Lib.Ledger
