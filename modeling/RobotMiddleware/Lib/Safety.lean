import Mathlib.Data.List.Basic

/-! Programs that may throw and that may also make an access of which the language
says nothing. The rules follow the way such a program is put together. -/

namespace RobotMiddleware.Lib.Safety
variable {ε α β : Type} {post middle : α → Prop} {next : β → Prop}

/-- The program makes no such access, and what it returns without throwing satisfies `post`. -/
def Safe (post : α → Prop) (program : ExceptT ε Option α) : Prop :=
  ∃ outcome, program.run = some outcome ∧ ∀ value, outcome = .ok value → post value

/-- The program moreover throws nothing. -/
def Returns (post : α → Prop) (program : ExceptT ε Option α) : Prop := ∃ value, program.run = some (.ok value) ∧ post value

theorem Returns.safe {program : ExceptT ε Option α} (returns : Returns post program) : Safe post program := by
  obtain ⟨value, done, holds⟩ := returns
  exact ⟨.ok value, done, fun _ same => by cases same; exact holds⟩

theorem Returns.pure {value : α} (holds : post value) : Returns post (pure value : ExceptT ε Option α) := ⟨value, rfl, holds⟩

theorem Returns.bind {program : ExceptT ε Option α} {rest : α → ExceptT ε Option β} (first : Returns middle program)
    (second : ∀ value, middle value → Returns next (rest value)) : Returns next (program >>= rest) := by
  obtain ⟨value, done, holds⟩ := first
  obtain ⟨last, finished, result⟩ := second value holds
  refine ⟨last, ?_, result⟩
  rw [ExceptT.run_bind, done]
  exact finished

theorem Safe.pure {value : α} (holds : post value) : Safe post (pure value : ExceptT ε Option α) := (Returns.pure holds).safe

/-- A check either throws or lets the program go on. -/
theorem Safe.check {outcome : Except ε α} (holds : ∀ value, outcome = .ok value → post value) :
    Safe post (ExceptT.mk (some outcome)) := ⟨outcome, rfl, holds⟩

theorem Safe.bind {program : ExceptT ε Option α} {rest : α → ExceptT ε Option β} (first : Safe middle program)
    (second : ∀ value, middle value → Safe next (rest value)) : Safe next (program >>= rest) := by
  obtain ⟨outcome, done, holds⟩ := first
  cases outcome with
  | error thrown =>
    refine ⟨.error thrown, ?_, fun _ impossible => by cases impossible⟩
    rw [ExceptT.run_bind, done]
    rfl
  | ok value =>
    obtain ⟨last, finished, result⟩ := second value (holds value rfl)
    refine ⟨last, ?_, result⟩
    rw [ExceptT.run_bind, done]
    exact finished

theorem Safe.weaken {program : ExceptT ε Option α} (safe : Safe middle program) (implies : ∀ value, middle value → post value) :
    Safe post program := by
  obtain ⟨outcome, done, holds⟩ := safe
  exact ⟨outcome, done, fun value same => implies value (holds value same)⟩

end RobotMiddleware.Lib.Safety
