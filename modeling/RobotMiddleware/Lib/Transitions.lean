import Mathlib.Data.List.Basic
import Mathlib.Logic.Relation

/-! Finite runs of a step function whose events carry every choice of the
environment. A step that is not enabled returns `none`, so a run is a list of
events, and an invariant of all runs is proved by one step lemma. -/

namespace RobotMiddleware.Lib.Transitions

universe u v
variable {σ : Type u} {ε : Type v}

def execute (step : σ → ε → Option σ) : σ → List ε → Option σ
  | state, [] => some state
  | state, event :: rest => (step state event).bind fun next => execute step next rest

/-- Every event of the run meets the condition in the state it is taken in. -/
def Along (step : σ → ε → Option σ) (allowed : σ → ε → Prop) : σ → List ε → Prop
  | _, [] => True
  | state, event :: rest => allowed state event ∧ ∀ next, step state event = some next → Along step allowed next rest

/-- A test of every event of a run, to be evaluated. -/
def checkAlong (step : σ → ε → Option σ) (check : σ → ε → Bool) : σ → List ε → Bool
  | _, [] => true
  | state, event :: rest => check state event && (step state event).all fun next => checkAlong step check next rest

variable {step : σ → ε → Option σ} {allowed : σ → ε → Prop}

theorem execute_cons {state final : σ} {event : ε} {rest : List ε} (run : execute step state (event :: rest) = some final) :
    ∃ next, step state event = some next ∧ execute step next rest = some final :=
  Option.bind_eq_some_iff.mp run

theorem execute_append (state : σ) (first last : List ε) :
    execute step state (first ++ last) = (execute step state first).bind fun middle => execute step middle last := by
  induction first generalizing state with
  | nil => rfl
  | cons event rest ih =>
    simp only [List.cons_append, execute, Option.bind_assoc]
    congr 1
    funext next
    exact ih next

/-- The invariant rule: what every allowed step keeps holds after every allowed run. -/
theorem Along.invariant {inv : σ → Prop} {state final : σ} {events : List ε} (guarded : Along step allowed state events)
    (kept : ∀ state event next, inv state → allowed state event → step state event = some next → inv next)
    (start : inv state) (run : execute step state events = some final) : inv final := by
  induction events generalizing state with
  | nil => cases run; exact start
  | cons event rest ih =>
    obtain ⟨next, taken, remaining⟩ := execute_cons run
    exact ih (guarded.2 next taken) (kept state event next start guarded.1 taken) remaining

theorem Along.append {state middle : σ} {first last : List ε} (guarded : Along step allowed state first)
    (run : execute step state first = some middle) (further : Along step allowed middle last) :
    Along step allowed state (first ++ last) := by
  induction first generalizing state with
  | nil =>
    cases run
    exact further
  | cons event rest ih =>
    obtain ⟨next, taken, remaining⟩ := execute_cons run
    refine ⟨guarded.1, fun other same => ?_⟩
    rw [taken] at same
    cases same
    exact ih (guarded.2 next taken) remaining

theorem Along.imp {other : σ → ε → Prop} {state : σ} {events : List ε} (guarded : Along step allowed state events)
    (weaker : ∀ state event, allowed state event → other state event) : Along step other state events := by
  induction events generalizing state with
  | nil => trivial
  | cons event rest ih => exact ⟨weaker state event guarded.1, fun next taken => ih (guarded.2 next taken)⟩

theorem along_of_forall (always : ∀ state event, allowed state event) (state : σ) (events : List ε) :
    Along step allowed state events := by
  induction events generalizing state with
  | nil => trivial
  | cons event rest ih => exact ⟨always state event, fun next _ => ih next⟩

theorem along_of_check {check : σ → ε → Bool} (sound : ∀ state event, check state event = true → allowed state event)
    {state : σ} {events : List ε} (checked : checkAlong step check state events = true) :
    Along step allowed state events := by
  induction events generalizing state with
  | nil => trivial
  | cons event rest ih =>
    simp only [checkAlong, Bool.and_eq_true] at checked
    refine ⟨sound state event checked.1, fun next taken => ih ?_⟩
    simpa [taken] using checked.2

theorem execute_invariant {inv : σ → Prop} (kept : ∀ state event next, inv state → step state event = some next → inv next)
    {state final : σ} {events : List ε} (start : inv state) (run : execute step state events = some final) : inv final := by
  have guarded : Along step (fun _ _ => True) state events := along_of_forall (fun _ _ => trivial) state events
  exact guarded.invariant (fun state event next held _ => kept state event next held) start run

/-- The invariant rule for a relation. -/
theorem chain_keeps {relation : σ → σ → Prop} {inv : σ → Prop} {state final : σ}
    (pass : ∀ {before after}, relation before after → inv before → inv after)
    (chain : Relation.ReflTransGen relation state final) (held : inv state) : inv final := by
  induction chain with
  | refl => exact held
  | tail _ step ih => exact pass step ih

end RobotMiddleware.Lib.Transitions
