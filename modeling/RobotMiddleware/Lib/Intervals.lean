import Mathlib.Order.CompletePartialOrder
import Mathlib.Order.Interval.Set.Disjoint

/-! Intervals that stand one above the other between two bounds. -/

namespace RobotMiddleware.Lib.Intervals

/-- An interval, from its first position to the one after its last. -/
abbrev Span := Nat × Nat

def Span.cells (span : Span) : Set Nat := Set.Ico span.1 span.2

def Stacked : (low : Nat) → List Span → (high : Nat) → Prop
  | low, [], high => low ≤ high
  | low, span :: rest, high => low ≤ span.1 ∧ span.1 ≤ span.2 ∧ Stacked span.2 rest high

variable {low middle high : Nat} {spans others : List Span}

theorem Stacked.bounds (stacked : Stacked low spans high) : low ≤ high := by
  induction spans generalizing low with
  | nil => exact stacked
  | cons span rest ih =>
    obtain ⟨above, proper, others⟩ := stacked
    have upper := ih others
    omega

theorem Stacked.lower {base : Nat} (stacked : Stacked low spans high) (below : base ≤ low) : Stacked base spans high := by
  cases spans with
  | nil => exact Nat.le_trans below stacked
  | cons => exact ⟨Nat.le_trans below stacked.1, stacked.2⟩

theorem Stacked.append (first : Stacked low spans middle) (second : Stacked middle others high) :
    Stacked low (spans ++ others) high := by
  induction spans generalizing low with
  | nil => exact second.lower first
  | cons span rest ih => exact ⟨first.1, first.2.1, ih first.2.2⟩

theorem Stacked.within (stacked : Stacked low spans high) : ∀ span ∈ spans, low ≤ span.1 ∧ span.1 ≤ span.2 ∧ span.2 ≤ high := by
  induction spans generalizing low with
  | nil => simp
  | cons first rest ih =>
    obtain ⟨above, proper, others⟩ := stacked
    intro span member
    rcases List.mem_cons.mp member with rfl | member
    · exact ⟨above, proper, others.bounds⟩
    · obtain ⟨start, order, stop⟩ := ih others span member
      exact ⟨by omega, order, stop⟩

/-- Of two intervals of a stack one ends before the other starts. -/
theorem Stacked.disjoint (stacked : Stacked low spans high) : spans.Pairwise fun span other => Disjoint span.cells other.cells := by
  induction spans generalizing low with
  | nil => exact .nil
  | cons first rest ih =>
    refine List.pairwise_cons.mpr ⟨?_, ih stacked.2.2⟩
    intro other member
    have after := stacked.2.2.within other member
    exact Set.Ico_disjoint_Ico.mpr (by omega)

end RobotMiddleware.Lib.Intervals
