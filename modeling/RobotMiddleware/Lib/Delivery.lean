import Mathlib.Data.List.Perm.Basic

/-! Items on their way to recipients. They wait in a queue, fly in a batch, are held
on the other side and are returned to the recipient that asks for them. Nothing is
lost or doubled on the way, and no recipient gets its items in another order. -/

namespace RobotMiddleware.Lib.Delivery

universe u v

/-- Where the items are, and the ones that have been queued so far. -/
structure Relay (ρ : Type u) (α : Type v) where
  queued : List α
  waiting : List α
  flying : List α
  held : List α
  returned : List (ρ × α)

variable {ρ : Type u} {α : Type v} [DecidableEq ρ] (recipient : α → ρ)

def Relay.places (relay : Relay ρ α) : List α :=
  relay.returned.map Prod.snd ++ relay.held ++ relay.flying ++ relay.waiting

inductive Move (recipient : α → ρ) : Relay ρ α → Relay ρ α → Prop where
  | rest (relay : Relay ρ α) : Move recipient relay relay
  | enqueue (relay : Relay ρ α) (items : List α) :
      Move recipient relay { relay with queued := relay.queued ++ items, waiting := relay.waiting ++ items }
  | launch (relay : Relay ρ α) : relay.flying = [] →
      Move recipient relay { relay with flying := relay.waiting, waiting := [] }
  | land (relay : Relay ρ α) : Move recipient relay { relay with held := relay.held ++ relay.flying, flying := [] }
  | take (relay : Relay ρ α) (asking : ρ) :
      Move recipient relay
        { relay with
          held := relay.held.filter fun item => recipient item != asking
          returned := relay.returned ++
            (relay.held.filter fun item => recipient item == asking).map fun item => (asking, item) }

/-- Every recipient's items are in the order in which they were queued, and what was
returned was returned to its recipient. -/
structure Ordered (relay : Relay ρ α) : Prop where
  order : ∀ asking, (relay.places.filter fun item => recipient item == asking) =
    relay.queued.filter fun item => recipient item == asking
  own : ∀ entry ∈ relay.returned, recipient entry.2 = entry.1

variable {recipient} {before after : Relay ρ α}

theorem Ordered.move (ordered : Ordered recipient before) (move : Move recipient before after) : Ordered recipient after := by
  obtain ⟨order, own⟩ := ordered
  simp only [Relay.places] at order
  cases move with
  | rest => exact ⟨order, own⟩
  | enqueue items =>
    refine ⟨fun asking => ?_, own⟩
    simp only [Relay.places, ← List.append_assoc]
    rw [List.filter_append, order asking, List.filter_append]
  | launch empty =>
    refine ⟨fun asking => ?_, own⟩
    rw [← order asking]
    simp [Relay.places, empty]
  | land =>
    refine ⟨fun asking => ?_, own⟩
    rw [← order asking]
    simp [Relay.places]
  | take taken =>
    refine ⟨fun asking => ?_, fun entry member => ?_⟩
    · rw [← order asking]
      simp only [Relay.places, List.map_append, List.map_map, List.filter_append, Function.comp_def, List.map_id', List.filter_filter]
      -- The items of the one that asks move to the end of what it has; nobody else's move.
      by_cases same : asking = taken
      · subst taken
        simp [bne]
      · have others : (before.held.filter fun item => recipient item == asking && recipient item == taken) = [] := by
          rw [List.filter_eq_nil_iff]
          intro item _ both
          simp only [Bool.and_eq_true, beq_iff_eq] at both
          exact same (both.1.symm.trans both.2)
        have kept : (before.held.filter fun item => recipient item == asking && recipient item != taken) =
            before.held.filter fun item => recipient item == asking := by
          refine List.filter_congr fun item _ => ?_
          by_cases mine : recipient item = asking
          · simp [mine, same]
          · simp [mine]
        rw [others, kept, List.append_nil]
    · rcases List.mem_append.mp member with old | new
      · exact own entry old
      · obtain ⟨item, inside, rfl⟩ := List.mem_map.mp new
        exact beq_iff_eq.mp (List.mem_filter.mp inside).2

/-- The items in all places are the ones that were queued. -/
theorem Ordered.perm [DecidableEq α] {relay : Relay ρ α} (ordered : Ordered recipient relay) :
    relay.places.Perm relay.queued := by
  refine List.perm_iff_count.mpr fun item => ?_
  have mine (items : List α) :
      items.count item = (items.filter fun other => recipient other == recipient item).count item :=
    (List.count_filter (by simp)).symm
  rw [mine relay.places, mine relay.queued, ordered.order]

end RobotMiddleware.Lib.Delivery
