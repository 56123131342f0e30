import Mathlib.Data.List.Basic

/-! A stream of records that arrives in pieces. A reader takes the records that are
complete and holds the rest back until the next piece. -/

namespace RobotMiddleware.Lib.Records

universe u
variable {α : Type u}

/-- Take the records that are complete when `held` items are there: the sizes of the
records that are left, and how many items remain. -/
def advance : List Nat → Nat → List Nat × Nat
  | [], held => ([], held)
  | size :: sizes, held => if held < size then (size :: sizes, held) else advance sizes (held - size)

/-- What is held never passes the limit, whenever a piece has arrived. -/
def fits (limit : Nat) : List Nat → Nat → List Nat → Bool
  | _, _, [] => true
  | sizes, held, piece :: pieces =>
    held + piece ≤ limit && fits limit (advance sizes (held + piece)).1 (advance sizes (held + piece)).2 pieces

def PartOf (part : List α) : List (List α) → Prop
  | [] => part = []
  | next :: _ => ∃ rest, rest ≠ [] ∧ part ++ rest = next

/-- The start of a stream is some whole records and a part of the next one. -/
theorem split_records {records : List (List α)} {buffer later : List α} (cut : buffer ++ later = records.flatten) :
    ∃ taken left part, records = taken ++ left ∧ buffer = taken.flatten ++ part ∧ part ++ later = left.flatten ∧
      PartOf part left ∧ advance (records.map List.length) buffer.length = (left.map List.length, part.length) := by
  induction records generalizing buffer with
  | nil =>
    obtain ⟨rfl, rfl⟩ := List.append_eq_nil_iff.mp cut
    exact ⟨[], [], [], rfl, rfl, rfl, rfl, rfl⟩
  | cons next more ih =>
    rw [List.flatten_cons] at cut
    have ahead : buffer <+: next ++ more.flatten := cut ▸ List.prefix_append buffer later
    have record : next <+: next ++ more.flatten := List.prefix_append next more.flatten
    by_cases short : buffer.length < next.length
    · obtain ⟨rest, rfl⟩ := List.prefix_of_prefix_length_le ahead record (Nat.le_of_lt short)
      refine ⟨[], (buffer ++ rest) :: more, buffer, rfl, rfl, cut, ⟨rest, fun empty => ?_, rfl⟩, ?_⟩
      · simp [empty] at short
      · rw [List.map_cons, advance, if_pos short]
    · obtain ⟨rest, rfl⟩ := List.prefix_of_prefix_length_le record ahead (Nat.le_of_not_lt short)
      rw [List.append_assoc, List.append_cancel_left_eq] at cut
      obtain ⟨taken, left, part, rfl, rfl, remains, started, sizes⟩ := ih cut
      refine ⟨next :: taken, left, part, rfl, by simp, remains, started, ?_⟩
      rw [List.map_cons, advance, if_neg short, List.length_append, Nat.add_sub_cancel_left]
      exact sizes

theorem part_at_end {records : List (List α)} {part : List α} (started : PartOf part records) (cut : part = records.flatten) :
    records = [] ∧ part = [] := by
  cases records with
  | nil => exact ⟨rfl, started⟩
  | cons =>
    obtain ⟨rest, unfinished, same⟩ := started
    have total := congrArg List.length cut
    have missing : 0 < rest.length := List.length_pos_iff.mpr unfinished
    simp only [List.flatten_cons, ← same, List.length_append] at total
    omega

end RobotMiddleware.Lib.Records
