import Mathlib.Data.List.Basic

/-! Frames of one size in a byte stream: a reader that has collected as many
bytes as a frame has, has collected the first frame. The frames may differ, or be
one frame again and again whose last copy the writer did not finish. -/

namespace RobotMiddleware.Lib.Framing

universe u v
variable {α : Type u} {β : Type v} {encode : α → List β} {size : Nat}

/-- The bytes of a sequence of frames. -/
def stream (encode : α → List β) (items : List α) : List β := items.flatMap encode

@[simp] theorem stream_nil : stream encode [] = [] := rfl

@[simp] theorem stream_cons (item : α) (items : List α) : stream encode (item :: items) = encode item ++ stream encode items :=
  List.flatMap_cons

theorem stream_snoc (items : List α) (item : α) : stream encode (items ++ [item]) = stream encode items ++ encode item := by
  simp [stream]

theorem first_frame {buffer bytes : List β} {items : List α} (fixed : ∀ item, (encode item).length = size)
    (positive : 0 < size) (same : buffer ++ bytes = stream encode items) (full : buffer.length = size) :
    ∃ item rest, items = item :: rest ∧ buffer = encode item ∧ bytes = stream encode rest := by
  cases items with
  | nil =>
    have empty : buffer = [] := (List.append_eq_nil_iff.mp same).1
    simp [empty] at full
    omega
  | cons item rest =>
    rw [stream_cons] at same
    obtain ⟨front, back⟩ := List.append_inj same (full.trans (fixed item).symm)
    exact ⟨item, rest, rfl, front, back⟩

/-- Copies of one frame, and the part of the next copy that is there. -/
def repeated (frame : List β) (count : Nat) (torn : List β) : List β := (List.replicate count frame).flatten ++ torn

variable {frame torn : List β} {count : Nat}

theorem repeated_append_frame : repeated frame count [] ++ frame = repeated frame (count + 1) [] := by
  simp [repeated, List.replicate_succ']

theorem repeated_append_torn (part : List β) : repeated frame count [] ++ part = repeated frame count part := by
  simp [repeated]

theorem first_repeated {buffer bytes : List β} (short : torn.length < frame.length)
    (same : buffer ++ bytes = repeated frame count torn) (full : buffer.length = frame.length) :
    ∃ rest, count = rest + 1 ∧ buffer = frame ∧ bytes = repeated frame rest torn := by
  cases count with
  | zero =>
    have length := congrArg List.length same
    simp only [repeated, List.replicate_zero, List.flatten_nil, List.nil_append, List.length_append] at length
    omega
  | succ rest =>
    rw [repeated, List.replicate_succ, List.flatten_cons, List.append_assoc] at same
    obtain ⟨front, back⟩ := List.append_inj same full
    exact ⟨rest, rfl, front, back⟩

theorem prefix_repeated (positive : 0 < count) : frame <+: repeated frame count torn := by
  obtain ⟨rest, rfl⟩ := Nat.exists_eq_succ_of_ne_zero (Nat.ne_of_gt positive)
  rw [repeated, List.replicate_succ, List.flatten_cons, List.append_assoc]
  exact List.prefix_append _ _

end RobotMiddleware.Lib.Framing
