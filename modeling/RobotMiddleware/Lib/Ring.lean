import Mathlib.Data.List.Basic
import Mathlib.Data.Nat.ModEq

/-! A circular buffer read as a list. `read` walks `count` slots from a start
position, and the updates of a ring act on what is read as list operations. -/

namespace RobotMiddleware.Lib.Ring

variable {α : Type} [Inhabited α]

def slot (slots : List α) (index : Nat) : α := slots.getD index default

def read (slots : List α) (capacity : Nat) : (start count : Nat) → List α
  | _, 0 => []
  | start, count + 1 => slot slots (start % capacity) :: read slots capacity (start + 1) count

variable {slots : List α} {capacity : Nat}

@[simp] theorem read_length (slots : List α) (capacity start count : Nat) :
    (read slots capacity start count).length = count := by
  induction count generalizing start with
  | zero => rfl
  | succ count ih => simp [read, ih]

theorem read_mod (slots : List α) (capacity start count : Nat) :
    read slots capacity (start % capacity) count = read slots capacity start count := by
  induction count generalizing start with
  | zero => rfl
  | succ count ih =>
    rw [read, read, Nat.mod_mod, ← ih, ← ih (start + 1), Nat.mod_add_mod]

theorem read_add (slots : List α) (capacity start first second : Nat) :
    read slots capacity start (first + second) =
      read slots capacity start first ++ read slots capacity (start + first) second := by
  induction first generalizing start with
  | zero => simp [read]
  | succ first ih =>
    rw [Nat.succ_add, read, read, ih]
    simp [Nat.succ_add_eq_add_succ]

theorem slot_set (full : capacity = slots.length) (index other : Nat) (value : α) (bound : index < capacity) :
    slot (slots.set index value) other = if other = index then value else slot slots other := by
  subst full
  simp only [slot, List.getD_eq_getElem?_getD, List.getElem?_set]
  by_cases same : other = index
  · subst other
    simp [bound]
  · simp [same, Ne.symm same]

theorem mod_ne {start first second : Nat} (apart : first < second) (within : second < first + capacity) :
    (start + first) % capacity ≠ (start + second) % capacity := by
  intro same
  have congruent : first ≡ second [MOD capacity] := Nat.ModEq.add_left_cancel' start same
  have turn := (Nat.modEq_iff_dvd' (Nat.le_of_lt apart)).mp congruent
  have large := Nat.le_of_dvd (by omega) turn
  omega

/-- A store outside the window leaves what is read through it. -/
theorem read_set_outside (full : capacity = slots.length) {start count index : Nat} {value : α} (bound : index < capacity)
    (outside : ∀ position, position < count → (start + position) % capacity ≠ index) :
    read (slots.set index value) capacity start count = read slots capacity start count := by
  induction count generalizing start with
  | zero => rfl
  | succ count ih =>
    rw [read, read, slot_set full index _ value bound, if_neg (by simpa using outside 0 (by omega))]
    congr 1
    refine ih fun position below => ?_
    have later := outside (position + 1) (by omega)
    rwa [show start + (position + 1) = start + 1 + position by omega] at later

/-- Storing right after the window appends. -/
theorem read_push (full : capacity = slots.length) {start count : Nat} {value : α} (room : count < capacity) :
    read (slots.set ((start + count) % capacity) value) capacity start (count + 1) =
      read slots capacity start count ++ [value] := by
  have bound := Nat.mod_lt (start + count) (Nat.zero_lt_of_lt room)
  rw [read_add, read_set_outside full bound fun position below => mod_ne below (by omega)]
  simp [read, slot_set full _ _ value bound]

/-- The loop that empties a ring from its head: the values and the last head. -/
def drain (slots : List α) (capacity : Nat) : (size head : Nat) → List α × Nat
  | 0, head => ([], head)
  | size + 1, head =>
    let (rest, last) := drain slots capacity size ((head + 1) % capacity)
    (slot slots head :: rest, last)

theorem drain_eq {head : Nat} (size : Nat) (inside : head < capacity) :
    drain slots capacity size head = (read slots capacity head size, (head + size) % capacity) := by
  induction size generalizing head with
  | zero => simp [drain, read, Nat.mod_eq_of_lt inside]
  | succ size ih =>
    have next : (head + 1) % capacity < capacity := Nat.mod_lt _ (Nat.zero_lt_of_lt inside)
    simp only [drain, ih next, read, read_mod, Nat.mod_eq_of_lt inside, Nat.mod_add_mod]
    congr 2
    omega

/-- The loop that moves the kept values of a ring together: `index` values have
been looked at and `kept` of them stored back from the head on. -/
def compact (keep : α → Bool) (capacity head : Nat) : (remaining index kept : Nat) → List α → List α × Nat
  | 0, _, kept, slots => (slots, kept)
  | remaining + 1, index, kept, slots =>
    let value := slot slots ((head + index) % capacity)
    if keep value then
      compact keep capacity head remaining (index + 1) (kept + 1) (slots.set ((head + kept) % capacity) value)
    else compact keep capacity head remaining (index + 1) kept slots

theorem compact_spec (keep : α → Bool) (head : Nat) {remaining index kept : Nat} {slots : List α}
    (full : capacity = slots.length) (behind : kept ≤ index) (fits : index + remaining ≤ capacity) :
    (compact keep capacity head remaining index kept slots).1.length = capacity ∧
      (compact keep capacity head remaining index kept slots).2 ≤ capacity ∧
      read (compact keep capacity head remaining index kept slots).1 capacity head
          (compact keep capacity head remaining index kept slots).2 =
        read slots capacity head kept ++ (read slots capacity (head + index) remaining).filter keep := by
  induction remaining generalizing index kept slots with
  | zero => exact ⟨full.symm, by simp only [compact]; omega, by simp [compact, read]⟩
  | succ remaining ih =>
    simp only [compact, read]
    split
    next keeps =>
      have bound : (head + kept) % capacity < capacity := Nat.mod_lt _ (by omega)
      have later : read (slots.set ((head + kept) % capacity) (slot slots ((head + index) % capacity))) capacity
          (head + (index + 1)) remaining = read slots capacity (head + (index + 1)) remaining := by
        refine read_set_outside full bound fun position below => ?_
        rw [Nat.add_assoc]
        exact (mod_ne (by omega) (by omega)).symm
      have still : capacity = (slots.set ((head + kept) % capacity) (slot slots ((head + index) % capacity))).length := by
        simpa using full
      have step := ih still (Nat.succ_le_succ behind) (by omega)
      rw [later, read_push full (by omega)] at step
      simpa [List.filter_cons, keeps, Nat.add_assoc] using step
    next drops =>
      have step := ih full (Nat.le_succ_of_le behind) (by omega)
      simpa [List.filter_cons, drops, Nat.add_assoc] using step

end RobotMiddleware.Lib.Ring
