import Mathlib.Data.List.Basic

/-! Memory as a function from positions to cells. Data written at one place is
read back there and not seen from any place that it does not reach; after a
series of writes that keep out of each other's way every one of them is read back. -/

namespace RobotMiddleware.Lib.Memory
variable {β : Type} {memory other : Nat → β} {offset place count : Nat} {data : List β}

def read (memory : Nat → β) (offset count : Nat) : List β :=
  (List.range count).map fun index => memory (offset + index)

def write (memory : Nat → β) (offset : Nat) (data : List β) : Nat → β := fun position =>
  if offset ≤ position then data[position - offset]?.getD (memory position) else memory position

@[simp] theorem read_length (memory : Nat → β) (offset count : Nat) : (read memory offset count).length = count := by
  simp [read]

theorem write_outside {position : Nat} (outside : position < offset ∨ offset + data.length ≤ position) :
    write memory offset data position = memory position := by
  unfold write
  split
  next reached =>
    have beyond : data.length ≤ position - offset := by omega
    rw [List.getElem?_eq_none beyond, Option.getD_none]
  next => rfl

theorem read_congr (same : ∀ position, offset ≤ position → position < offset + count → memory position = other position) :
    read memory offset count = read other offset count := by
  apply List.map_congr_left
  intro index inside
  have bound := List.mem_range.mp inside
  exact same (offset + index) (by omega) (by omega)

theorem read_write (memory : Nat → β) (offset : Nat) (data : List β) :
    read (write memory offset data) offset data.length = data := by
  apply List.ext_getElem (by simp)
  intro index first last
  simp [read, write, last]

theorem read_write_apart (apart : place + count ≤ offset ∨ offset + data.length ≤ place) :
    read (write memory offset data) place count = read memory place count := by
  apply read_congr
  intro position low high
  exact write_outside (by omega)

/-- A write: where it starts and what it leaves there. -/
abbrev Write (β : Type) := Nat × List β

def writeAll (memory : Nat → β) (writes : List (Write β)) : Nat → β :=
  writes.foldl (fun memory item => write memory item.1 item.2) memory

def Apart (first second : Write β) : Prop :=
  first.1 + first.2.length ≤ second.1 ∨ second.1 + second.2.length ≤ first.1

theorem read_writeAll_apart {writes : List (Write β)}
    (apart : ∀ item ∈ writes, place + count ≤ item.1 ∨ item.1 + item.2.length ≤ place) :
    read (writeAll memory writes) place count = read memory place count := by
  induction writes generalizing memory with
  | nil => rfl
  | cons item rest ih =>
    calc read (writeAll memory (item :: rest)) place count
        = read (writeAll (write memory item.1 item.2) rest) place count := rfl
      _ = read (write memory item.1 item.2) place count := ih fun next member => apart next (by simp [member])
      _ = read memory place count := read_write_apart (apart item (by simp))

theorem read_writeAll {writes : List (Write β)} {item : Write β} (apart : writes.Pairwise Apart) (member : item ∈ writes) :
    read (writeAll memory writes) item.1 item.2.length = item.2 := by
  induction writes generalizing memory with
  | nil => cases member
  | cons first rest ih =>
    obtain ⟨clear, later⟩ := List.pairwise_cons.mp apart
    rcases List.mem_cons.mp member with rfl | member
    · calc read (writeAll memory (item :: rest)) item.1 item.2.length
          = read (writeAll (write memory item.1 item.2) rest) item.1 item.2.length := rfl
        _ = read (write memory item.1 item.2) item.1 item.2.length := read_writeAll_apart clear
        _ = item.2 := read_write memory item.1 item.2
    · exact ih later member

end RobotMiddleware.Lib.Memory
