import Mathlib.Algebra.Ring.Nat
import Mathlib.Data.List.Nodup
import Mathlib.Data.List.Range

/-! Identifiers drawn from a 64-bit counter that starts at one. The identifiers
issued so far are the first ones, so they repeat only once the counter has gone
all the way round. -/

namespace RobotMiddleware.Lib.Numbering

def firstIds (count : Nat) : List UInt64 := (List.range count).map fun index => UInt64.ofNat (index + 1)

theorem firstIds_succ (count : Nat) : firstIds (count + 1) = firstIds count ++ [UInt64.ofNat (count + 1)] := by
  simp [firstIds, List.range_succ]

theorem mem_firstIds {count : Nat} (few : count < 2 ^ 64 - 1) {id : UInt64} (member : id ∈ firstIds count) :
    id.toNat ≤ count := by
  obtain ⟨index, inside, rfl⟩ := List.mem_map.mp member
  have small := List.mem_range.mp inside
  rw [UInt64.toNat_ofNat', Nat.mod_eq_of_lt (by omega)]
  omega

theorem firstIds_nodup {count : Nat} (few : count < 2 ^ 64 - 1) : (firstIds count).Nodup := by
  refine List.Nodup.map_on ?_ List.nodup_range
  intro first inside second present same
  have low := List.mem_range.mp inside
  have high := List.mem_range.mp present
  have equal := congrArg UInt64.toNat same
  rw [UInt64.toNat_ofNat', UInt64.toNat_ofNat', Nat.mod_eq_of_lt (by omega), Nat.mod_eq_of_lt (by omega)] at equal
  omega

/-- The identifiers in use have been issued, and the counter stands behind them. -/
structure Numbered (next : UInt64) (issued : List UInt64) (used : UInt64 → Prop) : Prop where
  first : issued = firstIds issued.length
  next : next = UInt64.ofNat (issued.length + 1)
  used : ∀ id, used id → id ∈ issued

theorem numbered_start {used : UInt64 → Prop} (none : ∀ id, ¬used id) : Numbered 1 [] used :=
  ⟨rfl, rfl, fun id taken => absurd taken (none id)⟩

/-- A step that gives out at most one identifier, and uses no other new one. -/
def Takes (before : UInt64) (given : Option UInt64) (after : UInt64) (old new : UInt64 → Prop) : Prop :=
  (given = none ∧ after = before ∧ ∀ id, new id → old id) ∨
    (given = some before ∧ after = before + 1 ∧ ∀ id, new id → id = before ∨ old id)

variable {before after : UInt64} {given : Option UInt64} {issued : List UInt64} {old new : UInt64 → Prop}

theorem Numbered.takes (numbered : Numbered before issued old) (takes : Takes before given after old new) :
    Numbered after (issued ++ given.toList) new := by
  rcases takes with ⟨rfl, rfl, kept⟩ | ⟨rfl, rfl, kept⟩
  · rw [Option.toList_none, List.append_nil]
    exact ⟨numbered.first, numbered.next, fun id taken => numbered.used id (kept id taken)⟩
  · rw [Option.toList_some]
    refine ⟨?_, ?_, ?_⟩
    · rw [List.length_append, List.length_singleton, firstIds_succ, ← numbered.first, ← numbered.next]
    · rw [numbered.next, List.length_append, List.length_singleton]
      rw [UInt64.ofNat_add (issued.length + 1) 1]
      rfl
    · intro id taken
      rcases kept id taken with rfl | former
      · simp
      · simp [numbered.used id former]

/-- The next identifier is new until the counter has gone round. -/
theorem Numbered.unissued (numbered : Numbered before issued old) (few : issued.length < 2 ^ 64 - 1) : before ∉ issued := by
  intro member
  rw [numbered.first] at member
  have small := mem_firstIds few member
  rw [numbered.next, UInt64.toNat_ofNat', Nat.mod_eq_of_lt (by omega)] at small
  omega

theorem Numbered.fresh (numbered : Numbered before issued old) (few : issued.length < 2 ^ 64 - 1) : ¬old before :=
  fun taken => numbered.unissued few (numbered.used before taken)

/-- An id that was issued and is not in use does not come back into use. -/
theorem Numbered.retired (numbered : Numbered before issued old) (few : issued.length < 2 ^ 64 - 1)
    (takes : Takes before given after old new) {id : UInt64} (member : id ∈ issued) (gone : ¬old id) : ¬new id := by
  intro back
  rcases takes with ⟨_, _, kept⟩ | ⟨_, _, kept⟩
  · exact gone (kept id back)
  · rcases kept id back with rfl | used
    · exact numbered.unissued few member
    · exact gone used

theorem Numbered.nodup (numbered : Numbered before issued old) (few : issued.length < 2 ^ 64 - 1) : issued.Nodup := by
  rw [numbered.first]
  exact firstIds_nodup few

/-- A counter that has not gone down has not gone round. -/
theorem Numbered.still_few (numbered : Numbered before issued old) (later : Numbered after (issued ++ given.toList) new)
    (few : issued.length < 2 ^ 64 - 1) (onward : before ≤ after) : (issued ++ given.toList).length < 2 ^ 64 - 1 := by
  cases given with
  | none => simpa using few
  | some id =>
    have next := later.next
    rw [Option.toList_some, List.length_append, List.length_singleton] at next ⊢
    rw [UInt64.le_iff_toNat_le, numbered.next, next, UInt64.toNat_ofNat', UInt64.toNat_ofNat'] at onward
    omega

end RobotMiddleware.Lib.Numbering
