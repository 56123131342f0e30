import Std.Data.ExtTreeMap
import Std.Data.ExtTreeSet
import Mathlib.Data.List.Basic

/-! Maps that refer to each other by key. `Inverse` ties a table of names to the
records they name; `Indexed` ties records to the holders that list them. Each
update of the tables keeps the tie when it is made on both sides. -/

namespace RobotMiddleware.Lib.Index
open Std

variable {κ ι ε ρ σ : Type} [Ord κ] [TransOrd κ] [Ord ι] [TransOrd ι] [LawfulEqOrd ι] [Ord ε] [TransOrd ε]

theorem mem_iff_found {map : ExtTreeMap κ ρ} {key : κ} : key ∈ map ↔ ∃ value, map[key]? = some value := by
  rw [ExtTreeMap.mem_iff_isSome_getElem?, Option.isSome_iff_exists]

/-- Every record carries its own key, and one that replaces it does too. -/
theorem keyed_replace {records : ExtTreeMap ι ρ} {own : ρ → ι}
    (ids : ∀ id record, records[id]? = some record → own record = id) {key : ι} {old value : ρ}
    (found : records[key]? = some old) (same : own value = own old) :
    ∀ id record, (records.insert key value)[id]? = some record → own record = id := by
  intro id record stored
  have known := ids id record
  grind

/-- The names are exactly the keys under which the records are known. -/
def Inverse (names : ExtTreeMap κ ι) (records : ExtTreeMap ι ρ) (name : ρ → κ) : Prop :=
  ∀ key id, names[key]? = some id ↔ ∃ record, records[id]? = some record ∧ name record = key

namespace Inverse
variable {names : ExtTreeMap κ ι} {records : ExtTreeMap ι ρ} {name : ρ → κ} {id : ι}
  (inverse : Inverse names records name)
include inverse

theorem insertIfNew [LawfulEqOrd κ] {record : ρ} (freshName : names[name record]? = none) (freshId : records[id]? = none) :
    Inverse (names.insertIfNew (name record) id) (records.insertIfNew id record) name := by
  intro key other
  have known := inverse key other
  have former := inverse key id
  grind

theorem replace {old record : ρ} (found : records[id]? = some old) (same : name record = name old) :
    Inverse names (records.insert id record) name := by
  intro key other
  have known := inverse key other
  grind

theorem erase [LawfulEqOrd κ] {record : ρ} (found : records[id]? = some record) :
    Inverse (names.erase (name record)) (records.erase id) name := by
  intro key other
  have known := inverse key other
  have own := (inverse (name record) id).mpr ⟨record, found, rfl⟩
  grind

theorem map {update : ι → ρ → ρ} (same : ∀ id record, name (update id record) = name record) :
    Inverse names (records.map update) name := by
  intro key other
  have known := inverse key other
  grind

omit [LawfulEqOrd ι] in
/-- The records determine the names. -/
theorem unique [LawfulEqOrd κ] {others : ExtTreeMap κ ι} (again : Inverse others records name) : names = others := by
  apply ExtTreeMap.ext_getElem?
  intro key
  apply Option.ext
  intro id
  rw [inverse key id, again key id]

end Inverse

/-- A holder lists exactly the records that name it as their owner. -/
def Indexed (records : ExtTreeMap ε ρ) (owner : ρ → ι) (holders : ExtTreeMap ι σ) (member : σ → ε → Prop) : Prop :=
  ∀ element id, (∃ record, records[element]? = some record ∧ owner record = id) ↔
    ∃ holder, holders[id]? = some holder ∧ member holder element

namespace Indexed
variable {records : ExtTreeMap ε ρ} {owner : ρ → ι} {holders : ExtTreeMap ι σ} {member : σ → ε → Prop} {id : ι} {element : ε}
  (indexed : Indexed records owner holders member)
include indexed

omit [LawfulEqOrd ι] in
theorem iff {holder : σ} (found : holders[id]? = some holder) :
    member holder element ↔ ∃ record, records[element]? = some record ∧ owner record = id := by
  have known := indexed element id
  simp only [found, Option.some.injEq, exists_eq_left'] at known
  exact known.symm

omit [LawfulEqOrd ι] in
theorem holder {record : ρ} (found : records[element]? = some record) :
    ∃ holder, holders[owner record]? = some holder ∧ member holder element :=
  (indexed element (owner record)).mp ⟨record, found, rfl⟩

theorem attach [LawfulEqOrd ε] {record : ρ} {old holder : σ}
    (fresh : records[element]? = none) (found : holders[owner record]? = some old)
    (listed : ∀ other, member holder other ↔ other = element ∨ member old other) :
    Indexed (records.insertIfNew element record) owner (holders.insert (owner record) holder) member := by
  intro other key
  have known := indexed other key
  have own := indexed element key
  grind

theorem detach [LawfulEqOrd ε] {record : ρ} {old holder : σ}
    (present : records[element]? = some record) (found : holders[owner record]? = some old)
    (listed : ∀ other, member holder other ↔ other ≠ element ∧ member old other) :
    Indexed (records.erase element) owner (holders.insert (owner record) holder) member := by
  intro other key
  have known := indexed other key
  have own := indexed element key
  grind

theorem replace {old holder : σ} (found : holders[id]? = some old) (same : ∀ other, member holder other ↔ member old other) :
    Indexed records owner (holders.insert id holder) member := by
  intro other key
  have known := indexed other key
  grind

theorem insertHolder {holder : σ} (fresh : holders[id]? = none)
    (empty : ∀ other, ¬member holder other) : Indexed records owner (holders.insertIfNew id holder) member := by
  intro other key
  have known := indexed other key
  grind

theorem eraseHolder {holder : σ} (found : holders[id]? = some holder)
    (empty : ∀ other, ¬member holder other) : Indexed records owner (holders.erase id) member := by
  intro other key
  have known := indexed other key
  grind

theorem map {update : ι → σ → σ} (same : ∀ id holder other, member (update id holder) other ↔ member holder other) :
    Indexed records owner (holders.map update) member := by
  intro other key
  have known := indexed other key
  grind

end Indexed

/-- Records have left a table, all of them with owners that go. -/
structure Trims {ω : Type} (owner : ρ → ω) (goes : ω → Prop) (before after : ExtTreeMap κ ρ) : Prop where
  within : ∀ (key : κ) (record : ρ), after[key]? = some record → before[key]? = some record
  spares : ∀ (key : κ) (record : ρ), before[key]? = some record → ¬goes (owner record) → after[key]? = some record

namespace Trims
variable {ω : Type} {owner : ρ → ω} {goes more all : ω → Prop} {before middle after : ExtTreeMap κ ρ}

theorem of_eq (same : after = before) : Trims owner goes before after := by
  subst same
  exact ⟨fun _ _ stored => stored, fun _ _ stored _ => stored⟩

theorem trans (first : Trims owner goes before middle) (last : Trims owner more middle after)
    (former : ∀ id, goes id → all id) (later : ∀ id, more id → all id) : Trims owner all before after := by
  refine ⟨fun _ _ stored => first.within _ _ (last.within _ _ stored), fun _ _ stored spared => ?_⟩
  exact last.spares _ _ (first.spares _ _ stored fun lost => spared (former _ lost)) fun lost => spared (later _ lost)

theorem erase [LawfulEqOrd κ] {key : κ} {record : ρ} (present : before[key]? = some record) (leaves : goes (owner record)) :
    Trims owner goes before (before.erase key) := by
  refine ⟨fun other value stored => ?_, fun other value stored spared => ?_⟩
  all_goals grind

end Trims
end RobotMiddleware.Lib.Index
