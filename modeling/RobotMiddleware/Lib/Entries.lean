import Std.Data.ExtTreeMap
import Std.Data.ExtTreeSet
import Mathlib.Data.List.Nodup
import Mathlib.Data.List.Perm.Basic

/-! The entries of a map as a list. An update of the map adds or removes one entry,
wherever it stands in the list. -/

namespace RobotMiddleware.Lib.Entries
open Std

variable {κ ρ : Type} [Ord κ] [TransOrd κ] [LawfulEqOrd κ] {map : ExtTreeMap κ ρ} {key : κ} {value : ρ}

theorem nodup_toList (map : ExtTreeMap κ ρ) : map.toList.Nodup := by
  refine ExtTreeMap.distinct_keys_toList.imp fun different same => different ?_
  rw [same]
  exact ReflOrd.compare_self

theorem nodup_members (set : ExtTreeSet κ) : set.toList.Nodup := by
  refine ExtTreeSet.distinct_toList.imp fun different same => different ?_
  rw [same]
  exact ReflOrd.compare_self

theorem toList_insert (absent : map[key]? = none) : (map.insert key value).toList.Perm ((key, value) :: map.toList) := by
  have new : (key, value) ∉ map.toList := by
    rw [ExtTreeMap.mem_toList_iff_getElem?_eq_some, absent]
    simp
  refine (List.perm_ext_iff_of_nodup (nodup_toList _) (List.nodup_cons.mpr ⟨new, nodup_toList _⟩)).mpr ?_
  rintro ⟨other, record⟩
  rw [ExtTreeMap.mem_toList_iff_getElem?_eq_some, List.mem_cons, ExtTreeMap.mem_toList_iff_getElem?_eq_some, Prod.mk.injEq]
  grind

theorem toList_erase (found : map[key]? = some value) : map.toList.Perm ((key, value) :: (map.erase key).toList) := by
  have gone : (key, value) ∉ (map.erase key).toList := by
    rw [ExtTreeMap.mem_toList_iff_getElem?_eq_some]
    grind
  refine (List.perm_ext_iff_of_nodup (nodup_toList _) (List.nodup_cons.mpr ⟨gone, nodup_toList _⟩)).mpr ?_
  rintro ⟨other, record⟩
  rw [ExtTreeMap.mem_toList_iff_getElem?_eq_some, List.mem_cons, ExtTreeMap.mem_toList_iff_getElem?_eq_some, Prod.mk.injEq]
  grind

/-- The records that a set of keys stands for, as they stand in the map. -/
theorem filterMap_members {set : ExtTreeSet κ} {mine : ρ → Bool}
    (listed : ∀ key, key ∈ set ↔ ∃ record, map[key]? = some record ∧ mine record) :
    (set.toList.filterMap fun key => map[key]?).Perm ((map.toList.map Prod.snd).filter mine) := by
  have pairs : (set.toList.filterMap fun key => (map[key]?).map (Prod.mk key)).Perm
      (map.toList.filter fun entry => mine entry.2) := by
    have distinct : (set.toList.filterMap fun key => (map[key]?).map (Prod.mk key)).Nodup := by
      refine List.Nodup.filterMap ?_ (nodup_members set)
      rintro first second entry held also
      obtain ⟨_, _, rfl⟩ := Option.map_eq_some_iff.mp held
      obtain ⟨_, _, same⟩ := Option.map_eq_some_iff.mp also
      exact (congrArg Prod.fst same).symm
    refine (List.perm_ext_iff_of_nodup distinct ((nodup_toList map).filter _)).mpr ?_
    rintro ⟨key, record⟩
    simp only [List.mem_filterMap, ExtTreeSet.mem_toList, Option.map_eq_some_iff, Prod.mk.injEq, List.mem_filter,
      ExtTreeMap.mem_toList_iff_getElem?_eq_some, listed]
    constructor
    · rintro ⟨_, ⟨other, stored, held⟩, _, found, rfl, rfl⟩
      rw [stored] at found
      cases found
      exact ⟨stored, held⟩
    · rintro ⟨stored, held⟩
      exact ⟨key, ⟨record, stored, held⟩, record, stored, rfl, rfl⟩
  have records := pairs.map Prod.snd
  simp only [List.map_filterMap, Option.map_map] at records
  rw [List.filter_map]
  simpa [Function.comp_def] using records

end RobotMiddleware.Lib.Entries
