import Clearance.Store.Basic
/-!
# Update — changing one flight of a store

Where no two flights have the same aircraft identification, the first flight with an identification is the only one
with it, so an update changes exactly that flight, at its place (`updateFirst_eq_map`, `updateFirst_eq_set`).
`flight?` looks up the flight that an update changes.
-/
namespace Clearance

/-- No two flights have the same aircraft identification. -/
def DistinctIds (flights : List Flight) : Prop := (flights.map (·.aircraftId)).Nodup

instance (flights : List Flight) : Decidable (DistinctIds flights) :=
  inferInstanceAs (Decidable (flights.map (·.aircraftId)).Nodup)

namespace DistinctIds

variable {flights : List Flight}

theorem eq_of_mem (h : DistinctIds flights) {f g : Flight} (hf : f ∈ flights) (hg : g ∈ flights)
    (hid : f.aircraftId = g.aircraftId) : f = g := by
  induction flights with
  | nil => cases hf
  | cons a fs ih =>
    rw [DistinctIds, List.map_cons, List.nodup_cons] at h
    rcases List.mem_cons.1 hf with hfa | hf'
    · rcases List.mem_cons.1 hg with hga | hg'
      · rw [hfa, hga]
      · exact absurd (List.mem_map.2 ⟨g, hg', by rw [← hid, hfa]⟩) h.1
    · rcases List.mem_cons.1 hg with hga | hg'
      · exact absurd (List.mem_map.2 ⟨f, hf', by rw [hid, hga]⟩) h.1
      · exact ih h.2 hf' hg'

theorem of_map_eq (h : DistinctIds flights) {flights' : List Flight}
    (hids : flights'.map (·.aircraftId) = flights.map (·.aircraftId)) : DistinctIds flights' := by
  rw [DistinctIds, hids]; exact h

end DistinctIds

namespace Flight

theorem mem_of_resolve {flights : List Flight} {fid : String} {f : Flight} (h : resolve flights fid = some f) :
    f ∈ flights := by
  simp only [resolve, Option.orElse_eq_orElse, Option.orElse_eq_or, Option.or_eq_some_iff] at h
  rcases h with h | ⟨-, h | ⟨-, h⟩⟩ <;> exact List.mem_of_find?_eq_some h

end Flight

namespace Store

variable {id : String} {change : Flight → Flight}

/-- **An update keeps every view of the flights that its change keeps.** -/
theorem map_updateFirst {α : Type} (view : Flight → α) (hview : ∀ f, view (change f) = view f) :
    ∀ flights, (updateFirst id change flights).map view = flights.map view
  | [] => rfl
  | f :: fs => by
    unfold updateFirst
    split
    · rw [List.map_cons, List.map_cons, hview]
    · rw [List.map_cons, List.map_cons, map_updateFirst view hview fs]

theorem updateFirst_of_not_mem : ∀ {flights : List Flight}, id ∉ flights.map (·.aircraftId) →
    updateFirst id change flights = flights
  | [], _ => rfl
  | f :: fs, h => by
    rw [List.map_cons, List.mem_cons, not_or] at h
    have hne : (f.aircraftId == id) = false := beq_eq_false_iff_ne.2 (Ne.symm h.1)
    rw [updateFirst, hne, updateFirst_of_not_mem h.2]
    rfl

theorem updateFirst_id : ∀ flights : List Flight, updateFirst id (fun f => f) flights = flights
  | [] => rfl
  | f :: fs => by
    rw [updateFirst, updateFirst_id fs]
    split <;> rfl

/-- **Where identifications are distinct, an update is made wherever it fits.** -/
theorem updateFirst_eq_map : ∀ {flights : List Flight}, DistinctIds flights →
    updateFirst id change flights = flights.map fun f => if f.aircraftId = id then change f else f
  | [], _ => rfl
  | f :: fs, h => by
    rw [DistinctIds, List.map_cons, List.nodup_cons] at h
    have ih : updateFirst id change fs = fs.map fun f => if f.aircraftId = id then change f else f :=
      updateFirst_eq_map h.2
    rw [updateFirst, List.map_cons]
    by_cases hf : f.aircraftId = id
    · subst hf
      rw [updateFirst_of_not_mem h.1] at ih
      rw [beq_self_eq_true, if_pos rfl, if_pos rfl, ← ih]
    · rw [beq_eq_false_iff_ne.2 hf, if_neg hf, ← ih]
      rfl

/-- **Where identifications are distinct, an update changes one flight at its place.** -/
theorem updateFirst_eq_set : ∀ {flights : List Flight} {k : Nat} {f : Flight}, DistinctIds flights →
    flights[k]? = some f → updateFirst f.aircraftId change flights = flights.set k (change f)
  | [], _, _, _, hk => by cases hk
  | a :: fs, 0, f, _, hk => by
    cases hk
    rw [updateFirst, beq_self_eq_true, if_pos rfl, List.set_cons_zero]
  | a :: fs, k + 1, f, h, hk => by
    rw [DistinctIds, List.map_cons, List.nodup_cons] at h
    rw [List.getElem?_cons_succ] at hk
    have hne : a.aircraftId ≠ f.aircraftId := fun he =>
      h.1 (List.mem_map.2 ⟨f, List.mem_of_getElem? hk, he.symm⟩)
    rw [updateFirst, beq_eq_false_iff_ne.2 hne, List.set_cons_succ, updateFirst_eq_set h.2 hk]
    rfl

/-! ## Looking up -/

/-- The flight that intents for this aircraft identification are carried out on. -/
def flight? (s : Store) (id : String) : Option Flight := s.flights.find? (·.aircraftId == id)

variable {s t : Store} {f : Flight}

theorem flight?_eq_some_iff (h : DistinctIds s.flights) :
    s.flight? id = some f ↔ f ∈ s.flights ∧ f.aircraftId = id := by
  have hfound : ∀ g, s.flight? id = some g → g ∈ s.flights ∧ g.aircraftId = id := fun g hg => by
    have hid := List.find?_some hg
    exact ⟨List.mem_of_find?_eq_some hg, by simpa using hid⟩
  refine ⟨hfound f, fun ⟨hf, hid⟩ => ?_⟩
  obtain ⟨g, hg⟩ : ∃ g, s.flight? id = some g := by
    rw [← Option.isSome_iff_exists, flight?, List.find?_isSome]
    exact ⟨f, hf, by simpa using hid⟩
  obtain ⟨hmem, hgid⟩ := hfound g hg
  rw [hg, h.eq_of_mem hf hmem (hid.trans hgid.symm)]

/-- **Where every flight is changed on its own, the flight with an identification is changed so.** -/
theorem flight?_of_map (hkeep : ∀ f, (change f).aircraftId = f.aircraftId) (ht : t.flights = s.flights.map change) :
    t.flight? id = (s.flight? id).map change := by
  have hcomp : (fun f : Flight => f.aircraftId == id) ∘ change = fun f => f.aircraftId == id := by
    funext f
    rw [Function.comp_apply, hkeep]
  rw [flight?, flight?, ht, List.find?_map, hcomp]

end Store
end Clearance
