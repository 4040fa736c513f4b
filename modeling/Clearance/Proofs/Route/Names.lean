import Clearance.Route.Basic
/-!
# Names — what a route text names, whatever the table

The names of a parsed route do not depend on the positions that the table has, and with these they are the fixes
(`parse_eq_map`).  They are the tokens behind the markers in front (`exists_markers`).  A destination is taken off where
the text ends with it.
-/
namespace Clearance
namespace Route

open Text

theorem names_parse (raw : String) (table : FixTable) :
    Fix.names (parse raw table) = (nameTexts raw.toList).map String.ofList := by
  rw [Fix.names, parse, List.map_map]
  rfl

theorem names_parseTo (raw destination : String) (table : FixTable) :
    Fix.names (parseTo raw destination table) =
      (nameTexts (withoutDestination raw destination).toList).map String.ofList :=
  names_parse _ table

theorem names_parse_eq_iff {raw : String} {table : FixTable} {names : List String} :
    Fix.names (parse raw table) = names ↔ nameTexts raw.toList = names.map String.toList := by
  rw [names_parse]
  constructor
  · rintro rfl
    simp
  · intro h
    rw [h]
    simp

theorem mem_tokens_of_mem_names {raw name : String} {table : FixTable} (h : name ∈ Fix.names (parse raw table)) :
    name.toList ∈ tokens (trim raw.toList) := by
  rw [names_parse] at h
  obtain ⟨t, ht, rfl⟩ := List.mem_map.1 h
  rw [String.toList_ofList]
  exact (List.dropWhile_sublist _).subset ht

/-- **The fixes that are read are their names**, with the positions that the table has for these. -/
theorem parse_eq_map (raw : String) (table : FixTable) :
    parse raw table = (Fix.names (parse raw table)).map fun name => ⟨name, table.get? name⟩ := by
  rw [names_parse, List.map_map]
  rfl

theorem isDot_of_isBlank {c : Char} (h : isBlank c = true) : isDot c = false := by
  refine decide_eq_false fun hdot => ?_
  rw [hdot] at h
  exact absurd h (by decide)

theorem exists_markers (raw : List Char) : ∃ markers, tokens (trim raw) = markers ++ nameTexts raw ∧
    (∀ t ∈ markers, isMarker t = true) ∧ ∀ t ∈ (nameTexts raw).head?, isMarker t = false := by
  refine ⟨(tokens (trim raw)).takeWhile isMarker, List.takeWhile_append_dropWhile.symm,
    List.all_eq_true.1 List.all_takeWhile, fun t ht => ?_⟩
  have hhead := List.head?_dropWhile_not isMarker (tokens (trim raw))
  rw [← nameTexts, ht] at hhead
  exact hhead

/-- **A destination at the end is taken off.** -/
theorem withoutDestination_of_append {route destination : String} {w : List Char}
    (h : route.toList = w ++ destination.toList) : (withoutDestination route destination).toList = w := by
  unfold withoutDestination dropSuffix?
  split
  · rename_i hempty
    rw [h, String.isEmpty_iff.1 hempty]
    exact List.append_nil w
  · rw [if_pos (List.isSuffixOf_iff_suffix.2 ⟨w, h.symm⟩), h, List.length_append, Nat.add_sub_cancel,
      List.take_left]
    exact String.toList_ofList

theorem withoutDestination_of_not_suffix {route destination : String} (h : ¬destination.toList <:+ route.toList) :
    withoutDestination route destination = route := by
  unfold withoutDestination dropSuffix?
  split
  · rfl
  · rw [if_neg fun hs => h (List.isSuffixOf_iff_suffix.1 hs)]

theorem withoutDestination_cases (route destination : String) :
    route.toList = (withoutDestination route destination).toList ++ destination.toList ∨
      ¬destination.toList <:+ route.toList ∧ withoutDestination route destination = route := by
  by_cases h : destination.toList <:+ route.toList
  · obtain ⟨w, hw⟩ := h
    exact .inl (by rw [withoutDestination_of_append hw.symm, hw])
  · exact .inr ⟨h, withoutDestination_of_not_suffix h⟩

end Route
end Clearance
