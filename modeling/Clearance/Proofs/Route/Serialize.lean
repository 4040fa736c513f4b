import Clearance.Proofs.Route.Names
import Clearance.Proofs.Text.Trimmed
/-!
# Serialize — which fixes come back from a route text

Fixes are written as their names with single dots between them.  Reading the text gives the names back exactly if each
is a token, the first one is no marker, and the text has no blank at either end that trimming would take from a name
(`names_parse_serialize_iff`).  What is read from a route text is of that kind, but for the blanks.
-/
namespace Clearance
namespace Route

open Text

/-- Names like those of a route text: tokens, and the first one is no marker. -/
structure AreTokens (names : List String) : Prop where
  nonempty : ∀ name ∈ names, name ≠ ""
  undotted : ∀ name ∈ names, '.' ∉ name.toList
  unmarked : ∀ name ∈ names.head?, isMarker name.toList = false

/-- Names that are read as they are written: the first one does not begin with a blank either, and the last one does
not end with one. -/
structure Rereadable (names : List String) : Prop extends AreTokens names where
  front : ∀ name ∈ names.head?, ∀ c ∈ name.toList.head?, isBlank c = false
  back : ∀ name ∈ names.getLast?, ∀ c ∈ name.toList.getLast?, isBlank c = false

variable {names : List String} {fixes : List Fix} {table : FixTable} {ts : List (List Char)}

theorem toList_serialize (fixes : List Fix) :
    (serialize fixes).toList = List.intercalate ['.'] ((Fix.names fixes).map String.toList) := by
  rw [serialize, String.toList_intercalate]
  rfl

/-! ## The text of the names -/

theorem trimmed_of_nameTexts (hts : ∀ t ∈ ts, t ≠ [] ∧ ∀ c ∈ t, isDot c = false)
    (h : nameTexts (List.intercalate ['.'] ts) = ts) : Trimmed (List.intercalate ['.'] ts) := by
  have htext : (List.intercalate ['.'] ts).filter (fun c => !isDot c) = ts.flatten := by
    rw [← flatten_pieces, pieces_intercalate rfl hts]
  generalize List.intercalate ['.'] ts = s at h htext
  obtain ⟨markers, hmarkers⟩ := List.dropWhile_suffix isMarker (l := tokens (trim s))
  have hnames : ((trim s).filter fun c => !isDot c) = markers.flatten ++ ts.flatten := by
    rw [← flatten_pieces, ← List.flatten_append, ← h]
    exact congrArg List.flatten hmarkers.symm
  -- the names use up every character that is no dot, so none is left to be trimmed
  obtain ⟨before, after, hs, hbefore, hafter⟩ := exists_surrounding s
  have hkeep : ∀ blanks : List Char, (∀ c ∈ blanks, isBlank c = true) → blanks.filter (fun c => !isDot c) = blanks :=
    fun blanks hblanks => List.filter_eq_self.2 fun c hc => by rw [isDot_of_isBlank (hblanks c hc)]; rfl
  have hlength := congrArg List.length htext
  rw [hs, List.filter_append, List.filter_append, hnames, hkeep before hbefore, hkeep after hafter] at hlength
  simp only [List.length_append] at hlength
  obtain rfl : before = [] := List.eq_nil_of_length_eq_zero (by omega)
  obtain rfl : after = [] := List.eq_nil_of_length_eq_zero (by omega)
  rw [List.nil_append, List.append_nil] at hs
  rw [hs]
  exact trimmed_trim s

theorem nameTexts_intercalate_iff (hts : ∀ t ∈ ts, t ≠ [] ∧ ∀ c ∈ t, isDot c = false)
    (hunmarked : ∀ t ∈ ts.head?, isMarker t = false) :
    nameTexts (List.intercalate ['.'] ts) = ts ↔ Trimmed (List.intercalate ['.'] ts) := by
  refine ⟨trimmed_of_nameTexts hts, fun htrimmed => ?_⟩
  rw [nameTexts, htrimmed.trim_eq, tokens, pieces_intercalate rfl hts, dropWhile_of_head? hunmarked]

namespace AreTokens

theorem texts (h : AreTokens names) : ∀ t ∈ names.map String.toList, t ≠ [] ∧ ∀ c ∈ t, isDot c = false := by
  intro t ht
  obtain ⟨name, hname, rfl⟩ := List.mem_map.1 ht
  refine ⟨fun hnil => h.nonempty name hname (String.toList_eq_nil_iff.1 hnil), fun c hc => decide_eq_false ?_⟩
  rintro rfl
  exact h.undotted name hname hc

theorem rereadable_iff (h : AreTokens names) :
    Rereadable names ↔ Trimmed (List.intercalate ['.'] (names.map String.toList)) := by
  rw [trimmed_intercalate_iff fun t ht => (h.texts t ht).1, List.head?_map, List.getLast?_map]
  simp only [Option.mem_def, Option.map_eq_some_iff, forall_exists_index, and_imp, forall_apply_eq_imp_iff₂]
  exact ⟨fun hread => ⟨hread.front, hread.back⟩, fun hread => ⟨h, hread.1, hread.2⟩⟩

theorem names_parse_serialize_iff (h : AreTokens (Fix.names fixes)) :
    Fix.names (parse (serialize fixes) table) = Fix.names fixes ↔ Rereadable (Fix.names fixes) := by
  have hunmarked : ∀ t ∈ ((Fix.names fixes).map String.toList).head?, isMarker t = false := by
    rw [List.head?_map]
    simpa using h.unmarked
  rw [names_parse_eq_iff, toList_serialize, nameTexts_intercalate_iff h.texts hunmarked, h.rereadable_iff]

end AreTokens

/-! ## The fixes -/

theorem areTokens_parse (raw : String) (table : FixTable) : AreTokens (Fix.names (parse raw table)) := by
  have htoken : ∀ name ∈ Fix.names (parse raw table), name.toList ≠ [] ∧ ∀ c ∈ name.toList, isDot c = false :=
    fun name hname => of_mem_pieces (mem_tokens_of_mem_names hname)
  refine ⟨fun name hname hempty => (htoken name hname).1 (by rw [hempty]; rfl), fun name hname hdot => ?_, ?_⟩
  · exact absurd ((htoken name hname).2 '.' hdot) (by decide)
  · intro name hname
    rw [names_parse, List.head?_map] at hname
    obtain ⟨t, ht, rfl⟩ := Option.map_eq_some_iff.1 hname
    obtain ⟨-, -, -, hhead⟩ := exists_markers raw.toList
    rw [String.toList_ofList]
    exact hhead t ht

theorem rereadable_of_solid {raw : String} (h : ∀ c ∈ trim raw.toList, isBlank c = false) :
    Rereadable (Fix.names (parse raw table)) := by
  have hsolid : ∀ name ∈ Fix.names (parse raw table), ∀ c ∈ name.toList, isBlank c = false := by
    intro name hname c hc
    have hmem : c ∈ (trim raw.toList).filter fun d => !isDot d := by
      rw [← flatten_pieces]
      exact List.mem_flatten.2 ⟨_, mem_tokens_of_mem_names hname, hc⟩
    exact h c (List.mem_filter.1 hmem).1
  refine ⟨areTokens_parse raw table, fun name hname c hc => ?_, fun name hname c hc => ?_⟩
  · exact hsolid name (List.mem_of_mem_head? hname) c (List.mem_of_mem_head? hc)
  · exact hsolid name (List.mem_of_getLast? hname) c (List.mem_of_getLast? hc)

/-- **Which lists of fixes come back from their route text**, and with which positions.  What is read from a route text
is of that kind up to the blanks, so a route without blanks inside is read again as it was. -/
theorem parse_serialize_iff :
    (∀ (fixes : List Fix) (table : FixTable),
      Fix.names (parse (serialize fixes) table) = Fix.names fixes ↔ Rereadable (Fix.names fixes)) ∧
    (∀ (fixes : List Fix) (table : FixTable), Rereadable (Fix.names fixes) →
      parse (serialize fixes) table = fixes.map fun fix => ⟨fix.name, table.get? fix.name⟩) ∧
    (∀ (raw : String) (table : FixTable), AreTokens (Fix.names (parse raw table))) ∧
    ∀ (raw : String) (table : FixTable), (∀ c ∈ trim raw.toList, isBlank c = false) →
      parse (serialize (parse raw table)) table = parse raw table := by
  have hnames : ∀ (fixes : List Fix) (table : FixTable),
      Fix.names (parse (serialize fixes) table) = Fix.names fixes ↔ Rereadable (Fix.names fixes) := by
    intro fixes table
    refine ⟨fun h => ?_, fun h => h.toAreTokens.names_parse_serialize_iff.2 h⟩
    have htokens : AreTokens (Fix.names fixes) := h ▸ areTokens_parse (serialize fixes) table
    exact htokens.names_parse_serialize_iff.1 h
  refine ⟨hnames, fun fixes table h => ?_, areTokens_parse, fun raw table h => ?_⟩
  · rw [parse_eq_map, (hnames fixes table).2 h, Fix.names, List.map_map]
    rfl
  · rw [parse_eq_map, (hnames _ table).2 (rereadable_of_solid h), ← parse_eq_map]

theorem parse_serialize_iff_of_spaced_names :
    let fixes : List Fix := [⟨"OAK 1", none⟩, ⟨" J5 ", none⟩, ⟨"OAK090012", none⟩, ⟨"SAC", none⟩]
    let table := FixTable.ofList [("SAC", ⟨38, -121⟩)]
    Rereadable (Fix.names fixes) ∧
      parse (serialize fixes) table = fixes.map (fun fix => ⟨fix.name, table.get? fix.name⟩) ∧
      (∀ c ∈ trim " OAK090012..OAK.J5...SAC. ".toList, isBlank c = false) ∧
      parse (serialize (parse " OAK090012..OAK.J5...SAC. " table)) table =
        parse " OAK090012..OAK.J5...SAC. " table := by
  intro fixes table
  have htokens : AreTokens (Fix.names fixes) := ⟨by decide, by decide, by decide +kernel⟩
  have hfixes : Rereadable (Fix.names fixes) := htokens.rereadable_iff.2 (by decide +kernel)
  have hsolid : ∀ c ∈ trim " OAK090012..OAK.J5...SAC. ".toList, isBlank c = false :=
    forall_not_isBlank_iff.2 (by decide +kernel)
  exact ⟨hfixes, parse_serialize_iff.2.1 fixes table hfixes, hsolid, parse_serialize_iff.2.2.2 _ table hsolid⟩

end Route
end Clearance
