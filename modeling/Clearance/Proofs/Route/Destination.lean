import Clearance.Proofs.Route.Names
import Clearance.Proofs.Text.Trimmed
/-!
# Destination — when the destination is no fix of a route

The destination is taken off the end of a route text before the text is trimmed and cut into tokens.  A text can name
it last and go on with dots and blanks, though, and then it stays: `names_parseTo_of_last` says that it is left out of
the fixes exactly where nothing follows it, and `dot_keeps_destination` is a route that keeps it.
-/
namespace Clearance
namespace Route

open Text

/-- **Where the last name of a route text stands**: only dots and blanks follow it, and the text in front has the names
before it. -/
theorem exists_append_of_nameTexts {raw t : List Char} {ts : List (List Char)} (h : nameTexts raw = ts ++ [t]) :
    ∃ front trail, raw = front ++ (t ++ trail) ∧ nameTexts front = ts ∧
      ∀ c ∈ trail, isDot c = true ∨ isBlank c = true := by
  obtain ⟨markers, htokens, hmarkers, hhead⟩ := exists_markers raw
  rw [h] at hhead
  rw [h, ← List.append_assoc] at htokens
  obtain ⟨a, b, htrim, ha, htokensA, htokensB⟩ := exists_append_of_pieces htokens
  obtain ⟨before, after, hraw, hbefore, hafter⟩ := exists_surrounding raw
  have hfront : Trimmed a := by
    constructor
    · intro c hc
      have htrimmed := trimmed_trim raw
      rw [htrim] at htrimmed
      refine htrimmed.front c ?_
      rw [List.head?_append, hc]
      rfl
    · intro c hc
      cases hblank : isBlank c with
      | false => rfl
      | true => exact absurd ((ha c hc).symm.trans (isDot_of_isBlank hblank)) Bool.noConfusion
  refine ⟨before ++ a, b ++ after, ?_, ?_, ?_⟩
  · rw [hraw, htrim]
    simp only [List.append_assoc]
  · have htrimA : trim (before ++ a) = a := by
      have hsurrounded : trim (before ++ (a ++ [])) = a :=
        trim_surrounded hbefore (fun c hc => (nomatch hc)) hfront
      rwa [List.append_nil] at hsurrounded
    rw [nameTexts, htrimA, tokens, htokensA, List.dropWhile_append_of_pos hmarkers, dropWhile_of_head?]
    intro u hu
    refine hhead u ?_
    rw [List.head?_append, hu]
    rfl
  · have hkept : ∀ c ∈ t, isDot c = false := (of_mem_pieces (htokensB ▸ List.mem_cons_self)).2
    have hflat := flatten_pieces isDot (t ++ b)
    rw [htokensB, List.filter_append, List.filter_eq_self.2 (by simpa using hkept), List.flatten_singleton] at hflat
    have hdots := List.filter_eq_nil_iff.1 (List.self_eq_append_right.1 hflat)
    intro c hc
    rcases List.mem_append.1 hc with hc | hc
    · exact .inl (by simpa using hdots c hc)
    · exact .inr (hafter c hc)

/-- A text that goes on with neither dots nor blanks behind its last name. -/
def EndsInName (raw : List Char) : Prop := ∀ c ∈ raw.getLast?, isDot c = false ∧ isBlank c = false

instance (raw : List Char) : Decidable (EndsInName raw) :=
  decidable_of_iff ((raw.getLast?.all fun c => !isDot c && !isBlank c) = true)
    (by simp only [Option.all_eq_true, Bool.and_eq_true, Bool.not_eq_true', EndsInName, Option.mem_def])

/-- **A route that names the destination last** has the names before it as its fixes if the text ends in the
destination; behind a dot or a blank at the end of the text the destination stays. -/
theorem names_parseTo_of_last {raw destination : String} {table : FixTable} {names : List String}
    (hsolid : ∀ c ∈ destination.toList, isBlank c = false)
    (h : Fix.names (parse raw table) = names ++ [destination]) :
    (EndsInName raw.toList → Fix.names (parseTo raw destination table) = names) ∧
      (¬EndsInName raw.toList → Fix.names (parseTo raw destination table) = names ++ [destination]) := by
  have hlast : destination ∈ Fix.names (parse raw table) := h ▸ List.mem_append_right _ (List.mem_singleton_self _)
  obtain ⟨hne, hundotted⟩ := of_mem_pieces (mem_tokens_of_mem_names hlast)
  have hends : destination.toList <:+ raw.toList → EndsInName raw.toList := by
    intro hsuffix c hc
    rw [getLast?_of_suffix hsuffix hne] at hc
    exact ⟨hundotted c (List.mem_of_getLast? hc), hsolid c (List.mem_of_getLast? hc)⟩
  refine ⟨fun hend => ?_, fun hgoes => ?_⟩
  · have htexts := names_parse_eq_iff.1 h
    rw [List.map_append, List.map_singleton] at htexts
    obtain ⟨front, trail, hraw, hfront, htrail⟩ := exists_append_of_nameTexts htexts
    have hnil : trail = [] := by
      rcases List.eq_nil_or_concat trail with hnil | ⟨rest, d, rfl⟩
      · exact hnil
      · have hd : d ∈ raw.toList.getLast? := by
          rw [hraw, List.concat_eq_append, ← List.append_assoc, ← List.append_assoc, List.getLast?_concat]
          rfl
        obtain ⟨hdot, hblank⟩ := hend d hd
        rcases htrail d (by simp) with hcut | hcut
        · exact absurd (hdot.symm.trans hcut) Bool.noConfusion
        · exact absurd (hblank.symm.trans hcut) Bool.noConfusion
    rw [hnil, List.append_nil] at hraw
    rw [names_parseTo, withoutDestination_of_append hraw, hfront]
    simp
  · rw [parseTo, withoutDestination_of_not_suffix (mt hends hgoes), h]

theorem names_parseTo_of_last_of_two_routes :
    (∀ c ∈ "KRNO".toList, isBlank c = false) ∧
      Fix.names (parse "OAK090012..OAK.KRNO.SAC.KRNO" .empty) = ["OAK", "KRNO", "SAC"] ++ ["KRNO"] ∧
      EndsInName "OAK090012..OAK.KRNO.SAC.KRNO".toList ∧
      Fix.names (parseTo "OAK090012..OAK.KRNO.SAC.KRNO" "KRNO" .empty) = ["OAK", "KRNO", "SAC"] ∧
      Fix.names (parse "OAK.J5.SAC.KRNO. " .empty) = ["OAK", "J5", "SAC"] ++ ["KRNO"] ∧
      ¬EndsInName "OAK.J5.SAC.KRNO. ".toList ∧
      Fix.names (parseTo "OAK.J5.SAC.KRNO. " "KRNO" .empty) = ["OAK", "J5", "SAC"] ++ ["KRNO"] := by
  have hsolid : ∀ c ∈ "KRNO".toList, isBlank c = false := forall_not_isBlank_iff.2 (by decide)
  have hnamed : Fix.names (parse "OAK090012..OAK.KRNO.SAC.KRNO" .empty) = ["OAK", "KRNO", "SAC"] ++ ["KRNO"] := by
    decide +kernel
  have hnamed' : Fix.names (parse "OAK.J5.SAC.KRNO. " .empty) = ["OAK", "J5", "SAC"] ++ ["KRNO"] := by
    decide +kernel
  have hends : EndsInName "OAK090012..OAK.KRNO.SAC.KRNO".toList := by decide +kernel
  have hgoes : ¬EndsInName "OAK.J5.SAC.KRNO. ".toList := by decide +kernel
  exact ⟨hsolid, hnamed, hends, (names_parseTo_of_last hsolid hnamed).1 hends, hnamed', hgoes,
    (names_parseTo_of_last hsolid hnamed').2 hgoes⟩

/-- A dot behind the destination keeps it among the fixes. -/
theorem dot_keeps_destination :
    Fix.names (parse "OAK.J5.SAC.KRNO." .empty) = ["OAK", "J5", "SAC"] ++ ["KRNO"] ∧
      Fix.names (parseTo "OAK.J5.SAC.KRNO." "KRNO" .empty) = ["OAK", "J5", "SAC", "KRNO"] := by
  decide +kernel

end Route
end Clearance
