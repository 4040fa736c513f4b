import Clearance.Proofs.Flight.Reroute
import Clearance.Proofs.Route.Names
import Clearance.Proofs.Route.Place
/-!
# Cut — when the text and the fixes of a route are cut at the same place

A direct clearance cuts the fixes at the first one with the name and the text at the first occurrence of the name.
Where the fixes are what the text names, `names_direct_iff` says for which flights and fixes they still are afterwards,
and `tokens_route_iff` when the text that is left has no tokens besides them.
-/
namespace Clearance

open Text Route

/-- The text that names the fixes of a flight: its current route without the destination. -/
def Flight.fixText (f : Flight) : List Char := (withoutDestination f.currentRoute f.destination).toList

/-- When a clearance to a fix of the route cuts text and fixes at the same place: the fix does not look like a position
marker, only such markers stand between the first occurrence of its name and the token that it was read from, and the
text that is left is not taken for the destination. -/
structure Flight.CutsClean (f : Flight) (fix : String) : Prop where
  unmarked : isMarker fix.toList = false
  between : ∀ n p, find? fix.toList f.fixText = some n → nameOffset? f.fixText fix.toList = some p →
    ∀ t ∈ tokens ((f.fixText.drop n).take (p - n)), isMarker t = true
  destined : ∀ n, find? fix.toList f.currentRoute.toList = some n →
    f.destination.toList ≠ '.' :: f.currentRoute.toList.drop n ∧
      f.destination.toList ≠ '.' :: '.' :: f.currentRoute.toList.drop n

/-! ## The cut of the fixes -/

theorem findIdx?_append_cons {x : String} {after : List String} : ∀ {before : List String}, x ∉ before →
    (before ++ x :: after).findIdx? (· == x) = some before.length
  | [], _ => by rw [List.nil_append, List.findIdx?_cons, beq_self_eq_true]; rfl
  | b :: before, h => by
    rw [List.mem_cons, not_or] at h
    rw [List.cons_append, List.findIdx?_cons, beq_eq_false_iff_ne.2 (Ne.symm h.1), findIdx?_append_cons h.2]
    rfl

/-- **A clearance to the first fix with its name.** -/
theorem Direct.toFix?_of_names {fix raw : String} {fixes : List Fix} {before after : List String}
    (h : Fix.names fixes = before ++ fix :: after) (hfirst : fix ∉ before) :
    toFix? fix raw fixes = some
      { fix
        route := ".." ++ fix ++ String.ofList (tailBehind raw.toList (fix :: before.reverse))
        fixes := fixes.drop before.length } := by
  have hidx : fixes.findIdx? (fun f => f.name == fix) = some before.length := by
    have hcomp : (fun f : Fix => f.name == fix) = (· == fix) ∘ (·.name) := rfl
    rw [hcomp, ← List.findIdx?_map, ← Fix.names, h, findIdx?_append_cons hfirst]
  have hnames : (Fix.names (fixes.take (before.length + 1))).reverse = fix :: before.reverse := by
    rw [Fix.names, List.map_take, ← Fix.names, h, List.take_append, List.take_of_length_le (Nat.le_succ _),
      Nat.add_sub_cancel_left, List.take_succ_cons, List.take_zero, List.reverse_append]
    rfl
  rw [toFix?, hidx, Option.map_some, hnames]

theorem Fix.names_drop {fixes : List Fix} {before after : List String} (h : names fixes = before ++ after) :
    names (fixes.drop before.length) = after := by
  rw [names, List.map_drop, ← names, h, List.drop_left]

/-! ## The cut of the text -/

theorem Direct.toList_dots (fix : String) (tail : List Char) :
    (".." ++ fix ++ String.ofList tail).toList = '.' :: '.' :: (fix.toList ++ tail) := by
  simp only [String.toList_append, String.toList_ofList, List.append_assoc]
  rfl

theorem Direct.tailBehind_of_find? {raw : List Char} {name : String} {n : Nat} (h : find? name.toList raw = some n)
    (names : List String) : name.toList ++ tailBehind raw (name :: names) = raw.drop n := by
  have hocc : name.toList <+: raw.drop n := (find?_eq_some_iff.1 h).1
  obtain ⟨r, hr⟩ := hocc
  rw [tailBehind, h]
  simp only
  rw [← List.drop_drop, ← hr, List.drop_left]

/-- What is left of a cut text without the destination: nothing, if it is taken for the destination, or else the text
without the destination from the same place on. -/
theorem fixText_cut {route route' destination : String} {name : List Char} {n : Nat}
    (hn : find? name (withoutDestination route destination).toList = some n)
    (hroute' : route'.toList = '.' :: '.' :: route.toList.drop n) :
    ((destination.toList = '.' :: route.toList.drop n ∨ destination.toList = '.' :: '.' :: route.toList.drop n) ∧
      nameTexts (withoutDestination route' destination).toList = []) ∨
    ((destination.toList ≠ '.' :: route.toList.drop n ∧ destination.toList ≠ '.' :: '.' :: route.toList.drop n) ∧
      (withoutDestination route' destination).toList =
        '.' :: '.' :: (withoutDestination route destination).toList.drop n) := by
  rcases withoutDestination_cases route destination with hsplit | ⟨hno, hsame⟩
  · have hle : n ≤ (withoutDestination route destination).toList.length := by
      have := length_le_of_find? hn
      omega
    have hdrop : route.toList.drop n =
        (withoutDestination route destination).toList.drop n ++ destination.toList := by
      rw [hsplit, List.drop_append_of_le_length hle]
    have hlen : destination.toList.length ≤ (route.toList.drop n).length := by
      rw [hdrop, List.length_append]; omega
    refine .inr ⟨⟨fun h => ?_, fun h => ?_⟩, withoutDestination_of_append ?_⟩
    · rw [h, List.length_cons] at hlen; omega
    · rw [h, List.length_cons, List.length_cons] at hlen; omega
    · rw [hroute', hdrop]; rfl
  · have hcases : destination.toList <:+ route'.toList → destination.toList = '.' :: '.' :: route.toList.drop n ∨
        destination.toList = '.' :: route.toList.drop n := by
      intro h
      rw [hroute', List.suffix_cons_iff, List.suffix_cons_iff] at h
      rcases h with h | h | h
      · exact .inl h
      · exact .inr h
      · exact absurd (h.trans (List.drop_suffix _ _)) hno
    by_cases hdots : destination.toList = '.' :: '.' :: route.toList.drop n
    · refine .inl ⟨.inr hdots, ?_⟩
      rw [withoutDestination_of_append (by rw [hroute', ← hdots]; rfl : route'.toList = [] ++ destination.toList)]
      decide
    by_cases hdot : destination.toList = '.' :: route.toList.drop n
    · refine .inl ⟨.inl hdot, ?_⟩
      rw [withoutDestination_of_append (by rw [hroute', ← hdot]; rfl : route'.toList = ['.'] ++ destination.toList)]
      decide
    · refine .inr ⟨⟨hdot, hdots⟩, ?_⟩
      rw [withoutDestination_of_not_suffix fun h => (hcases h).elim hdots hdot, hroute', hsame]

/-! ## Both -/

/-- The clearance to a name of the text: the fixes are cut in front of the first of them with the name, the text at the
first occurrence of the name. -/
theorem Direct.toFix?_of_split {fix raw : String} {fixes : List Fix} {before after : List (List Char)} {n : Nat}
    (h : Fix.names fixes = (before ++ fix.toList :: after).map String.ofList) (hfirst : fix.toList ∉ before)
    (hn : find? fix.toList raw.toList = some n) :
    ∃ d, toFix? fix raw fixes = some d ∧ Fix.names d.fixes = (fix.toList :: after).map String.ofList ∧
      d.route.toList = '.' :: '.' :: raw.toList.drop n := by
  have hnames : Fix.names fixes = before.map String.ofList ++ fix :: after.map String.ofList := by
    rw [h, List.map_append, List.map_cons, String.ofList_toList]
  have hother : fix ∉ before.map String.ofList := by
    intro hmem
    obtain ⟨t, ht, rfl⟩ := List.mem_map.1 hmem
    rw [String.toList_ofList] at hfirst
    exact hfirst ht
  refine ⟨_, toFix?_of_names hnames hother, ?_, ?_⟩
  · rw [Fix.names_drop hnames, List.map_cons, String.ofList_toList]
  · rw [toList_dots, tailBehind_of_find? hn]

/-- **Text and fixes agree after a clearance exactly when both were cut at the same place.** -/
theorem names_direct_iff {f : Flight} {fix : String} {d : Direct} {table : FixTable}
    (h : f.currentNames = Fix.names (parseTo f.currentRoute f.destination table))
    (hd : Direct.ofFlight? f fix = some d) :
    Fix.names d.fixes = Fix.names (parseTo d.route f.destination table) ↔ f.CutsClean fix := by
  have hinj : ∀ a b, String.ofList a = String.ofList b → a = b := fun _ _ => String.ofList_injective
  rw [names_parseTo, ← Flight.fixText] at h
  have hmem : fix.toList ∈ nameTexts f.fixText := by
    have hfix : fix ∈ f.currentNames := Direct.ofFlight?_isSome.1 (by rw [hd]; rfl)
    rw [h] at hfix
    obtain ⟨t, ht, rfl⟩ := List.mem_map.1 hfix
    rwa [String.toList_ofList]
  obtain ⟨p, hp⟩ := exists_nameOffset? hmem
  obtain ⟨n, -, hn⟩ := exists_find?_of_nameOffset? hp
  have hnR : find? fix.toList f.currentRoute.toList = some n := by
    rcases withoutDestination_cases f.currentRoute f.destination with hsplit | ⟨-, hsame⟩
    · rw [hsplit]; exact find?_append hn _
    · rw [← hsame]; exact hn
  obtain ⟨before, after, hnames, hbefore, hcut⟩ := nameTexts_cut hn hp
  rw [hnames] at h
  obtain ⟨e, he, hfixes, hroute⟩ := Direct.toFix?_of_split h hbefore hnR
  rw [← Direct.ofFlight?, hd] at he
  cases he
  rw [hfixes, names_parseTo, List.map_inj_right hinj]
  rcases fixText_cut hn hroute with ⟨hbad, hnone⟩ | ⟨hgood, htext⟩
  · rw [hnone]
    refine ⟨fun h => (nomatch h), fun hclean => ?_⟩
    obtain ⟨hdot, hdots⟩ := hclean.destined n hnR
    exact absurd hbad (not_or.2 ⟨hdot, hdots⟩)
  · rw [htext, ← Flight.fixText, hcut, eq_comm, dropWhile_append_cons]
    constructor
    · rintro ⟨hbetween, hunmarked⟩
      refine ⟨hunmarked, fun m q hm hq => ?_, fun m hm => ?_⟩
      · rw [hn] at hm; cases hm
        rw [hp] at hq; cases hq
        exact hbetween
      · rw [hnR] at hm; cases hm
        exact hgood
    · intro hclean
      exact ⟨hclean.between n p hn hp, hclean.unmarked⟩

/-- **The text of a clearance has the tokens that its fixes name exactly when the name occurs first where it was read**;
where it occurs before, the text has more tokens than there are fixes. -/
theorem Direct.tokens_route_iff {x raw : String} {table : FixTable} (h : x ∈ Fix.names (parse raw table)) :
    ∃ p n d, nameOffset? raw.toList x.toList = some p ∧ find? x.toList raw.toList = some n ∧
      toFix? x raw (parse raw table) = some d ∧ n ≤ p ∧
      ((tokens (trim d.route.toList)).map String.ofList = Fix.names d.fixes ↔ n = p) ∧
      (n < p → d.fixes.length < (tokens (trim d.route.toList)).length) := by
  have hmem : x.toList ∈ nameTexts raw.toList := by
    rw [names_parse] at h
    obtain ⟨t, ht, rfl⟩ := List.mem_map.1 h
    rwa [String.toList_ofList]
  obtain ⟨p, hp⟩ := exists_nameOffset? hmem
  obtain ⟨n, -, hn⟩ := exists_find?_of_nameOffset? hp
  obtain ⟨before, after, hnames, hbefore, hle, hbetween, htokens⟩ := tokens_cut hn hp
  have hparsed : Fix.names (parse raw table) = (before ++ x.toList :: after).map String.ofList := by
    rw [names_parse, hnames]
  obtain ⟨d, hd, hfixes, hroute⟩ := toFix?_of_split hparsed hbefore hn
  refine ⟨p, n, d, hp, hn, hd, hle, ?_, fun hlt => ?_⟩
  · rw [hroute, htokens, hfixes, List.map_inj_right fun _ _ => String.ofList_injective, ← hbetween]
    exact List.append_left_eq_self
  · have hlength : d.fixes.length = (x.toList :: after).length := by
      rw [← List.length_map (f := (·.name)), ← Fix.names, hfixes, List.length_map]
    have hpos := List.length_pos_iff.2 (mt hbetween.1 (Nat.ne_of_lt hlt))
    rw [hroute, htokens, hlength, List.length_append]
    omega

theorem Direct.tokens_route_iff_of_prefix :
    "SAC" ∈ Fix.names (parse "OAK.SAC1.SAC.RNO" .empty) ∧
    ∃ p n d, nameOffset? "OAK.SAC1.SAC.RNO".toList "SAC".toList = some p ∧
      find? "SAC".toList "OAK.SAC1.SAC.RNO".toList = some n ∧
      toFix? "SAC" "OAK.SAC1.SAC.RNO" (parse "OAK.SAC1.SAC.RNO" .empty) = some d ∧ n ≤ p ∧
      ((tokens (trim d.route.toList)).map String.ofList = Fix.names d.fixes ↔ n = p) ∧
      (n < p → d.fixes.length < (tokens (trim d.route.toList)).length) := by
  have h : "SAC" ∈ Fix.names (parse "OAK.SAC1.SAC.RNO" .empty) := by decide
  exact ⟨h, tokens_route_iff h⟩

end Clearance
