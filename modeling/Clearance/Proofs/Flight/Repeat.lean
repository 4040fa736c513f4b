import Clearance.Proofs.Flight.Cut
/-!
# Repeat — a direct clearance that is given again

Text and fixes of a route may disagree in any way, so nothing is known about where a clearance cuts the text.  What it
leaves starts with two dots and the fix, though, and no name of a route begins with a dot: a search finds the fix right
there, in front of whatever the text goes on with, and `toFix?_idempotent` says that the same clearance changes nothing
when it is given again.
-/
namespace Clearance

open Text Route

/-- **A text behind two dots is found there**, unless it begins with a dot itself. -/
theorem Text.find?_dots {needle : List Char} (hne : needle ≠ []) (hdot : needle.head? ≠ some '.') (tail : List Char) :
    find? needle ('.' :: '.' :: (needle ++ tail)) = some 2 := by
  refine find?_eq_some_iff.2 ⟨List.prefix_append _ _, by simp, fun m hm hocc => hdot ?_⟩
  obtain ⟨c, rest, rfl⟩ := List.exists_cons_of_ne_nil hne
  have hdots : ∃ s, List.drop m ('.' :: '.' :: (c :: rest ++ tail)) = '.' :: s := by
    match m, hm with
    | 0, _ => exact ⟨_, rfl⟩
    | 1, _ => exact ⟨_, rfl⟩
  obtain ⟨s, hs⟩ := hdots
  rw [hs, List.cons_prefix_cons] at hocc
  rw [hocc.1, List.head?_cons]

namespace Direct

variable {x raw : String} {fixes : List Fix} {d : Direct}

theorem undotted_of_mem_names {table : FixTable} (h : x ∈ Fix.names (parse raw table)) :
    x ≠ "" ∧ x.toList.head? ≠ some '.' := by
  obtain ⟨hne, hundotted⟩ := of_mem_pieces (mem_tokens_of_mem_names h)
  refine ⟨fun hempty => hne (by rw [hempty]; rfl), fun hdot => ?_⟩
  exact absurd (hundotted '.' (List.mem_of_mem_head? hdot)) (by decide)

theorem tailBehind_suffix (raw : List Char) : ∀ names, tailBehind raw names <:+ raw
  | [] => List.suffix_refl raw
  | name :: names => by
    rw [tailBehind]
    split
    · exact List.drop_suffix _ _
    · exact tailBehind_suffix raw names

/-- **What a clearance is**: two dots, the fix and some end of the text, with the fixes from the first one with its
name on. -/
theorem exists_split_of_toFix? (h : toFix? x raw fixes = some d) :
    ∃ before after tail, Fix.names fixes = before ++ x :: after ∧ x ∉ before ∧ tail <:+ raw.toList ∧
      d = { fix := x, route := ".." ++ x ++ String.ofList tail, fixes := fixes.drop before.length } := by
  have hmem : x ∈ Fix.names fixes := toFix?_isSome.1 (by rw [h]; rfl)
  obtain ⟨before, after, hnames, hfirst⟩ := List.eq_append_cons_of_mem hmem
  rw [toFix?_of_names hnames hfirst] at h
  cases h
  exact ⟨before, after, _, hnames, hfirst, tailBehind_suffix _ _, rfl⟩

/-- **A route that starts at a fix is cut no further** by a clearance to that fix. -/
theorem toFix?_dots {after : List String} (hne : x ≠ "") (hdot : x.toList.head? ≠ some '.')
    (h : Fix.names fixes = x :: after) (tail : List Char) :
    toFix? x (".." ++ x ++ String.ofList tail) fixes =
      some { fix := x, route := ".." ++ x ++ String.ofList tail, fixes } := by
  have hfound : find? x.toList (".." ++ x ++ String.ofList tail).toList = some 2 := by
    rw [toList_dots]
    exact find?_dots (by simpa using hne) hdot tail
  have htail : tailBehind (".." ++ x ++ String.ofList tail).toList [x] = tail := by
    have hcut := tailBehind_of_find? hfound []
    rw [toList_dots] at hcut ⊢
    exact List.append_cancel_left hcut
  have hnames : Fix.names fixes = [] ++ x :: after := h
  rw [toFix?_of_names hnames List.not_mem_nil, List.reverse_nil, htail]
  rfl

/-- **A clearance that is given twice is given once**, whatever the text and the fixes of the route are.  The fix must
not begin with a dot, and no name of a route text does. -/
theorem toFix?_idempotent :
    (∀ (raw : String) (table : FixTable), ∀ x ∈ Fix.names (parse raw table), x ≠ "" ∧ x.toList.head? ≠ some '.') ∧
    ∀ (x raw : String) (fixes : List Fix), x ≠ "" → x.toList.head? ≠ some '.' →
      ((toFix? x raw fixes).isSome = true ↔ x ∈ Fix.names fixes) ∧
      ∀ d, toFix? x raw fixes = some d →
        (∃ tail, tail <:+ raw.toList ∧ d.route.toList = '.' :: '.' :: (x.toList ++ tail)) ∧
        (∃ before, fixes = before ++ d.fixes ∧ x ∉ Fix.names before ∧ (Fix.names d.fixes).head? = some x) ∧
        toFix? x d.route d.fixes = some d := by
  refine ⟨fun raw table x => undotted_of_mem_names, fun x raw fixes hne hdot => ⟨toFix?_isSome, fun d h => ?_⟩⟩
  obtain ⟨before, after, tail, hnames, hfirst, htail, rfl⟩ := exists_split_of_toFix? h
  have hrest : Fix.names (fixes.drop before.length) = x :: after := Fix.names_drop hnames
  have hbefore : Fix.names (fixes.take before.length) = before := by
    rw [Fix.names, List.map_take, ← Fix.names, hnames, List.take_left]
  refine ⟨⟨tail, htail, toList_dots x tail⟩, ⟨fixes.take before.length, ?_, ?_, ?_⟩, toFix?_dots hne hdot hrest tail⟩
  · exact (List.take_append_drop _ _).symm
  · rwa [hbefore]
  · rw [hrest, List.head?_cons]

/-- The name stands inside a longer one first, and the fixes have one that the text has not and end with another one of
its name. -/
theorem toFix?_idempotent_of_disagreeing :
    let fixes : List Fix := [⟨"OAK", none⟩, ⟨"MOD", none⟩, ⟨"SAC", none⟩, ⟨"SAC", none⟩]
    let d : Direct := ⟨"SAC", "..SAC1.J5.SAC", [⟨"SAC", none⟩, ⟨"SAC", none⟩]⟩
    toFix? "SAC" "OAK.SAC1.J5.SAC" fixes = some d ∧
      (∃ tail, tail <:+ "OAK.SAC1.J5.SAC".toList ∧ d.route.toList = '.' :: '.' :: ("SAC".toList ++ tail)) ∧
      (∃ before, fixes = before ++ d.fixes ∧ "SAC" ∉ Fix.names before ∧ (Fix.names d.fixes).head? = some "SAC") ∧
      toFix? "SAC" d.route d.fixes = some d := by
  intro fixes d
  have hd : toFix? "SAC" "OAK.SAC1.J5.SAC" fixes = some d := rfl
  exact ⟨hd, (toFix?_idempotent.2 "SAC" "OAK.SAC1.J5.SAC" fixes (by decide) (by decide)).2 d hd⟩

end Direct
end Clearance
