import Clearance.Proofs.Route.Names
import Clearance.Proofs.Route.Place
import Clearance.Proofs.Text.Trimmed
import Mathlib.Logic.Relation
/-!
# Spelling — the ways in which one route can be written

How many dots stand between two names, dots at either end and position markers in front do not change what a route text
names, however often such changes are made, and neither do blanks put around the text in the end (`parse_respelled`).
Each change leaves the tokens alone, but for markers in front of them, and leaves no blank at either end.
-/
namespace Clearance
namespace Route

open Text

def dots (n : Nat) : List Char := List.replicate n '.'

/-- Two to five capital letters and six decimal digits. -/
def IsMarkerText (t : List Char) : Prop :=
  ∃ letters digits, t = letters ++ digits ∧ 2 ≤ letters.length ∧ letters.length ≤ 5 ∧ digits.length = 6 ∧
    (∀ c ∈ letters, isCapital c = true) ∧ ∀ c ∈ digits, isDigit c = true

/-- One change in how a route is written: a run of dots gets longer or shorter, dots are put in front of the text or
behind it, or a position marker and dots are put in front of it. -/
inductive Respelling : List Char → List Char → Prop where
  | run (front back : List Char) (m n : Nat) :
    Respelling (front ++ (dots (m + 1) ++ back)) (front ++ (dots (n + 1) ++ back))
  | front (n : Nat) (text : List Char) : Respelling text (dots n ++ text)
  | back (n : Nat) (text : List Char) : Respelling text (text ++ dots n)
  | marker {t : List Char} (ht : IsMarkerText t) (n : Nat) (text : List Char) :
    Respelling text (t ++ (dots (n + 1) ++ text))

variable {s t : List Char}

/-! ## Markers -/

theorem toNat_of_isCapital {c : Char} (h : isCapital c = true) : 65 ≤ c.toNat ∧ c.toNat ≤ 90 := by
  rw [isCapital, Bool.and_eq_true, decide_eq_true_eq, decide_eq_true_eq] at h
  exact h

theorem not_isBlank_of_isCapital {c : Char} (h : isCapital c = true) : isBlank c = false := by
  obtain ⟨hlow, hhigh⟩ := toNat_of_isCapital h
  have hruns : ∀ r ∈ blankRuns, r.2 < 65 ∨ 90 < r.1 := by decide
  rw [isBlank, inRuns, List.any_eq_false]
  intro r hr
  have hapart := hruns r hr
  simp only [Bool.and_eq_true, decide_eq_true_eq, not_and]
  omega

theorem not_isCapital_of_isDigit {c : Char} (h : isDigit c = true) : isCapital c = false := by
  refine Bool.eq_false_iff.2 fun hcapital => ?_
  obtain ⟨hlow, hhigh⟩ := toNat_of_isCapital hcapital
  have hzeros : ∀ z ∈ digitZeros, z + 9 < 65 ∨ 90 < z := by decide
  obtain ⟨z, hz, hrun⟩ := List.any_eq_true.1 h
  have hapart := hzeros z hz
  simp only [Bool.and_eq_true, decide_eq_true_eq] at hrun
  omega

/-- **What counts as a position marker.** -/
theorem isMarker_iff : isMarker t = true ↔ IsMarkerText t := by
  simp only [isMarker, Bool.and_eq_true, decide_eq_true_eq]
  constructor
  · rintro ⟨⟨⟨hmin, hmax⟩, hsix⟩, hdigits⟩
    exact ⟨_, _, List.takeWhile_append_dropWhile.symm, hmin, hmax, hsix, List.all_eq_true.1 List.all_takeWhile,
      List.all_eq_true.1 hdigits⟩
  · rintro ⟨letters, digits, rfl, hmin, hmax, hsix, hletters, hdigits⟩
    have hrest : ∀ c ∈ digits.head?, isCapital c = false := fun c hc =>
      not_isCapital_of_isDigit (hdigits c (List.mem_of_mem_head? hc))
    have hdrop : (letters ++ digits).dropWhile isCapital = digits := by
      rw [List.dropWhile_append_of_pos hletters, dropWhile_of_head? hrest]
    have htake : (letters ++ digits).takeWhile isCapital = letters := by
      have hsplit := List.takeWhile_append_dropWhile (p := isCapital) (l := letters ++ digits)
      rw [hdrop] at hsplit
      exact List.append_cancel_right hsplit
    rw [htake, hdrop]
    exact ⟨⟨⟨hmin, hmax⟩, hsix⟩, List.all_eq_true.2 hdigits⟩

namespace IsMarkerText

theorem solid_head (h : IsMarkerText t) : ∀ c ∈ t.head?, isBlank c = false := by
  obtain ⟨letters, digits, rfl, hmin, -, -, hletters, -⟩ := h
  obtain ⟨a, letters, rfl⟩ := List.exists_cons_of_length_pos (Nat.lt_of_lt_of_le Nat.zero_lt_two hmin)
  intro c hc
  obtain rfl : a = c := Option.some.inj hc
  exact not_isBlank_of_isCapital (hletters a List.mem_cons_self)

theorem tokens_eq (h : IsMarkerText t) : tokens t = [t] := by
  obtain ⟨letters, digits, rfl, hmin, -, -, hletters, hdigits⟩ := h
  refine pieces_of_forall (fun hnil => ?_) fun c hc => decide_eq_false ?_
  · rw [(List.append_eq_nil_iff.1 hnil).1] at hmin
    exact absurd hmin (by decide)
  · rintro rfl
    rcases List.mem_append.1 hc with hc | hc
    · exact absurd (hletters '.' hc) (by decide)
    · exact absurd (hdigits '.' hc) (by decide)

end IsMarkerText

/-! ## Dots -/

theorem tokens_dots : ∀ (n : Nat) (s : List Char), tokens (dots n ++ s) = tokens s
  | 0, _ => rfl
  | n + 1, s => (tokens_dot (dots n ++ s)).trans (tokens_dots n s)

/-- **The tokens in front of a run of dots and those behind it**, however long the run is. -/
theorem tokens_append_dots (a b : List Char) (n : Nat) : tokens (a ++ (dots (n + 1) ++ b)) = tokens a ++ tokens b := by
  have hcut : tokens (a ++ '.' :: (dots n ++ b)) = tokens a ++ tokens (dots n ++ b) := pieces_append_cut rfl a _
  exact hcut.trans (by rw [tokens_dots])

/-- A dot at an end of a text is no blank, so what matters is what stands there before and behind the dots. -/
theorem trimmed_dots_iff {a b : List Char} {n : Nat} : Trimmed (a ++ (dots (n + 1) ++ b)) ↔
    (∀ c ∈ a.head?, isBlank c = false) ∧ ∀ c ∈ b.getLast?, isBlank c = false := by
  have hhead : (a ++ (dots (n + 1) ++ b)).head? = a.head?.or (some '.') := by
    rw [List.head?_append]
    rfl
  have hlast : (a ++ (dots (n + 1) ++ b)).getLast? = b.getLast?.or (some '.') := by
    have hdots : (dots (n + 1)).getLast? = some '.' := by
      rw [dots, List.replicate_succ', List.getLast?_concat]
    rw [List.getLast?_append, List.getLast?_append, hdots, Option.or_assoc]
    rfl
  have hdot : ∀ o : Option Char, (∀ c ∈ o.or (some '.'), isBlank c = false) ↔ ∀ c ∈ o, isBlank c = false := by
    intro o
    cases o with
    | none => exact iff_of_true (fun c hc => Option.some.inj hc ▸ by decide) fun c hc => (nomatch hc)
    | some c => exact Iff.rfl
  rw [← hdot a.head?, ← hdot b.getLast?, ← hhead, ← hlast]
  exact ⟨fun h => ⟨h.front, h.back⟩, fun h => ⟨h.1, h.2⟩⟩

/-! ## Changes -/

/-- **A change keeps the tokens behind the markers in front, and leaves no blank at either end.** -/
theorem Respelling.keeps (h : Respelling s t) (hs : Trimmed s) :
    Trimmed t ∧ (tokens t).dropWhile isMarker = (tokens s).dropWhile isMarker := by
  cases h with
  | run front back m n =>
    rw [tokens_append_dots, tokens_append_dots]
    exact ⟨trimmed_dots_iff.2 (trimmed_dots_iff.1 hs), rfl⟩
  | front n text =>
    rw [tokens_dots]
    cases n with
    | zero => exact ⟨hs, rfl⟩
    | succ n => exact ⟨trimmed_dots_iff (a := []).2 ⟨fun c hc => (nomatch hc), hs.back⟩, rfl⟩
  | back n text =>
    cases n with
    | zero =>
      rw [dots, List.replicate_zero, List.append_nil]
      exact ⟨hs, rfl⟩
    | succ n =>
      have htokens := tokens_append_dots s [] n
      rw [← List.append_nil (dots (n + 1)), htokens]
      exact ⟨trimmed_dots_iff.2 ⟨hs.front, fun c hc => (nomatch hc)⟩, congrArg _ (List.append_nil _)⟩
  | marker ht n text =>
    rw [tokens_append_dots, ht.tokens_eq, List.singleton_append, List.dropWhile_cons_of_pos (isMarker_iff.2 ht)]
    exact ⟨trimmed_dots_iff.2 ⟨ht.solid_head, hs.back⟩, rfl⟩

theorem respellings_keep (h : Relation.ReflTransGen Respelling s t) (hs : Trimmed s) :
    Trimmed t ∧ (tokens t).dropWhile isMarker = (tokens s).dropWhile isMarker := by
  induction h with
  | refl => exact ⟨hs, rfl⟩
  | tail _ hstep ih =>
    obtain ⟨htrimmed, htokens⟩ := hstep.keeps ih.1
    exact ⟨htrimmed, htokens.trans ih.2⟩

/-- **A route can be written with any number of dots between its names, with dots at its ends, with position markers in
front and with blanks around it.**  Its fixes are what the tokens behind the markers in front name, markers or not. -/
theorem parse_respelled (raw : String) (table : FixTable) :
    (Trimmed raw.toList → ∀ text before after, Relation.ReflTransGen Respelling raw.toList text →
      (∀ c ∈ before, isBlank c = true) → (∀ c ∈ after, isBlank c = true) →
      parse (String.ofList (before ++ (text ++ after))) table = parse raw table) ∧
    ∃ markers kept, tokens (trim raw.toList) = markers ++ kept ∧ (∀ t ∈ markers, IsMarkerText t) ∧
      (∀ t ∈ kept.head?, ¬IsMarkerText t) ∧
      parse raw table = kept.map fun t => ⟨String.ofList t, table.get? (String.ofList t)⟩ := by
  constructor
  · intro hraw text before after hrespelled hbefore hafter
    obtain ⟨htext, hkept⟩ := respellings_keep hrespelled hraw
    have hnames : nameTexts (before ++ (text ++ after)) = nameTexts raw.toList := by
      rw [nameTexts, nameTexts, trim_surrounded hbefore hafter htext, hraw.trim_eq, hkept]
    rw [parse, parse, String.toList_ofList, hnames]
  · obtain ⟨markers, htokens, hmarkers, hhead⟩ := exists_markers raw.toList
    refine ⟨markers, nameTexts raw.toList, htokens, fun t ht => isMarker_iff.1 (hmarkers t ht),
      fun t ht hmarker => ?_, rfl⟩
    exact absurd ((hhead t ht).symm.trans (isMarker_iff.2 hmarker)) Bool.noConfusion

theorem parse_respelled_of_marked_route :
    let raw := "OAK.J5.OAK090012.SAC"
    let text := "SFO270015..OAK...J5.OAK090012.SAC."
    Trimmed raw.toList ∧ Relation.ReflTransGen Respelling raw.toList text.toList ∧
      (∀ c ∈ [' '], isBlank c = true) ∧ (∀ c ∈ [' ', '\t'], isBlank c = true) ∧
      parse (String.ofList ([' '] ++ (text.toList ++ [' ', '\t']))) .empty = parse raw .empty := by
  intro raw text
  have hmarker : IsMarkerText "SFO270015".toList := isMarker_iff.1 (by decide +kernel)
  have htrimmed : Trimmed raw.toList := by decide +kernel
  have hraw : raw.toList = "OAK".toList ++ (dots 1 ++ "J5.OAK090012.SAC".toList) := by decide +kernel
  have htext : text.toList =
      "SFO270015".toList ++ (dots 2 ++ (("OAK".toList ++ (dots 3 ++ "J5.OAK090012.SAC".toList)) ++ dots 1)) := by
    decide +kernel
  have hrespelled : Relation.ReflTransGen Respelling raw.toList text.toList := by
    rw [hraw, htext]
    exact .tail (.tail (.single (.run _ _ 0 2)) (.back 1 _)) (.marker hmarker 1 _)
  have hbefore : ∀ c ∈ [' '], isBlank c = true := List.all_eq_true.1 (by decide)
  have hafter : ∀ c ∈ [' ', '\t'], isBlank c = true := List.all_eq_true.1 (by decide)
  exact ⟨htrimmed, hrespelled, hbefore, hafter,
    (parse_respelled raw .empty).1 htrimmed text.toList [' '] [' ', '\t'] hrespelled hbefore hafter⟩

end Route
end Clearance
