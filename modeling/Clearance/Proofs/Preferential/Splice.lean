import Clearance.Proofs.Preferential.Occurring
/-!
# Splice — where a preferential route begins

A composed route is its body from the first place on at which a fix of the flight or of the preferential route stands.
`Keeps` says what of the preferential route the body has in front of the amendment, `Shares` which fixes count, and
`Composes` what the composed route then is; `composes_of_compose` is all that the other modules need to know of it.
-/
namespace Clearance
namespace PreferentialRoute

open Text

/-! ## The body -/

/-- The route is cut at an offset: the transition fix stands there first, and the amendment has it too. -/
structure CutsAt (c : PreferentialRoute) (ahead : List Char) (n : Nat) : Prop where
  named : c.transitionFix ≠ ""
  found : find? c.transitionFix.toList ahead = some n
  amended : c.transitionFix.toList <:+: c.effectiveAmendment.toList

/-- What of a preferential route is ahead of a flight with these fixes, and what is kept of that: the text from the
first occurrence of the next fix on, if there is one, up to the cut, if there is one. -/
structure Keeps (c : PreferentialRoute) (names : List String) (ahead kept : List Char) : Prop where
  found : ∀ next ∈ names.head?, ∀ n, find? next.toList c.route.toList = some n → ahead = c.route.toList.drop n
  missed : (∀ next ∈ names.head?, ¬next.toList <:+: c.route.toList) → ahead = c.route.toList
  cut : ∀ n, c.CutsAt ahead n → kept = ahead.take n
  uncut : (∀ n, ¬c.CutsAt ahead n) → kept = ahead

/-- A name that the flight or the preferential route declares, and that occurs in the body. -/
structure Shares (c : PreferentialRoute) (names : List String) (name : String) : Prop where
  listed : name ∈ names ++ c.fixNames
  nonempty : name ≠ ""
  occurs : name.toList <:+: c.body names

/-- What the composed route of a flight with these fixes is: every shared name once, in order, and the body from the
first of them on. -/
structure Composes (c : PreferentialRoute) (names : List String) (r : ComposedRoute) : Prop where
  amendment : r.amendment = c.effectiveAmendment
  listed : ∀ name, name ∈ r.fixNames ↔ c.Shares names name
  distinct : r.fixNames.Nodup
  ordered : r.fixNames.Pairwise (Precedes (names ++ c.fixNames) (c.body names))
  spliced : ∃ n, (∃ name, c.Shares names name ∧ find? name.toList (c.body names) = some n) ∧
    (∀ name m, c.Shares names name → find? name.toList (c.body names) = some m → n ≤ m) ∧
    r.route.toList = '.' :: '.' :: (c.body names).drop n

variable {c : PreferentialRoute} {names : List String} {r : ComposedRoute} {name : String}

theorem kept_of_cutsAt {n : Nat} (h : c.CutsAt (c.ahead names) n) : c.kept names = (c.ahead names).take n := by
  have hcut : (!c.transitionFix.toList.isEmpty &&
      Text.contains c.effectiveAmendment.toList c.transitionFix.toList) = true := by
    simpa using ⟨h.named, contains_iff_infix.2 h.amended⟩
  rw [kept, if_pos hcut, h.found]

theorem kept_of_not_cutsAt (h : ∀ n, ¬c.CutsAt (c.ahead names) n) : c.kept names = c.ahead names := by
  unfold kept
  dsimp only
  split
  · rename_i hcut
    simp only [Bool.and_eq_true, contains_iff_infix] at hcut
    cases hn : find? c.transitionFix.toList (c.ahead names) with
    | none => rfl
    | some n => exact absurd ⟨by simpa using hcut.1, hn, hcut.2⟩ (h n)
  · rfl

/-- **What the body has of the route.** -/
theorem keeps : c.Keeps names (c.ahead names) (c.kept names) where
  found next hnext n hn := by
    rw [ahead, hnext]
    simp only [hn]
  missed h := by
    unfold ahead
    split
    · rfl
    · rename_i next hnext
      rw [find?_eq_none_iff.2 (h next hnext)]
  cut _ := kept_of_cutsAt
  uncut := kept_of_not_cutsAt

theorem Shares.exists_find? (h : c.Shares names name) : ∃ n, find? name.toList (c.body names) = some n :=
  exists_find?_iff_infix.2 h.occurs

theorem shares_iff_mem_occurring :
    c.Shares names name ↔ ∃ n, (n, name) ∈ occurring (names ++ c.fixNames) (c.body names) := by
  constructor
  · intro h
    obtain ⟨n, hn⟩ := h.exists_find?
    exact ⟨n, mem_occurring_iff.2 ⟨h.listed, h.nonempty, hn⟩⟩
  · rintro ⟨n, hmem⟩
    obtain ⟨hlisted, hne, hn⟩ := mem_occurring_iff.1 hmem
    exact ⟨hlisted, hne, exists_find?_iff_infix.1 ⟨n, hn⟩⟩

/-- **There is no composed route exactly when no name is shared.** -/
theorem compose_eq_none_iff : c.compose names = none ↔ ∀ name, ¬c.Shares names name := by
  rw [compose, Option.map_eq_none_iff, List.head?_eq_none_iff, List.eq_nil_iff_forall_not_mem]
  constructor
  · intro h name hshares
    obtain ⟨n, hmem⟩ := shares_iff_mem_occurring.1 hshares
    exact h _ hmem
  · intro h found hmem
    exact h found.2 (shares_iff_mem_occurring.2 ⟨found.1, hmem⟩)

/-- **What a composed route is.** -/
theorem composes_of_compose (h : c.compose names = some r) : c.Composes names r := by
  obtain ⟨first, hfirst, rfl⟩ := Option.map_eq_some_iff.1 h
  obtain ⟨later, hfound⟩ := List.head?_eq_some_iff.1 hfirst
  have hmem : first ∈ occurring (names ++ c.fixNames) (c.body names) := hfound ▸ List.mem_cons_self
  refine ⟨rfl, fun name => ?_, pairwise_precedes.imp Precedes.ne, pairwise_precedes, first.1, ?_,
    fun name m hshares hm => ?_, by simp⟩
  · rw [shares_iff_mem_occurring, List.mem_map]
    exact ⟨fun ⟨found, hmem, hname⟩ => ⟨found.1, hname ▸ hmem⟩, fun ⟨n, hmem⟩ => ⟨(n, name), hmem, rfl⟩⟩
  · exact ⟨first.2, shares_iff_mem_occurring.2 ⟨first.1, hmem⟩, (mem_occurring_iff.1 hmem).2.2⟩
  · exact le_of_occurring hfound (mem_occurring_iff.2 ⟨hshares.listed, hshares.nonempty, hm⟩)

/-- **A composed route begins with its first fix**, in front of which no shared fix stands in the body. -/
theorem Composes.exists_first (h : c.Composes names r) : ∃ first later n, r.fixNames = first :: later ∧
    find? first.toList (c.body names) = some n ∧ r.route.toList = '.' :: '.' :: (c.body names).drop n ∧
    ∀ name m, c.Shares names name → find? name.toList (c.body names) = some m → n ≤ m := by
  obtain ⟨n, ⟨name, hshares, hn⟩, hleast, hroute⟩ := h.spliced
  obtain ⟨first, later, hfixes⟩ := List.exists_cons_of_ne_nil (List.ne_nil_of_mem ((h.listed name).2 hshares))
  have hfirst : c.Shares names first := (h.listed first).1 (hfixes ▸ List.mem_cons_self)
  refine ⟨first, later, n, hfixes, ?_, hroute, hleast⟩
  have hmem := (h.listed name).2 hshares
  have hordered := h.ordered
  rw [hfixes] at hmem hordered
  rcases List.mem_cons.1 hmem with rfl | hlater
  · exact hn
  · obtain ⟨m, n', hm, hn', hle⟩ := List.rel_of_pairwise_cons hordered hlater
    cases hn.symm.trans hn'
    have := hleast first m hfirst hm
    rw [hm, Option.some.injEq]
    omega

/-- **A composed route is its body from a splice on**, and no fix that it may share stands in front of that. -/
theorem compose_route (h : c.compose names = some r) : ∃ n, r.route.toList = '.' :: '.' :: (c.body names).drop n ∧
    ∀ name ∈ names, name ≠ "" → ∀ m, find? name.toList (c.body names) = some m → n ≤ m := by
  obtain ⟨first, later, n, -, -, hroute, hleast⟩ := (composes_of_compose h).exists_first
  refine ⟨n, hroute, fun name hname hne m hm => hleast name m ?_ hm⟩
  exact ⟨List.mem_append_left _ hname, hne, exists_find?_iff_infix.1 ⟨m, hm⟩⟩

end PreferentialRoute
end Clearance
