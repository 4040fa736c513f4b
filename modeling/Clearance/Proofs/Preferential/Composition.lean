import Clearance.Proofs.Preferential.Splice
/-!
# Composition — the composed route, exactly

Names may begin with one another, stand inside one another and be listed more than once, so several of them may occur
at one place of the body.  `Composes` still leaves only one route (`Composes.eq`), which `compose_exact` says is the one
that is composed; and because nothing that is shared stands in front of the splice, the fixes of the route are found in
its text in the same order as in the body.
-/
namespace Clearance
namespace PreferentialRoute

open Text

variable {c : PreferentialRoute} {names : List String} {r r' : ComposedRoute}

/-- **There is one composed route at most.** -/
theorem Composes.eq (h : c.Composes names r) (h' : c.Composes names r') : r = r' := by
  have hfixes : r.fixNames = r'.fixNames := by
    have hperm : r.fixNames.Perm r'.fixNames :=
      (List.perm_ext_iff_of_nodup h.distinct h'.distinct).2 fun name => (h.listed name).trans (h'.listed name).symm
    exact hperm.eq_of_pairwise (fun a b _ _ hab hba => absurd hba hab.asymm) h.ordered h'.ordered
  have hroute : r.route = r'.route := by
    obtain ⟨first, later, n, hfirst, hn, hr, -⟩ := h.exists_first
    obtain ⟨first', later', n', hfirst', hn', hr', -⟩ := h'.exists_first
    rw [hfixes, hfirst'] at hfirst
    cases hfirst
    cases hn.symm.trans hn'
    exact String.toList_injective (hr.trans hr'.symm)
  have hamendment : r.amendment = r'.amendment := h.amendment.trans h'.amendment.symm
  cases r
  cases r'
  simp only at hamendment hroute hfixes
  rw [hamendment, hroute, hfixes]

theorem Composes.compose (h : c.Composes names r) : c.compose names = some r := by
  obtain ⟨n, ⟨name, hshares, -⟩, -⟩ := h.spliced
  cases hr : c.compose names with
  | none => exact absurd hshares (compose_eq_none_iff.1 hr name)
  | some r' => rw [(composes_of_compose hr).eq h]

/-- What is found in the text of a composed route. -/
structure Reads (text : List Char) (fixes : List String) : Prop where
  begins : ∃ first later, fixes = first :: later ∧ first.toList <+: text
  found : ∀ name ∈ fixes, ∃ n, find? name.toList text = some n
  ordered : fixes.Pairwise fun a b => ∀ m n, find? a.toList text = some m → find? b.toList text = some n → m ≤ n

theorem Composes.exists_reads (h : c.Composes names r) :
    ∃ text, r.route.toList = '.' :: '.' :: text ∧ Reads text r.fixNames := by
  obtain ⟨first, later, n, hfixes, hn, hroute, hleast⟩ := h.exists_first
  have hfound : ∀ {name m}, name ∈ r.fixNames → find? name.toList (c.body names) = some m →
      find? name.toList ((c.body names).drop n) = some (m - n) := fun {name m} hmem hm =>
    find?_drop hm (hleast name m ((h.listed name).1 hmem) hm)
  refine ⟨_, hroute, ⟨first, later, hfixes, (find?_eq_some_iff.1 hn).1⟩, fun name hmem => ?_, ?_⟩
  · obtain ⟨m, hm⟩ := ((h.listed name).1 hmem).exists_find?
    exact ⟨m - n, hfound hmem hm⟩
  · refine h.ordered.imp_of_mem fun {a b} ha hb hab i j hi hj => ?_
    obtain ⟨k, l, hk, hl, hle⟩ := hab
    cases hi.symm.trans (hfound ha hk)
    cases hj.symm.trans (hfound hb hl)
    omega

/-- **What is composed**: nothing if no name is shared, and else the one route that lists the shared names in order and
begins at the first of them. -/
theorem compose_exact (c : PreferentialRoute) (names : List String) :
    c.body names = c.kept names ++ c.effectiveAmendment.toList ∧ c.Keeps names (c.ahead names) (c.kept names) ∧
    (c.compose names = none ↔ ∀ name, ¬c.Shares names name) ∧
    (∀ r, c.compose names = some r ↔ c.Composes names r) ∧
    ∀ r, c.compose names = some r → ∃ text, r.route.toList = '.' :: '.' :: text ∧ Reads text r.fixNames := by
  refine ⟨rfl, keeps, compose_eq_none_iff, fun r => ⟨composes_of_compose, Composes.compose⟩, fun r h => ?_⟩
  exact (composes_of_compose h).exists_reads

/-- Three of the names stand at one place, one is listed twice and one stands inside a longer one. -/
theorem compose_exact_of_nested_names :
    let c : PreferentialRoute :=
      { amendment := "LIN.MOD.SYRAH1", route := "OAK.J5.SAC.LIN.J7.RNO", transitionFix := "LIN",
        fixNames := ["LIN", "MOD", "SY"] }
    let r : ComposedRoute := ⟨"LIN.MOD.SYRAH1", "..SAC.LIN.MOD.SYRAH1", ["SAC", "S", "SA", "LIN", "MOD", "SY"]⟩
    c.compose ["SAC", "S", "SA", "RNO", "SAC"] = some r ∧
      ∃ text, r.route.toList = '.' :: '.' :: text ∧ Reads text r.fixNames := by
  intro c r
  have hr : c.compose ["SAC", "S", "SA", "RNO", "SAC"] = some r := by
    rw [PreferentialRoute.compose, occurring, List.mergeSort_of_pairwise] <;> decide +kernel
  exact ⟨hr, (compose_exact c _).2.2.2.2 r hr⟩

end PreferentialRoute
end Clearance
