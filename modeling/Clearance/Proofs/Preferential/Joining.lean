import Clearance.Proofs.Preferential.Splice
/-!
# Joining — a preferential route that goes through the next fix of a flight

If the next fix of a flight stands in the preferential route, the body begins with it.  No name can occur before it, and
of those that begin there too it is the one that is listed first; so nothing in front of the transition fix is lost and
the whole amendment follows, whatever other names the flight and the route declare (`compose_joins`).
-/
namespace Clearance
namespace PreferentialRoute

open Text

variable {c : PreferentialRoute} {next : String} {later : List String} {r : ComposedRoute} {p : Nat}

/-- **A body that begins with the next fix is the whole composed route**, and that fix is the first one listed. -/
theorem Composes.begins (h : c.Composes (next :: later) r) (hne : next ≠ "")
    (hbody : next.toList <+: c.body (next :: later)) :
    r.fixNames.head? = some next ∧ r.route.toList = '.' :: '.' :: c.body (next :: later) := by
  have hzero : find? next.toList (c.body (next :: later)) = some 0 := find?_eq_zero hbody
  have hshares : c.Shares (next :: later) next := ⟨List.mem_cons_self, hne, hbody.isInfix⟩
  obtain ⟨first, others, n, hfixes, hn, hroute, hleast⟩ := h.exists_first
  obtain rfl : n = 0 := Nat.le_zero.1 (hleast next 0 hshares hzero)
  refine ⟨?_, by rw [hroute, List.drop_zero]⟩
  have hmem := (h.listed next).2 hshares
  have hordered := h.ordered
  rw [hfixes] at hmem hordered ⊢
  rcases List.mem_cons.1 hmem with rfl | hother
  · rfl
  · -- nothing is listed before the next fix, so nothing at the same place precedes it
    obtain ⟨m, k, hm, hk, hlt⟩ := List.rel_of_pairwise_cons hordered hother
    cases hn.symm.trans hm
    cases hzero.symm.trans hk
    rw [List.cons_append, List.idxOf_cons_self] at hlt
    omega

/-- **A cut drops the text from the first transition fix on**; without one nothing is dropped. -/
theorem Keeps.exists_dropped {names : List String} {ahead kept : List Char} (h : c.Keeps names ahead kept) :
    ∃ dropped, ahead = kept ++ dropped ∧
      (∀ n, c.CutsAt ahead n → kept.length = n ∧ c.transitionFix.toList <+: dropped) ∧
      ((∀ n, ¬c.CutsAt ahead n) → dropped = []) := by
  by_cases hcuts : ∃ n, c.CutsAt ahead n
  · obtain ⟨n, hn⟩ := hcuts
    obtain ⟨hfix, hle, -⟩ := find?_eq_some_iff.1 hn.found
    rw [h.cut n hn]
    refine ⟨ahead.drop n, (List.take_append_drop _ _).symm, fun m hm => ?_, fun huncut => absurd hn (huncut n)⟩
    cases hn.found.symm.trans hm.found
    exact ⟨List.length_take_of_le hle, hfix⟩
  · have huncut : ∀ n, ¬c.CutsAt ahead n := fun n hn => hcuts ⟨n, hn⟩
    rw [h.uncut huncut]
    exact ⟨[], (List.append_nil _).symm, fun n hn => absurd hn (huncut n), fun _ => rfl⟩

/-- **A reroute joins the preferential route at the next fix of the flight and loses nothing of it**: what the route has
from there on, up to the transition fix if it is cut there, and then the whole amendment.  The cut may not be inside the
next fix. -/
theorem compose_joins (hne : next ≠ "") (hp : find? next.toList c.route.toList = some p)
    (hcut : ∀ n, c.CutsAt (c.route.toList.drop p) n → next.toList.length ≤ n) :
    ∃ r kept dropped, c.compose (next :: later) = some r ∧ c.route.toList.drop p = kept ++ dropped ∧
      r.route.toList = '.' :: '.' :: (kept ++ c.effectiveAmendment.toList) ∧ next.toList <+: kept ∧
      r.fixNames.head? = some next ∧
      (∀ n, c.CutsAt (c.route.toList.drop p) n → kept.length = n ∧ c.transitionFix.toList <+: dropped) ∧
      ((∀ n, ¬c.CutsAt (c.route.toList.drop p) n) → dropped = []) := by
  have hkeeps : c.Keeps (next :: later) _ _ := keeps
  rw [hkeeps.found next rfl p hp] at hkeeps
  obtain ⟨dropped, hsplit, hcuts, huncut⟩ := hkeeps.exists_dropped
  have hlength : next.toList.length ≤ (c.kept (next :: later)).length := by
    by_cases hat : ∃ n, c.CutsAt (c.route.toList.drop p) n
    · obtain ⟨n, hn⟩ := hat
      rw [(hcuts n hn).1]
      exact hcut n hn
    · rw [← List.append_nil (c.kept _), ← huncut fun n hn => hat ⟨n, hn⟩, ← hsplit]
      exact (find?_eq_some_iff.1 hp).1.length_le
  have hkept : next.toList <+: c.kept (next :: later) := by
    refine List.prefix_of_prefix_length_le (find?_eq_some_iff.1 hp).1 ?_ hlength
    rw [hsplit]
    exact List.prefix_append _ _
  have hbody : next.toList <+: c.body (next :: later) := hkept.trans (List.prefix_append _ _)
  cases hr : c.compose (next :: later) with
  | none => exact absurd ⟨List.mem_cons_self, hne, hbody.isInfix⟩ (compose_eq_none_iff.1 hr next)
  | some r =>
    obtain ⟨hfirst, hroute⟩ := (composes_of_compose hr).begins hne hbody
    exact ⟨r, c.kept (next :: later), dropped, rfl, hsplit, hroute, hkept, hfirst, hcuts, huncut⟩

/-- Other names begin at the next fix too, and the route is cut behind it. -/
theorem compose_joins_of_cut_route :
    let c : PreferentialRoute :=
      { amendment := "LIN.MOD.SYRAH1", route := "OAK.J5.SAC.LIN.J7.RNO", transitionFix := "LIN",
        fixNames := ["SAC.LIN", "LIN"] }
    find? "SAC".toList c.route.toList = some 7 ∧
      (∀ n, c.CutsAt (c.route.toList.drop 7) n → "SAC".toList.length ≤ n) ∧
      ∃ r kept dropped, c.compose ["SAC", "S", "OAK"] = some r ∧ c.route.toList.drop 7 = kept ++ dropped ∧
        r.route.toList = '.' :: '.' :: (kept ++ c.effectiveAmendment.toList) ∧ "SAC".toList <+: kept ∧
        r.fixNames.head? = some "SAC" ∧
        (∀ n, c.CutsAt (c.route.toList.drop 7) n → kept.length = n ∧ c.transitionFix.toList <+: dropped) ∧
        ((∀ n, ¬c.CutsAt (c.route.toList.drop 7) n) → dropped = []) := by
  intro c
  have hfound : find? "SAC".toList c.route.toList = some 7 := by decide
  have hcut : ∀ n, c.CutsAt (c.route.toList.drop 7) n → "SAC".toList.length ≤ n := by
    intro n hn
    have hfour : find? c.transitionFix.toList (c.route.toList.drop 7) = some 4 := by decide
    cases hfour.symm.trans hn.found
    decide
  exact ⟨hfound, hcut, compose_joins (by decide) hfound hcut⟩

end PreferentialRoute
end Clearance
