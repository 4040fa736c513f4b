import Clearance.Proofs.Flight.Restore
import Clearance.Proofs.Preferential.Splice
/-!
# Refusal — which preferential routes a flight cannot be put on

A preferential route is refused exactly when no name that the flight or the route declares occurs in its body
(`applyPreferential_refused_iff`).  The names of the flight alone do not decide: a route that has only its own fixes in
common with its body is accepted (`declared_fix_accepted`), and then begins at one of them.
-/
namespace Clearance

open Text Route

variable {f : Flight} {c : PreferentialRoute} {table : FixTable} {action : RouteAction} {i : Intent}

namespace PreferentialRoute

theorem compose_eq_none_iff_not_infix {names : List String} : c.compose names = none ↔
    ∀ name ∈ names ++ c.fixNames, name ≠ "" → ¬name.toList <:+: c.body names := by
  rw [compose_eq_none_iff]
  exact ⟨fun h name hlisted hne hoccurs => h name ⟨hlisted, hne, hoccurs⟩,
    fun h name hshares => h name hshares.listed hshares.nonempty hshares.occurs⟩

end PreferentialRoute

namespace Gesture

theorem patch?_intent (f : Flight) (route : String) (p : Patch) : ∀ action, (intent f route p action).patch? = some p
  | .amend => rfl
  | .trialPlan => rfl

/-- **An accepted route begins with a name that the flight or the route declares.** -/
theorem exists_route_of_applyPreferential (h : applyPreferential f c table action = .ok i) :
    ∃ p route, i.patch? = some p ∧ p.amendedRoute = some route ∧
      ∃ name ∈ f.currentNames ++ c.fixNames, name ≠ "" ∧ '.' :: '.' :: name.toList <+: route.toList := by
  obtain ⟨r, hr, rfl⟩ := applyPreferential_ok.1 h
  have hcomposes := PreferentialRoute.composes_of_compose hr
  obtain ⟨first, later, n, hfixes, hn, hroute, -⟩ := hcomposes.exists_first
  have hshares : c.Shares f.currentNames first := (hcomposes.listed first).1 (hfixes ▸ List.mem_cons_self)
  refine ⟨_, r.route, patch?_intent _ _ _ _, rfl, first, hshares.listed, hshares.nonempty, ?_⟩
  rw [hroute, List.prefix_cons_inj, List.prefix_cons_inj]
  exact (find?_eq_some_iff.1 hn).1

/-- **A preferential route is refused exactly when its body has no name that the flight or the route declares**; there
is no composed route then, and every route that is accepted begins with such a name. -/
theorem applyPreferential_refused_iff (f : Flight) (c : PreferentialRoute) (table : FixTable) (action : RouteAction) :
    (c.compose f.currentNames = none ↔
      ∀ name ∈ f.currentNames ++ c.fixNames, name ≠ "" → ¬name.toList <:+: c.body f.currentNames) ∧
    (applyPreferential f c table action = .error .composeFailure ↔
      ∀ name ∈ f.currentNames ++ c.fixNames, name ≠ "" → ¬name.toList <:+: c.body f.currentNames) ∧
    ∀ i, applyPreferential f c table action = .ok i → ∃ p route, i.patch? = some p ∧ p.amendedRoute = some route ∧
      ∃ name ∈ f.currentNames ++ c.fixNames, name ≠ "" ∧ '.' :: '.' :: name.toList <+: route.toList := by
  refine ⟨PreferentialRoute.compose_eq_none_iff_not_infix, ?_, fun i => exists_route_of_applyPreferential⟩
  rw [applyPreferential_error, and_iff_left rfl]
  exact PreferentialRoute.compose_eq_none_iff_not_infix

theorem applyPreferential_refused_iff_of_trial_plan :
    let c : PreferentialRoute :=
      { amendment := "LIN.MOD.SYRAH1", route := "OAK.J5.SAC.LIN.J7.RNO", transitionFix := "LIN", fixNames := ["MOD"] }
    let f : Flight :=
      { aircraftId := "UAL12", cid := "321", destination := "KRNO", filedRoute := "SAC.LIN.J7",
        filedFixes := parse "SAC.LIN.J7" .empty }
    let i := intent f "..SAC.LIN.MOD.SYRAH1"
      (Patch.reroute f "..SAC.LIN.MOD.SYRAH1" (parseTo "..SAC.LIN.MOD.SYRAH1" "KRNO" .empty)) .trialPlan
    applyPreferential f c .empty .trialPlan = .ok i ∧
      ∃ p route, i.patch? = some p ∧ p.amendedRoute = some route ∧
        ∃ name ∈ f.currentNames ++ c.fixNames, name ≠ "" ∧ '.' :: '.' :: name.toList <+: route.toList := by
  intro c f i
  have hcompose : c.compose f.currentNames =
      some ⟨"LIN.MOD.SYRAH1", "..SAC.LIN.MOD.SYRAH1", ["SAC", "LIN", "MOD"]⟩ := by
    rw [PreferentialRoute.compose, PreferentialRoute.occurring, List.mergeSort_of_pairwise] <;> decide +kernel
  have happly : applyPreferential f c .empty .trialPlan = .ok i := applyPreferential_ok.2 ⟨_, hcompose, rfl⟩
  exact ⟨happly, (applyPreferential_refused_iff f c .empty .trialPlan).2.2 i happly⟩

/-- None of the flight's fixes is in the body, but one that the route declares is: the flight is put on the route. -/
theorem declared_fix_accepted :
    let c : PreferentialRoute := { amendment := ".Q9.ZZZ", route := "AAA.BBB", eligible := true, fixNames := ["AAA"] }
    let f : Flight :=
      { aircraftId := "UAL12", filedRoute := "OAK.J5.SAC", filedFixes := parse "OAK.J5.SAC" .empty,
        arrivalRoutes := [c] }
    let p := Patch.reroute f "..AAA.BBB.Q9.ZZZ" (parseTo "..AAA.BBB.Q9.ZZZ" "" .empty)
    (∀ name ∈ f.currentNames, name ≠ "" → ¬name.toList <:+: c.body f.currentNames) ∧
      c.compose f.currentNames = some ⟨".Q9.ZZZ", "..AAA.BBB.Q9.ZZZ", ["AAA"]⟩ ∧
      applyPreferential f c .empty .amend = .ok (.mutate "UAL12" p) ∧
      ∀ name ∈ f.currentNames, name ∉ (p.apply f).currentNames := by
  intro c f p
  have hcompose : c.compose f.currentNames = some ⟨".Q9.ZZZ", "..AAA.BBB.Q9.ZZZ", ["AAA"]⟩ := by
    rw [PreferentialRoute.compose, PreferentialRoute.occurring, List.mergeSort_of_pairwise] <;> decide +kernel
  have hmissed : ∀ name ∈ f.currentNames, find? name.toList (c.body f.currentNames) = none := by decide +kernel
  refine ⟨fun name hname _ => find?_eq_none_iff.1 (hmissed name hname), hcompose, ?_, by decide +kernel⟩
  exact applyPreferential_amend.2 ⟨_, hcompose, rfl⟩

end Gesture
end Clearance
