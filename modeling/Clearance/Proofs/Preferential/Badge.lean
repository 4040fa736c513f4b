import Clearance.Proofs.Flight.Restore
import Clearance.Proofs.Preferential.Ranking
import Clearance.Proofs.Preferential.Splice
import Clearance.Proofs.Route.Names
import Clearance.Proofs.Route.Place
/-!
# Badge — when the arrival route that is applied stops being pending

The badge of an arrival route looks for the amendment in the route as it is shown, without leading dots and without the
destination.  A route that begins inside the amendment does not show all of it, and neither does one whose amendment
ends with the destination; `applied_clears_badge_iff` says that, with the transition fix still ahead, nothing else keeps
the badge.
-/
namespace Clearance

open Text Route

/-- When a flight that is put on a preferential route shows it: the route without its leading dots ends with the whole
amendment, has it in front of a destination at its end as well, and the transition fix is ahead. -/
structure Flight.Shows (f : Flight) (table : FixTable) (c : PreferentialRoute) (r : ComposedRoute) : Prop where
  whole : c.effectiveAmendment.toList <:+ (withoutLeadingDots r.route).toList
  landed : ∀ front, (withoutLeadingDots r.route).toList = front ++ f.destination.toList →
    c.effectiveAmendment.toList <:+: front
  ahead : c.transitionFix ∈ Fix.names (parseTo r.route f.destination table)

/-- An amendment that begins with its transition fix, where that is a name of its own in the route. -/
structure PreferentialRoute.BeginsAtTransition (c : PreferentialRoute) (names : List String) : Prop where
  name : IsName c.transitionFix.toList
  amendment : ∃ rest, c.effectiveAmendment.toList = c.transitionFix.toList ++ rest ∧ (rest = [] ∨ ∃ s, rest = '.' :: s)
  kept : EndsWithCut isDot (c.kept names)

theorem PreferentialRoute.BeginsAtTransition.suffix_dropWhile {c : PreferentialRoute} {names : List String}
    (h : c.BeginsAtTransition names) (front : List Char) :
    c.effectiveAmendment.toList <:+ (front ++ c.effectiveAmendment.toList).dropWhile isDot := by
  obtain ⟨rest, hamendment, -⟩ := h.amendment
  have hkeep : c.effectiveAmendment.toList.dropWhile isDot = c.effectiveAmendment.toList := by
    obtain ⟨a, name, hname⟩ := List.exists_cons_of_ne_nil h.name.nonempty
    have ha : isDot a = false := h.name.undotted a (by rw [hname]; exact List.mem_cons_self)
    rw [hamendment, hname, List.cons_append, List.dropWhile_cons, ha, if_neg Bool.false_ne_true]
  rw [List.dropWhile_append]
  split
  · exact ⟨[], hkeep.symm⟩
  · exact List.suffix_append _ _

namespace Flight

variable {f : Flight} {c : PreferentialRoute} {table : FixTable} {r : ComposedRoute}

/-- **A flight with one eligible arrival route** is on it, with no badge, when its transition fix is ahead and the shown
route has the amendment. -/
theorem on_arrival_iff (h : f.arrivalRoutes.filter (·.eligible) = [c]) :
    (f.pending? .arrival = none ∧ f.isOnAmendment .arrival = true) ↔
      c.transitionFix ∈ f.currentNames ∧ PendingRule.arrival.isApplied c f = true := by
  rw [isOnAmendment_arrival_iff h, and_iff_right_iff_imp]
  rintro ⟨hahead, happlied⟩
  have hselect : PendingRule.arrival.select f.arrivalRoutes f.currentNames = some c :=
    PendingRule.select_arrival_iff.2 ⟨h, hahead⟩
  rw [pending?, PendingRule.routes, hselect, Option.filter_some, happlied]
  rfl

/-- **A composed route has its amendment at the end or does not have it.** -/
theorem infix_shown_iff {names : List String} (h : c.compose names = some r) :
    c.effectiveAmendment.toList <:+: (withoutLeadingDots r.route).toList ↔
      c.effectiveAmendment.toList <:+ (withoutLeadingDots r.route).toList := by
  obtain ⟨n, hroute, -⟩ := PreferentialRoute.compose_route h
  have hbody : c.effectiveAmendment.toList <:+ c.body names := List.suffix_append _ _
  have hshown : (withoutLeadingDots r.route).toList <:+ c.body names := by
    have hdots : (withoutLeadingDots r.route).toList = ((c.body names).drop n).dropWhile isDot := by
      rw [withoutLeadingDots, String.toList_ofList, hroute]
      rfl
    rw [hdots]
    exact (List.dropWhile_suffix _).trans (List.drop_suffix _ _)
  exact ⟨fun hin => List.suffix_of_suffix_length_le hbody hshown hin.length_le, List.IsSuffix.isInfix⟩

theorem isApplied_rerouted_iff {names : List String} (h : c.compose names = some r) (fixes : List Fix) :
    PendingRule.arrival.isApplied c (f.rerouted r.route fixes) = true ↔
      c.effectiveAmendment.toList <:+ (withoutLeadingDots r.route).toList ∧
      ∀ front, (withoutLeadingDots r.route).toList = front ++ f.destination.toList →
        c.effectiveAmendment.toList <:+: front := by
  have hdisplay : (f.rerouted r.route fixes).displayRoute =
      withoutDestination (withoutLeadingDots r.route) f.destination := rfl
  rw [PendingRule.isApplied, hdisplay, contains_iff_infix, ← infix_shown_iff h]
  rcases withoutDestination_cases (withoutLeadingDots r.route) f.destination with hsplit | ⟨hno, hsame⟩
  · constructor
    · intro hin
      refine ⟨hin.trans ⟨[], f.destination.toList, by rw [List.nil_append, ← hsplit]⟩, fun front hfront => ?_⟩
      rwa [withoutDestination_of_append hfront] at hin
    · exact fun hshows => hshows.2 _ hsplit
  · rw [hsame]
    exact ⟨fun hin => ⟨hin, fun front hfront => absurd ⟨front, hfront.symm⟩ hno⟩, fun hshows => hshows.1⟩

/-- **Applying the pending arrival route clears its badge exactly when the flight then shows it.** -/
theorem applied_clears_badge_iff {i : Intent} {p : Patch} (hpending : f.pending? .arrival = some c)
    (happly : Gesture.applyPreferential f c table .amend = .ok i) (hp : i.patch? = some p) :
    ((p.apply f).pending? .arrival = none ∧ (p.apply f).isOnAmendment .arrival = true) ↔
      ∃ r, c.compose f.currentNames = some r ∧ f.Shows table c r := by
  obtain ⟨r, hr, rfl⟩ := Gesture.applyPreferential_amend.1 happly
  cases hp
  obtain ⟨hselect, -⟩ := Option.filter_eq_some_iff.1 hpending
  obtain ⟨hone, -⟩ := PendingRule.select_arrival_iff.1 hselect
  have hiff := on_arrival_iff (f := f.rerouted r.route (parseTo r.route f.destination table)) hone
  rw [Patch.apply_reroute, hiff, rerouted_currentNames, isApplied_rerouted_iff hr]
  constructor
  · rintro ⟨hahead, hwhole, hlanded⟩
    exact ⟨r, hr, hwhole, hlanded, hahead⟩
  · rintro ⟨r', hr', hshows⟩
    cases hr.symm.trans hr'
    exact ⟨hshows.ahead, hshows.whole, hshows.landed⟩

theorem applied_clears_badge_iff_of_spliced_arrival :
    let c : PreferentialRoute :=
      { amendment := "LIN.MOD.SYRAH1", route := "OAK.J5.SAC.LIN.J7.RNO", transitionFix := "LIN", eligible := true,
        fixNames := ["LIN", "MOD"] }
    let f : Flight :=
      { aircraftId := "UAL12", filedRoute := "OAK.J5.SAC.LIN.J7", filedFixes := parse "OAK.J5.SAC.LIN.J7" .empty,
        arrivalRoutes := [c] }
    let p := Patch.reroute f "..OAK.J5.SAC.LIN.MOD.SYRAH1" (parseTo "..OAK.J5.SAC.LIN.MOD.SYRAH1" "" .empty)
    f.pending? .arrival = some c ∧ Gesture.applyPreferential f c .empty .amend = .ok (.mutate "UAL12" p) ∧
      (((p.apply f).pending? .arrival = none ∧ (p.apply f).isOnAmendment .arrival = true) ↔
        ∃ r, c.compose f.currentNames = some r ∧ f.Shows .empty c r) := by
  intro c f p
  have hpending : f.pending? .arrival = some c := by decide +kernel
  have hcompose : c.compose f.currentNames =
      some ⟨"LIN.MOD.SYRAH1", "..OAK.J5.SAC.LIN.MOD.SYRAH1", ["OAK", "J5", "SAC", "LIN", "MOD"]⟩ := by
    rw [PreferentialRoute.compose, PreferentialRoute.occurring, List.mergeSort_of_pairwise] <;> decide +kernel
  have happly : Gesture.applyPreferential f c .empty .amend = .ok (.mutate "UAL12" p) :=
    Gesture.applyPreferential_amend.2 ⟨_, hcompose, rfl⟩
  exact ⟨hpending, happly, applied_clears_badge_iff hpending happly rfl⟩

/-- An arrival route whose amendment ends with the destination is still pending when the flight is on it. -/
theorem destination_keeps_badge :
    let c : PreferentialRoute :=
      { amendment := "LIN.MOD.SYRAH1KRNO", route := "OAK.J5.SAC.LIN.J7.RNO", transitionFix := "LIN", eligible := true,
        fixNames := ["LIN", "MOD"] }
    let f : Flight :=
      { aircraftId := "UAL12", destination := "KRNO", filedRoute := "OAK.J5.SAC.LIN.J7",
        filedFixes := parse "OAK.J5.SAC.LIN.J7" .empty, arrivalRoutes := [c] }
    let p := Patch.reroute f "..OAK.J5.SAC.LIN.MOD.SYRAH1KRNO" (parseTo "..OAK.J5.SAC.LIN.MOD.SYRAH1KRNO" "KRNO" .empty)
    f.pending? .arrival = some c ∧ Gesture.applyPreferential f c .empty .amend = .ok (.mutate "UAL12" p) ∧
      (p.apply f).pending? .arrival = some c ∧ (p.apply f).isOnAmendment .arrival = false := by
  intro c f p
  have hcompose : c.compose f.currentNames =
      some ⟨"LIN.MOD.SYRAH1KRNO", "..OAK.J5.SAC.LIN.MOD.SYRAH1KRNO", ["OAK", "J5", "SAC", "LIN", "MOD"]⟩ := by
    rw [PreferentialRoute.compose, PreferentialRoute.occurring, List.mergeSort_of_pairwise] <;> decide +kernel
  refine ⟨?_, Gesture.applyPreferential_amend.2 ⟨_, hcompose, rfl⟩, ?_, ?_⟩ <;> decide +kernel

/-- **A flight that is put on a route whose amendment begins at the transition fix shows it**, unless the route ends
with the destination. -/
theorem shows_of_beginsAtTransition {names : List String} (h : c.compose names = some r)
    (hbegins : c.BeginsAtTransition names) (hahead : c.transitionFix ∈ names)
    (hends : withoutDestination r.route f.destination = r.route) : f.Shows table c r := by
  obtain ⟨rest, hamendment, hrest⟩ := hbegins.amendment
  obtain ⟨n, hroute, hfirst⟩ := PreferentialRoute.compose_route h
  -- the transition fix stands right behind the kept part, so the splice is not behind that
  have hle : n ≤ (c.kept names).length := by
    have hocc : c.transitionFix.toList <+: (c.body names).drop (c.kept names).length := by
      rw [PreferentialRoute.body, List.drop_left, hamendment]
      exact List.prefix_append _ _
    obtain ⟨m, hm, hfind⟩ := exists_find?_le hocc (by rw [PreferentialRoute.body, List.length_append]; omega)
    have hne : c.transitionFix ≠ "" := fun hempty => hbegins.name.nonempty (by rw [hempty]; rfl)
    exact Nat.le_trans (hfirst _ hahead hne m hfind) hm
  rw [PreferentialRoute.body, List.drop_append_of_le_length hle] at hroute
  have hwhole : c.effectiveAmendment.toList <:+ (withoutLeadingDots r.route).toList := by
    rw [withoutLeadingDots, String.toList_ofList, hroute]
    exact hbegins.suffix_dropWhile ('.' :: '.' :: (c.kept names).drop n)
  refine ⟨hwhole, fun front hfront => ?_, ?_⟩
  · have hempty : f.destination.toList = [] := by
      rcases withoutDestination_cases r.route f.destination with hsplit | ⟨hno, -⟩
      · rw [hends] at hsplit
        exact List.self_eq_append_right.1 hsplit
      · have hshown : (withoutLeadingDots r.route).toList <:+ r.route.toList := by
          rw [withoutLeadingDots, String.toList_ofList]
          exact List.dropWhile_suffix _
        exact absurd (List.IsSuffix.trans ⟨front, hfront.symm⟩ hshown) hno
    rw [hempty, List.append_nil] at hfront
    exact hfront ▸ hwhole.isInfix
  · rw [names_parseTo, hends, hroute, hamendment]
    have hmem := mem_nameTexts_dots hbegins.name (hbegins.kept.of_suffix (List.drop_suffix n _)) hrest
    exact List.mem_map.2 ⟨_, hmem, String.ofList_toList⟩

end Flight
end Clearance
