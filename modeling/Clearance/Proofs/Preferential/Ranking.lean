import Clearance.Preferential.Pending
import Clearance.Proofs.Text.Occurrence
import Mathlib.Data.List.Nodup
import Mathlib.Logic.Relation
/-!
# Ranking — which preferential route is flagged as pending

An arrival route is flagged only if it is the only eligible one.  The departure routes are ranked instead: RNAV routes
before others, then by order, then by their places in the list, and only the first eligible one can be flagged
(`select_departure_iff`).  Routes that are not eligible do not count, and where no two eligible routes have the same
rank the order of the list does not either (`pending?_exact`).
-/
namespace Clearance

open Text

namespace PreferentialRoute

/-- A route comes before another one: it is an RNAV route and the other one is not, or it has the lower order. -/
def Outranks (c d : PreferentialRoute) : Prop :=
  c.rnav = true ∧ d.rnav = false ∨ c.rnav = d.rnav ∧ c.order < d.order

/-- The only eligible one of the routes; a route that is listed twice is not. -/
def IsOnly (routes : List PreferentialRoute) (c : PreferentialRoute) : Prop :=
  ∃ before after, routes = before ++ c :: after ∧ c.eligible = true ∧ ∀ d ∈ before ++ after, d.eligible = false

/-- The first of the eligible routes, by rank and among equals by the place in the list. -/
def IsFirst (routes : List PreferentialRoute) (c : PreferentialRoute) : Prop :=
  ∃ before after, routes = before ++ c :: after ∧ c.eligible = true ∧
    (∀ d ∈ before, d.eligible = true → c.Outranks d) ∧ ∀ d ∈ after, d.eligible = true → ¬d.Outranks c

/-- No two of the eligible routes have the same rank. -/
def Ranked (routes : List PreferentialRoute) : Prop :=
  ((routes.filter (·.eligible)).map fun c => (c.rnav, c.order)).Nodup

/-- A route that is not eligible is added, taken away, or changed into another one that is not. -/
inductive Edit : List PreferentialRoute → List PreferentialRoute → Prop where
  | add (before after : List PreferentialRoute) {c : PreferentialRoute} (hc : c.eligible = false) :
    Edit (before ++ after) (before ++ c :: after)
  | remove (before after : List PreferentialRoute) {c : PreferentialRoute} (hc : c.eligible = false) :
    Edit (before ++ c :: after) (before ++ after)
  | change (before after : List PreferentialRoute) {c d : PreferentialRoute} (hc : c.eligible = false)
    (hd : d.eligible = false) : Edit (before ++ c :: after) (before ++ d :: after)

variable {routes routes' : List PreferentialRoute} {c d : PreferentialRoute}

theorem Outranks.irrefl : ¬c.Outranks c := by
  rintro (⟨hrnav, hno⟩ | ⟨-, hlt⟩)
  · exact absurd (hrnav.symm.trans hno) Bool.noConfusion
  · exact UInt32.lt_irrefl _ hlt

theorem Outranks.asymm (h : c.Outranks d) : ¬d.Outranks c := by
  rintro (⟨hd, hc⟩ | ⟨hrnav, hlt⟩)
  · rcases h with ⟨hc', -⟩ | ⟨hrnav, -⟩
    · exact absurd (hc'.symm.trans hc) Bool.noConfusion
    · exact absurd ((hd.symm.trans hrnav.symm).trans hc) Bool.noConfusion
  · rcases h with ⟨hc, hd⟩ | ⟨-, hlt'⟩
    · exact absurd ((hc.symm.trans hrnav.symm).trans hd) Bool.noConfusion
    · exact UInt32.lt_asymm hlt hlt'

/-- Routes of different rank are ranked one way or the other. -/
theorem outranks_of_ne (h : (c.rnav, c.order) ≠ (d.rnav, d.order)) (hno : ¬d.Outranks c) : c.Outranks d := by
  by_cases hrnav : c.rnav = d.rnav
  · have horder : c.order ≠ d.order := fun horder => h (Prod.ext hrnav horder)
    have hle : ¬d.order < c.order := fun hlt => hno (.inr ⟨hrnav.symm, hlt⟩)
    exact .inr ⟨hrnav, UInt32.lt_of_le_of_ne (UInt32.not_lt.1 hle) horder⟩
  · cases hc : c.rnav with
    | true => exact .inl ⟨hc, by simpa [hc] using hrnav⟩
    | false => exact absurd (.inl ⟨by simpa [hc] using hrnav, hc⟩) hno

theorem outranks_iff_of_rnav (hc : c.rnav = true) : c.Outranks d ↔ (d.rnav = true → c.order < d.order) := by
  cases hd : d.rnav <;> simp [Outranks, hc, hd]

theorem outranks_rnav_iff (hc : c.rnav = true) : d.Outranks c ↔ d.rnav = true ∧ d.order < c.order := by
  simp [Outranks, hc]

theorem outranks_iff_of_plain (hc : c.rnav = false) (hd : d.rnav = false) : c.Outranks d ↔ c.order < d.order := by
  simp [Outranks, hc, hd]

theorem Edit.filter_eq (h : Edit routes routes') : routes.filter (·.eligible) = routes'.filter (·.eligible) := by
  cases h with
  | add before after hc => simp [hc]
  | remove before after hc => simp [hc]
  | change before after hc hd => simp [hc, hd]

/-- **The eligible routes do not depend on the others.** -/
theorem filter_eq_of_edits (h : Relation.ReflTransGen Edit routes routes') :
    routes.filter (·.eligible) = routes'.filter (·.eligible) := by
  induction h with
  | refl => rfl
  | tail _ hstep ih => exact ih.trans hstep.filter_eq

/-- Where a member of a filtered list stands, seen in the whole list. -/
theorem exists_split_filter_iff {p : PreferentialRoute → Bool} {P Q : PreferentialRoute → Prop} :
    (∃ before after, routes.filter p = before ++ c :: after ∧ (∀ d ∈ before, P d) ∧ ∀ d ∈ after, Q d) ↔
      ∃ before after, routes = before ++ c :: after ∧ p c = true ∧ (∀ d ∈ before, p d = true → P d) ∧
        ∀ d ∈ after, p d = true → Q d := by
  constructor
  · rintro ⟨before, after, hfilter, hbefore, hafter⟩
    obtain ⟨front, back, rfl, rfl, hback⟩ := List.filter_eq_append_iff.1 hfilter
    obtain ⟨skipped, rest, rfl, hskipped, hc, rfl⟩ := List.filter_eq_cons_iff.1 hback
    refine ⟨front ++ skipped, rest, (List.append_assoc _ _ _).symm, hc, fun d hd hpd => ?_, fun d hd hpd => ?_⟩
    · rcases List.mem_append.1 hd with hd | hd
      · exact hbefore d (List.mem_filter.2 ⟨hd, hpd⟩)
      · exact absurd hpd (hskipped d hd)
    · exact hafter d (List.mem_filter.2 ⟨hd, hpd⟩)
  · rintro ⟨before, after, rfl, hc, hbefore, hafter⟩
    refine ⟨before.filter p, after.filter p, ?_, fun d hd => ?_, fun d hd => ?_⟩
    · rw [List.filter_append, List.filter_cons_of_pos hc]
    · exact hbefore d (List.mem_filter.1 hd).1 (List.mem_filter.1 hd).2
    · exact hafter d (List.mem_filter.1 hd).1 (List.mem_filter.1 hd).2

theorem isOnly_iff : IsOnly routes c ↔ routes.filter (·.eligible) = [c] := by
  constructor
  · rintro ⟨before, after, rfl, hc, hothers⟩
    rw [List.forall_mem_append] at hothers
    rw [List.filter_append, List.filter_cons_of_pos hc, List.filter_eq_nil_iff.2 (by simpa using hothers.1),
      List.filter_eq_nil_iff.2 (by simpa using hothers.2), List.nil_append]
  · intro h
    obtain ⟨before, after, hroutes, hc, hbefore, hafter⟩ := exists_split_filter_iff (P := fun _ => False)
      (Q := fun _ => False) |>.1 ⟨[], [], h, fun d hd => (nomatch hd), fun d hd => (nomatch hd)⟩
    refine ⟨before, after, hroutes, hc, List.forall_mem_append.2 ⟨fun d hd => ?_, fun d hd => ?_⟩⟩
    · exact Bool.eq_false_iff.2 (hbefore d hd)
    · exact Bool.eq_false_iff.2 (hafter d hd)

/-- **In a ranked list the first route is the one that no other one outranks**, wherever it stands. -/
theorem isFirst_iff_of_ranked (h : Ranked routes) :
    IsFirst routes c ↔ c ∈ routes ∧ c.eligible = true ∧ ∀ d ∈ routes, d.eligible = true → ¬d.Outranks c := by
  constructor
  · rintro ⟨before, after, rfl, hc, hbefore, hafter⟩
    refine ⟨by simp, hc, fun d hd heligible => ?_⟩
    rw [List.mem_append, List.mem_cons] at hd
    rcases hd with hd | rfl | hd
    · exact (hbefore d hd heligible).asymm
    · exact Outranks.irrefl
    · exact hafter d hd heligible
  · rintro ⟨hmem, hc, hleast⟩
    obtain ⟨before, after, rfl⟩ := List.append_of_mem hmem
    refine ⟨before, after, rfl, hc, fun d hd heligible => ?_, fun d hd => hleast d (by simp [hd])⟩
    refine outranks_of_ne (fun heq => ?_) (hleast d (by simp [hd]) heligible)
    rw [Ranked, List.filter_append, List.filter_cons_of_pos hc, List.map_append, List.map_cons] at h
    refine List.disjoint_of_nodup_append h (a := (c.rnav, c.order)) ?_ List.mem_cons_self
    exact List.mem_map.2 ⟨d, List.mem_filter.2 ⟨hd, heligible⟩, heq.symm⟩

theorem Ranked.perm (h : Ranked routes) (hperm : routes.Perm routes') : Ranked routes' :=
  ((hperm.filter _).map _).nodup_iff.1 h

theorem isFirst_perm (h : Ranked routes) (hperm : routes.Perm routes') : IsFirst routes c ↔ IsFirst routes' c := by
  rw [isFirst_iff_of_ranked h, isFirst_iff_of_ranked (h.perm hperm)]
  simp only [hperm.mem_iff]

end PreferentialRoute

namespace PendingRule

open PreferentialRoute

/-- The flight with other routes to choose from. -/
def offer (rule : PendingRule) (f : Flight) (routes : List PreferentialRoute) : Flight :=
  match rule with
  | .arrival => { f with arrivalRoutes := routes }
  | .departure => { f with departureRoutes := routes }

variable {rule : PendingRule} {routes routes' : List PreferentialRoute} {c d : PreferentialRoute} {names : List String}

theorem lowest_eq_none_iff : lowest routes = none ↔ routes = [] := by
  cases routes with
  | nil => exact iff_of_true rfl rfl
  | cons d routes =>
    refine iff_of_false (fun h => ?_) (List.cons_ne_nil _ _)
    rw [lowest] at h
    split at h
    · cases h
    · split at h <;> cases h

theorem mem_of_lowest : ∀ {routes : List PreferentialRoute} {c : PreferentialRoute},
    lowest routes = some c → c ∈ routes
  | [], _, h => nomatch h
  | a :: routes, c, h => by
    rw [lowest] at h
    split at h
    · cases h
      exact List.mem_cons_self
    · rename_i d hd
      split at h
      · cases h
        exact List.mem_cons_of_mem _ (mem_of_lowest hd)
      · cases h
        exact List.mem_cons_self

theorem lowest_of_split {after : List PreferentialRoute} (hafter : ∀ d ∈ after, ¬d.order < c.order) :
    ∀ {before : List PreferentialRoute}, (∀ d ∈ before, c.order < d.order) → lowest (before ++ c :: after) = some c
  | [], _ => by
    rw [List.nil_append, lowest]
    split
    · rfl
    · rename_i d hd
      rw [if_neg (hafter d (mem_of_lowest hd))]
  | b :: before, hbefore => by
    rw [List.forall_mem_cons] at hbefore
    rw [List.cons_append, lowest, lowest_of_split hafter hbefore.2]
    exact if_pos hbefore.1

theorem exists_split_of_lowest : ∀ {routes : List PreferentialRoute} {c : PreferentialRoute},
    lowest routes = some c → ∃ before after, routes = before ++ c :: after ∧
      (∀ d ∈ before, c.order < d.order) ∧ ∀ d ∈ after, ¬d.order < c.order
  | a :: routes, c, h => by
    rw [lowest] at h
    split at h
    · rename_i hnone
      cases h
      obtain rfl := lowest_eq_none_iff.1 hnone
      exact ⟨[], [], rfl, fun d hd => (nomatch hd), fun d hd => (nomatch hd)⟩
    · rename_i e he
      obtain ⟨front, back, rfl, hfront, hback⟩ := exists_split_of_lowest he
      split at h
      · rename_i hlt
        cases h
        exact ⟨a :: front, back, rfl, List.forall_mem_cons.2 ⟨hlt, hfront⟩, hback⟩
      · rename_i hle
        cases h
        refine ⟨[], _, rfl, fun d hd => (nomatch hd), fun d hd => ?_⟩
        rw [UInt32.not_lt] at hle ⊢
        rcases List.mem_append.1 hd with hd | hd
        · exact UInt32.le_trans hle (UInt32.le_of_lt (hfront d hd))
        · rcases List.mem_cons.1 hd with rfl | hd
          · exact hle
          · exact UInt32.le_trans hle (UInt32.not_lt.1 (hback d hd))

/-- **The first route with the lowest order**: those in front of it have a higher one, those behind it no lower one. -/
theorem lowest_eq_some_iff : lowest routes = some c ↔ ∃ before after, routes = before ++ c :: after ∧
    (∀ d ∈ before, c.order < d.order) ∧ ∀ d ∈ after, ¬d.order < c.order := by
  constructor
  · exact exists_split_of_lowest
  · rintro ⟨before, after, rfl, hbefore, hafter⟩
    exact lowest_of_split hafter hbefore

theorem select_arrival_iff : arrival.select routes names = some c ↔
    routes.filter (·.eligible) = [c] ∧ c.transitionFix ∈ names := by
  unfold select
  simp only
  split
  · rename_i d hd
    rw [hd, List.cons.injEq]
    by_cases hahead : d.transitionFix ∈ names
    · simp only [List.contains_iff_mem, hahead, if_true, Option.some.injEq, and_true]
      exact ⟨fun h => ⟨h, h ▸ hahead⟩, fun h => h.1⟩
    · simp only [List.contains_iff_mem, hahead, if_false, and_true]
      exact ⟨fun h => (nomatch h), fun ⟨h, hc⟩ => absurd (h ▸ hc) hahead⟩
  · rename_i hno
    exact ⟨fun h => (nomatch h), fun ⟨h, _⟩ => absurd h (hno c)⟩

/-- Where an RNAV route is eligible, the first of the eligible routes is an RNAV route. -/
theorem rnav_of_isFirst (h : IsFirst routes c) (hd : d ∈ routes) (heligible : d.eligible = true)
    (hrnav : d.rnav = true) : c.rnav = true := by
  obtain ⟨before, after, rfl, -, hbefore, hafter⟩ := h
  rw [List.mem_append, List.mem_cons] at hd
  rcases hd with hd | rfl | hd
  · rcases hbefore d hd heligible with ⟨hc, -⟩ | ⟨hsame, -⟩
    · exact hc
    · exact hsame.trans hrnav
  · exact hrnav
  · by_contra hc
    exact hafter d hd heligible (.inl ⟨hrnav, Bool.eq_false_iff.2 hc⟩)

theorem lowest_rnav_iff (hd : d ∈ routes) (heligible : d.eligible = true) (hrnav : d.rnav = true) :
    lowest (routes.filter fun c => c.rnav && c.eligible) = some c ↔ IsFirst routes c := by
  rw [lowest_eq_some_iff, exists_split_filter_iff]
  simp only [Bool.and_eq_true, and_imp]
  constructor
  · rintro ⟨before, after, hroutes, ⟨hc, hc'⟩, hbefore, hafter⟩
    refine ⟨before, after, hroutes, hc', fun e he he' => ?_, fun e he he' hbeats => ?_⟩
    · exact (outranks_iff_of_rnav hc).2 fun her => hbefore e he her he'
    · obtain ⟨her, hlt⟩ := (outranks_rnav_iff hc).1 hbeats
      exact hafter e he her he' hlt
  · intro h
    have hc := rnav_of_isFirst h hd heligible hrnav
    obtain ⟨before, after, hroutes, hc', hbefore, hafter⟩ := h
    refine ⟨before, after, hroutes, ⟨hc, hc'⟩, fun e he her he' => ?_, fun e he her he' hlt => ?_⟩
    · exact (outranks_iff_of_rnav hc).1 (hbefore e he he') her
    · exact hafter e he he' ((outranks_rnav_iff hc).2 ⟨her, hlt⟩)

theorem lowest_plain_iff (hplain : ∀ d ∈ routes, d.eligible = true → d.rnav = false) :
    lowest (routes.filter (·.eligible)) = some c ↔ IsFirst routes c := by
  rw [lowest_eq_some_iff, exists_split_filter_iff, IsFirst]
  refine exists₂_congr fun before after => and_congr_right fun hroutes => and_congr_right fun hc => ?_
  subst hroutes
  have hcr : c.rnav = false := hplain c (by simp) hc
  refine and_congr (forall₃_congr fun d hd hd' => ?_) (forall₃_congr fun d hd hd' => not_congr ?_)
  · exact (outranks_iff_of_plain hcr (hplain d (by simp [hd]) hd')).symm
  · exact (outranks_iff_of_plain (hplain d (by simp [hd]) hd') hcr).symm

/-- **The departure route that is selected is the first eligible one.** -/
theorem select_departure_iff : departure.select routes names = some c ↔ IsFirst routes c := by
  unfold select
  simp only
  split
  · rename_i hany
    obtain ⟨d, hd, hrnav⟩ := List.any_eq_true.1 hany
    obtain ⟨hd, heligible⟩ := List.mem_filter.1 hd
    rw [List.filter_filter]
    exact lowest_rnav_iff hd heligible hrnav
  · rename_i hany
    rw [Bool.not_eq_true, List.any_eq_false] at hany
    refine lowest_plain_iff fun d hd heligible => ?_
    exact Bool.eq_false_iff.2 (hany d (List.mem_filter.2 ⟨hd, heligible⟩))

theorem select_departure_eq_none_iff :
    departure.select routes names = none ↔ ∀ c ∈ routes, c.eligible = false := by
  unfold select
  simp only [lowest_eq_none_iff]
  split
  · rename_i hany
    obtain ⟨e, he, hrnav⟩ := List.any_eq_true.1 hany
    refine iff_of_false (List.ne_nil_of_mem (List.mem_filter.2 ⟨he, hrnav⟩)) fun hall => ?_
    exact absurd (hall e (List.mem_filter.1 he).1) (Bool.eq_false_iff.not.2 (not_not.2 (List.mem_filter.1 he).2))
  · simp

/-- **What is selected depends on the eligible routes only.** -/
theorem select_of_filter_eq (h : routes.filter (·.eligible) = routes'.filter (·.eligible)) :
    rule.select routes names = rule.select routes' names := by
  unfold select
  rw [h]

theorem pending?_offer (rule : PendingRule) (f : Flight) (routes : List PreferentialRoute) :
    (rule.offer f routes).pending? rule =
      (rule.select routes f.currentNames).filter fun c => !rule.isApplied c f := by
  cases rule <;> rfl

end PendingRule

namespace Flight

open PreferentialRoute

variable {f : Flight} {c : PreferentialRoute}

theorem pending?_eq_some_iff {rule : PendingRule} : f.pending? rule = some c ↔
    rule.select (rule.routes f) f.currentNames = some c ∧ rule.isApplied c f = false := by
  rw [pending?, Option.filter_eq_some_iff, Bool.not_eq_true']

theorem isOnAmendment_arrival_iff (h : f.arrivalRoutes.filter (·.eligible) = [c]) : f.isOnAmendment .arrival = true ↔
    c.transitionFix ∈ f.currentNames ∧ PendingRule.arrival.isApplied c f = true := by
  have heligible : ∀ d, d ∈ f.arrivalRoutes ∧ d.eligible = true ↔ d = c := by
    intro d
    rw [← List.mem_filter, h, List.mem_singleton]
  simp only [isOnAmendment, PendingRule.routes, List.any_eq_true, Bool.and_eq_true, List.contains_iff_mem]
  constructor
  · rintro ⟨d, hd, ⟨heli, hahead⟩, happlied⟩
    obtain rfl := (heligible d).1 ⟨hd, heli⟩
    exact ⟨hahead, happlied⟩
  · rintro ⟨hahead, happlied⟩
    obtain ⟨hc, heli⟩ := (heligible c).2 rfl
    exact ⟨c, hc, ⟨heli, hahead⟩, happlied⟩

theorem pending?_arrival_iff : f.pending? .arrival = some c ↔ IsOnly f.arrivalRoutes c ∧
    c.transitionFix ∈ f.currentNames ∧ ¬c.effectiveAmendment.toList <:+: f.displayRoute.toList := by
  rw [pending?_eq_some_iff, PendingRule.routes, PendingRule.select_arrival_iff, isOnly_iff, and_assoc,
    ← Bool.not_eq_true, PendingRule.isApplied, contains_iff_infix]

/-- **A flight with one eligible arrival route** whose transition fix is ahead waits for it or is on it. -/
theorem isOnAmendment_arrival_eq (h : IsOnly f.arrivalRoutes c) (hahead : c.transitionFix ∈ f.currentNames) :
    f.isOnAmendment .arrival = (f.pending? .arrival).isNone := by
  have hselect : PendingRule.arrival.select f.arrivalRoutes f.currentNames = some c :=
    PendingRule.select_arrival_iff.2 ⟨isOnly_iff.1 h, hahead⟩
  have hon := isOnAmendment_arrival_iff (isOnly_iff.1 h)
  rw [and_iff_right hahead, ← Bool.eq_iff_iff] at hon
  rw [hon, pending?, PendingRule.routes, hselect, Option.filter_some]
  cases PendingRule.arrival.isApplied c f <;> rfl

theorem pending?_departure_iff : f.pending? .departure = some c ↔
    IsFirst f.departureRoutes c ∧ ¬c.effectiveAmendment.toList <+: f.displayRoute.toList := by
  rw [pending?_eq_some_iff, PendingRule.routes, PendingRule.select_departure_iff, ← Bool.not_eq_true,
    PendingRule.isApplied, List.isPrefixOf_iff_prefix]

theorem pending?_departure_eq_none_iff : f.pending? .departure = none ↔
    (∀ c ∈ f.departureRoutes, c.eligible = false) ∨
      ∃ c, IsFirst f.departureRoutes c ∧ c.effectiveAmendment.toList <+: f.displayRoute.toList := by
  have hnone : PendingRule.departure.select f.departureRoutes f.currentNames = none ↔
      ∀ c ∈ f.departureRoutes, c.eligible = false := PendingRule.select_departure_eq_none_iff
  have hfirst : ∀ c, PendingRule.departure.select f.departureRoutes f.currentNames = some c ↔
      IsFirst f.departureRoutes c := fun c => PendingRule.select_departure_iff
  rw [pending?, PendingRule.routes, ← hnone]
  simp only [← hfirst]
  cases PendingRule.departure.select f.departureRoutes f.currentNames with
  | none => simp
  | some c => simp [PendingRule.isApplied]

/-- **Which preferential route is pending.**  Of the arrival routes it is the only eligible one, while its transition
fix is ahead and the route shown does not have its amendment; of the departure routes the first eligible one, unless the
route shown starts with its amendment, and then none is.  Routes that are not eligible have no say in it, and neither
has the order of ranked departure routes. -/
theorem pending?_exact (f : Flight) :
    (∀ c, f.pending? .arrival = some c ↔ IsOnly f.arrivalRoutes c ∧ c.transitionFix ∈ f.currentNames ∧
      ¬c.effectiveAmendment.toList <:+: f.displayRoute.toList) ∧
    (∀ c, f.pending? .arrival = some c → f.isOnAmendment .arrival = false) ∧
    (∀ c, IsOnly f.arrivalRoutes c → c.transitionFix ∈ f.currentNames →
      f.isOnAmendment .arrival = (f.pending? .arrival).isNone) ∧
    (∀ c, f.pending? .departure = some c ↔
      IsFirst f.departureRoutes c ∧ ¬c.effectiveAmendment.toList <+: f.displayRoute.toList) ∧
    (f.pending? .departure = none ↔ (∀ c ∈ f.departureRoutes, c.eligible = false) ∨
      ∃ c, IsFirst f.departureRoutes c ∧ c.effectiveAmendment.toList <+: f.displayRoute.toList) ∧
    (∀ (rule : PendingRule) (routes : List PreferentialRoute), Relation.ReflTransGen Edit (rule.routes f) routes →
      (rule.offer f routes).pending? rule = f.pending? rule) ∧
    ∀ routes, Ranked f.departureRoutes → f.departureRoutes.Perm routes →
      (PendingRule.departure.offer f routes).pending? .departure = f.pending? .departure := by
  refine ⟨fun c => pending?_arrival_iff, fun c hc => ?_, fun c => isOnAmendment_arrival_eq,
    fun c => pending?_departure_iff, pending?_departure_eq_none_iff, fun rule routes hedits => ?_,
    fun routes hranked hperm => ?_⟩
  · obtain ⟨honly, hahead, -⟩ := pending?_arrival_iff.1 hc
    rw [isOnAmendment_arrival_eq honly hahead, hc]
    rfl
  · rw [PendingRule.pending?_offer, ← PendingRule.select_of_filter_eq (filter_eq_of_edits hedits), pending?]
  · refine Option.ext fun c => ?_
    rw [pending?_departure_iff, pending?_departure_iff]
    exact and_congr_left' (isFirst_perm hranked hperm).symm

theorem pending?_exact_of_mixed_routes :
    let closed : PreferentialRoute := { amendment := "SYRAH1", transitionFix := "OAK", rnav := true }
    let only : PreferentialRoute := { amendment := "LIN.MOD.SYRAH1", transitionFix := "LIN", eligible := true }
    let plain : PreferentialRoute := { amendment := "SSTIK5", eligible := true, order := 1 }
    let second : PreferentialRoute := { amendment := "OAK.J5", eligible := true, order := 3, rnav := true }
    let first : PreferentialRoute := { amendment := "PORTE3", eligible := true, order := 2, rnav := true }
    let f : Flight :=
      { aircraftId := "UAL12", filedRoute := "OAK.J5.LIN.J7", filedFixes := Route.parse "OAK.J5.LIN.J7" .empty,
        formattedRoute := "OAK.J5.LIN.J7", arrivalRoutes := [closed, only],
        departureRoutes := [plain, closed, second, first] }
    f.pending? .arrival = some only ∧ f.isOnAmendment .arrival = false ∧
      (IsOnly f.arrivalRoutes only ∧ only.transitionFix ∈ f.currentNames ∧
        f.isOnAmendment .arrival = (f.pending? .arrival).isNone) ∧
      f.pending? .departure = some first ∧
      (Relation.ReflTransGen Edit f.departureRoutes [plain, second, first, closed] ∧
        (PendingRule.departure.offer f [plain, second, first, closed]).pending? .departure = f.pending? .departure) ∧
      Ranked f.departureRoutes ∧ f.departureRoutes.Perm [first, second, closed, plain] ∧
        (PendingRule.departure.offer f [first, second, closed, plain]).pending? .departure = f.pending? .departure := by
  intro closed only plain second first f
  obtain ⟨-, hoff, hone, -, -, hedits, hperms⟩ := pending?_exact f
  have hpending : f.pending? .arrival = some only := by decide +kernel
  have honly : IsOnly f.arrivalRoutes only := ⟨[closed], [], rfl, rfl, by decide⟩
  have hahead : only.transitionFix ∈ f.currentNames := by decide +kernel
  have hedited : Relation.ReflTransGen Edit f.departureRoutes [plain, second, first, closed] :=
    .tail (.single (.remove [plain] [second, first] rfl)) (.add [plain, second, first] [] rfl)
  have hranked : Ranked f.departureRoutes := by unfold Ranked; decide
  have hperm : f.departureRoutes.Perm [first, second, closed, plain] := by decide
  exact ⟨hpending, hoff only hpending, ⟨honly, hahead, hone only honly hahead⟩, by decide +kernel,
    ⟨hedited, hedits .departure _ hedited⟩, hranked, hperm, hperms _ hranked hperm⟩

end Flight
end Clearance
