import Clearance.Proofs.Flight.Cut
import Clearance.Proofs.Flight.Restore
import Clearance.Proofs.Store.Footprint
/-!
# Consistency — whether the fixes of a flight are what its route names

Typed messages and route gestures change route texts and fixes together.  Preferential and previous routes keep them
consistent; a direct clearance cuts text and fixes on its own, and `run_consistent_iff` says that a run keeps a store
consistent exactly as long as each of its clearances cuts them at the same place.
-/
namespace Clearance

/-- The fixes of the current route, and of the previous one if they were kept, are those that its text names. -/
structure Flight.Consistent (table : FixTable) (f : Flight) : Prop where
  current : f.currentNames = Fix.names (Route.parseTo f.currentRoute f.destination table)
  previous : ∀ route ∈ f.previousRoute, ∀ fixes ∈ f.previousFixes,
    Fix.names fixes = Fix.names (Route.parseTo route f.destination table)

structure Store.Consistent (table : FixTable) (s : Store) : Prop where
  distinct : DistinctIds s.flights
  flights : ∀ f ∈ s.flights, f.Consistent table

instance (table : FixTable) (f : Flight) : Decidable (f.Consistent table) :=
  decidable_of_iff (f.currentNames = Fix.names (Route.parseTo f.currentRoute f.destination table) ∧
    ∀ route ∈ f.previousRoute, ∀ fixes ∈ f.previousFixes,
      Fix.names fixes = Fix.names (Route.parseTo route f.destination table))
    ⟨fun h => ⟨h.1, h.2⟩, fun h => ⟨h.current, h.previous⟩⟩

instance (table : FixTable) (s : Store) : Decidable (s.Consistent table) :=
  decidable_of_iff (DistinctIds s.flights ∧ ∀ f ∈ s.flights, f.Consistent table)
    ⟨fun h => ⟨h.1, h.2⟩, fun h => ⟨h.distinct, h.flights⟩⟩

/-- A flight as it is filed: its fixes are those that the route text names. -/
def Flight.filed (aircraftId route destination : String) (table : FixTable) : Flight :=
  { aircraftId, destination, filedRoute := route, filedFixes := Route.parseTo route destination table }

/-- Something that may change a route: a typed message, or a gesture that amends the flight at a place of the store. -/
inductive Act where
  | typed (m : Message)
  | direct (place : Nat) (fix : String)
  | reroute (place : Nat) (c : PreferentialRoute)
  | restore (place : Nat)

namespace Act

def intents (table : FixTable) (s : Store) : Act → List Intent
  | typed m => (m.response s).intents
  | direct k fix => (s.flights[k]?.bind fun f => (Gesture.clearDirect f fix .amend).toOption).toList
  | reroute k c => (s.flights[k]?.bind fun f => (Gesture.applyPreferential f c table .amend).toOption).toList
  | restore k => (s.flights[k]?.bind fun f => Gesture.restorePrevious f table).toList

def step (table : FixTable) (s : Store) (a : Act) : Store := s.applyAll (a.intents table s)

def run (table : FixTable) (s : Store) (acts : List Act) : Store := acts.foldl (step table) s

/-- The act clears a flight of the store direct to a fix. -/
inductive Clears (s : Store) (f : Flight) (fix : String) : Act → Prop where
  | typed {m : Message} {fid : String} : m.form = .clearDirect fix fid → (m.response s).status = .accept →
      Flight.resolve s.flights fid = some f → Clears s f fix (.typed m)
  | direct {k : Nat} : s.flights[k]? = some f → fix ∈ f.currentNames → Clears s f fix (.direct k fix)

end Act

/-! ## Flights -/

namespace Flight

variable {table : FixTable} {f g : Flight}

theorem filed_consistent (aircraftId route destination : String) (table : FixTable) :
    (filed aircraftId route destination table).Consistent table where
  current := by
    simp only [filed, currentNames, currentFixes, currentRoute, Option.getD_none]
  previous _ h := nomatch h

theorem Consistent.of_routes (h : f.Consistent table) (hroutes : g.routes = f.routes)
    (hdest : g.destination = f.destination) : g.Consistent table := by
  obtain ⟨hcurrent, hprevious⟩ := Prod.ext_iff.1 hroutes
  obtain ⟨hroute, hfixes⟩ := Prod.ext_iff.1 hcurrent
  obtain ⟨hbefore, hfixesBefore⟩ := Prod.ext_iff.1 hprevious
  simp only [routes] at hroute hfixes hbefore hfixesBefore
  refine ⟨?_, ?_⟩
  · rw [currentNames, hfixes, hroute, hdest]
    exact h.current
  · rw [hbefore, hfixesBefore, hdest]
    exact h.previous

/-- **A consistent flight stays so on a route whose fixes are what its text names**, and only then. -/
theorem Consistent.rerouted_iff (h : f.Consistent table) {route : String} {fixes : List Fix} :
    (f.rerouted route fixes).Consistent table ↔
      Fix.names fixes = Fix.names (Route.parseTo route f.destination table) := by
  have hcurrent : (f.rerouted route fixes).currentNames = Fix.names (Route.parseTo
        (f.rerouted route fixes).currentRoute (f.rerouted route fixes).destination table) ↔
      Fix.names fixes = Fix.names (Route.parseTo route f.destination table) := by
    rw [currentNames, rerouted_currentFixes, rerouted_currentRoute, rerouted_destination]
  refine ⟨fun hr => hcurrent.1 hr.current, fun hnames => ⟨hcurrent.2 hnames, ?_⟩⟩
  intro before hbefore fixesBefore hfixes
  rw [rerouted_previousRoute, Option.mem_some_iff] at hbefore
  rw [rerouted_previousFixes, Option.mem_some_iff] at hfixes
  rw [← hbefore, ← hfixes, rerouted_destination]
  exact h.current

/-- The route before an amendment is consistent, whether its fixes were kept or have to be read from the text. -/
theorem Consistent.names_fixesBefore (h : f.Consistent table) {route : String} (hroute : f.previousRoute = some route) :
    Fix.names (f.fixesBefore route table) = Fix.names (Route.parseTo route f.destination table) := by
  unfold fixesBefore
  cases hfixes : f.previousFixes with
  | none => rw [Option.getD_none]
  | some fixes => exact h.previous route hroute fixes hfixes

end Flight

/-! ## Acts -/

namespace Store

variable {table : FixTable} {s : Store} {f : Flight}

theorem flights_reroute (h : DistinctIds s.flights) (hf : f ∈ s.flights) (route : String) (fixes : List Fix) :
    (s.applyAll [.mutate f.aircraftId (Patch.reroute f route fixes)]).flights =
      s.flights.map fun g => if g.aircraftId = f.aircraftId then f.rerouted route fixes else g := by
  rw [applyAll_cons, applyAll_nil, flights_mutate h hf, Patch.apply_reroute]

/-- **Rerouting one flight** keeps a store consistent if its fixes are what the text names, and only then. -/
theorem consistent_reroute_iff (h : s.Consistent table) (hf : f ∈ s.flights) {t : Store} {route : String}
    {fixes : List Fix}
    (ht : t.flights = s.flights.map fun g => if g.aircraftId = f.aircraftId then f.rerouted route fixes else g) :
    t.Consistent table ↔ Fix.names fixes = Fix.names (Route.parseTo route f.destination table) := by
  rw [← (h.flights f hf).rerouted_iff]
  constructor
  · intro hc
    refine hc.flights _ ?_
    rw [ht]
    exact List.mem_map.2 ⟨f, hf, if_pos rfl⟩
  · intro hc
    refine ⟨h.distinct.of_map_eq ?_, ?_⟩
    · rw [ht, List.map_map]
      refine List.map_congr_left fun g _ => ?_
      simp only [Function.comp_apply]
      split
      · rename_i hid
        rw [Flight.rerouted_aircraftId, hid]
      · rfl
    · rw [ht]
      intro g hg
      obtain ⟨e, he, rfl⟩ := List.mem_map.1 hg
      split
      · exact hc
      · exact h.flights e he

end Store

theorem Form.routes_effect {form : Form} (hform : ∀ fix fid, form ≠ .clearDirect fix fid)
    (resolver : Option FrdResolver) (context : Context) (flights : List Flight) (f : Flight) :
    (form.effect resolver context flights f).routes = f.routes ∧
      (form.effect resolver context flights f).destination = f.destination := by
  rw [effect]
  split
  · split <;> exact ⟨rfl, rfl⟩
  · split
    · cases form with
      | clearDirect fix fid => exact absurd rfl (hform fix fid)
      | _ => exact ⟨rfl, rfl⟩
    · exact ⟨rfl, rfl⟩

namespace Act

variable {table : FixTable} {s : Store} {f g : Flight} {fix fix' : String} {a : Act}

theorem Clears.unique (h : Clears s f fix a) (h' : Clears s g fix' a) : f = g ∧ fix = fix' := by
  cases h with
  | typed hform _ hres =>
    cases h' with
    | typed hform' _ hres' =>
      rw [hform] at hform'
      cases hform'
      rw [hres] at hres'
      exact ⟨Option.some.inj hres', rfl⟩
  | direct hk _ =>
    cases h' with
    | direct hk' _ =>
      rw [hk] at hk'
      exact ⟨Option.some.inj hk', rfl⟩

/-- **What a clearance does**, typed or clicked: its flight is on the cut route. -/
theorem Clears.flights_step (table : FixTable) (h : DistinctIds s.flights) (hc : Clears s f fix a) :
    f ∈ s.flights ∧ ∃ d, Direct.ofFlight? f fix = some d ∧
      (step table s a).flights = s.flights.map fun g =>
        if g.aircraftId = f.aircraftId then f.rerouted d.route d.fixes else g := by
  cases hc with
  | @typed m fid hform haccept hres =>
    have hmem := Flight.mem_of_resolve hres
    have hanswer := m.response_eq s
    rw [hform, Form.answer] at hanswer
    rcases Form.clearance_cases m.interpreter.resolver s.flights m.context fix fid with
      ⟨-, hr⟩ | ⟨-, e, d, he, -, hd, hr⟩
    · rw [hanswer, hr] at haccept
      cases haccept
    · rw [hres] at he
      cases he
      refine ⟨hmem, d, hd, ?_⟩
      rw [step, intents, hanswer, hr]
      exact Store.flights_reroute h hmem d.route d.fixes
  | @direct k hk hfix =>
    have hmem := List.mem_of_getElem? hk
    obtain ⟨d, hd⟩ := Option.isSome_iff_exists.1 (Direct.ofFlight?_isSome.2 hfix)
    refine ⟨hmem, d, hd, ?_⟩
    have hclear := Gesture.clearDirect_amend.2 ⟨d, hd, rfl⟩
    rw [step, intents, hk, Option.bind_some, hclear]
    exact Store.flights_reroute h hmem d.route d.fixes

theorem target_of_not_clears {m : Message} {fid : String} (hform : m.form = .clearDirect fix fid)
    (hno : ∀ f, ¬Clears s f fix (.typed m)) : m.form.target m.interpreter.resolver m.context s.flights = none := by
  cases ht : m.form.target m.interpreter.resolver m.context s.flights with
  | none => rfl
  | some f =>
    rw [hform, Form.target] at ht
    split at ht
    · rename_i haccept
      refine absurd (Clears.typed hform ?_ ht) (hno f)
      rw [m.response_eq, hform]
      exact of_decide_eq_true haccept
    · cases ht

theorem typed_consistent_of_not_clears (h : s.Consistent table) {m : Message}
    (hno : ∀ f fix, ¬Clears s f fix (.typed m)) : (Message.step s m).Consistent table := by
  refine ⟨(Message.step_footprint h.distinct m).distinct, ?_⟩
  rw [Message.flights_step h.distinct m]
  by_cases hclear : ∃ fix fid, m.form = .clearDirect fix fid
  · obtain ⟨fix, fid, hform⟩ := hclear
    have htarget := target_of_not_clears hform fun f => hno f fix
    rw [Form.map_effect_of_target_none (by rw [hform]; exact Form.noConfusion) htarget]
    exact h.flights
  · intro g hg
    obtain ⟨f, hf, rfl⟩ := List.mem_map.1 hg
    obtain ⟨hroutes, hdest⟩ := Form.routes_effect (fun fix fid hform => hclear ⟨fix, fid, hform⟩)
      m.interpreter.resolver m.context s.flights f
    exact (h.flights f hf).of_routes hroutes hdest

/-- **Every other act keeps a store consistent.** -/
theorem step_consistent_of_not_clears (h : s.Consistent table) (hno : ∀ f fix, ¬Clears s f fix a) :
    (step table s a).Consistent table := by
  cases a with
  | typed m => exact typed_consistent_of_not_clears h hno
  | direct k fix =>
    rw [step, intents]
    cases hk : s.flights[k]? with
    | none => exact h
    | some f =>
      rw [Option.bind_some]
      cases hi : Gesture.clearDirect f fix .amend with
      | error _ => exact h
      | ok i =>
        obtain ⟨d, hd, -⟩ := Gesture.clearDirect_amend.1 hi
        exact absurd (Clears.direct hk (Direct.ofFlight?_isSome.1 (by rw [hd]; rfl))) (hno f fix)
  | reroute k c =>
    rw [step, intents]
    cases hk : s.flights[k]? with
    | none => exact h
    | some f =>
      rw [Option.bind_some]
      cases hi : Gesture.applyPreferential f c table .amend with
      | error _ => exact h
      | ok i =>
        obtain ⟨r, -, rfl⟩ := Gesture.applyPreferential_amend.1 hi
        have hmem := List.mem_of_getElem? hk
        exact (Store.consistent_reroute_iff h hmem (Store.flights_reroute h.distinct hmem _ _)).2 rfl
  | restore k =>
    rw [step, intents]
    cases hk : s.flights[k]? with
    | none => exact h
    | some f =>
      rw [Option.bind_some, Gesture.restorePrevious_eq]
      cases hroute : f.previousRoute with
      | none => exact h
      | some route =>
        have hmem := List.mem_of_getElem? hk
        exact (Store.consistent_reroute_iff h hmem (Store.flights_reroute h.distinct hmem _ _)).2
          ((h.flights f hmem).names_fixesBefore hroute)

/-- **A step keeps a store consistent exactly if it cuts text and fixes of every route at the same place.** -/
theorem step_consistent_iff (h : s.Consistent table) :
    (step table s a).Consistent table ↔ ∀ f fix, Clears s f fix a → f.CutsClean fix := by
  by_cases hex : ∃ f fix, Clears s f fix a
  · obtain ⟨f, fix, hc⟩ := hex
    obtain ⟨hmem, d, hd, hflights⟩ := hc.flights_step table h.distinct
    rw [Store.consistent_reroute_iff h hmem hflights, names_direct_iff (h.flights f hmem).current hd]
    constructor
    · intro hclean g fix' hc'
      obtain ⟨rfl, rfl⟩ := hc.unique hc'
      exact hclean
    · exact fun hall => hall f fix hc
  · have hno : ∀ f fix, ¬Clears s f fix a := fun f fix hc => hex ⟨f, fix, hc⟩
    exact ⟨fun _ f fix hc => absurd hc (hno f fix), fun _ => step_consistent_of_not_clears h hno⟩

/-- **A run keeps a store consistent exactly as long as it cuts text and fixes at the same place.**  Every state of
the run is consistent if and only if each flight that is cleared direct on the way is cleared to a fix where its text
and its fixes are cut alike. -/
theorem run_consistent_iff : ∀ (acts : List Act) {s : Store}, s.Consistent table →
    ((∀ before after, acts = before ++ after → (run table s before).Consistent table) ↔
      ∀ before a after, acts = before ++ a :: after → ∀ f fix, Clears (run table s before) f fix a → f.CutsClean fix)
  | [], s, h => by
    refine ⟨fun _ before a after hacts => ?_, fun _ before after hacts => ?_⟩
    · exact absurd hacts.symm (List.append_ne_nil_of_right_ne_nil before (List.cons_ne_nil a after))
    · rw [(List.append_eq_nil_iff.1 hacts.symm).1]
      exact h
  | a :: acts, s, h => by
    constructor
    · intro hall before b after hacts
      have hnext : (step table s a).Consistent table := hall [a] acts rfl
      cases before with
      | nil =>
        cases hacts
        exact (step_consistent_iff h).1 hnext
      | cons x before =>
        obtain ⟨rfl, htail⟩ := List.cons.inj hacts
        refine (run_consistent_iff acts hnext).1 (fun before' after' hsplit => ?_) before b after htail
        exact hall (a :: before') after' (by rw [hsplit]; rfl)
    · intro hall before after hacts
      cases before with
      | nil => exact h
      | cons x before =>
        obtain ⟨rfl, htail⟩ := List.cons.inj hacts
        have hnext : (step table s a).Consistent table := (step_consistent_iff h).2 (hall [] a acts rfl)
        refine (run_consistent_iff acts hnext).2 (fun before' b after' hsplit => ?_) before after htail
        exact hall (a :: before') b after' (by rw [hsplit]; rfl)

theorem run_consistent_iff_of_one_flight :
    (Store.ofFlights [.filed "N1" "OAK.SAC.RNO" "KRNO" .empty]).Consistent .empty ∧
    ((∀ before after, [.direct 0 "SAC", .restore 0] = before ++ after →
        (run .empty (.ofFlights [.filed "N1" "OAK.SAC.RNO" "KRNO" .empty]) before).Consistent .empty) ↔
      ∀ before a after, [.direct 0 "SAC", .restore 0] = before ++ a :: after → ∀ f fix,
        Clears (run .empty (.ofFlights [.filed "N1" "OAK.SAC.RNO" "KRNO" .empty]) before) f fix a → f.CutsClean fix) :=
  have h : (Store.ofFlights [.filed "N1" "OAK.SAC.RNO" "KRNO" .empty]).Consistent .empty :=
    ⟨by decide, List.forall_mem_singleton.2 (Flight.filed_consistent "N1" "OAK.SAC.RNO" "KRNO" .empty)⟩
  ⟨h, run_consistent_iff [.direct 0 "SAC", .restore 0] h⟩

/-- A name may occur in a longer one in front of it.  The text is then cut there and names one fix more. -/
theorem direct_drifts :
    (Store.ofFlights [.filed "UAL12" "OAK.SAC1.SAC.RNO.KRNO" "KRNO" .empty]).Consistent .empty ∧
    ¬(run .empty (.ofFlights [.filed "UAL12" "OAK.SAC1.SAC.RNO.KRNO" "KRNO" .empty]) [.direct 0 "SAC"]).Consistent
      .empty := by
  decide +kernel

end Act
end Clearance
