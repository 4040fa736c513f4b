import Clearance.Interpreter.Gesture
/-!
# Reroute — a flight on another route

Clearing a flight direct, putting it on a preferential route and bringing its previous route back all change the same
four fields: the flight is on a new route, and the route it was on is its previous one.  `Flight.rerouted` is that
change; what each gesture makes of it stands below.
-/
namespace Clearance

/-- The flight on a route; the route it was on becomes the previous one. -/
def Flight.rerouted (f : Flight) (route : String) (fixes : List Fix) : Flight :=
  { f with
    amendedRoute := some route
    amendedFixes := some fixes
    previousRoute := some f.currentRoute
    previousFixes := some f.currentFixes }

theorem Patch.apply_reroute (f : Flight) (route : String) (fixes : List Fix) :
    (reroute f route fixes).apply f = f.rerouted route fixes := rfl

namespace Flight

variable (f : Flight) (route : String) (fixes : List Fix)

@[simp] theorem rerouted_currentRoute : (f.rerouted route fixes).currentRoute = route := rfl

@[simp] theorem rerouted_currentFixes : (f.rerouted route fixes).currentFixes = fixes := rfl

@[simp] theorem rerouted_currentNames : (f.rerouted route fixes).currentNames = Fix.names fixes := rfl

@[simp] theorem rerouted_previousRoute : (f.rerouted route fixes).previousRoute = some f.currentRoute := rfl

@[simp] theorem rerouted_previousFixes : (f.rerouted route fixes).previousFixes = some f.currentFixes := rfl

@[simp] theorem rerouted_destination : (f.rerouted route fixes).destination = f.destination := rfl

@[simp] theorem rerouted_aircraftId : (f.rerouted route fixes).aircraftId = f.aircraftId := rfl

/-- The fixes of a previous route: those that are kept, or else those that its text names. -/
def fixesBefore (table : FixTable) : List Fix :=
  f.previousFixes.getD (Route.parseTo route f.destination table)

end Flight

theorem Direct.toFix?_isSome {fix raw : String} {fixes : List Fix} :
    (toFix? fix raw fixes).isSome = true ↔ fix ∈ Fix.names fixes := by
  unfold toFix? Fix.names
  rw [Option.isSome_map, List.findIdx?_isSome, List.any_eq_true]
  simp

theorem Direct.ofFlight?_isSome {f : Flight} {fix : String} :
    (Direct.ofFlight? f fix).isSome = true ↔ fix ∈ f.currentNames := toFix?_isSome

namespace Gesture

variable {f : Flight} {fix : String} {table : FixTable} {i : Intent}

theorem clearDirect_amend : clearDirect f fix .amend = .ok i ↔
    ∃ d, Direct.ofFlight? f fix = some d ∧ i = .mutate f.aircraftId (Patch.reroute f d.route d.fixes) := by
  unfold clearDirect
  cases Direct.ofFlight? f fix with
  | none => simp
  | some d => simp [intent, Direct.patch, eq_comm]

theorem applyPreferential_ok {c : PreferentialRoute} {action : RouteAction} :
    applyPreferential f c table action = .ok i ↔
      ∃ r, c.compose f.currentNames = some r ∧ i = intent f r.route (r.patch f table) action := by
  unfold applyPreferential
  cases c.compose f.currentNames with
  | none => simp
  | some r => simp [eq_comm]

theorem applyPreferential_amend {c : PreferentialRoute} : applyPreferential f c table .amend = .ok i ↔
    ∃ r, c.compose f.currentNames = some r ∧
      i = .mutate f.aircraftId (Patch.reroute f r.route (Route.parseTo r.route f.destination table)) :=
  applyPreferential_ok

theorem applyPreferential_error {c : PreferentialRoute} {action : RouteAction} {e : RejectKind} :
    applyPreferential f c table action = .error e ↔ c.compose f.currentNames = none ∧ e = .composeFailure := by
  unfold applyPreferential
  cases c.compose f.currentNames with
  | none => simp [eq_comm]
  | some r => simp

theorem restorePrevious_eq : restorePrevious f table =
    f.previousRoute.map fun route => .mutate f.aircraftId (Patch.reroute f route (f.fixesBefore route table)) := rfl

end Gesture
end Clearance
