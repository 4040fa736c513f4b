import Clearance.Proofs.Flight.Reroute
/-!
# Restore — bringing the previous route back, any number of times

Restoring exchanges the current and the previous route.  From the first amendment or the first restore on a flight has
both of them with their fixes, so every further restore exchanges the same two routes.
-/
namespace Clearance

def Intent.patch? : Intent → Option Patch
  | .mutate _ p => some p
  | .submit a => some a.patch
  | .stage t => some t.patch
  | _ => none

namespace Flight

/-- The route that a flight is on and the one it was on before, as texts and as fixes. -/
def routes (f : Flight) : (String × List Fix) × Option String × Option (List Fix) :=
  ((f.currentRoute, f.currentFixes), f.previousRoute, f.previousFixes)

/-- A flight without what it was amended to and from. -/
def unrouted (f : Flight) : Flight :=
  { f with amendedRoute := none, amendedFixes := none, previousRoute := none, previousFixes := none }

/-- The second flight is the first one after a gesture that amended its route. -/
inductive Amended (table : FixTable) (f : Flight) : Flight → Prop where
  | direct {fix : String} {i : Intent} {p : Patch} :
      Gesture.clearDirect f fix .amend = .ok i → i.patch? = some p → Amended table f (p.apply f)
  | preferential {c : PreferentialRoute} {i : Intent} {p : Patch} :
      Gesture.applyPreferential f c table .amend = .ok i → i.patch? = some p → Amended table f (p.apply f)

def restored? (table : FixTable) (f : Flight) : Option Flight :=
  (Gesture.restorePrevious f table).bind fun i => i.patch?.map (·.apply f)

def restoredTimes (table : FixTable) : Nat → Flight → Option Flight
  | 0, f => some f
  | n + 1, f => (restoredTimes table n f).bind (restored? table)

variable {table : FixTable} {f g : Flight}

/-- **Every amending gesture is a reroute.** -/
theorem Amended.eq_rerouted (h : Amended table f g) : ∃ route fixes, g = f.rerouted route fixes := by
  cases h with
  | direct hi hp =>
    obtain ⟨d, -, rfl⟩ := Gesture.clearDirect_amend.1 hi
    cases hp
    exact ⟨d.route, d.fixes, rfl⟩
  | preferential hi hp =>
    obtain ⟨r, -, rfl⟩ := Gesture.applyPreferential_amend.1 hi
    cases hp
    exact ⟨r.route, Route.parseTo r.route f.destination table, rfl⟩

theorem restored?_of_previousRoute (f : Flight) (table : FixTable) {route : String} (h : f.previousRoute = some route) :
    f.restored? table = some (f.rerouted route (f.fixesBefore route table)) := by
  rw [restored?, Gesture.restorePrevious_eq, h]
  rfl

theorem restored?_rerouted (table : FixTable) (f : Flight) (route : String) (fixes : List Fix) :
    (f.rerouted route fixes).restored? table = some ((f.rerouted route fixes).rerouted f.currentRoute f.currentFixes) :=
  rfl

theorem restored?_rerouted_rerouted (table : FixTable) (f : Flight) (route : String) (fixes : List Fix) :
    ((f.rerouted route fixes).rerouted f.currentRoute f.currentFixes).restored? table = some (f.rerouted route fixes) :=
  rfl

theorem restoredTimes_succ_of_restored? (h : f.restored? table = some g) :
    ∀ n, restoredTimes table (n + 1) f = restoredTimes table n g
  | 0 => h
  | n + 1 => by
    rw [restoredTimes, restoredTimes_succ_of_restored? h n]
    rfl

/-- **Two flights that are restored to each other are all that restoring comes to.** -/
theorem restoredTimes_of_exchange (hfg : f.restored? table = some g) (hgf : g.restored? table = some f) :
    ∀ n, restoredTimes table (2 * n) f = some f ∧ restoredTimes table (2 * n + 1) f = some g
  | 0 => ⟨rfl, hfg⟩
  | n + 1 => by
    obtain ⟨heven, hodd⟩ := restoredTimes_of_exchange hfg hgf n
    have hagain : 2 * (n + 1) = 2 * n + 1 + 1 := by omega
    have hback : restoredTimes table (2 * (n + 1)) f = some f := by
      rw [hagain, restoredTimes, hodd]
      exact hgf
    refine ⟨hback, ?_⟩
    rw [restoredTimes, hback]
    exact hfg

/-- **Restoring undoes an amendment, and restoring again redoes it**, any number of times; and a flight with a previous
route comes to alternate between two routes in the same way from its first restore on, whether or not the fixes of that
route were kept. -/
theorem restoredTimes_alternate (table : FixTable) (f : Flight) :
    (∀ f₁, Amended table f f₁ → ∃ f₂, f₁.restored? table = some f₂ ∧
      f₂.routes = ((f.currentRoute, f.currentFixes), some f₁.currentRoute, some f₁.currentFixes) ∧
      f₂.unrouted = f.unrouted ∧
      ∀ n, restoredTimes table (2 * n) f₁ = some f₁ ∧ restoredTimes table (2 * n + 1) f₁ = some f₂) ∧
    (∀ route, f.previousRoute = some route → ∃ f₁ f₂, f.restored? table = some f₁ ∧ f₁.restored? table = some f₂ ∧
      f₁.routes = ((route, f.fixesBefore route table), some f.currentRoute, some f.currentFixes) ∧
      f₂.routes = ((f.currentRoute, f.currentFixes), some route, some (f.fixesBefore route table)) ∧
      f₁.unrouted = f.unrouted ∧ f₂.unrouted = f.unrouted ∧
      ∀ n, restoredTimes table (2 * n + 1) f = some f₁ ∧ restoredTimes table (2 * n + 2) f = some f₂) := by
  constructor
  · intro f₁ h
    obtain ⟨route, fixes, rfl⟩ := h.eq_rerouted
    have hback := restored?_rerouted table f route fixes
    have hforth := restored?_rerouted_rerouted table f route fixes
    exact ⟨_, hback, rfl, rfl, restoredTimes_of_exchange hback hforth⟩
  · intro route h
    have hfirst := f.restored?_of_previousRoute table h
    have hback := restored?_rerouted table f route (f.fixesBefore route table)
    have hforth := restored?_rerouted_rerouted table f route (f.fixesBefore route table)
    refine ⟨_, _, hfirst, hback, rfl, rfl, rfl, rfl, fun n => ?_⟩
    obtain ⟨heven, hodd⟩ := restoredTimes_of_exchange hback hforth n
    exact ⟨(restoredTimes_succ_of_restored? hfirst _).trans heven,
      (restoredTimes_succ_of_restored? hfirst _).trans hodd⟩

end Flight
end Clearance
