import Clearance.Proofs.Store.Effect
import Clearance.Proofs.Text.Words
/-!
# Agreement — a direct clearance, typed and clicked

A flight can be cleared direct by a typed `QU`, by a click that amends its route at once, and by a click that stages the
change for review.  `clear_agrees` says that the three succeed for the same fixes, with the same patch, and that the two
that amend lead to the same store.
-/
namespace Clearance

/-- What clearing a flight direct to a fix comes to: by a click, and typed, where the response to the message depends
on the interpreter. -/
structure ClearancesAgree (s : Store) (context : Context) (f : Flight) (fix : String) (typed : Interpreter → Response) :
    Prop where
  /-- A fix that is not on the route is rejected, however it is chosen. -/
  offRoute : fix ∉ f.currentNames →
    (∀ action, Gesture.clearDirect f fix action = .error .noRouteMembership) ∧
    ∀ i, (typed i).status = .reject ∧ (typed i).rejectKind = some .noRouteMembership ∧ (typed i).intents = []
  /-- A resolver that fails makes the typed clearance fail, and that alone. -/
  unanswered : ∀ i, f.reply i.resolver context = .failed →
    (typed i).status = .reject ∧ (typed i).rejectKind = some .noRouteMembership ∧ (typed i).intents = []
  onRoute : fix ∈ f.currentNames → ∃ route patch, patch.amendedRoute = some route ∧
    Gesture.clearDirect f fix .amend = .ok (.mutate f.aircraftId patch) ∧
    Gesture.clearDirect f fix .trialPlan =
      .ok (.stage ⟨f.aircraftId, f.cid, patch, f.trialPlanMessage route⟩) ∧
    s.apply (.stage ⟨f.aircraftId, f.cid, patch, f.trialPlanMessage route⟩) = s ∧
    (s.apply (.mutate f.aircraftId patch)).flights =
      s.flights.map (fun g => if g.aircraftId = f.aircraftId then patch.apply f else g) ∧
    ∀ i, f.reply i.resolver context ≠ .failed →
      typed i = ⟨.accept, none, "ACCEPT\nCLEARED DIRECT",
        [.submit ⟨f.aircraftId, f.cid, Route.amendmentText route, f.frd? i.resolver context, patch⟩]⟩ ∧
      s.applyAll (typed i).intents = s.apply (.mutate f.aircraftId patch)

/-- **A typed clearance of a flight on the ACL** depends on its fixes and on what the server replies. -/
theorem Interpreter.interpret_clearance {fix fid : String} (hfix : Text.IsWord fix) (hfid : Text.IsWord fid)
    {flights : List Flight} {f : Flight} (hres : Flight.resolve flights fid = some f) (hacl : f.aclDisplay = true)
    (i : Interpreter) (context : Context) :
    i.interpret ("QU " ++ fix ++ " " ++ fid) flights context =
      (Direct.ofFlight? f fix).elim (.badFormat .noRouteMembership) fun d =>
        Action.clearDirectResponse f d (f.reply i.resolver context) := by
  rw [interpret, Command.parse_clearance hfix hfid, dispatch_direct, Command.form_clear rfl, Form.answer,
    Form.clearance, hres, Option.filter_some, if_pos hacl]
  cases hd : Direct.ofFlight? f fix <;> simp only [hd] <;> rfl

/-- **The typed and the clicked clearance agree.** -/
theorem clear_agrees {s : Store} (h : DistinctIds s.flights) {f : Flight} (hacl : f.aclDisplay = true)
    {fix fid : String} (hfix : Text.IsWord fix) (hfid : Text.IsWord fid)
    (hres : Flight.resolve s.flights fid = some f) (context : Context) :
    ClearancesAgree s context f fix fun i => i.interpret ("QU " ++ fix ++ " " ++ fid) s.flights context := by
  have hf := Flight.mem_of_resolve hres
  have htyped := Interpreter.interpret_clearance hfix hfid hres hacl
  cases hd : Direct.ofFlight? f fix with
  | none =>
    have hoff : fix ∉ f.currentNames := fun hmem => by
      rw [← Direct.ofFlight?_isSome, hd] at hmem
      cases hmem
    have hrejected : ∀ i : Interpreter, i.interpret ("QU " ++ fix ++ " " ++ fid) s.flights context =
        .badFormat .noRouteMembership := fun i => by rw [htyped, hd, Option.elim_none]
    exact {
      offRoute := fun _ => ⟨fun action => by rw [Gesture.clearDirect, hd], fun i => by
        rw [hrejected]; exact ⟨rfl, rfl, rfl⟩⟩
      unanswered := fun i _ => by rw [hrejected]; exact ⟨rfl, rfl, rfl⟩
      onRoute := fun hmem => absurd hmem hoff }
  | some d =>
    have hon : fix ∈ f.currentNames := Direct.ofFlight?_isSome.1 (by rw [hd]; rfl)
    have hreply : ∀ i : Interpreter, i.interpret ("QU " ++ fix ++ " " ++ fid) s.flights context =
        Action.clearDirectResponse f d (f.reply i.resolver context) := fun i => by rw [htyped, hd, Option.elim_some]
    exact {
      offRoute := fun hoff => absurd hon hoff
      unanswered := fun i hfailed => by rw [hreply, hfailed]; exact ⟨rfl, rfl, rfl⟩
      onRoute := fun _ => by
        refine ⟨d.route, d.patch f, rfl, by rw [Gesture.clearDirect, hd]; rfl, by rw [Gesture.clearDirect, hd]; rfl,
          rfl, Store.flights_mutate h hf _, fun i hanswered => ?_⟩
        have haccepted := (hreply i).trans (Flight.clearDirectResponse_reply hanswered)
        exact ⟨haccepted, by rw [haccepted]; rfl⟩ }

theorem clear_agrees_of_two_flights :
    let f : Flight :=
      { aircraftId := "N2", cid := "456", filedRoute := "OAK.SAC", filedFixes := [⟨"OAK", none⟩, ⟨"SAC", none⟩]
        aclDisplay := true }
    let s : Store := .ofFlights [{ aircraftId := "N1" }, f]
    let context : Context := ⟨false, "ZOA", .epoch, .ofSeconds 300⟩
    DistinctIds s.flights ∧ Text.IsWord "SAC" ∧ Text.IsWord "456" ∧ Flight.resolve s.flights "456" = some f ∧
      ClearancesAgree s context f "SAC" fun i => i.interpret ("QU " ++ "SAC" ++ " " ++ "456") s.flights context := by
  intro f s context
  have hdistinct : DistinctIds s.flights := by decide
  have hfix : Text.IsWord "SAC" := by decide +kernel
  have hfid : Text.IsWord "456" := by decide +kernel
  have hres : Flight.resolve s.flights "456" = some f := rfl
  exact ⟨hdistinct, hfix, hfid, hres, clear_agrees hdistinct rfl hfix hfid hres context⟩

end Clearance
