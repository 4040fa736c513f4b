import Clearance.CommandLine.Run
import Clearance.Proofs.Flight.Reroute
import Clearance.Proofs.Json.Scalars
import Clearance.Proofs.Preferential.Ranking
/-!
# Preview — what is listed is what is filed

`pending` lists where each preferential route of a flight would lead, and `reroute` puts the flight on one of them.
`reroute_as_listed` says that the two agree, for both rules and all numbers: the route that the line with a number shows
is the one in the intent that is printed for this number.  An intent says in its printed form which route it has
(`Intent.route_of_toPretty`), whatever stands behind that.
-/
namespace Clearance

/-! ## Printed intents -/

namespace Json

variable {depth : Nat} {k : String} {i j : Json} {fs gs : List (String × Json)} {r t : List Char}

theorem prettyAt_object_inj
    (h : prettyAt depth (.object ((k, i) :: fs)) ++ r = prettyAt depth (.object ((k, j) :: gs)) ++ t) :
    prettyAt (depth + 1) i ++ (prettyFields depth fs ++ r) = prettyAt (depth + 1) j ++ (prettyFields depth gs ++ t) := by
  simp only [prettyAt, List.append_assoc, List.cons_append] at h
  have hvalue := List.append_cancel_left (List.append_cancel_left (List.cons.inj h).2)
  exact (List.cons.inj (List.cons.inj hvalue).2).2

theorem prettyFields_inj
    (h : prettyFields depth ((k, i) :: fs) ++ r = prettyFields depth ((k, j) :: gs) ++ t) :
    prettyAt (depth + 1) i ++ (prettyFields depth fs ++ r) = prettyAt (depth + 1) j ++ (prettyFields depth gs ++ t) := by
  simp only [prettyFields, List.append_assoc, List.cons_append] at h
  have hvalue := List.append_cancel_left (List.append_cancel_left (List.cons.inj h).2)
  exact (List.cons.inj (List.cons.inj hvalue).2).2

end Json

theorem Patch.exists_encode {p : Patch} {route : String} (h : p.amendedRoute = some route) :
    ∃ rest, Patch.codec.encode p = .object (("currentRoute", .string route) :: rest) := by
  cases p
  cases h
  exact ⟨_, rfl⟩

namespace Intent

open Json

theorem toList_toPretty (i : Intent) : (codec.toPretty i).toList = prettyAt 0 i.encode := String.toList_ofList

/-- **A printed mutation says which route it has.** -/
theorem route_of_toPretty {id id' route route' : String} {p p' : Patch} (hp : p.amendedRoute = some route)
    (hp' : p'.amendedRoute = some route')
    (h : codec.toPretty (.mutate id p) = codec.toPretty (.mutate id' p')) : route = route' := by
  obtain ⟨rest, hrest⟩ := Patch.exists_encode hp
  obtain ⟨rest', hrest'⟩ := Patch.exists_encode hp'
  have hencode : ∀ (id route : String) (p : Patch) (rest : List (String × Json)),
      Patch.codec.encode p = .object (("currentRoute", .string route) :: rest) →
      Intent.encode (.mutate id p) = .object (("type", .string "MutateEntry") ::
        [("data", .object (("aircraft_id", .string id) ::
          [("patch", .object (("currentRoute", .string route) :: rest))]))]) := by
    intro id route p rest hrest
    rw [← hrest]
    rfl
  have htexts := congrArg String.toList h
  rw [toList_toPretty, toList_toPretty, hencode id route p rest hrest, hencode id' route' p' rest' hrest'] at htexts
  -- field by field: a text that is printed ends at its closing mark, so what follows it is the same as well
  have htag := prettyAt_object_inj (congrArg (· ++ []) htexts)
  have hdata := prettyFields_inj (Quoted.write_append_inj htag).2
  have hid := prettyAt_object_inj hdata
  have hpatch := prettyFields_inj (Quoted.write_append_inj hid).2
  exact (Quoted.write_append_inj (prettyAt_object_inj hpatch)).1

end Intent

namespace PreferentialRoute

/-- A composed route begins with dots. -/
theorem route_ne_of_compose {c : PreferentialRoute} {names : List String} {r : ComposedRoute} {text : String}
    (h : c.compose names = some r) (htext : text.toList.head? ≠ some '.') : r.route ≠ text := by
  obtain ⟨first, -, rfl⟩ := Option.map_eq_some_iff.1 h
  rintro rfl
  exact htext (by rw [String.toList_append]; rfl)

end PreferentialRoute

theorem Flight.eligible_of_pending? {f : Flight} {rule : PendingRule} {c : PreferentialRoute}
    (h : f.pending? rule = some c) : c ∈ rule.routes f ∧ c.eligible = true := by
  cases rule with
  | arrival =>
    obtain ⟨⟨before, after, hroutes, heligible, -⟩, -⟩ := pending?_arrival_iff.1 h
    rw [PendingRule.routes, hroutes]
    exact ⟨List.mem_append_right before List.mem_cons_self, heligible⟩
  | departure =>
    obtain ⟨⟨before, after, hroutes, heligible, -⟩, -⟩ := pending?_departure_iff.1 h
    rw [PendingRule.routes, hroutes]
    exact ⟨List.mem_append_right before List.mem_cons_self, heligible⟩

namespace CommandLine

/-- The line above the candidates of a rule. -/
def heading (f : Flight) (rule : PendingRule) (pending : String) : String :=
  printLine (rule.name ++ ": on amendment = " ++ printBool (f.isOnAmendment rule) ++ ", pending = " ++ pending)

/-- The amendment that is shown as pending; nothing if none is. -/
def pendingText (f : Flight) (rule : PendingRule) : String := (f.pending? rule).elim "" (·.effectiveAmendment)

/-- The line of a candidate with its number, and with a text behind the arrow. -/
def candidateLine (n : Nat) (c : PreferentialRoute) (shown : String) : String :=
  printLine ("  [" ++ printNat n ++ "] " ++ c.effectiveAmendment ++ " eligible=" ++ printBool c.eligible ++ " -> "
    ++ shown)

/-- The lines of the candidates of a rule. -/
def candidateLines (f : Flight) (rule : PendingRule) : List String :=
  (rule.routes f).mapIdx (printCandidate f.currentNames)

/-- The line with this number has the text behind its arrow. -/
def Shows (f : Flight) (rule : PendingRule) (n : Nat) (text : String) : Prop :=
  ∃ c, (rule.routes f)[n]? = some c ∧ (candidateLines f rule)[n]? = some (candidateLine n c text)

/-- What stands behind the arrow where there is no route. -/
def noSharedFix : String := "(no shared fix)"

def ruleOf (departure : Bool) : PendingRule := if departure then .departure else .arrival

/-- The program prints this intent and does nothing else. -/
def Exit.Prints (e : Exit) (i : Intent) : Prop := e = .success (printLine (Intent.codec.toPretty i)) []

/-- The program prints that the route cannot be composed, and does nothing else. -/
def Exit.Rejects (e : Exit) : Prop := e = .success (printLine "Rejected: ComposeFailure") []

variable {env : Environment} {s : Setup} {fid : String} {f : Flight} {rule : PendingRule} {n : Nat}
  {c : PreferentialRoute} {r : ComposedRoute} {text : String} {departure amend : Bool}

/-! ## The list -/

theorem printCandidate_eq (names : List String) (n : Nat) (c : PreferentialRoute) :
    printCandidate names n c = candidateLine n c ((c.compose names).elim noSharedFix (·.route)) := rfl

theorem printRule_eq (f : Flight) (rule : PendingRule) :
    printRule f rule = heading f rule (pendingText f rule) ++ String.join (candidateLines f rule) := rfl

/-- **What is shown as pending is the amendment of an eligible candidate**, if it is not empty. -/
theorem pendingText_cases (f : Flight) (rule : PendingRule) : pendingText f rule = "" ∨
    ∃ c ∈ rule.routes f, c.eligible = true ∧ pendingText f rule = c.effectiveAmendment := by
  unfold pendingText
  cases hpending : f.pending? rule with
  | none => exact .inl rfl
  | some c =>
    obtain ⟨hlisted, heligible⟩ := Flight.eligible_of_pending? hpending
    exact .inr ⟨c, hlisted, heligible, rfl⟩

theorem length_candidateLines (f : Flight) (rule : PendingRule) :
    (candidateLines f rule).length = (rule.routes f).length := List.length_mapIdx

theorem printLine_inj {t u : String} (h : printLine t = printLine u) : t = u := by
  have htexts := congrArg String.toList h
  rw [printLine, printLine, String.toList_append, String.toList_append] at htexts
  exact String.toList_inj.1 (List.append_cancel_right htexts)

theorem candidateLine_inj {t u : String} (h : candidateLine n c t = candidateLine n c u) : t = u := by
  have htexts := congrArg String.toList (printLine_inj h)
  simp only [String.toList_append] at htexts
  exact String.toList_inj.1 (List.append_cancel_left htexts)

/-- **The line of a candidate shows where it leads.** -/
theorem shows_iff (hc : (rule.routes f)[n]? = some c) :
    Shows f rule n text ↔ (c.compose f.currentNames).elim noSharedFix (·.route) = text := by
  have hline : (candidateLines f rule)[n]? =
      some (candidateLine n c ((c.compose f.currentNames).elim noSharedFix (·.route))) := by
    rw [candidateLines, List.getElem?_mapIdx, hc, Option.map_some, printCandidate_eq]
  unfold Shows
  rw [hline]
  constructor
  · rintro ⟨d, hd, hshown⟩
    obtain rfl : c = d := Option.some.inj (hc.symm.trans hd)
    exact candidateLine_inj (Option.some.inj hshown)
  · rintro rfl
    exact ⟨c, hc, rfl⟩

theorem runSubcommand_pending (hf : Flight.resolve s.flights (Text.capitals fid) = some f) :
    runSubcommand env s (.pending fid) = .success (printRule f .arrival ++ printRule f .departure) [] := by
  rw [runSubcommand, withFlight, hf]
  rfl

/-! ## The reroute -/

theorem runSubcommand_reroute (hf : Flight.resolve s.flights (Text.capitals fid) = some f) :
    runSubcommand env s (.reroute fid n departure amend) = match ((ruleOf departure).routes f)[n]? with
      | none => .failure (f.aircraftId ++ " has no route #" ++ printNat n)
      | some c => .success (printGesture (Gesture.applyPreferential f c .empty (routeAction amend))) [] := by
  rw [runSubcommand, withFlight, hf]
  rfl

theorem Exit.Prints.not_rejects {e : Exit} {i : Intent} (h : e.Prints i) : ¬e.Rejects := by
  intro hrejects
  have hhead : (Intent.codec.toPretty i).toList.head? = some '{' := by
    rw [Intent.toList_toPretty]
    cases i <;> rfl
  have htext : Intent.codec.toPretty i = "Rejected: ComposeFailure" :=
    printLine_inj (congrArg Exit.output (h.symm.trans hrejects))
  rw [htext] at hhead
  exact absurd hhead (by decide)

/-- **A reroute in three cases**: there is no line with the number, the line shows no route, or it shows the route that
the intent has. -/
theorem reroute_cases (env : Environment) (hf : Flight.resolve s.flights (Text.capitals fid) = some f)
    (departure : Bool) (n : Nat) :
    ((candidateLines f (ruleOf departure)).length ≤ n ∧ (∀ text, ¬Shows f (ruleOf departure) n text) ∧
      ∀ amend, ∃ message, runSubcommand env s (.reroute fid n departure amend) = .failure message) ∨
    (n < (candidateLines f (ruleOf departure)).length ∧
      (∀ text, Shows f (ruleOf departure) n text ↔ noSharedFix = text) ∧
      ∀ amend, (runSubcommand env s (.reroute fid n departure amend)).Rejects) ∨
    ∃ r : ComposedRoute, n < (candidateLines f (ruleOf departure)).length ∧
      (∀ text, Shows f (ruleOf departure) n text ↔ r.route = text) ∧ r.route ≠ noSharedFix ∧
      ∀ amend, (runSubcommand env s (.reroute fid n departure amend)).Prints
        (Gesture.intent f r.route (r.patch f .empty) (routeAction amend)) := by
  have hrun : ∀ amend, runSubcommand env s (.reroute fid n departure amend) = _ := fun _ => runSubcommand_reroute hf
  rw [length_candidateLines]
  cases hc : ((ruleOf departure).routes f)[n]? with
  | none =>
    rw [hc] at hrun
    refine .inl ⟨List.getElem?_eq_none_iff.1 hc, fun text hshows => ?_, fun amend => ⟨_, hrun amend⟩⟩
    obtain ⟨c, hc', -⟩ := hshows
    cases hc.symm.trans hc'
  | some c =>
    obtain ⟨hlength, -⟩ := List.getElem?_eq_some_iff.1 hc
    have hshows : ∀ text, Shows f (ruleOf departure) n text ↔
        (c.compose f.currentNames).elim noSharedFix (·.route) = text := fun text => shows_iff hc
    rw [hc] at hrun
    simp only [Gesture.applyPreferential] at hrun
    cases hr : c.compose f.currentNames with
    | none =>
      rw [hr] at hshows hrun
      exact .inr (.inl ⟨hlength, hshows, hrun⟩)
    | some r =>
      rw [hr] at hshows hrun
      exact .inr (.inr ⟨r, hlength, hshows, PreferentialRoute.route_ne_of_compose hr (by decide), hrun⟩)

theorem failure_ne_success {message output : String} : Exit.failure message ≠ .success output [] :=
  fun h => Nat.one_ne_zero (congrArg Exit.code h)

/-- **A rejection is what the list shows as a route without a shared fix.** -/
theorem shows_noSharedFix_iff (hf : Flight.resolve s.flights (Text.capitals fid) = some f) :
    Shows f (ruleOf departure) n noSharedFix ↔
      ∀ amend, (runSubcommand env s (.reroute fid n departure amend)).Rejects := by
  rcases reroute_cases env hf departure n with ⟨-, hshows, hfails⟩ | ⟨-, hshows, hrejects⟩ |
    ⟨r, -, hshows, hroute, hprints⟩
  · refine iff_of_false (hshows _) fun h => ?_
    obtain ⟨message, hfails⟩ := hfails true
    exact failure_ne_success (hfails.symm.trans (h true))
  · exact iff_of_true ((hshows _).2 rfl) hrejects
  · exact iff_of_false (fun h => hroute ((hshows _).1 h)) fun h => (hprints true).not_rejects (h true)

/-- **The intent that is printed has the route that the list shows.** -/
theorem shows_route_iff (hf : Flight.resolve s.flights (Text.capitals fid) = some f) {route : String} :
    Shows f (ruleOf departure) n route ∧ route ≠ noSharedFix ↔ ∃ id cid patch message,
      (runSubcommand env s (.reroute fid n departure true)).Prints (.mutate id patch) ∧
      patch.amendedRoute = some route ∧
      (runSubcommand env s (.reroute fid n departure false)).Prints (.stage ⟨id, cid, patch, message⟩) ∧
      (route ++ f.destination).toList <:+ message.toList := by
  rcases reroute_cases env hf departure n with ⟨-, hshows, hfails⟩ | ⟨-, hshows, hrejects⟩ |
    ⟨r, -, hshows, hroute, hprints⟩
  · refine iff_of_false (fun h => hshows _ h.1) ?_
    rintro ⟨id, cid, patch, message, hmutates, -⟩
    obtain ⟨error, hfails⟩ := hfails true
    exact failure_ne_success (hfails.symm.trans hmutates)
  · refine iff_of_false (fun h => h.2 ((hshows _).1 h.1).symm) ?_
    rintro ⟨id, cid, patch, message, hmutates, -⟩
    exact hmutates.not_rejects (hrejects true)
  · rw [hshows]
    constructor
    · rintro ⟨rfl, -⟩
      refine ⟨f.aircraftId, f.cid, r.patch f .empty, f.trialPlanMessage r.route, hprints true, rfl, hprints false,
        ("AM " ++ f.cid ++ " RTE ").toList, ?_⟩
      simp only [Flight.trialPlanMessage, String.toList_append, List.append_assoc]
    · rintro ⟨id, cid, patch, message, hmutates, hpatch, -, -⟩
      have htext : Intent.codec.toPretty (.mutate f.aircraftId (r.patch f .empty)) =
          Intent.codec.toPretty (.mutate id patch) :=
        printLine_inj (congrArg Exit.output ((hprints true).symm.trans hmutates))
      obtain rfl : r.route = route := Intent.route_of_toPretty rfl hpatch htext
      exact ⟨rfl, hroute⟩

theorem exists_failure_iff (hf : Flight.resolve s.flights (Text.capitals fid) = some f) :
    (∃ message, runSubcommand env s (.reroute fid n departure amend) = .failure message) ↔
      (candidateLines f (ruleOf departure)).length ≤ n := by
  rcases reroute_cases env hf departure n with ⟨hlength, -, hfails⟩ | ⟨hlength, -, hrejects⟩ |
    ⟨r, hlength, -, -, hprints⟩
  · exact iff_of_true (hfails amend) hlength
  · exact iff_of_false (fun ⟨_, hfails⟩ => failure_ne_success (hfails.symm.trans (hrejects amend))) (Nat.not_le.2 hlength)
  · exact iff_of_false (fun ⟨_, hfails⟩ => failure_ne_success (hfails.symm.trans (hprints amend))) (Nat.not_le.2 hlength)

/-- **What `pending` lists is what `reroute` does**, with the same rule and number.  A line shows a route exactly when the
mutation and the trial plan that are printed have it, it shows that there is none exactly when both are rejected, and a
number without a line is an error.  What is flagged as pending is the amendment of an eligible candidate of the list, or
nothing. -/
theorem reroute_as_listed (env : Environment) (s : Setup) {fid : String} {f : Flight}
    (hf : Flight.resolve s.flights (Text.capitals fid) = some f) :
    (runSubcommand env s (.pending fid) = .success
        (heading f .arrival (pendingText f .arrival) ++ String.join (candidateLines f .arrival) ++
          (heading f .departure (pendingText f .departure) ++ String.join (candidateLines f .departure))) [] ∧
      ∀ rule, pendingText f rule = "" ∨
        ∃ c ∈ rule.routes f, c.eligible = true ∧ pendingText f rule = c.effectiveAmendment) ∧
    ∀ (departure : Bool) (n : Nat),
      (∀ route, Shows f (ruleOf departure) n route ∧ route ≠ noSharedFix ↔ ∃ id cid patch message,
        (runSubcommand env s (.reroute fid n departure true)).Prints (.mutate id patch) ∧
        patch.amendedRoute = some route ∧
        (runSubcommand env s (.reroute fid n departure false)).Prints (.stage ⟨id, cid, patch, message⟩) ∧
        (route ++ f.destination).toList <:+ message.toList) ∧
      (Shows f (ruleOf departure) n noSharedFix ↔
        ∀ amend, (runSubcommand env s (.reroute fid n departure amend)).Rejects) ∧
      ∀ amend, (∃ message, runSubcommand env s (.reroute fid n departure amend) = .failure message) ↔
        (candidateLines f (ruleOf departure)).length ≤ n := by
  refine ⟨⟨?_, pendingText_cases f⟩, fun departure n =>
    ⟨fun route => shows_route_iff hf, shows_noSharedFix_iff hf, fun amend => exists_failure_iff hf⟩⟩
  rw [runSubcommand_pending hf, printRule_eq, printRule_eq]

theorem reroute_as_listed_of_two_candidates :
    let c : PreferentialRoute :=
      { amendment := "LIN.MOD.SYRAH1", route := "OAK.J5.SAC.LIN.J7.RNO", transitionFix := "LIN", eligible := true,
        fixNames := ["MOD"] }
    let d : PreferentialRoute := { amendment := ".Q9", route := "AAA.BBB" }
    let f : Flight :=
      { aircraftId := "UAL12", cid := "321", destination := "KRNO", filedRoute := "SAC.LIN.J7",
        filedFixes := Route.parse "SAC.LIN.J7" .empty, arrivalRoutes := [c, d] }
    let env : Environment := ⟨fun _ => .missing, "edst.json", {}, .epoch, "", fun _ => none⟩
    let s : Setup := ⟨⟨"ZOA", false, none, 120⟩, [f]⟩
    Flight.resolve s.flights (Text.capitals "ual12") = some f ∧
      Shows f .arrival 0 "..SAC.LIN.MOD.SYRAH1" ∧
      (∃ id cid patch message,
        (runSubcommand env s (.reroute "ual12" 0 false true)).Prints (.mutate id patch) ∧
        patch.amendedRoute = some "..SAC.LIN.MOD.SYRAH1" ∧
        (runSubcommand env s (.reroute "ual12" 0 false false)).Prints (.stage ⟨id, cid, patch, message⟩) ∧
        ("..SAC.LIN.MOD.SYRAH1" ++ f.destination).toList <:+ message.toList) ∧
      (∀ amend, (runSubcommand env s (.reroute "ual12" 1 false amend)).Rejects) ∧
      ∀ amend, ∃ message, runSubcommand env s (.reroute "ual12" 2 false amend) = .failure message := by
  intro c d f env s
  have hcapitals : Text.capitals "ual12" = "UAL12" := by decide +kernel
  have hf : Flight.resolve s.flights (Text.capitals "ual12") = some f := by
    rw [hcapitals]
    rfl
  have hc : c.compose f.currentNames = some ⟨"LIN.MOD.SYRAH1", "..SAC.LIN.MOD.SYRAH1", ["SAC", "LIN", "MOD"]⟩ := by
    rw [PreferentialRoute.compose, PreferentialRoute.occurring, List.mergeSort_of_pairwise] <;> decide +kernel
  have hd : d.compose f.currentNames = none := by
    rw [PreferentialRoute.compose, PreferentialRoute.occurring, List.mergeSort_of_pairwise] <;> decide +kernel
  have hroute : Shows f .arrival 0 "..SAC.LIN.MOD.SYRAH1" := (shows_iff (c := c) rfl).2 (by rw [hc]; rfl)
  have hnone : Shows f .arrival 1 noSharedFix := (shows_iff (c := d) rfl).2 (by rw [hd]; rfl)
  obtain ⟨-, hagree⟩ := reroute_as_listed env s hf
  exact ⟨hf, hroute, ((hagree false 0).1 _).1 ⟨hroute, by decide⟩, (hagree false 1).2.1.1 hnone,
    fun amend => ((hagree false 2).2.2 amend).2 (by rw [length_candidateLines]; decide)⟩

end CommandLine
end Clearance
