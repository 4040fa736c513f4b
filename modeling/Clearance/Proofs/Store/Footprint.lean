import Clearance.Proofs.Store.Effect
/-!
# Footprint — what a typed message may change

A message changes at most the flight that it addresses, and of that flight only what its form is about; `UU C` takes
flights off the ACL and does nothing else.  `run_footprint` says so of every message of every run.
-/
namespace Clearance

/-- What no message changes of a flight. -/
def Flight.kept (f : Flight) : Flight :=
  { f with
    amendedRoute := none, amendedFixes := none, previousRoute := none, previousFixes := none, vci := false
    aclDisplay := false, aclHighlighted := false, depHighlighted := false, pendingRemoval := none }

/-- The aircraft identification that an intent names, if it names one. -/
def Intent.aircraftId? : Intent → Option String
  | .mutate id _ | .delete id _ | .printStrip id => some id
  | .submit a => some a.aircraftId
  | .stage t => some t.aircraftId
  | _ => none

/-- The changes that a form may make to a flight. -/
inductive Form.MayChange (f : Flight) : Form → Flight → Prop where
  | vci (fid : Option String) (on : Bool) : MayChange f (.toggleVci fid) { f with vci := on }
  | show (fid : String) (on : Bool) (since : Option Time.Instant) :
      MayChange f (.addFlight fid) { f with aclDisplay := on, pendingRemoval := since }
  | highlight (fid : String) (acl dep : Bool) :
      MayChange f (.highlight fid) { f with aclHighlighted := acl, depHighlighted := dep }
  | reroute (fix fid : String) (route before : Option String) (fixes fixesBefore : Option (List Fix)) :
      MayChange f (.clearDirect fix fid)
        { f with
          amendedRoute := route, amendedFixes := fixes, previousRoute := before, previousFixes := fixesBefore }

/-- How the store after a message comes from the store before it. -/
structure Footprint (context : Context) (form : Form) (r : Response) (s t : Store) : Prop where
  kept : t.flights.map Flight.kept = s.flights.map Flight.kept
  distinct : DistinctIds t.flights
  named : ∀ i ∈ r.intents, ∀ id, i.aircraftId? = some id → ∃ f ∈ s.flights, f.aircraftId = id
  rejected : r.status = .reject → t = s
  one : form ≠ .cleanUpAcl → t.flights = s.flights ∨
    ∃ fid k f g, form.fid? = some fid ∧ Flight.resolve s.flights fid = some f ∧ s.flights[k]? = some f ∧
      form.MayChange f g ∧ t.flights = s.flights.set k g
  cleanUp : form = .cleanUpAcl →
    t.flights = s.flights.map fun f => if f.isExpired context then { f with aclDisplay := false } else f

/-- A typed message, with what it is interpreted with. -/
structure Message where
  interpreter : Interpreter
  context : Context
  text : String

namespace Message

def form (m : Message) : Form := (Command.parse m.text).form

def response (m : Message) (s : Store) : Response := m.interpreter.interpret m.text s.flights m.context

def step (s : Store) (m : Message) : Store := s.applyAll (m.response s).intents

/-- The store after messages, each of them interpreted with the store that the ones before it left. -/
def run (s : Store) (messages : List Message) : Store := messages.foldl step s

end Message

/-! ## The changes of a form -/

namespace Flight

/-- **Changes that keep the three identifications keep what an identifier addresses.** -/
theorem resolve_map {change : Flight → Flight} (hkept : ∀ f, (change f).kept = f.kept) (flights : List Flight)
    (fid : String) : resolve (flights.map change) fid = (resolve flights fid).map change := by
  have hcid : (fun f : Flight => f.cid == fid) ∘ change = fun f => f.cid == fid :=
    funext fun f => congrArg (fun g => g.cid == fid) (hkept f)
  have hid : (fun f : Flight => f.aircraftId == fid) ∘ change = fun f => f.aircraftId == fid :=
    funext fun f => congrArg (fun g => g.aircraftId == fid) (hkept f)
  have hbeacon : (fun f : Flight => f.beaconCode.any fun c => beaconText c == fid) ∘ change =
      fun f => f.beaconCode.any fun c => beaconText c == fid :=
    funext fun f => congrArg (fun g => g.beaconCode.any fun c => beaconText c == fid) (hkept f)
  simp only [resolve, List.find?_map, hcid, hid, hbeacon]
  cases flights.find? (·.cid == fid) with
  | some f => rfl
  | none =>
    cases flights.find? (·.aircraftId == fid) with
    | some f => rfl
    | none => rfl

end Flight

namespace Form

variable {resolver : Option FrdResolver} {context : Context} {flights : List Flight} {form : Form} {f g : Flight}

theorem MayChange.kept (h : form.MayChange f g) : g.kept = f.kept := by
  cases h <;> rfl

/-- **A form changes its flight only as it may.** -/
theorem mayChange_change (h : form.target resolver context flights = some f) : form.MayChange f (form.change f) := by
  cases form with
  | toggleVci fid => exact .vci fid _
  | addFlight fid => exact .show fid _ _
  | highlight fid => exact .highlight fid _ _
  | clearDirect fix fid =>
    rw [change, Flight.clearedTo]
    cases Direct.ofFlight? f fix with
    | none => exact .reroute fix fid f.amendedRoute f.previousRoute f.amendedFixes f.previousFixes
    | some d => exact .reroute fix fid _ _ _ _
  | _ => cases h

theorem kept_change (form : Form) (f : Flight) : (form.change f).kept = f.kept := by
  cases form with
  | clearDirect fix fid =>
    rw [change, Flight.clearedTo]
    cases Direct.ofFlight? f fix <;> rfl
  | _ => rfl

theorem kept_effect (form : Form) (f : Flight) : (form.effect resolver context flights f).kept = f.kept := by
  rw [effect]
  split
  · split <;> rfl
  · split
    · exact form.kept_change f
    · rfl

theorem effect_aircraftId (form : Form) (f : Flight) :
    (form.effect resolver context flights f).aircraftId = f.aircraftId := by
  have hid : ∀ g : Flight, g.kept.aircraftId = g.aircraftId := fun _ => rfl
  rw [← hid, kept_effect, hid]

theorem named_mutation (p : Patch) : ∀ i ∈ f.mutation p, ∀ id, i.aircraftId? = some id → f.aircraftId = id := by
  intro i hi id hid
  unfold Flight.mutation at hi
  split at hi
  · cases hi
  · obtain rfl := List.mem_singleton.1 hi
    exact Option.some.inj hid

theorem named_elim {o : Option Flight} {is : Flight → List Intent} (ho : ∀ f ∈ o, f ∈ flights)
    (his : ∀ f, ∀ i ∈ is f, ∀ id, i.aircraftId? = some id → f.aircraftId = id) :
    ∀ i ∈ o.elim [] is, ∀ id, i.aircraftId? = some id → ∃ f ∈ flights, f.aircraftId = id := by
  intro i hi id hid
  cases o with
  | none => cases hi
  | some f => exact ⟨f, ho f rfl, his f i hi id hid⟩

/-- **Every identification that an answer names is that of a flight.** -/
theorem named_answer (raw : String) (form : Form) :
    ∀ i ∈ (form.answer resolver raw flights context).intents, ∀ id, i.aircraftId? = some id →
      ∃ f ∈ flights, f.aircraftId = id := by
  cases form with
  | toggleVci fid =>
    refine named_elim (fun f hf => ?_) fun f => named_mutation { vci := some !f.vci }
    obtain ⟨fid, -, hfid⟩ := Option.bind_eq_some_iff.1 hf
    exact Flight.mem_of_resolve hfid
  | highlight fid => exact named_elim (fun f => Flight.mem_of_resolve) fun f => named_mutation _
  | readout fid =>
    refine named_elim (fun f => Flight.mem_of_resolve) fun f i hi id hid => ?_
    obtain rfl := List.mem_singleton.1 hi
    cases hid
  | strip fid =>
    refine named_elim (fun f => Flight.mem_of_resolve) fun f i hi id hid => ?_
    obtain rfl := List.mem_singleton.1 hi
    exact Option.some.inj hid
  | cleanUpAcl =>
    intro i hi id hid
    obtain ⟨f, hf, rfl⟩ := List.mem_map.1 hi
    exact ⟨f, (List.mem_filter.1 hf).1, Option.some.inj hid⟩
  | clearDirect fix fid =>
    intro i hi id hid
    simp only [answer] at hi
    rcases clearance_cases resolver flights context fix fid with ⟨-, hr⟩ | ⟨-, f, d, hf, -, -, hr⟩
    · rw [hr] at hi
      cases hi
    · rw [hr] at hi
      obtain rfl := List.mem_singleton.1 hi
      exact ⟨f, Flight.mem_of_resolve hf, Option.some.inj hid⟩
  | openAcl | openDep | closeWindows | addFlight _ =>
    intro i hi id hid
    obtain rfl := List.mem_singleton.1 hi
    cases hid
  | togglePosting | altimeter _ | weather _ =>
    intro i hi id hid
    rcases List.mem_cons.1 hi with rfl | hi
    · cases hid
    · obtain rfl := List.mem_singleton.1 hi
      cases hid
  | noClearance | noReadout | malformed | unknown =>
    intro i hi
    cases hi

end Form

/-! ## Runs -/

namespace Message

variable {s : Store}

theorem response_eq (m : Message) (s : Store) : m.response s =
    m.form.answer m.interpreter.resolver (Command.parse m.text).raw s.flights m.context :=
  m.interpreter.dispatch_eq_answer s.flights m.context (Command.parse m.text)

theorem step_eq (s : Store) (m : Message) : step s m = s.applyAll
    (m.form.answer m.interpreter.resolver (Command.parse m.text).raw s.flights m.context).intents := by
  rw [step, response_eq]

theorem flights_step (h : DistinctIds s.flights) (m : Message) :
    (step s m).flights = s.flights.map (m.form.effect m.interpreter.resolver m.context s.flights) := by
  rw [step_eq]
  exact Store.flights_answer _ _ _ h _

theorem flight?_step (h : DistinctIds s.flights) (m : Message) (id : String) :
    (step s m).flight? id = (s.flight? id).map (m.form.effect m.interpreter.resolver m.context s.flights) :=
  Store.flight?_of_map m.form.effect_aircraftId (flights_step h m)

/-- **One message keeps to its footprint.** -/
theorem step_footprint (h : DistinctIds s.flights) (m : Message) :
    Footprint m.context m.form (m.response s) s (step s m) := by
  have hanswer := m.response_eq s
  have hflights := flights_step h m
  have hkept : (step s m).flights.map Flight.kept = s.flights.map Flight.kept := by
    rw [hflights, List.map_map]
    exact List.map_congr_left fun f _ => m.form.kept_effect f
  exact {
    kept := hkept
    distinct := by
      refine h.of_map_eq ?_
      have hids := congrArg (List.map (·.aircraftId)) hkept
      rw [List.map_map, List.map_map] at hids
      exact hids
    named := by rw [hanswer]; exact Form.named_answer _ _
    rejected := fun hr => by
      rw [step, hanswer]
      rcases Form.answer_cases m.interpreter.resolver s.flights m.context (Command.parse m.text) with ⟨ha, -⟩ | ha
      · rw [hanswer, form, ha] at hr; cases hr
      · rw [form, ha]; rfl
    one := fun hform => by
      rw [step, hanswer]
      rcases Store.updates_answer m.interpreter.resolver (Command.parse m.text).raw m.context m.form hform with
        ⟨-, hf⟩ | ⟨f, update, htarget, hupdate, hf⟩
      · exact .inl hf
      · obtain ⟨fid, hfid, hres⟩ := Form.target_resolves htarget
        obtain ⟨k, hk⟩ := List.mem_iff_getElem?.1 (Form.target_mem htarget)
        refine .inr ⟨fid, k, f, m.form.change f, hfid, hres, hk, Form.mayChange_change htarget, ?_⟩
        rw [hf, Store.updateFirst_eq_set h hk, hupdate]
    cleanUp := fun hform => by
      rw [hflights, hform]
      exact List.map_congr_left fun f _ => if_pos rfl }

theorem distinct_step (s : Store) (m : Message) (h : DistinctIds s.flights) : DistinctIds (step s m).flights :=
  (step_footprint h m).distinct

theorem distinct_run (h : DistinctIds s.flights) (messages : List Message) : DistinctIds (run s messages).flights :=
  List.foldlRecOn (motive := fun t => DistinctIds t.flights) messages step h fun t ht m _ => distinct_step t m ht

/-- **Every message of a run keeps to its footprint**, in a store whose flights have distinct identifications. -/
theorem run_footprint : ∀ (before : List Message) {s : Store}, DistinctIds s.flights → ∀ m,
    Footprint m.context m.form (m.response (run s before)) (run s before) (run s (before ++ [m]))
  | [], _, h, m => step_footprint h m
  | m' :: before, _, h, m => run_footprint before (step_footprint h m').distinct m

theorem run_footprint_of_two_flights :
    DistinctIds (Store.ofFlights [{ aircraftId := "N1" }, { aircraftId := "N2" }]).flights ∧
    Footprint ⟨false, "ZOA", .epoch, .ofSeconds 300⟩ (.addFlight "N2") (.done [.addFlight "N2"])
      (run (.ofFlights [{ aircraftId := "N1" }, { aircraftId := "N2" }])
        [⟨⟨none⟩, ⟨false, "ZOA", .epoch, .ofSeconds 300⟩, "//N1"⟩])
      (run (.ofFlights [{ aircraftId := "N1" }, { aircraftId := "N2" }])
        [⟨⟨none⟩, ⟨false, "ZOA", .epoch, .ofSeconds 300⟩, "//N1"⟩,
         ⟨⟨none⟩, ⟨false, "ZOA", .epoch, .ofSeconds 300⟩, "UU N2"⟩]) :=
  ⟨by decide, run_footprint [⟨⟨none⟩, ⟨false, "ZOA", .epoch, .ofSeconds 300⟩, "//N1"⟩] (by decide)
    ⟨⟨none⟩, ⟨false, "ZOA", .epoch, .ofSeconds 300⟩, "UU N2"⟩⟩

end Message
end Clearance
