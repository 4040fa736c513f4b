import Clearance.Proofs.Store.Footprint
import Clearance.Proofs.Store.History
/-!
# Listing — when a flight comes on the ACL, and when it goes

Messages are typed and flights marked for removal in any order, by clocks that need not run forward.  `run_listed` says
what each of these events does to a flight: only an add puts it on the ACL, and only a clean-up takes it off, exactly
when the latest event among its marks and adds is a mark made longer ago than the timeout.
-/
namespace Clearance

open History
open Time (Instant)

/-- A typed message, or a mark by the host: a flight waits for removal since a time, or no longer. -/
inductive Event where
  | typed (m : Message)
  | mark (aircraftId : String) (since : Option Instant)

namespace Message

/-- The message is `UU` with one argument, no letter of its own, that addresses the flight. -/
def Adds (m : Message) (s : Store) (id : String) : Prop :=
  ∃ fid f, (Command.parse m.text).verb = "UU" ∧ (Command.parse m.text).args = [fid] ∧ fid ∉ ["C", "D", "P", "X"] ∧
    Flight.resolve s.flights fid = some f ∧ f.aircraftId = id

def CleansUp (m : Message) : Prop := (Command.parse m.text).verb = "UU" ∧ (Command.parse m.text).args = ["C"]

end Message

namespace Event

def step (s : Store) : Event → Store
  | typed m => Message.step s m
  | mark id since => s.update id fun f => { f with pendingRemoval := since }

def run (s : Store) (events : List Event) : Store := events.foldl step s

/-- The event marks the flight or adds it to the ACL. -/
def Touches (id : String) (s : Store) : Event → Prop
  | typed m => m.Adds s id
  | mark id' _ => id' = id

/-- The latest event among marks and adds of the flight is a mark with this time; or there was none, and the flight was
marked so at the start. -/
def MarkedSince (s : Store) (id : String) (events : List Event) (since : Instant) : Prop :=
  (∃ t, Last step (Touches id) s events t (.mark id (some since))) ∨
    Never step (Touches id) s events ∧ ∃ f, s.flight? id = some f ∧ f.pendingRemoval = some since

end Event

/-- What an event `e`, after others, does to the flight `f` with an identification; `g` is that flight afterwards. -/
structure Listed (s : Store) (id : String) (before : List Event) (e : Event) (f g : Flight) : Prop where
  shown : f.aclDisplay = false → g.aclDisplay = true → ∃ m, e = .typed m ∧ m.Adds (Event.run s before) id
  added : ∀ m, e = .typed m → m.Adds (Event.run s before) id → g.aclDisplay = true ∧ g.pendingRemoval = none
  removed : (f.aclDisplay = true ∧ g.aclDisplay = false) ↔ f.aclDisplay = true ∧ ∃ m since, e = .typed m ∧
    m.CleansUp ∧ Event.MarkedSince s id before since ∧
    m.context.removalTimeout.nanos < (m.context.now.since since).nanos
  departures : g.depDisplay = f.depDisplay
  /-- After an add the flight stays until it is marked. -/
  stays : ∀ earlier m later, before = earlier ++ .typed m :: later → m.Adds (Event.run s earlier) id →
    (∀ since, .mark id since ∉ later) → f.aclDisplay = true ∧ g.aclDisplay = true

/-! ## One event -/

namespace Message

variable {m : Message} {s : Store} {id : String}

theorem adds_iff : m.Adds s id ↔ ∃ fid f, m.form = .addFlight fid ∧ Flight.resolve s.flights fid = some f ∧
    f.aircraftId = id := by
  simp only [Adds, form, Command.form_eq_addFlight_iff, and_assoc]

theorem cleansUp_iff : m.CleansUp ↔ m.form = .cleanUpAcl := Command.form_eq_cleanUpAcl_iff.symm

theorem CleansUp.not_adds (h : m.CleansUp) : ¬m.Adds s id := by
  rw [adds_iff, cleansUp_iff.1 h]
  rintro ⟨fid, f, hform, -⟩
  cases hform

end Message

theorem Form.change_listing {form : Form} (hform : ∀ fid, form ≠ .addFlight fid) (f : Flight) :
    (form.change f).aclDisplay = f.aclDisplay ∧ (form.change f).pendingRemoval = f.pendingRemoval ∧
      (form.change f).depDisplay = f.depDisplay := by
  cases form with
  | addFlight fid => exact absurd rfl (hform fid)
  | clearDirect fix fid =>
    rw [change, Flight.clearedTo]
    cases Direct.ofFlight? f fix <;> exact ⟨rfl, rfl, rfl⟩
  | _ => exact ⟨rfl, rfl, rfl⟩

namespace Event

/-- What an event does to a flight among others. -/
def effect (s : Store) : Event → Flight → Flight
  | typed m, f => m.form.effect m.interpreter.resolver m.context s.flights f
  | mark id since, f => if f.aircraftId = id then { f with pendingRemoval := since } else f

variable {s : Store} {e : Event} {f : Flight} {id : String}

theorem effect_aircraftId (e : Event) (f : Flight) : (e.effect s f).aircraftId = f.aircraftId := by
  cases e with
  | typed m => exact m.form.effect_aircraftId f
  | mark id since =>
    rw [effect]
    split <;> rfl

theorem flights_step (h : DistinctIds s.flights) (e : Event) : (step s e).flights = s.flights.map (e.effect s) := by
  cases e with
  | typed m => exact Message.flights_step h m
  | mark id since => exact Store.updateFirst_eq_map h

theorem distinct_step (s : Store) (e : Event) (h : DistinctIds s.flights) : DistinctIds (step s e).flights := by
  refine h.of_map_eq ?_
  rw [flights_step h, List.map_map]
  exact List.map_congr_left fun f _ => effect_aircraftId e f

theorem flight?_step (h : DistinctIds s.flights) (e : Event) (id : String) :
    (step s e).flight? id = (s.flight? id).map (e.effect s) :=
  Store.flight?_of_map (effect_aircraftId e) (flights_step h e)

/-- **A typed message in three cases**: a clean-up, which takes an expired flight off the ACL, an add, or neither, and
then it leaves display and mark alone. -/
theorem effect_typed_cases (s : Store) (m : Message) (f : Flight) :
    (m.CleansUp ∧ (typed m).effect s f = if f.isExpired m.context then { f with aclDisplay := false } else f) ∨
    (m.Adds s f.aircraftId ∧ (typed m).effect s f = Store.showOnAcl f) ∨
    (¬m.CleansUp ∧ ¬m.Adds s f.aircraftId ∧ ((typed m).effect s f).aclDisplay = f.aclDisplay ∧
      ((typed m).effect s f).pendingRemoval = f.pendingRemoval ∧ ((typed m).effect s f).depDisplay = f.depDisplay) := by
  have heffect : (typed m).effect s f = m.form.effect m.interpreter.resolver m.context s.flights f := rfl
  rw [heffect, Message.cleansUp_iff, Message.adds_iff, Form.effect]
  by_cases hclean : m.form = .cleanUpAcl
  · exact .inl ⟨hclean, if_pos hclean⟩
  rw [if_neg hclean]
  by_cases hadd : ∃ fid, m.form = .addFlight fid
  · obtain ⟨fid, hform⟩ := hadd
    by_cases hres : ∃ g, Flight.resolve s.flights fid = some g ∧ g.aircraftId = f.aircraftId
    · obtain ⟨g, hg, hid⟩ := hres
      refine .inr (.inl ⟨⟨fid, g, hform, hg, hid⟩, ?_⟩)
      rw [hform, Form.target, hg, Option.any_some, hid, beq_self_eq_true, if_pos rfl]
      rfl
    · have hother : (Flight.resolve s.flights fid).any (·.aircraftId == f.aircraftId) = false := by
        rw [Option.any_eq_false]
        exact fun g hg => beq_eq_false_iff_ne.2 fun hid => hres ⟨g, hg, hid⟩
      refine .inr (.inr ⟨hclean, ?_, ?_⟩)
      · rintro ⟨fid', g, hform', hg, hid⟩
        rw [hform, Form.addFlight.injEq] at hform'
        exact hres ⟨g, hform' ▸ hg, hid⟩
      · rw [hform, Form.target, hother]
        exact ⟨rfl, rfl, rfl⟩
  · have hother : ∀ fid, m.form ≠ .addFlight fid := fun fid hform => hadd ⟨fid, hform⟩
    refine .inr (.inr ⟨hclean, ?_, ?_⟩)
    · rintro ⟨fid, -, hform, -⟩
      exact hother fid hform
    · split
      · exact Form.change_listing hother f
      · exact ⟨rfl, rfl, rfl⟩

/-- A flight that is on the ACL and does not wait for removal. -/
def Settled (f : Flight) : Prop := f.aclDisplay = true ∧ f.pendingRemoval = none

theorem settled_effect (hf : Settled f) (he : ∀ since, e ≠ .mark f.aircraftId since) : Settled (e.effect s f) := by
  obtain ⟨hshown, hwaits⟩ := hf
  cases e with
  | typed m =>
    rcases effect_typed_cases s m f with ⟨-, heffect⟩ | ⟨-, heffect⟩ | ⟨-, -, hacl, hpending, -⟩
    · have hstays : f.isExpired m.context = false := by simp [Flight.isExpired, hwaits]
      rw [heffect, hstays]
      exact ⟨hshown, hwaits⟩
    · rw [heffect]
      exact ⟨rfl, rfl⟩
    · exact ⟨hacl.trans hshown, hpending.trans hwaits⟩
  | mark id since =>
    have hother : f.aircraftId ≠ id := fun hid => he since (by rw [hid])
    rw [effect, if_neg hother]
    exact ⟨hshown, hwaits⟩

/-! ## Runs -/

theorem run_append (s : Store) (before after : List Event) : run s (before ++ after) = run (run s before) after :=
  List.foldl_append

theorem distinct_run (h : DistinctIds s.flights) (events : List Event) : DistinctIds (run s events).flights :=
  List.foldlRecOn (motive := fun t => DistinctIds t.flights) events step h fun t ht e _ => distinct_step t e ht

theorem flight?_run (id : String) : ∀ (events : List Event) {s : Store}, DistinctIds s.flights →
    ∀ {f}, s.flight? id = some f → ∃ g, (run s events).flight? id = some g
  | [], _, _, f, hf => ⟨f, hf⟩
  | e :: events, s, h, f, hf =>
    flight?_run id events (distinct_step s e h) (by rw [flight?_step h, hf]; rfl)

theorem settled_run {id : String} : ∀ (events : List Event) {s : Store} {f : Flight}, DistinctIds s.flights →
    s.flight? id = some f → Settled f → (∀ since, .mark id since ∉ events) →
    ∃ g, (run s events).flight? id = some g ∧ Settled g
  | [], _, f, _, hf, hsettled, _ => ⟨f, hf, hsettled⟩
  | e :: events, s, f, h, hf, hsettled, hmarks => by
    simp only [List.mem_cons, not_or] at hmarks
    obtain ⟨-, hid⟩ := (Store.flight?_eq_some_iff h).1 hf
    refine settled_run events (distinct_step s e h) (by rw [flight?_step h, hf]; rfl) ?_ fun since => (hmarks since).2
    exact settled_effect hsettled fun since he => (hmarks since).1 (by rw [he, hid])

/-- The mark of a flight, if there is such a flight. -/
def markOf (id : String) (s : Store) : Option (Option Instant) := (s.flight? id).map (·.pendingRemoval)

theorem markOf_step (id : String) (s : Store) (e : Event) (h : DistinctIds s.flights) (he : ¬Touches id s e) :
    markOf id (step s e) = markOf id s := by
  rw [markOf, markOf, flight?_step h]
  cases hf : s.flight? id with
  | none => rfl
  | some f =>
    obtain ⟨-, rfl⟩ := (Store.flight?_eq_some_iff h).1 hf
    refine congrArg some ?_
    cases e with
    | typed m =>
      rcases effect_typed_cases s m f with ⟨-, heffect⟩ | ⟨hadds, -⟩ | ⟨-, -, -, hpending, -⟩
      · rw [heffect]
        split <;> rfl
      · exact absurd hadds he
      · exact hpending
    | mark id since =>
      have hother : f.aircraftId ≠ id := fun hid => he hid.symm
      rw [effect, if_neg hother]

theorem markOf_step_typed {m : Message} (h : DistinctIds s.flights) (hf : s.flight? id = some f) (hm : m.Adds s id) :
    markOf id (step s (.typed m)) = some none := by
  obtain ⟨-, rfl⟩ := (Store.flight?_eq_some_iff h).1 hf
  rw [markOf, flight?_step h, hf]
  rcases effect_typed_cases s m f with ⟨hclean, -⟩ | ⟨-, heffect⟩ | ⟨-, hno, -⟩
  · exact absurd hm hclean.not_adds
  · rw [Option.map_some, heffect]
    rfl
  · exact absurd hm hno

theorem markOf_step_mark (h : DistinctIds s.flights) (hf : s.flight? id = some f) (since : Option Instant) :
    markOf id (step s (.mark id since)) = some since := by
  obtain ⟨-, hid⟩ := (Store.flight?_eq_some_iff h).1 hf
  rw [markOf, flight?_step h, hf, Option.map_some, effect, if_pos hid]
  rfl

/-- **A flight waits for its removal since the latest event that touched it**, if that was a mark. -/
theorem pendingRemoval_run_iff (h : DistinctIds s.flights) (hs : s.flight? id = some f) {before : List Event}
    {g : Flight}
    (hg : (run s before).flight? id = some g) {since : Instant} :
    g.pendingRemoval = some since ↔ MarkedSince s id before since := by
  have hmark : g.pendingRemoval = some since ↔ markOf id (run s before) = some (some since) := by simp [markOf, hg]
  rw [hmark, run]
  constructor
  · intro hwaits
    rcases (never_or_last before s : Never step (Touches id) s before ∨ _) with hnever | ⟨t, e, hlast⟩
    · rw [hnever.view_eq distinct_step (markOf_step id) h] at hwaits
      exact .inr ⟨hnever, Option.map_eq_some_iff.1 hwaits⟩
    · obtain ⟨ht, hafter⟩ := hlast.view_eq distinct_step (markOf_step id) h
      rw [hafter] at hwaits
      obtain ⟨earlier, rfl⟩ := hlast.reached
      obtain ⟨k, hk⟩ := flight?_run id earlier h hs
      cases e with
      | typed m =>
        rw [markOf_step_typed ht hk hlast.holds] at hwaits
        cases hwaits
      | mark id' x =>
        obtain rfl : id' = id := hlast.holds
        rw [markOf_step_mark ht hk] at hwaits
        cases hwaits
        exact .inl ⟨_, hlast⟩
  · rintro (⟨t, hlast⟩ | ⟨hnever, hinitial⟩)
    · obtain ⟨ht, hafter⟩ := hlast.view_eq distinct_step (markOf_step id) h
      obtain ⟨earlier, rfl⟩ := hlast.reached
      obtain ⟨k, hk⟩ := flight?_run id earlier h hs
      rw [hafter, markOf_step_mark ht hk]
    · rw [hnever.view_eq distinct_step (markOf_step id) h]
      exact Option.map_eq_some_iff.2 hinitial

theorem isExpired_iff {context : Context} : f.isExpired context = true ↔ f.aclDisplay = true ∧
    ∃ since, f.pendingRemoval = some since ∧ context.removalTimeout.nanos < (context.now.since since).nanos := by
  simp [Flight.isExpired, Option.any_eq_true]

/-- **An event in three cases**: it takes the flight off the ACL, or puts it there, or leaves its display as it is. -/
theorem effect_cases (s : Store) (e : Event) (f : Flight) :
    (∃ m, e = .typed m ∧ m.CleansUp ∧ f.isExpired m.context = true ∧ e.effect s f = { f with aclDisplay := false }) ∨
    (∃ m, e = .typed m ∧ m.Adds s f.aircraftId ∧ e.effect s f = Store.showOnAcl f) ∨
    ((∀ m, e = .typed m → ¬m.Adds s f.aircraftId ∧ (m.CleansUp → f.isExpired m.context = false)) ∧
      (e.effect s f).aclDisplay = f.aclDisplay ∧ (e.effect s f).depDisplay = f.depDisplay) := by
  cases e with
  | typed m =>
    rcases effect_typed_cases s m f with ⟨hclean, heffect⟩ | ⟨hadds, heffect⟩ | ⟨hclean, hadds, hacl, -, hdep⟩
    · cases hexpired : f.isExpired m.context with
      | true =>
        rw [hexpired, if_pos rfl] at heffect
        exact .inl ⟨m, rfl, hclean, hexpired, heffect⟩
      | false =>
        rw [hexpired, if_neg Bool.false_ne_true] at heffect
        refine .inr (.inr ⟨?_, by rw [heffect], by rw [heffect]⟩)
        rintro _ ⟨⟩
        exact ⟨hclean.not_adds, fun _ => hexpired⟩
    · exact .inr (.inl ⟨m, rfl, hadds, heffect⟩)
    · refine .inr (.inr ⟨?_, hacl, hdep⟩)
      rintro _ ⟨⟩
      exact ⟨hadds, fun h => absurd h hclean⟩
  | mark id since =>
    refine .inr (.inr ⟨fun m hm => (nomatch hm), ?_⟩)
    rw [effect]
    split <;> exact ⟨rfl, rfl⟩

theorem shown_after_add (h : DistinctIds s.flights) (hs : s.flight? id = some f) {earlier later : List Event}
    {m : Message}
    (hm : m.Adds (run s earlier) id) (hmarks : ∀ since, .mark id since ∉ later) {g : Flight}
    (hg : (run s (earlier ++ .typed m :: later)).flight? id = some g) : Settled g := by
  have hdistinct := distinct_run h earlier
  obtain ⟨k, hk⟩ := flight?_run id earlier h hs
  obtain ⟨-, rfl⟩ := (Store.flight?_eq_some_iff hdistinct).1 hk
  have hadded : Settled ((typed m).effect (run s earlier) k) := by
    rcases effect_typed_cases (run s earlier) m k with ⟨hclean, -⟩ | ⟨-, heffect⟩ | ⟨-, hno, -⟩
    · exact absurd hm hclean.not_adds
    · rw [heffect]
      exact ⟨rfl, rfl⟩
    · exact absurd hm hno
  have hnext : (step (run s earlier) (.typed m)).flight? k.aircraftId = some ((typed m).effect (run s earlier) k) := by
    rw [flight?_step hdistinct, hk, Option.map_some]
  obtain ⟨g', hg', hsettled⟩ := settled_run later (distinct_step _ (.typed m) hdistinct) hnext hadded hmarks
  rw [run_append] at hg
  cases hg.symm.trans hg'
  exact hsettled

/-- **What one event does to the ACL**, after any others. -/
theorem listed_effect (h : DistinctIds s.flights) (hs : s.flight? id = some f) (before : List Event) (e : Event)
    {g : Flight} (hg : (run s before).flight? id = some g) : Listed s id before e g (e.effect (run s before) g) := by
  obtain ⟨-, hid⟩ := (Store.flight?_eq_some_iff (distinct_run h before)).1 hg
  have hwaits : ∀ since, g.pendingRemoval = some since ↔ MarkedSince s id before since := fun since =>
    pendingRemoval_run_iff h hs hg
  have hstays : ∀ earlier m later, before = earlier ++ .typed m :: later → m.Adds (run s earlier) id →
      (∀ since, .mark id since ∉ later) → Settled g := by
    rintro earlier m later rfl hm hmarks
    exact shown_after_add h hs hm hmarks hg
  have hcases := effect_cases (run s before) e g
  rw [hid] at hcases
  rcases hcases with ⟨m, rfl, hclean, hexpired, heffect⟩ | ⟨m, rfl, hadds, heffect⟩ | ⟨hno, hacl, hdep⟩
  · obtain ⟨hshown, since, hsince, hlong⟩ := isExpired_iff.1 hexpired
    rw [heffect]
    exact {
      shown := fun _ hback => (nomatch hback)
      added := by
        rintro _ ⟨⟩ hadds
        exact absurd hadds hclean.not_adds
      removed := ⟨fun _ => ⟨hshown, m, since, rfl, hclean, (hwaits since).1 hsince, hlong⟩, fun _ => ⟨hshown, rfl⟩⟩
      departures := rfl
      stays := fun earlier m' later hbefore hm' hmarks => by
        obtain ⟨-, hnone⟩ := hstays earlier m' later hbefore hm' hmarks
        rw [hnone] at hsince
        cases hsince }
  · rw [heffect]
    exact {
      shown := fun _ _ => ⟨m, rfl, hadds⟩
      added := fun _ _ _ => ⟨rfl, rfl⟩
      removed := by
        refine ⟨fun hgone => (nomatch hgone.2), ?_⟩
        rintro ⟨-, _, _, ⟨⟩, hclean, -⟩
        exact absurd hadds hclean.not_adds
      departures := rfl
      stays := fun earlier m' later hbefore hm' hmarks => ⟨(hstays earlier m' later hbefore hm' hmarks).1, rfl⟩ }
  · exact {
      shown := fun hhidden hshown => by rw [hacl, hhidden] at hshown; cases hshown
      added := fun m hm hadds => absurd hadds (hno m hm).1
      removed := by
        rw [hacl]
        refine ⟨fun hgone => absurd (hgone.1.symm.trans hgone.2) Bool.noConfusion, ?_⟩
        rintro ⟨hshown, m, since, hm, hclean, hsince, hlong⟩
        have hexpired := isExpired_iff.2 ⟨hshown, since, (hwaits since).2 hsince, hlong⟩
        exact absurd (hexpired.symm.trans ((hno m hm).2 hclean)) Bool.noConfusion
      departures := hdep
      stays := fun earlier m' later hbefore hm' hmarks => by
        obtain ⟨hshown, -⟩ := hstays earlier m' later hbefore hm' hmarks
        exact ⟨hshown, hacl.trans hshown⟩ }

/-- **The life of a flight on the ACL**, over any run of messages and marks. -/
theorem run_listed (h : DistinctIds s.flights) (hf : f ∈ s.flights) (before : List Event) (e : Event) :
    ∃ g g', (run s before).flight? f.aircraftId = some g ∧ (run s (before ++ [e])).flight? f.aircraftId = some g' ∧
      Listed s f.aircraftId before e g g' := by
  have hs : s.flight? f.aircraftId = some f := (Store.flight?_eq_some_iff h).2 ⟨hf, rfl⟩
  obtain ⟨g, hg⟩ := flight?_run f.aircraftId before h hs
  refine ⟨g, e.effect (run s before) g, hg, ?_, listed_effect h hs before e hg⟩
  have hlast : run s (before ++ [e]) = step (run s before) e := run_append s before [e]
  rw [hlast, flight?_step (distinct_run h before), hg, Option.map_some]

theorem run_listed_of_marked_flight :
    let s : Store := .ofFlights [{ aircraftId := "N1" }, { aircraftId := "N2" }]
    let context : Context := ⟨false, "ZOA", ⟨1, 0, 0, by decide, by decide, by decide⟩, .ofSeconds 300⟩
    let before : List Event := [.typed ⟨⟨none⟩, context, "UU N2"⟩, .mark "N2" (some .epoch)]
    DistinctIds s.flights ∧ { aircraftId := "N2" } ∈ s.flights ∧
      ∃ g g', (run s before).flight? "N2" = some g ∧
        (run s (before ++ [.typed ⟨⟨none⟩, context, "UU C"⟩])).flight? "N2" = some g' ∧
        Listed s "N2" before (.typed ⟨⟨none⟩, context, "UU C"⟩) g g' := by
  intro s context before
  have hdistinct : DistinctIds s.flights := by decide
  have hmem : ({ aircraftId := "N2" } : Flight) ∈ s.flights := by simp [s, Store.ofFlights]
  exact ⟨hdistinct, hmem, run_listed hdistinct hmem before (.typed ⟨⟨none⟩, context, "UU C"⟩)⟩

end Event
end Clearance
