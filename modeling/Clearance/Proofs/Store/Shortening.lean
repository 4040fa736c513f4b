import Clearance.Proofs.Store.Footprint
import Clearance.Proofs.Store.History
/-!
# Shortening — typed clearances only shorten a route

A clearance cuts the fixes of a flight at the first one with its name, and no other message touches them.  So along any
run of messages the fixes of a flight are a suffix of what they were (`run_shortens`), and the previous route is the one
that the last accepted clearance cut.
-/
namespace Clearance

open History

namespace Flight

/-- The fields that an amendment writes. -/
def amendments (f : Flight) : Option String × Option (List Fix) × Option String × Option (List Fix) :=
  (f.amendedRoute, f.amendedFixes, f.previousRoute, f.previousFixes)

/-- The second flight is on the route of the first one from its first fix with this name on. -/
structure CutAt (f : Flight) (fix : String) (g : Flight) : Prop where
  fixes : ∃ skipped first rest, f.currentFixes = skipped ++ first :: rest ∧ first.name = fix ∧
    (∀ b ∈ skipped, b.name ≠ fix) ∧ g.currentFixes = first :: rest
  text : ∃ tail, g.currentRoute = ".." ++ fix ++ tail

/-- The second flight is on a last part of the route of the first one, and on no empty part of a route that is not. -/
structure Shortens (f g : Flight) : Prop where
  suffix : g.currentFixes <:+ f.currentFixes
  nonempty : f.currentFixes ≠ [] → g.currentFixes ≠ []

end Flight

namespace Message

/-- The message is an accepted `QU` that clears the flight to this fix. -/
def Clears (m : Message) (s : Store) (id fix : String) : Prop :=
  ∃ fid f, (Command.parse m.text).verb = "QU" ∧ (Command.parse m.text).args = [fix, fid] ∧
    (m.response s).status = .accept ∧ Flight.resolve s.flights fid = some f ∧ f.aircraftId = id

/-- The message is an accepted `QU` for the flight. -/
def ClearsFlight (id : String) (s : Store) (m : Message) : Prop := ∃ fix, m.Clears s id fix

end Message

/-- What a run of messages does to the route of the flight `f` with this identification; `g` is the flight after it. -/
structure Shortened (s : Store) (id : String) (messages : List Message) (f g : Flight) : Prop where
  shortens : f.Shortens g
  cut : ∀ before m fix, messages = before ++ [m] → m.Clears (Message.run s before) id fix →
    ∃ e, (Message.run s before).flight? id = some e ∧ e.CutAt fix g
  previous : ¬Never Message.step (Message.ClearsFlight id) s messages →
    ∃ t m e, Last Message.step (Message.ClearsFlight id) s messages t m ∧ t.flight? id = some e ∧
      g.previousRoute = some e.currentRoute ∧ g.previousFixes = some e.currentFixes
  untouched : Never Message.step (Message.ClearsFlight id) s messages → g.amendments = f.amendments

/-! ## Routes and their last parts -/

namespace Flight

variable {e f g : Flight} {fix : String}

theorem Shortens.refl (f : Flight) : f.Shortens f := ⟨List.suffix_rfl, id⟩

theorem Shortens.trans (h : e.Shortens f) (h' : f.Shortens g) : e.Shortens g :=
  ⟨h'.suffix.trans h.suffix, h'.nonempty ∘ h.nonempty⟩

theorem CutAt.shortens (h : f.CutAt fix g) : f.Shortens g := by
  obtain ⟨skipped, first, rest, hf, -, -, hg⟩ := h.fixes
  refine ⟨⟨skipped, by rw [hg, hf]⟩, fun _ => ?_⟩
  rw [hg]
  exact List.cons_ne_nil first rest

/-- A flight whose amendments stay is on the same fixes, amended or filed. -/
theorem shortens_of_amendments (hkept : g.kept = f.kept) (h : g.amendments = f.amendments) : f.Shortens g := by
  have hfiled : g.kept.filedFixes = f.kept.filedFixes := congrArg filedFixes hkept
  have hamended : g.amendedFixes = f.amendedFixes := congrArg (fun a => a.2.1) h
  have hfixes : g.currentFixes = f.currentFixes := by 
    rw [currentFixes, currentFixes, hamended]
    exact congrArg _ hfiled
  exact ⟨hfixes ▸ List.suffix_rfl, fun hne => hfixes ▸ hne⟩

end Flight

theorem Direct.cutAt_of_ofFlight? {f : Flight} {fix : String} {d : Direct} (hd : ofFlight? f fix = some d) :
    f.CutAt fix (f.rerouted d.route d.fixes) := by
  obtain ⟨n, hn, rfl⟩ := Option.map_eq_some_iff.1 hd
  obtain ⟨hlt, hname, hskipped⟩ := List.findIdx?_eq_some_iff_getElem.1 hn
  refine ⟨⟨f.currentFixes.take n, f.currentFixes[n], f.currentFixes.drop (n + 1), ?_, by simpa using hname, ?_, ?_⟩, ?_⟩
  · rw [← List.drop_eq_getElem_cons hlt, List.take_append_drop]
  · intro b hb
    obtain ⟨k, hk, rfl⟩ := List.mem_take_iff_getElem.1 hb
    simpa using hskipped k (by omega)
  · exact List.drop_eq_getElem_cons hlt
  · exact ⟨_, rfl⟩

theorem Form.amendments_change {form : Form} (hform : ∀ fix fid, form ≠ .clearDirect fix fid) (f : Flight) :
    (form.change f).amendments = f.amendments := by
  cases form with
  | clearDirect fix fid => exact absurd rfl (hform fix fid)
  | _ => rfl

/-! ## One message -/

namespace Message

variable {s : Store} {m : Message} {f g : Flight} {id fix fix' : String}

theorem Clears.unique (h : m.Clears s id fix) (h' : m.Clears s id fix') : fix = fix' := by
  obtain ⟨fid, -, -, hargs, -⟩ := h
  obtain ⟨fid', -, -, hargs', -⟩ := h'
  rw [hargs] at hargs'
  cases hargs'
  rfl

theorem clears_iff : m.Clears s id fix ↔ ∃ fid f, m.form = .clearDirect fix fid ∧ (m.response s).status = .accept ∧
    Flight.resolve s.flights fid = some f ∧ f.aircraftId = id := by
  simp only [Clears, form, Command.form_eq_clearDirect_iff, and_assoc]

/-- A `QU` changes the flights that it clears, and no others. -/
theorem effect_clearDirect {fid : String} (hform : m.form = .clearDirect fix fid) (s : Store) (f : Flight) :
    (m.Clears s f.aircraftId fix ∧
      m.form.effect m.interpreter.resolver m.context s.flights f = f.clearedTo fix) ∨
    (¬ClearsFlight f.aircraftId s m ∧ m.form.effect m.interpreter.resolver m.context s.flights f = f) := by
  have hresponse : m.response s = Form.clearance fix fid m.interpreter.resolver s.flights m.context := by
    rw [response_eq, hform, Form.answer]
  rw [hform, Form.effect, if_neg Form.noConfusion, Form.target, ← hresponse]
  by_cases hclears : m.Clears s f.aircraftId fix
  · refine .inl ⟨hclears, ?_⟩
    obtain ⟨fid', e, hform', haccept, hres, hid⟩ := clears_iff.1 hclears
    cases hform.symm.trans hform'
    have haccepted : (m.response s).isAccept = true := decide_eq_true haccept
    rw [if_pos haccepted, hres, Option.any_some, hid, beq_self_eq_true, if_pos rfl, Form.change]
  · refine .inr ⟨?_, if_neg fun htarget => ?_⟩
    · rintro ⟨fix', hclears'⟩
      obtain ⟨fid', e, hform', -⟩ := clears_iff.1 hclears'
      cases hform.symm.trans hform'
      exact hclears hclears'
    · split at htarget
      · rename_i haccepted
        obtain ⟨e, hres, hid⟩ := (Option.any_eq_true _ _).1 htarget
        exact hclears (clears_iff.2 ⟨fid, e, hform, of_decide_eq_true haccepted, hres, eq_of_beq hid⟩)
      · cases htarget

theorem Clears.ofFlight? (h : DistinctIds s.flights) (hf : f ∈ s.flights) (hclears : m.Clears s f.aircraftId fix) :
    ∃ d, Direct.ofFlight? f fix = some d := by
  obtain ⟨fid, e, hform, haccept, hres, hid⟩ := clears_iff.1 hclears
  obtain rfl := h.eq_of_mem (Flight.mem_of_resolve hres) hf hid
  rw [response_eq, hform, Form.answer, Form.clearance_status] at haccept
  obtain ⟨k, hk, -, hfix, -⟩ := haccept
  cases hres.symm.trans hk
  exact Option.isSome_iff_exists.1 (Direct.ofFlight?_isSome.2 hfix)

/-- **A message in two cases**: it clears the flight, which is then on its route from the fix on, or it leaves the route
alone. -/
theorem effect_cases (h : DistinctIds s.flights) (hf : f ∈ s.flights) (m : Message) :
    (∃ fix d, m.Clears s f.aircraftId fix ∧ Direct.ofFlight? f fix = some d ∧
      m.form.effect m.interpreter.resolver m.context s.flights f = f.rerouted d.route d.fixes) ∨
    (¬ClearsFlight f.aircraftId s m ∧
      (m.form.effect m.interpreter.resolver m.context s.flights f).amendments = f.amendments) := by
  by_cases hform : ∃ fix fid, m.form = .clearDirect fix fid
  · obtain ⟨fix, fid, hform⟩ := hform
    rcases effect_clearDirect hform s f with ⟨hclears, heffect⟩ | ⟨hno, heffect⟩
    · obtain ⟨d, hd⟩ := hclears.ofFlight? h hf
      refine .inl ⟨fix, d, hclears, hd, ?_⟩
      rw [heffect, Flight.clearedTo, hd, Option.elim_some]
    · exact .inr ⟨hno, by rw [heffect]⟩
  · have hother : ∀ fix fid, m.form ≠ .clearDirect fix fid := fun fix fid hform' => hform ⟨fix, fid, hform'⟩
    refine .inr ⟨?_, ?_⟩
    · rintro ⟨fix, hclears⟩
      obtain ⟨fid, -, hform', -⟩ := clears_iff.1 hclears
      exact hother fix fid hform'
    · rw [Form.effect]
      split
      · split <;> rfl
      · split
        · exact Form.amendments_change hother f
        · rfl

theorem shortens_effect (h : DistinctIds s.flights) (hf : f ∈ s.flights) (m : Message) :
    f.Shortens (m.form.effect m.interpreter.resolver m.context s.flights f) := by
  rcases effect_cases h hf m with ⟨fix, d, -, hd, heffect⟩ | ⟨-, ham⟩
  · rw [heffect]
    exact (Direct.cutAt_of_ofFlight? hd).shortens
  · exact Flight.shortens_of_amendments (m.form.kept_effect f) ham

/-! ## Runs -/

theorem shortens_run : ∀ (messages : List Message) {s : Store} {f : Flight}, DistinctIds s.flights →
    s.flight? id = some f → ∃ g, (run s messages).flight? id = some g ∧ f.Shortens g
  | [], _, f, _, hf => ⟨f, hf, .refl f⟩
  | m :: messages, s, f, h, hf => by
    obtain ⟨hmem, -⟩ := (Store.flight?_eq_some_iff h).1 hf
    have hnext : (step s m).flight? id = some (m.form.effect m.interpreter.resolver m.context s.flights f) := by
      rw [flight?_step h, hf, Option.map_some]
    obtain ⟨g, hg, hshort⟩ := shortens_run messages (distinct_step s m h) hnext
    exact ⟨g, hg, (shortens_effect h hmem m).trans hshort⟩

/-- The amendments of a flight, if there is such a flight. -/
def amendmentsOf (id : String) (s : Store) := (s.flight? id).map Flight.amendments

theorem amendmentsOf_step (id : String) (s : Store) (m : Message) (h : DistinctIds s.flights)
    (hm : ¬ClearsFlight id s m) : amendmentsOf id (step s m) = amendmentsOf id s := by
  rw [amendmentsOf, amendmentsOf, flight?_step h]
  cases hf : s.flight? id with
  | none => rfl
  | some f =>
    obtain ⟨hmem, rfl⟩ := (Store.flight?_eq_some_iff h).1 hf
    rcases effect_cases h hmem m with ⟨fix, -, hclears, -⟩ | ⟨-, ham⟩
    · exact absurd ⟨fix, hclears⟩ hm
    · exact congrArg some ham

theorem step_of_clears (h : DistinctIds s.flights) (hf : s.flight? id = some f) (hm : m.Clears s id fix) :
    ∃ d, Direct.ofFlight? f fix = some d ∧ (step s m).flight? id = some (f.rerouted d.route d.fixes) := by
  obtain ⟨hmem, rfl⟩ := (Store.flight?_eq_some_iff h).1 hf
  rcases effect_cases h hmem m with ⟨fix', d, hclears, hd, heffect⟩ | ⟨hno, -⟩
  · obtain rfl := hclears.unique hm
    exact ⟨d, hd, by rw [flight?_step h, hf, Option.map_some, heffect]⟩
  · exact absurd ⟨fix, hm⟩ hno

/-- **Along a run of messages the route of a flight only gets shorter.** -/
theorem run_shortens (h : DistinctIds s.flights) (hf : f ∈ s.flights) (messages : List Message) :
    ∃ g, (run s messages).flight? f.aircraftId = some g ∧ Shortened s f.aircraftId messages f g := by
  have hs : s.flight? f.aircraftId = some f := (Store.flight?_eq_some_iff h).2 ⟨hf, rfl⟩
  obtain ⟨g, hg, hshort⟩ := shortens_run messages h hs
  refine ⟨g, hg, ?_⟩
  exact {
    shortens := hshort
    cut := by
      rintro before m fix rfl hclears
      obtain ⟨e, he, -⟩ := shortens_run before h hs
      obtain ⟨d, hd, hafter⟩ := step_of_clears (distinct_run h before) he hclears
      rw [run, List.foldl_append] at hg
      cases hafter.symm.trans hg
      exact ⟨e, he, Direct.cutAt_of_ofFlight? hd⟩
    previous := by
      intro hsome
      obtain ⟨t, m, hlast⟩ := (never_or_last messages s).resolve_left hsome
      obtain ⟨ht, hview⟩ := hlast.view_eq distinct_step (amendmentsOf_step f.aircraftId) h
      obtain ⟨before, rfl⟩ := hlast.reached
      obtain ⟨e, he, -⟩ := shortens_run before h hs
      obtain ⟨fix, hclears⟩ := hlast.holds
      obtain ⟨d, -, hafter⟩ := step_of_clears ht he hclears
      have hamendments : g.amendments = (e.rerouted d.route d.fixes).amendments := by
        have hview : amendmentsOf f.aircraftId (run s messages) = _ := hview
        rw [amendmentsOf, amendmentsOf, hg, hafter] at hview
        exact Option.some.inj hview
      exact ⟨_, m, e, hlast, he, congrArg (fun a => a.2.2.1) hamendments, congrArg (fun a => a.2.2.2) hamendments⟩
    untouched := by
      intro hnever
      have hview : amendmentsOf f.aircraftId (run s messages) = amendmentsOf f.aircraftId s :=
        hnever.view_eq distinct_step (amendmentsOf_step f.aircraftId) h
      rw [amendmentsOf, amendmentsOf, hg, hs] at hview
      exact Option.some.inj hview }

theorem run_shortens_of_two_flights :
    let f : Flight :=
      { aircraftId := "N2", filedRoute := "OAK.SAC.RNO", filedFixes := Route.parse "OAK.SAC.RNO" .empty,
        aclDisplay := true }
    let s : Store := .ofFlights [{ aircraftId := "N1" }, f]
    let context : Context := ⟨false, "ZOA", .epoch, .ofSeconds 300⟩
    let messages : List Message := [⟨⟨none⟩, context, "QU SAC N2"⟩, ⟨⟨none⟩, context, "//N1"⟩]
    DistinctIds s.flights ∧ f ∈ s.flights ∧
      ∃ g, (run s messages).flight? "N2" = some g ∧ Shortened s "N2" messages f g := by
  intro f s context messages
  have hdistinct : DistinctIds s.flights := by decide
  have hmem : f ∈ s.flights := by simp [s, Store.ofFlights]
  exact ⟨hdistinct, hmem, run_shortens hdistinct hmem messages⟩

end Message
end Clearance
