import Clearance.Proofs.Flight.Merge
import Clearance.Proofs.Interpreter.Decision
import Clearance.Proofs.Store.Update
/-!
# Effect — what a typed message does to the flights

A message changes the flight that it addresses, by a change that depends on its form alone, and `UU C` takes the expired
flights off the ACL.  `flights_answer` says so flight by flight: applying the intents of an answer maps the effect of
its form over the flights.
-/
namespace Clearance

/-- A flight cleared direct to a fix of its route; other fixes change nothing. -/
def Flight.clearedTo (f : Flight) (fix : String) : Flight :=
  (Direct.ofFlight? f fix).elim f fun d => f.rerouted d.route d.fixes

namespace Form

def fid? : Form → Option String
  | toggleVci fid => fid
  | addFlight fid | highlight fid | clearDirect _ fid | readout fid | strip fid => some fid
  | _ => none

/-- The flight that a form changes, if it changes one. -/
def target (resolver : Option FrdResolver) (context : Context) (flights : List Flight) : Form → Option Flight
  | toggleVci fid => fid.bind (Flight.resolve flights)
  | addFlight fid | highlight fid => Flight.resolve flights fid
  | clearDirect fix fid =>
    if (clearance fix fid resolver flights context).isAccept then Flight.resolve flights fid else none
  | _ => none

/-- What a form does to the flight that it changes. -/
def change : Form → Flight → Flight
  | toggleVci _, f => { f with vci := !f.vci }
  | addFlight _, f => Store.showOnAcl f
  | highlight _, f =>
    { f with
      aclHighlighted := if f.aclDisplay then !f.aclHighlighted else f.aclHighlighted
      depHighlighted := if f.depDisplay then !f.depHighlighted else f.depHighlighted }
  | clearDirect fix _, f => f.clearedTo fix
  | _, f => f

/-- What a form does to a flight among others. -/
def effect (resolver : Option FrdResolver) (context : Context) (flights : List Flight) (form : Form) (g : Flight) :
    Flight :=
  if form = cleanUpAcl then if g.isExpired context then { g with aclDisplay := false } else g
  else if (form.target resolver context flights).any (·.aircraftId == g.aircraftId) then form.change g
  else g

end Form

namespace Store

variable {s : Store} {f : Flight}

theorem applyAll_nil : s.applyAll [] = s := rfl

theorem applyAll_cons (i : Intent) (is : List Intent) : s.applyAll (i :: is) = (s.apply i).applyAll is := rfl

/-- **A mutation is the update by its patch**, empty or not. -/
theorem applyAll_mutation (p : Patch) : s.applyAll (f.mutation p) = s.update f.aircraftId p.apply := by
  unfold Flight.mutation
  split
  · rename_i h
    rw [applyAll_nil, update, show p.apply = fun g => g from funext (Patch.apply_of_isEmpty h), updateFirst_id]
  · rfl

/-- **A mutation of a flight changes that flight alone.** -/
theorem flights_mutate (h : DistinctIds s.flights) (hf : f ∈ s.flights) (p : Patch) :
    (s.apply (.mutate f.aircraftId p)).flights =
      s.flights.map fun g => if g.aircraftId = f.aircraftId then p.apply f else g := by
  have hupdate : (s.apply (.mutate f.aircraftId p)).flights = updateFirst f.aircraftId p.apply s.flights := rfl
  rw [hupdate, updateFirst_eq_map h]
  refine List.map_congr_left fun g hg => ?_
  by_cases hid : g.aircraftId = f.aircraftId
  · rw [if_pos hid, if_pos hid, h.eq_of_mem hg hf hid]
  · rw [if_neg hid, if_neg hid]

/-- **Deleting flights from the ACL, one after the other**, takes each of them off it. -/
theorem flights_deletes : ∀ (ids : List String) {s : Store}, DistinctIds s.flights →
    (s.applyAll (ids.map fun id => .delete id .acl)).flights =
      s.flights.map fun g => if g.aircraftId ∈ ids then { g with aclDisplay := false } else g
  | [], s, _ => by simp [applyAll_nil]
  | id :: ids, s, h => by
    have hfl : (s.apply (.delete id .acl)).flights =
        s.flights.map fun g => if g.aircraftId = id then { g with aclDisplay := false } else g := updateFirst_eq_map h
    have hkeep : ∀ f, (takeOff .acl f).aircraftId = f.aircraftId := fun _ => rfl
    have hids : (s.apply (.delete id .acl)).flights.map (·.aircraftId) = s.flights.map (·.aircraftId) :=
      map_updateFirst (·.aircraftId) hkeep s.flights
    rw [List.map_cons, applyAll_cons, flights_deletes ids (h.of_map_eq hids), hfl, List.map_map]
    refine List.map_congr_left fun g _ => ?_
    simp only [Function.comp_apply, List.mem_cons]
    by_cases hid : g.aircraftId = id
    · rw [if_pos hid, if_pos (.inl hid : g.aircraftId = id ∨ g.aircraftId ∈ ids)]
      split <;> rfl
    · simp only [hid, if_false, false_or]

end Store

namespace Form

variable {resolver : Option FrdResolver} {context : Context} {flights : List Flight} {form : Form} {f : Flight}

/-- **A flight that is changed is the one that the form addresses.** -/
theorem target_resolves (h : form.target resolver context flights = some f) :
    ∃ fid, form.fid? = some fid ∧ Flight.resolve flights fid = some f := by
  cases form with
  | toggleVci fid => exact Option.bind_eq_some_iff.1 h
  | addFlight fid => exact ⟨fid, rfl, h⟩
  | highlight fid => exact ⟨fid, rfl, h⟩
  | clearDirect fix fid =>
    simp only [target] at h
    split at h
    · exact ⟨fid, rfl, h⟩
    · cases h
  | _ => cases h

theorem target_mem (h : form.target resolver context flights = some f) : f ∈ flights := by
  obtain ⟨fid, -, hfid⟩ := target_resolves h
  exact Flight.mem_of_resolve hfid

theorem map_effect_of_target_none (hform : form ≠ .cleanUpAcl) (h : form.target resolver context flights = none) :
    flights.map (form.effect resolver context flights) = flights := by
  have heffect : ∀ g, form.effect resolver context flights g = g := fun g => by
    rw [effect, if_neg hform, h]
    rfl
  rw [funext heffect, List.map_id']

theorem updateFirst_eq_map_effect {update : Flight → Flight} (h : DistinctIds flights) (hform : form ≠ .cleanUpAcl)
    (htarget : form.target resolver context flights = some f) (hupdate : update f = form.change f) :
    Store.updateFirst f.aircraftId update flights = flights.map (form.effect resolver context flights) := by
  rw [Store.updateFirst_eq_map h]
  refine List.map_congr_left fun g hg => ?_
  rw [effect, if_neg hform, htarget, Option.any_some]
  by_cases hid : g.aircraftId = f.aircraftId
  · obtain rfl := h.eq_of_mem hg (target_mem htarget) hid
    rw [if_pos rfl, beq_self_eq_true, if_pos rfl, hupdate]
  · rw [if_neg hid, beq_eq_false_iff_ne.2 (Ne.symm hid)]
    rfl

end Form

namespace Store

variable {s : Store} (resolver : Option FrdResolver) (raw : String) (context : Context)

theorem flights_cleanUp (h : DistinctIds s.flights) :
    (s.applyAll (Form.cleanUpAcl.answer resolver raw s.flights context).intents).flights =
      s.flights.map (Form.cleanUpAcl.effect resolver context s.flights) := by
  have hintents : (Form.cleanUpAcl.answer resolver raw s.flights context).intents =
      ((s.flights.filter (·.isExpired context)).map (·.aircraftId)).map fun id => .delete id .acl := by
    rw [List.map_map]; rfl
  rw [hintents, flights_deletes _ h]
  refine List.map_congr_left fun g hg => ?_
  have hmem : g.aircraftId ∈ (s.flights.filter (·.isExpired context)).map (·.aircraftId) ↔
      g.isExpired context = true := by
    rw [List.mem_map]
    constructor
    · rintro ⟨e, he, hid⟩
      obtain ⟨he, hexp⟩ := List.mem_filter.1 he
      rwa [h.eq_of_mem hg he hid.symm]
    · intro hexp
      exact ⟨g, List.mem_filter.2 ⟨hg, hexp⟩, rfl⟩
  rw [Form.effect, if_pos rfl]
  simp only [hmem]

/-- **An answer makes at most one update**, which was worked out for the flight that the form changes. -/
theorem updates_answer (form : Form) (hform : form ≠ .cleanUpAcl) :
    (form.target resolver context s.flights = none ∧
      (s.applyAll (form.answer resolver raw s.flights context).intents).flights = s.flights) ∨
    ∃ f update, form.target resolver context s.flights = some f ∧ update f = form.change f ∧
      (s.applyAll (form.answer resolver raw s.flights context).intents).flights =
        updateFirst f.aircraftId update s.flights := by
  cases form with
  | toggleVci fid =>
    simp only [Form.target, Form.answer]
    cases fid.bind (Flight.resolve s.flights) with
    | none => exact .inl ⟨rfl, rfl⟩
    | some f =>
      refine .inr ⟨f, ({ vci := some !f.vci } : Patch).apply, rfl, rfl, ?_⟩
      exact congrArg Store.flights (applyAll_mutation { vci := some !f.vci })
  | cleanUpAcl => exact absurd rfl hform
  | addFlight fid =>
    have hstep : s.applyAll ((Form.addFlight fid).answer resolver raw s.flights context).intents =
        s.apply (.addFlight fid) := rfl
    rw [hstep, apply, Form.target]
    cases Flight.resolve s.flights fid with
    | none => exact .inl ⟨rfl, rfl⟩
    | some f => exact .inr ⟨f, _, rfl, rfl, rfl⟩
  | highlight fid =>
    simp only [Form.target, Form.answer]
    cases Flight.resolve s.flights fid with
    | none => exact .inl ⟨rfl, rfl⟩
    | some f =>
      refine .inr ⟨f, _, rfl, ?_, congrArg Store.flights (applyAll_mutation
        { aclHighlighted := if f.aclDisplay then some !f.aclHighlighted else none
          depHighlighted := if f.depDisplay then some !f.depHighlighted else none })⟩
      simp only [Patch.apply, Form.change]
      cases f.aclDisplay <;> cases f.depDisplay <;> rfl
  | clearDirect fix fid =>
    simp only [Form.target, Form.answer]
    rcases Form.clearance_cases resolver s.flights context fix fid with ⟨-, hr⟩ | ⟨-, f, d, hf, -, hd, hr⟩
    · rw [hr]; exact .inl ⟨rfl, rfl⟩
    · rw [hr]
      refine .inr ⟨f, (d.patch f).apply, hf, ?_, rfl⟩
      rw [Form.change, Flight.clearedTo, hd]
      rfl
  | readout fid =>
    refine .inl ⟨rfl, ?_⟩
    rw [Form.answer]
    cases Flight.resolve s.flights fid <;> rfl
  | strip fid =>
    refine .inl ⟨rfl, ?_⟩
    rw [Form.answer]
    cases Flight.resolve s.flights fid <;> rfl
  | _ => exact .inl ⟨rfl, rfl⟩

/-- **What the answer to a form does to the flights**: each of them has the effect of the form. -/
theorem flights_answer (h : DistinctIds s.flights) (form : Form) :
    (s.applyAll (form.answer resolver raw s.flights context).intents).flights =
      s.flights.map (form.effect resolver context s.flights) := by
  by_cases hform : form = .cleanUpAcl
  · subst hform
    exact flights_cleanUp resolver raw context h
  · rcases updates_answer resolver raw context form hform with ⟨htarget, hflights⟩ | ⟨f, update, htarget, hf, hflights⟩
    · rw [hflights, Form.map_effect_of_target_none hform htarget]
    · rw [hflights, Form.updateFirst_eq_map_effect h hform htarget hf]

end Store
end Clearance
