import Mathlib.Data.List.Perm.Lattice
import Clearance.Proofs.Store.Desk
import Clearance.Proofs.Store.Listing
/-!
# Commutation — messages that may be typed in either order

A message reads one flight and writes to that flight and to the desk.  So two messages that address different flights
do not notice each other: what they write to the desk comes to the same in either order, and each gets the answer that
it would get alone (`perform_comm`).  Closing the windows, cleaning up the ACL and reading out are left aside, since the
first two undo or read what others write and of two readouts the later one stays.
-/
namespace Clearance

attribute [ext] Store

namespace NameSet

theorem eq_of_mem_iff {s t : NameSet} (h : ∀ n, n ∈ s ↔ n ∈ t) : s = t := by
  obtain ⟨l, hl⟩ := s
  obtain ⟨l', hl'⟩ := t
  have hnodup : ∀ {l : List String}, Text.SortedBy id l → l.Nodup := fun hl =>
    List.Pairwise.imp (fun {a b} (hlt : a < b) (he : a = b) => String.lt_irrefl b (he ▸ hlt)) hl
  -- equal sets are permutations of one another, and there is one way only to put names in order
  have hperm : l.Perm l' := (List.perm_ext_iff_of_nodup (hnodup hl) (hnodup hl')).2 h
  have heq : l = l' := hperm.eq_of_pairwise
    (fun a b _ _ (hab : a < b) (hba : b < a) => absurd (String.lt_trans hab hba) (String.lt_irrefl a)) hl hl'
  subst heq
  rfl

theorem insert_comm (s : NameSet) (n k : String) : (s.insert n).insert k = (s.insert k).insert n :=
  eq_of_mem_iff fun x => by rw [mem_insert, mem_insert, mem_insert, mem_insert, or_left_comm]

theorem foldl_toggle_comm (l l' : List String) (s : NameSet) :
    l'.foldl toggle (l.foldl toggle s) = l.foldl toggle (l'.foldl toggle s) := by
  refine eq_of_mem_iff fun n => ?_
  rw [mem_foldl_toggle, mem_foldl_toggle, mem_foldl_toggle, mem_foldl_toggle, ← xor_odd_add, ← xor_odd_add,
    Nat.add_comm]

end NameSet

namespace Message

/-- The flight that a message is about. -/
inductive Addresses (m : Message) (flights : List Flight) (f : Flight) : Prop where
  | vci {fid : String} : m.command.verb = "//" → m.command.args.head? = some fid →
      Flight.resolve flights fid = some f → Addresses m flights f
  | highlight {fid : String} : m.command.verb = "UU" → m.command.args = ["H", fid] →
      Flight.resolve flights fid = some f → Addresses m flights f
  | add {fid : String} : m.command.verb = "UU" → m.command.args = [fid] → fid ∉ ["C", "D", "P", "X"] →
      Flight.resolve flights fid = some f → Addresses m flights f
  | clear {fix fid : String} : m.command.verb = "QU" → m.command.args = [fix, fid] →
      Flight.resolve flights fid = some f → Addresses m flights f
  | strip {fid : String} : m.command.verb = "SR" → m.command.args = [fid] →
      Flight.resolve flights fid = some f → Addresses m flights f

/-- The message neither closes windows nor cleans up the ACL nor asks for a readout. -/
def Movable (m : Message) : Prop := ¬m.ClosesWindows ∧ ¬m.CleansUp ∧ m.command.verb ≠ "FR"

end Message

/-! ## Forms -/

namespace Form

variable {resolver : Option FrdResolver} {context context' : Context} {flights flights' : List Flight}
  {form form' : Form} {f : Flight}

/-- The flight that a form is about. -/
def addressee? (flights : List Flight) (form : Form) : Option Flight := form.fid?.bind (Flight.resolve flights)

theorem answer_posting (hform : form ≠ togglePosting) (raw : String) (posting : Bool) :
    form.answer resolver raw flights { context with manualPosting := posting } =
      form.answer resolver raw flights context := by
  cases form with
  | togglePosting => exact absurd rfl hform
  | _ => rfl

/-- **An answer depends on the flights through the one that is addressed.** -/
theorem answer_congr (hform : form ≠ cleanUpAcl) (h : form.addressee? flights' = form.addressee? flights)
    (raw : String) : form.answer resolver raw flights' context = form.answer resolver raw flights context := by
  cases form with
  | cleanUpAcl => exact absurd rfl hform
  | toggleVci fid =>
    have hres : fid.bind (Flight.resolve flights') = fid.bind (Flight.resolve flights) := h
    rw [answer, hres]; rfl
  | highlight fid | readout fid | strip fid =>
    have hres : Flight.resolve flights' fid = Flight.resolve flights fid := h
    rw [answer, hres]; rfl
  | clearDirect fix fid =>
    have hres : Flight.resolve flights' fid = Flight.resolve flights fid := h
    rw [answer, clearance, hres]; rfl
  | _ => rfl

theorem target_congr (h : form.addressee? flights' = form.addressee? flights) :
    form.target resolver context flights' = form.target resolver context flights := by
  cases form with
  | toggleVci fid => exact h
  | addFlight fid | highlight fid => exact h
  | clearDirect fix fid =>
    have hres : Flight.resolve flights' fid = Flight.resolve flights fid := h
    rw [target, clearance, hres]; rfl
  | _ => rfl

theorem window?_congr (h : form.addressee? flights' = form.addressee? flights) :
    form.window? flights' = form.window? flights := by
  cases form with
  | strip fid =>
    have hres : Flight.resolve flights' fid = Flight.resolve flights fid := h
    rw [window?, hres]; rfl
  | _ => rfl

theorem effect_posting (posting : Bool) :
    form.effect resolver { context with manualPosting := posting } flights = form.effect resolver context flights := by
  cases form <;> rfl

theorem effect_congr (h : form.addressee? flights' = form.addressee? flights) :
    form.effect resolver context flights' = form.effect resolver context flights := by
  funext g
  rw [effect, effect, target_congr h]

theorem addressee?_of_target (h : form.target resolver context flights = some f) :
    form.addressee? flights = some f := by
  obtain ⟨fid, hfid, hres⟩ := target_resolves h
  rw [addressee?, hfid]
  exact hres

/-- **A flight that a form is not about is left as it is**, also when it was changed in the meantime. -/
theorem effect_of_ne (hdistinct : DistinctIds flights) (hform : form ≠ cleanUpAcl) {g g' : Flight} (hg : g ∈ flights)
    (hne : form.addressee? flights ≠ some g) (hid : g'.aircraftId = g.aircraftId) :
    form.effect resolver context flights g' = g' := by
  rw [effect, if_neg hform, if_neg]
  intro htarget
  obtain ⟨e, he, heid⟩ := (Option.any_eq_true _ _).1 htarget
  have heg : e = g := hdistinct.eq_of_mem (target_mem he) hg ((eq_of_beq heid).trans hid)
  exact hne (heg ▸ addressee?_of_target he)

end Form

/-! ## Two messages -/

namespace Message

variable {s : Store} {a b m : Message} {flights : List Flight} {f : Flight}

theorem addresses_iff (hverb : m.command.verb ≠ "FR") :
    m.Addresses flights f ↔ m.form.addressee? flights = some f := by
  constructor
  · intro h
    cases h with
    | vci hv ha hres => rw [form_eq, Command.form_vci hv, ha]; exact hres
    | highlight hv ha hres => rw [form_eq, Command.form_list hv, ha]; exact hres
    | add hv ha hno hres => rw [form_eq, Command.form_list hv, Command.listForm_eq_addFlight_iff.2 ⟨ha, hno⟩]; exact hres
    | clear hv ha hres => rw [form_eq, Command.form_clear hv, ha]; exact hres
    | strip hv ha hres => rw [form_eq, Command.form_strip hv, ha]; exact hres
  · obtain ⟨form, verb, args, hform, hv, hargs, h⟩ := m.exists_typedAs
    rw [hform]
    intro haddressee
    obtain ⟨fid, hfid, hres⟩ := Option.bind_eq_some_iff.1 haddressee
    cases h with
    | toggleVci => exact .vci hv (hargs ▸ hfid) hres
    | addFlight hno => cases hfid; exact .add hv hargs hno hres
    | highlight => cases hfid; exact .highlight hv hargs hres
    | clearDirect => cases hfid; exact .clear hv hargs hres
    | readout => exact absurd hv hverb
    | strip => cases hfid; exact .strip hv hargs hres
    | _ => cases hfid

theorem Movable.form_ne_cleanUpAcl (h : m.Movable) : m.form ≠ .cleanUpAcl := fun hform => h.2.1 (cleansUp_iff.2 hform)

theorem Movable.form_ne_closeWindows (h : m.Movable) : m.form ≠ .closeWindows := fun hform =>
  h.1 (closesWindows_iff.2 hform)

theorem flights_perform (h : DistinctIds s.flights) (m : Message) :
    (perform s m).flights = s.flights.map (m.form.effect m.interpreter.resolver m.context s.flights) := by
  rw [perform, flights_step h, readAt, ← Form.effect_posting s.manualPosting]
  rfl

/-- **A message leaves alone what another one is about.** -/
theorem addressee?_perform (h : DistinctIds s.flights) (ha : a.Movable)
    (hab : ∀ f, ¬(a.form.addressee? s.flights = some f ∧ b.form.addressee? s.flights = some f)) :
    b.form.addressee? (perform s a).flights = b.form.addressee? s.flights := by
  rw [flights_perform h, Form.addressee?, Form.addressee?]
  cases hfid : b.form.fid? with
  | none => rfl
  | some fid =>
    rw [Option.bind_some, Option.bind_some, Flight.resolve_map a.form.kept_effect]
    cases hres : Flight.resolve s.flights fid with
    | none => rfl
    | some f =>
      have hb : b.form.addressee? s.flights = some f := by rw [Form.addressee?, hfid]; exact hres
      have hne : a.form.addressee? s.flights ≠ some f := fun ha => hab f ⟨ha, hb⟩
      rw [Option.map_some, Form.effect_of_ne h ha.form_ne_cleanUpAcl (Flight.mem_of_resolve hres) hne rfl]

/-- **The answer to a message does not depend on another one before it**, unless both toggle manual posting. -/
theorem answerAt_perform (hb : b.Movable) (hposting : ¬(a.TogglesPosting ∧ b.TogglesPosting))
    (haddressee : b.form.addressee? (perform s a).flights = b.form.addressee? s.flights) :
    b.answerAt (perform s a) = b.answerAt s := by
  have hanswer : ∀ t, b.answerAt t =
      b.form.answer b.interpreter.resolver b.command.raw t.flights { b.context with manualPosting := t.manualPosting } :=
    fun t => (b.readAt t).response_eq t
  rw [hanswer, hanswer, Form.answer_congr hb.form_ne_cleanUpAcl haddressee]
  by_cases htoggle : b.form = .togglePosting
  · have hno : ¬a.TogglesPosting := fun ha => hposting ⟨ha, togglesPosting_iff.2 htoggle⟩
    rw [manualPosting_perform, decide_eq_false hno, Bool.xor_false]
  · exact (Form.answer_posting htoggle _ _).trans (Form.answer_posting htoggle _ _).symm

theorem flights_perform_comm (h : DistinctIds s.flights) (ha : a.Movable) (hb : b.Movable)
    (hab : ∀ f, ¬(a.form.addressee? s.flights = some f ∧ b.form.addressee? s.flights = some f)) :
    (perform (perform s a) b).flights = (perform (perform s b) a).flights := by
  have hdistinct : ∀ m, DistinctIds (perform s m).flights := fun m => (step_footprint h (m.readAt s)).distinct
  have hba := addressee?_perform h ha hab
  have hab' := addressee?_perform h hb fun f hf => hab f hf.symm
  rw [flights_perform (hdistinct a), flights_perform (hdistinct b), Form.effect_congr hba, Form.effect_congr hab',
    flights_perform h, flights_perform h, List.map_map, List.map_map]
  refine List.map_congr_left fun g hg => ?_
  rw [Function.comp_apply, Function.comp_apply]
  -- a flight is not the addressee of both, so one of the two leaves it alone, whether it comes first or second
  by_cases hone : a.form.addressee? s.flights = some g
  · have hother : b.form.addressee? s.flights ≠ some g := fun hb => hab g ⟨hone, hb⟩
    rw [Form.effect_of_ne h hb.form_ne_cleanUpAcl hg hother rfl,
      Form.effect_of_ne h hb.form_ne_cleanUpAcl hg hother (Form.effect_aircraftId _ _)]
  · rw [Form.effect_of_ne h ha.form_ne_cleanUpAcl hg hone rfl,
      Form.effect_of_ne h ha.form_ne_cleanUpAcl hg hone (Form.effect_aircraftId _ _)]

theorem windows_perform_comm (ha : a.Movable) (hb : b.Movable)
    (hba : b.form.addressee? (perform s a).flights = b.form.addressee? s.flights)
    (hab : a.form.addressee? (perform s b).flights = a.form.addressee? s.flights) :
    (perform (perform s a) b).windows = (perform (perform s b) a).windows := by
  have hopen : ∀ {m : Message} (t : Store), m.Movable →
      (perform t m).windows = (m.form.window? t.flights).elim t.windows t.windows.insert :=
    fun t hm => (windows_perform t _).trans (if_neg hm.form_ne_closeWindows)
  rw [hopen _ hb, hopen _ ha, hopen _ ha, hopen _ hb, Form.window?_congr hba, Form.window?_congr hab]
  cases a.form.window? s.flights with
  | none => rfl
  | some w =>
    cases b.form.window? s.flights with
    | none => rfl
    | some w' => exact NameSet.insert_comm s.windows w w'

/-- **Messages that address different flights may be typed in either order**: the store afterwards is the same, and so
are the answers, except that manual posting is reported as it stands. -/
theorem perform_comm (h : DistinctIds s.flights) (ha : a.Movable) (hb : b.Movable)
    (hab : ∀ f, ¬(a.Addresses s.flights f ∧ b.Addresses s.flights f)) :
    perform (perform s a) b = perform (perform s b) a ∧
      (¬(a.TogglesPosting ∧ b.TogglesPosting) →
        a.answerAt (perform s b) = a.answerAt s ∧ b.answerAt (perform s a) = b.answerAt s) := by
  simp only [addresses_iff ha.2.2, addresses_iff hb.2.2] at hab
  have hba := addressee?_perform h ha hab
  have hab' := addressee?_perform h hb fun f hf => hab f hf.symm
  have hreadout : ∀ {m : Message} (t : Store), m.Movable → (perform t m).readout = t.readout := fun t hm =>
    readout_perform_of_not_shows t _ fun ⟨_, _, _, hverb, _⟩ => hm.2.2 hverb
  constructor
  · refine Store.ext (flights_perform_comm h ha hb hab) (windows_perform_comm ha hb hba hab') ?_ ?_ ?_ ?_
    · rw [manualPosting_perform, manualPosting_perform, manualPosting_perform, manualPosting_perform, Bool.xor_right_comm]
    · simp only [altimeterWatch_perform]
      exact NameSet.foldl_toggle_comm _ _ _
    · simp only [weatherWatch_perform]
      exact NameSet.foldl_toggle_comm _ _ _
    · rw [hreadout _ hb, hreadout _ ha, hreadout _ ha, hreadout _ hb]
  · intro hposting
    exact ⟨answerAt_perform ha (fun hp => hposting hp.symm) hab', answerAt_perform hb hposting hba⟩

theorem perform_comm_of_two_flights :
    (∀ f, ¬(Addresses ⟨⟨none⟩, ⟨false, "ZOA", .epoch, .ofSeconds 300⟩, "//N1"⟩
        [{ aircraftId := "N1" }, { aircraftId := "N2" }] f ∧
      Addresses ⟨⟨none⟩, ⟨false, "ZOA", .epoch, .ofSeconds 300⟩, "UU N2"⟩
        [{ aircraftId := "N1" }, { aircraftId := "N2" }] f)) ∧
    perform (perform (.ofFlights [{ aircraftId := "N1" }, { aircraftId := "N2" }])
        ⟨⟨none⟩, ⟨false, "ZOA", .epoch, .ofSeconds 300⟩, "//N1"⟩)
        ⟨⟨none⟩, ⟨false, "ZOA", .epoch, .ofSeconds 300⟩, "UU N2"⟩ =
      perform (perform (.ofFlights [{ aircraftId := "N1" }, { aircraftId := "N2" }])
        ⟨⟨none⟩, ⟨false, "ZOA", .epoch, .ofSeconds 300⟩, "UU N2"⟩)
        ⟨⟨none⟩, ⟨false, "ZOA", .epoch, .ofSeconds 300⟩, "//N1"⟩ := by
  have hvci : (Command.parse "//N1").verb = "//" ∧ (Command.parse "//N1").args = ["N1"] := by decide +kernel
  have hlist : (Command.parse "UU N2").verb = "UU" ∧ (Command.parse "UU N2").args = ["N2"] := by decide +kernel
  have ha : Movable ⟨⟨none⟩, ⟨false, "ZOA", .epoch, .ofSeconds 300⟩, "//N1"⟩ := by
    simp [Movable, ClosesWindows, CleansUp, command, hvci.1]
  have hb : Movable ⟨⟨none⟩, ⟨false, "ZOA", .epoch, .ofSeconds 300⟩, "UU N2"⟩ := by
    simp [Movable, ClosesWindows, CleansUp, command, hlist.1, hlist.2]
  have hab : ∀ f, ¬(Addresses ⟨⟨none⟩, ⟨false, "ZOA", .epoch, .ofSeconds 300⟩, "//N1"⟩
        [{ aircraftId := "N1" }, { aircraftId := "N2" }] f ∧
      Addresses ⟨⟨none⟩, ⟨false, "ZOA", .epoch, .ofSeconds 300⟩, "UU N2"⟩
        [{ aircraftId := "N1" }, { aircraftId := "N2" }] f) := by
    rintro f ⟨hfirst, hsecond⟩
    have hone := (addresses_iff (by simp [command, hvci.1])).1 hfirst
    have htwo := (addresses_iff (by simp [command, hlist.1])).1 hsecond
    rw [form_eq, command, Command.form_vci hvci.1, hvci.2] at hone
    rw [form_eq, command, Command.form_list hlist.1, hlist.2] at htwo
    have hname : "N1" = f.aircraftId := congrArg Flight.aircraftId (Option.some.inj hone)
    have hname' : "N2" = f.aircraftId := congrArg Flight.aircraftId (Option.some.inj htwo)
    exact absurd (hname.trans hname'.symm) (by decide)
  exact ⟨hab, (perform_comm (by decide) ha hb hab).1⟩

end Message
end Clearance
