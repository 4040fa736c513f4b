import Clearance.Proofs.Store.Desk
/-!
# Flags — VCI marks and highlighting along a run

`//` and `UU H` turn a flag of one flight over, but what they write is the value that they worked out from the flights
as they were.  `run_flags` says that nothing is lost by that: along a run each flag is turned over once for each message
that was about it, and by no other message.
-/
namespace Clearance

open History

/-- The three flags that messages turn over. -/
def Flight.flags (f : Flight) : Bool × Bool × Bool := (f.vci, f.aclHighlighted, f.depHighlighted)

namespace Form

def turnsOver : Form → Bool
  | toggleVci _ | highlight _ => true
  | _ => false

def marked? (flights : List Flight) : Form → Option Flight
  | toggleVci fid => fid.bind (Flight.resolve flights)
  | _ => none

/-- The flight that a form highlights, or ceases to highlight, on the lists that show it. -/
def highlighted? (flights : List Flight) : Form → Option Flight
  | highlight fid => Flight.resolve flights fid
  | _ => none

end Form

namespace Message

/-- The flight that `//` is typed for. -/
def marked? (m : Message) (s : Store) : Option Flight :=
  if m.command.verb = "//" then m.command.args.head?.bind (Flight.resolve s.flights) else none

/-- The flight that `UU H` is typed for. -/
def highlighted? (m : Message) (s : Store) : Option Flight :=
  if m.command.verb = "UU" then match m.command.args with
    | ["H", fid] => Flight.resolve s.flights fid
    | _ => none
  else none

/-- Whether a message is `//` for the flight with this identification. -/
def marks (id : String) (s : Store) (m : Message) : Bool := (m.marked? s).any (·.aircraftId == id)

/-- Whether a message is `UU H` for the flight with this identification, at a moment when a list shows it. -/
def highlights (shown : Flight → Bool) (id : String) (s : Store) (m : Message) : Bool :=
  (m.highlighted? s).any fun f => f.aircraftId == id && shown f

/-- The message is `//`, or `UU H` with a flight identifier. -/
def TurnsOver (m : Message) : Prop :=
  m.command.verb = "//" ∨ m.command.verb = "UU" ∧ ∃ fid, m.command.args = ["H", fid]

end Message

/-- What messages leave of the flags of a flight: `g` is the flight after them. -/
structure FlagsAfter (s : Store) (messages : List Message) (f g : Flight) : Prop where
  aircraftId : g.aircraftId = f.aircraftId
  vci : g.vci = not^[count Message.step (Message.marks f.aircraftId) s messages] f.vci
  acl : g.aclHighlighted =
    not^[count Message.step (Message.highlights (·.aclDisplay) f.aircraftId) s messages] f.aclHighlighted
  dep : g.depHighlighted =
    not^[count Message.step (Message.highlights (·.depDisplay) f.aircraftId) s messages] f.depHighlighted

/-- Along all runs from a store, the flags follow the messages that turn them over. -/
structure FlagsFollow (s : Store) : Prop where
  parity : ∀ messages, ∀ f ∈ s.flights, ∃ g ∈ (Message.run s messages).flights, FlagsAfter s messages f g
  twice : ∀ before m m', m.TurnsOver → m'.command.verb = m.command.verb → m'.command.args = m.command.args →
    Message.run s (before ++ [m, m']) = Message.run s before
  unlisted : ∀ before (m : Message) (f : Flight), m.highlighted? (Message.run s before) = some f →
    f.aclDisplay = false → f.depDisplay = false → (m.response (Message.run s before)).intents = []
  others : ∀ before m, ¬m.TurnsOver →
    (Message.run s (before ++ [m])).flights.map Flight.flags = (Message.run s before).flights.map Flight.flags

/-! ## Forms -/

namespace Form

variable {resolver : Option FrdResolver} {context : Context} {flights : List Flight} {form : Form} {g : Flight}

theorem flags_effect_of_ne (hform : form ≠ cleanUpAcl) : (form.effect resolver context flights g).flags =
    bif (form.target resolver context flights).any (·.aircraftId == g.aircraftId) then (form.change g).flags
    else g.flags := by
  rw [effect, if_neg hform, Bool.cond_eq_ite]
  split <;> rfl

/-- **A form turns over the flags of the flight that it is for**, its highlights where a list shows it. -/
theorem flags_effect (form : Form) (g : Flight) : (form.effect resolver context flights g).flags =
    (g.vci ^^ (form.marked? flights).any (·.aircraftId == g.aircraftId),
      g.aclHighlighted ^^ ((form.highlighted? flights).any (·.aircraftId == g.aircraftId) && g.aclDisplay),
      g.depHighlighted ^^ ((form.highlighted? flights).any (·.aircraftId == g.aircraftId) && g.depDisplay)) := by
  by_cases hform : form = cleanUpAcl
  · subst hform
    simp only [effect, if_true, marked?, highlighted?]
    cases g.isExpired context <;> simp [Flight.flags]
  · rw [flags_effect_of_ne hform]
    cases form with
    | toggleVci fid =>
      simp only [target, marked?, highlighted?]
      cases (fid.bind (Flight.resolve flights)).any (·.aircraftId == g.aircraftId) <;> simp [change, Flight.flags]
    | highlight fid =>
      simp only [target, marked?, highlighted?]
      cases (Flight.resolve flights fid).any (·.aircraftId == g.aircraftId) with
      | false => simp [Flight.flags]
      | true => cases hacl : g.aclDisplay <;> cases hdep : g.depDisplay <;> simp [change, Flight.flags, hacl, hdep]
    | clearDirect fix fid =>
      have hchange : ((clearDirect fix fid).change g).flags = g.flags := by
        rw [change, Flight.clearedTo]
        cases Direct.ofFlight? g fix <;> rfl
      rw [hchange, Bool.cond_self]
      simp [marked?, highlighted?, Flight.flags]
    | _ => simp [change, marked?, highlighted?, Flight.flags, Store.showOnAcl]

theorem flags_effect_of_not_turnsOver (hform : form.turnsOver = false) (g : Flight) :
    (form.effect resolver context flights g).flags = g.flags := by
  rw [flags_effect]
  cases form with
  | toggleVci fid | highlight fid => cases hform
  | _ => simp [marked?, highlighted?, Flight.flags]

theorem change_change (hform : form.turnsOver) (g : Flight) : form.change (form.change g) = g := by
  have hback : ∀ on b : Bool, (if on then !(if on then !b else b) else if on then !b else b) = b := by decide
  -- a flight with its own highlights is that flight, so the two fields may be taken one by one
  have hset : ∀ acl dep, acl = g.aclHighlighted → dep = g.depHighlighted →
      { g with aclHighlighted := acl, depHighlighted := dep } = g := by
    rintro _ _ rfl rfl
    rfl
  cases form with
  | toggleVci fid => simp only [change, Bool.not_not]
  | highlight fid => exact hset _ _ (hback _ _) (hback _ _)
  | _ => cases hform

theorem target_map {change : Flight → Flight} (hkept : ∀ f, (change f).kept = f.kept) (hform : form.turnsOver)
    (resolver resolver' : Option FrdResolver) (context context' : Context) :
    form.target resolver' context' (flights.map change) = (form.target resolver context flights).map change := by
  cases form with
  | toggleVci fid =>
    cases fid with
    | none => rfl
    | some fid => exact Flight.resolve_map hkept flights fid
  | highlight fid => exact Flight.resolve_map hkept flights fid
  | _ => cases hform

/-- **A form that turns flags over finds the same flight again and turns them back.** -/
theorem effect_effect (hform : form.turnsOver) (resolver' : Option FrdResolver) (context' : Context) (g : Flight) :
    form.effect resolver' context' (flights.map (form.effect resolver context flights))
      (form.effect resolver context flights g) = g := by
  have hne : form ≠ cleanUpAcl := by
    rintro rfl
    cases hform
  -- identifications stay as they are, so the same flights are found to be the target
  have hagain : (form.target resolver' context' (flights.map (form.effect resolver context flights))).any
        (·.aircraftId == (form.effect resolver context flights g).aircraftId) =
      (form.target resolver context flights).any (·.aircraftId == g.aircraftId) := by
    rw [target_map form.kept_effect hform resolver resolver' context context', Option.any_map]
    simp only [effect_aircraftId]
  rw [effect, if_neg hne, hagain, effect, if_neg hne]
  split
  · exact change_change hform g
  · rfl

theorem highlighted?_mem (hg : form.highlighted? flights = some g) : g ∈ flights := by
  cases form with
  | highlight fid => exact Flight.mem_of_resolve hg
  | _ => cases hg

end Form

/-! ## Messages -/

namespace Message

variable {s : Store} {m m' : Message} {f g : Flight}

theorem marked?_eq (m : Message) (s : Store) : m.marked? s = m.form.marked? s.flights := by
  obtain ⟨form, verb, args, hform, hverb, hargs, h⟩ := m.exists_typedAs
  rw [marked?, hform, hverb, hargs]
  cases h with
  | unknown args hno => rw [if_neg fun hv => hno (by rw [hv]; decide)]; rfl
  | _ => rfl

theorem highlighted?_eq (m : Message) (s : Store) : m.highlighted? s = m.form.highlighted? s.flights := by
  obtain ⟨form, verb, args, hform, hverb, hargs, h⟩ := m.exists_typedAs
  rw [highlighted?, hform, hverb, hargs]
  cases h with
  | unknown args hno => rw [if_neg fun hv => hno (by rw [hv]; decide)]; rfl
  | addFlight =>
    rw [if_pos rfl]
    split
    · rename_i heq
      cases heq
    · rfl
  | noList _ hno =>
    rw [if_pos rfl]
    split
    · exact absurd rfl (hno _)
    · rfl
  | _ => rfl

theorem turnsOver_iff : m.TurnsOver ↔ m.form.turnsOver = true := by
  obtain ⟨form, verb, args, hform, hverb, hargs, h⟩ := m.exists_typedAs
  rw [TurnsOver, hform, hverb, hargs]
  cases h <;> grind [Command.verbs, Form.turnsOver]

theorem marks_eq (m : Message) (s : Store) (id : String) :
    m.marks id s = (m.form.marked? s.flights).any (·.aircraftId == id) := by
  rw [marks, marked?_eq]

/-- Whether the flight is shown may be asked of the store, since only one flight has its identification. -/
theorem highlights_eq (h : DistinctIds s.flights) (hf : f ∈ s.flights) (m : Message) (shown : Flight → Bool) :
    m.highlights shown f.aircraftId s =
      ((m.form.highlighted? s.flights).any (·.aircraftId == f.aircraftId) && shown f) := by
  rw [highlights, highlighted?_eq]
  cases hg : m.form.highlighted? s.flights with
  | none => rfl
  | some g =>
    rw [Option.any_some, Option.any_some]
    by_cases hid : g.aircraftId = f.aircraftId
    · have hmem : g ∈ s.flights := Form.highlighted?_mem hg
      rw [h.eq_of_mem hmem hf hid]
    · rw [beq_eq_false_iff_ne.2 hid, Bool.false_and, Bool.false_and]

/-- **One message turns over the flags that it is about.** -/
theorem flags_step (h : DistinctIds s.flights) (hf : f ∈ s.flights) (m : Message) :
    ∃ g ∈ (step s m).flights, g.aircraftId = f.aircraftId ∧ g.flags =
      (f.vci ^^ m.marks f.aircraftId s, f.aclHighlighted ^^ m.highlights (·.aclDisplay) f.aircraftId s,
        f.depHighlighted ^^ m.highlights (·.depDisplay) f.aircraftId s) := by
  refine ⟨m.form.effect m.interpreter.resolver m.context s.flights f, ?_, m.form.effect_aircraftId f, ?_⟩
  · rw [Message.flights_step h]
    exact List.mem_map_of_mem hf
  · rw [Form.flags_effect, marks_eq, highlights_eq h hf, highlights_eq h hf]

theorem step_of_turnsOver (hm : m.TurnsOver) : step s m = { s with flights := (step s m).flights } := by
  have hdesk : m.form.atDesk m.context s = s := by
    have hform := turnsOver_iff.1 hm
    generalize m.form = form at hform
    cases form with
    | toggleVci fid | highlight fid => rfl
    | _ => cases hform
  rw [step_eq_atDesk, hdesk]

/-- **A command that turns flags over, given twice, restores the store.** -/
theorem step_step (h : DistinctIds s.flights) (hm : m.TurnsOver) (hverb : m'.command.verb = m.command.verb)
    (hargs : m'.command.args = m.command.args) : step (step s m) m' = s := by
  have hform : m'.form = m.form := by rw [form_eq, form_eq, Command.form, Command.form, hverb, hargs]
  have hm' : m'.TurnsOver := turnsOver_iff.2 (hform ▸ turnsOver_iff.1 hm)
  have hflights : (step (step s m) m').flights = s.flights := by
    rw [Message.flights_step (distinct_step s m h), Message.flights_step h, List.map_map, hform]
    exact (List.map_congr_left fun g _ => Form.effect_effect (turnsOver_iff.1 hm) _ _ g).trans (List.map_id _)
  rw [step_of_turnsOver hm', hflights, step_of_turnsOver hm]

theorem intents_of_unlisted (hf : m.highlighted? s = some f) (hacl : f.aclDisplay = false)
    (hdep : f.depDisplay = false) : (m.response s).intents = [] := by
  rw [highlighted?_eq] at hf
  rw [response_eq]
  generalize m.form = form at hf
  cases form with
  | highlight fid =>
    rw [Form.highlighted?] at hf
    rw [Form.answer, hf, Option.elim_some]
    simp only [hacl, hdep]
    rfl
  | _ => cases hf

theorem flags_step_of_not_turnsOver (h : DistinctIds s.flights) (hm : ¬m.TurnsOver) :
    (step s m).flights.map Flight.flags = s.flights.map Flight.flags := by
  rw [turnsOver_iff, Bool.not_eq_true] at hm
  rw [Message.flights_step h, List.map_map]
  exact List.map_congr_left fun f _ => Form.flags_effect_of_not_turnsOver hm f

/-! ## Runs -/

theorem parity_run : ∀ (messages : List Message) {s : Store}, DistinctIds s.flights → ∀ f ∈ s.flights,
    ∃ g ∈ (run s messages).flights, FlagsAfter s messages f g
  | [], _, _, f, hf => ⟨f, hf, rfl, rfl, rfl, rfl⟩
  | m :: messages, s, h, f, hf => by
    -- `e` is the flight after `m`; the rest of the run counts from there
    obtain ⟨e, he, hid, hflags⟩ := flags_step h hf m
    obtain ⟨hvci, hlists⟩ := Prod.ext_iff.1 hflags
    obtain ⟨hacl, hdep⟩ := Prod.ext_iff.1 hlists
    simp only [Flight.flags] at hvci hacl hdep
    obtain ⟨g, hg, hafter⟩ := parity_run messages (distinct_step s m h) e he
    refine ⟨g, hg, hafter.aircraftId.trans hid, ?_, ?_, ?_⟩
    · rw [hafter.vci, hvci, hid, iterate_count_cons]
    · rw [hafter.acl, hacl, hid, iterate_count_cons]
    · rw [hafter.dep, hdep, hid, iterate_count_cons]

/-- **Flags are turned over once for each message that is about them**, and by no other message. -/
theorem run_flags (h : DistinctIds s.flights) : FlagsFollow s where
  parity messages := parity_run messages h
  twice before m m' hm hverb hargs := by
    rw [run, List.foldl_append]
    exact step_step (distinct_run h before) hm hverb hargs
  unlisted _ _ _ := intents_of_unlisted
  others before m hm := by
    rw [run, List.foldl_append]
    exact flags_step_of_not_turnsOver (distinct_run h before) hm

theorem run_flags_of_two_flights :
    DistinctIds (Store.ofFlights [{ aircraftId := "N1", aclDisplay := true }, { aircraftId := "N2" }]).flights ∧
    FlagsFollow (.ofFlights [{ aircraftId := "N1", aclDisplay := true }, { aircraftId := "N2" }]) := by
  refine ⟨?_, run_flags ?_⟩ <;> decide

end Message
end Clearance
