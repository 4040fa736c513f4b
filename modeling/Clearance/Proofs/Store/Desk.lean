import Mathlib.Algebra.Ring.Parity
import Clearance.Proofs.Store.Footprint
import Clearance.Proofs.Store.History
/-!
# Desk — windows, watches, posting and readout along a run

What a store holds besides its flights depends on the messages that were typed, and on no more of the flights than
which one a strip or a readout is about.  `performAll_desk` gives each of the five after a run: the stations by how
often they were mentioned, manual posting by how often it was toggled, the windows by what was opened since they were
closed, and the readout by the last one that was asked for.
-/
namespace Clearance

open History

namespace Form

def altimeterStations : Form → List String
  | altimeter stations => stations
  | _ => []

def weatherStations : Form → List String
  | weather stations => stations
  | _ => []

/-- The window that a form opens, if it opens one. -/
def window? (flights : List Flight) : Form → Option String
  | openAcl | togglePosting => some "ACL"
  | openDep => some "DEP"
  | altimeter _ => some "ALTIMETER"
  | weather _ => some "METAR"
  | strip fid => (Flight.resolve flights fid).map fun f => "STRIP " ++ f.aircraftId
  | _ => none

/-- The readout that a form shows, if it shows one. -/
def shown? (flights : List Flight) (context : Context) : Form → Option String
  | readout fid => (Flight.resolve flights fid).map fun f => f.readout context.now
  | _ => none

/-- What a form does to a store, its flights left aside. -/
def atDesk (context : Context) (form : Form) (s : Store) : Store :=
  { s with
    windows := if form = closeWindows then .empty else (form.window? s.flights).elim s.windows s.windows.insert
    manualPosting := if form = togglePosting then !context.manualPosting else s.manualPosting
    altimeterWatch := form.altimeterStations.foldl NameSet.toggle s.altimeterWatch
    weatherWatch := form.weatherStations.foldl NameSet.toggle s.weatherWatch
    readout := form.shown? s.flights context <|> s.readout }

end Form

namespace Message

def command (m : Message) : Command := Command.parse m.text

/-- The message as it is interpreted at a store, which knows whether posting is manual. -/
def readAt (m : Message) (s : Store) : Message :=
  { m with context := { m.context with manualPosting := s.manualPosting } }

/-- The answer that a message gets at a store. -/
def answerAt (m : Message) (s : Store) : Response := (m.readAt s).response s

def perform (s : Store) (m : Message) : Store := step s (m.readAt s)

/-- The store after messages, each interpreted and carried out at the store that the ones before it left. -/
def performAll (s : Store) (messages : List Message) : Store := messages.foldl perform s

/-- How often messages with this verb mention a station. -/
def mentions (verb station : String) (messages : List Message) : Nat :=
  (messages.map fun m => if m.command.verb = verb then m.command.args.count station else 0).sum

def TogglesPosting (m : Message) : Prop := m.command.verb = "UU" ∧ m.command.args = ["P"]

instance (m : Message) : Decidable m.TogglesPosting :=
  inferInstanceAs (Decidable (m.command.verb = "UU" ∧ m.command.args = ["P"]))

def ClosesWindows (m : Message) : Prop := m.command.verb = "UU" ∧ m.command.args = ["X"]

/-- The windows that a message opens. -/
inductive Opens (m : Message) (s : Store) : String → Prop where
  | acl : m.command.verb = "UU" → m.command.args = [] ∨ m.command.args = ["P"] → Opens m s "ACL"
  | dep : m.command.verb = "UU" → m.command.args = ["D"] → Opens m s "DEP"
  | altimeter : m.command.verb = "QD" → m.command.args ≠ [] → Opens m s "ALTIMETER"
  | weather : m.command.verb = "WR" → m.command.args ≠ [] → Opens m s "METAR"
  | strip {fid : String} {f : Flight} : m.command.verb = "SR" → m.command.args = [fid] →
      Flight.resolve s.flights fid = some f → Opens m s ("STRIP " ++ f.aircraftId)

/-- The message is a readout of one flight, whose text this is. -/
def Shows (m : Message) (s : Store) (text : String) : Prop :=
  ∃ fid f, m.command.verb = "FR" ∧ m.command.args = [fid] ∧ Flight.resolve s.flights fid = some f ∧
    f.readout m.context.now = text

def ShowsReadout (s : Store) (m : Message) : Prop := ∃ text, m.Shows s text

end Message

/-- What a run of messages leaves at a desk: `t` is the store after it. -/
structure DeskAfter (s : Store) (messages : List Message) (t : Store) : Prop where
  altimeter : ∀ station, station ∈ t.altimeterWatch ↔
    Xor (station ∈ s.altimeterWatch) (Odd (Message.mentions "QD" station messages))
  weather : ∀ station, station ∈ t.weatherWatch ↔
    Xor (station ∈ s.weatherWatch) (Odd (Message.mentions "WR" station messages))
  posting : t.manualPosting = (s.manualPosting ^^ decide (Odd (messages.countP (decide ·.TogglesPosting))))
  windows : ∀ w, w ∈ t.windows ↔ (w ∈ s.windows ∧ ∀ m ∈ messages, ¬m.ClosesWindows) ∨
    ∃ before m after, messages = before ++ m :: after ∧ m.Opens (Message.performAll s before) w ∧
      ∀ m' ∈ after, ¬m'.ClosesWindows
  readoutShown : ∀ u m, Last Message.perform Message.ShowsReadout s messages u m →
    ∃ text, m.Shows u text ∧ t.readout = some text
  readoutKept : Never Message.perform Message.ShowsReadout s messages → t.readout = s.readout

/-! ## One message -/

namespace Store

theorem applyAll_of_flights : ∀ {is : List Intent} {s : Store},
    (∀ i ∈ is, ∀ s : Store, s.apply i = { s with flights := (s.apply i).flights }) →
    s.applyAll is = { s with flights := (s.applyAll is).flights }
  | [], _, _ => rfl
  | i :: is, s, h => by
    rw [applyAll_cons, applyAll_of_flights fun j hj => h j (List.mem_cons_of_mem i hj), h i List.mem_cons_self s]

/-- **What the answer to a form does to a store besides its flights** is what the form does at the desk. -/
theorem applyAll_answer (resolver : Option FrdResolver) (raw : String) (context : Context) (s : Store) (form : Form) :
    s.applyAll (form.answer resolver raw s.flights context).intents =
      { form.atDesk context s with
        flights := (s.applyAll (form.answer resolver raw s.flights context).intents).flights } := by
  cases form with
  | toggleVci fid =>
    simp only [Form.answer]
    cases fid.bind (Flight.resolve s.flights) with
    | none => rfl
    | some f => exact applyAll_mutation (s := s) (f := f) { vci := some !f.vci } ▸ rfl
  | highlight fid =>
    simp only [Form.answer]
    cases Flight.resolve s.flights fid with
    | none => rfl
    | some f => exact applyAll_mutation (s := s) (f := f) _ ▸ rfl
  | cleanUpAcl =>
    refine applyAll_of_flights fun i hi t => ?_
    obtain ⟨f, -, rfl⟩ := List.mem_map.1 hi
    rfl
  | addFlight fid =>
    have hstep : s.applyAll ((Form.addFlight fid).answer resolver raw s.flights context).intents =
        s.apply (.addFlight fid) := rfl
    rw [hstep, apply]
    cases Flight.resolve s.flights fid <;> rfl
  | clearDirect fix fid =>
    simp only [Form.answer]
    rcases Form.clearance_cases resolver s.flights context fix fid with ⟨-, hr⟩ | ⟨-, f, d, -, -, -, hr⟩
    · rw [hr]; rfl
    · rw [hr]; rfl
  | readout fid | strip fid =>
    simp only [Form.answer, Form.atDesk, Form.window?, Form.shown?]
    cases Flight.resolve s.flights fid <;> rfl
  | _ => rfl

end Store

theorem xor_odd_add (p : Prop) (a b : Nat) : Xor p (Odd (a + b)) ↔ Xor (Xor p (Odd a)) (Odd b) := by
  rw [Nat.odd_add, ← Nat.not_odd_iff_even]
  grind

theorem NameSet.mem_empty {n : String} : ¬n ∈ NameSet.empty := List.not_mem_nil

/-- **A name that is toggled again and again** is in the set by the parity of how often it was. -/
theorem NameSet.mem_foldl_toggle {n : String} : ∀ (stations : List String) (s : NameSet),
    n ∈ stations.foldl toggle s ↔ Xor (n ∈ s) (Odd (stations.count n))
  | [], s => by simp [Xor]
  | station :: stations, s => by
    rw [List.foldl_cons, mem_foldl_toggle stations, mem_toggle, List.count_cons]
    by_cases h : n = station
    · subst h
      rw [if_pos rfl, beq_self_eq_true, if_pos rfl, Nat.odd_add_one, xor_not_right, xor_not_left]
    · have hne : (station == n) = false := beq_eq_false_iff_ne.2 (Ne.symm h)
      simp [h, hne]

namespace Message

variable {s : Store} {m : Message} {w : String}

theorem step_eq_atDesk (s : Store) (m : Message) :
    step s m = { m.form.atDesk m.context s with flights := (step s m).flights } := by
  rw [step_eq]
  exact Store.applyAll_answer _ _ _ _ _

theorem perform_eq (s : Store) (m : Message) :
    perform s m = { m.form.atDesk (m.readAt s).context s with flights := (perform s m).flights } :=
  step_eq_atDesk s (m.readAt s)

theorem form_eq (m : Message) : m.form = m.command.form := rfl

theorem form_typedAs (m : Message) : m.form.TypedAs m.command.verb m.command.args := m.command.typedAs_form

theorem exists_typedAs (m : Message) :
    ∃ form verb args, m.form = form ∧ m.command.verb = verb ∧ m.command.args = args ∧ Form.TypedAs form verb args :=
  ⟨m.form, m.command.verb, m.command.args, rfl, rfl, rfl, m.form_typedAs⟩

theorem altimeterStations_form (m : Message) :
    m.form.altimeterStations = if m.command.verb = "QD" then m.command.args else [] := by
  obtain ⟨form, verb, args, hform, hverb, hargs, h⟩ := m.exists_typedAs
  rw [hform, hverb, hargs]
  cases h with
  | unknown args hno => rw [if_neg fun hv => hno (by rw [hv]; decide)]; rfl
  | _ => rfl

theorem weatherStations_form (m : Message) :
    m.form.weatherStations = if m.command.verb = "WR" then m.command.args else [] := by
  obtain ⟨form, verb, args, hform, hverb, hargs, h⟩ := m.exists_typedAs
  rw [hform, hverb, hargs]
  cases h with
  | unknown args hno => rw [if_neg fun hv => hno (by rw [hv]; decide)]; rfl
  | _ => rfl

theorem togglesPosting_iff : m.TogglesPosting ↔ m.form = .togglePosting := by
  obtain ⟨form, verb, args, hform, hverb, hargs, h⟩ := m.exists_typedAs
  rw [TogglesPosting, hform, hverb, hargs]
  cases h <;> grind [Command.verbs]

theorem closesWindows_iff : m.ClosesWindows ↔ m.form = .closeWindows := by
  obtain ⟨form, verb, args, hform, hverb, hargs, h⟩ := m.exists_typedAs
  rw [ClosesWindows, hform, hverb, hargs]
  cases h <;> grind [Command.verbs]

theorem opens_iff : m.Opens s w ↔ m.form.window? s.flights = some w := by
  constructor
  · intro hopens
    cases hopens with
    | acl hv ha => rcases ha with ha | ha <;> rw [form_eq, Command.form_list hv, ha] <;> rfl
    | dep hv ha => rw [form_eq, Command.form_list hv, ha]; rfl
    | altimeter hv ha => rw [form_eq, Command.form_altimeter hv, if_neg ha]; rfl
    | weather hv ha => rw [form_eq, Command.form_weather hv, if_neg ha]; rfl
    | strip hv ha hres => rw [form_eq, Command.form_strip hv, ha, Form.window?, hres]; rfl
  · obtain ⟨form, verb, args, hform, hverb, hargs, h⟩ := m.exists_typedAs
    rw [hform]
    intro hw
    cases h with
    | openAcl => cases hw; exact .acl hverb (.inl hargs)
    | togglePosting => cases hw; exact .acl hverb (.inr hargs)
    | openDep => cases hw; exact .dep hverb hargs
    | altimeter hne => cases hw; exact .altimeter hverb (hargs ▸ hne)
    | weather hne => cases hw; exact .weather hverb (hargs ▸ hne)
    | strip fid =>
      obtain ⟨f, hf, rfl⟩ := Option.map_eq_some_iff.1 hw
      exact .strip hverb hargs hf
    | _ => cases hw

theorem shows_iff {text : String} : m.Shows s text ↔ m.form.shown? s.flights m.context = some text := by
  constructor
  · rintro ⟨fid, f, hv, ha, hres, rfl⟩
    rw [form_eq, Command.form_readout hv, ha, Form.shown?, hres]
    rfl
  · obtain ⟨form, verb, args, hform, hverb, hargs, h⟩ := m.exists_typedAs
    rw [hform]
    intro hs
    cases h with
    | readout fid =>
      obtain ⟨f, hf, rfl⟩ := Option.map_eq_some_iff.1 hs
      exact ⟨fid, f, hverb, hargs, hf, rfl⟩
    | _ => cases hs

/-! Each of the five after one message -/

theorem altimeterWatch_perform (s : Store) (m : Message) : (perform s m).altimeterWatch =
    (if m.command.verb = "QD" then m.command.args else []).foldl NameSet.toggle s.altimeterWatch := by
  rw [perform_eq, ← altimeterStations_form]; rfl

theorem weatherWatch_perform (s : Store) (m : Message) : (perform s m).weatherWatch =
    (if m.command.verb = "WR" then m.command.args else []).foldl NameSet.toggle s.weatherWatch := by
  rw [perform_eq, ← weatherStations_form]; rfl

theorem manualPosting_perform (s : Store) (m : Message) :
    (perform s m).manualPosting = (s.manualPosting ^^ decide m.TogglesPosting) := by
  have hposting : (perform s m).manualPosting = if m.form = .togglePosting then !s.manualPosting else s.manualPosting := by
    rw [perform_eq]; rfl
  rw [hposting]
  by_cases h : m.form = .togglePosting
  · simp [h, togglesPosting_iff.2 h]
  · simp [h, mt togglesPosting_iff.1 h]

theorem windows_perform (s : Store) (m : Message) : (perform s m).windows =
    if m.form = .closeWindows then .empty else (m.form.window? s.flights).elim s.windows s.windows.insert := by
  rw [perform_eq]; rfl

theorem mem_windows_perform : w ∈ (perform s m).windows ↔ (w ∈ s.windows ∧ ¬m.ClosesWindows) ∨ m.Opens s w := by
  rw [windows_perform, closesWindows_iff, opens_iff]
  by_cases h : m.form = .closeWindows
  · simp [h, NameSet.mem_empty, Form.window?]
  · cases hw : m.form.window? s.flights with
    | none => simp [h]
    | some x =>
      rw [if_neg h, Option.elim_some, NameSet.mem_insert, Option.some.injEq, or_comm, eq_comm]
      simp [h]

theorem readout_perform (s : Store) (m : Message) :
    (perform s m).readout = (m.form.shown? s.flights m.context <|> s.readout) := by
  have hcontext : m.form.shown? s.flights (m.readAt s).context = m.form.shown? s.flights m.context := by
    cases m.form <;> rfl
  rw [perform_eq, ← hcontext]; rfl

theorem readout_perform_of_not_shows (s : Store) (m : Message) (h : ¬ShowsReadout s m) :
    (perform s m).readout = s.readout := by
  have hnone : m.form.shown? s.flights m.context = none :=
    Option.eq_none_iff_forall_not_mem.2 fun text ht => h ⟨text, shows_iff.2 ht⟩
  rw [readout_perform, hnone]; rfl

/-! ## Runs -/

theorem performAll_cons (s : Store) (m : Message) (messages : List Message) :
    performAll s (m :: messages) = performAll (perform s m) messages := rfl

theorem mentions_cons (verb station : String) (m : Message) (messages : List Message) :
    mentions verb station (m :: messages) =
      (if m.command.verb = verb then m.command.args else []).count station + mentions verb station messages := by
  rw [mentions, List.map_cons, List.sum_cons]
  split <;> rfl

/-- **A station is watched by the parity of its mentions**, in all the messages with the verb of the watch. -/
theorem mem_watch_performAll {verb : String} {watch : Store → NameSet}
    (hwatch : ∀ s m, watch (perform s m) =
      (if m.command.verb = verb then m.command.args else []).foldl NameSet.toggle (watch s)) {station : String} :
    ∀ (messages : List Message) (s : Store), station ∈ watch (performAll s messages) ↔
      Xor (station ∈ watch s) (Odd (mentions verb station messages))
  | [], s => by simp [performAll, mentions, Xor]
  | m :: messages, s => by
    rw [performAll_cons, mem_watch_performAll hwatch messages, hwatch, NameSet.mem_foldl_toggle, mentions_cons,
      xor_odd_add]

theorem manualPosting_performAll : ∀ (messages : List Message) (s : Store), (performAll s messages).manualPosting =
    (s.manualPosting ^^ decide (Odd (messages.countP (decide ·.TogglesPosting))))
  | [], s => by simp [performAll]
  | m :: messages, s => by
    rw [performAll_cons, manualPosting_performAll messages, manualPosting_perform, List.countP_cons, Bool.xor_assoc]
    refine congrArg (s.manualPosting ^^ ·) ?_
    by_cases h : m.TogglesPosting
    · simp only [h, decide_true, if_true, Nat.odd_add_one, decide_not, Bool.true_xor]
    · simp [h]

theorem mem_windows_performAll : ∀ (messages : List Message) (s : Store), w ∈ (performAll s messages).windows ↔
    (w ∈ s.windows ∧ ∀ m ∈ messages, ¬m.ClosesWindows) ∨
      ∃ before m after, messages = before ++ m :: after ∧ m.Opens (performAll s before) w ∧
        ∀ m' ∈ after, ¬m'.ClosesWindows
  | [], s => by simp [performAll]
  | m :: messages, s => by
    rw [performAll_cons, mem_windows_performAll messages, mem_windows_perform, List.forall_mem_cons]
    constructor
    · rintro (⟨⟨hw, hm⟩ | hopens, hrest⟩ | ⟨before, m', after, rfl, hopens, hafter⟩)
      · exact .inl ⟨hw, hm, hrest⟩
      · exact .inr ⟨[], m, messages, rfl, hopens, hrest⟩
      · exact .inr ⟨m :: before, m', after, rfl, hopens, hafter⟩
    · rintro (⟨hw, hm, hrest⟩ | ⟨before, m', after, hmessages, hopens, hafter⟩)
      · exact .inl ⟨.inl ⟨hw, hm⟩, hrest⟩
      · cases before with
        | nil =>
          obtain ⟨rfl, rfl⟩ := List.cons.inj hmessages
          exact .inl ⟨.inr hopens, hafter⟩
        | cons x before =>
          obtain ⟨rfl, rfl⟩ := List.cons.inj hmessages
          exact .inr ⟨before, m', after, rfl, hopens, hafter⟩

/-- **What a run of messages leaves at a desk is a function of the messages.** -/
theorem performAll_desk (s : Store) (messages : List Message) : DeskAfter s messages (performAll s messages) where
  altimeter _ := mem_watch_performAll altimeterWatch_perform messages s
  weather _ := mem_watch_performAll weatherWatch_perform messages s
  posting := manualPosting_performAll messages s
  windows _ := mem_windows_performAll messages s
  readoutShown u m hlast := by
    have hinv : ∀ (_ : Store) (_ : Message), True → True := fun _ _ => id
    obtain ⟨-, hview⟩ := hlast.view_eq hinv (fun t a _ => readout_perform_of_not_shows t a) trivial
    obtain ⟨text, hshows⟩ := hlast.holds
    refine ⟨text, hshows, ?_⟩
    rw [performAll, hview, readout_perform, shows_iff.1 hshows]
    rfl
  readoutKept hnever := by
    have hinv : ∀ (_ : Store) (_ : Message), True → True := fun _ _ => id
    exact hnever.view_eq hinv (fun t a _ => readout_perform_of_not_shows t a) trivial

end Message
end Clearance
