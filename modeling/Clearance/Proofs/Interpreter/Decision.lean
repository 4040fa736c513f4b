import Clearance.Proofs.Flight.Reroute
import Clearance.Proofs.Interpreter.Form
/-!
# Decision — which messages are accepted, and why the others are not

`Decision` lists what the documentation says about every verb, number of arguments and first argument: whether the
message is accepted, the kind of a rejection, what `UU` asks for, and the message.  `dispatch_decision` says that every
command is decided so, whatever flights, context and resolver there are.
-/
namespace Clearance

namespace Command

def reply (c : Command) : Status → String
  | .accept =>
    if c.verb = "QU" then "ACCEPT\nCLEARED DIRECT"
    else if c.verb = "QD" then "ACCEPT\nALTIMETER REQ"
    else if c.verb = "WR" then "ACCEPT\nWEATHER STAT REQ\n" ++ c.raw
    else if c.verb = "FR" then "ACCEPT\nREADOUT\n" ++ c.raw
    else "ACCEPT\nD POS KEYBD"
  | .reject =>
    if c.verb = "QU" then "REJECT\nFORMAT"
    else if c.verb = "FR" then "REJECT: MESSAGE TOO LONG\nREADOUT\n" ++ c.raw
    else if c.verb ∈ verbs then "REJECT\n" ++ c.raw
    else "REJECT\n\n" ++ c.raw

def fault (c : Command) : RejectKind :=
  if c.verb = "QU" ∧ c.args.length = 2 then .noRouteMembership
  else if c.verb ∈ verbs then .malformedArity
  else .unknownCommand

theorem fault_ne_composeFailure (c : Command) : c.fault ≠ .composeFailure := by
  unfold fault
  split
  · decide
  · split <;> decide

end Command

/-- Whether a flight that an identifier addresses can be cleared direct: it is on the ACL, the fix is on its current
route, and no resolver fails for its position. -/
def Clearable (resolver : Option FrdResolver) (flights : List Flight) (context : Context) (fix fid : String) : Prop :=
  ∃ f, Flight.resolve flights fid = some f ∧ f.aclDisplay = true ∧ fix ∈ f.currentNames ∧
    ∀ position lookup, f.position = some position → resolver = some lookup →
      lookup ⟨context.artccId, position⟩ ≠ none

/-- The documented decision about a command. -/
structure Decision (resolver : Option FrdResolver) (flights : List Flight) (context : Context) (c : Command)
    (r : Response) : Prop where
  toggleVci : c.verb = "//" → r.status = .accept
  list : c.verb = "UU" → (r.status = .accept ↔
    c.args.length = 0 ∨ c.args.length = 1 ∨ c.args.length = 2 ∧ c.args.head? = some "H")
  listOpen : c.verb = "UU" → c.args = [] → r.intents = [.openWindow .acl]
  listCleanUp : c.verb = "UU" → c.args = ["C"] →
    r.intents = (flights.filter (·.isExpired context)).map fun f => .delete f.aircraftId .acl
  listDepartures : c.verb = "UU" → c.args = ["D"] → r.intents = [.openWindow .dep]
  listPosting : c.verb = "UU" → c.args = ["P"] →
    r.intents = [.openWindow .acl, .setManualPosting !context.manualPosting]
  listClose : c.verb = "UU" → c.args = ["X"] → r.intents = [.closeAllWindows]
  listAdd : ∀ fid, c.verb = "UU" → c.args = [fid] → fid ∉ ["C", "D", "P", "X"] → r.intents = [.addFlight fid]
  clear : ∀ fix fid, c.verb = "QU" → c.args = [fix, fid] →
    (r.status = .accept ↔ Clearable resolver flights context fix fid)
  clearArity : c.verb = "QU" → c.args.length ≠ 2 → r.status = .reject
  altimeter : c.verb = "QD" → (r.status = .accept ↔ 1 ≤ c.args.length)
  weather : c.verb = "WR" → (r.status = .accept ↔ 1 ≤ c.args.length)
  readout : c.verb = "FR" → (r.status = .accept ↔ c.args.length = 1)
  strip : c.verb = "SR" → (r.status = .accept ↔ c.args.length = 1)
  unknown : c.verb ∉ Command.verbs → r.status = .reject
  rejected : r.status = .reject → r.rejectKind = some c.fault ∧ r.intents = []
  accepted : r.status = .accept → r.rejectKind = none
  notComposed : r.rejectKind ≠ some .composeFailure
  message : r.message = c.reply r.status

/-! ## The clearance -/

namespace Flight

variable {f : Flight} {resolver : Option FrdResolver} {context : Context}

/-- **No reply fails** unless there is a resolver that fails for the position of the flight. -/
theorem reply_ne_failed :
    f.reply resolver context ≠ .failed ↔
      ∀ position lookup, f.position = some position → resolver = some lookup →
        lookup ⟨context.artccId, position⟩ ≠ none := by
  unfold reply FrdReply.ask
  cases f.position with
  | none => simp
  | some p =>
    cases resolver with
    | none => simp
    | some lookup => cases h : lookup ⟨context.artccId, p⟩ <;> simp [h]

def frd? (f : Flight) (resolver : Option FrdResolver) (context : Context) : Option String :=
  resolver.bind fun lookup => f.position.bind fun position => lookup ⟨context.artccId, position⟩

theorem clearDirectResponse_reply {d : Direct} (h : f.reply resolver context ≠ .failed) :
    Action.clearDirectResponse f d (f.reply resolver context) =
      .clearedDirect (Action.amendment f d (f.frd? resolver context)) := by
  unfold reply FrdReply.ask at *
  unfold frd?
  cases hp : f.position with
  | none => cases resolver <;> rfl
  | some p =>
    cases resolver with
    | none => rfl
    | some lookup =>
      simp only [hp, Option.elim_some, Option.bind_some] at h ⊢
      cases hl : lookup ⟨context.artccId, p⟩ with
      | none => rw [hl] at h; exact absurd rfl h
      | some s => rfl

end Flight

namespace Form

variable {resolver : Option FrdResolver} {flights : List Flight} {context : Context} {fix fid : String}

/-- **A clearance in two cases**: it is rejected with `noRouteMembership`, or the flight is on the ACL, the fix on its
route, and what was found out about its position goes into the amendment. -/
theorem clearance_cases (resolver : Option FrdResolver) (flights : List Flight) (context : Context)
    (fix fid : String) :
    (¬Clearable resolver flights context fix fid ∧
      clearance fix fid resolver flights context = .badFormat .noRouteMembership) ∨
    (Clearable resolver flights context fix fid ∧ ∃ f d, Flight.resolve flights fid = some f ∧ f.aclDisplay = true ∧
      Direct.ofFlight? f fix = some d ∧
      clearance fix fid resolver flights context =
        .clearedDirect (Action.amendment f d (f.frd? resolver context))) := by
  unfold clearance Clearable
  cases hf : Flight.resolve flights fid with
  | none => exact .inl ⟨fun ⟨f, h, _⟩ => (by cases h), rfl⟩
  | some f =>
    rw [Option.filter_some]
    cases hacl : f.aclDisplay with
    | false =>
      refine .inl ⟨fun ⟨g, hg, hgacl, _⟩ => ?_, rfl⟩
      cases hg
      rw [hacl] at hgacl; cases hgacl
    | true =>
      rw [if_pos rfl]
      dsimp only
      cases hd : Direct.ofFlight? f fix with
      | none =>
        refine .inl ⟨fun ⟨g, hg, _, hfix, _⟩ => ?_, rfl⟩
        cases hg
        rw [← Direct.ofFlight?_isSome, hd] at hfix; cases hfix
      | some d =>
        have hfix : fix ∈ f.currentNames := Direct.ofFlight?_isSome.1 (by rw [hd]; rfl)
        by_cases hr : f.reply resolver context = .failed
        · refine .inl ⟨fun ⟨g, hg, _, _, h⟩ => ?_, by rw [hr]; rfl⟩
          cases hg
          exact Flight.reply_ne_failed.2 h hr
        · exact .inr ⟨⟨f, rfl, hacl, hfix, Flight.reply_ne_failed.1 hr⟩, f, d, rfl, hacl, hd,
            Flight.clearDirectResponse_reply hr⟩

theorem clearance_status :
    (clearance fix fid resolver flights context).status = .accept ↔ Clearable resolver flights context fix fid := by
  rcases clearance_cases resolver flights context fix fid with ⟨hn, h⟩ | ⟨hc, f, d, -, -, -, h⟩
  · rw [h]; exact ⟨fun h => (by cases h), fun hc => absurd hc hn⟩
  · rw [h]; exact ⟨fun _ => hc, fun _ => rfl⟩

/-! ## The decision -/

variable (resolver flights context) (raw : String)

theorem listForm_cases (args : List String) :
    (∃ intents, (Command.listForm args).answer resolver raw flights context = .done intents ∧
      (args.length = 0 ∨ args.length = 1 ∨ args.length = 2 ∧ args.head? = some "H")) ∨
    ((Command.listForm args).answer resolver raw flights context = .malformed raw ∧
      ¬(args.length = 0 ∨ args.length = 1 ∨ args.length = 2 ∧ args.head? = some "H")) := by
  rcases args with _ | ⟨a, _ | ⟨b, _ | ⟨c, rest⟩⟩⟩
  · exact .inl ⟨_, rfl, .inl rfl⟩
  · refine .inl ?_
    simp only [Command.listForm]
    split
    · exact ⟨_, rfl, .inr (.inl rfl)⟩
    split
    · exact ⟨_, rfl, .inr (.inl rfl)⟩
    split
    · exact ⟨_, rfl, .inr (.inl rfl)⟩
    split
    · exact ⟨_, rfl, .inr (.inl rfl)⟩
    · exact ⟨_, rfl, .inr (.inl rfl)⟩
  · simp only [Command.listForm]
    by_cases hH : a = "H"
    · rw [if_pos hH]
      exact .inl ⟨_, rfl, .inr (.inr ⟨rfl, congrArg some hH⟩)⟩
    · rw [if_neg hH]
      exact .inr ⟨rfl, by simp [hH]⟩
  · exact .inr ⟨rfl, by simp⟩

variable {resolver flights context raw}

theorem status_of_some (form : List String → Form)
    (h : ∀ args, ((form args).answer resolver raw flights context).status = .accept) (args : List String) :
    ((if args = [] then malformed else form args).answer resolver raw flights context).status = .accept ↔
      1 ≤ args.length := by
  cases args with
  | nil => exact ⟨fun hs => (nomatch hs), fun hl => (nomatch hl)⟩
  | cons a rest => exact ⟨fun _ => Nat.succ_pos _, fun _ => h (a :: rest)⟩

theorem status_of_one (form : String → Form) (other : Form)
    (h : ∀ fid, ((form fid).answer resolver raw flights context).status = .accept)
    (hother : (other.answer resolver raw flights context).status = .reject) (args : List String) :
    ((match args with
      | [fid] => form fid
      | _ => other).answer resolver raw flights context).status = .accept ↔ args.length = 1 := by
  rcases args with _ | ⟨a, _ | ⟨b, rest⟩⟩
  · rw [hother]
    exact ⟨fun hs => (nomatch hs), fun hl => (nomatch hl)⟩
  · exact ⟨fun _ => rfl, fun _ => h a⟩
  · rw [hother]
    refine ⟨fun hs => (nomatch hs), fun hl => ?_⟩
    rw [List.length_cons, List.length_cons] at hl
    omega

variable (resolver flights context)

/-- **Every command is accepted or rejected with its documented message**, and a rejection has its documented kind
and asks for nothing. -/
theorem answer_cases (c : Command) :
    ((c.form.answer resolver c.raw flights context).status = .accept ∧
      (c.form.answer resolver c.raw flights context).rejectKind = none ∧
      (c.form.answer resolver c.raw flights context).message = c.reply .accept) ∨
    c.form.answer resolver c.raw flights context = .reject c.fault (c.reply .reject) := by
  obtain ⟨verb, args, raw⟩ := c
  by_cases hverb : verb ∈ Command.verbs
  · simp only [Command.verbs, List.mem_cons, List.not_mem_nil, or_false] at hverb
    rcases hverb with rfl | rfl | rfl | rfl | rfl | rfl | rfl
    · exact .inl ⟨rfl, rfl, rfl⟩
    · rcases listForm_cases resolver flights context raw args with ⟨_, h, -⟩ | ⟨h, -⟩
      · exact .inl ⟨congrArg Response.status h, congrArg Response.rejectKind h, congrArg Response.message h⟩
      · exact .inr h
    · rcases args with _ | ⟨fix, _ | ⟨fid, _ | ⟨c, rest⟩⟩⟩
      · exact .inr rfl
      · exact .inr rfl
      · rcases clearance_cases resolver flights context fix fid with ⟨-, h⟩ | ⟨-, f, d, -, -, -, h⟩
        · exact .inr h
        · exact .inl ⟨congrArg Response.status h, congrArg Response.rejectKind h, congrArg Response.message h⟩
      · have hfault : Command.fault ⟨"QU", fix :: fid :: c :: rest, raw⟩ = .malformedArity := by
          simp [Command.fault, Command.verbs]
        rw [hfault]
        exact .inr rfl
    · cases args with
      | nil => exact .inr rfl
      | cons a rest => exact .inl ⟨rfl, rfl, rfl⟩
    · cases args with
      | nil => exact .inr rfl
      | cons a rest => exact .inl ⟨rfl, rfl, rfl⟩
    · rcases args with _ | ⟨a, _ | ⟨b, rest⟩⟩
      · exact .inr rfl
      · exact .inl ⟨rfl, rfl, rfl⟩
      · exact .inr rfl
    · rcases args with _ | ⟨a, _ | ⟨b, rest⟩⟩
      · exact .inr rfl
      · exact .inl ⟨rfl, rfl, rfl⟩
      · exact .inr rfl
  · rw [Command.form_eq_unknown hverb]
    refine .inr ?_
    have hmem := hverb
    simp only [Command.verbs, List.mem_cons, List.not_mem_nil, or_false, not_or] at hmem
    simp only [Command.fault, Command.reply, hverb, hmem, if_false, false_and]
    rfl

end Form

/-- **The table decides every command as documented**, whatever its verb, arguments and text, and whatever flights,
context and resolver there are. -/
theorem dispatch_decision (i : Interpreter) (flights : List Flight) (context : Context) (c : Command) :
    Decision i.resolver flights context c (i.dispatch c flights context) := by
  rw [i.dispatch_eq_answer]
  have hcases := Form.answer_cases i.resolver flights context c
  exact {
    toggleVci := fun h => by rw [Command.form_vci h]; rfl
    list := fun h => by
      rw [Command.form_list h]
      rcases Form.listForm_cases i.resolver flights context c.raw c.args with ⟨_, hr, hl⟩ | ⟨hr, hl⟩
      · rw [hr]; exact ⟨fun _ => hl, fun _ => rfl⟩
      · rw [hr]
        refine ⟨fun ha => ?_, fun ha => absurd ha hl⟩
        cases ha
    listOpen := fun h ha => by rw [Command.form_list h, ha]; rfl
    listCleanUp := fun h ha => by rw [Command.form_list h, ha]; rfl
    listDepartures := fun h ha => by rw [Command.form_list h, ha]; rfl
    listPosting := fun h ha => by rw [Command.form_list h, ha]; rfl
    listClose := fun h ha => by rw [Command.form_list h, ha]; rfl
    listAdd := fun fid h ha hfid => by
      simp only [List.mem_cons, List.not_mem_nil, or_false, not_or] at hfid
      rw [Command.form_list h, ha, Command.listForm, if_neg hfid.1, if_neg hfid.2.1, if_neg hfid.2.2.1,
        if_neg hfid.2.2.2]
      rfl
    clear := fun fix fid h ha => by rw [Command.form_clear h, ha]; exact Form.clearance_status
    clearArity := fun h ha => by
      rw [Command.form_clear h]
      rcases hargs : c.args with _ | ⟨fix, _ | ⟨fid, _ | ⟨a, rest⟩⟩⟩
      · rfl
      · rfl
      · rw [hargs] at ha; exact absurd rfl ha
      · rfl
    altimeter := fun h => by
      rw [Command.form_altimeter h]
      exact Form.status_of_some .altimeter (fun _ => rfl) c.args
    weather := fun h => by
      rw [Command.form_weather h]
      exact Form.status_of_some .weather (fun _ => rfl) c.args
    readout := fun h => by
      rw [Command.form_readout h]
      exact Form.status_of_one .readout .noReadout (fun _ => rfl) rfl c.args
    strip := fun h => by
      rw [Command.form_strip h]
      exact Form.status_of_one .strip .malformed (fun _ => rfl) rfl c.args
    unknown := fun h => by rw [Command.form_eq_unknown h]; rfl
    rejected := fun h => by
      rcases hcases with ⟨ha, -⟩ | hr
      · rw [ha] at h; cases h
      · rw [hr]; exact ⟨rfl, rfl⟩
    accepted := fun h => by
      rcases hcases with ⟨-, hk, -⟩ | hr
      · exact hk
      · rw [hr] at h; cases h
    notComposed := by
      rcases hcases with ⟨-, hk, -⟩ | hr
      · rw [hk]
        intro h
        cases h
      · rw [hr]
        intro h
        exact c.fault_ne_composeFailure (Option.some.inj h)
    message := by
      rcases hcases with ⟨ha, -, hm⟩ | hr
      · rw [hm, ha]
      · rw [hr]; rfl }

end Clearance
