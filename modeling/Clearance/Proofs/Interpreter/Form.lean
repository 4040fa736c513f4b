import Clearance.Interpreter.Dispatch
/-!
# Form — what a message asks for

`Command.form` reads verb and arguments without the table of rows, one form for every shape of message that the
documentation lists, and `Form.answer` is the response to a form.  `dispatch_eq_answer` says that the table, tried from
top to bottom, comes to the same; everything else about typed messages is said about forms.
-/
namespace Clearance

/-- What a message asks for, with the arguments that it needs. -/
inductive Form where
  | toggleVci (fid : Option String)
  | openAcl
  | cleanUpAcl
  | openDep
  | togglePosting
  | closeWindows
  | addFlight (fid : String)
  | highlight (fid : String)
  | clearDirect (fix fid : String)
  | altimeter (stations : List String)
  | weather (stations : List String)
  | readout (fid : String)
  | strip (fid : String)
  /-- A clearance without exactly a fix and a flight. -/
  | noClearance
  /-- A readout of no flight, or of several. -/
  | noReadout
  | malformed
  | unknown
  deriving DecidableEq, Repr

namespace Command

/-- The verbs of the table. -/
def verbs : List String := ["//", "UU", "QU", "QD", "WR", "FR", "SR"]

/-- The forms of `UU`. -/
def listForm : List String → Form
  | [] => .openAcl
  | [a] =>
    if a = "C" then .cleanUpAcl else if a = "D" then .openDep else if a = "P" then .togglePosting
    else if a = "X" then .closeWindows else .addFlight a
  | [a, fid] => if a = "H" then .highlight fid else .malformed
  | _ => .malformed

def form (c : Command) : Form :=
  if c.verb = "//" then .toggleVci c.args.head?
  else if c.verb = "UU" then listForm c.args
  else if c.verb = "QU" then match c.args with
    | [fix, fid] => .clearDirect fix fid
    | _ => .noClearance
  else if c.verb = "QD" then if c.args = [] then .malformed else .altimeter c.args
  else if c.verb = "WR" then if c.args = [] then .malformed else .weather c.args
  else if c.verb = "FR" then match c.args with
    | [fid] => .readout fid
    | _ => .noReadout
  else if c.verb = "SR" then match c.args with
    | [fid] => .strip fid
    | _ => .malformed
  else .unknown

section
variable {c : Command}

theorem form_vci (h : c.verb = "//") : c.form = .toggleVci c.args.head? := by
  simp only [form, h, if_true]

theorem form_list (h : c.verb = "UU") : c.form = listForm c.args := by
  simp only [form, h, String.reduceEq, if_false, if_true]

theorem form_clear (h : c.verb = "QU") : c.form = match c.args with
    | [fix, fid] => .clearDirect fix fid
    | _ => .noClearance := by
  simp only [form, h, String.reduceEq, if_false, if_true]

theorem form_altimeter (h : c.verb = "QD") : c.form = if c.args = [] then .malformed else .altimeter c.args := by
  simp only [form, h, String.reduceEq, if_false, if_true]

theorem form_weather (h : c.verb = "WR") : c.form = if c.args = [] then .malformed else .weather c.args := by
  simp only [form, h, String.reduceEq, if_false, if_true]

theorem form_readout (h : c.verb = "FR") : c.form = match c.args with
    | [fid] => .readout fid
    | _ => .noReadout := by
  simp only [form, h, String.reduceEq, if_false, if_true]

theorem form_strip (h : c.verb = "SR") : c.form = match c.args with
    | [fid] => .strip fid
    | _ => .malformed := by
  simp only [form, h, String.reduceEq, if_false, if_true]

theorem form_eq_unknown (h : c.verb ∉ verbs) : c.form = .unknown := by
  simp only [verbs, List.mem_cons, List.not_mem_nil, or_false, not_or] at h
  obtain ⟨h1, h2, h3, h4, h5, h6, h7⟩ := h
  unfold form
  rw [if_neg h1, if_neg h2, if_neg h3, if_neg h4, if_neg h5, if_neg h6, if_neg h7]

theorem listForm_eq_addFlight_iff {args : List String} {fid : String} :
    listForm args = .addFlight fid ↔ args = [fid] ∧ fid ∉ ["C", "D", "P", "X"] := by
  rcases args with _ | ⟨a, _ | ⟨b, _ | ⟨c, rest⟩⟩⟩ <;> grind [listForm]

theorem listForm_eq_cleanUpAcl_iff {args : List String} : listForm args = .cleanUpAcl ↔ args = ["C"] := by
  rcases args with _ | ⟨a, _ | ⟨b, _ | ⟨c, rest⟩⟩⟩ <;> grind [listForm]

theorem listForm_ne_clearDirect {args : List String} {fix fid : String} : listForm args ≠ .clearDirect fix fid := by
  rcases args with _ | ⟨a, _ | ⟨b, _ | ⟨c, rest⟩⟩⟩ <;> grind [listForm]

/-! Only one verb and number of arguments has each of the forms that change lists or routes. -/

theorem form_eq_addFlight_iff {fid : String} :
    c.form = .addFlight fid ↔ c.verb = "UU" ∧ c.args = [fid] ∧ fid ∉ ["C", "D", "P", "X"] := by
  by_cases h : c.verb = "UU"
  · rw [form_list h, listForm_eq_addFlight_iff]
    simp [h]
  · simp only [form, h]
    grind

theorem form_eq_cleanUpAcl_iff : c.form = .cleanUpAcl ↔ c.verb = "UU" ∧ c.args = ["C"] := by
  by_cases h : c.verb = "UU"
  · rw [form_list h, listForm_eq_cleanUpAcl_iff]
    simp [h]
  · simp only [form, h]
    grind

theorem form_eq_clearDirect_iff {fix fid : String} :
    c.form = .clearDirect fix fid ↔ c.verb = "QU" ∧ c.args = [fix, fid] := by
  by_cases h : c.verb = "QU"
  · rw [form_clear h]
    grind
  · simp only [form, h]
    grind [listForm_ne_clearDirect]

end

end Command

/-- Verb and arguments of the messages of each form. -/
inductive Form.TypedAs : Form → String → List String → Prop where
  | toggleVci (args : List String) : TypedAs (.toggleVci args.head?) "//" args
  | openAcl : TypedAs .openAcl "UU" []
  | cleanUpAcl : TypedAs .cleanUpAcl "UU" ["C"]
  | openDep : TypedAs .openDep "UU" ["D"]
  | togglePosting : TypedAs .togglePosting "UU" ["P"]
  | closeWindows : TypedAs .closeWindows "UU" ["X"]
  | addFlight {fid : String} (h : fid ∉ ["C", "D", "P", "X"]) : TypedAs (.addFlight fid) "UU" [fid]
  | highlight (fid : String) : TypedAs (.highlight fid) "UU" ["H", fid]
  | noList {args : List String} (h : 2 ≤ args.length) (h' : ∀ fid, args ≠ ["H", fid]) : TypedAs .malformed "UU" args
  | clearDirect (fix fid : String) : TypedAs (.clearDirect fix fid) "QU" [fix, fid]
  | noClearance {args : List String} (h : args.length ≠ 2) : TypedAs .noClearance "QU" args
  | altimeter {args : List String} (h : args ≠ []) : TypedAs (.altimeter args) "QD" args
  | noAltimeter : TypedAs .malformed "QD" []
  | weather {args : List String} (h : args ≠ []) : TypedAs (.weather args) "WR" args
  | noWeather : TypedAs .malformed "WR" []
  | readout (fid : String) : TypedAs (.readout fid) "FR" [fid]
  | noReadout {args : List String} (h : args.length ≠ 1) : TypedAs .noReadout "FR" args
  | strip (fid : String) : TypedAs (.strip fid) "SR" [fid]
  | noStrip {args : List String} (h : args.length ≠ 1) : TypedAs .malformed "SR" args
  | unknown {verb : String} (args : List String) (h : verb ∉ Command.verbs) : TypedAs .unknown verb args

namespace Command

theorem typedAs_listForm (args : List String) : (listForm args).TypedAs "UU" args := by
  rcases args with _ | ⟨a, _ | ⟨b, _ | ⟨c, rest⟩⟩⟩
  · exact .openAcl
  · simp only [listForm]
    split
    · subst a; exact .cleanUpAcl
    split
    · subst a; exact .openDep
    split
    · subst a; exact .togglePosting
    split
    · subst a; exact .closeWindows
    · exact .addFlight (by simp [*])
  · simp only [listForm]
    split
    · subst a; exact .highlight b
    · exact .noList (by simp) (by simp [*])
  · exact .noList (by simp) (by simp)

/-- **Every command is one of the table's shapes**, and its form is the one of that shape. -/
theorem typedAs_form (c : Command) : c.form.TypedAs c.verb c.args := by
  obtain ⟨verb, args, raw⟩ := c
  by_cases hverb : verb ∈ verbs
  · simp only [verbs, List.mem_cons, List.not_mem_nil, or_false] at hverb
    rcases hverb with rfl | rfl | rfl | rfl | rfl | rfl | rfl
    · exact .toggleVci args
    · exact typedAs_listForm args
    · rcases args with _ | ⟨fix, _ | ⟨fid, _ | ⟨c, rest⟩⟩⟩
      · exact .noClearance (by simp)
      · exact .noClearance (by simp)
      · exact .clearDirect fix fid
      · exact .noClearance (by simp)
    · cases args with
      | nil => exact .noAltimeter
      | cons a rest => exact .altimeter (by simp)
    · cases args with
      | nil => exact .noWeather
      | cons a rest => exact .weather (by simp)
    · rcases args with _ | ⟨a, _ | ⟨b, rest⟩⟩
      · exact .noReadout (by simp)
      · exact .readout a
      · exact .noReadout (by simp)
    · rcases args with _ | ⟨a, _ | ⟨b, rest⟩⟩
      · exact .noStrip (by simp)
      · exact .strip a
      · exact .noStrip (by simp)
  · rw [form_eq_unknown hverb]
    exact .unknown args hverb

end Command

/-- What the server replies about a flight; it is not asked about a flight without a position. -/
def Flight.reply (f : Flight) (resolver : Option FrdResolver) (context : Context) : FrdReply :=
  f.position.elim .unasked fun p => FrdReply.ask resolver ⟨context.artccId, p⟩

namespace Form

/-- The response to a clearance: the flight has to be on the ACL, and the fix on its current route. -/
def clearance (fix fid : String) (resolver : Option FrdResolver) (flights : List Flight) (context : Context) :
    Response :=
  match (Flight.resolve flights fid).filter (·.aclDisplay) with
  | none => .badFormat .noRouteMembership
  | some f => match Direct.ofFlight? f fix with
    | none => .badFormat .noRouteMembership
    | some d => Action.clearDirectResponse f d (f.reply resolver context)

/-- The response to a form. -/
def answer (resolver : Option FrdResolver) (raw : String) (flights : List Flight) (context : Context) :
    Form → Response
  | toggleVci fid => .done ((fid.bind (Flight.resolve flights)).elim [] fun f => f.mutation { vci := some !f.vci })
  | openAcl => .done [.openWindow .acl]
  | cleanUpAcl => .done ((flights.filter (·.isExpired context)).map fun f => .delete f.aircraftId .acl)
  | openDep => .done [.openWindow .dep]
  | togglePosting => .done [.openWindow .acl, .setManualPosting !context.manualPosting]
  | closeWindows => .done [.closeAllWindows]
  | addFlight fid => .done [.addFlight fid]
  | highlight fid => .done ((Flight.resolve flights fid).elim [] fun f => f.mutation
      { aclHighlighted := if f.aclDisplay then some !f.aclHighlighted else none
        depHighlighted := if f.depDisplay then some !f.depHighlighted else none })
  | clearDirect fix fid => clearance fix fid resolver flights context
  | altimeter stations => .altimeterAccepted [.toggleAltimeterWatch stations, .openWindow .altimeter]
  | weather stations => .weatherAccepted raw [.toggleWeatherWatch stations, .openWindow .metar]
  | readout fid =>
    .readoutAccepted raw ((Flight.resolve flights fid).elim [] fun f => [.showReadout (f.readout context.now)])
  | strip fid => .done ((Flight.resolve flights fid).elim [] fun f => [.printStrip f.aircraftId])
  | noClearance => .badFormat .malformedArity
  | noReadout => .readoutTooLong raw
  | malformed => .malformed raw
  | unknown => .unknownCommand raw

end Form

/-! ## The table -/

namespace Row

def ofVerb (verb : String) : List Row := table.filter (·.verb == verb)

theorem find?_table (c : Command) :
    table.find? (·.matchesCommand c) = (ofVerb c.verb).find? (·.matchesCommand c) := by
  rw [ofVerb, List.find?_filter]
  congr 1
  funext r
  by_cases h : r.verb = c.verb <;> simp [matchesCommand, h]

theorem ofVerb_eq_nil {verb : String} (h : verb ∉ Command.verbs) : ofVerb verb = [] := by
  have hverbs : ∀ r ∈ table, r.verb ∈ Command.verbs := by decide
  rw [ofVerb, List.filter_eq_nil_iff]
  intro r hr hv
  exact h (beq_iff_eq.1 hv ▸ hverbs r hr)

end Row

namespace Interpreter

variable (i : Interpreter) (args : List String) (raw : String) (flights : List Flight) (context : Context)

theorem dispatch_eq (c : Command) :
    i.dispatch c flights context = match (Row.ofVerb c.verb).find? (·.matchesCommand c) with
      | some row => (row.action.run ⟨c, flights, context⟩).settle i.resolver
      | none => .unknownCommand c.raw := by
  rw [dispatch, Request.dispatch, Row.find?_table]
  cases (Row.ofVerb c.verb).find? (·.matchesCommand c) <;> rfl

theorem dispatch_vci : i.dispatch ⟨"//", args, raw⟩ flights context =
    (Form.toggleVci args.head?).answer i.resolver raw flights context := by
  have hrows : Row.ofVerb "//" = [⟨"//", .any, none, .toggleVci⟩] := by decide
  rw [dispatch_eq, hrows]
  cases args <;> rfl

theorem dispatch_list : i.dispatch ⟨"UU", args, raw⟩ flights context =
    (Command.listForm args).answer i.resolver raw flights context := by
  have hrows : Row.ofVerb "UU" =
      [⟨"UU", .exactly 0, none, .openAcl⟩, ⟨"UU", .exactly 1, some "C", .cleanUpAcl⟩,
       ⟨"UU", .exactly 1, some "D", .openDep⟩, ⟨"UU", .exactly 1, some "P", .toggleManualPosting⟩,
       ⟨"UU", .exactly 1, some "X", .closeAllWindows⟩, ⟨"UU", .exactly 1, none, .addFlight⟩,
       ⟨"UU", .exactly 2, some "H", .toggleHighlight⟩, ⟨"UU", .any, none, .rejectMalformed⟩] := by decide
  rw [dispatch_eq, hrows]
  rcases args with _ | ⟨a, _ | ⟨b, _ | ⟨c, rest⟩⟩⟩
  · rfl
  · by_cases hC : a = "C"
    · subst hC; rfl
    by_cases hD : a = "D"
    · subst hD; rfl
    by_cases hP : a = "P"
    · subst hP; rfl
    by_cases hX : a = "X"
    · subst hX; rfl
    have hother : ∀ l ∈ ["C", "D", "P", "X"], (a == l) = false := by simp [hC, hD, hP, hX]
    simp [Row.matchesCommand, Arity.accepts, Command.arity, Command.arg?, Command.listForm, hC, hD, hP, hX, hother]
    rfl
  · by_cases hH : a = "H"
    · subst hH; rfl
    have hother : (a == "H") = false := beq_eq_false_iff_ne.2 hH
    simp [Row.matchesCommand, Arity.accepts, Command.arity, Command.arg?, Command.listForm, hH, hother]
    rfl
  · rfl

theorem dispatch_direct : i.dispatch ⟨"QU", args, raw⟩ flights context =
    (Command.form ⟨"QU", args, raw⟩).answer i.resolver raw flights context := by
  have hrows : Row.ofVerb "QU" = [⟨"QU", .any, none, .clearDirect⟩] := by decide
  rw [dispatch_eq, hrows]
  rcases args with _ | ⟨fix, _ | ⟨fid, _ | ⟨c, rest⟩⟩⟩
  · rfl
  · rfl
  · show (Action.clearDirectReaction ⟨⟨"QU", [fix, fid], raw⟩, flights, context⟩).settle i.resolver =
      Form.clearance fix fid i.resolver flights context
    simp only [Action.clearDirectReaction, Form.clearance]
    cases (Flight.resolve flights fid).filter (·.aclDisplay) with
    | none => rfl
    | some f =>
      cases hd : Direct.ofFlight? f fix with
      | none => simp only [hd]; rfl
      | some d => cases hp : f.position <;> simp only [Flight.reply, hd, hp] <;> rfl
  · rfl

theorem dispatch_altimeter : i.dispatch ⟨"QD", args, raw⟩ flights context =
    (Command.form ⟨"QD", args, raw⟩).answer i.resolver raw flights context := by
  have hrows : Row.ofVerb "QD" =
      [⟨"QD", .atLeast 1, none, .requestAltimeter⟩, ⟨"QD", .any, none, .rejectMalformed⟩] := by decide
  rw [dispatch_eq, hrows]
  cases args <;> rfl

theorem dispatch_weather : i.dispatch ⟨"WR", args, raw⟩ flights context =
    (Command.form ⟨"WR", args, raw⟩).answer i.resolver raw flights context := by
  have hrows : Row.ofVerb "WR" =
      [⟨"WR", .atLeast 1, none, .requestWeather⟩, ⟨"WR", .any, none, .rejectMalformed⟩] := by decide
  rw [dispatch_eq, hrows]
  cases args <;> rfl

theorem dispatch_readout : i.dispatch ⟨"FR", args, raw⟩ flights context =
    (Command.form ⟨"FR", args, raw⟩).answer i.resolver raw flights context := by
  have hrows : Row.ofVerb "FR" =
      [⟨"FR", .exactly 1, none, .showReadout⟩, ⟨"FR", .any, none, .rejectTooLong⟩] := by decide
  rw [dispatch_eq, hrows]
  rcases args with _ | ⟨a, _ | ⟨b, rest⟩⟩ <;> rfl

theorem dispatch_strip : i.dispatch ⟨"SR", args, raw⟩ flights context =
    (Command.form ⟨"SR", args, raw⟩).answer i.resolver raw flights context := by
  have hrows : Row.ofVerb "SR" =
      [⟨"SR", .exactly 1, none, .printStrip⟩, ⟨"SR", .any, none, .rejectMalformed⟩] := by decide
  rw [dispatch_eq, hrows]
  rcases args with _ | ⟨a, _ | ⟨b, rest⟩⟩ <;> rfl

/-- **The table comes to the documented answer**, for every command. -/
theorem dispatch_eq_answer (c : Command) :
    i.dispatch c flights context = c.form.answer i.resolver c.raw flights context := by
  obtain ⟨verb, args, raw⟩ := c
  by_cases hverb : verb ∈ Command.verbs
  · simp only [Command.verbs, List.mem_cons, List.not_mem_nil, or_false] at hverb
    rcases hverb with rfl | rfl | rfl | rfl | rfl | rfl | rfl
    · exact i.dispatch_vci args raw flights context
    · exact i.dispatch_list args raw flights context
    · exact i.dispatch_direct args raw flights context
    · exact i.dispatch_altimeter args raw flights context
    · exact i.dispatch_weather args raw flights context
    · exact i.dispatch_readout args raw flights context
    · exact i.dispatch_strip args raw flights context
  · rw [dispatch_eq, Row.ofVerb_eq_nil hverb, Command.form_eq_unknown hverb]
    rfl

end Interpreter
end Clearance
