import Clearance.Proofs.Store.Desk
/-!
# Lookups — which messages ask the flight data server, and what its answer is good for

A message asks where a flight is when the flight can be cleared and its position is known, and no other message asks
anything.  `performAll_lookups` says so of every run: its requests are those that are needed, in order; an answer goes
into the amendment and nowhere else; and a message that gets none might as well not have been typed.
-/
namespace Clearance

namespace Message

/-- The request that a message makes at a store, if it makes one. -/
def call? (m : Message) (s : Store) : Option FrdRequest :=
  m.interpreter.request? m.text s.flights (m.readAt s).context

/-- The requests that messages make along a run. -/
def calls (s : Store) : List Message → List FrdRequest
  | [] => []
  | m :: messages => (m.call? s).toList ++ calls (perform s m) messages

/-- The request that a message has to make at a store. -/
inductive Needs (m : Message) (s : Store) : FrdRequest → Prop where
  | clear {fix fid : String} {f : Flight} {p : Position} : m.command.verb = "QU" → m.command.args = [fix, fid] →
      Flight.resolve s.flights fid = some f → f.aclDisplay = true → f.position = some p → fix ∈ f.currentNames →
      Needs m s ⟨m.context.artccId, p⟩

/-- The requests that messages have to make along a run, one for each message that has to make one. -/
inductive AllNeeded : Store → List Message → List FrdRequest → Prop where
  | nil {s : Store} : AllNeeded s [] []
  | asks {s : Store} {m : Message} {q : FrdRequest} {messages : List Message} {qs : List FrdRequest} :
      m.Needs s q → AllNeeded (perform s m) messages qs → AllNeeded s (m :: messages) (q :: qs)
  | quiet {s : Store} {m : Message} {messages : List Message} {qs : List FrdRequest} :
      (∀ q, ¬m.Needs s q) → AllNeeded (perform s m) messages qs → AllNeeded s (m :: messages) qs

end Message

/-- What the server has to do with the answer to a message `m`, when messages `after` follow. -/
structure Lookup (s : Store) (m : Message) (after : List Message) : Prop where
  /-- Who would be asked does not matter for a message that asks nothing. -/
  quiet : (∀ q, ¬m.Needs s q) → ∀ i, Message.answerAt { m with interpreter := i } s = m.answerAt s
  failed : ∀ q resolver, m.Needs s q → m.interpreter.resolver = some resolver → resolver q = none →
    m.answerAt s = .badFormat .noRouteMembership ∧ Message.perform s m = s ∧
      Message.performAll s (m :: after) = Message.performAll s after ∧
      Message.calls s (m :: after) = q :: Message.calls s after
  found : ∀ q resolver frd, m.Needs s q → m.interpreter.resolver = some resolver → resolver q = some frd →
    ∃ a, m.answerAt s = .clearedDirect a ∧ a.frd = some frd

/-- The requests along a run, and what becomes of each. -/
structure Lookups (s : Store) (messages : List Message) : Prop where
  needed : Message.AllNeeded s messages (Message.calls s messages)
  each : ∀ before m after, messages = before ++ m :: after → Lookup (Message.performAll s before) m after

/-! ## One message -/

theorem Action.request?_run {a : Action} (h : a ≠ .clearDirect) (q : Request) (resolver : Option FrdResolver) :
    (a.run q).request? resolver = none := by
  cases a with
  | clearDirect => exact absurd rfl h
  | _ => rfl

theorem Request.dispatch_clear (args : List String) (raw : String) (flights : List Flight) (context : Context) :
    Request.dispatch ⟨⟨"QU", args, raw⟩, flights, context⟩ =
      Action.clearDirectReaction ⟨⟨"QU", args, raw⟩, flights, context⟩ := by
  have hrows : Row.ofVerb "QU" = [⟨"QU", .any, none, .clearDirect⟩] := by decide
  rw [dispatch, Row.find?_table, hrows]
  rfl

theorem Request.request?_of_ne {q : Request} (h : q.command.verb ≠ "QU") (resolver : Option FrdResolver) :
    q.dispatch.request? resolver = none := by
  have hclear : ∀ r ∈ Row.table, r.action = .clearDirect → r.verb = "QU" := by decide
  rw [dispatch]
  cases hrow : Row.table.find? (·.matchesCommand q.command) with
  | none => rfl
  | some r =>
    have hverb : r.verb = q.command.verb := by
      have hmatches := List.find?_some hrow
      simp only [Row.matchesCommand, Bool.and_eq_true, beq_iff_eq] at hmatches
      exact hmatches.1.1
    refine Action.request?_run (fun hr => h ?_) q resolver
    rw [← hverb, hclear r (List.mem_of_find?_eq_some hrow) hr]

theorem Action.request?_clearDirectReaction {fix fid raw : String} {flights : List Flight} {context : Context}
    {resolver : Option FrdResolver} {q : FrdRequest} :
    (clearDirectReaction ⟨⟨"QU", [fix, fid], raw⟩, flights, context⟩).request? resolver = some q ↔
      resolver.isSome = true ∧ ∃ f p, Flight.resolve flights fid = some f ∧ f.aclDisplay = true ∧
        f.position = some p ∧ fix ∈ f.currentNames ∧ q = ⟨context.artccId, p⟩ := by
  simp only [clearDirectReaction]
  cases hres : Flight.resolve flights fid with
  | none => simp [Reaction.request?]
  | some f =>
    rw [Option.filter_some]
    cases hacl : f.aclDisplay with
    | false => simp [Reaction.request?, hacl]
    | true =>
      rw [if_pos rfl]
      have hfix : (Direct.ofFlight? f fix).isSome = true ↔ fix ∈ f.currentNames := Direct.ofFlight?_isSome
      cases hd : Direct.ofFlight? f fix with
      | none =>
        rw [hd] at hfix
        simp [Reaction.request?, hfix.not.1 (by simp), hd]
      | some d =>
        rw [hd] at hfix
        cases hp : f.position with
        | none => simp [Reaction.request?, hp, hd]
        | some p =>
          simp only [hd, hp, Reaction.request?, Option.map_eq_some_iff]
          constructor
          · rintro ⟨lookup, rfl, rfl⟩
            exact ⟨rfl, f, p, rfl, hacl, hp, hfix.1 rfl, rfl⟩
          · rintro ⟨hsome, f', p', hf', -, hp', -, rfl⟩
            obtain ⟨lookup, rfl⟩ := Option.isSome_iff_exists.1 hsome
            cases hf'
            rw [hp, Option.some.injEq] at hp'
            exact ⟨lookup, rfl, by rw [hp']⟩

theorem Form.answer_eq_of_ne {form : Form} (h : ∀ fix fid, form ≠ .clearDirect fix fid)
    (resolver resolver' : Option FrdResolver) {raw : String} {flights : List Flight} {context : Context} :
    form.answer resolver raw flights context = form.answer resolver' raw flights context := by
  cases form with
  | clearDirect fix fid => exact absurd rfl (h fix fid)
  | _ => rfl

namespace Message

variable {s : Store} {m : Message} {q : FrdRequest} {resolver : FrdResolver}

/-- **A message makes the request that it has to make**, if there is somebody to ask. -/
theorem call?_eq_some_iff : m.call? s = some q ↔ m.interpreter.resolver.isSome = true ∧ m.Needs s q := by
  have hcall : m.call? s = (Request.dispatch ⟨m.command, s.flights, (m.readAt s).context⟩).request?
      m.interpreter.resolver := rfl
  rw [hcall]
  by_cases hverb : m.command.verb = "QU"
  · have hcommand : m.command = ⟨"QU", m.command.args, m.command.raw⟩ := by rw [← hverb]
    rw [hcommand, Request.dispatch_clear]
    constructor
    · intro hq
      match hargs : m.command.args with
      | [fix, fid] =>
        rw [hargs, Action.request?_clearDirectReaction] at hq
        obtain ⟨hsome, f, p, hres, hacl, hp, hfix, rfl⟩ := hq
        exact ⟨hsome, .clear hverb hargs hres hacl hp hfix⟩
      | [] | [_] | _ :: _ :: _ :: _ =>
        rw [hargs] at hq
        cases hq
    · rintro ⟨hsome, hneeds⟩
      cases hneeds with
      | clear _ hargs hres hacl hp hfix =>
        rw [hargs, Action.request?_clearDirectReaction]
        exact ⟨hsome, _, _, hres, hacl, hp, hfix, rfl⟩
  · rw [Request.request?_of_ne hverb]
    constructor
    · intro hq
      cases hq
    · rintro ⟨-, hneeds⟩
      cases hneeds with
      | clear hv => exact absurd hv hverb

theorem answerAt_eq (m : Message) (s : Store) :
    m.answerAt s = m.form.answer m.interpreter.resolver m.command.raw s.flights (m.readAt s).context :=
  (m.readAt s).response_eq s

/-- **A message that asks nothing is answered alike whoever would be asked.** -/
theorem answerAt_of_not_needs (h : ∀ q, ¬m.Needs s q) (i : Interpreter) :
    answerAt { m with interpreter := i } s = m.answerAt s := by
  have hform : (Message.form { m with interpreter := i }) = m.form := rfl
  have hcontext : (readAt { m with interpreter := i } s).context = (m.readAt s).context := rfl
  rw [answerAt_eq, answerAt_eq, hform, hcontext, form_eq]
  -- a clearance is the only form that asks; where it does not, one of its conditions fails before it comes to asking
  by_cases hclear : ∃ fix fid, m.command.form = .clearDirect fix fid
  · obtain ⟨fix, fid, hclear⟩ := hclear
    obtain ⟨hverb, hargs⟩ := Command.form_eq_clearDirect_iff.1 hclear
    rw [hclear]
    simp only [Form.answer, Form.clearance]
    cases hf : (Flight.resolve s.flights fid).filter (·.aclDisplay) with
    | none => rfl
    | some f =>
      obtain ⟨hres, hacl⟩ := Option.filter_eq_some_iff.1 hf
      cases hd : Direct.ofFlight? f fix with
      | none => simp only [hd]
      | some d =>
        have hfix : fix ∈ f.currentNames := Direct.ofFlight?_isSome.1 (by rw [hd]; rfl)
        cases hp : f.position with
        | none => simp only [hd, Flight.reply, hp, Option.elim_none]
        | some p => exact absurd (.clear hverb hargs hres hacl hp hfix) (h _)
  · exact Form.answer_eq_of_ne (fun fix fid hform => hclear ⟨fix, fid, hform⟩) _ _

/-- **A message that asks is answered by what follows from the reply.** -/
theorem Needs.answerAt_eq (h : m.Needs s q) :
    ∃ f d, m.answerAt s = Action.clearDirectResponse f d (FrdReply.ask m.interpreter.resolver q) := by
  cases h with
  | @clear fix fid f p hverb hargs hres hacl hp hfix =>
    obtain ⟨d, hd⟩ := Option.isSome_iff_exists.1 (Direct.ofFlight?_isSome.2 hfix)
    refine ⟨f, d, ?_⟩
    rw [Message.answerAt_eq, form_eq, Command.form_clear hverb, hargs]
    simp only [Form.answer, Form.clearance, hres, Option.filter_some, hacl, if_true, hd, Flight.reply, hp]
    rfl

theorem perform_eq_applyAll (s : Store) (m : Message) : perform s m = s.applyAll (m.answerAt s).intents := rfl

theorem Needs.call?_eq (h : m.Needs s q) (hresolver : m.interpreter.resolver = some resolver) : m.call? s = some q :=
  call?_eq_some_iff.2 ⟨by rw [hresolver]; rfl, h⟩

theorem Needs.failed (h : m.Needs s q) (hresolver : m.interpreter.resolver = some resolver) (hq : resolver q = none) :
    m.answerAt s = .badFormat .noRouteMembership := by
  obtain ⟨f, d, hanswer⟩ := h.answerAt_eq
  rw [hanswer, hresolver, FrdReply.ask, hq]
  rfl

theorem Needs.found {frd : String} (h : m.Needs s q) (hresolver : m.interpreter.resolver = some resolver)
    (hq : resolver q = some frd) : ∃ a, m.answerAt s = .clearedDirect a ∧ a.frd = some frd := by
  obtain ⟨f, d, hanswer⟩ := h.answerAt_eq
  rw [hanswer, hresolver, FrdReply.ask, hq]
  exact ⟨Action.amendment f d (some frd), rfl, rfl⟩

theorem lookup (s : Store) (m : Message) (after : List Message) : Lookup s m after where
  quiet := answerAt_of_not_needs
  found q resolver frd h hresolver hq := h.found hresolver hq
  failed q resolver h hresolver hq := by
    have hanswer := h.failed hresolver hq
    have hperform : perform s m = s := by rw [perform_eq_applyAll, hanswer]; rfl
    refine ⟨hanswer, hperform, ?_, ?_⟩
    · rw [performAll_cons, hperform]
    · rw [calls, h.call?_eq hresolver, hperform]; rfl

/-! ## Runs -/

theorem allNeeded_calls : ∀ (messages : List Message) (s : Store),
    (∀ m ∈ messages, m.interpreter.resolver.isSome = true) → AllNeeded s messages (calls s messages)
  | [], _, _ => .nil
  | m :: messages, s, h => by
    obtain ⟨hm, hrest⟩ := List.forall_mem_cons.1 h
    have hmessages := allNeeded_calls messages (perform s m) hrest
    rw [calls]
    cases hq : m.call? s with
    | none => exact .quiet (fun q hneeds => nomatch hq.symm.trans (call?_eq_some_iff.2 ⟨hm, hneeds⟩)) hmessages
    | some q => exact .asks (call?_eq_some_iff.1 hq).2 hmessages

/-- **The server is asked exactly when it is needed**, along every run of messages that have somebody to ask. -/
theorem lookups_performAll (s : Store) (messages : List Message)
    (h : ∀ m ∈ messages, m.interpreter.resolver.isSome = true) : Lookups s messages where
  needed := allNeeded_calls messages s h
  each before m after _ := lookup (performAll s before) m after

end Message
end Clearance
