import Mathlib.Data.List.DropRight
import Clearance.Session.Basic
/-!
# TypedLine — what is typed into the compose area, and what becomes of it

A message may be typed in parts, set anew and given up before it is submitted, with other steps of the session in
between.  `lineAfter` reads off the steps what is typed when they are over, without running them.  `run_typed` says that
submitting comes to giving that text as a command, and that text which is given up leaves no trace.
-/
namespace Clearance

namespace Step

/-- What the step leaves in the line, whatever stood there. -/
def left? : Step → Option String
  | setText text => some text
  | abort | submit => some ""
  | _ => none

/-- What the step adds to the line. -/
def pushed : Step → String
  | pushText text => text
  | _ => ""

def line : Step → String → String
  | setText text, _ => text
  | pushText text, old => old ++ text
  | abort, _ | submit, _ => ""
  | _, old => old

theorem line_eq (e : Step) (old : String) : e.line old = e.left?.getD old ++ e.pushed := by
  cases e <;> simp [line, left?, pushed]

def isTyping : Step → Bool
  | setText _ | pushText _ => true
  | _ => false

end Step

namespace Outcome

def isCleared : Outcome → Bool
  | cleared => true
  | _ => false

/-- Whether the step came to nothing that is shown. -/
def isSilent : Outcome → Bool
  | silent => true
  | _ => false

end Outcome

namespace Session

/-- What stands in the line after steps: what the last of them to set or empty it left there, and then what was pushed
since. -/
def lineAfter (start : String) (steps : List Step) : String :=
  (steps.reverse.findSome? Step.left?).getD start ++
    String.join ((steps.rtakeWhile fun e => e.left?.isNone).map Step.pushed)

/-- The steps with a command in the place of every submit, and without the submits of an empty line.  `before` are the
steps that came before them. -/
def asCommands (start : String) (before : List Step) : List Step → List Step
  | [] => []
  | .submit :: es =>
    if lineAfter start before = "" then asCommands start (before ++ [.submit]) es
    else .command (lineAfter start before) :: asCommands start (before ++ [.submit]) es
  | e :: es => e :: asCommands start (before ++ [e]) es

/-- What submitting a text comes to: `s` is the session before it and `t` the one after it. -/
structure Submits (setting : Setting) (s : Session) (text : String) (o : Outcome) (t : Session) : Prop where
  empty : text = "" → o = .cleared ∧ t = s
  answered : text ≠ "" → ∃ r, r = setting.interpreter.interpret text s.store.flights (s.context setting) ∧
    o = .answered r ∧ t.store = s.store.applyAll r.intents ∧ t.clock = s.clock
  emptied : t.area = .empty

/-- What the compose area contributes to a session, over all its runs. -/
structure ActsAsTyped (setting : Setting) (s : Session) : Prop where
  submits : ∀ before after, ∃ o, (s.run setting (before ++ .submit :: after)).1[before.length]? = some o ∧
    Submits setting (s.run setting before).2 (lineAfter s.area.text before) o
      (s.run setting (before ++ [.submit])).2
  aborts : ∀ before, (s.run setting (before ++ [.abort])).2.area = .empty
  commands : ∀ steps,
    (s.run setting (asCommands s.area.text [] steps)).1 = (s.run setting steps).1.filter (!·.isCleared) ∧
    (s.run setting (asCommands s.area.text [] steps)).2.store = (s.run setting steps).2.store ∧
    (s.run setting (asCommands s.area.text [] steps)).2.clock = (s.run setting steps).2.clock
  /-- Text that is given up does not matter: two runs that type different texts before they abort. -/
  discards : ∀ before typed typed' after, .submit ∉ typed →
    typed.filter (!·.isTyping) = typed'.filter (!·.isTyping) →
    (s.run setting (before ++ typed ++ .abort :: after)).1.filter (!·.isSilent) =
      (s.run setting (before ++ typed' ++ .abort :: after)).1.filter (!·.isSilent) ∧
    (s.run setting (before ++ typed ++ .abort :: after)).2 = (s.run setting (before ++ typed' ++ .abort :: after)).2

variable {setting : Setting} {s t u : Session} {e : Step}

/-! ## Runs -/

theorem run_cons (setting : Setting) (s : Session) (e : Step) (es : List Step) : s.run setting (e :: es) =
    ((s.step setting e).1 :: ((s.step setting e).2.run setting es).1, ((s.step setting e).2.run setting es).2) := rfl

theorem run_append (setting : Setting) (es : List Step) : ∀ (before : List Step) (s : Session),
    s.run setting (before ++ es) = ((s.run setting before).1 ++ ((s.run setting before).2.run setting es).1,
      ((s.run setting before).2.run setting es).2)
  | [], _ => rfl
  | e :: before, s => by
    rw [List.cons_append, run_cons, run_append setting es before, run_cons]
    rfl

theorem length_run (setting : Setting) : ∀ (es : List Step) (s : Session), (s.run setting es).1.length = es.length
  | [], _ => rfl
  | e :: es, s => by rw [run_cons, List.length_cons, length_run setting es, List.length_cons]

/-! ## The line -/

theorem lineAfter_append_singleton (start : String) (before : List Step) (e : Step) :
    lineAfter start (before ++ [e]) = e.left?.getD (lineAfter start before) ++ e.pushed := by
  rw [lineAfter, List.reverse_append, List.reverse_singleton, List.singleton_append, List.findSome?_cons,
    List.rtakeWhile_concat]
  cases e <;> simp [Step.left?, Step.pushed, lineAfter, String.append_assoc]

def submitted (setting : Setting) (s : Session) : Response :=
  setting.interpreter.interpret s.area.text s.store.flights (s.context setting)

theorem step_submit_of_empty (setting : Setting) (h : s.area.text = "") : s.step setting .submit = (.cleared, s) := by
  obtain ⟨store, ⟨text⟩, clock⟩ := s
  obtain rfl : text = "" := h
  rfl

theorem step_submit (setting : Setting) (h : s.area.text ≠ "") : s.step setting .submit =
    (.answered (s.submitted setting),
      { s with store := s.store.applyAll (s.submitted setting).intents, area := .empty }) := by
  have hne : s.area.text.isEmpty = false := Bool.eq_false_iff.2 fun he => h (String.isEmpty_iff.1 he)
  simp only [step, react, ComposeArea.submit, hne]
  rfl

/-- **Only a submit reads the line**: any other step does the same whatever stands there, and then changes it its own
way. -/
theorem step_typed (he : e ≠ .submit) (text : String) :
    { s with area := ⟨text⟩ }.step setting e =
        ((s.step setting e).1, { (s.step setting e).2 with area := ⟨e.line text⟩ }) ∧
      (s.step setting e).1.isCleared = false := by
  cases e with
  | submit => exact absurd rfl he
  | mark fid since | direct fid fix action | restore fid | pending fid rule =>
    simp only [step, react, withFlight]
    cases Flight.resolve s.store.flights fid <;> exact ⟨rfl, rfl⟩
  | reroute fid rule index action =>
    simp only [step, react, withFlight]
    cases Flight.resolve s.store.flights fid with
    | none => exact ⟨rfl, rfl⟩
    | some f =>
      simp only
      cases (rule.routes f)[index]? <;> exact ⟨rfl, rfl⟩
  | _ => exact ⟨rfl, rfl⟩

theorem area_step (setting : Setting) (s : Session) (e : Step) : (s.step setting e).2.area = ⟨e.line s.area.text⟩ := by
  by_cases he : e = .submit
  · subst he
    by_cases h : s.area.text = ""
    · rw [step_submit_of_empty setting h]
      exact congrArg ComposeArea.mk h
    · rw [step_submit setting h]
      rfl
  · exact congrArg (fun r => r.2.area) (step_typed (s := s) he s.area.text).1

theorem area_run (setting : Setting) (s : Session) (before : List Step) :
    (s.run setting before).2.area.text = lineAfter s.area.text before := by
  induction before using List.reverseRecOn with
  | nil => exact String.append_empty.symm
  | append_singleton before e ih =>
    rw [run_append, run_cons, lineAfter_append_singleton, ← ih, ← Step.line_eq]
    exact congrArg ComposeArea.text (area_step setting (s.run setting before).2 e)

/-! ## Sessions that differ in the line -/

/-- The sessions differ at most in what stands in the line. -/
structure Alike (s t : Session) : Prop where
  store : s.store = t.store
  clock : s.clock = t.clock

theorem Alike.eq (h : Alike s t) (harea : s.area = t.area) : s = t := by
  obtain ⟨store, area, clock⟩ := s
  obtain ⟨rfl, rfl⟩ := h
  obtain rfl := harea
  rfl

theorem Alike.step (setting : Setting) (h : Alike s t) (he : e ≠ .submit) :
    (s.step setting e).1 = (t.step setting e).1 ∧ Alike (s.step setting e).2 (t.step setting e).2 := by
  rw [← Alike.eq (s := { s with area := t.area }) ⟨h.store, h.clock⟩ rfl, (step_typed (s := s) he t.area.text).1]
  exact ⟨rfl, rfl, rfl⟩

/-! ## Commands in the place of submits -/

theorem asCommands_of_ne_submit (start : String) (before es : List Step) (he : e ≠ .submit) :
    asCommands start before (e :: es) = e :: asCommands start (before ++ [e]) es := by
  cases e with
  | submit => exact absurd rfl he
  | _ => rfl

/-- **A session and the one that is given commands instead go the same way**: they differ in the line alone. -/
theorem run_asCommands (setting : Setting) (start : String) : ∀ (es before : List Step) {s t : Session},
    s.area.text = lineAfter start before → Alike s t →
    (t.run setting (asCommands start before es)).1 = (s.run setting es).1.filter (!·.isCleared) ∧
      Alike (s.run setting es).2 (t.run setting (asCommands start before es)).2
  | [], _, _, _, _, halike => ⟨rfl, halike⟩
  | e :: es, before, s, t, hline, halike => by
    have hnext : (s.step setting e).2.area.text = lineAfter start (before ++ [e]) := by
      rw [lineAfter_append_singleton, ← hline, area_step, Step.line_eq]
    by_cases he : e = .submit
    · subst he
      rw [asCommands, ← hline]
      by_cases hempty : s.area.text = ""
      · -- the submit of an empty line has no command in its place, and its outcome is left out
        rw [if_pos hempty, run_cons, List.filter_cons]
        rw [step_submit_of_empty setting hempty] at hnext ⊢
        exact run_asCommands setting start es _ hnext halike
      · -- both interpret the same text over the same store, at the same time
        have hanswer : t.step setting (.command s.area.text) = (.answered (s.submitted setting),
            { t with store := s.store.applyAll (s.submitted setting).intents }) := by
          simp only [Session.step, react, apply, Outcome.intents, submitted, context, halike.store, halike.clock]
        rw [if_neg hempty, run_cons, run_cons, List.filter_cons, hanswer]
        rw [step_submit setting hempty] at hnext ⊢
        have hafter : Alike { s with store := s.store.applyAll (s.submitted setting).intents, area := .empty }
            { t with store := s.store.applyAll (s.submitted setting).intents } := ⟨rfl, halike.clock⟩
        obtain ⟨houtcomes, hend⟩ := run_asCommands setting start es (before ++ [.submit]) hnext hafter
        exact ⟨congrArg _ houtcomes, hend⟩
    · obtain ⟨houtcome, hafter⟩ := halike.step setting he
      obtain ⟨houtcomes, hend⟩ := run_asCommands setting start es _ hnext hafter
      rw [asCommands_of_ne_submit start before es he, run_cons, run_cons, List.filter_cons,
        (step_typed (s := s) he "").2, houtcomes, houtcome]
      exact ⟨rfl, hend⟩

/-! ## Text that is given up -/

theorem step_typing (setting : Setting) (s : Session) (h : e.isTyping) :
    (s.step setting e).1.isSilent ∧ Alike (s.step setting e).2 s := by
  cases e with
  | setText | pushText => exact ⟨rfl, rfl, rfl⟩
  | _ => exact absurd h Bool.false_ne_true

/-- **Steps without a submit do the same when nothing is typed**, as far as anything is shown. -/
theorem run_untyped (setting : Setting) : ∀ (es : List Step) {s t : Session}, .submit ∉ es → Alike s t →
    (s.run setting es).1.filter (!·.isSilent) =
        (t.run setting (es.filter (!·.isTyping))).1.filter (!·.isSilent) ∧
      Alike (s.run setting es).2 (t.run setting (es.filter (!·.isTyping))).2
  | [], _, _, _, halike => ⟨rfl, halike⟩
  | e :: es, s, t, hsubmit, halike => by
    rw [List.mem_cons, not_or] at hsubmit
    obtain ⟨he, hes⟩ := hsubmit
    rw [run_cons, List.filter_cons, List.filter_cons]
    by_cases htyping : e.isTyping = true
    · -- nothing takes the place of a step that only types, and its outcome is left out
      obtain ⟨hsilent, hafter⟩ := step_typing setting s htyping
      rw [hsilent, htyping]
      exact run_untyped setting es hes ⟨hafter.store.trans halike.store, hafter.clock.trans halike.clock⟩
    · rw [Bool.not_eq_true] at htyping
      obtain ⟨houtcome, hafter⟩ := halike.step setting (Ne.symm he)
      obtain ⟨houtcomes, hend⟩ := run_untyped setting es hes hafter
      rw [htyping, Bool.not_false, if_pos rfl, run_cons, List.filter_cons, houtcome, houtcomes]
      exact ⟨rfl, hend⟩

theorem run_discarded (setting : Setting) (s : Session) {typed typed' : List Step} (hsubmit : .submit ∉ typed)
    (hsame : typed.filter (!·.isTyping) = typed'.filter (!·.isTyping)) :
    (s.run setting typed).1.filter (!·.isSilent) = (s.run setting typed').1.filter (!·.isSilent) ∧
      Alike (s.run setting typed).2 (s.run setting typed').2 := by
  have hsubmit' : .submit ∉ typed' := fun hmem =>
    hsubmit (List.mem_of_mem_filter (hsame ▸ List.mem_filter.2 ⟨hmem, rfl⟩))
  obtain ⟨hl, hr⟩ := run_untyped setting typed hsubmit (s := s) ⟨rfl, rfl⟩
  obtain ⟨hl', hr'⟩ := run_untyped setting typed' hsubmit' (s := s) ⟨rfl, rfl⟩
  rw [hsame] at hl hr
  exact ⟨hl.trans hl'.symm, hr.store.trans hr'.store.symm, hr.clock.trans hr'.clock.symm⟩

/-! ## The compose area -/

theorem submits_step (setting : Setting) (s : Session) :
    Submits setting s s.area.text (s.step setting .submit).1 (s.step setting .submit).2 where
  empty h := by
    rw [step_submit_of_empty setting h]
    exact ⟨rfl, rfl⟩
  answered h := by
    rw [step_submit setting h]
    exact ⟨_, rfl, rfl, rfl, rfl⟩
  emptied := area_step setting s .submit

/-- **The compose area acts as the text that is typed**: a submit comes to giving the text in the line as a command,
and leaves the line empty. -/
theorem run_typed (setting : Setting) (s : Session) : ActsAsTyped setting s where
  submits before after := by
    refine ⟨((s.run setting before).2.step setting .submit).1, ?_, ?_⟩
    · rw [run_append, run_cons, List.getElem?_append_right (length_run setting before s).le, length_run, Nat.sub_self,
        List.getElem?_cons_zero]
    · rw [← area_run, run_append, run_cons]
      exact submits_step setting _
  aborts before := by
    rw [run_append, run_cons]
    exact area_step setting _ .abort
  commands steps := by
    obtain ⟨houtcomes, hend⟩ :=
      run_asCommands setting s.area.text steps [] (String.append_empty (s := s.area.text)).symm (t := s) ⟨rfl, rfl⟩
    exact ⟨houtcomes, hend.store.symm, hend.clock.symm⟩
  discards before typed typed' after hsubmit hsame := by
    obtain ⟨houtcomes, hend⟩ := run_discarded setting (s.run setting before).2 hsubmit hsame
    obtain ⟨houtcome, hafter⟩ := hend.step setting (e := .abort) nofun
    have habort := hafter.eq (by rw [area_step, area_step]; rfl)
    simp only [run_append, run_cons, List.filter_append, List.filter_cons, List.append_assoc, houtcomes, houtcome,
      habort, and_self]

end Session
end Clearance
