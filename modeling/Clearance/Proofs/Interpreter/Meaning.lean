import Clearance.Proofs.Interpreter.Form
import Clearance.Proofs.Text.Words
/-!
# Meaning — a message means what its words say

Blanks, small letters and whatever follows `//N123` have no meaning.  The typed text itself is only echoed, at the end
of some messages.  `interpret_words` says so for all texts, and that the words of a command, typed again, are read as
the same command.
-/
namespace Clearance

open Text

/-- Two responses, to texts `s` and `t`, that differ at most in the text that they echo. -/
structure Response.SameMeaning (s t : String) (r r' : Response) : Prop where
  status : r.status = r'.status
  rejectKind : r.rejectKind = r'.rejectKind
  intents : r.intents = r'.intents
  message : ∃ lead, r.message = lead ∧ r'.message = lead ∨ r.message = lead ++ s ∧ r'.message = lead ++ t

theorem Response.SameMeaning.refl (s t : String) (r : Response) : SameMeaning s t r r :=
  ⟨rfl, rfl, rfl, r.message, .inl ⟨rfl, rfl⟩⟩

/-- **The answer to a form depends on the typed text only where it echoes it.** -/
theorem Form.answer_sameMeaning (form : Form) (resolver : Option FrdResolver) (flights : List Flight)
    (context : Context) (s t : String) :
    Response.SameMeaning s t (form.answer resolver s flights context) (form.answer resolver t flights context) := by
  cases form with
  | weather stations => exact ⟨rfl, rfl, rfl, _, .inr ⟨rfl, rfl⟩⟩
  | readout fid => exact ⟨rfl, rfl, rfl, _, .inr ⟨rfl, rfl⟩⟩
  | noReadout | malformed | unknown => exact ⟨rfl, rfl, rfl, _, .inr ⟨rfl, rfl⟩⟩
  | _ => exact .refl s t _

namespace Command

/-- Verb and arguments, with single blanks between them. -/
def written (c : Command) : String := String.intercalate " " (c.verb :: c.args)

theorem ofWords_raw (raw raw' : String) (ws : List (List Char)) :
    ofWords raw' ws = { ofWords raw ws with raw := raw' } := by
  cases ws with
  | nil => rfl
  | cons first rest =>
    rw [ofWords, ofWords]
    split <;> rfl

/-- **Verb and arguments are read off the words in capitals.** -/
theorem parse_of_words {s t : String} (h : (words s.toList).map upper = (words t.toList).map upper) :
    parse t = { parse s with raw := t } := by
  rw [parse, parse, h]
  exact ofWords_raw s t _

theorem raw_parse (s : String) : (parse s).raw = s := by
  rw [parse_of_words rfl]

theorem form_raw (c : Command) (raw : String) : form { c with raw } = c.form := rfl

/-! ## Reading a command again -/

theorem upper_slashes (w : List Char) : upper ('/' :: '/' :: w) = '/' :: '/' :: upper w := by
  have hslash : upperChar '/' = ['/'] := by decide +kernel
  simp only [upper, List.flatMap_cons, hslash, List.singleton_append]

theorem exists_of_isShorthand {w : List Char} (h : isShorthand w = true) :
    ∃ c r, w = '/' :: '/' :: c :: r ∧ isWordChar c = true := by
  unfold isShorthand at h
  split at h
  · exact ⟨_, _, rfl, h⟩
  · cases h

/-- The argument that is typed together with the verb `//` is a word of its own. -/
theorem isWord_shorthand {w : List Char} (h : IsWord (String.ofList w)) (hshort : isShorthand w = true) :
    IsWord (String.ofList (w.drop 2)) := by
  obtain ⟨c, r, rfl, -⟩ := exists_of_isShorthand hshort
  have hcapital := h.capital
  have hsolid := h.solid
  rw [String.toList_ofList] at hcapital hsolid
  rw [upper_slashes] at hcapital
  refine ⟨?_, ?_, ?_⟩ <;> rw [String.toList_ofList]
  · exact List.cons_ne_nil c r
  · exact fun d hd => hsolid d (List.mem_cons_of_mem _ (List.mem_cons_of_mem _ hd))
  · exact (List.cons.inj (List.cons.inj hcapital).2).2

/-- **Verb and arguments of a message are words of a message.** -/
theorem isWord_parse {s : String} (h : words s.toList ≠ []) : ∀ w ∈ (parse s).verb :: (parse s).args, IsWord w := by
  have hws : ∀ w ∈ (words s.toList).map upper, IsWord (String.ofList w) := by
    intro w hw
    obtain ⟨u, hu, rfl⟩ := List.mem_map.1 hw
    exact isWord_upper hu
  obtain ⟨first, rest, hcons⟩ := List.exists_cons_of_ne_nil (mt List.map_eq_nil_iff.1 h)
  rw [hcons, List.forall_mem_cons] at hws
  rw [parse, hcons, ofWords, List.forall_mem_cons]
  split
  · rename_i hshort
    have hverb : IsWord vciVerb := by decide +kernel
    exact ⟨hverb, List.forall_mem_singleton.2 (isWord_shorthand hws.1 hshort)⟩
  · refine ⟨hws.1, fun w hw => ?_⟩
    obtain ⟨u, hu, rfl⟩ := List.mem_map.1 hw
    exact hws.2 u hu

theorem isShorthand_verb (s : String) : isShorthand (parse s).verb.toList = false := by
  have hvci : isShorthand vciVerb.toList = false := by decide
  rw [parse]
  cases (words s.toList).map upper with
  | nil => rfl
  | cons first rest =>
    rw [ofWords]
    split
    · exact hvci
    · rename_i hshort
      rw [String.toList_ofList]
      exact Bool.eq_false_iff.2 hshort

/-- **A command that is written out is read as the same command.** -/
theorem parse_written (s : String) : parse (parse s).written = { parse s with raw := (parse s).written } := by
  by_cases hwords : words s.toList = []
  · have hempty : parse s = ⟨"", [], s⟩ := by
      rw [parse, hwords]
      rfl
    rw [hempty]
    rfl
  · rw [written, parse_intercalate (isWord_parse hwords), List.map_cons, ofWords, isShorthand_verb,
      if_neg Bool.false_ne_true, List.map_map, String.ofList_toList]
    have hargs : (parse s).args.map (String.ofList ∘ String.toList) = (parse s).args := by
      rw [show String.ofList ∘ String.toList = id from funext fun _ => String.ofList_toList, List.map_id]
    rw [hargs]

/-! ## The verb with its argument -/

/-- **`//` together with a word is `//` and the word**, whatever follows. -/
theorem form_shorthand {w : String} (hsolid : ∀ c ∈ w.toList, isBlank c = false) {c : Char} {rest : List Char}
    (hupper : upper w.toList = c :: rest) (hc : isWordChar c = true) (r : String) :
    (parse ("//" ++ w ++ " " ++ r)).form = .toggleVci (some (String.ofList (upper w.toList))) := by
  have hsolid' : ∀ d ∈ '/' :: '/' :: w.toList, isBlank d = false :=
    List.forall_mem_cons.2 ⟨by decide, List.forall_mem_cons.2 ⟨by decide, hsolid⟩⟩
  have hwords : words ("//" ++ w ++ " " ++ r).toList = ('/' :: '/' :: w.toList) :: words r.toList := by
    rw [← words_append_blank (List.cons_ne_nil _ _) hsolid']
    simp
  have hshort : isShorthand ('/' :: '/' :: upper w.toList) = true := by
    rw [hupper]
    exact hc
  rw [parse, hwords, List.map_cons, upper_slashes, ofWords, if_pos hshort]
  rfl

theorem form_spaced {w : String} (hne : w.toList ≠ []) (hsolid : ∀ c ∈ w.toList, isBlank c = false) (r : String) :
    (parse ("// " ++ w ++ " " ++ r)).form = .toggleVci (some (String.ofList (upper w.toList))) := by
  have hsolid' : ∀ d ∈ ['/', '/'], isBlank d = false :=
    List.forall_mem_cons.2 ⟨by decide, List.forall_mem_singleton.2 (by decide)⟩
  have hwords : words ("// " ++ w ++ " " ++ r).toList = ['/', '/'] :: w.toList :: words r.toList := by
    rw [← words_append_blank hne hsolid, ← words_append_blank (List.cons_ne_nil _ _) hsolid']
    simp
  rw [parse, hwords, List.map_cons, upper_slashes]
  rfl

end Command

namespace Interpreter

open Command

theorem interpret_eq_answer (i : Interpreter) (text : String) (flights : List Flight) (context : Context) :
    i.interpret text flights context = (parse text).form.answer i.resolver text flights context := by
  rw [interpret, dispatch_eq_answer, raw_parse]

/-- **The meaning of a message depends only on its words.**  Texts with the same words in capitals are read as the same
verb and arguments and get the same response, up to the text that it echoes; verb and arguments, written out with single
blanks, are read as themselves; and `//` may be typed together with its argument or not, whatever follows it. -/
theorem interpret_words :
    (∀ s t : String, (words s.toList).map upper = (words t.toList).map upper →
      (parse s).verb = (parse t).verb ∧ (parse s).args = (parse t).args ∧
      ∀ (i : Interpreter) (flights : List Flight) (context : Context),
        Response.SameMeaning s t (i.interpret s flights context) (i.interpret t flights context)) ∧
    (∀ s : String, (parse (parse s).written).verb = (parse s).verb ∧ (parse (parse s).written).args = (parse s).args) ∧
    (∀ (w r r' : String) (c : Char) (rest : List Char), (∀ d ∈ w.toList, isBlank d = false) →
      upper w.toList = c :: rest → isWordChar c = true →
      ∀ (i : Interpreter) (flights : List Flight) (context : Context),
        i.interpret ("//" ++ w ++ " " ++ r) flights context = i.interpret ("// " ++ w ++ " " ++ r') flights context) := by
  refine ⟨fun s t h => ?_, fun s => ?_, fun w r r' c rest hsolid hupper hc i flights context => ?_⟩
  · have hparse := parse_of_words h
    refine ⟨by rw [hparse], by rw [hparse], fun i flights context => ?_⟩
    rw [i.interpret_eq_answer, i.interpret_eq_answer, hparse, form_raw]
    exact Form.answer_sameMeaning _ i.resolver flights context s t
  · rw [parse_written]
    exact ⟨rfl, rfl⟩
  · have hne : w.toList ≠ [] := fun hnil => by
      rw [hnil] at hupper
      cases hupper
    rw [i.interpret_eq_answer, i.interpret_eq_answer, form_shorthand hsolid hupper hc, form_spaced hne hsolid]
    rfl

theorem interpret_words_of_typed_variants :
    (words " qu  oak\tn1".toList).map upper = (words "QU OAK N1 ".toList).map upper ∧
    (∀ d ∈ "n1".toList, isBlank d = false) ∧ upper "n1".toList = ['N', '1'] ∧ isWordChar 'N' = true ∧
    ∀ (i : Interpreter) (flights : List Flight) (context : Context),
      Response.SameMeaning " qu  oak\tn1" "QU OAK N1 " (i.interpret " qu  oak\tn1" flights context)
        (i.interpret "QU OAK N1 " flights context) ∧
      i.interpret ("//" ++ "n1" ++ " " ++ "UU") flights context =
        i.interpret ("// " ++ "n1" ++ " " ++ "N2") flights context := by
  have hwords : (words " qu  oak\tn1".toList).map upper = (words "QU OAK N1 ".toList).map upper := by decide +kernel
  have hsolid : ∀ d ∈ "n1".toList, isBlank d = false :=
    List.forall_mem_cons.2 ⟨by decide, List.forall_mem_singleton.2 (by decide)⟩
  have hupper : upper "n1".toList = ['N', '1'] := by decide +kernel
  have hc : isWordChar 'N' = true := by decide
  refine ⟨hwords, hsolid, hupper, hc, fun i flights context => ⟨?_, ?_⟩⟩
  · exact (interpret_words.1 " qu  oak\tn1" "QU OAK N1 " hwords).2.2 i flights context
  · exact interpret_words.2.2 "n1" "UU" "N2" 'N' ['1'] hsolid hupper hc i flights context

end Interpreter
end Clearance
