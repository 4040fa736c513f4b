import Clearance.Proofs.Route.Spelling
/-!
# Transport — the text in which a route is sent

The flight data server gets a route as its tokens with single spaces between them.  The same text comes from cutting the
route at every run of dots, spaces between all that is left, and trimming: the empty stretches that dots at the ends
leave are trimmed away (`trim_intercalate_stretches`).  For a route without white space nothing else is, so the text sent
and the route stored here have the same fixes.
-/
namespace Clearance
namespace Route

open Text

/-- What is left of a text that is cut at its runs of dots, each as long as it goes.  A text that begins or ends with dots
has an empty stretch there. -/
def stretches (s : List Char) : List (List Char) :=
  match _h : s.dropWhile (!isDot ·) with
  | [] => [s]
  | _ :: rest => s.takeWhile (!isDot ·) :: stretches (rest.dropWhile isDot)
termination_by s.length
decreasing_by
  have hrest := (List.dropWhile_sublist (!isDot ·) (l := s)).length_le
  rw [_h, List.length_cons] at hrest
  exact Nat.lt_of_le_of_lt (List.dropWhile_sublist _).length_le hrest

/-- The text sent, with its spaces written as dots again. -/
def dotted (text : String) : String := text.map fun c => if c = ' ' then '.' else c

variable {s t : List Char} {raw : String}

/-! ## Runs of dots -/

theorem isDot_iff {c : Char} : isDot c = true ↔ c = '.' := decide_eq_true_iff

theorem forall_not_isDot_iff : (∀ c ∈ s, isDot c = false) ↔ '.' ∉ s := by
  constructor
  · exact fun h hdot => absurd (h '.' hdot) (by decide)
  · exact fun h c hc => decide_eq_false fun hdot => h (hdot ▸ hc)

theorem stretches_of_undotted (h : ∀ c ∈ s, isDot c = false) : stretches s = [s] := by
  have hdrop : s.dropWhile (!isDot ·) = [] := List.dropWhile_eq_nil_iff.2 fun c hc => by rw [h c hc]; rfl
  unfold stretches
  split
  · rfl
  · rename_i hcons
    cases hdrop.symm.trans hcons

theorem stretches_append (ht : ∀ c ∈ t, isDot c = false) (rest : List Char) :
    stretches (t ++ '.' :: rest) = t :: stretches (rest.dropWhile isDot) := by
  have hkeep : ∀ c ∈ t, (!isDot c) = true := fun c hc => by rw [ht c hc]; rfl
  have hdrop : (t ++ '.' :: rest).dropWhile (!isDot ·) = '.' :: rest := by
    rw [List.dropWhile_append_of_pos hkeep]
    rfl
  have htake : (t ++ '.' :: rest).takeWhile (!isDot ·) = t := by
    rw [List.takeWhile_append_of_pos hkeep, List.takeWhile_cons_of_neg (by decide), List.append_nil]
  rw [stretches]
  split
  · rename_i hnil
    cases hdrop.symm.trans hnil
  · rename_i hcons
    cases hdrop.symm.trans hcons
    rw [htake]

theorem undotted_or_append (s : List Char) :
    (∀ c ∈ s, isDot c = false) ∨ ∃ t rest, s = t ++ '.' :: rest ∧ ∀ c ∈ t, isDot c = false := by
  by_cases h : '.' ∈ s
  · obtain ⟨t, rest, hs, ht⟩ := List.eq_append_cons_of_mem h
    exact .inr ⟨t, rest, hs, forall_not_isDot_iff.2 ht⟩
  · exact .inl (forall_not_isDot_iff.2 h)

theorem tokens_dropWhile_isDot : ∀ s, tokens (s.dropWhile isDot) = tokens s
  | [] => rfl
  | c :: s => by
    rw [List.dropWhile_cons]
    split
    · rename_i hdot
      obtain rfl : c = '.' := isDot_iff.1 hdot
      rw [tokens_dropWhile_isDot s, tokens_dot]
    · rfl

/-- At the end of a text that does not begin with a dot there may be one empty stretch. -/
theorem stretches_of_undotted_head (s : List Char) (hs : ∀ c ∈ s.head?, isDot c = false) :
    ∃ back, stretches s = tokens s ++ back ∧ (back = [] ∨ back = [[]]) := by
  rcases undotted_or_append s with hundotted | ⟨t, rest, happend, ht⟩
  · rw [stretches_of_undotted hundotted]
    cases s with
    | nil => exact ⟨[[]], rfl, .inr rfl⟩
    | cons c s => exact ⟨[], by rw [tokens, pieces_of_forall (List.cons_ne_nil c s) hundotted]; rfl, .inl rfl⟩
  · have hne : t ≠ [] := by
      rintro rfl
      rw [happend] at hs
      exact absurd (hs '.' rfl) (by decide)
    have hlength : (rest.dropWhile isDot).length < s.length := by
      have hle := (List.dropWhile_sublist isDot (l := rest)).length_le
      rw [happend, List.length_append, List.length_cons]
      omega
    have htokens : tokens s = t :: tokens (rest.dropWhile isDot) := by
      rw [tokens_dropWhile_isDot, happend, tokens, pieces_append_cut rfl, pieces_of_forall hne ht]
      rfl
    obtain ⟨back, hrest, hback⟩ := stretches_of_undotted_head _ fun _ => of_mem_head?_dropWhile (l := rest)
    exact ⟨back, by rw [htokens, happend, stretches_append ht, hrest, List.cons_append], hback⟩
termination_by s.length

/-- **Both ways to cut a text find the same tokens**, but for an empty stretch at either end. -/
theorem exists_stretches (s : List Char) : ∃ front back, stretches s = front ++ (tokens s ++ back) ∧
    (front = [] ∨ front = [[]]) ∧ (back = [] ∨ back = [[]]) := by
  by_cases hs : ∀ c ∈ s.head?, isDot c = false
  · obtain ⟨back, hstretches, hback⟩ := stretches_of_undotted_head s hs
    exact ⟨[], back, hstretches, .inl rfl, hback⟩
  · cases s with
    | nil => exact absurd (fun c hc => by cases hc) hs
    | cons c s =>
      have hdot : isDot c = true := by simpa using hs
      obtain rfl : c = '.' := isDot_iff.1 hdot
      have hcut : stretches ([] ++ '.' :: s) = [] :: stretches (s.dropWhile isDot) :=
        stretches_append (t := []) (fun c hc => (nomatch hc)) s
      obtain ⟨back, hstretches, hback⟩ := stretches_of_undotted_head _ fun _ => of_mem_head?_dropWhile (l := s)
      rw [tokens_dropWhile_isDot, ← tokens_dot] at hstretches
      exact ⟨[[]], back, by rw [← List.nil_append ('.' :: s), hcut, hstretches]; rfl, .inr rfl, hback⟩

theorem filter_stretches (s : List Char) : ((stretches s).filter fun t => !t.isEmpty) = tokens s := by
  obtain ⟨front, back, hstretches, hfront, hback⟩ := exists_stretches s
  have hends : ∀ ts : List (List Char), ts = [] ∨ ts = [[]] → (ts.filter fun t => !t.isEmpty) = [] := by
    rintro ts (rfl | rfl) <;> rfl
  have htokens : ((tokens s).filter fun t => !t.isEmpty) = tokens s :=
    List.filter_eq_self.2 fun t ht => by simpa using (of_mem_pieces ht).1
  rw [hstretches, List.filter_append, List.filter_append, hends front hfront, hends back hback, htokens,
    List.nil_append, List.append_nil]

/-! ## Spaces between the tokens -/

theorem of_mem_intercalate {sep : List Char} {c : Char} : ∀ {ts : List (List Char)}, c ∈ List.intercalate sep ts →
    c ∈ sep ∨ ∃ t ∈ ts, c ∈ t
  | [], h => absurd h List.not_mem_nil
  | [t], h => by
    rw [List.intercalate_singleton] at h
    exact .inr ⟨t, List.mem_singleton_self t, h⟩
  | t :: u :: ts, h => by
    rw [List.intercalate_cons_cons, List.mem_append, List.mem_append] at h
    rcases h with (h | h) | h
    · exact .inr ⟨t, List.mem_cons_self, h⟩
    · exact .inl h
    · refine (of_mem_intercalate h).imp id ?_
      rintro ⟨v, hv, hc⟩
      exact ⟨v, List.mem_cons_of_mem t hv, hc⟩

theorem map_intercalate (f : Char → Char) (sep : List Char) : ∀ ts : List (List Char),
    (List.intercalate sep ts).map f = List.intercalate (sep.map f) (ts.map (List.map f))
  | [] => rfl
  | [t] => by rw [List.intercalate_singleton, List.map_singleton, List.intercalate_singleton]
  | t :: u :: ts => by
    rw [List.intercalate_cons_cons, List.map_append, List.map_append, map_intercalate f sep (u :: ts)]
    exact List.intercalate_cons_cons.symm

theorem intercalate_concat {sep t : List Char} : ∀ {ts : List (List Char)}, ts ≠ [] →
    List.intercalate sep (ts ++ [t]) = List.intercalate sep ts ++ (sep ++ t)
  | [u], _ => by
    rw [List.singleton_append, List.intercalate_cons_cons, List.intercalate_singleton, List.intercalate_singleton,
      List.append_assoc]
  | u :: v :: ts, _ => by
    have ih : List.intercalate sep (v :: (ts ++ [t])) = List.intercalate sep (v :: ts) ++ (sep ++ t) :=
      intercalate_concat (List.cons_ne_nil v ts)
    rw [List.cons_append, List.cons_append, List.intercalate_cons_cons, List.intercalate_cons_cons, ih,
      List.append_assoc (u ++ sep)]

theorem isBlank_of_mem_space {c : Char} (h : c ∈ [' ']) : isBlank c = true := by
  rw [List.mem_singleton.1 h]
  decide

theorem trim_spaces_front {front : List (List Char)} (h : front = [] ∨ front = [[]]) (ts : List (List Char)) :
    trim (List.intercalate [' '] (front ++ ts)) = trim (List.intercalate [' '] ts) := by
  rcases h with rfl | rfl
  · rfl
  · by_cases hts : ts = []
    · rw [hts]
      rfl
    · have hspace : trim ([' '] ++ (List.intercalate [' '] ts ++ [])) = trim (List.intercalate [' '] ts) :=
        trim_blanks_around (fun _ => isBlank_of_mem_space) (List.forall_mem_nil _) _
      rw [List.append_nil] at hspace
      rw [List.singleton_append, List.intercalate_cons_of_ne_nil hts, List.nil_append, hspace]

theorem trim_spaces_back {back : List (List Char)} (h : back = [] ∨ back = [[]]) (ts : List (List Char)) :
    trim (List.intercalate [' '] (ts ++ back)) = trim (List.intercalate [' '] ts) := by
  rcases h with rfl | rfl
  · rw [List.append_nil]
  · by_cases hts : ts = []
    · rw [hts]
      rfl
    · have hspace : trim ([] ++ (List.intercalate [' '] ts ++ [' '])) = trim (List.intercalate [' '] ts) :=
        trim_blanks_around (List.forall_mem_nil _) (fun _ => isBlank_of_mem_space) _
      rw [intercalate_concat hts, List.append_nil]
      exact hspace

/-- **The empty stretches at the ends are trimmed away.** -/
theorem trim_intercalate_stretches (s : List Char) :
    trim (List.intercalate [' '] (stretches s)) = trim (List.intercalate [' '] (tokens s)) := by
  obtain ⟨front, back, hstretches, hfront, hback⟩ := exists_stretches s
  rw [hstretches, trim_spaces_front hfront, trim_spaces_back hback]

theorem mem_of_mem_trim {c : Char} (h : c ∈ trim s) : c ∈ s := by
  obtain ⟨before, after, hs, -, -⟩ := exists_surrounding s
  rw [hs]
  exact List.mem_append_right _ (List.mem_append_left _ h)

theorem mem_of_mem_tokens {c : Char} (ht : t ∈ tokens s) (hc : c ∈ t) : c ∈ s := by
  have hflat : c ∈ (tokens s).flatten := List.mem_flatten_of_mem ht hc
  rw [tokens, flatten_pieces] at hflat
  exact (List.mem_filter.1 hflat).1

/-! ## The text sent -/

theorem toList_amendmentText (raw : String) :
    (amendmentText raw).toList = trim (List.intercalate [' '] (tokens raw.toList)) := String.toList_ofList

theorem not_dot_mem_amendmentText (raw : String) : '.' ∉ (amendmentText raw).toList := by
  rw [toList_amendmentText]
  intro hmem
  rcases of_mem_intercalate (mem_of_mem_trim hmem) with hspace | ⟨t, ht, hdot⟩
  · exact absurd hspace (by decide)
  · exact forall_not_isDot_iff.1 (of_mem_pieces ht).2 hdot

theorem trimmed_amendmentText (raw : String) : Trimmed (amendmentText raw).toList := by
  rw [toList_amendmentText]
  exact trimmed_trim _

/-- A text without dots and without outer blanks is sent as it is. -/
theorem amendmentText_of_undotted (hdot : '.' ∉ raw.toList) (htrimmed : Trimmed raw.toList) :
    amendmentText raw = raw := by
  have hundotted : ∀ c ∈ raw.toList, isDot c = false := forall_not_isDot_iff.2 hdot
  refine String.toList_inj.1 ?_
  rw [toList_amendmentText]
  by_cases hnil : raw.toList = []
  · rw [hnil]
    rfl
  · rw [tokens, pieces_of_forall hnil hundotted, List.intercalate_singleton, htrimmed.trim_eq]

/-! ## Routes without white space -/

theorem trimmed_of_solid (h : ∀ c ∈ s, isBlank c = false) : Trimmed s :=
  ⟨fun c hc => h c (List.mem_of_mem_head? hc), fun c hc => h c (List.mem_of_getLast? hc)⟩

section
variable (hsolid : ∀ c ∈ raw.toList, isBlank c = false)
include hsolid

theorem toList_amendmentText_of_solid :
    (amendmentText raw).toList = List.intercalate [' '] (tokens raw.toList) := by
  have htokens : ∀ t ∈ tokens raw.toList, ∀ c ∈ t, isBlank c = false := fun t ht c hc =>
    hsolid c (mem_of_mem_tokens ht hc)
  have htrimmed : Trimmed (List.intercalate [' '] (tokens raw.toList)) :=
    (trimmed_intercalate_iff fun t ht => (of_mem_pieces ht).1).2
      ⟨fun t ht => (trimmed_of_solid (htokens t (List.mem_of_mem_head? ht))).front,
        fun t ht => (trimmed_of_solid (htokens t (List.mem_of_getLast? ht))).back⟩
  rw [toList_amendmentText, htrimmed.trim_eq]

theorem amendmentText_of_solid :
    amendmentText raw = String.intercalate " " ((tokens raw.toList).map String.ofList) := by
  have htexts : ((tokens raw.toList).map String.ofList).map String.toList = tokens raw.toList := by simp
  refine String.toList_inj.1 ?_
  rw [toList_amendmentText_of_solid hsolid, String.toList_intercalate, htexts]
  rfl

theorem toList_dotted_of_solid :
    (dotted (amendmentText raw)).toList = List.intercalate ['.'] (tokens raw.toList) := by
  have hkeep : ∀ t ∈ tokens raw.toList, t.map (fun c => if c = ' ' then '.' else c) = t := by
    intro t ht
    refine (List.map_congr_left fun c hc => ?_).trans (List.map_id t)
    exact if_neg fun hspace => absurd (hsolid c (mem_of_mem_tokens ht hc)) (by rw [hspace]; decide)
  rw [dotted, String.toList_map, toList_amendmentText_of_solid hsolid, map_intercalate, List.map_congr_left hkeep,
    List.map_id']
  rfl

theorem nameTexts_of_solid : nameTexts raw.toList = (tokens raw.toList).dropWhile isMarker := by
  rw [nameTexts, (trimmed_of_solid hsolid).trim_eq]

/-- **The text sent and the route stored have the same fixes.** -/
theorem parse_dotted (table : FixTable) : parse (dotted (amendmentText raw)) table = parse raw table := by
  have htokens : ∀ t ∈ tokens raw.toList, t ≠ [] ∧ ∀ c ∈ t, isDot c = false := fun t ht => of_mem_pieces ht
  have hnames : nameTexts (dotted (amendmentText raw)).toList = nameTexts raw.toList := by
    have htext := toList_dotted_of_solid hsolid
    have hblank : ∀ c ∈ (dotted (amendmentText raw)).toList, isBlank c = false := by
      rw [htext]
      intro c hc
      rcases of_mem_intercalate hc with hdot | ⟨t, ht, hct⟩
      · rw [List.mem_singleton.1 hdot]
        decide
      · exact hsolid c (mem_of_mem_tokens ht hct)
    rw [nameTexts_of_solid hblank, nameTexts_of_solid hsolid, htext, tokens, pieces_intercalate rfl htokens]
  rw [parse, parse, hnames]

theorem amendmentText_eq_names (hhead : ∀ t ∈ (tokens raw.toList).head?, ¬IsMarkerText t) (table : FixTable) :
    amendmentText raw = String.intercalate " " (Fix.names (parse raw table)) := by
  have hkept : (tokens raw.toList).dropWhile isMarker = tokens raw.toList :=
    dropWhile_of_head? fun t ht => Bool.eq_false_iff.2 fun hmarker => hhead t ht (isMarker_iff.1 hmarker)
  rw [amendmentText_of_solid hsolid, names_parse, nameTexts_of_solid hsolid, hkept]

end

/-- **What is sent is the route.**  A route without white space is sent as its tokens with single spaces between them:
with dots for the spaces it has the fixes of the route, and these are what is sent unless a position marker comes first.
Whatever the text, what is sent has no dots and no outer blanks, and is sent as it is if it is sent again.  It does not
matter whether the empty stretches at the ends are left out at once or trimmed away. -/
theorem amendmentText_faithful (raw : String) :
    ((∀ c ∈ raw.toList, isBlank c = false) →
      amendmentText raw = String.intercalate " " ((tokens raw.toList).map String.ofList) ∧
      (∀ table, parse (dotted (amendmentText raw)) table = parse raw table) ∧
      ((∀ t ∈ (tokens raw.toList).head?, ¬IsMarkerText t) →
        ∀ table, amendmentText raw = String.intercalate " " (Fix.names (parse raw table)))) ∧
    ((stretches raw.toList).filter fun t => !t.isEmpty) = tokens raw.toList ∧
    amendmentText raw = String.ofList (trim (List.intercalate [' '] (stretches raw.toList))) ∧
    '.' ∉ (amendmentText raw).toList ∧ Trimmed (amendmentText raw).toList ∧
    amendmentText (amendmentText raw) = amendmentText raw := by
  refine ⟨fun hsolid => ⟨amendmentText_of_solid hsolid, parse_dotted hsolid, amendmentText_eq_names hsolid⟩,
    filter_stretches raw.toList, ?_, not_dot_mem_amendmentText raw, trimmed_amendmentText raw, ?_⟩
  · rw [trim_intercalate_stretches, amendmentText]
  · exact amendmentText_of_undotted (not_dot_mem_amendmentText raw) (trimmed_amendmentText raw)

theorem amendmentText_faithful_of_marked_route :
    let marked := "OAK090012..OAK.J5...SAC."
    let direct := "..OAK.J5...SAC."
    (∀ c ∈ marked.toList, isBlank c = false) ∧ (∀ c ∈ direct.toList, isBlank c = false) ∧
      (∀ t ∈ (tokens direct.toList).head?, ¬IsMarkerText t) ∧
      amendmentText marked = String.intercalate " " ["OAK090012", "OAK", "J5", "SAC"] ∧
      (∀ table, parse (dotted (amendmentText marked)) table = parse marked table) ∧
      ∀ table, amendmentText direct = String.intercalate " " (Fix.names (parse direct table)) := by
  intro marked direct
  have hmarked : ∀ c ∈ marked.toList, isBlank c = false := forall_not_isBlank_iff.2 (by decide +kernel)
  have hdirect : ∀ c ∈ direct.toList, isBlank c = false := forall_not_isBlank_iff.2 (by decide +kernel)
  have hhead : ∀ t ∈ (tokens direct.toList).head?, ¬IsMarkerText t := by
    intro t ht hmarker
    have hfirst : (tokens direct.toList).head? = some "OAK".toList := by decide +kernel
    obtain rfl : "OAK".toList = t := Option.some.inj (hfirst.symm.trans ht)
    exact absurd (isMarker_iff.2 hmarker) (by decide +kernel)
  have htokens : (tokens marked.toList).map String.ofList = ["OAK090012", "OAK", "J5", "SAC"] := by decide +kernel
  obtain ⟨hsent, hsame, -⟩ := (amendmentText_faithful marked).1 hmarked
  rw [htokens] at hsent
  exact ⟨hmarked, hdirect, hhead, hsent, hsame, ((amendmentText_faithful direct).1 hdirect).2.2 hhead⟩

end Route
end Clearance
