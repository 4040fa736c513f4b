import Clearance.Proofs.Text.Occurrence
import Clearance.Proofs.Text.Segments
import Clearance.Route.Basic
/-!
# Place — where the names of a route stand in its text

`nameOffset?` is the offset of the token that a name of a route was read from.  The name may occur before it, inside a
longer name or in front of the names, and `tokens_cut` says which tokens the text has from that occurrence on: those in
between come first, and then the names from the name on.
-/
namespace Clearance
namespace Route

open Text

/-- The tokens of a trimmed text, with the offsets at which they stand in the text. -/
def tokenPlaces (raw : List Char) : List (Nat × List Char) :=
  (placed (raw.takeWhile isBlank).length (segments isDot (trim raw))).filter fun t => !t.2.isEmpty

/-- A text that can be a name of a route: one token that is no marker, without blanks. -/
structure IsName (t : List Char) : Prop where
  nonempty : t ≠ []
  solid : ∀ c ∈ t, isBlank c = false
  undotted : ∀ c ∈ t, isDot c = false
  unmarked : isMarker t = false

instance (t : List Char) : Decidable (IsName t) :=
  decidable_of_iff
    (t ≠ [] ∧ (t.all fun c => !isBlank c) = true ∧ (t.all fun c => !isDot c) = true ∧ isMarker t = false)
    ⟨fun h => ⟨h.1, by simpa using h.2.1, by simpa using h.2.2.1, h.2.2.2⟩,
      fun h => ⟨h.nonempty, by simpa using h.solid, by simpa using h.undotted, h.unmarked⟩⟩

def namePlaces (raw : List Char) : List (Nat × List Char) := (tokenPlaces raw).dropWhile fun t => isMarker t.2

/-- The offset of the token that the first name like this was read from. -/
def nameOffset? (raw name : List Char) : Option Nat := ((namePlaces raw).find? (·.2 == name)).map (·.1)

variable {raw name : List Char} {n p : Nat}

theorem map_tokenPlaces (raw : List Char) : (tokenPlaces raw).map (·.2) = tokens (trim raw) := by
  rw [tokenPlaces, map_filter_nonempty, map_placed]
  rfl

theorem map_namePlaces (raw : List Char) : (namePlaces raw).map (·.2) = nameTexts raw := by
  have hcomp : (fun t : Nat × List Char => isMarker t.2) = isMarker ∘ (·.2) := rfl
  rw [namePlaces, hcomp, ← List.dropWhile_map, map_tokenPlaces]
  rfl

theorem exists_nameOffset? (h : name ∈ nameTexts raw) : ∃ p, nameOffset? raw name = some p := by
  rw [← map_namePlaces] at h
  obtain ⟨t, ht, hname⟩ := List.mem_map.1 h
  have hsome : ((namePlaces raw).find? (·.2 == name)).isSome = true :=
    List.find?_isSome.2 ⟨t, ht, beq_iff_eq.2 hname⟩
  obtain ⟨u, hu⟩ := Option.isSome_iff_exists.1 hsome
  exact ⟨u.1, by rw [nameOffset?, hu]; rfl⟩

/-- **What the offset of a name means.**  The names that come before it are others; the trimmed text falls apart at it,
behind a dot, into what is in front of the name and what starts with it and has the later names after it. -/
theorem split_of_nameOffset? (h : nameOffset? raw name = some p) :
    ∃ before after a b, nameTexts raw = before ++ name :: after ∧ name ∉ before ∧ name ≠ [] ∧
      trim raw = a ++ (name ++ b) ∧ p = (raw.takeWhile isBlank).length + a.length ∧ EndsWithCut isDot a ∧
      tokens (name ++ b) = name :: after := by
  obtain ⟨t, ht, rfl⟩ := Option.map_eq_some_iff.1 h
  obtain ⟨hname, before, after, hplaces, hbefore⟩ := List.find?_eq_some_iff_append.1 ht
  obtain rfl : t.2 = name := beq_iff_eq.1 hname
  have hnames : nameTexts raw = before.map (·.2) ++ t.2 :: after.map (·.2) := by
    rw [← map_namePlaces, hplaces, List.map_append, List.map_cons]
  have htokens : tokenPlaces raw =
      ((tokenPlaces raw).takeWhile (fun t => isMarker t.2) ++ before) ++ t :: after := by
    rw [List.append_assoc, ← hplaces, namePlaces, List.takeWhile_append_dropWhile]
  obtain ⟨a, b, htrim, hp, ha, hb⟩ := pieces_of_placed htokens
  have hafter : tokens (t.2 ++ b) = t.2 :: after.map (·.2) := hb
  have hpiece : t.2 ∈ pieces isDot (t.2 ++ b) := hb ▸ List.mem_cons_self
  refine ⟨before.map (·.2), after.map (·.2), a, b, hnames, fun hmem => ?_, (of_mem_pieces hpiece).1, htrim, hp, ha,
    hafter⟩
  obtain ⟨u, hu, hut⟩ := List.mem_map.1 hmem
  have hother := hbefore u hu
  rw [hut, beq_self_eq_true] at hother
  cases hother

theorem dropWhile_append_cons {α : Type} {q : α → Bool} {x : α} {r : List α} :
    ∀ {l : List α}, (l ++ x :: r).dropWhile q = x :: r ↔ (∀ t ∈ l, q t = true) ∧ q x = false
  | [] => by
    rw [List.nil_append, List.dropWhile_cons]
    split
    · rename_i hx
      refine ⟨fun h => ?_, fun h => absurd (hx.symm.trans h.2) Bool.noConfusion⟩
      have hlen := (List.dropWhile_suffix q (l := r)).length_le
      rw [h, List.length_cons] at hlen
      omega
    · rename_i hx
      exact ⟨fun _ => ⟨fun t ht => (nomatch ht), Bool.eq_false_iff.2 hx⟩, fun _ => rfl⟩
  | a :: l => by
    rw [List.cons_append, List.dropWhile_cons]
    split
    · rename_i ha
      rw [dropWhile_append_cons, List.forall_mem_cons]
      exact ⟨fun h => ⟨⟨ha, h.1⟩, h.2⟩, fun h => ⟨h.1.2, h.2⟩⟩
    · rename_i ha
      refine ⟨fun h => ?_, fun h => absurd (h.1 a List.mem_cons_self) ha⟩
      have hlen := congrArg List.length h
      rw [List.length_cons, List.length_append] at hlen
      omega

theorem endsWithCut_between {a b : List Char} (htrim : trim raw = a ++ (name ++ b)) (hne : name ≠ [])
    (hp : p = (raw.takeWhile isBlank).length + a.length) (ha : EndsWithCut isDot a) (hn : n ≤ p)
    (hocc : name <+: raw.drop n) : EndsWithCut isDot ((raw.drop n).take (p - n)) := by
  have hblank : ∀ c ∈ raw.takeWhile isBlank, isBlank c = true := List.all_eq_true.1 List.all_takeWhile
  obtain ⟨r, hraw, -⟩ := exists_of_trim htrim fun h => hne (List.append_eq_nil_iff.1 h).1
  generalize raw.takeWhile isBlank = blanks at hraw hblank hp
  subst hp
  have hbefore : raw.take (blanks.length + a.length) = blanks ++ a := by
    rw [hraw, ← List.append_assoc, ← List.length_append, List.take_left]
  rw [← List.drop_take, hbefore]
  cases a with
  | cons c a =>
    refine EndsWithCut.of_suffix (a := blanks ++ c :: a) (fun d hd => ha d ?_) (List.drop_suffix _ _)
    rw [List.getLast?_append, List.getLast?_cons, Option.some_or] at hd
    rw [List.getLast?_cons]
    exact hd
  | nil =>
    -- the name starts the trimmed text, so it does not occur among the blanks in front of it
    rw [List.append_nil, List.length_nil, Nat.add_zero] at *
    by_cases hlt : n < blanks.length
    · obtain ⟨c, name, rfl⟩ := List.exists_cons_of_ne_nil hne
      have hc := not_isBlank_of_trim htrim
      rw [hraw, List.drop_append_of_le_length hn, List.drop_eq_getElem_cons hlt, List.cons_append] at hocc
      have hcn : c = blanks[n] := (List.cons_prefix_cons.1 hocc).1
      rw [hcn, hblank _ (List.getElem_mem hlt)] at hc
      cases hc
    · rw [List.drop_eq_nil_of_le (by omega)]
      exact .nil

theorem tokens_dot (s : List Char) : tokens ('.' :: s) = tokens s := by
  rw [tokens, tokens, pieces, segments_cons_cut rfl]
  rfl

theorem tokens_trim_dots (s : List Char) : tokens (trim ('.' :: '.' :: s)) = tokens (dropEndWhile isBlank s) := by
  have hdot : isBlank '.' = false := by decide
  have htrim : trim ('.' :: '.' :: s) = '.' :: '.' :: dropEndWhile isBlank s := by
    rw [trim, List.dropWhile_cons, hdot, if_neg Bool.false_ne_true, dropEndWhile_cons hdot, dropEndWhile_cons hdot]
  rw [htrim, tokens_dot, tokens_dot]

theorem nameTexts_dots (s : List Char) :
    nameTexts ('.' :: '.' :: s) = (tokens (dropEndWhile isBlank s)).dropWhile isMarker := by
  rw [nameTexts, tokens_trim_dots]

theorem undotted_of_mem_tokens {s t : List Char} (h : t ∈ tokens s) : ∀ c ∈ t, isDot c = false :=
  (of_mem_pieces h).2

/-- Where a name starts there is a token. -/
theorem tokens_take_ne_nil {s : List Char} {k : Nat} (hne : name ≠ []) (hname : ∀ c ∈ name, isDot c = false)
    (hocc : name <+: s) (hk : 0 < k) : tokens (s.take k) ≠ [] := by
  obtain ⟨c, name, rfl⟩ := List.exists_cons_of_ne_nil hne
  obtain ⟨r, rfl⟩ := hocc
  obtain ⟨k, rfl⟩ := Nat.exists_eq_succ_of_ne_zero (Nat.ne_of_gt hk)
  obtain ⟨t, ts, hs⟩ := exists_segments_eq_cons isDot ((name ++ r).take k)
  rw [List.cons_append, List.take_succ_cons, tokens, pieces,
    segments_cons_keep (hname c List.mem_cons_self) hs, List.filter_cons]
  exact List.cons_ne_nil _ _

/-- **A name that stands between dots is one of the names.** -/
theorem mem_nameTexts_dots (hname : IsName name) {a b : List Char} (ha : EndsWithCut isDot a)
    (hb : b = [] ∨ ∃ s, b = '.' :: s) : name ∈ nameTexts ('.' :: '.' :: (a ++ (name ++ b))) := by
  have htrim : ∃ b', dropEndWhile isBlank (name ++ b) = name ++ b' ∧ (b' = [] ∨ ∃ s, b' = '.' :: s) := by
    rcases hb with rfl | ⟨s, rfl⟩
    · exact ⟨[], by rw [List.append_nil, dropEndWhile_of_forall hname.solid], .inl rfl⟩
    · have hdot : dropEndWhile isBlank ('.' :: s) = '.' :: dropEndWhile isBlank s := dropEndWhile_cons (by decide) s
      refine ⟨'.' :: dropEndWhile isBlank s, ?_, .inr ⟨_, rfl⟩⟩
      rw [dropEndWhile_append (by rw [hdot]; exact List.cons_ne_nil _ _), hdot]
  obtain ⟨b', htrim, hb'⟩ := htrim
  have htokens : name ∈ tokens (name ++ b') := by
    rcases hb' with rfl | ⟨s, rfl⟩
    · rw [List.append_nil, tokens, pieces_of_forall hname.nonempty hname.undotted]
      exact List.mem_singleton_self name
    · rw [tokens, pieces_append_cut rfl, pieces_of_forall hname.nonempty hname.undotted]
      exact List.mem_cons_self
  have hmem : name ∈ tokens (dropEndWhile isBlank (a ++ (name ++ b))) := by
    have hne : name ++ b' ≠ [] := fun h => hname.nonempty (List.append_eq_nil_iff.1 h).1
    rw [dropEndWhile_append (by rw [htrim]; exact hne), htrim, tokens, pieces_append ha]
    exact List.mem_append_right _ htokens
  rw [nameTexts_dots]
  rw [← List.takeWhile_append_dropWhile (p := isMarker) (l := tokens _), List.mem_append] at hmem
  refine hmem.resolve_left fun hmarker => ?_
  have hall := List.all_eq_true.1 List.all_takeWhile name hmarker
  exact Bool.noConfusion (hname.unmarked.symm.trans hall)

theorem exists_find?_of_nameOffset? (h : nameOffset? raw name = some p) : ∃ n ≤ p, find? name raw = some n := by
  obtain ⟨before, after, a, b, -, -, hne, htrim, rfl, -, -⟩ := split_of_nameOffset? h
  have hrest := dropEndWhile_drop_of_trim htrim fun h => hne (List.append_eq_nil_iff.1 h).1
  have hocc := (List.prefix_append name b).trans (hrest ▸ dropEndWhile_prefix_self isBlank _)
  refine exists_find?_le hocc ?_
  have hlen := hocc.length_le
  have hpos := List.length_pos_iff.2 hne
  rw [List.length_drop] at hlen
  omega

/-- **A route text that is cut at the first occurrence of a name** has the tokens between that occurrence and the name,
and then what the route names from the name on.  The tokens in between are none only if the name occurs first where it
was read. -/
theorem tokens_cut (hn : find? name raw = some n) (hp : nameOffset? raw name = some p) :
    ∃ before after, nameTexts raw = before ++ name :: after ∧ name ∉ before ∧ n ≤ p ∧
      (tokens ((raw.drop n).take (p - n)) = [] ↔ n = p) ∧
      tokens (trim ('.' :: '.' :: raw.drop n)) = tokens ((raw.drop n).take (p - n)) ++ name :: after := by
  obtain ⟨before, after, a, b, hnames, hbefore, hne, htrim, hpos, ha, htokens⟩ := split_of_nameOffset? hp
  have hnb : name ++ b ≠ [] := fun h => hne (List.append_eq_nil_iff.1 h).1
  have hrest : dropEndWhile isBlank (raw.drop p) = name ++ b := hpos ▸ dropEndWhile_drop_of_trim htrim hnb
  have hle : n ≤ p := by
    obtain ⟨m, hm, hfind⟩ := exists_find?_of_nameOffset? hp
    rw [hn] at hfind
    cases hfind
    exact hm
  have hocc := (find?_eq_some_iff.1 hn).1
  have hcut := endsWithCut_between htrim hne hpos ha hle hocc
  have hbetween : raw.drop n = (raw.drop n).take (p - n) ++ raw.drop p := by
    have hsplit := List.take_append_drop (p - n) (raw.drop n)
    rw [List.drop_drop, Nat.add_sub_cancel' hle] at hsplit
    exact hsplit.symm
  refine ⟨before, after, hnames, hbefore, hle, ⟨fun hnil => ?_, ?_⟩, ?_⟩
  · have hname : name ∈ tokens (name ++ b) := htokens ▸ List.mem_cons_self
    refine Nat.le_antisymm hle (Nat.not_lt.1 fun hlt => ?_)
    exact tokens_take_ne_nil hne (undotted_of_mem_tokens hname) hocc (Nat.sub_pos_of_lt hlt) hnil
  · rintro rfl
    rw [Nat.sub_self, List.take_zero]
    rfl
  · conv => lhs; rw [hbetween]
    rw [tokens_trim_dots, dropEndWhile_append (by rw [hrest]; exact hnb), hrest, tokens, pieces_append hcut, ← tokens,
      ← tokens, htokens]

/-- **The names of a route text that is cut**; markers in front do not count. -/
theorem nameTexts_cut (hn : find? name raw = some n) (hp : nameOffset? raw name = some p) :
    ∃ before after, nameTexts raw = before ++ name :: after ∧ name ∉ before ∧
      nameTexts ('.' :: '.' :: raw.drop n) =
        (tokens ((raw.drop n).take (p - n)) ++ name :: after).dropWhile isMarker := by
  obtain ⟨before, after, hnames, hbefore, -, -, htokens⟩ := tokens_cut hn hp
  exact ⟨before, after, hnames, hbefore, congrArg (List.dropWhile isMarker) htokens⟩

end Route
end Clearance
