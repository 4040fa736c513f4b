import Clearance.Json.Printer
import Clearance.Proofs.Json.Scalars
/-!
# Layout — both written forms of a value are read back

The compact form and the pretty one differ in the spaces alone, and a reader skips those.  So both are one printer with
two layouts, and `read_lay` says of any layout that the text of a value is read as the document of that value.
-/
namespace Clearance
namespace Json

/-- The spaces of a written form: before an item at its depth, and behind a colon. -/
structure Layout where
  gap : Nat → List Char
  colon : List Char
  gap_space : ∀ depth, ∀ c ∈ gap depth, isSpace c = true
  colon_space : ∀ c ∈ colon, isSpace c = true

mutual

/-- The text of a value at a depth. -/
def lay (l : Layout) (depth : Nat) : Json → List Char
  | .null => ['n', 'u', 'l', 'l']
  | .bool b => writeBool b
  | .number n => Numeral.write n
  | .string s => Quoted.write s
  | .array [] => ['[', ']']
  | .array (j :: js) => '[' :: (l.gap (depth + 1) ++ (lay l (depth + 1) j ++ layItems l depth js))
  | .object [] => ['{', '}']
  | .object ((k, j) :: fs) =>
    '{' :: (l.gap (depth + 1) ++ (Quoted.write k ++ ':' :: (l.colon ++ (lay l (depth + 1) j ++ layFields l depth fs))))

def layItems (l : Layout) (depth : Nat) : List Json → List Char
  | [] => l.gap depth ++ [']']
  | j :: js => ',' :: (l.gap (depth + 1) ++ (lay l (depth + 1) j ++ layItems l depth js))

def layFields (l : Layout) (depth : Nat) : List (String × Json) → List Char
  | [] => l.gap depth ++ ['}']
  | (k, j) :: fs =>
    ',' :: (l.gap (depth + 1) ++ (Quoted.write k ++ ':' :: (l.colon ++ (lay l (depth + 1) j ++ layFields l depth fs))))

end

namespace Layout

def tight : Layout := ⟨fun _ => [], [], by simp, by simp⟩

def indented : Layout where
  gap := newline
  colon := [' ']
  gap_space depth c hc := by
    rcases List.mem_cons.1 hc with rfl | hc
    · decide
    · rw [List.eq_of_mem_replicate hc]; decide
  colon_space := List.forall_mem_singleton.2 (by decide)

end Layout

mutual

theorem lay_tight (depth : Nat) : ∀ j, lay .tight depth j = j.compact
  | .null | .bool _ | .number _ | .string _ | .array [] | .object [] => by simp [lay, compact]
  | .array (j :: js) => by simp [lay, compact, Layout.tight, ← lay_tight (depth + 1) j, ← layItems_tight depth js]
  | .object ((k, j) :: fs) => by simp [lay, compact, Layout.tight, ← lay_tight (depth + 1) j, ← layFields_tight depth fs]

theorem layItems_tight (depth : Nat) : ∀ js, layItems .tight depth js = compactItems js
  | [] => by simp [layItems, compactItems, Layout.tight]
  | j :: js => by simp [layItems, compactItems, Layout.tight, ← lay_tight (depth + 1) j, ← layItems_tight depth js]

theorem layFields_tight (depth : Nat) : ∀ fs, layFields .tight depth fs = compactFields fs
  | [] => by simp [layFields, compactFields, Layout.tight]
  | (k, j) :: fs => by
    simp [layFields, compactFields, Layout.tight, ← lay_tight (depth + 1) j, ← layFields_tight depth fs]

end

mutual

theorem lay_indented (depth : Nat) : ∀ j, lay .indented depth j = j.prettyAt depth
  | .null | .bool _ | .number _ | .string _ | .array [] | .object [] => by simp [lay, prettyAt]
  | .array (j :: js) => by
    simp [lay, prettyAt, Layout.indented, ← lay_indented (depth + 1) j, ← layItems_indented depth js]
  | .object ((k, j) :: fs) => by
    simp [lay, prettyAt, Layout.indented, ← lay_indented (depth + 1) j, ← layFields_indented depth fs]

theorem layItems_indented (depth : Nat) : ∀ js, layItems .indented depth js = prettyItems depth js
  | [] => by simp [layItems, prettyItems, Layout.indented]
  | j :: js => by
    simp [layItems, prettyItems, Layout.indented, ← lay_indented (depth + 1) j, ← layItems_indented depth js]

theorem layFields_indented (depth : Nat) : ∀ fs, layFields .indented depth fs = prettyFields depth fs
  | [] => by simp [layFields, prettyFields, Layout.indented]
  | (k, j) :: fs => by
    simp [layFields, prettyFields, Layout.indented, ← lay_indented (depth + 1) j, ← layFields_indented depth fs]

end

/-! ## Reading -/

/-- A value of at most `n` containers, one in the other, whose numbers are read back. -/
inductive Sound : Nat → Json → Prop where
  | null {n : Nat} : Sound n .null
  | bool {n : Nat} (b : Bool) : Sound n (.bool b)
  | int {n : Nat} {k : Int} (h : Numeral.Fits k) : Sound n (.number (.int k))
  | real {n : Nat} {x : Float} (hfinite : x.isFinite = true) (h : Numeral.ReadsBack x) : Sound n (.number (.real x))
  | string {n : Nat} (s : String) : Sound n (.string s)
  | array {n : Nat} {items : List Json} (h : ∀ j ∈ items, Sound n j) : Sound (n + 1) (.array items)
  | object {n : Nat} {fields : List (String × Json)} (h : ∀ f ∈ fields, Sound n f.2) : Sound (n + 1) (.object fields)

section
variable {s t rest : List Char} {fuel depth n : Nat} {j : Json} (l : Layout)

theorem skipSpace_append (hs : ∀ c ∈ s, isSpace c = true) (t : List Char) : skipSpace (s ++ t) = skipSpace t :=
  List.dropWhile_append_of_pos hs

theorem skipSpace_cons {c : Char} (hc : isSpace c = false) (t : List Char) : skipSpace (c :: t) = c :: t := by
  rw [skipSpace, List.dropWhile_cons_of_neg (by rw [hc]; exact Bool.false_ne_true)]

theorem takeValue_space (hs : ∀ c ∈ s, isSpace c = true) (fuel depth : Nat) (t : List Char) :
    takeValue fuel depth (s ++ t) = takeValue fuel depth t := by
  cases fuel with
  | zero => rw [takeValue, takeValue]
  | succ fuel => rw [takeValue, takeValue, skipSpace_append hs]

theorem takeMoreItems_space (hs : ∀ c ∈ s, isSpace c = true) (fuel depth : Nat) (t : List Char) :
    takeMoreItems fuel depth (s ++ t) = takeMoreItems fuel depth t := by
  cases fuel with
  | zero => rw [takeMoreItems, takeMoreItems]
  | succ fuel => rw [takeMoreItems, takeMoreItems, takeValue_space hs]

theorem ends_space (hs : ∀ c ∈ s, isSpace c = true) (ht : Numeral.Ends t) : Numeral.Ends (s ++ t) := by
  cases s with
  | nil => exact ht
  | cons c s =>
    intro d hd
    obtain rfl := Option.some.inj hd
    have hc := hs c List.mem_cons_self
    simp only [isSpace, Bool.or_eq_true, decide_eq_true_eq] at hc
    rcases hc with ((rfl | rfl) | rfl) | rfl <;> decide

theorem ne_of_number {c d : Char} (hc : c = '-' ∨ c.isDigit = true) (hd : d ≠ '-' ∧ d.isDigit = false) : c ≠ d := by
  rintro rfl
  rcases hc with hc | hc
  · exact hd.1 hc
  · rw [hd.2] at hc; cases hc

theorem isSpace_of_number {c : Char} (hc : c = '-' ∨ c.isDigit = true) : isSpace c = false := by
  simp only [isSpace, Bool.or_eq_false_iff, decide_eq_false_iff_not]
  exact ⟨⟨⟨ne_of_number hc (by decide), ne_of_number hc (by decide)⟩, ne_of_number hc (by decide)⟩,
    ne_of_number hc (by decide)⟩

theorem takeValue_number {x : Number} {m : Numeral} (hscan : Numeral.scan s = .ok (m, [])) (hvalue : m.value? = some x)
    (hrest : Numeral.Ends rest) (fuel depth : Nat) :
    takeValue (fuel + 1) depth (s ++ rest) = (.number x, some rest) := by
  have hall := Numeral.scan_append hscan hrest
  obtain ⟨c, t, rfl, hc⟩ := Numeral.head?_of_scan hscan
  have hfirst : (decide (c = '-') || c.isDigit) = true := by simpa using hc
  rw [List.cons_append] at hall ⊢
  rw [takeValue, skipSpace_cons (isSpace_of_number hc)]
  simp only [ne_of_number hc (d := '"') (by decide), ne_of_number hc (d := '[') (by decide),
    ne_of_number hc (d := '{') (by decide), ne_of_number hc (d := 'n') (by decide),
    ne_of_number hc (d := 't') (by decide), ne_of_number hc (d := 'f') (by decide), hfirst, if_false, if_true]
  rw [takeNumber, hall]
  simp only [hvalue, List.nil_append]

theorem takeValue_string (w : String) (fuel depth : Nat) :
    takeValue (fuel + 1) depth (Quoted.write w ++ rest) = (.string w, some rest) := by
  have hmark : isSpace '"' = false := by decide
  rw [Quoted.write_append, takeValue, skipSpace_cons hmark]
  simp only [if_true]
  rw [takeString, Quoted.scan_escape]
  simp only [String.ofList_toList]

theorem head_lay (h : Sound n j) (k : Nat) : ∃ c t, lay l k j = c :: t ∧ isSpace c = false ∧ c ≠ ']' := by
  have hnumber : ∀ {s : List Char} {m : Numeral}, Numeral.scan s = .ok (m, []) →
      ∃ c t, s = c :: t ∧ isSpace c = false ∧ c ≠ ']' := fun hs => by
    obtain ⟨c, t, hcs, hc⟩ := Numeral.head?_of_scan hs
    exact ⟨c, t, hcs, isSpace_of_number hc, ne_of_number hc (by decide)⟩
  cases h with
  | null => exact ⟨'n', _, by rw [lay], by decide, by decide⟩
  | bool b => cases b <;> exact ⟨_, _, by rw [lay, writeBool]; rfl, by decide, by decide⟩
  | int hk => rw [lay]; exact hnumber (Numeral.scan_writeInt _)
  | real hfinite hx =>
    obtain ⟨m, hscan, -⟩ := hx
    rw [lay, Numeral.write, if_pos hfinite]
    exact hnumber hscan
  | string s => rw [lay]; exact ⟨'"', _, rfl, by decide, by decide⟩
  | @array _ items _ => cases items <;> rw [lay] <;> exact ⟨'[', _, rfl, by decide, by decide⟩
  | @object _ fields _ => cases fields <;> rw [lay] <;> exact ⟨'{', _, rfl, by decide, by decide⟩

/-- A value at a depth is read from its text. -/
def Reads (l : Layout) (k depth : Nat) (j : Json) : Prop :=
  ∀ (fuel : Nat) (rest : List Char), 3 * (lay l k j).length ≤ fuel → Numeral.Ends rest →
    takeValue fuel depth (lay l k j ++ rest) = (j.toDoc, some rest)

section
variable {k : Nat} {r rest' : List Char} (hj : Reads l k depth j) (hfuel : 3 * (lay l k j).length ≤ fuel)
include hj hfuel

theorem takeMoreItems_end (hs : ∀ c ∈ s, isSpace c = true) :
    takeMoreItems (fuel + 1) depth (lay l k j ++ (s ++ ']' :: rest)) = (.cons j.toDoc .closed, some rest) := by
  have hends : Numeral.Ends (s ++ ']' :: rest) := ends_space hs (by rintro _ ⟨⟩; decide)
  rw [takeMoreItems, hj _ _ hfuel hends]
  simp only
  rw [skipSpace_append hs, skipSpace_cons (by decide)]
  rfl

theorem takeMoreItems_cons {items : Items} (hmore : takeMoreItems fuel depth r = (items, some rest')) :
    takeMoreItems (fuel + 1) depth (lay l k j ++ ',' :: r) = (.cons j.toDoc items, some rest') := by
  have hends : Numeral.Ends (',' :: r) := by rintro _ ⟨⟩; decide
  rw [takeMoreItems, hj _ _ hfuel hends]
  simp only
  rw [skipSpace_cons (by decide)]
  simp only [hmore]

theorem takeField_end (key : String) (hs : ∀ c ∈ s, isSpace c = true) :
    takeField (fuel + 1) depth
        (Quoted.escape key.toList ++ '"' :: ':' :: (l.colon ++ (lay l k j ++ (s ++ '}' :: rest)))) =
      (.cons (.ok key) j.toDoc .closed, some rest) := by
  have hends : Numeral.Ends (s ++ '}' :: rest) := ends_space hs (by rintro _ ⟨⟩; decide)
  rw [takeField, Quoted.scan_escape]
  simp only
  rw [skipSpace_cons (by decide)]
  simp only
  rw [takeValue_space l.colon_space, hj _ _ hfuel hends]
  simp only
  rw [skipSpace_append hs, skipSpace_cons (by decide)]
  simp only [Except.map, String.ofList_toList]

theorem takeField_cons (key : String) (hs : ∀ c ∈ s, isSpace c = true) {fields : Fields}
    (hmore : takeField fuel depth r = (fields, some rest')) :
    takeField (fuel + 1) depth
        (Quoted.escape key.toList ++ '"' :: ':' :: (l.colon ++ (lay l k j ++ ',' :: (s ++ '"' :: r)))) =
      (.cons (.ok key) j.toDoc fields.behindComma, some rest') := by
  have hends : Numeral.Ends (',' :: (s ++ '"' :: r)) := by rintro _ ⟨⟩; decide
  rw [takeField, Quoted.scan_escape]
  simp only
  rw [skipSpace_cons (by decide)]
  simp only
  rw [takeValue_space l.colon_space, hj _ _ hfuel hends]
  simp only
  rw [skipSpace_cons (by decide)]
  simp only
  rw [skipSpace_append hs, skipSpace_cons (by decide)]
  simp only [hmore, Except.map, String.ofList_toList]

end

theorem takeItems_of_more {c : Char} {t : List Char} (hs : ∀ c ∈ s, isSpace c = true) (hspace : isSpace c = false)
    (hc : c ≠ ']') : takeItems (fuel + 1) depth (s ++ c :: t) = takeMoreItems fuel depth (c :: t) := by
  rw [takeItems, skipSpace_append hs, skipSpace_cons hspace]
  split
  · contradiction
  · rename_i h; exact absurd (List.cons.inj h).1 hc
  · rfl

theorem takeFields_of_field (hs : ∀ c ∈ s, isSpace c = true) :
    takeFields (fuel + 1) depth (s ++ '"' :: t) = takeField fuel depth t := by
  rw [takeFields, skipSpace_append hs, skipSpace_cons (by decide)]
  rfl

theorem takeValue_array (hdepth : depth + 1 < depthLimit) {items : Items} {rest' : List Char}
    (h : takeItems fuel (depth + 1) t = (items, some rest')) :
    takeValue (fuel + 1) depth ('[' :: t) = (.array items, some rest') := by
  rw [takeValue, skipSpace_cons (by decide)]
  simp only [h, Char.reduceEq, if_false, if_true, container, hdepth]

theorem takeValue_object (hdepth : depth + 1 < depthLimit) {fields : Fields} {rest' : List Char}
    (h : takeFields fuel (depth + 1) t = (fields, some rest')) :
    takeValue (fuel + 1) depth ('{' :: t) = (.object fields, some rest') := by
  rw [takeValue, skipSpace_cons (by decide)]
  simp only [h, Char.reduceEq, if_false, if_true, container, hdepth]

theorem takeValue_null (fuel depth : Nat) (rest : List Char) :
    takeValue (fuel + 1) depth (['n', 'u', 'l', 'l'] ++ rest) = (.null, some rest) := by
  rw [List.cons_append, takeValue, skipSpace_cons (by decide)]
  simp [takeLiteral, literal]

theorem takeValue_bool (b : Bool) (fuel depth : Nat) (rest : List Char) :
    takeValue (fuel + 1) depth (writeBool b ++ rest) = (.bool b, some rest) := by
  cases b <;> rw [writeBool] <;> simp [takeValue, skipSpace_cons, isSpace, takeLiteral, literal]

end

mutual

-- The induction is on the value.  Each reader hands on one step of fuel less, and between two characters of a text
-- there are three readers at most, which is why three steps for each character are enough.
/-- **A sound value is read from its text**, in any layout. -/
theorem reads_lay (l : Layout) {n k depth : Nat} : ∀ {j : Json}, Sound n j → depth + n < depthLimit →
    Reads l k depth j
  | .null, _, _, fuel, rest, hfuel, _ => by
    rw [lay, List.length_cons] at hfuel
    obtain ⟨fuel, rfl⟩ : ∃ f, fuel = f + 1 := ⟨fuel - 1, by omega⟩
    rw [lay]
    exact takeValue_null fuel depth rest
  | .bool b, _, _, fuel, rest, hfuel, _ => by
    have hpos : 0 < (writeBool b).length := by cases b <;> decide
    rw [lay] at hfuel
    obtain ⟨fuel, rfl⟩ : ∃ f, fuel = f + 1 := ⟨fuel - 1, by omega⟩
    rw [lay]
    exact takeValue_bool b fuel depth rest
  | .number x, h, _, fuel, rest, hfuel, hrest => by
    obtain ⟨c, t, htext, -⟩ := head_lay l h k
    rw [htext, List.length_cons] at hfuel
    obtain ⟨fuel, rfl⟩ : ∃ f, fuel = f + 1 := ⟨fuel - 1, by omega⟩
    rw [lay, toDoc]
    cases h with
    | int hk => exact takeValue_number (Numeral.scan_writeInt _) (Numeral.value?_writeInt hk) hrest fuel depth
    | real hfinite hx =>
      obtain ⟨m, hscan, hvalue⟩ := hx
      rw [Numeral.write, if_pos hfinite]
      exact takeValue_number hscan hvalue hrest fuel depth
  | .string s, _, _, fuel, rest, hfuel, _ => by
    rw [lay, Quoted.write, List.length_append, List.length_cons] at hfuel
    obtain ⟨fuel, rfl⟩ : ∃ f, fuel = f + 1 := ⟨fuel - 1, by omega⟩
    rw [lay]
    exact takeValue_string s fuel depth
  | .array [], .array _, hdepth, fuel, rest, hfuel, _ => by
    rw [lay, List.length_cons] at hfuel
    obtain ⟨fuel, rfl⟩ : ∃ f, fuel = f + 2 := ⟨fuel - 2, by omega⟩
    rw [lay]
    refine takeValue_array (by omega) ?_
    rw [takeItems]
    rfl
  | .array (j :: js), .array h, hdepth, fuel, rest, hfuel, hrest => by
    obtain ⟨hj, hjs⟩ := List.forall_mem_cons.1 h
    rw [lay, List.length_cons, List.length_append, List.length_append] at hfuel
    obtain ⟨fuel, rfl⟩ : ∃ f, fuel = f + 2 := ⟨fuel - 2, by omega⟩
    have hmore := takeMoreItems_lay l k (depth + 1) (by omega) rest hjs fuel (reads_lay l hj (by omega)) (by omega)
    obtain ⟨c, t, hhead, hspace, hc⟩ := head_lay l hj (k + 1)
    have htext : lay l k (.array (j :: js)) ++ rest =
        '[' :: (l.gap (k + 1) ++ (lay l (k + 1) j ++ (layItems l k js ++ rest))) := by
      simp [lay]
    rw [htext, toDoc, toItems]
    rw [hhead, List.cons_append] at hmore ⊢
    refine takeValue_array (by omega) ?_
    rw [takeItems_of_more (l.gap_space (k + 1)) hspace hc]
    exact hmore
  | .object [], .object _, hdepth, fuel, rest, hfuel, _ => by
    rw [lay, List.length_cons] at hfuel
    obtain ⟨fuel, rfl⟩ : ∃ f, fuel = f + 2 := ⟨fuel - 2, by omega⟩
    rw [lay]
    refine takeValue_object (by omega) ?_
    rw [takeFields]
    rfl
  | .object ((key, j) :: fs), .object h, hdepth, fuel, rest, hfuel, hrest => by
    obtain ⟨hj, hfs⟩ := List.forall_mem_cons.1 h
    replace hj : Sound _ j := hj
    rw [lay, List.length_cons, List.length_append, List.length_append, List.length_cons, List.length_append,
      List.length_append] at hfuel
    obtain ⟨fuel, rfl⟩ : ∃ f, fuel = f + 2 := ⟨fuel - 2, by omega⟩
    have hmore := takeField_lay l k (depth + 1) (by omega) rest hfs key fuel (reads_lay l hj (by omega)) (by omega)
    have htext : lay l k (.object ((key, j) :: fs)) ++ rest = '{' :: (l.gap (k + 1) ++ '"' ::
        (Quoted.escape key.toList ++ '"' :: ':' :: (l.colon ++ (lay l (k + 1) j ++ (layFields l k fs ++ rest))))) := by
      simp [lay, Quoted.write]
    rw [htext, toDoc, toFields]
    refine takeValue_object (by omega) ?_
    rw [takeFields_of_field (l.gap_space (k + 1))]
    exact hmore

theorem takeMoreItems_lay (l : Layout) {n : Nat} (k depth : Nat) (hdepth : depth + n < depthLimit)
    (rest : List Char) : ∀ {js : List Json}, (∀ x ∈ js, Sound n x) → ∀ {j : Json} (fuel : Nat), Reads l (k + 1) depth j →
      3 * ((lay l (k + 1) j).length + (layItems l k js).length) ≤ fuel →
      takeMoreItems fuel depth (lay l (k + 1) j ++ (layItems l k js ++ rest)) = (.cons j.toDoc (toItems js), some rest)
  | [], _, j, fuel, hj, hfuel => by
    rw [layItems, List.length_append, List.length_singleton] at hfuel
    obtain ⟨fuel, rfl⟩ : ∃ f, fuel = f + 1 := ⟨fuel - 1, by omega⟩
    rw [layItems, List.append_assoc, toItems]
    exact takeMoreItems_end l hj (by omega) (l.gap_space k)
  | j' :: js, hjs, j, fuel, hj, hfuel => by
    obtain ⟨hj', hrest⟩ := List.forall_mem_cons.1 hjs
    rw [layItems, List.length_cons, List.length_append, List.length_append] at hfuel
    obtain ⟨fuel, rfl⟩ : ∃ f, fuel = f + 1 := ⟨fuel - 1, by omega⟩
    have hmore := takeMoreItems_lay l k depth hdepth rest hrest fuel (reads_lay l hj' hdepth) (by omega)
    have htext : layItems l k (j' :: js) ++ rest =
        ',' :: (l.gap (k + 1) ++ (lay l (k + 1) j' ++ (layItems l k js ++ rest))) := by
      simp [layItems]
    rw [htext, toItems]
    refine takeMoreItems_cons l hj (by omega) ?_
    rw [takeMoreItems_space (l.gap_space (k + 1))]
    exact hmore

theorem takeField_lay (l : Layout) {n : Nat} (k depth : Nat) (hdepth : depth + n < depthLimit) (rest : List Char) :
    ∀ {fs : List (String × Json)}, (∀ f ∈ fs, Sound n f.2) → ∀ (key : String) {j : Json} (fuel : Nat),
      Reads l (k + 1) depth j → 3 * ((lay l (k + 1) j).length + (layFields l k fs).length) ≤ fuel →
      takeField fuel depth
          (Quoted.escape key.toList ++ '"' :: ':' :: (l.colon ++ (lay l (k + 1) j ++ (layFields l k fs ++ rest)))) =
        (.cons (.ok key) j.toDoc (toFields fs), some rest)
  | [], _, key, j, fuel, hj, hfuel => by
    rw [layFields, List.length_append, List.length_singleton] at hfuel
    obtain ⟨fuel, rfl⟩ : ∃ f, fuel = f + 1 := ⟨fuel - 1, by omega⟩
    rw [layFields, List.append_assoc, toFields]
    exact takeField_end l hj (by omega) key (l.gap_space k)
  | (key', j') :: fs, hfs, key, j, fuel, hj, hfuel => by
    obtain ⟨hj', hrest⟩ := List.forall_mem_cons.1 hfs
    replace hj' : Sound n j' := hj'
    rw [layFields, List.length_cons, List.length_append, List.length_append, List.length_cons, List.length_append,
      List.length_append] at hfuel
    obtain ⟨fuel, rfl⟩ : ∃ f, fuel = f + 1 := ⟨fuel - 1, by omega⟩
    have hmore := takeField_lay l k depth hdepth rest hrest key' fuel (reads_lay l hj' hdepth) (by omega)
    have htext : layFields l k ((key', j') :: fs) ++ rest = ',' :: (l.gap (k + 1) ++ '"' ::
        (Quoted.escape key'.toList ++ '"' :: ':' :: (l.colon ++ (lay l (k + 1) j' ++ (layFields l k fs ++ rest))))) := by
      simp [layFields, Quoted.write]
    rw [htext, toFields]
    exact takeField_cons l hj (by omega) key (l.gap_space (k + 1)) hmore

end

/-- **The text of a sound value is read as its document**, with nothing left over. -/
theorem read_lay (l : Layout) {n : Nat} {j : Json} (h : Sound n j) (hn : n < depthLimit) :
    read (lay l 0 j) = ⟨j.toDoc, none⟩ := by
  have hreads : Reads l 0 0 j := reads_lay l h (by omega)
  have hread := hreads (3 * (lay l 0 j).length + 3) [] (by omega) fun c hc => nomatch hc
  rw [List.append_nil] at hread
  rw [read, hread]
  rfl

theorem read_compact {n : Nat} {j : Json} (h : Sound n j) (hn : n < depthLimit) :
    read j.toCompact.toList = ⟨j.toDoc, none⟩ := by
  rw [toCompact, String.toList_ofList, ← lay_tight 0 j]
  exact read_lay .tight h hn

theorem read_pretty {n : Nat} {j : Json} (h : Sound n j) (hn : n < depthLimit) :
    read j.toPretty.toList = ⟨j.toDoc, none⟩ := by
  rw [toPretty, String.toList_ofList, ← lay_indented 0 j]
  exact read_lay .indented h hn

end Json
end Clearance
