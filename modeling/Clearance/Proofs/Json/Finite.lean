import Clearance.Json.Codec
import Clearance.Proofs.Decimal.Finite
/-!
# Finite — what is read is finite

A numeral that is too large for a double is refused, and a smaller one is brought to its place by steps that do not
leave the finite numbers.  So there are finite numbers only in a document, and in every value that a codec reads from
one.
-/
namespace Clearance

open Binary64

/-! ## Numerals -/

namespace Numeral

set_option maxRecDepth 4000 in
theorem atLeastTwo_power : ∀ n < 309, n ≠ 0 → AtLeastTwo (power n).toModel.unpack := by decide +kernel

theorem isFinite_power {n : Nat} (hn : n ≤ 308) : (power n).isFinite = true := by
  by_cases hzero : n = 0
  · subst hzero
    decide +kernel
  · exact isFinite_of_atLeastTwo (atLeastTwo_power n (by omega) hzero)

theorem isFinite_shrink (x : Float) (n : Nat) (hx : x.isFinite = true) (hn : n ≠ 0) : (shrink x n).isFinite = true := by
  induction x, n using shrink.induct with
  | case1 x n hle =>
    rw [shrink, if_pos hle]
    exact isFinite_div hx (atLeastTwo_power n (by omega) hn)
  | case2 x n hgt hzero => rwa [shrink, if_neg hgt, if_pos hzero]
  | case3 x n hgt hzero ih =>
    rw [shrink, if_neg hgt, if_neg hzero]
    exact ih (isFinite_div hx (atLeastTwo_power 308 (by decide) (by decide))) (by omega)

theorem isFinite_scaled? {n : Nat} {e : Int} {x : Float} (h : scaled? n e = some x) : x.isFinite = true := by
  have hn := isFinite_toFloat n.toUInt64
  simp only [scaled?] at h
  split at h
  · cases h
    exact isFinite_shrink _ _ hn (by omega)
  · split at h
    · split at h
      · cases h
      · rename_i hinf
        cases h
        exact isFinite_mul hn (isFinite_power (by omega)) (Bool.eq_false_iff.2 hinf)
    · split at h
      · cases h
        exact hn
      · cases h

theorem isFinite_signed (negative : Bool) {x : Float} (hx : x.isFinite = true) :
    (if negative then -x else x).isFinite = true := by
  cases negative
  · exact hx
  · exact isFinite_neg hx

theorem isFinite_value? {m : Numeral} {x : Float} (h : m.value? = some (.real x)) : x.isFinite = true := by
  simp only [value?] at h
  split at h
  · cases h
  · split at h
    · cases h
    · obtain ⟨y, hy, hyx⟩ := Option.map_eq_some_iff.1 h
      cases hyx
      rw [real?] at hy
      obtain ⟨z, hz, rfl⟩ := Option.map_eq_some_iff.1 hy
      exact isFinite_signed _ (isFinite_scaled? hz)

end Numeral

theorem Codec.isFinite_floatOfInt (n : Int) : (floatOfInt n).isFinite = true := by
  have hn := isFinite_toFloat n.natAbs.toUInt64
  rw [floatOfInt]
  split
  · exact isFinite_neg hn
  · exact hn

/-! ## Documents -/

/-- A real number is finite. -/
def Number.IsFinite : Number → Prop
  | .int _ => True
  | .real x => x.isFinite = true

theorem Numeral.isFinite_number {m : Numeral} {n : Number} (h : m.value? = some n) : n.IsFinite := by
  cases n with
  | int k => trivial
  | real x => exact isFinite_value? h

mutual

/-- All real numbers in the document are finite. -/
def Doc.AllFinite : Doc → Prop
  | .number n => n.IsFinite
  | .array items => items.AllFinite
  | .object fields => fields.AllFinite
  | _ => True

def Items.AllFinite : Items → Prop
  | .cons d rest => d.AllFinite ∧ rest.AllFinite
  | _ => True

def Fields.AllFinite : Fields → Prop
  | .cons _ d rest => d.AllFinite ∧ rest.AllFinite
  | _ => True

end

namespace Json

theorem allFinite_takeLiteral (first : Char) (rest : List Char) {d : Doc} (h : d.AllFinite) (s : List Char) :
    (takeLiteral first rest d s).1.AllFinite := by
  rw [takeLiteral]
  split
  · exact h
  · simp only [Doc.AllFinite]

theorem allFinite_takeNumber (first : Char) (s : List Char) : (takeNumber first s).1.AllFinite := by
  rw [takeNumber]
  split
  · simp only [Doc.AllFinite]
  · split
    · rename_i n hn
      simp only [Doc.AllFinite]
      exact Numeral.isFinite_number hn
    · simp only [Doc.AllFinite]

theorem allFinite_takeString (s : List Char) : (takeString s).1.AllFinite := by
  rw [takeString]
  split <;> simp only [Doc.AllFinite]

theorem allFinite_container (depth : Nat) (first : Char) {d : Doc} (h : d.AllFinite) :
    (container depth first d).AllFinite := by
  rw [container]
  split
  · exact h
  · simp only [Doc.AllFinite]

theorem allFinite_behindComma {fields : Fields} (h : fields.AllFinite) : fields.behindComma.AllFinite := by
  cases fields with
  | closed | broken _ => simp only [Fields.behindComma, Fields.AllFinite]
  | cons k d rest => exact h

/-- What each of the readers takes with this fuel. -/
structure TakesFinite (fuel : Nat) : Prop where
  value : ∀ depth s, (takeValue fuel depth s).1.AllFinite
  items : ∀ depth s, (takeItems fuel depth s).1.AllFinite
  moreItems : ∀ depth s, (takeMoreItems fuel depth s).1.AllFinite
  fields : ∀ depth s, (takeFields fuel depth s).1.AllFinite
  field : ∀ depth s, (takeField fuel depth s).1.AllFinite

theorem takesFinite_zero : TakesFinite 0 where
  value depth s := by simp only [takeValue, Doc.AllFinite]
  items depth s := by simp only [takeItems, Items.AllFinite]
  moreItems depth s := by simp only [takeMoreItems, Items.AllFinite]
  fields depth s := by simp only [takeFields, Fields.AllFinite]
  field depth s := by simp only [takeField, Fields.AllFinite]

section
variable {fuel : Nat} (h : TakesFinite fuel) (depth : Nat) (s : List Char)
include h

theorem allFinite_takeValue : (takeValue (fuel + 1) depth s).1.AllFinite := by
  rw [takeValue]
  split
  · simp only [Doc.AllFinite]
  · rename_i c r _
    have hitems : (Doc.array (takeItems fuel (depth + 1) r).1).AllFinite := h.items (depth + 1) r
    have hfields : (Doc.object (takeFields fuel (depth + 1) r).1).AllFinite := h.fields (depth + 1) r
    split
    · exact allFinite_takeString r
    split
    · exact allFinite_container _ _ hitems
    split
    · exact allFinite_container _ _ hfields
    split
    · exact allFinite_takeLiteral _ _ (by simp only [Doc.AllFinite]) r
    split
    · exact allFinite_takeLiteral _ _ (by simp only [Doc.AllFinite]) r
    split
    · exact allFinite_takeLiteral _ _ (by simp only [Doc.AllFinite]) r
    split
    · exact allFinite_takeNumber c (c :: r)
    · simp only [Doc.AllFinite]

theorem allFinite_takeItems : (takeItems (fuel + 1) depth s).1.AllFinite := by
  rw [takeItems]
  split
  · simp only [Items.AllFinite]
  · simp only [Items.AllFinite]
  · exact h.moreItems depth _

theorem allFinite_takeMoreItems : (takeMoreItems (fuel + 1) depth s).1.AllFinite := by
  have hvalue := h.value depth s
  rw [takeMoreItems]
  split
  · rename_i heq
    rw [heq] at hvalue
    simpa only [Items.AllFinite, and_true] using hvalue
  · rename_i heq
    rw [heq] at hvalue
    split
    · simpa only [Items.AllFinite, and_true] using hvalue
    · simpa only [Items.AllFinite, and_true] using hvalue
    · simp only [Items.AllFinite]
      exact ⟨hvalue, h.moreItems depth _⟩
    · simpa only [Items.AllFinite, and_true] using hvalue

theorem allFinite_takeFields : (takeFields (fuel + 1) depth s).1.AllFinite := by
  rw [takeFields]
  split
  · simp only [Fields.AllFinite]
  · simp only [Fields.AllFinite]
  · exact h.field depth _
  · simp only [Fields.AllFinite]

theorem allFinite_takeField : (takeField (fuel + 1) depth s).1.AllFinite := by
  rw [takeField]
  simp only
  split
  · simp only [Fields.AllFinite]
  · split
    · rename_i r _
      have hvalue := h.value depth r
      split
      · rename_i heq
        rw [heq] at hvalue
        simpa only [Fields.AllFinite, and_true] using hvalue
      · rename_i heq
        rw [heq] at hvalue
        split
        · simpa only [Fields.AllFinite, and_true] using hvalue
        · simpa only [Fields.AllFinite, and_true] using hvalue
        · split
          · simp only [Fields.AllFinite]
            exact ⟨hvalue, allFinite_behindComma (h.field depth _)⟩
          · simpa only [Fields.AllFinite, and_true] using hvalue
          · simpa only [Fields.AllFinite, and_true] using hvalue
        · simpa only [Fields.AllFinite, and_true] using hvalue
    · simp only [Fields.AllFinite, Doc.AllFinite, and_self]

end

-- The readers call one another, always with one step of fuel less, so the induction is on the fuel for all five.
theorem takesFinite : ∀ fuel, TakesFinite fuel
  | 0 => takesFinite_zero
  | fuel + 1 =>
    have h := takesFinite fuel
    ⟨allFinite_takeValue h, allFinite_takeItems h, allFinite_takeMoreItems h, allFinite_takeFields h,
      allFinite_takeField h⟩

/-- **A text is read as a document with finite numbers only.** -/
theorem allFinite_read (s : List Char) : (read s).doc.AllFinite := by
  have h := (takesFinite (3 * s.length + 3)).value 0 s
  rw [read]
  split
  · rename_i heq
    rwa [heq] at h
  · rename_i heq
    rwa [heq] at h

end Json

/-! ## Codecs -/

namespace Codec

variable {α S T : Type}

/-- Whatever the codec reads from finite numbers has this property. -/
def Finds (c : Codec α) (P : α → Prop) : Prop := ∀ m d a, d.AllFinite → c.decode m d = .ok a → P a

theorem finds_true (c : Codec α) : c.Finds fun _ => True := fun _ _ _ _ _ => trivial

theorem finds_real : real.Finds fun x => x.isFinite = true := by
  intro m d x hd h
  simp only [real] at h
  split at h
  · cases h
    simpa only [Doc.AllFinite, Number.IsFinite] using hd
  · cases h
    exact isFinite_floatOfInt _
  · cases h

theorem finds_decodeItems {P : α → Prop} {decode : Doc → Except Fault α}
    (hdecode : ∀ d a, d.AllFinite → decode d = .ok a → P a) : ∀ {items : Items} {as : List α}, items.AllFinite →
      decodeItems decode items = .ok as → ∀ a ∈ as, P a
  | .closed, as, _, h => by
    cases h
    exact nofun
  | .broken f, as, _, h => nomatch h
  | .cons d rest, as, hitems, h => by
    obtain ⟨hd, hrest⟩ : d.AllFinite ∧ rest.AllFinite := by simpa only [Items.AllFinite] using hitems
    rw [decodeItems] at h
    cases ha : decode d with
    | error f => rw [ha] at h; cases h
    | ok a =>
      cases has : decodeItems decode rest with
      | error f => rw [ha, has] at h; cases h
      | ok as' =>
        rw [ha, has] at h
        cases h
        exact List.forall_mem_cons.2 ⟨hdecode d a hd ha, finds_decodeItems hdecode hrest has⟩

theorem finds_list {c : Codec α} {P : α → Prop} (h : c.Finds P) : (list c).Finds fun as => ∀ a ∈ as, P a := by
  intro m d as hd has
  simp only [list] at has
  split at has
  · exact finds_decodeItems (h m) (by simpa only [Doc.AllFinite] using hd) has
  · cases has

theorem finds_option {c : Codec α} {P : α → Prop} (h : c.Finds P) : (option c).Finds fun o => ∀ a ∈ o, P a := by
  have hsome : ∀ {m : Mode} {d : Doc} {o : Option α}, d.AllFinite → (c.decode m d).map some = .ok o → ∀ a ∈ o, P a := by
    intro m d o hd ho a ha
    cases hc : c.decode m d with
    | error f => rw [hc] at ho; cases ho
    | ok b =>
      rw [hc] at ho
      cases ho
      cases ha
      exact h m d a hd hc
  intro m d o hd ho
  simp only [option] at ho
  split at ho
  · cases ho
    exact nofun
  · split at ho
    · cases ho
    · exact hsome hd ho
  · exact hsome hd ho

/-- Whatever the field reads from finite numbers leaves the property of a record alone. -/
def Field.Keeps (f : Field S) (P : S → Prop) : Prop :=
  ∀ m d change, d.AllFinite → f.read m d = .ok change → ∀ s, P s → P (change s)

namespace Field

variable {P : S → Prop} {Q : α → Prop}

theorem keeps_map {c : Codec α} {set : S → α → S} (h : c.Finds Q) (hset : ∀ s a, P s → Q a → P (set s a)) {m : Mode}
    {d : Doc} {change : S → S} (hd : d.AllFinite) (hread : (c.decode m d).map (fun a s => set s a) = .ok change) (s : S)
    (hs : P s) : P (change s) := by
  cases hc : c.decode m d with
  | error f => rw [hc] at hread; cases hread
  | ok a =>
    rw [hc] at hread
    cases hread
    exact hset s a hs (h m d a hd hc)

theorem keeps_ofCodec {c : Codec α} {p : Presence} {name : String} {get : S → α} {set : S → α → S} (h : c.Finds Q)
    (hset : ∀ s a, P s → Q a → P (set s a)) : (ofCodec p name c get set).Keeps P :=
  fun _ _ _ hd hread s hs => keeps_map h hset hd hread s hs

theorem keeps_other {c : Codec α} {p : Presence} {name : String} {get : S → α} {set : S → α → S}
    (hset : ∀ s a, P s → P (set s a)) : (ofCodec p name c get set).Keeps P :=
  keeps_ofCodec (finds_true c) fun s a hs _ => hset s a hs

theorem keeps_omitted {c : Codec α} {name : String} {get : S → Option α} {set : S → Option α → S} (h : c.Finds Q)
    (hset : ∀ s o, P s → (∀ a ∈ o, Q a) → P (set s o)) : (omitted name c get set).Keeps P :=
  fun _ _ _ hd hread s hs => keeps_map (finds_option h) hset hd hread s hs

end Field

section
variable {P : S → Prop} {fields : List (Field S)}

theorem keeps_readFields (hfields : ∀ f ∈ fields, f.Keeps P) (m : Mode) : ∀ {fs : Fields} {seen : List String} {s t : S},
    fs.AllFinite → P s → readFields fields m seen s fs = .ok t → P t
  | .closed, seen, s, t, _, hs, h => by
    rw [readFields] at h
    split at h
    · cases h
      exact hs
    · cases h
  | .broken g, _, _, _, _, _, h => by rw [readFields] at h; cases h
  | .cons (.error f) _ _, _, _, _, _, _, h => by rw [readFields] at h; cases h
  | .cons (.ok k) d rest, seen, s, t, hfs, hs, h => by
    obtain ⟨hd, hrest⟩ : d.AllFinite ∧ rest.AllFinite := by simpa only [Fields.AllFinite] using hfs
    rw [readFields] at h
    split at h
    · split at h
      · cases h
      · exact keeps_readFields hfields m hrest hs h
    · rename_i field hfield
      split at h
      · cases h
      · split at h
        · cases h
        · rename_i change hchange
          have hkeeps := hfields field (List.mem_of_find?_eq_some hfield)
          exact keeps_readFields hfields m hrest (hkeeps m d change hd hchange s hs) h

theorem keeps_readItems (m : Mode) : ∀ {fields : List (Field S)} {items : Items} {s t : S}, (∀ f ∈ fields, f.Keeps P) →
    items.AllFinite → P s → readItems m fields s items = .ok t → P t
  | [], .closed, s, t, _, _, hs, h => by
    rw [readItems] at h
    cases h
    exact hs
  | [], .cons _ _, _, _, _, _, _, h => by rw [readItems] at h; cases h
  | [], .broken _, _, _, _, _, _, h => by simp [readItems] at h
  | _ :: _, .broken _, _, _, _, _, _, h => by simp [readItems] at h
  | field :: fields, .closed, s, t, _, _, hs, h => by
    rw [readItems] at h
    · split at h
      · cases h
        exact hs
      · cases h
    · exact nofun
  | field :: fields, .cons d rest, s, t, hfields, hitems, hs, h => by
    obtain ⟨hd, hrest⟩ : d.AllFinite ∧ rest.AllFinite := by simpa only [Items.AllFinite] using hitems
    obtain ⟨hfield, hfields⟩ := List.forall_mem_cons.1 hfields
    rw [readItems] at h
    split at h
    · cases h
    · rename_i change hchange
      exact keeps_readItems m hfields hrest (hfield m d change hd hchange s hs) h

theorem finds_record {blank : S} (hblank : P blank) (hfields : ∀ f ∈ fields, f.Keeps P) :
    (record blank fields).Finds P := by
  intro m d s hd h
  simp only [record] at h
  split at h
  · exact keeps_readFields hfields m (by simpa only [Doc.AllFinite] using hd) hblank h
  · exact keeps_readItems m hfields (by simpa only [Doc.AllFinite] using hd) hblank h
  · cases h

theorem finds_objectOnly {blank : S} (hblank : P blank) (hfields : ∀ f ∈ fields, f.Keeps P) :
    (objectOnly blank fields).Finds P := by
  intro m d s hd h
  simp only [objectOnly] at h
  split at h
  · exact keeps_readFields hfields m (by simpa only [Doc.AllFinite] using hd) hblank h
  · cases h

end

namespace Variants

variable {v : Variants T α} {P : α → Prop}

/-- What has been read so far of a variant. -/
def Sofar (P : α → Prop) : Progress T α → Prop
  | .held d => d.AllFinite
  | .done a => P a
  | .start | .named _ => True

variable (hcontent : ∀ t m d a, d.AllFinite → v.content t m d = .ok a → P a) (habsent : ∀ t, ∀ a ∈ v.absent t, P a)
include hcontent

theorem finds_readItems {m : Mode} {items : Items} {a : α} (hitems : items.AllFinite) (h : v.readItems m items = .ok a) :
    P a := by
  match items with
  | .closed => cases h
  | .broken f => cases h
  | .cons name rest =>
    obtain ⟨-, hrest⟩ : name.AllFinite ∧ rest.AllFinite := by simpa only [Items.AllFinite] using hitems
    rw [readItems] at h
    cases ht : (spelled v.tags v.name).decode m name with
    | error f => rw [ht] at h; cases h
    | ok t =>
      rw [ht] at h
      match rest with
      | .closed => cases h
      | .broken f => cases h
      | .cons d rest =>
        obtain ⟨hd, -⟩ : d.AllFinite ∧ rest.AllFinite := by simpa only [Items.AllFinite] using hrest
        cases ha : v.content t m d with
        | error f => simp [bind, Except.bind, ha] at h
        | ok b =>
          simp only [bind, Except.bind, ha] at h
          split at h
          · cases h
            exact hcontent t m d a hd ha
          · cases h
          · cases h

include habsent

theorem finds_readFields (m : Mode) : ∀ {fs : Fields} {p : Progress T α} {a : α}, fs.AllFinite → Sofar P p →
    v.readFields m p fs = .ok a → P a
  | .closed, p, a, _, hp, h => by
    cases p with
    | start | held _ => rw [readFields] at h; cases h
    | named t =>
      rw [readFields] at h
      cases ha : v.absent t with
      | none => simp [ha] at h
      | some b =>
        simp only [ha, Option.elim] at h
        cases h
        exact habsent t _ ha
    | done b =>
      rw [readFields] at h
      cases h
      exact hp
  | .broken g, p, a, _, _, h => by rw [readFields] at h; cases h
  | .cons (.error f) _ _, p, a, _, _, h => by rw [readFields] at h; cases h
  | .cons (.ok k) d rest, p, a, hfs, hp, h => by
    obtain ⟨hd, hrest⟩ : d.AllFinite ∧ rest.AllFinite := by simpa only [Fields.AllFinite] using hfs
    cases p with
    | start =>
      rw [readFields] at h
      split at h
      · split at h
        · cases h
        · refine finds_readFields m hrest ?_ h
          exact trivial
      · split at h
        · split at h
          · cases h
          · refine finds_readFields m hrest ?_ h
            exact hd
        · split at h
          · cases h
          · refine finds_readFields m hrest ?_ h
            exact trivial
    | named t =>
      rw [readFields] at h
      split at h
      · cases h
      · split at h
        · split at h
          · cases h
          · rename_i b hb
            refine finds_readFields m hrest ?_ h
            exact hcontent t m d b hd hb
        · split at h
          · cases h
          · refine finds_readFields m hrest ?_ h
            exact trivial
    | held c =>
      rw [readFields] at h
      split at h
      · split at h
        · cases h
        · split at h
          · cases h
          · rename_i t _ _ b hb
            refine finds_readFields m hrest ?_ h
            exact hcontent t .held c b hp hb
      · split at h
        · cases h
        · split at h
          · cases h
          · refine finds_readFields m hrest ?_ h
            exact hp
    | done b =>
      rw [readFields] at h
      split at h
      · cases h
      · split at h
        · cases h
        · split at h
          · cases h
          · refine finds_readFields m hrest ?_ h
            exact hp

theorem finds_decode {m : Mode} {d : Doc} {a : α} (hd : d.AllFinite) (h : v.decode m d = .ok a) : P a := by
  simp only [decode] at h
  split at h
  · refine finds_readFields hcontent habsent m (by simpa only [Doc.AllFinite] using hd) ?_ h
    trivial
  · exact finds_readItems hcontent (by simpa only [Doc.AllFinite] using hd) h
  · cases h

end Variants

end Codec
end Clearance
