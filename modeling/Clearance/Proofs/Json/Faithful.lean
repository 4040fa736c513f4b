import Clearance.Json.Codec
import Clearance.Proofs.Json.Layout
/-!
# Faithful — what a codec writes of a value is read as that value

A codec is faithful to a value if it decodes what it encodes of it, wherever the document comes from, and if the text
of that is read back.  One lemma for each way to make a codec says that the codec inherits this from its parts; a record
is refilled field by field, in the order in which the fields were written.
-/
namespace Clearance
namespace Codec

variable {α S T : Type} {n : Nat}

/-- The codec reads what it writes of the value; `n` is how deep its containers lie one in the other. -/
structure Faithful (c : Codec α) (n : Nat) (a : α) : Prop where
  decode_encode : ∀ m, c.decode m (c.encode a).toDoc = .ok a
  sound : (c.encode a).Sound n

/-- The value comes back from both written forms, and from its document wherever that stands. -/
structure Restores (c : Codec α) (a : α) : Prop where
  compact : c.ofText (c.toCompact a) = .ok a
  pretty : c.ofText (c.toPretty a) = .ok a
  document : ∀ m, c.decode m (c.encode a).toDoc = .ok a

theorem ofText_of_read {c : Codec α} {a : α} {s : String} {d : Doc} (h : Json.read s.toList = ⟨d, none⟩)
    (hd : c.decode .text d = .ok a) : c.ofText s = .ok a := by
  rw [ofText, h]
  simp only [hd]
  rfl

theorem Faithful.restores {c : Codec α} {a : α} (h : c.Faithful n a) (hn : n < Json.depthLimit) : c.Restores a where
  compact := ofText_of_read (Json.read_compact h.sound hn) (h.decode_encode _)
  pretty := ofText_of_read (Json.read_pretty h.sound hn) (h.decode_encode _)
  document := h.decode_encode

/-! ## Scalars -/

theorem faithful_text (n : Nat) (s : String) : text.Faithful n s := ⟨fun _ => rfl, .string s⟩

theorem faithful_bool (n : Nat) (b : Bool) : bool.Faithful n b := ⟨fun _ => rfl, .bool b⟩

theorem faithful_integer {low high : Int} {toInt : α → Int} {ofInt : Int → α} {a : α} (n : Nat)
    (hlow : low ≤ toInt a) (hhigh : toInt a ≤ high) (hfits : Numeral.Fits (toInt a)) (ha : ofInt (toInt a) = a) :
    (integer low high toInt ofInt).Faithful n a where
  decode_encode m := by
    have hrange : (decide (low ≤ toInt a) && decide (toInt a ≤ high)) = true := by simp [hlow, hhigh]
    simp only [integer, Json.toDoc, hrange, if_true, ha]
  sound := .int hfits

theorem faithful_uint16 (n : Nat) (k : UInt16) : uint16.Faithful n k := by
  have hk : k.toNat < 65536 := k.toNat_lt
  have hint : Int.ofNat k.toNat = k.toNat := rfl
  exact faithful_integer n (by omega) (by omega) ⟨by omega, by omega⟩ (by simp)

theorem faithful_uint32 (n : Nat) (k : UInt32) : uint32.Faithful n k := by
  have hk : k.toNat < 4294967296 := k.toNat_lt
  have hint : Int.ofNat k.toNat = k.toNat := rfl
  exact faithful_integer n (by omega) (by omega) ⟨by omega, by omega⟩ (by simp)

theorem faithful_int64 (n : Nat) (k : Int64) : int64.Faithful n k := by
  have hlow := k.le_toInt
  have hhigh := k.toInt_lt
  exact faithful_integer n (by omega) (by omega) ⟨by omega, by omega⟩ (Int64.ofInt_toInt k)

theorem faithful_real {x : Float} (n : Nat) (hfinite : x.isFinite = true) (hx : Numeral.ReadsBack x) :
    real.Faithful n x := ⟨fun _ => rfl, .real hfinite hx⟩

theorem faithful_written {write : α → String} {read? : String → Option α} {a : α} (n : Nat)
    (h : read? (write a) = some a) : (written write read?).Faithful n a where
  decode_encode m := by simp only [written, Json.toDoc, h]
  sound := .string _

theorem faithful_named {all : List α} {name : α → String} {a : α} (n : Nat) (h : ofName? all name (name a) = some a) :
    (named all name).Faithful n a where
  decode_encode m := by simp only [named, Json.toDoc, decodeName, h, Option.elim]
  sound := .string _

/-! ## Containers -/

theorem decodeItems_map {c : Codec α} (m : Mode) : ∀ {as : List α}, (∀ a ∈ as, c.Faithful n a) →
    decodeItems (c.decode m) (Json.toItems (as.map c.encode)) = .ok as
  | [], _ => rfl
  | a :: as, h => by
    obtain ⟨ha, has⟩ := List.forall_mem_cons.1 h
    rw [List.map_cons, Json.toItems, decodeItems, ha.decode_encode, decodeItems_map m has]
    rfl

theorem faithful_list {c : Codec α} {as : List α} (h : ∀ a ∈ as, c.Faithful n a) : (list c).Faithful (n + 1) as where
  decode_encode m := by
    simp only [list, Json.toDoc]
    exact decodeItems_map m h
  sound := .array fun j hj => by
    obtain ⟨a, ha, rfl⟩ := List.mem_map.1 hj
    exact (h a ha).sound

theorem faithful_option {c : Codec α} {o : Option α} (h : ∀ a ∈ o, c.Faithful n a ∧ c.encode a ≠ .null) :
    (option c).Faithful n o := by
  cases o with
  | none => exact ⟨fun _ => rfl, .null⟩
  | some a =>
    obtain ⟨ha, hnull⟩ := h a rfl
    refine ⟨fun m => ?_, ha.sound⟩
    have hread := ha.decode_encode m
    simp only [option]
    cases hj : c.encode a with
    | null => exact absurd hj hnull
    | bool _ | number _ | string _ | array _ | object _ =>
      rw [hj] at hread
      simp only [Json.toDoc] at hread ⊢
      rw [hread]
      rfl

/-! ## Records -/

/-- What a field writes of the record is read as this change of another record; a field that is left out need not be
there, and changes nothing. -/
structure Field.Copies (f : Field S) (n : Nat) (s : S) (copy : S → S) : Prop where
  sound : ∀ j, f.write s = some j → j.Sound n
  read_write : ∀ j, f.write s = some j → ∀ m, f.read m j.toDoc = .ok copy
  omitted : f.write s = none → f.presence ≠ .required ∧ copy = id

/-- What the fields write of the record `s` changes the first record into the second. -/
inductive Refills (n : Nat) (s : S) : List (Field S) → S → S → Prop where
  | nil (t : S) : Refills n s [] t t
  | cons {f : Field S} {fields : List (Field S)} {copy : S → S} {t u : S} (h : f.Copies n s copy)
      (hrest : Refills n s fields (copy t) u) : Refills n s (f :: fields) t u

theorem Refills.of_eq {s t u : S} (h : t = u) : Refills n s [] t u := h ▸ .nil t

namespace Field

theorem copies_ofCodec {c : Codec α} {get : S → α} {s : S} (p : Presence) (name : String) (set : S → α → S)
    (h : c.Faithful n (get s)) : (ofCodec p name c get set).Copies n s fun t => set t (get s) where
  sound j hj := Option.some.inj hj ▸ h.sound
  read_write j hj m := by
    obtain rfl := Option.some.inj hj
    simp only [ofCodec, h.decode_encode, Except.map]
  omitted := nofun

theorem copies_required {c : Codec α} {name : String} {get : S → α} {set : S → α → S} {s : S}
    (h : c.Faithful n (get s)) : (required name c get set).Copies n s fun t => set t (get s) :=
  copies_ofCodec _ _ _ h

theorem copies_optional {c : Codec α} {name : String} {get : S → Option α} {set : S → Option α → S} {s : S}
    (h : ∀ a ∈ get s, c.Faithful n a ∧ c.encode a ≠ .null) :
    (optional name c get set).Copies n s fun t => set t (get s) := copies_ofCodec _ _ _ (faithful_option h)

theorem copies_defaulted {c : Codec α} {name : String} {get : S → α} {set : S → α → S} {s : S}
    (h : c.Faithful n (get s)) : (defaulted name c get set).Copies n s fun t => set t (get s) :=
  copies_ofCodec _ _ _ h

theorem copies_omitted {c : Codec α} {name : String} {get : S → Option α} {set : S → Option α → S} {s : S}
    (h : ∀ a ∈ get s, c.Faithful n a ∧ c.encode a ≠ .null) (hset : ∀ t, set t (get t) = t) :
    (omitted name c get set).Copies n s fun t => set t (get s <|> get t) := by
  have hoption := faithful_option h
  cases hs : get s with
  | none =>
    refine ⟨fun j hj => ?_, fun j hj => ?_, fun _ => ⟨nofun, funext hset⟩⟩
    · simp [omitted, hs] at hj
    · simp [omitted, hs] at hj
  | some a =>
    rw [hs] at hoption
    have hwrite : ∀ j, (omitted name c get set).write s = some j → j = (option c).encode (some a) := fun j hj => by
      simp only [omitted, hs, Option.map_some, Option.some.injEq] at hj
      exact hj.symm
    refine ⟨fun j hj => ?_, fun j hj m => ?_, fun hj => ?_⟩
    · rw [hwrite j hj]
      exact hoption.sound
    · rw [hwrite j hj]
      simp only [omitted, hoption.decode_encode, Except.map]
      rfl
    · simp [omitted, hs] at hj

end Field

theorem find?_name {f : Field S} : ∀ {fields : List (Field S)}, (fields.map (·.name)).Nodup → f ∈ fields →
    fields.find? (fun g => g.name == f.name) = some f
  | [], _, hf => nomatch hf
  | g :: fields, hnodup, hf => by
    rw [List.map_cons, List.nodup_cons] at hnodup
    rw [List.find?_cons]
    rcases List.mem_cons.1 hf with rfl | hf
    · rw [beq_self_eq_true]
    · have hne : g.name ≠ f.name := fun h => hnodup.1 (h ▸ List.mem_map_of_mem hf)
      rw [beq_eq_false_iff_ne.2 hne]
      exact find?_name hnodup.2 hf

/-- What the fields write, as a reader meets it. -/
def writtenFields (fields : List (Field S)) (s : S) : List (String × Json) :=
  fields.filterMap fun f => (f.write s).map fun j => (f.name, j)

theorem readFields_written {all : List (Field S)} (hnodup : (all.map (·.name)).Nodup) (m : Mode) {s t u : S}
    {fields : List (Field S)} (h : Refills n s fields t u) : ∀ {seen : List String},
    (∀ f ∈ fields, f ∈ all ∧ f.name ∉ seen) → (fields.map (·.name)).Nodup →
    (∀ f ∈ all, f ∈ fields ∨ f.presence ≠ .required ∨ f.name ∈ seen) →
    readFields all m seen t (Json.toFields (writtenFields fields s)) = .ok u := by
  -- induction on the refilling; `seen` has the names that were read before, so no field is met twice, and at the end each
  -- required one has been met
  induction h with
  | nil t =>
    intro seen _ _ hseen
    have hall : all.all (fun f => f.presence != .required || seen.contains f.name) = true := by
      refine List.all_eq_true.2 fun f hf => ?_
      rcases hseen f hf with hnil | hpresence | hname
      · cases hnil
      · simp [hpresence]
      · simp [hname]
    rw [writtenFields, List.filterMap_nil, Json.toFields, readFields, if_pos hall]
  | @cons f fields copy t u hf hrest ih =>
    intro seen hmem hdistinct hseen
    rw [List.map_cons, List.nodup_cons] at hdistinct
    obtain ⟨⟨hfall, hfseen⟩, hmem⟩ := List.forall_mem_cons.1 hmem
    cases hw : f.write s with
    | none =>
      obtain ⟨hpresence, rfl⟩ := hf.omitted hw
      have hskip : writtenFields (f :: fields) s = writtenFields fields s := by simp [writtenFields, hw]
      rw [hskip]
      refine ih hmem hdistinct.2 fun g hg => ?_
      rcases hseen g hg with hg | hg
      · rcases List.mem_cons.1 hg with rfl | hg
        · exact .inr (.inl hpresence)
        · exact .inl hg
      · exact .inr hg
    | some j =>
      have htake : writtenFields (f :: fields) s = (f.name, j) :: writtenFields fields s := by simp [writtenFields, hw]
      have hcontains : seen.contains f.name = false := by simpa using hfseen
      rw [htake, Json.toFields, readFields, find?_name hnodup hfall]
      simp only [hcontains, Bool.false_eq_true, if_false, hf.read_write j hw m]
      refine ih (fun g hg => ⟨(hmem g hg).1, ?_⟩) hdistinct.2 fun g hg => ?_
      · rw [List.mem_cons, not_or]
        exact ⟨fun he => hdistinct.1 (he ▸ List.mem_map_of_mem hg), (hmem g hg).2⟩
      · rcases hseen g hg with hg | hg | hg
        · rcases List.mem_cons.1 hg with rfl | hg
          · exact .inr (.inr List.mem_cons_self)
          · exact .inl hg
        · exact .inr (.inl hg)
        · exact .inr (.inr (List.mem_cons_of_mem _ hg))

theorem sound_written {s t u : S} {fields : List (Field S)} (h : Refills n s fields t u) :
    ∀ f ∈ writtenFields fields s, Json.Sound n f.2 := by
  induction h with
  | nil t => exact nofun
  | @cons f fields copy t u hf hrest ih =>
    intro p hp
    rw [writtenFields, List.mem_filterMap] at hp
    obtain ⟨g, hg, hp⟩ := hp
    obtain ⟨j, hj, rfl⟩ := Option.map_eq_some_iff.1 hp
    rcases List.mem_cons.1 hg with rfl | hg
    · exact hf.sound j hj
    · exact ih _ (List.mem_filterMap.2 ⟨g, hg, hp⟩)

theorem readFields_encodeFields {blank s : S} {fields : List (Field S)} (hnodup : (fields.map (·.name)).Nodup)
    (h : Refills n s fields blank s) (m : Mode) :
    readFields fields m [] blank (Json.toFields (writtenFields fields s)) = .ok s :=
  readFields_written hnodup m h (fun _ hf => ⟨hf, List.not_mem_nil⟩) hnodup fun _ hf => .inl hf

/-- **A record is read as it was written** if its fields have distinct names and bring back all of it. -/
theorem faithful_record {blank s : S} {fields : List (Field S)} (hnodup : (fields.map (·.name)).Nodup)
    (h : Refills n s fields blank s) : (record blank fields).Faithful (n + 1) s where
  decode_encode := readFields_encodeFields hnodup h
  sound := .object (sound_written h)

theorem faithful_objectOnly {blank s : S} {fields : List (Field S)} (hnodup : (fields.map (·.name)).Nodup)
    (h : Refills n s fields blank s) : (objectOnly blank fields).Faithful (n + 1) s where
  decode_encode := readFields_encodeFields hnodup h
  sound := .object (sound_written h)

theorem record_encode_ne_null (blank : S) (fields : List (Field S)) (s : S) : (record blank fields).encode s ≠ .null :=
  nofun

/-! ## Variants -/

namespace Variants

variable {v : Variants T α} {t : T} {a : α} (ht : ofName? v.tags v.name (v.name t) = some t) (m : Mode)
include ht

theorem decode_named : (named v.tags v.name).decode m (.string (v.name t)) = .ok t :=
  (faithful_named 0 ht).decode_encode m

theorem decode_tagged {d : Doc} (h : v.content t m d = .ok a) :
    v.decode m (.object (.cons (.ok "type") (.string (v.name t)) (.cons (.ok "data") d .closed))) = .ok a := by
  have hdata : ¬"data" = "type" := by decide
  simp only [decode, readFields, if_true, decode_named ht m, hdata, if_false, h]

theorem decode_tag (h : v.absent t = some a) :
    v.decode m (.object (.cons (.ok "type") (.string (v.name t)) .closed)) = .ok a := by
  simp only [decode, readFields, if_true, decode_named ht m, h, Option.elim]

end Variants

end Codec
end Clearance
