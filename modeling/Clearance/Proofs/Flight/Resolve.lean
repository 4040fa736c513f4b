import Clearance.Proofs.Store.Update
import Clearance.Proofs.Time.Rfc3339
import Mathlib.Data.List.Nodup
/-!
# Resolve — which flight a flight identifier addresses

A flight identifier can be a computer identification, an aircraft identification or a beacon code.  What counts is the
strongest criterion that any flight of the list meets, and then the order of the list (`resolve_eq_some_iff`).  Where no
two flights share one of the three, at most one flight meets a criterion, so the order does not count (`resolve_perm`).
-/
namespace Clearance
namespace Flight

/-- By what a flight identifier can address a flight. -/
inductive Criterion where
  | cid | aircraftId | beacon
  deriving DecidableEq, Repr

namespace Criterion

/-- What a flight identifier is compared with.  A flight without a beacon code has no text for it. -/
def text : Criterion → Flight → Option String
  | .cid, f => some f.cid
  | .aircraftId, f => some f.aircraftId
  | .beacon, f => f.beaconCode.map beaconText

/-- The place of a criterion in the order in which they are tried. -/
def place : Criterion → Nat
  | .cid => 0
  | .aircraftId => 1
  | .beacon => 2

/-- The flight is the first of the list that meets the criterion. -/
def Finds (c : Criterion) (flights : List Flight) (fid : String) (f : Flight) : Prop :=
  ∃ before after, flights = before ++ f :: after ∧ c.text f = some fid ∧ ∀ g ∈ before, c.text g ≠ some fid

/-- The first flight of the list that meets the criterion. -/
def find? (c : Criterion) (flights : List Flight) (fid : String) : Option Flight :=
  flights.find? fun f => c.text f == some fid

section
variable {P : Criterion → Prop}

theorem exists_iff : (∃ c, P c) ↔ P .cid ∨ P .aircraftId ∨ P .beacon := by
  constructor
  · rintro ⟨c, hc⟩
    cases c with
    | cid => exact .inl hc
    | aircraftId => exact .inr (.inl hc)
    | beacon => exact .inr (.inr hc)
  · rintro (hc | hc | hc) <;> exact ⟨_, hc⟩

theorem forall_iff : (∀ c, P c) ↔ (P .cid ∧ P .aircraftId) ∧ P .beacon :=
  ⟨fun h => ⟨⟨h .cid, h .aircraftId⟩, h .beacon⟩, fun h c => by
    cases c with
    | cid => exact h.1.1
    | aircraftId => exact h.1.2
    | beacon => exact h.2⟩

/-! The criteria in front of each. -/

theorem forall_before_cid : (∀ d, d.place < place .cid → P d) ↔ True :=
  iff_of_true (fun _ hd => absurd hd (Nat.not_lt_zero _)) trivial

theorem forall_before_aircraftId : (∀ d, d.place < place .aircraftId → P d) ↔ P .cid := by
  simp [forall_iff, place]

theorem forall_before_beacon : (∀ d, d.place < place .beacon → P d) ↔ P .cid ∧ P .aircraftId := by
  simp [forall_iff, place]

end

variable {c : Criterion} {flights flights' : List Flight} {fid : String} {f : Flight}

theorem find?_eq_some_iff : c.find? flights fid = some f ↔ c.Finds flights fid f := by
  unfold find?
  rw [List.find?_eq_some_iff_append]
  constructor
  · rintro ⟨hf, before, after, hflights, hbefore⟩
    exact ⟨before, after, hflights, by simpa using hf, fun g hg => by simpa using hbefore g hg⟩
  · rintro ⟨before, after, hflights, hf, hbefore⟩
    exact ⟨by simpa using hf, before, after, hflights, fun g hg => by simpa using hbefore g hg⟩

theorem find?_eq_none_iff : c.find? flights fid = none ↔ ∀ g ∈ flights, c.text g ≠ some fid := by
  unfold find?
  rw [List.find?_eq_none]
  simp

theorem of_find? (h : c.find? flights fid = some f) : f ∈ flights ∧ c.text f = some fid := by
  obtain ⟨before, after, rfl, hf, -⟩ := find?_eq_some_iff.1 h
  exact ⟨List.mem_append_right before List.mem_cons_self, hf⟩

/-- A criterion that at most one flight meets finds the same flight in every order. -/
theorem find?_perm (hperm : flights.Perm flights')
    (hone : ∀ f ∈ flights, ∀ g ∈ flights, c.text f = some fid → c.text g = some fid → f = g) :
    c.find? flights' fid = c.find? flights fid := by
  cases h : c.find? flights fid with
  | none =>
    rw [find?_eq_none_iff] at h ⊢
    exact fun g hg => h g (hperm.mem_iff.2 hg)
  | some f =>
    obtain ⟨hf, htext⟩ := of_find? h
    cases h' : c.find? flights' fid with
    | none => exact absurd htext (find?_eq_none_iff.1 h' f (hperm.mem_iff.1 hf))
    | some g =>
      obtain ⟨hg, hgtext⟩ := of_find? h'
      rw [hone f hf g (hperm.mem_iff.2 hg) htext hgtext]

end Criterion

/-- No two flights share a computer identification, an aircraft identification or a beacon code. -/
structure Distinguishable (flights : List Flight) : Prop where
  cids : (flights.map (·.cid)).Nodup
  ids : DistinctIds flights
  beacons : (flights.filterMap (·.beaconCode)).Nodup

instance (flights : List Flight) : Decidable (Distinguishable flights) :=
  decidable_of_iff ((flights.map (·.cid)).Nodup ∧ DistinctIds flights ∧ (flights.filterMap (·.beaconCode)).Nodup)
    ⟨fun h => ⟨h.1, h.2.1, h.2.2⟩, fun h => ⟨h.cids, h.ids, h.beacons⟩⟩

variable {flights flights' : List Flight} {fid : String} {f : Flight}

/-! ## Precedence -/

theorem resolve_eq_or (flights : List Flight) (fid : String) : resolve flights fid =
    ((Criterion.cid.find? flights fid).or (Criterion.aircraftId.find? flights fid)).or
      (Criterion.beacon.find? flights fid) := by
  have hbeacon : ∀ f : Flight, f.beaconCode.any (fun c => beaconText c == fid) =
      (f.beaconCode.map beaconText == some fid) := fun f => by
    cases f.beaconCode <;> rfl
  simp only [resolve, Option.orElse_eq_orElse, Option.orElse_eq_or, hbeacon, Criterion.find?, Criterion.text,
    Option.some_beq_some, Option.or_assoc]

/-- **The strongest criterion that any flight meets decides**, and of the flights that meet it the first one. -/
theorem resolve_eq_some_iff : resolve flights fid = some f ↔ ∃ c : Criterion, c.Finds flights fid f ∧
    ∀ d : Criterion, d.place < c.place → ∀ g ∈ flights, d.text g ≠ some fid := by
  rw [resolve_eq_or, Option.or_assoc, Option.or_eq_some_iff, Option.or_eq_some_iff, Criterion.exists_iff,
    Criterion.forall_before_cid, Criterion.forall_before_aircraftId, Criterion.forall_before_beacon]
  simp only [Criterion.find?_eq_some_iff, Criterion.find?_eq_none_iff]
  constructor
  · rintro (hcid | ⟨hnocid, hid | ⟨hnoid, hbeacon⟩⟩)
    · exact .inl ⟨hcid, trivial⟩
    · exact .inr (.inl ⟨hid, hnocid⟩)
    · exact .inr (.inr ⟨hbeacon, hnocid, hnoid⟩)
  · rintro (⟨hcid, -⟩ | ⟨hid, hnocid⟩ | ⟨hbeacon, hnocid, hnoid⟩)
    · exact .inl hcid
    · exact .inr ⟨hnocid, .inl hid⟩
    · exact .inr ⟨hnocid, .inr ⟨hnoid, hbeacon⟩⟩

theorem resolve_eq_none_iff :
    resolve flights fid = none ↔ ∀ c : Criterion, ∀ f ∈ flights, c.text f ≠ some fid := by
  simp only [resolve_eq_or, Option.or_eq_none_iff, Criterion.find?_eq_none_iff, Criterion.forall_iff]

/-! ## Beacon codes -/

theorem toList_beaconText (code : UInt16) : (beaconText code).toList = Time.padded 4 code.toNat := String.toList_ofList

theorem length_beaconText (code : UInt16) : (beaconText code).toList.length = if code.toNat ≤ 9999 then 4 else 5 := by
  rw [toList_beaconText]
  split
  · exact Time.length_padded (by omega) (by decide)
  · have hlow : 4 < (Nat.toDigits 10 code.toNat).length :=
      Nat.lt_of_not_le fun hle => by
        rw [Nat.length_toDigits_le_iff (by decide) (by decide)] at hle
        omega
    have hhigh : (Nat.toDigits 10 code.toNat).length ≤ 5 :=
      (Nat.length_toDigits_le_iff (by decide) (by decide)).2 (Nat.lt_of_lt_of_le code.toNat_lt (by decide))
    simp only [Time.padded, List.length_append, List.length_replicate]
    omega

theorem beaconText_injective : Function.Injective beaconText := by
  intro a b h
  have hdigits : Time.padded 4 a.toNat = Time.padded 4 b.toNat := by
    rw [← toList_beaconText, ← toList_beaconText, h]
  have hvalue := congrArg Time.ofDigits hdigits
  rw [Time.ofDigits_padded, Time.ofDigits_padded] at hvalue
  exact UInt16.toNat_inj.1 hvalue

/-! ## The order of the list -/

/-- Of the members of a list with different keys only one has a given key. -/
theorem eq_of_nodup_filterMap {α β : Type} {key : α → Option β} {a b : α} {k : β} : ∀ {l : List α},
    (l.filterMap key).Nodup → a ∈ l → b ∈ l → key a = some k → key b = some k → a = b
  | x :: l, hnodup, ha, hb, hka, hkb => by
    have hlater : ∀ {y}, y ∈ l → key y = some k → k ∈ l.filterMap key := fun hy hky =>
      List.mem_filterMap.2 ⟨_, hy, hky⟩
    rcases List.mem_cons.1 ha with rfl | ha'
    · rcases List.mem_cons.1 hb with hba | hb'
      · exact hba.symm
      · rw [List.filterMap_cons_some hka, List.nodup_cons] at hnodup
        exact absurd (hlater hb' hkb) hnodup.1
    · rcases List.mem_cons.1 hb with rfl | hb'
      · rw [List.filterMap_cons_some hkb, List.nodup_cons] at hnodup
        exact absurd (hlater ha' hka) hnodup.1
      · exact eq_of_nodup_filterMap (hnodup.sublist ((List.sublist_cons_self x l).filterMap key)) ha' hb' hka hkb

theorem Distinguishable.nodup_texts (h : Distinguishable flights) (c : Criterion) : (flights.filterMap c.text).Nodup := by
  cases c with
  | cid =>
    rw [show Criterion.text .cid = some ∘ (·.cid) from rfl, List.filterMap_eq_map]
    exact h.cids
  | aircraftId =>
    rw [show Criterion.text .aircraftId = some ∘ (·.aircraftId) from rfl, List.filterMap_eq_map]
    exact h.ids
  | beacon =>
    have htexts : flights.filterMap (Criterion.text .beacon) = (flights.filterMap (·.beaconCode)).map beaconText :=
      List.map_filterMap.symm
    rw [htexts]
    exact h.beacons.map beaconText_injective

/-- **Where no two flights share a key, every order of them resolves alike.** -/
theorem resolve_perm (h : Distinguishable flights) (hperm : flights.Perm flights') (fid : String) :
    resolve flights' fid = resolve flights fid := by
  have hone : ∀ c : Criterion, c.find? flights' fid = c.find? flights fid := fun c =>
    Criterion.find?_perm hperm fun f hf g hg => eq_of_nodup_filterMap (h.nodup_texts c) hf hg
  rw [resolve_eq_or, resolve_eq_or, hone, hone, hone]

/-- **An aircraft identification addresses its flight**, unless it is some flight's computer identification. -/
theorem resolve_aircraftId (h : DistinctIds flights) (hf : f ∈ flights) (hcid : ∀ g ∈ flights, g.cid ≠ f.aircraftId) :
    resolve flights f.aircraftId = some f := by
  obtain ⟨before, after, rfl⟩ := List.append_of_mem hf
  have hothers : f.aircraftId ∉ before.map (·.aircraftId) ++ after.map (·.aircraftId) := by
    rw [DistinctIds, List.map_append, List.map_cons, List.nodup_middle, List.nodup_cons] at h
    exact h.1
  refine resolve_eq_some_iff.2 ⟨.aircraftId, ⟨before, after, rfl, rfl, fun g hg htext => ?_⟩, ?_⟩
  · exact hothers (List.mem_append_left _ (List.mem_map.2 ⟨g, hg, Option.some.inj htext⟩))
  · exact Criterion.forall_before_aircraftId.2 fun g hg htext => hcid g hg (Option.some.inj htext)

/-- **What a flight identifier addresses** is the first flight that meets the strongest criterion that any flight meets,
and nothing if no flight meets any.  A beacon code counts with four digits, five if it needs them, so no two codes have
the same text.  Where no two flights share a key the order of the list does not count, and where no two share an aircraft
identification this addresses its flight, unless it is some flight's computer identification. -/
theorem resolve_by_strongest_criterion (flights : List Flight) (fid : String) :
    (∀ f, resolve flights fid = some f ↔ ∃ c : Criterion, c.Finds flights fid f ∧
      ∀ d : Criterion, d.place < c.place → ∀ g ∈ flights, d.text g ≠ some fid) ∧
    (resolve flights fid = none ↔ ∀ c : Criterion, ∀ f ∈ flights, c.text f ≠ some fid) ∧
    (∀ code, (beaconText code).toList.length = (if code.toNat ≤ 9999 then 4 else 5) ∧
      (∀ c ∈ (beaconText code).toList, c.isDigit = true) ∧
      Time.ofDigits (beaconText code).toList = code.toNat) ∧
    Function.Injective beaconText ∧
    (Distinguishable flights → ∀ flights', flights.Perm flights' → resolve flights' fid = resolve flights fid) ∧
    (DistinctIds flights → ∀ f ∈ flights, (∀ g ∈ flights, g.cid ≠ f.aircraftId) →
      resolve flights f.aircraftId = some f) := by
  refine ⟨fun f => resolve_eq_some_iff, resolve_eq_none_iff, fun code => ⟨length_beaconText code, ?_, ?_⟩,
    beaconText_injective, fun h flights' hperm => resolve_perm h hperm fid, fun h f => resolve_aircraftId h⟩
  · rw [toList_beaconText]
    exact Time.isDigit_of_mem_padded
  · rw [toList_beaconText, Time.ofDigits_padded]

/-- A computer identification, an aircraft identification and a beacon code can read alike. -/
theorem resolve_by_strongest_criterion_of_colliding_keys :
    let a : Flight := { aircraftId := "1200", cid := "900", beaconCode := some 45 }
    let b : Flight := { aircraftId := "N5", cid := "1200", beaconCode := some 1200 }
    Distinguishable [a, b] ∧ [a, b].Perm [b, a] ∧ resolve [b, a] "1200" = resolve [a, b] "1200" ∧
      resolve [a, b] "1200" = some b ∧ resolve [a, b] "0045" = some a ∧
      (∀ g ∈ [a, b], g.cid ≠ b.aircraftId) ∧ resolve [a, b] b.aircraftId = some b := by
  intro a b
  have h : Distinguishable [a, b] := by decide
  have hperm : [a, b].Perm [b, a] := List.Perm.swap b a []
  have hcid : ∀ g ∈ [a, b], g.cid ≠ b.aircraftId := by
    rw [List.forall_mem_cons, List.forall_mem_singleton]
    decide
  obtain ⟨-, -, -, -, horder, hid⟩ := resolve_by_strongest_criterion [a, b] "1200"
  exact ⟨h, hperm, horder h _ hperm, rfl, rfl, hcid, hid h.ids b (List.mem_cons_of_mem a List.mem_cons_self) hcid⟩

end Flight
end Clearance
