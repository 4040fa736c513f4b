import Clearance.Proofs.Json.Finite
import Clearance.Proofs.Wire.Regular
/-!
# RoundTrip — what is written is read, and what is read is written alike

What a codec reads has finite coordinates only, so it can be written again; with `Regular` this gives both directions.
-/
namespace Clearance

open Codec

/-! ## What is read -/

section
variable {α : Type} [Measured α]

theorem allFinite_of_nil {a : α} (h : coordinates a = []) : AllFinite a := fun _ hx => nomatch h ▸ hx

theorem allFinite_list {l : List α} (h : ∀ a ∈ l, AllFinite a) : AllFinite l := fun x hx => by
  obtain ⟨a, ha, hx⟩ := List.mem_flatMap.1 hx
  exact h a ha x hx

theorem allFinite_option {o : Option α} (h : ∀ a ∈ o, AllFinite a) : AllFinite o :=
  allFinite_list fun a ha => h a (Option.mem_toList.1 ha)

theorem finds_allFinite_list {c : Codec α} (h : c.Finds AllFinite) : (list c).Finds AllFinite :=
  fun m d as hd has => allFinite_list (finds_list h m d as hd has)

theorem finds_allFinite_option {c : Codec α} (h : c.Finds AllFinite) : (option c).Finds AllFinite :=
  fun m d o hd ho => allFinite_option (finds_option h m d o hd ho)

end

theorem Position.allFinite_iff (p : Position) : AllFinite p ↔ p.lat.isFinite = true ∧ p.lon.isFinite = true := by
  simp [AllFinite, coordinates]

theorem Position.finds : codec.Finds AllFinite := by
  refine finds_record ((allFinite_iff _).2 (by decide +kernel)) (List.forall_mem_cons.2 ⟨?_, List.forall_mem_cons.2 ⟨?_, nofun⟩⟩)
  · refine Field.keeps_ofCodec finds_real fun p x hp hx => ?_
    rw [allFinite_iff] at hp ⊢
    exact ⟨hx, hp.2⟩
  · refine Field.keeps_ofCodec finds_real fun p x hp hx => ?_
    rw [allFinite_iff] at hp ⊢
    exact ⟨hp.1, hx⟩

theorem Fix.finds : codec.Finds AllFinite := by
  refine finds_record (allFinite_of_nil rfl) (List.forall_mem_cons.2 ⟨?_, List.forall_mem_cons.2 ⟨?_, nofun⟩⟩)
  · exact Field.keeps_other fun _ _ h => h
  · exact Field.keeps_ofCodec (finds_allFinite_option Position.finds) fun _ _ _ h => h

theorem Flight.allFinite_iff (f : Flight) : AllFinite f ↔ AllFinite f.filedFixes ∧ AllFinite f.amendedFixes ∧
    AllFinite f.previousFixes ∧ AllFinite f.position := by
  simp only [AllFinite, coordinates_eq, List.forall_mem_append, and_assoc]

theorem Flight.finds : codec.Finds AllFinite := by
  have hfixes : (list Fix.codec).Finds AllFinite := finds_allFinite_list Fix.finds
  have hoption : (option (list Fix.codec)).Finds AllFinite := finds_allFinite_option hfixes
  refine finds_record (allFinite_of_nil rfl) ?_
  simp only [fields, List.forall_mem_cons]
  exact ⟨
    Field.keeps_other fun _ _ h => h,
    Field.keeps_other fun _ _ h => h,
    Field.keeps_other fun _ _ h => h,
    Field.keeps_other fun _ _ h => h,
    Field.keeps_other fun _ _ h => h,
    Field.keeps_other fun _ _ h => h,
    Field.keeps_other fun _ _ h => h,
    Field.keeps_other fun _ _ h => h,
    Field.keeps_other fun _ _ h => h,
    Field.keeps_ofCodec hfixes fun f _ hf hxs => (allFinite_iff _).2 ⟨hxs, ((allFinite_iff f).1 hf).2⟩,
    Field.keeps_other fun _ _ h => h,
    Field.keeps_ofCodec hoption fun f _ hf hxs =>
      have h := (allFinite_iff f).1 hf
      (allFinite_iff _).2 ⟨h.1, hxs, h.2.2⟩,
    Field.keeps_other fun _ _ h => h,
    Field.keeps_other fun _ _ h => h,
    Field.keeps_ofCodec hoption fun f _ hf hxs =>
      have h := (allFinite_iff f).1 hf
      (allFinite_iff _).2 ⟨h.1, h.2.1, hxs, h.2.2.2⟩,
    Field.keeps_other fun _ _ h => h,
    Field.keeps_other fun _ _ h => h,
    Field.keeps_other fun _ _ h => h,
    Field.keeps_other fun _ _ h => h,
    Field.keeps_other fun _ _ h => h,
    Field.keeps_other fun _ _ h => h,
    Field.keeps_other fun _ _ h => h,
    Field.keeps_other fun _ _ h => h,
    Field.keeps_ofCodec (finds_allFinite_option Position.finds) fun f _ hf hp =>
      have h := (allFinite_iff f).1 hf
      (allFinite_iff _).2 ⟨h.1, h.2.1, h.2.2.1, hp⟩,
    nofun⟩

theorem Patch.allFinite_iff (p : Patch) : AllFinite p ↔ AllFinite p.amendedFixes ∧ AllFinite p.previousFixes :=
  List.forall_mem_append

theorem Patch.finds : codec.Finds AllFinite := by
  have hfixes : (list Fix.codec).Finds AllFinite := finds_allFinite_list Fix.finds
  refine finds_record (allFinite_of_nil rfl) ?_
  simp only [fields, List.forall_mem_cons]
  exact ⟨
    Field.keeps_omitted (finds_true _) fun _ _ h _ => h,
    Field.keeps_omitted hfixes fun p _ hp hxs =>
      (allFinite_iff _).2 ⟨allFinite_option hxs, ((allFinite_iff p).1 hp).2⟩,
    Field.keeps_omitted (finds_true _) fun _ _ h _ => h,
    Field.keeps_omitted hfixes fun p _ hp hxs =>
      (allFinite_iff _).2 ⟨((allFinite_iff p).1 hp).1, allFinite_option hxs⟩,
    Field.keeps_omitted (finds_true _) fun _ _ h _ => h,
    Field.keeps_omitted (finds_true _) fun _ _ h _ => h,
    Field.keeps_omitted (finds_true _) fun _ _ h _ => h,
    Field.keeps_omitted (finds_true _) fun _ _ h _ => h,
    Field.keeps_omitted (finds_true _) fun _ _ h _ => h,
    nofun⟩

theorem Direct.finds : codec.Finds AllFinite := by
  refine finds_record (allFinite_of_nil rfl) ?_
  simp only [List.forall_mem_cons]
  exact ⟨Field.keeps_other fun _ _ h => h, Field.keeps_other fun _ _ h => h,
    Field.keeps_ofCodec (finds_allFinite_list Fix.finds) fun _ _ _ h => h, nofun⟩

theorem Amendment.finds : codec.Finds AllFinite := by
  refine finds_record (allFinite_of_nil rfl) ?_
  simp only [List.forall_mem_cons]
  exact ⟨Field.keeps_other fun _ _ h => h, Field.keeps_other fun _ _ h => h, Field.keeps_other fun _ _ h => h,
    Field.keeps_other fun _ _ h => h, Field.keeps_ofCodec Patch.finds fun _ _ _ h => h, nofun⟩

theorem TrialPlan.finds : codec.Finds AllFinite := by
  refine finds_record (allFinite_of_nil rfl) ?_
  simp only [List.forall_mem_cons]
  exact ⟨Field.keeps_other fun _ _ h => h, Field.keeps_other fun _ _ h => h,
    Field.keeps_ofCodec Patch.finds fun _ _ _ h => h, Field.keeps_other fun _ _ h => h, nofun⟩

namespace FixTable

theorem allFinite_iff (t : FixTable) : AllFinite t ↔ ∀ e ∈ t.entries, AllFinite e.2 := by
  have hcoordinates : coordinates t = (t.entries.map (·.2)).flatMap coordinates := rfl
  simp only [AllFinite, hcoordinates, List.flatMap_map, List.mem_flatMap]
  exact ⟨fun h e he x hx => h x ⟨e, he, hx⟩, fun h x ⟨e, he, hx⟩ => h e he x hx⟩

theorem allFinite_decodeEntries (m : Mode) : ∀ {fs : Fields} {t u : FixTable}, fs.AllFinite → AllFinite t →
    decodeEntries m t fs = .ok u → AllFinite u
  | .closed, t, u, _, ht, h => by
    cases h
    exact ht
  | .broken _, _, _, _, _, h => nomatch h
  | .cons (.error _) _ _, _, _, _, _, h => nomatch h
  | .cons (.ok name) d rest, t, u, hfs, ht, h => by
    obtain ⟨hd, hrest⟩ : d.AllFinite ∧ rest.AllFinite := by simpa only [Fields.AllFinite] using hfs
    rw [decodeEntries] at h
    split at h
    · cases h
    · rename_i p hp
      refine allFinite_decodeEntries m hrest ((allFinite_iff _).2 fun e he => ?_) h
      rcases (Text.mem_place t.sorted).1 he with rfl | he
      · exact Position.finds m d p hd hp
      · exact (allFinite_iff t).1 ht e he.1

theorem finds : codec.Finds AllFinite := by
  have hentries : entriesCodec.Finds AllFinite := by
    intro m d t hd h
    simp only [entriesCodec] at h
    split at h
    · exact allFinite_decodeEntries m (by simpa only [Doc.AllFinite] using hd) (allFinite_of_nil rfl) h
    · cases h
  exact finds_record (allFinite_of_nil rfl) (List.forall_mem_singleton.2 (Field.keeps_ofCodec hentries fun _ _ _ h => h))

end FixTable

namespace Intent

theorem finds_mutation : mutationCodec.Finds fun c => AllFinite c.2 := by
  refine finds_objectOnly (allFinite_of_nil (α := Patch) rfl) ?_
  simp only [List.forall_mem_cons]
  exact ⟨Field.keeps_other fun _ _ h => h, Field.keeps_ofCodec Patch.finds fun _ _ _ h => h, nofun⟩

theorem allFinite_map {α : Type} {c : Codec α} {P : α → Prop} (hc : c.Finds P) {make : α → Intent}
    (hmake : ∀ a, P a → AllFinite (make a)) {m : Mode} {d : Doc} {i : Intent} (hd : d.AllFinite)
    (h : (c.decode m d).map make = .ok i) : AllFinite i := by
  cases ha : c.decode m d with
  | error f => rw [ha] at h; cases h
  | ok a =>
    rw [ha] at h
    cases h
    exact hmake a (hc m d a hd ha)

theorem allFinite_decodeContent (t : Tag) (m : Mode) (d : Doc) (i : Intent) (hd : d.AllFinite)
    (h : decodeContent t m d = .ok i) : AllFinite i := by
  cases t with
  | closeAllWindows =>
    change decodeNothing d = .ok i at h
    unfold decodeNothing at h
    split at h
    · cases h
      exact allFinite_of_nil rfl
    · cases h
  | mutate => exact allFinite_map finds_mutation (fun _ h => h) hd h
  | submit => exact allFinite_map Amendment.finds (fun _ h => h) hd h
  | stage => exact allFinite_map TrialPlan.finds (fun _ h => h) hd h
  | openWindow | setManualPosting | addFlight | delete | toggleAltimeterWatch | toggleWeatherWatch | showReadout
  | printStrip => exact allFinite_map (finds_true _) (fun _ _ => allFinite_of_nil rfl) hd h

theorem finds : codec.Finds AllFinite := by
  have habsent : ∀ t, ∀ i ∈ variants.absent t, AllFinite i := fun t i hi => by
    simp only [variants, Option.mem_def, Option.ite_none_right_eq_some, Option.some.injEq] at hi
    obtain ⟨-, rfl⟩ := hi
    exact allFinite_of_nil rfl
  exact fun m d i hd h => Variants.finds_decode allFinite_decodeContent habsent hd h

end Intent

theorem Response.finds : codec.Finds AllFinite := by
  refine finds_record (allFinite_of_nil rfl) ?_
  simp only [List.forall_mem_cons]
  exact ⟨Field.keeps_other fun _ _ h => h, Field.keeps_other fun _ _ h => h, Field.keeps_other fun _ _ h => h,
    Field.keeps_ofCodec (finds_allFinite_list Intent.finds) fun _ _ _ h => h, nofun⟩

/-! ## Round trips -/

section
variable {α : Type} [Measured α]

/-- What is written of a value is read as that value, and what was read from any text is such a value. -/
structure Codec.RoundTrips (c : Codec α) : Prop where
  restores : ∀ v, AllFinite v → Legible v → c.Restores v
  normalises : ∀ s v, c.ofText s = .ok v → Legible v → c.Restores v

theorem allFinite_of_ofText {c : Codec α} {s : String} {v : α} (hfinds : c.Finds AllFinite) (h : c.ofText s = .ok v) :
    AllFinite v := by
  cases hv : c.decode .text (Json.read s.toList).doc with
  | error f => simp [ofText, hv, bind, Except.bind] at h
  | ok w =>
    simp only [ofText, hv, bind, Except.bind] at h
    split at h
    · cases h
    · cases h
      exact hfinds .text _ v (Json.allFinite_read _) hv

theorem Codec.roundTrips {c : Codec α} {n : Nat} (hn : n < Json.depthLimit) (hfinds : c.Finds AllFinite)
    (hfaithful : ∀ v, Regular v → c.Faithful n v) : c.RoundTrips where
  restores v hfinite hlegible := (hfaithful v ⟨hlegible, hfinite⟩).restores hn
  normalises _ v h hlegible := (hfaithful v ⟨hlegible, allFinite_of_ofText hfinds h⟩).restores hn

end

/-- **Everything that is sent comes back as it was**, and what was read from a text of another form is written in a form
that is read as the same. -/
theorem wire_roundTrips : Flight.codec.RoundTrips ∧ Patch.codec.RoundTrips ∧ PreferentialRoute.codec.RoundTrips ∧
    Intent.codec.RoundTrips ∧ Response.codec.RoundTrips ∧ Command.codec.RoundTrips ∧ Config.codec.RoundTrips ∧
    Amendment.codec.RoundTrips ∧ TrialPlan.codec.RoundTrips ∧ Direct.codec.RoundTrips ∧
    ComposedRoute.codec.RoundTrips ∧ Fix.codec.RoundTrips ∧ FixTable.codec.RoundTrips :=
  have hnone {α : Type} [Measured α] {c : Codec α} (h : ∀ v : α, coordinates v = []) : c.Finds AllFinite :=
    fun _ _ v _ _ => allFinite_of_nil (h v)
  ⟨Codec.roundTrips (n := 4) (by decide) Flight.finds fun _ => Flight.faithful 0,
    Codec.roundTrips (n := 4) (by decide) Patch.finds fun _ => Patch.faithful 0,
    Codec.roundTrips (n := 2) (by decide) (hnone fun _ => rfl) fun v _ => PreferentialRoute.faithful 0 v,
    Codec.roundTrips (n := 6) (by decide) Intent.finds fun _ => Intent.faithful 0,
    Codec.roundTrips (n := 8) (by decide) Response.finds fun _ => Response.faithful 0,
    Codec.roundTrips (n := 2) (by decide) (hnone fun _ => rfl) fun v _ => Command.faithful 0 v,
    Codec.roundTrips (n := 1) (by decide) (hnone fun _ => rfl) fun v _ => Config.faithful 0 v,
    Codec.roundTrips (n := 5) (by decide) Amendment.finds fun _ => Amendment.faithful 0,
    Codec.roundTrips (n := 5) (by decide) TrialPlan.finds fun _ => TrialPlan.faithful 0,
    Codec.roundTrips (n := 4) (by decide) Direct.finds fun _ => Direct.faithful 0,
    Codec.roundTrips (n := 2) (by decide) (hnone fun _ => rfl) fun v _ => ComposedRoute.faithful 0 v,
    Codec.roundTrips (n := 2) (by decide) Fix.finds fun _ => Fix.faithful 0,
    Codec.roundTrips (n := 3) (by decide) FixTable.finds fun _ => FixTable.faithful 0⟩

theorem wire_roundTrips_of_flight_and_fix :
    let f : Flight :=
      { aircraftId := "UAL12", filedFixes := [⟨"OAK", some ⟨37.75, -122.25⟩⟩], pendingRemoval := some .epoch,
        position := some ⟨38.5, -0.0⟩ }
    let x : Fix := ⟨"SAC", some ⟨38.0, -121.5⟩⟩
    (AllFinite f ∧ Legible f ∧ Flight.codec.Restores f) ∧
      Fix.codec.ofText "[\"SAC\", [38, -1.215e2]]" = .ok x ∧ Legible x ∧ Fix.codec.Restores x := by
  intro f x
  obtain ⟨hflight, -, -, -, -, -, -, -, -, -, -, hfix, -⟩ := wire_roundTrips
  have hfinite : AllFinite f := by unfold AllFinite; decide +kernel
  have hf : Legible f := ⟨by decide +kernel, by decide +kernel⟩
  have hx : Legible x := ⟨by decide +kernel, by decide +kernel⟩
  have hread : Fix.codec.ofText "[\"SAC\", [38, -1.215e2]]" = .ok x := by with_unfolding_all rfl
  exact ⟨⟨hfinite, hf, hflight.restores f hfinite hf⟩, hread, hx, hfix.normalises _ x hread hx⟩

end Clearance
