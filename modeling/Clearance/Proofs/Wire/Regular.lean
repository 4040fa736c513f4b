import Clearance.Session.Config
import Clearance.Wire.Response
import Clearance.Proofs.Json.Faithful
import Clearance.Proofs.Time.Rfc3339
/-!
# Regular — values that can be written without loss

Only coordinates and moments can be lost in writing: a coordinate that is not finite has no written form, and a year
beyond four digits another one.  `Measured` lists both for each kind of value, and each codec is faithful to the values
in which there is nothing of that sort.
-/
namespace Clearance

open Codec

/-- The coordinates and the moments that a value holds. -/
class Measured (α : Type) where
  coordinates : α → List Float
  times : α → List Time.Instant

export Measured (coordinates times)

section
variable {α : Type} [Measured α]

def AllFinite (a : α) : Prop := ∀ x ∈ coordinates a, x.isFinite = true

/-- The shortest digits of each coordinate are read as that coordinate, and each moment has a year of four digits. -/
structure Legible (a : α) : Prop where
  reads_back : ∀ x ∈ coordinates a, Numeral.ReadsBack x
  years : ∀ t ∈ times a, t.HasFourDigitYear

/-- Nothing of the value is lost in writing. -/
structure Regular (a : α) : Prop extends Legible a where
  finite : AllFinite a

instance : Measured (List α) := ⟨fun l => l.flatMap coordinates, fun l => l.flatMap times⟩

instance : Measured (Option α) := ⟨fun o => o.toList.flatMap coordinates, fun o => o.toList.flatMap times⟩

theorem Regular.of_mem {l : List α} (h : Regular l) {a : α} (ha : a ∈ l) : Regular a where
  finite x hx := h.finite x (List.mem_flatMap.2 ⟨a, ha, hx⟩)
  reads_back x hx := h.reads_back x (List.mem_flatMap.2 ⟨a, ha, hx⟩)
  years t ht := h.years t (List.mem_flatMap.2 ⟨a, ha, ht⟩)

theorem Regular.of_some {o : Option α} (h : Regular o) {a : α} (ha : a ∈ o) : Regular a where
  finite x hx := h.finite x (List.mem_flatMap.2 ⟨a, Option.mem_toList.2 ha, hx⟩)
  reads_back x hx := h.reads_back x (List.mem_flatMap.2 ⟨a, Option.mem_toList.2 ha, hx⟩)
  years t ht := h.years t (List.mem_flatMap.2 ⟨a, Option.mem_toList.2 ha, ht⟩)

theorem Regular.part {β : Type} [Measured β] {a : α} {b : β} (h : Regular a)
    (hcoordinates : coordinates b ⊆ coordinates a) (htimes : times b ⊆ times a) : Regular b where
  finite x hx := h.finite x (hcoordinates hx)
  reads_back x hx := h.reads_back x (hcoordinates hx)
  years t ht := h.years t (htimes ht)

end

/-! ## What values hold -/

instance : Measured Position := ⟨fun p => [p.lat, p.lon], fun _ => []⟩

instance : Measured Fix := ⟨fun f => coordinates f.position, fun _ => []⟩

instance : Measured FixTable := ⟨fun t => coordinates (t.entries.map (·.2)), fun _ => []⟩

@[simp] theorem times_fixes (xs : List Fix) : times xs = [] := List.flatMap_eq_nil_iff.2 fun _ _ => rfl

@[simp] theorem times_fixOption (o : Option (List Fix)) : times o = [] :=
  List.flatMap_eq_nil_iff.2 fun xs _ => times_fixes xs

@[simp] theorem times_positions (ps : List Position) : times ps = [] := List.flatMap_eq_nil_iff.2 fun _ _ => rfl

@[simp] theorem times_positionOption (o : Option Position) : times o = [] := times_positions o.toList

instance : Measured PreferentialRoute := ⟨fun _ => [], fun _ => []⟩

instance : Measured Flight where
  coordinates f :=
    coordinates f.filedFixes ++ coordinates f.amendedFixes ++ coordinates f.previousFixes ++ coordinates f.position
  times f := f.pendingRemoval.toList

theorem Flight.coordinates_eq (f : Flight) : coordinates f =
    coordinates f.filedFixes ++ coordinates f.amendedFixes ++ coordinates f.previousFixes ++ coordinates f.position := rfl

instance : Measured Patch := ⟨fun p => coordinates p.amendedFixes ++ coordinates p.previousFixes, fun _ => []⟩

instance : Measured Direct := ⟨fun d => coordinates d.fixes, fun _ => []⟩

instance : Measured ComposedRoute := ⟨fun _ => [], fun _ => []⟩

instance : Measured Command := ⟨fun _ => [], fun _ => []⟩

instance : Measured Config := ⟨fun _ => [], fun _ => []⟩

instance : Measured Amendment := ⟨fun a => coordinates a.patch, fun _ => []⟩

instance : Measured TrialPlan := ⟨fun p => coordinates p.patch, fun _ => []⟩

instance : Measured Intent where
  coordinates
    | .mutate _ patch => coordinates patch
    | .submit amendment => coordinates amendment
    | .stage plan => coordinates plan
    | _ => []
  times _ := []

@[simp] theorem times_intents (is : List Intent) : times is = [] := List.flatMap_eq_nil_iff.2 fun _ _ => rfl

instance : Measured Response := ⟨fun r => coordinates r.intents, fun _ => []⟩

/-! ## Routes -/

theorem Position.faithful {p : Position} (n : Nat) (h : Regular p) : codec.Faithful (n + 1) p := by
  have hlat : p.lat ∈ coordinates p := List.mem_cons_self
  have hlon : p.lon ∈ coordinates p := List.mem_cons_of_mem _ List.mem_cons_self
  exact faithful_record (by decide) <|
    .cons (Field.copies_required (faithful_real n (h.finite _ hlat) (h.reads_back _ hlat))) <|
    .cons (Field.copies_required (faithful_real n (h.finite _ hlon) (h.reads_back _ hlon))) <|
    .nil p

theorem Position.faithful_option {o : Option Position} (n : Nat) (h : Regular o) :
    (option codec).Faithful (n + 1) o :=
  Codec.faithful_option fun _ hp => ⟨faithful n (h.of_some hp), record_encode_ne_null _ _ _⟩

theorem Fix.faithful {f : Fix} (n : Nat) (h : Regular f) : codec.Faithful (n + 2) f := by
  have hposition : Regular f.position := h.part (List.Subset.refl _) (by simp)
  exact faithful_record (by decide) <|
    .cons (Field.copies_required (faithful_text _ _)) <|
    .cons (Field.copies_defaulted (Position.faithful_option n hposition)) <|
    .nil f

theorem Fix.faithful_list {xs : List Fix} (n : Nat) (h : Regular xs) : (list codec).Faithful (n + 3) xs :=
  Codec.faithful_list fun _ hf => faithful n (h.of_mem hf)

theorem Fix.faithful_option {o : Option (List Fix)} (n : Nat) (h : Regular o) :
    ∀ xs ∈ o, (list codec).Faithful (n + 3) xs ∧ (list codec).encode xs ≠ .null :=
  fun _ hxs => ⟨faithful_list n (h.of_some hxs), nofun⟩

namespace FixTable

theorem decodeEntries_append (m : Mode) {n : Nat} : ∀ {es : List (String × Position)} {t : FixTable},
    (∀ e ∈ es, Position.codec.Faithful n e.2) → (t.entries ++ es).Pairwise (fun a b => a.1 < b.1) →
    ∃ u, decodeEntries m t (Json.toFields (es.map fun e => (e.1, Position.codec.encode e.2))) = .ok u ∧
      u.entries = t.entries ++ es
  | [], t, _, _ => ⟨t, rfl, (List.append_nil _).symm⟩
  | (name, p) :: es, t, h, hsorted => by
    obtain ⟨hp, hes⟩ := List.forall_mem_cons.1 h
    have hset : (t.set name p).entries = t.entries ++ [(name, p)] :=
      Text.place_of_forall_lt fun b hb => (List.pairwise_append.1 hsorted).2.2 b hb _ List.mem_cons_self
    have hnext : ((t.set name p).entries ++ es).Pairwise (fun a b => a.1 < b.1) := by
      rw [hset, List.append_assoc]
      exact hsorted
    obtain ⟨u, hread, hu⟩ := decodeEntries_append m (t := t.set name p) hes hnext
    refine ⟨u, ?_, by rw [hu, hset, List.append_assoc]; rfl⟩
    rw [List.map_cons, Json.toFields, decodeEntries, hp.decode_encode]
    exact hread

theorem faithful_entries {t : FixTable} (n : Nat) (h : Regular t) : entriesCodec.Faithful (n + 2) t := by
  have hpositions : ∀ e ∈ t.entries, Position.codec.Faithful (n + 1) e.2 := fun e he => by
    have hall : Regular (t.entries.map (·.2)) := h.part (List.Subset.refl _) (by simp)
    exact Position.faithful n (hall.of_mem (List.mem_map_of_mem he))
  refine ⟨fun m => ?_, .object fun f hf => ?_⟩
  · obtain ⟨⟨entries, hsorted⟩, hread, rfl⟩ := decodeEntries_append m (t := .empty) hpositions t.sorted
    exact hread
  · obtain ⟨e, he, rfl⟩ := List.mem_map.1 hf
    exact (hpositions e he).sound

theorem faithful {t : FixTable} (n : Nat) (h : Regular t) : codec.Faithful (n + 3) t :=
  faithful_record (by decide) <|
    .cons (Field.copies_required (faithful_entries n h)) <|
    .nil t

end FixTable

/-! ## Flights -/

theorem Time.Instant.faithful {t : Time.Instant} (n : Nat) (h : t.HasFourDigitYear) : codec.Faithful n t :=
  faithful_written n (by rw [String.toList_ofList]; exact Time.read?_write t h)

theorem Transition.faithful (n : Nat) (t : Transition) : codec.Faithful n t :=
  faithful_named n (by cases t <;> decide)

theorem faithful_texts (n : Nat) (ss : List String) : (list text).Faithful (n + 1) ss :=
  faithful_list fun s _ => faithful_text n s

theorem faithful_textOption (n : Nat) (o : Option String) : (option text).Faithful n o :=
  faithful_option fun s _ => ⟨faithful_text n s, nofun⟩

theorem PreferentialRoute.faithful (n : Nat) (c : PreferentialRoute) : codec.Faithful (n + 2) c :=
  faithful_record (by decide) <|
    .cons (Field.copies_defaulted (faithful_text _ _)) <|
    .cons (Field.copies_defaulted (faithful_text _ _)) <|
    .cons (Field.copies_defaulted (faithful_text _ _)) <|
    .cons (Field.copies_defaulted (Transition.faithful _ _)) <|
    .cons (Field.copies_defaulted (faithful_bool _ _)) <|
    .cons (Field.copies_defaulted (faithful_texts n _)) <|
    .cons (Field.copies_defaulted (faithful_uint32 _ _)) <|
    .cons (Field.copies_defaulted (faithful_bool _ _)) <|
    .nil c

theorem Flight.faithful {f : Flight} (n : Nat) (h : Regular f) : codec.Faithful (n + 4) f := by
  have hfiled : Regular f.filedFixes := h.part (fun x hx => by simp [coordinates_eq, hx]) (by simp)
  have hamended : Regular f.amendedFixes := h.part (fun x hx => by simp [coordinates_eq, hx]) (by simp)
  have hprevious : Regular f.previousFixes := h.part (fun x hx => by simp [coordinates_eq, hx]) (by simp)
  have hposition : Regular f.position := h.part (fun x hx => by simp [coordinates_eq, hx]) (by simp)
  have hremoval : ∀ t ∈ f.pendingRemoval, Time.Instant.codec.Faithful (n + 3) t ∧ Time.Instant.codec.encode t ≠ .null :=
    fun t ht => ⟨Time.Instant.faithful _ (h.years t (Option.mem_toList.2 ht)), nofun⟩
  have hcode : ∀ c ∈ f.beaconCode, uint16.Faithful (n + 3) c ∧ uint16.encode c ≠ .null :=
    fun c _ => ⟨faithful_uint16 _ c, nofun⟩
  have hroutes : ∀ cs : List PreferentialRoute, (list PreferentialRoute.codec).Faithful (n + 3) cs :=
    fun cs => faithful_list fun c _ => PreferentialRoute.faithful n c
  exact faithful_record (by decide) <|
    .cons (Field.copies_defaulted (faithful_text _ _)) <|
    .cons (Field.copies_defaulted (faithful_text _ _)) <|
    .cons (Field.copies_defaulted (faithful_option hcode)) <|
    .cons (Field.copies_defaulted (faithful_text _ _)) <|
    .cons (Field.copies_defaulted (faithful_uint32 _ _)) <|
    .cons (Field.copies_defaulted (faithful_text _ _)) <|
    .cons (Field.copies_defaulted (faithful_text _ _)) <|
    .cons (Field.copies_defaulted (faithful_text _ _)) <|
    .cons (Field.copies_defaulted (faithful_text _ _)) <|
    .cons (Field.copies_defaulted (Fix.faithful_list n hfiled)) <|
    .cons (Field.copies_defaulted (faithful_textOption _ _)) <|
    .cons (Field.copies_defaulted (faithful_option (Fix.faithful_option n hamended))) <|
    .cons (Field.copies_defaulted (faithful_text _ _)) <|
    .cons (Field.copies_defaulted (faithful_textOption _ _)) <|
    .cons (Field.copies_defaulted (faithful_option (Fix.faithful_option n hprevious))) <|
    .cons (Field.copies_defaulted (hroutes _)) <|
    .cons (Field.copies_defaulted (hroutes _)) <|
    .cons (Field.copies_defaulted (faithful_bool _ _)) <|
    .cons (Field.copies_defaulted (faithful_bool _ _)) <|
    .cons (Field.copies_defaulted (faithful_bool _ _)) <|
    .cons (Field.copies_defaulted (faithful_bool _ _)) <|
    .cons (Field.copies_defaulted (faithful_bool _ _)) <|
    .cons (Field.copies_defaulted (faithful_option hremoval)) <|
    .cons (Field.copies_defaulted (Position.faithful_option _ hposition)) <|
    .nil f

/-- The fields of a patch come back one by one, whichever of them are there. -/
theorem Patch.faithful {p : Patch} (n : Nat) (h : Regular p) : codec.Faithful (n + 4) p := by
  have hamended : Regular p.amendedFixes := h.part (List.subset_append_left _ _) (by simp)
  have hprevious : Regular p.previousFixes := h.part (List.subset_append_right _ _) (by simp)
  have htext : ∀ o : Option String, ∀ s ∈ o, text.Faithful (n + 3) s ∧ text.encode s ≠ .null :=
    fun _ s _ => ⟨faithful_text _ s, nofun⟩
  have hbool : ∀ o : Option Bool, ∀ b ∈ o, bool.Faithful (n + 3) b ∧ bool.encode b ≠ .null :=
    fun _ b _ => ⟨faithful_bool _ b, nofun⟩
  exact faithful_record (by decide) <|
    .cons (Field.copies_omitted (htext _) fun _ => rfl) <|
    .cons (Field.copies_omitted (Fix.faithful_option n hamended) fun _ => rfl) <|
    .cons (Field.copies_omitted (htext _) fun _ => rfl) <|
    .cons (Field.copies_omitted (Fix.faithful_option n hprevious) fun _ => rfl) <|
    .cons (Field.copies_omitted (hbool _) fun _ => rfl) <|
    .cons (Field.copies_omitted (hbool _) fun _ => rfl) <|
    .cons (Field.copies_omitted (hbool _) fun _ => rfl) <|
    .cons (Field.copies_omitted (hbool _) fun _ => rfl) <|
    .cons (Field.copies_omitted (hbool _) fun _ => rfl) <|
    .of_eq (by simp)

/-! ## Commands, responses and intents -/

theorem Command.faithful (n : Nat) (c : Command) : codec.Faithful (n + 2) c :=
  faithful_record (by decide) <|
    .cons (Field.copies_required (faithful_text _ _)) <|
    .cons (Field.copies_required (faithful_texts n _)) <|
    .cons (Field.copies_required (faithful_text _ _)) <|
    .nil c

theorem Config.faithful (n : Nat) (c : Config) : codec.Faithful (n + 1) c :=
  faithful_record (by decide) <|
    .cons (Field.copies_required (faithful_text _ _)) <|
    .cons (Field.copies_defaulted (faithful_bool _ _)) <|
    .cons (Field.copies_defaulted (faithful_textOption _ _)) <|
    .cons (Field.copies_defaulted (faithful_int64 _ _)) <|
    .nil c

theorem Direct.faithful {d : Direct} (n : Nat) (h : Regular d) : codec.Faithful (n + 4) d := by
  have hfixes : Regular d.fixes := h.part (List.Subset.refl _) (by simp)
  exact faithful_record (by decide) <|
    .cons (Field.copies_required (faithful_text _ _)) <|
    .cons (Field.copies_required (faithful_text _ _)) <|
    .cons (Field.copies_required (Fix.faithful_list n hfixes)) <|
    .nil d

theorem ComposedRoute.faithful (n : Nat) (c : ComposedRoute) : codec.Faithful (n + 2) c :=
  faithful_record (by decide) <|
    .cons (Field.copies_required (faithful_text _ _)) <|
    .cons (Field.copies_required (faithful_text _ _)) <|
    .cons (Field.copies_required (faithful_texts n _)) <|
    .nil c

theorem Amendment.faithful {a : Amendment} (n : Nat) (h : Regular a) : codec.Faithful (n + 5) a := by
  have hpatch : Regular a.patch := h.part (List.Subset.refl _) (List.Subset.refl _)
  exact faithful_record (by decide) <|
    .cons (Field.copies_required (faithful_text _ _)) <|
    .cons (Field.copies_required (faithful_text _ _)) <|
    .cons (Field.copies_required (faithful_text _ _)) <|
    .cons (Field.copies_optional fun s _ => ⟨faithful_text _ s, nofun⟩) <|
    .cons (Field.copies_required (Patch.faithful n hpatch)) <|
    .nil a

theorem TrialPlan.faithful {t : TrialPlan} (n : Nat) (h : Regular t) : codec.Faithful (n + 5) t := by
  have hpatch : Regular t.patch := h.part (List.Subset.refl _) (List.Subset.refl _)
  exact faithful_record (by decide) <|
    .cons (Field.copies_required (faithful_text _ _)) <|
    .cons (Field.copies_required (faithful_text _ _)) <|
    .cons (Field.copies_required (Patch.faithful n hpatch)) <|
    .cons (Field.copies_required (faithful_text _ _)) <|
    .nil t

theorem Status.faithful (n : Nat) (s : Status) : codec.Faithful n s := faithful_named n (by cases s <;> decide)

theorem RejectKind.faithful (n : Nat) (k : RejectKind) : codec.Faithful n k := faithful_named n (by cases k <;> decide)

theorem Window.faithful (n : Nat) (w : Window) : codec.Faithful n w := faithful_named n (by cases w <;> decide)

theorem FlightList.faithful (n : Nat) (l : FlightList) : codec.Faithful n l := faithful_named n (by cases l <;> decide)

namespace Intent

theorem faithful_mutation {patch : Patch} (n : Nat) (aircraftId : String) (h : Regular patch) :
    mutationCodec.Faithful (n + 5) (aircraftId, patch) :=
  faithful_objectOnly (by decide) <|
    .cons (Field.copies_required (faithful_text _ _)) <|
    .cons (Field.copies_required (Patch.faithful n h)) <|
    .nil _

theorem faithful_deletion (n : Nat) (aircraftId : String) (list : FlightList) :
    deletionCodec.Faithful (n + 1) (aircraftId, list) :=
  faithful_objectOnly (by decide) <|
    .cons (Field.copies_required (faithful_text _ _)) <|
    .cons (Field.copies_required (FlightList.faithful _ _)) <|
    .nil _

theorem faithful_strip (n : Nat) (aircraftId : String) : stripCodec.Faithful (n + 1) aircraftId :=
  faithful_objectOnly (by decide) <|
    .cons (Field.copies_required (faithful_text _ _)) <|
    .nil _

theorem ofName?_tag (t : Tag) : ofName? variants.tags variants.name (variants.name t) = some t := by
  cases t <;> decide

section
variable {n : Nat}

theorem faithful_tagged {α : Type} {c : Codec α} {a : α} (hc : c.Faithful n a) (t : Tag) (make : α → Intent)
    (hencode : encode (make a) = tagged t (c.encode a))
    (hdecode : ∀ m d, decodeContent t m d = (c.decode m d).map make) : codec.Faithful (n + 1) (make a) := by
  constructor
  · intro m
    have hcontent : decodeContent t m (c.encode a).toDoc = .ok (make a) := by
      rw [hdecode, hc.decode_encode]
      rfl
    simp only [codec, hencode]
    exact Variants.decode_tagged (ofName?_tag t) m hcontent
  · simp only [codec, hencode]
    exact .object (List.forall_mem_cons.2 ⟨.string _, List.forall_mem_cons.2 ⟨hc.sound, nofun⟩⟩)

theorem faithful_closeAllWindows : codec.Faithful (n + 1) closeAllWindows :=
  ⟨fun m => Variants.decode_tag (ofName?_tag .closeAllWindows) m rfl, .object (List.forall_mem_cons.2 ⟨.string _, nofun⟩)⟩

end

/-- Each of the twelve intents comes back under its name. -/
theorem faithful (n : Nat) : ∀ {i : Intent}, Regular i → codec.Faithful (n + 6) i
  | .openWindow w, _ => faithful_tagged (Window.faithful _ w) .openWindow .openWindow rfl fun _ _ => rfl
  | .closeAllWindows, _ => faithful_closeAllWindows
  | .setManualPosting on, _ =>
    faithful_tagged (faithful_bool _ on) .setManualPosting .setManualPosting rfl fun _ _ => rfl
  | .addFlight fid, _ => faithful_tagged (faithful_text _ fid) .addFlight .addFlight rfl fun _ _ => rfl
  | .mutate aircraftId patch, h =>
    have hpatch : Regular patch := h.part (List.Subset.refl _) (List.Subset.refl _)
    faithful_tagged (faithful_mutation n aircraftId hpatch) .mutate (fun c => .mutate c.1 c.2) rfl fun _ _ => rfl
  | .delete aircraftId list, _ =>
    faithful_tagged (faithful_deletion _ aircraftId list) .delete (fun c => .delete c.1 c.2) rfl fun _ _ => rfl
  | .toggleAltimeterWatch stations, _ =>
    faithful_tagged (faithful_texts _ stations) .toggleAltimeterWatch .toggleAltimeterWatch rfl fun _ _ => rfl
  | .toggleWeatherWatch stations, _ =>
    faithful_tagged (faithful_texts _ stations) .toggleWeatherWatch .toggleWeatherWatch rfl fun _ _ => rfl
  | .showReadout text, _ => faithful_tagged (faithful_text _ text) .showReadout .showReadout rfl fun _ _ => rfl
  | .printStrip aircraftId, _ => faithful_tagged (faithful_strip _ aircraftId) .printStrip .printStrip rfl fun _ _ => rfl
  | .submit amendment, h =>
    have hamendment : Regular amendment := h.part (List.Subset.refl _) (List.Subset.refl _)
    faithful_tagged (Amendment.faithful n hamendment) .submit .submit rfl fun _ _ => rfl
  | .stage plan, h =>
    have hplan : Regular plan := h.part (List.Subset.refl _) (List.Subset.refl _)
    faithful_tagged (TrialPlan.faithful n hplan) .stage .stage rfl fun _ _ => rfl

end Intent

theorem Response.faithful {r : Response} (n : Nat) (h : Regular r) : codec.Faithful (n + 8) r := by
  have hintents : Regular r.intents := h.part (List.Subset.refl _) (by simp)
  have hlist : (list Intent.codec).Faithful (n + 7) r.intents :=
    faithful_list fun _ hi => Intent.faithful n (hintents.of_mem hi)
  exact faithful_record (by decide) <|
    .cons (Field.copies_required (Status.faithful _ _)) <|
    .cons (Field.copies_optional fun k _ => ⟨RejectKind.faithful _ k, nofun⟩) <|
    .cons (Field.copies_required (faithful_text _ _)) <|
    .cons (Field.copies_required hlist) <|
    .nil r

end Clearance
