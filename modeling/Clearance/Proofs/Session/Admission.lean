import Mathlib.Order.Bounds.Defs
import Clearance.Proofs.Store.Update
import Clearance.Session.Snapshot
/-!
# Admission — which snapshots a session can start with

A snapshot is admitted if every flight in it has an aircraft identification of its own.  Otherwise it is refused for the
first flight, in the order of the file, that has none or that has one which was there before: the scan knows exactly the
identifications in front of it, and none of the flights there is at fault (`firstFault_spec`).  What is not a written
list of flights, or not even a text, is refused before that.
-/
namespace Clearance

namespace FileContent

variable {data : ByteArray} {content : FileContent}

theorem text_ofString (s : String) : (ofString s).text = .ok s := by
  have hread : String.fromUTF8? s.toUTF8 = some s := dif_pos s.isValidUTF8
  rw [ofString, text, hread]
  rfl

theorem exists_ofString_iff : (∃ s, bytes data = ofString s) ↔ data.IsValidUTF8 := by
  constructor
  · rintro ⟨s, hs⟩
    cases hs
    exact s.isValidUTF8
  · exact fun h => ⟨.fromUTF8 data h, rfl⟩

theorem text_of_forall_ne (h : ∀ s, content ≠ ofString s) : content.text = .error .unreadable := by
  cases content with
  | missing | unreadable => rfl
  | bytes data =>
    have hinvalid : ¬data.IsValidUTF8 := fun hvalid => by
      obtain ⟨s, hs⟩ := exists_ofString_iff.2 hvalid
      exact h s hs
    rw [text, String.fromUTF8?, dif_neg hinvalid]
    rfl

end FileContent

namespace Snapshot

/-- Every flight has an aircraft identification of its own. -/
structure Admissible (flights : List Flight) : Prop where
  identified : ∀ f ∈ flights, f.aircraftId ≠ ""
  distinct : DistinctIds flights

instance (flights : List Flight) : Decidable (Admissible flights) :=
  decidable_of_iff ((∀ f ∈ flights, f.aircraftId ≠ "") ∧ DistinctIds flights)
    ⟨fun h => ⟨h.1, h.2⟩, fun h => ⟨h.identified, h.distinct⟩⟩

/-- The flight at this place has no aircraft identification, or the one of a flight in front of it. -/
def FaultyAt (flights : List Flight) (i : Nat) : Prop :=
  ∃ f, flights[i]? = some f ∧
    (f.aircraftId = "" ∨ ∃ j < i, ∃ g, flights[j]? = some g ∧ g.aircraftId = f.aircraftId)

/-- What is said about a flight at fault. -/
def reportOn (f : Flight) : LoadError := if f.aircraftId = "" then .missingId else .duplicateId f.aircraftId

variable {flights : List Flight} {f : Flight} {i : Nat} {s : String}

theorem message?_reportOn (f : Flight) : (reportOn f).message? =
    some (if f.aircraftId = "" then "Invalid entry snapshot: entry without aircraftId"
      else "Invalid entry snapshot: duplicate aircraftId " ++ f.aircraftId) := by
  unfold reportOn
  split <;> rfl

/-! ## Flights at fault -/

theorem FaultyAt.lt_length (h : FaultyAt flights i) : i < flights.length := by
  obtain ⟨f, hf, -⟩ := h
  exact (List.getElem?_eq_some_iff.1 hf).1

theorem getElem?_length {α : Type} (before : List α) (a : α) (after : List α) :
    (before ++ a :: after)[before.length]? = some a := by
  rw [List.getElem?_append_right (Nat.le_refl _), Nat.sub_self, List.getElem?_cons_zero]

theorem faultyAt_length (before : List Flight) (f : Flight) (after : List Flight) :
    FaultyAt (before ++ f :: after) before.length ↔ f.aircraftId = "" ∨ f.aircraftId ∈ before.map (·.aircraftId) := by
  have hfront : (∃ j < before.length, ∃ g, (before ++ f :: after)[j]? = some g ∧ g.aircraftId = f.aircraftId) ↔
      f.aircraftId ∈ before.map (·.aircraftId) := by
    rw [List.mem_map]
    constructor
    · rintro ⟨j, hj, g, hg, hid⟩
      rw [List.getElem?_append_left hj] at hg
      exact ⟨g, List.mem_of_getElem? hg, hid⟩
    · rintro ⟨g, hg, hid⟩
      obtain ⟨j, hj, rfl⟩ := List.getElem_of_mem hg
      exact ⟨j, hj, before[j], by rw [List.getElem?_append_left hj, List.getElem?_eq_getElem hj], hid⟩
  simp only [FaultyAt, getElem?_length, Option.some.injEq, exists_eq_left', hfront]

/-- **A snapshot is admissible exactly if none of its flights is at fault.** -/
theorem admissible_iff : Admissible flights ↔ ∀ i, ¬FaultyAt flights i := by
  have hdistinct : DistinctIds flights ↔ flights.Pairwise fun g f => g.aircraftId ≠ f.aircraftId := List.pairwise_map
  constructor
  · rintro h i ⟨f, hf, hempty | ⟨j, hj, g, hg, hid⟩⟩
    · exact h.identified f (List.mem_of_getElem? hf) hempty
    · obtain ⟨hi, rfl⟩ := List.getElem?_eq_some_iff.1 hf
      obtain ⟨hj', rfl⟩ := List.getElem?_eq_some_iff.1 hg
      exact List.pairwise_iff_getElem.1 (hdistinct.1 h.distinct) j i hj' hi hj hid
  · intro h
    refine ⟨fun f hf hempty => ?_, hdistinct.2 (List.pairwise_iff_getElem.2 fun j i hj hi hji hid => ?_)⟩
    · obtain ⟨i, hi⟩ := List.mem_iff_getElem?.1 hf
      exact h i ⟨f, hi, .inl hempty⟩
    · exact h i ⟨flights[i], List.getElem?_eq_getElem hi, .inr ⟨j, hji, flights[j], List.getElem?_eq_getElem hj, hid⟩⟩

/-! ## The scan -/

theorem firstFault_cons (seen : List String) (f : Flight) (after : List Flight) : firstFault seen (f :: after) =
    if f.aircraftId = "" ∨ f.aircraftId ∈ seen then some (reportOn f) else firstFault (f.aircraftId :: seen) after := by
  rw [firstFault]
  unfold reportOn
  by_cases hempty : f.aircraftId = ""
  · rw [if_pos (String.isEmpty_iff.2 hempty), if_pos (.inl hempty), if_pos hempty]
  · rw [if_neg fun h => hempty (String.isEmpty_iff.1 h), if_neg hempty]
    simp only [hempty, false_or, List.contains_iff_mem]

/-- **The scan reports the first flight at fault**, and nothing if there is none.  What it has seen are the
identifications in front of it, where no flight is at fault. -/
theorem firstFault_spec : ∀ {after before : List Flight} {seen : List String},
    (∀ id, id ∈ seen ↔ id ∈ before.map (·.aircraftId)) → (∀ i < before.length, ¬FaultyAt (before ++ after) i) →
    (firstFault seen after = none ∧ ∀ i, ¬FaultyAt (before ++ after) i) ∨
      ∃ i f, IsLeast {i | FaultyAt (before ++ after) i} i ∧ (before ++ after)[i]? = some f ∧
        firstFault seen after = some (reportOn f)
  | [], before, seen, _, hfront => by
    refine .inl ⟨rfl, fun i hi => hfront i ?_ hi⟩
    simpa only [List.append_nil] using hi.lt_length
  | f :: after, before, seen, hseen, hfront => by
    have hfault : FaultyAt (before ++ f :: after) before.length ↔ f.aircraftId = "" ∨ f.aircraftId ∈ seen :=
      (faultyAt_length before f after).trans (or_congr_right (hseen _).symm)
    rw [firstFault_cons]
    by_cases hhere : f.aircraftId = "" ∨ f.aircraftId ∈ seen
    · rw [if_pos hhere]
      have hleast : IsLeast {i | FaultyAt (before ++ f :: after) i} before.length :=
        ⟨hfault.2 hhere, fun i hi => Nat.le_of_not_lt fun hlt => hfront i hlt hi⟩
      exact .inr ⟨before.length, f, hleast, getElem?_length before f after, rfl⟩
    · rw [if_neg hhere, List.append_cons]
      refine firstFault_spec (fun id => ?_) fun i hi => ?_
      · rw [List.mem_cons, hseen, List.map_append, List.map_singleton, List.mem_append, List.mem_singleton, or_comm]
      · rw [← List.append_cons]
        rw [List.length_append, List.length_singleton, Nat.lt_succ_iff_lt_or_eq] at hi
        rcases hi with hlt | rfl
        · exact hfront i hlt
        · exact fun h => hhere (hfault.1 h)

theorem check_cases (flights : List Flight) : (Admissible flights ∧ check flights = .ok flights) ∨
    ¬Admissible flights ∧ ∃ i f, IsLeast {i | FaultyAt flights i} i ∧ flights[i]? = some f ∧
      check flights = .error (reportOn f) := by
  have hscan := @firstFault_spec flights [] [] (fun _ => Iff.rfl) nofun
  rw [List.nil_append] at hscan
  rcases hscan with ⟨hnone, hsound⟩ | ⟨i, f, hleast, hf, hfault⟩
  · exact .inl ⟨admissible_iff.2 hsound, by rw [check, hnone]⟩
  · exact .inr ⟨fun h => admissible_iff.1 h i hleast.1, i, f, hleast, hf, by rw [check, hfault]⟩

theorem check_eq_ok_iff : check flights = .ok flights ↔ Admissible flights := by
  rcases check_cases flights with ⟨h, hcheck⟩ | ⟨h, -, f, -, -, hcheck⟩
  · exact iff_of_true hcheck h
  · exact iff_of_false (by rw [hcheck]; exact nofun) h

theorem check_of_not_admissible (h : ¬Admissible flights) : ∃ i f, IsLeast {i | FaultyAt flights i} i ∧
    flights[i]? = some f ∧ check flights = .error (reportOn f) := by
  rcases check_cases flights with ⟨hadmissible, -⟩ | ⟨-, hrefused⟩
  · exact absurd hadmissible h
  · exact hrefused

/-! ## Loading -/

theorem load_ofString (s : String) : load (.ofString s) = ofText s := by
  rw [load, FileContent.text_ofString]
  rfl

theorem load_of_flights (h : (Codec.list Flight.codec).ofText s = .ok flights) :
    load (.ofString s) = check flights := by
  rw [load_ofString, ofText, h]

theorem load_of_fault {fault : Fault} (h : (Codec.list Flight.codec).ofText s = .error fault) :
    load (.ofString s) = .error (.json fault) := by
  rw [load_ofString, ofText, h]

theorem load_of_forall_ne {content : FileContent} (h : ∀ s, content ≠ .ofString s) :
    load content = .error .unreadable := by
  rw [load, FileContent.text_of_forall_ne h]
  rfl

/-- **Only a list of flights can be an invalid snapshot**, and it is one if it is not admissible. -/
theorem exists_message_iff (content : FileContent) : (∃ e, load content = .error e ∧ e.message?.isSome) ↔
    ∃ s flights, content = .ofString s ∧ (Codec.list Flight.codec).ofText s = .ok flights ∧ ¬Admissible flights := by
  constructor
  · rintro ⟨e, he, hmessage⟩
    by_cases htext : ∃ s, content = .ofString s
    · obtain ⟨s, rfl⟩ := htext
      cases hs : (Codec.list Flight.codec).ofText s with
      | error fault =>
        rw [load_of_fault hs] at he
        cases he
        cases hmessage
      | ok flights =>
        refine ⟨s, flights, rfl, hs, fun h => ?_⟩
        rw [load_of_flights hs, check_eq_ok_iff.2 h] at he
        cases he
    · rw [load_of_forall_ne (not_exists.1 htext)] at he
      cases he
      cases hmessage
  · rintro ⟨s, flights, rfl, hs, h⟩
    obtain ⟨-, f, -, -, hcheck⟩ := check_of_not_admissible h
    exact ⟨reportOn f, (load_of_flights hs).trans hcheck, by rw [message?_reportOn]; rfl⟩

/-- **How a snapshot is loaded.**  If the text is a written list of flights, these are loaded provided that each has an
aircraft identification of its own; otherwise the message is about the first flight that has none or has one which was
there before.  A text that is no such list is refused for what is wrong with it as JSON, and a file that is not the bytes
of a text for being unreadable; neither is ever said to be an invalid snapshot. -/
theorem load_outcomes :
    (∀ s flights, (Codec.list Flight.codec).ofText s = .ok flights →
      (load (.ofString s) = .ok flights ↔ Admissible flights) ∧
      (¬Admissible flights → ∃ i f, IsLeast {i | FaultyAt flights i} i ∧ flights[i]? = some f ∧
        load (.ofString s) = .error (reportOn f) ∧ (reportOn f).message? =
          some (if f.aircraftId = "" then "Invalid entry snapshot: entry without aircraftId"
            else "Invalid entry snapshot: duplicate aircraftId " ++ f.aircraftId))) ∧
    (∀ s fault, (Codec.list Flight.codec).ofText s = .error fault → load (.ofString s) = .error (.json fault)) ∧
    (∀ content, (∀ s, content ≠ .ofString s) → load content = .error .unreadable) ∧
    (∀ data, (∃ s, FileContent.bytes data = .ofString s) ↔ data.IsValidUTF8) ∧
    (∀ content, (∃ e, load content = .error e ∧ e.message?.isSome) ↔
      ∃ s flights, content = .ofString s ∧ (Codec.list Flight.codec).ofText s = .ok flights ∧ ¬Admissible flights) := by
  refine ⟨fun s flights hs => ⟨?_, fun h => ?_⟩, fun s fault => load_of_fault, fun content => load_of_forall_ne,
    fun data => FileContent.exists_ofString_iff, exists_message_iff⟩
  · rw [load_of_flights hs, check_eq_ok_iff]
  · obtain ⟨i, f, hleast, hf, hcheck⟩ := check_of_not_admissible h
    exact ⟨i, f, hleast, hf, (load_of_flights hs).trans hcheck, message?_reportOn f⟩

/-- The third flight has the identification of the first one, and the fourth one has none.  The first two by themselves
are admitted; a list that is not ended is no list; and there may be no file at all. -/
theorem load_outcomes_of_repeated_id :
    ((Codec.list Flight.codec).ofText "[[\"N1\"],[\"N2\"],[\"N1\"],[]]" =
        .ok [{ aircraftId := "N1" }, { aircraftId := "N2" }, { aircraftId := "N1" }, {}] ∧
      ¬Admissible [{ aircraftId := "N1" }, { aircraftId := "N2" }, { aircraftId := "N1" }, {}] ∧
      ∃ i f, IsLeast {i | FaultyAt [{ aircraftId := "N1" }, { aircraftId := "N2" }, { aircraftId := "N1" }, {}] i} i ∧
        [{ aircraftId := "N1" }, { aircraftId := "N2" }, { aircraftId := "N1" }, {}][i]? = some f ∧
        load (.ofString "[[\"N1\"],[\"N2\"],[\"N1\"],[]]") = .error (reportOn f)) ∧
    ((Codec.list Flight.codec).ofText "[[\"N1\"],[\"N2\"]]" = .ok [{ aircraftId := "N1" }, { aircraftId := "N2" }] ∧
      Admissible [{ aircraftId := "N1" }, { aircraftId := "N2" }] ∧
      load (.ofString "[[\"N1\"],[\"N2\"]]") = .ok [{ aircraftId := "N1" }, { aircraftId := "N2" }]) ∧
    ((Codec.list Flight.codec).ofText "[[\"N1\"]" = .error .ended ∧
      load (.ofString "[[\"N1\"]") = .error (.json .ended)) ∧
    (∀ s, FileContent.missing ≠ .ofString s) ∧ load .missing = .error .unreadable := by
  obtain ⟨hread, hfault, hfile, -, -⟩ := load_outcomes
  have hrepeated : (Codec.list Flight.codec).ofText "[[\"N1\"],[\"N2\"],[\"N1\"],[]]" =
      .ok [{ aircraftId := "N1" }, { aircraftId := "N2" }, { aircraftId := "N1" }, {}] := by with_unfolding_all rfl
  have hrefused : ¬Admissible [{ aircraftId := "N1" }, { aircraftId := "N2" }, { aircraftId := "N1" }, {}] := by decide
  have hpair : (Codec.list Flight.codec).ofText "[[\"N1\"],[\"N2\"]]" =
      .ok [{ aircraftId := "N1" }, { aircraftId := "N2" }] := by with_unfolding_all rfl
  have hadmitted : Admissible [{ aircraftId := "N1" }, { aircraftId := "N2" }] := by decide
  have hended : (Codec.list Flight.codec).ofText "[[\"N1\"]" = .error .ended := by with_unfolding_all rfl
  have hmissing : ∀ s, FileContent.missing ≠ .ofString s := fun s => nofun
  obtain ⟨i, f, hleast, hf, hload, -⟩ := (hread _ _ hrepeated).2 hrefused
  exact ⟨⟨hrepeated, hrefused, i, f, hleast, hf, hload⟩, ⟨hpair, hadmitted, (hread _ _ hpair).1.2 hadmitted⟩,
    ⟨hended, hfault _ _ hended⟩, hmissing, hfile _ hmissing⟩

end Snapshot
end Clearance
