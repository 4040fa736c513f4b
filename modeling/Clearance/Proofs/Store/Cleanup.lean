import Clearance.Proofs.Store.Desk
import Clearance.Proofs.Store.Listing
import Clearance.Proofs.Time.Elapsed
import Clearance.Session.Config
import Mathlib.Data.List.Nodup
/-!
# Cleanup — which flights a clean-up takes off the ACL

A clean-up takes off the flights that are expired at its clock value, and no others.  How long a flight waits is
reckoned by the clock, which may lie in a leap second or stand before an earlier one, so a flight that is expired need
not be so a moment later; `RunsOn` says between which clock values none is lost.
-/
namespace Clearance

open Time (Instant)

/-- From one clock value to the other no flight has waited for less time: they are equal, or a second passes between
them, or one comes after the other and neither they nor the marks of the flights lie in a leap second. -/
def RunsOn (flights : List Flight) (now later : Instant) : Prop :=
  now = later ∨ 1000000000 ≤ (later.since now).nanos ∨
    now ≤ later ∧ ¬now.IsLeap ∧ ¬later.IsLeap ∧ ∀ f ∈ flights, ∀ since ∈ f.pendingRemoval, ¬since.IsLeap

namespace Flight

variable {f : Flight} {flights : List Flight} {context context' : Context}

theorem since_le_since_of_runsOn {now later since : Instant} (h : RunsOn flights now later) (hf : f ∈ flights)
    (hsince : f.pendingRemoval = some since) : (now.since since).nanos ≤ (later.since since).nanos := by
  rcases h with rfl | hsecond | ⟨hle, hnow, hlater, hmarks⟩
  · exact Int.le_refl _
  · exact Instant.since_le_since_of_second hsecond
  · exact Instant.since_le_since_of_not_isLeap hle hnow hlater (hmarks f hf since hsince)

/-- **What is expired stays so** while the clock runs on and the timeout gets no longer. -/
theorem isExpired_of_runsOn (h : RunsOn flights context.now context'.now)
    (htimeout : context'.removalTimeout.nanos ≤ context.removalTimeout.nanos) (hf : f ∈ flights)
    (hexpired : f.isExpired context = true) : f.isExpired context' = true := by
  obtain ⟨hshown, since, hsince, hlong⟩ := Event.isExpired_iff.1 hexpired
  have hgrows := since_le_since_of_runsOn h hf hsince
  exact Event.isExpired_iff.2 ⟨hshown, since, hsince, by omega⟩

end Flight

namespace Message

variable {s : Store} {m m' : Message}

theorem cleansUp_of_text (h : m.text = "UU C") : m.CleansUp := by
  rw [CleansUp, h]
  decide +kernel

theorem intents_of_cleansUp (hm : m.CleansUp) (s : Store) : (m.response s).intents =
    (s.flights.filter (·.isExpired m.context)).map fun f => .delete f.aircraftId .acl := by
  rw [response_eq, cleansUp_iff.1 hm]
  rfl

theorem step_of_cleansUp (h : DistinctIds s.flights) (hm : m.CleansUp) : step s m =
    { s with flights := s.flights.map fun f => if f.isExpired m.context then { f with aclDisplay := false } else f } := by
  rw [step_eq_atDesk, flights_step h, cleansUp_iff.1 hm]
  rfl

theorem nodup_intents_of_cleansUp (h : DistinctIds s.flights) (hm : m.CleansUp) : (m.response s).intents.Nodup := by
  have hids : ((s.flights.filter (·.isExpired m.context)).map (·.aircraftId)).Nodup :=
    h.sublist (List.filter_sublist.map _)
  have hintents := hids.map (f := fun id => Intent.delete id .acl) fun a b hab => (Intent.delete.inj hab).1
  rw [intents_of_cleansUp hm]
  rwa [List.map_map] at hintents

/-- **No flight is expired after a clean-up.** -/
theorem not_isExpired_after (h : DistinctIds s.flights) (hm : m.CleansUp)
    (htimeout : m.context.removalTimeout.nanos ≤ m'.context.removalTimeout.nanos)
    (hclock : RunsOn s.flights m'.context.now m.context.now) :
    ∀ f ∈ (step s m).flights, f.isExpired m'.context = false := by
  rw [step_of_cleansUp h hm]
  intro g hg
  obtain ⟨f, hf, rfl⟩ := List.mem_map.1 hg
  split
  · rfl
  · rename_i hexpired
    exact Bool.eq_false_iff.2 fun hagain => hexpired (Flight.isExpired_of_runsOn hclock htimeout hf hagain)

/-- **A second clean-up finds nothing to do.** -/
theorem cleanUp_again (h : DistinctIds s.flights) (hm : m.CleansUp) (hm' : m'.CleansUp)
    (htimeout : m.context.removalTimeout.nanos ≤ m'.context.removalTimeout.nanos)
    (hclock : RunsOn s.flights m'.context.now m.context.now) :
    (m'.response (step s m)).intents = [] ∧ step (step s m) m' = step s m := by
  have hnone : (m'.response (step s m)).intents = [] := by
    rw [intents_of_cleansUp hm', List.filter_eq_nil_iff.2 fun f hf => ?_]
    · rfl
    · rw [not_isExpired_after h hm htimeout hclock f hf]
      exact Bool.false_ne_true
  exact ⟨hnone, by rw [step, hnone]; rfl⟩

/-- **A later clean-up, or one with a shorter timeout, takes off the same flights and maybe more.** -/
theorem intents_sublist (hm : m.CleansUp) (hm' : m'.CleansUp)
    (htimeout : m'.context.removalTimeout.nanos ≤ m.context.removalTimeout.nanos)
    (hclock : RunsOn s.flights m.context.now m'.context.now) :
    List.Sublist (m.response s).intents (m'.response s).intents := by
  have hexpired : s.flights.filter (·.isExpired m.context) =
      (s.flights.filter (·.isExpired m'.context)).filter (·.isExpired m.context) := by
    rw [List.filter_filter]
    refine List.filter_congr fun f hf => ?_
    rw [Bool.eq_iff_iff, Bool.and_eq_true]
    exact ⟨fun h => ⟨h, Flight.isExpired_of_runsOn hclock htimeout hf h⟩, fun h => h.1⟩
  rw [intents_of_cleansUp hm, intents_of_cleansUp hm', hexpired]
  exact List.filter_sublist.map _

end Message

/-! ## The timeout of a configuration -/

namespace Config

variable {c : Config} {f : Flight} {now since : Instant}

theorem removalTimeout_eq (c : Config) : c.removalTimeout = .ofSeconds
    (if 0 ≤ c.removalTimeoutSecs.toInt ∧ c.removalTimeoutSecs.toInt ≤ 9223372036854775
      then c.removalTimeoutSecs.toInt else 120) := by
  have hdefault : defaultTimeoutSecs.toInt = 120 := by decide
  simp only [removalTimeout, Bool.and_eq_true, decide_eq_true_eq, hdefault]
  rfl

/-- **A flight that is marked for now or for later is not expired**, unless there is no timeout and the clock lies in a
leap second. -/
theorem isLeap_of_isExpired (hsince : f.pendingRemoval = some since) (hle : now ≤ since)
    (hexpired : f.isExpired (c.context now) = true) : now.IsLeap ∧ c.removalTimeoutSecs = 0 := by
  obtain ⟨-, since', hsince', hlong⟩ := Event.isExpired_iff.1 hexpired
  obtain rfl : since = since' := Option.some.inj (hsince.symm.trans hsince')
  have hlong' : c.removalTimeout.nanos < (now.since since).nanos := hlong
  have hshort : (now.since since).nanos < 1000000000 := Instant.since_lt_second hle
  rw [removalTimeout_eq, Time.Span.nanos_ofSeconds] at hlong'
  split at hlong'
  · constructor
    · by_contra hnow
      have hnone : (now.since since).nanos ≤ 0 := Instant.since_nonpos hle hnow
      omega
    · have hzero : c.removalTimeoutSecs.toInt = 0 := by omega
      exact Int64.toInt_inj.1 hzero
  · omega

end Config

namespace Message

/-- **A clean-up takes the expired flights off the ACL, and nothing else.**  There is one intent for each flight that is
on the ACL and was marked longer ago than the timeout, in the order of the flights.  Afterwards none of them is on the
ACL, so the same clean-up again, or one with a clock value from which the clock runs on to this, finds nothing to do; and
as the clock runs on and the timeout gets shorter the flights that are taken off can only become more.  The timeout of a
configuration is its number of seconds where that is a length of time, and two minutes otherwise; so a flight that is
marked for now or for later stays, unless there is no timeout and the clock lies in a leap second. -/
theorem cleanUp_exact (s : Store) (h : DistinctIds s.flights) (m : Message) (hm : m.CleansUp) :
    ((m.response s).intents = (s.flights.filter (·.isExpired m.context)).map (fun f => .delete f.aircraftId .acl) ∧
      (m.response s).intents.Nodup ∧
      ∀ f : Flight, f.isExpired m.context = true ↔ f.aclDisplay = true ∧ ∃ since, f.pendingRemoval = some since ∧
        m.context.removalTimeout.nanos < (m.context.now.since since).nanos) ∧
    (step s m = { s with
        flights := s.flights.map fun f => if f.isExpired m.context then { f with aclDisplay := false } else f } ∧
      ∀ f ∈ (step s m).flights, f.isExpired m.context = false) ∧
    (∀ m' : Message, m'.CleansUp → m.context.removalTimeout.nanos ≤ m'.context.removalTimeout.nanos →
      RunsOn s.flights m'.context.now m.context.now →
      (m'.response (step s m)).intents = [] ∧ step (step s m) m' = step s m) ∧
    (∀ m' : Message, m'.CleansUp → m'.context.removalTimeout.nanos ≤ m.context.removalTimeout.nanos →
      RunsOn s.flights m.context.now m'.context.now →
      List.Sublist (m.response s).intents (m'.response s).intents) ∧
    ∀ (c : Config) (now : Instant),
      (c.context now).removalTimeout = .ofSeconds
        (if 0 ≤ c.removalTimeoutSecs.toInt ∧ c.removalTimeoutSecs.toInt ≤ 9223372036854775
          then c.removalTimeoutSecs.toInt else 120) ∧
      ∀ (f : Flight) (since : Instant), f.pendingRemoval = some since → now ≤ since →
        f.isExpired (c.context now) = true → now.IsLeap ∧ c.removalTimeoutSecs = 0 :=
  ⟨⟨intents_of_cleansUp hm s, nodup_intents_of_cleansUp h hm, fun _ => Event.isExpired_iff⟩,
    ⟨step_of_cleansUp h hm, not_isExpired_after h hm (Int.le_refl _) (.inl rfl)⟩,
    fun _ hm' => cleanUp_again h hm hm', fun _ hm' => intents_sublist hm hm',
    fun c _ => ⟨c.removalTimeout_eq, fun _ _ => Config.isLeap_of_isExpired⟩⟩

theorem cleanUp_exact_of_two_marked_flights :
    let message (now : Instant) : Message := ⟨⟨none⟩, ⟨false, "ZOA", now, .ofSeconds 120⟩, "UU C"⟩
    let f : Flight := { aircraftId := "N1", aclDisplay := true, pendingRemoval := some .epoch }
    let g : Flight := { aircraftId := "N2", aclDisplay := true }
    let s : Store := .ofFlights [f, g]
    let early : Instant := ⟨0, 150, 0, by decide, by decide, by decide⟩
    let late : Instant := ⟨0, 300, 0, by decide, by decide, by decide⟩
    DistinctIds s.flights ∧ (message early).CleansUp ∧ (message late).CleansUp ∧ RunsOn s.flights early late ∧
      ((message late).response s).intents = [.delete "N1" .acl] ∧
      ((message early).response (step s (message late))).intents = [] ∧
      List.Sublist ((message early).response s).intents ((message late).response s).intents ∧
      ∀ (c : Config) (k : Flight), c.removalTimeoutSecs = 5 → k.pendingRemoval = some late → early ≤ late →
        k.isExpired (c.context early) = false := by
  intro message f g s early late
  have hdistinct : DistinctIds s.flights := by decide
  have hclean : ∀ now, (message now).CleansUp := fun now => cleansUp_of_text rfl
  have hruns : RunsOn s.flights early late := .inr (.inl (by decide +kernel))
  have hexpired : f.isExpired (message late).context = true ∧ g.isExpired (message late).context = false := by
    decide +kernel
  have hfilter : s.flights.filter (·.isExpired (message late).context) = [f] := by
    simp [s, Store.ofFlights, hexpired.1, hexpired.2]
  obtain ⟨⟨hintents, -, -⟩, -, hagain, -, hconfig⟩ := cleanUp_exact s hdistinct (message late) (hclean late)
  obtain ⟨-, -, -, hmore, -⟩ := cleanUp_exact s hdistinct (message early) (hclean early)
  rw [hfilter] at hintents
  refine ⟨hdistinct, hclean early, hclean late, hruns, hintents,
    (hagain (message early) (hclean early) (Int.le_refl _) hruns).1,
    hmore (message late) (hclean late) (Int.le_refl _) hruns, fun c k hfive hmark hle => ?_⟩
  refine Bool.eq_false_iff.2 fun hexpired => ?_
  have hzero := ((hconfig c early).2 k late hmark hle hexpired).2
  rw [hfive] at hzero
  exact absurd hzero (by decide)

/-- **The clock has to run on.**  A flight that was marked in a leap second can be expired at one clock value and not a
moment later, after a midnight; and if there is no timeout a clock in a leap second finds a flight expired that is marked
for the start of the next day. -/
theorem cleanUp_across_leap_seconds :
    let message (now : Instant) : Message := ⟨⟨none⟩, ⟨false, "ZOA", now, .ofSeconds 43140⟩, "UU C"⟩
    let mark : Instant := ⟨20634, 43259, 1500000000, by decide, by decide, by decide⟩
    let early : Instant := ⟨20634, 86399, 900000000, by decide, by decide, by decide⟩
    let late : Instant := ⟨20635, 0, 0, by decide, by decide, by decide⟩
    let leap : Instant := ⟨20634, 86399, 1500000000, by decide, by decide, by decide⟩
    let f : Flight := { aircraftId := "UAL12", cid := "321", aclDisplay := true, pendingRemoval := some mark }
    let s : Store := .ofFlights [f]
    let g : Flight := { aircraftId := "UAL12", cid := "321", aclDisplay := true, pendingRemoval := some late }
    let c : Config := { (default : Config) with removalTimeoutSecs := 0 }
    DistinctIds s.flights ∧ early ≤ late ∧ (message early).CleansUp ∧ (message late).CleansUp ∧
      ((message late).response s).intents = [] ∧
      ((message early).response (step s (message late))).intents = [.delete "UAL12" .acl] ∧
      leap ≤ late ∧ g.isExpired (c.context leap) = true := by
  intro message mark early late leap f s g c
  have hdistinct : DistinctIds s.flights := by decide
  have hclean : ∀ now, (message now).CleansUp := fun now => cleansUp_of_text rfl
  have hstays : step s (message late) = s := step_of_cleansUp hdistinct (hclean late)
  refine ⟨hdistinct, by decide, hclean early, hclean late, ?_, ?_, by decide, by decide +kernel⟩
  · exact (intents_of_cleansUp (hclean late) s).trans rfl
  · have hexpired : f.isExpired (message early).context = true := by decide +kernel
    have hfilter : s.flights.filter (·.isExpired (message early).context) = [f] := by
      simp [s, Store.ofFlights, hexpired]
    rw [hstays, intents_of_cleansUp (hclean early), hfilter]
    rfl

end Message
end Clearance
