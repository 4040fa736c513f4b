import Mathlib.Data.Option.Basic
import Mathlib.Logic.Nontrivial.Basic
import Clearance.Flight.Patch
/-!
# Merge — patches that are applied one after the other

A patch gives new values to some of nine fields.  `Key` names the nine, so that there is one law for all of them: after a
patch a field has the value that the patch gives to it, if it gives one (`field_apply`).  A flight is determined by its
fields under the keys and by the rest, which no patch changes (`Flight.eq_of_field`, `lasting_apply`).  All else follows:
patches applied one after the other are one patch, in which what is written later wins (`apply_apply`, `field_applyAll`).
-/
namespace Clearance

/-- The fields that a patch can name. -/
inductive Patch.Key where
  | amendedRoute | amendedFixes | previousRoute | previousFixes
  | vci | aclDisplay | depDisplay | aclHighlighted | depHighlighted
  deriving DecidableEq, Repr

/-- What a flight holds in a field. -/
@[reducible] def Patch.Key.Value : Key → Type
  | amendedRoute | previousRoute => Option String
  | amendedFixes | previousFixes => Option (List Fix)
  | vci | aclDisplay | depDisplay | aclHighlighted | depHighlighted => Bool

instance (k : Patch.Key) : Nontrivial k.Value := by
  cases k <;> infer_instance

open Patch (Key)

/-! ## Flights by their fields -/

namespace Flight

def field (f : Flight) : (k : Key) → k.Value
  | .amendedRoute => f.amendedRoute
  | .amendedFixes => f.amendedFixes
  | .previousRoute => f.previousRoute
  | .previousFixes => f.previousFixes
  | .vci => f.vci
  | .aclDisplay => f.aclDisplay
  | .depDisplay => f.depDisplay
  | .aclHighlighted => f.aclHighlighted
  | .depHighlighted => f.depHighlighted

/-- The flight with other values in the fields that a patch can name. -/
def withFields (f : Flight) (value : (k : Key) → k.Value) : Flight :=
  { f with
    amendedRoute := value .amendedRoute
    amendedFixes := value .amendedFixes
    previousRoute := value .previousRoute
    previousFixes := value .previousFixes
    vci := value .vci
    aclDisplay := value .aclDisplay
    depDisplay := value .depDisplay
    aclHighlighted := value .aclHighlighted
    depHighlighted := value .depHighlighted }

/-- A flight without the fields that a patch can name. -/
def lasting (f : Flight) : Flight := f.withFields ({} : Flight).field

variable {f g : Flight}

@[simp] theorem field_withFields (f : Flight) (value : (k : Key) → k.Value) (k : Key) :
    (f.withFields value).field k = value k := by
  cases k <;> rfl

theorem lasting_withFields_field (f : Flight) : f.lasting.withFields f.field = f := rfl

theorem eq_of_field (hlasting : f.lasting = g.lasting) (hfield : ∀ k, f.field k = g.field k) : f = g := by
  rw [← lasting_withFields_field f, hlasting, funext hfield, lasting_withFields_field]

end Flight

/-! ## Patches by what they give -/

namespace Patch

variable {p q : Patch}

/-- The value that a patch gives to a field, if it names it.  What a flight may lack can be filled in, but not taken
away. -/
def new? (p : Patch) : (k : Key) → Option k.Value
  | .amendedRoute => p.amendedRoute.map some
  | .amendedFixes => p.amendedFixes.map some
  | .previousRoute => p.previousRoute.map some
  | .previousFixes => p.previousFixes.map some
  | .vci => p.vci
  | .aclDisplay => p.aclDisplay
  | .depDisplay => p.depDisplay
  | .aclHighlighted => p.aclHighlighted
  | .depHighlighted => p.depHighlighted

theorem eq_of_new? (h : ∀ k, p.new? k = q.new? k) : p = q := by
  have hopen {α : Type} : Function.Injective (Option.map (some : α → Option α)) :=
    Option.map_injective (Option.some_injective α)
  exact (Patch.mk.injEq ..).mpr ⟨hopen (h .amendedRoute), hopen (h .amendedFixes), hopen (h .previousRoute),
    hopen (h .previousFixes), h .vci, h .aclDisplay, h .depDisplay, h .aclHighlighted, h .depHighlighted⟩

@[simp] theorem new?_blank (k : Key) : ({} : Patch).new? k = none := by
  cases k <;> rfl

theorem isEmpty_iff : p.isEmpty = true ↔ p = {} := by
  constructor
  · intro h
    simp only [isEmpty, Bool.and_eq_true, Option.isNone_iff_eq_none] at h
    obtain ⟨⟨⟨⟨⟨⟨⟨⟨h1, h2⟩, h3⟩, h4⟩, h5⟩, h6⟩, h7⟩, h8⟩, h9⟩ := h
    exact (Patch.mk.injEq ..).mpr ⟨h1, h2, h3, h4, h5, h6, h7, h8, h9⟩
  · rintro rfl
    rfl

/-! ## Applying -/

@[simp] theorem lasting_apply (p : Patch) (f : Flight) : (p.apply f).lasting = f.lasting := rfl

/-- **After a patch a field has the value that the patch gives to it**, and otherwise the one that it had. -/
@[simp] theorem field_apply (p : Patch) (f : Flight) (k : Key) :
    (p.apply f).field k = (p.new? k).getD (f.field k) := by
  have hopen {α : Type} (a b : Option α) : (a <|> b) = (a.map some).getD b := by cases a <;> rfl
  cases k with
  | amendedRoute | amendedFixes | previousRoute | previousFixes => exact hopen _ _
  | vci | aclDisplay | depDisplay | aclHighlighted | depHighlighted => rfl

theorem apply_of_isEmpty (h : p.isEmpty = true) (f : Flight) : p.apply f = f := by
  rw [isEmpty_iff.1 h]
  rfl

/-- **A patch that names a field changes some flight**, one that has another value there. -/
theorem isEmpty_iff_apply : p.isEmpty = true ↔ ∀ f, p.apply f = f := by
  refine ⟨apply_of_isEmpty, fun h => isEmpty_iff.2 (eq_of_new? fun k => ?_)⟩
  rw [new?_blank]
  by_contra hne
  obtain ⟨v, hv⟩ := Option.ne_none_iff_exists'.1 hne
  obtain ⟨w, hw⟩ := exists_ne v
  have hkept := congrArg (·.field k) (h (Flight.withFields {} (Function.update ({} : Flight).field k w)))
  simp only [field_apply, hv, Option.getD_some, Flight.field_withFields, Function.update_self] at hkept
  exact hw hkept.symm

/-! ## Merging -/

/-- The values of two patches.  Where both name a field, that of the second one counts. -/
def merge (p q : Patch) : Patch where
  amendedRoute := q.amendedRoute <|> p.amendedRoute
  amendedFixes := q.amendedFixes <|> p.amendedFixes
  previousRoute := q.previousRoute <|> p.previousRoute
  previousFixes := q.previousFixes <|> p.previousFixes
  vci := q.vci <|> p.vci
  aclDisplay := q.aclDisplay <|> p.aclDisplay
  depDisplay := q.depDisplay <|> p.depDisplay
  aclHighlighted := q.aclHighlighted <|> p.aclHighlighted
  depHighlighted := q.depHighlighted <|> p.depHighlighted

/-- The patches name no field both. -/
def Apart (p q : Patch) : Prop := ∀ k, p.new? k = none ∨ q.new? k = none

@[simp] theorem new?_merge (p q : Patch) (k : Key) : (p.merge q).new? k = (q.new? k).or (p.new? k) := by
  unfold merge
  cases k with
  | amendedRoute | amendedFixes | previousRoute | previousFixes => simp [new?, Option.map_or]
  | vci | aclDisplay | depDisplay | aclHighlighted | depHighlighted => simp [new?]

theorem merge_assoc (p q r : Patch) : (p.merge q).merge r = p.merge (q.merge r) :=
  eq_of_new? fun k => by simp [Option.or_assoc]

theorem blank_merge (p : Patch) : ({} : Patch).merge p = p := eq_of_new? fun k => by simp

theorem merge_blank (p : Patch) : p.merge {} = p := eq_of_new? fun k => by simp

theorem merge_self (p : Patch) : p.merge p = p := eq_of_new? fun k => by simp

theorem Apart.merge_comm (h : p.Apart q) : p.merge q = q.merge p :=
  eq_of_new? fun k => by
    rcases h k with hp | hq
    · simp [hp]
    · simp [hq]

/-- **Two patches, one after the other, are their merged patch.** -/
theorem apply_apply (p q : Patch) (f : Flight) : q.apply (p.apply f) = (p.merge q).apply f :=
  Flight.eq_of_field rfl fun k => by simp

/-! ## Patches one after the other -/

def applyAll (ps : List Patch) (f : Flight) : Flight := ps.foldl (fun g p => p.apply g) f

theorem applyAll_cons (p : Patch) (ps : List Patch) (f : Flight) : applyAll (p :: ps) f = applyAll ps (p.apply f) := rfl

theorem lasting_applyAll : ∀ (ps : List Patch) (f : Flight), (applyAll ps f).lasting = f.lasting
  | [], _ => rfl
  | p :: ps, f => by rw [applyAll_cons, lasting_applyAll ps, lasting_apply]

/-- **Each field has the last value that was given to it**, and its own if none was. -/
theorem field_applyAll (k : Key) : ∀ (ps : List Patch) (f : Flight),
    (applyAll ps f).field k = (ps.filterMap (·.new? k)).getLastD (f.field k)
  | [], _ => rfl
  | p :: ps, f => by
    rw [applyAll_cons, field_applyAll k ps, field_apply, List.filterMap_cons]
    cases p.new? k with
    | none => rfl
    | some v => rw [Option.getD_some, List.getLastD_cons]

/-- **Many patches are one patch.** -/
theorem applyAll_eq_apply : ∀ (ps : List Patch) (p : Patch) (f : Flight),
    applyAll ps (p.apply f) = (ps.foldl merge p).apply f
  | [], _, _ => rfl
  | q :: ps, p, f => by rw [applyAll_cons, apply_apply, applyAll_eq_apply ps, List.foldl_cons]

/-- **Patches act on flights, and what is written later wins.**  Two patches one after the other are one patch, which
takes each field from the second one where that names it and from the first one otherwise; so a patch that comes twice
counts once, and the order of two patches without a common field does not count.  However many patches there are, each of
the nine fields ends with the last value that was given to it, or with its own, and nothing else of the flight changes.
Only the patch that names no field leaves every flight as it is. -/
theorem last_value_wins (p q : Patch) (f : Flight) :
    (q.apply (p.apply f) = (p.merge q).apply f ∧ ∀ k, (p.merge q).new? k = (q.new? k).or (p.new? k)) ∧
    (({} : Patch).merge p = p ∧ p.merge {} = p ∧ ∀ r, (p.merge q).merge r = p.merge (q.merge r)) ∧
    p.apply (p.apply f) = p.apply f ∧
    (p.Apart q → q.apply (p.apply f) = p.apply (q.apply f)) ∧
    (∀ ps : List Patch, (applyAll ps f).lasting = f.lasting ∧
      (∀ k, (applyAll ps f).field k = (ps.filterMap (·.new? k)).getLastD (f.field k)) ∧
      applyAll ps f = (ps.foldl merge {}).apply f) ∧
    (p.isEmpty = true ↔ ∀ g, p.apply g = g) := by
  refine ⟨⟨apply_apply p q f, new?_merge p q⟩, ⟨blank_merge p, merge_blank p, merge_assoc p q⟩, ?_, fun h => ?_,
    fun ps => ⟨lasting_applyAll ps f, fun k => field_applyAll k ps f, applyAll_eq_apply ps {} f⟩, isEmpty_iff_apply⟩
  · rw [apply_apply, merge_self]
  · rw [apply_apply, apply_apply, h.merge_comm]

/-- A flight is rerouted and marked; a patch without a common field may come before or after that. -/
theorem last_value_wins_of_route_and_mark :
    let p : Patch := { amendedRoute := some "..SAC", vci := some true }
    let q : Patch := { previousRoute := some "OAK.SAC", aclDisplay := some false }
    let f : Flight := { aircraftId := "UAL12", filedRoute := "OAK.SAC", aclDisplay := true }
    p.Apart q ∧ q.apply (p.apply f) = p.apply (q.apply f) ∧
      q.apply (p.apply f) =
        { aircraftId := "UAL12", filedRoute := "OAK.SAC", amendedRoute := some "..SAC", previousRoute := some "OAK.SAC",
          vci := true } := by
  intro p q f
  have h : p.Apart q := fun k => by
    cases k with
    | amendedRoute | vci => exact .inr rfl
    | _ => exact .inl rfl
  exact ⟨h, (last_value_wins p q f).2.2.2.1 h, rfl⟩

end Patch
end Clearance
