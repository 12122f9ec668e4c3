import Mathlib.Data.List.Forall2

/-!
# Computations that may raise

What it says of its steps that a fallible computation returned: the inversion
rules for `Except`, one for each way of putting steps together. A loop that
collects one result an element is `List.mapM`, which `mapM_eq_ok_iff` reads as a
pointwise relation.

The second part is about how such a computation ends when each of its steps has causes of
its own to fail, which do not depend on the steps before it. `ComesTo` says of a
computation that it fails with the first of its causes to apply (`FirstAmong`), and
returns something good if none does. The causes of two steps in a row are those of the
one and then those of the other (`ComesTo.bind`), so a long program comes to what the
list of all its causes says, exactly, and both directions of "it fails with this if and
only if" come out of one walk through its steps.
-/

namespace Fallible

universe u

variable {ε : Type*} {α β : Type u}

/-- Two steps returned: the first did, and the second with what the first returned. -/
theorem bind_eq_ok {x : Except ε α} {f : α → Except ε β} {b : β} :
    (x >>= f) = .ok b ↔ ∃ a, x = .ok a ∧ f a = .ok b := by
  cases x with
  | error err => simp [bind, Except.bind]
  | ok a => simp [bind, Except.bind]

/-- The image of what was returned. -/
theorem map_eq_ok {x : Except ε α} {f : α → β} {b : β} :
    f <$> x = .ok b ↔ ∃ a, x = .ok a ∧ f a = b := by
  cases x with
  | error err => simp [Functor.map, Except.map]
  | ok a => simp [Functor.map, Except.map]

/-- A step that cannot raise returned what it is. -/
theorem pure_eq_ok {a b : α} : (pure a : Except ε α) = .ok b ↔ a = b := by
  simp [pure, Except.pure]

/-- A loop that returned did so element by element. -/
theorem mapM_eq_ok_iff {f : α → Except ε β} {as : List α} {bs : List β} :
    as.mapM f = .ok bs ↔ List.Forall₂ (fun a b => f a = .ok b) as bs := by
  induction as generalizing bs with
  | nil =>
    rw [List.mapM_nil, pure_eq_ok, List.forall₂_nil_left_iff]
    exact eq_comm
  | cons a as ih =>
    rw [List.mapM_cons, List.forall₂_cons_left_iff]
    simp only [bind_eq_ok, pure_eq_ok, ih]
    constructor
    · intro ⟨b, hb, bs', hbs, hcons⟩
      exact ⟨b, bs', hb, hbs, hcons.symm⟩
    · intro ⟨b, bs', hb, hbs, hcons⟩
      exact ⟨b, hb, bs', hbs, hcons.symm⟩

/-! ## The first cause to apply -/

section

variable {δ : Type*}

/-- The first of these causes to apply at all applies in this way. -/
def FirstAmong : List (δ → Prop) → δ → Prop
  | [], _ => False
  | P :: Ps, e => P e ∨ (∀ e', ¬ P e') ∧ FirstAmong Ps e

/-- None of them applies. -/
def NoneOf (Ps : List (δ → Prop)) : Prop := ∀ P ∈ Ps, ∀ e, ¬ P e

/-- None of the causes applies: not the first, and none of the rest. -/
theorem noneOf_cons {P : δ → Prop} {Ps : List (δ → Prop)} :
    NoneOf (P :: Ps) ↔ (∀ e, ¬ P e) ∧ NoneOf Ps := List.forall_mem_cons

/-- None of either list applies. -/
theorem noneOf_append {Ps Qs : List (δ → Prop)} : NoneOf (Ps ++ Qs) ↔ NoneOf Ps ∧ NoneOf Qs :=
  List.forall_mem_append

/-- Where none applies there is no first to apply. -/
theorem not_firstAmong {Ps : List (δ → Prop)} (h : NoneOf Ps) (e : δ) : ¬ FirstAmong Ps e := by
  induction Ps with
  | nil => exact id
  | cons P Ps ih =>
    obtain ⟨hP, hPs⟩ := noneOf_cons.mp h
    rintro (happlies | ⟨-, hrest⟩)
    · exact hP e happlies
    · exact ih hPs hrest

/-- Behind causes none of which applies, the first is the first of the rest. -/
theorem firstAmong_append_of_noneOf {Ps : List (δ → Prop)} (h : NoneOf Ps) (Qs : List (δ → Prop))
    (e : δ) : FirstAmong (Ps ++ Qs) e ↔ FirstAmong Qs e := by
  induction Ps with
  | nil => rfl
  | cons P Ps ih =>
    obtain ⟨hP, hPs⟩ := noneOf_cons.mp h
    rw [List.cons_append, FirstAmong, ih hPs, or_iff_right (hP e), and_iff_right hP]

/-- And once one applies, the rest does not matter. -/
theorem firstAmong_append_of_some {Ps : List (δ → Prop)} {d : δ} (h : FirstAmong Ps d)
    (Qs : List (δ → Prop)) (e : δ) : FirstAmong (Ps ++ Qs) e ↔ FirstAmong Ps e := by
  induction Ps with
  | nil => exact absurd h id
  | cons P Ps ih =>
    rw [List.cons_append, FirstAmong, FirstAmong]
    rcases h with happlies | ⟨-, hrest⟩
    · exact or_congr_right ⟨fun hnone => absurd happlies (hnone.1 d),
        fun hnone => absurd happlies (hnone.1 d)⟩
    · rw [ih hrest]

/-- `x` fails with the first of its causes to apply, as `raise` has it, and returns
something good if there is none. -/
inductive ComesTo (raise : δ → ε) (Ps : List (δ → Prop)) (Good : α → Prop) : Except ε α → Prop
  | returned {a : α} (hnone : NoneOf Ps) (hgood : Good a) : ComesTo raise Ps Good (.ok a)
  | raised (d : δ) (hfirst : ∀ d', FirstAmong Ps d' ↔ d' = d) :
    ComesTo raise Ps Good (.error (raise d))

variable {raise : δ → ε} {Ps Qs : List (δ → Prop)} {Good : α → Prop} {Good' : β → Prop}

/-- **Sequencing rule**: the causes of the first step, and then those of the second. -/
theorem ComesTo.bind {x : Except ε α} {f : α → Except ε β} (hx : ComesTo raise Ps Good x)
    (hf : ∀ a, Good a → ComesTo raise Qs Good' (f a)) :
    ComesTo raise (Ps ++ Qs) Good' (x >>= f) := by
  cases hx with
  | raised d hfirst =>
    refine .raised d fun d' => ?_
    rw [firstAmong_append_of_some ((hfirst d).mpr rfl), hfirst]
  | @returned a hnone hgood =>
    have hrest := hf a hgood
    show ComesTo raise (Ps ++ Qs) Good' (f a)
    generalize f a = y at hrest ⊢
    cases hrest with
    | returned hnone' hgood' => exact .returned (noneOf_append.mpr ⟨hnone, hnone'⟩) hgood'
    | raised d hfirst =>
      refine .raised d fun d' => ?_
      rw [firstAmong_append_of_noneOf hnone, hfirst]

/-- A step without causes returns. -/
theorem ComesTo.pure {a : α} (h : Good a) : ComesTo raise [] Good (.ok a : Except ε α) :=
  .returned (by simp [NoneOf]) h

/-- It fails with `d` exactly when that is the first cause to apply. -/
theorem ComesTo.error_iff {x : Except ε α} (h : ComesTo raise Ps Good x)
    (hraise : Function.Injective raise) (d : δ) : x = .error (raise d) ↔ FirstAmong Ps d := by
  cases h with
  | returned hnone hgood => exact iff_of_false (by simp) (not_firstAmong hnone d)
  | raised d' hfirst => rw [hfirst, Except.error.injEq, hraise.eq_iff, eq_comm]

/-- And it returns exactly when none applies. -/
theorem ComesTo.ok_or_error {x : Except ε α} (h : ComesTo raise Ps Good x) :
    (NoneOf Ps ∧ ∃ a, x = .ok a ∧ Good a) ∨ ¬ NoneOf Ps ∧ ∃ d, x = .error (raise d) := by
  cases h with
  | returned hnone hgood => exact Or.inl ⟨hnone, _, rfl, hgood⟩
  | raised d hfirst =>
    exact Or.inr ⟨fun hnone => not_firstAmong hnone d ((hfirst d).mpr rfl), d, rfl⟩

end

end Fallible
