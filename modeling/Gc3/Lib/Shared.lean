import Gc3.Lib.Runs
import Mathlib.Logic.Function.Basic

/-!
# Machines over one store

Several machines, each with a state of its own, take turns over one store they all
write. Each has a *view* of the store: the part of it that is about this machine.

A machine does not notice the others under two conditions. Its steps write without
reading: what becomes of its own state does not depend on the store (`Blind`), so that
nothing another machine has left there finds its way in. And its writes are its own
(`OwnEdit`): they act on its view as on that of any other store with the same view, and
the views of the others they leave alone.

`run_shared` says what follows: after any schedule of steps of all the machines, the
state and the view of each are what they would be had its own steps (`stepsOf`) been
taken alone, even over another store that began with the same view. The induction is on
the schedule, for all stores at once. A step of the machine's own is taken on both
sides, and its edit keeps the views equal; a step of another changes one side only, and
there nothing that this machine sees. An invariant on the machines' own states may be
assumed of each step, as long as each step keeps it.
-/

namespace Shared

variable {κ τ ι S : Type*} {W : Type*}

/-- An edit acts on the view of `k` and leaves the views of the others alone. -/
structure OwnEdit (view : κ → S → W) (k : κ) (f : S → S) : Prop where
  own : ∀ s s', view k s = view k s' → view k (f s) = view k (f s')
  other : ∀ j, j ≠ k → ∀ s, view j (f s) = view j s

/-- Whatever the store, the step goes to the same state, by one edit that is `k`'s own. -/
def Blind (view : κ → S → W) (k : κ) (step : τ × S → ι → τ × S) (I : τ → Prop) : Prop :=
  ∀ t i, I t → ∃ t' f, I t' ∧ OwnEdit view k f ∧ ∀ s, step (t, s) i = (t', f s)

variable [DecidableEq κ]

/-- One machine takes a step. -/
def sharedStep (step : κ → τ × S → ι → τ × S) (x : (κ → τ) × S) (ki : κ × ι) : (κ → τ) × S :=
  let r := step ki.1 (x.1 ki.1, x.2) ki.2
  (Function.update x.1 ki.1 r.1, r.2)

/-- The steps of one machine. -/
def stepsOf (k : κ) (is : List (κ × ι)) : List ι :=
  is.filterMap fun ki => if ki.1 = k then some ki.2 else none

/-- **Machines over one store do not notice each other**, as long as they write blindly
and write what is their own. -/
theorem run_shared {view : κ → S → W} {step : κ → τ × S → ι → τ × S} {I : κ → τ → Prop}
    (hblind : ∀ k, Blind view k (step k) (I k)) {t : κ → τ} (hI : ∀ k, I k (t k)) {s s' : S}
    {k : κ} (hview : view k s = view k s') (is : List (κ × ι)) :
    (Runs.run (sharedStep step) (t, s) is).1 k =
        (Runs.run (step k) (t k, s') (stepsOf k is)).1 ∧
      view k (Runs.run (sharedStep step) (t, s) is).2 =
        view k (Runs.run (step k) (t k, s') (stepsOf k is)).2 := by
  induction is generalizing t s s' with
  | nil => exact ⟨rfl, hview⟩
  | cons ji is ih =>
    obtain ⟨j, i⟩ := ji
    obtain ⟨t', f, ht', hf, hstep⟩ := hblind j (t j) i (hI j)
    have hshared : sharedStep step (t, s) (j, i) = (Function.update t j t', f s) := by
      unfold sharedStep
      dsimp only
      rw [hstep]
    have hI' : ∀ k, I k (Function.update t j t' k) := by
      intro k
      by_cases hkj : k = j
      · subst hkj
        rw [Function.update_self]
        exact ht'
      · rw [Function.update_of_ne hkj]
        exact hI k
    rw [Runs.run_cons, hshared]
    by_cases hjk : j = k
    · -- its own step, taken over either store
      subst hjk
      have hown : stepsOf j ((j, i) :: is) = i :: stepsOf j is :=
        List.filterMap_cons_some (if_pos rfl)
      rw [hown, Runs.run_cons, hstep]
      have hrest := ih hI' (hf.own s s' hview)
      rw [Function.update_self] at hrest
      exact hrest
    · -- somebody else's, which it does not see
      have hskip : stepsOf k ((j, i) :: is) = stepsOf k is :=
        List.filterMap_cons_none (if_neg hjk)
      rw [hskip]
      have hrest := ih hI' ((hf.other k (fun h => hjk h.symm) s).trans hview)
      rw [Function.update_of_ne (fun h => hjk h.symm)] at hrest
      exact hrest

end Shared
