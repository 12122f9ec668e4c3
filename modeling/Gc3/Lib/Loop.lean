import Mathlib.Data.Nat.Notation

/-!
# Loops that end when their body says so

`while True` with `break` and `continue`, over a body that may raise: one pass either
goes on from a new state or leaves with a result. `run` gives the loop a budget of
passes and reports a loop that outlives it, so that nothing is proved of a loop by its
failing to end: the spent budget (`Stop.outOfFuel`) is an outcome of its own, told apart
from an exception the body raised.

`Returns` is the loop without the budget, and what is proved of a program is said of it
or of a budget that is known to do. The two are joined by `Returns.run_eq`: a loop that
returns at all returns the same on every budget on which it ends (`run_mono`,
`Returns.unique`). `Returns.done` and `Returns.next` follow one pass, which makes
`Returns` the thing to do an induction over what the body reads. `run_total` is the rule
for total correctness — an invariant, and a measure every pass lowers, give a result on
every budget above the measure, and neither an exception nor a spent budget.
-/

namespace Loop

variable {ε σ α : Type*}

/-- Why a loop gives no result: a pass raised, or the budget was spent. -/
inductive Stop (ε : Type*)
  | raised (err : ε)
  | outOfFuel
  deriving DecidableEq, Repr

/-- At most `fuel` passes, from `s`. A pass goes on with `inl` and leaves with `inr`. -/
def run (step : σ → Except ε (σ ⊕ α)) : ℕ → σ → Except (Stop ε) α
  | 0, _ => .error .outOfFuel
  | fuel + 1, s =>
    match step s with
    | .error err => .error (.raised err)
    | .ok (.inr a) => .ok a
    | .ok (.inl t) => run step fuel t

/-- The loop ends, and with `a`. -/
def Returns (step : σ → Except ε (σ ⊕ α)) (s : σ) (a : α) : Prop := ∃ fuel, run step fuel s = .ok a

variable {step : σ → Except ε (σ ⊕ α)} {s t : σ} {a b : α}

/-- A pass that leaves. -/
theorem run_done (h : step s = .ok (.inr a)) (fuel : ℕ) : run step (fuel + 1) s = .ok a := by
  rw [run, h]

/-- A pass that goes on, and costs one of the budget. -/
theorem run_next (h : step s = .ok (.inl t)) (fuel : ℕ) :
    run step (fuel + 1) s = run step fuel t := by
  rw [run, h]

/-- A loop whose first pass leaves returns. -/
theorem Returns.done (h : step s = .ok (.inr a)) : Returns step s a := ⟨1, run_done h 0⟩

/-- A loop whose first pass goes on returns what the rest of it returns. -/
theorem Returns.next (h : step s = .ok (.inl t)) (ht : Returns step t a) : Returns step s a := by
  obtain ⟨fuel, hfuel⟩ := ht
  exact ⟨fuel + 1, (run_next h fuel).trans hfuel⟩

/-- A result does not depend on how much more was budgeted. -/
theorem run_mono {fuel fuel' : ℕ} (hle : fuel ≤ fuel') (h : run step fuel s = .ok a) :
    run step fuel' s = .ok a := by
  induction fuel generalizing s fuel' with
  | zero => contradiction
  | succ fuel ih =>
    obtain ⟨fuel', rfl⟩ : ∃ n, fuel' = n + 1 := ⟨fuel' - 1, by omega⟩
    cases hs : step s with
    | error err =>
      rw [run, hs] at h
      contradiction
    | ok r =>
      cases r with
      | inr c =>
        rw [run_done hs] at h ⊢
        exact h
      | inl t =>
        rw [run_next hs] at h ⊢
        exact ih (by omega) h

/-- A loop has one result. -/
theorem Returns.unique (ha : Returns step s a) (hb : Returns step s b) : a = b := by
  obtain ⟨n, hn⟩ := ha
  obtain ⟨m, hm⟩ := hb
  have h1 := run_mono (Nat.le_max_left n m) hn
  have h2 := run_mono (Nat.le_max_right n m) hm
  exact Except.ok.inj (h1.symm.trans h2)

/-- **Total correctness**: while `I` holds a pass raises nothing, and either lowers
the measure and keeps `I` or leaves with a result that meets `Q`. -/
theorem run_total {I : σ → Prop} {Q : α → Prop} {μ : σ → ℕ}
    (hstep : ∀ s, I s → (∃ t, step s = .ok (.inl t) ∧ I t ∧ μ t < μ s) ∨
      ∃ a, step s = .ok (.inr a) ∧ Q a)
    {fuel : ℕ} (h0 : I s) (hfuel : μ s < fuel) : ∃ a, run step fuel s = .ok a ∧ Q a := by
  induction fuel generalizing s with
  | zero => omega
  | succ fuel ih =>
    rcases hstep s h0 with ⟨t, ht, hI, hμ⟩ | ⟨a, ha, hQ⟩
    · rw [run_next ht]
      exact ih hI (by omega)
    · exact ⟨a, run_done ha fuel, hQ⟩

/-- Within a budget that suffices, the result is the loop's. -/
theorem Returns.run_eq {fuel : ℕ} (h : Returns step s a) (hfuel : ∃ b, run step fuel s = .ok b) :
    run step fuel s = .ok a := by
  obtain ⟨b, hb⟩ := hfuel
  rw [hb, Returns.unique ⟨fuel, hb⟩ h]

end Loop
