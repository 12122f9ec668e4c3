import Mathlib.Data.List.Infix

/-!
# Runs of a step function

A machine is a step function `σ → ι → σ`; a run feeds it a list of inputs.
Four rules cover the developments built on it:

* `run_history` — a relation between the *history* of inputs and the state
  reached, kept by every step, holds after every run. Invariants are the case
  in which the history is ignored (`run_invariant`).
* `along_iff_of_step` — an exact condition on the steps of a run. When every
  step meets its goal exactly if it meets its guard, and guarded steps keep the
  invariant that makes this so, a run meets every goal exactly if it meets
  every guard.
* `run_iff_along` — the same for a property that no step restores: a run ends
  with it exactly if it meets every guard.
* `exec` — the same for a *partial* step function, where an input may be
  refused; an interleaving is a list of inputs none of which is refused.
-/

namespace Runs

variable {σ ι : Type*}

/-- The state reached from `s` on the inputs `is`. -/
def run (step : σ → ι → σ) (s : σ) (is : List ι) : σ := is.foldl step s

/-- A run of no inputs. -/
@[simp] theorem run_nil (step : σ → ι → σ) (s : σ) : run step s [] = s := rfl

/-- A run from its first input. -/
@[simp] theorem run_cons (step : σ → ι → σ) (s : σ) (i : ι) (is : List ι) :
    run step s (i :: is) = run step (step s i) is := rfl

/-- One run after another. -/
theorem run_append (step : σ → ι → σ) (s : σ) (is js : List ι) :
    run step s (is ++ js) = run step (run step s is) js := List.foldl_append

/-- A run to its last input, where an induction along the run takes its step. -/
@[simp] theorem run_concat (step : σ → ι → σ) (s : σ) (is : List ι) (i : ι) :
    run step s (is ++ [i]) = step (run step s is) i := by
  rw [run_append]
  rfl

/-- **History rule**: a relation between inputs and state that every step keeps
holds after every run. -/
theorem run_history {step : σ → ι → σ} {s : σ} {R : List ι → σ → Prop} (h0 : R [] s)
    (hstep : ∀ is t i, R is t → R (is ++ [i]) (step t i)) (is : List ι) :
    R is (run step s is) := by
  induction is using List.reverseRecOn with
  | nil => exact h0
  | append_singleton is i ih =>
    rw [run_concat]
    exact hstep is _ i ih

/-- Invariant rule: the history rule with the history ignored. -/
theorem run_invariant {step : σ → ι → σ} {s : σ} {I : σ → Prop} (h0 : I s)
    (hstep : ∀ t i, I t → I (step t i)) (is : List ι) : I (run step s is) :=
  run_history (R := fun _ t => I t) h0 (fun _ t i => hstep t i) is

/-- Two machines in step: a map of states that commutes with one step commutes
with every run. -/
theorem run_simulation {τ κ : Type*} {step : σ → ι → σ} {step' : τ → κ → τ} (f : σ → τ)
    (g : ι → κ) (h : ∀ s i, f (step s i) = step' (f s) (g i)) (s : σ) (is : List ι) :
    f (run step s is) = run step' (f s) (is.map g) := by
  induction is generalizing s with
  | nil => rfl
  | cons i is ih =>
    rw [run_cons, List.map_cons, run_cons, ih, h]

/-- **Two-run rule**: related inputs, fed to two machines in related states, leave
them in related states. -/
theorem run_related {τ κ : Type*} {step : σ → ι → σ} {step' : τ → κ → τ} {R : σ → τ → Prop}
    {E : ι → κ → Prop} (hstep : ∀ s t i j, R s t → E i j → R (step s i) (step' t j))
    {s : σ} {t : τ} (h0 : R s t) {is : List ι} {js : List κ} (h : List.Forall₂ E is js) :
    R (run step s is) (run step' t js) := by
  induction h generalizing s t with
  | nil => exact h0
  | cons hij _ ih => exact ih (hstep s t _ _ h0 hij)

/-- What a run puts out: `out` of every step's state and input. -/
def outputs {ο : Type*} (step : σ → ι → σ) (out : σ → ι → ο) : σ → List ι → List ο
  | _, [] => []
  | s, i :: is => out s i :: outputs step out (step s i) is

/-- One output for each input. -/
theorem length_outputs {ο : Type*} (step : σ → ι → σ) (out : σ → ι → ο) (s : σ) (is : List ι) :
    (outputs step out s is).length = is.length := by
  induction is generalizing s with
  | nil => rfl
  | cons i is ih => exact congrArg (· + 1) (ih (step s i))

/-- One input more puts out one thing more. -/
theorem outputs_concat {ο : Type*} (step : σ → ι → σ) (out : σ → ι → ο) (s : σ) (is : List ι)
    (i : ι) :
    outputs step out s (is ++ [i]) = outputs step out s is ++ [out (run step s is) i] := by
  induction is generalizing s with
  | nil => rfl
  | cons j is ih =>
    rw [List.cons_append, outputs, ih]
    rfl

/-! ## Conditions met along a run -/

/-- `P` holds of every step the run takes: of the state before it and its input. -/
def Along (step : σ → ι → σ) (P : σ → ι → Prop) : σ → List ι → Prop
  | _, [] => True
  | s, i :: is => P s i ∧ Along step P (step s i) is

/-- `Along` spelled out over the prefixes of the run. -/
theorem along_iff {step : σ → ι → σ} {P : σ → ι → Prop} {s : σ} {is : List ι} :
    Along step P s is ↔ ∀ pre i, pre ++ [i] <+: is → P (run step s pre) i := by
  induction is generalizing s with
  | nil =>
    refine ⟨fun _ pre i h => ?_, fun _ => trivial⟩
    exact absurd (List.prefix_nil.mp h) (by simp)
  | cons j is ih =>
    constructor
    · rintro ⟨hj, hrest⟩ pre i h
      cases pre with
      | nil =>
        obtain ⟨rfl, -⟩ := List.cons_prefix_cons.mp h
        exact hj
      | cons k pre =>
        obtain ⟨rfl, hpre⟩ := List.cons_prefix_cons.mp h
        exact ih.mp hrest pre i hpre
    · intro h
      refine ⟨h [] j (by simp), ih.mpr fun pre i hpre => ?_⟩
      exact h (j :: pre) i (List.cons_prefix_cons.mpr ⟨rfl, hpre⟩)

/-- **Guarded runs**: if, wherever `I` holds, a step that meets its guard `G` meets
its goal `Q` and keeps `I`, then a run that meets every guard meets every goal. -/
theorem along_of_step {step : σ → ι → σ} {I : σ → Prop} {Q G : σ → ι → Prop}
    (hstep : ∀ s i, I s → G s i → Q s i ∧ I (step s i)) {s : σ} (h0 : I s) {is : List ι}
    (h : Along step G s is) : Along step Q s is := by
  induction is generalizing s with
  | nil => trivial
  | cons i is ih =>
    obtain ⟨hguard, hrest⟩ := h
    obtain ⟨hgoal, hI⟩ := hstep s i h0 hguard
    exact ⟨hgoal, ih hI hrest⟩

/-- **Exact-condition rule**: if, wherever `I` holds, a step meets its goal `Q`
exactly when it meets its guard `G`, and guarded steps keep `I`, then a run meets
every goal exactly when it meets every guard. -/
theorem along_iff_of_step {step : σ → ι → σ} {I : σ → Prop} {Q G : σ → ι → Prop}
    (hiff : ∀ s i, I s → (Q s i ↔ G s i)) (hkeep : ∀ s i, I s → G s i → I (step s i))
    {s : σ} (h0 : I s) (is : List ι) : Along step Q s is ↔ Along step G s is := by
  refine ⟨along_of_step (fun t i hI hgoal => ?_) h0, along_of_step (fun t i hI hguard => ?_) h0⟩
  · have hguard := (hiff t i hI).mp hgoal
    exact ⟨hguard, hkeep t i hI hguard⟩
  · exact ⟨(hiff t i hI).mpr hguard, hkeep t i hI hguard⟩

/-- **Rule for what is lost for good**: if a step keeps `K` exactly when it meets its
guard, and nothing brings `K` back, then a run ends with `K` exactly when it meets
every guard. -/
theorem run_iff_along {step : σ → ι → σ} {I K : σ → Prop} {G : σ → ι → Prop}
    (hI : ∀ s i, I s → I (step s i)) (hiff : ∀ s i, I s → K s → (K (step s i) ↔ G s i))
    (hlost : ∀ s i, I s → ¬ K s → ¬ K (step s i)) {s : σ} (h0 : I s) (hK : K s) (is : List ι) :
    K (run step s is) ↔ Along step G s is := by
  have hgone : ∀ (is : List ι) (t : σ), I t → ¬ K t → ¬ K (run step t is) := by
    intro is
    induction is with
    | nil => exact fun t _ hKt => hKt
    | cons i is ih => exact fun t hIt hKt => ih (step t i) (hI t i hIt) (hlost t i hIt hKt)
  induction is generalizing s with
  | nil => exact iff_of_true hK trivial
  | cons i is ih =>
    by_cases hnext : K (step s i)
    · have hguard := (hiff s i h0 hK).mp hnext
      exact (ih (hI s i h0) hnext).trans (and_iff_right hguard).symm
    · refine iff_of_false (hgone is (step s i) (hI s i h0) hnext) fun h => hnext ?_
      exact (hiff s i h0 hK).mpr h.1

/-! ## Partial machines -/

/-- The run of a partial machine: `none` as soon as an input is refused. -/
def exec (step : σ → ι → Option σ) : σ → List ι → Option σ
  | s, [] => some s
  | s, i :: is => (step s i).bind fun t => exec step t is

/-- No input is refused where there is none. -/
@[simp] theorem exec_nil (step : σ → ι → Option σ) (s : σ) : exec step s [] = some s := rfl

/-- An accepted run from its first input. -/
theorem exec_cons_eq_some {step : σ → ι → Option σ} {s u : σ} {i : ι} {is : List ι} :
    exec step s (i :: is) = some u ↔ ∃ t, step s i = some t ∧ exec step t is = some u :=
  Option.bind_eq_some_iff

/-- One accepted run after another. -/
theorem exec_append_eq_some {step : σ → ι → Option σ} {s u : σ} {is js : List ι} :
    exec step s (is ++ js) = some u ↔
      ∃ t, exec step s is = some t ∧ exec step t js = some u := by
  induction is generalizing s with
  | nil => simp
  | cons i is ih =>
    rw [List.cons_append, exec_cons_eq_some]
    constructor
    · rintro ⟨t, ht, h⟩
      obtain ⟨v, hv, hu⟩ := ih.mp h
      exact ⟨v, exec_cons_eq_some.mpr ⟨t, ht, hv⟩, hu⟩
    · rintro ⟨v, hv, hu⟩
      obtain ⟨t, ht, hv'⟩ := exec_cons_eq_some.mp hv
      exact ⟨t, ht, ih.mpr ⟨v, hv', hu⟩⟩

/-- An invariant kept by every accepted input of a class holds after every
accepted run of inputs of that class. -/
theorem exec_invariant {step : σ → ι → Option σ} {I : σ → Prop} {C : ι → Prop}
    (hstep : ∀ s i t, C i → I s → step s i = some t → I t) {s u : σ} {is : List ι}
    (hC : ∀ i ∈ is, C i) (h0 : I s) (hu : exec step s is = some u) : I u := by
  induction is generalizing s with
  | nil =>
    obtain rfl := Option.some.inj hu
    exact h0
  | cons i is ih =>
    obtain ⟨t, ht, hrest⟩ := exec_cons_eq_some.mp hu
    have hI := hstep s i t (hC i (List.mem_cons_self ..)) h0 ht
    exact ih (fun j hj => hC j (List.mem_cons_of_mem _ hj)) hI hrest

/-- An accepted run to its last input. -/
theorem exec_concat_eq_some {step : σ → ι → Option σ} {s u : σ} {is : List ι} {i : ι} :
    exec step s (is ++ [i]) = some u ↔ ∃ t, exec step s is = some t ∧ step t i = some u := by
  rw [exec_append_eq_some]
  simp [exec_cons_eq_some]

/-- **History rule** for accepted runs. -/
theorem exec_history {step : σ → ι → Option σ} {s : σ} {R : List ι → σ → Prop} (h0 : R [] s)
    (hstep : ∀ is t i u, exec step s is = some t → R is t → step t i = some u → R (is ++ [i]) u)
    {is : List ι} {u : σ} (hu : exec step s is = some u) : R is u := by
  induction is using List.reverseRecOn generalizing u with
  | nil =>
    obtain rfl := Option.some.inj hu
    exact h0
  | append_singleton is i ih =>
    obtain ⟨t, ht, hi⟩ := exec_concat_eq_some.mp hu
    exact hstep is t i u ht (ih ht) hi

/-- What an accepted run puts out: `out` of every step's state and input. -/
def execOutputs {ο : Type*} (step : σ → ι → Option σ) (out : σ → ι → ο) : σ → List ι → List ο
  | _, [] => []
  | s, i :: is => out s i :: ((step s i).map fun t => execOutputs step out t is).getD []

/-- One accepted input more puts out one thing more. -/
theorem execOutputs_concat {ο : Type*} {step : σ → ι → Option σ} {out : σ → ι → ο} {s t : σ}
    {is : List ι} (h : exec step s is = some t) (i : ι) :
    execOutputs step out s (is ++ [i]) = execOutputs step out s is ++ [out t i] := by
  induction is generalizing s with
  | nil =>
    obtain rfl := Option.some.inj h
    cases hi : step s i <;> simp [execOutputs, hi]
  | cons j is ih =>
    obtain ⟨v, hv, hrest⟩ := exec_cons_eq_some.mp h
    rw [List.cons_append, execOutputs, execOutputs, hv]
    exact congrArg (out s j :: ·) (ih hrest)

end Runs
