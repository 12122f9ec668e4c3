import Mathlib.Data.List.Basic

/-!
# "Since", over finite histories

`Since Q P h`: somewhere in the history `h` (oldest first) there is an entry that meets
`P`, and every entry after it meets `Q`. What a state remembers of its past is usually
of this form: the last write, with no write after it; a flag that was set, with nothing
since that resets it; the latest value of something that is not always there to be read.

Such a property is proved of a whole run by keeping it from one step to the next, and
`since_concat` is the rule for that. One more entry meets `P` itself, or it meets `Q`
and `P` was met before. With it a step lemma says what the step does to the state and
looks at the new entry alone; the entries before it stay behind the `Since` of the
shorter history, where the induction hypothesis speaks of them. That the rule is an
equivalence makes the state a full account of its past, and not only a consequence of
it: the flag is set if and only if it was set once and not reset since.
-/

namespace Past

variable {α : Type*}

/-- `P` once, and `Q` ever since. -/
def Since (Q P : α → Prop) (h : List α) : Prop :=
  ∃ before a after, h = before ++ a :: after ∧ P a ∧ ∀ b ∈ after, Q b

/-- Nothing has been since nothing. -/
theorem not_since_nil (Q P : α → Prop) : ¬ Since Q P [] := by
  intro ⟨before, a, after, h, _⟩
  exact absurd h (by simp)

/-- One more entry: it meets `P` itself, or it meets `Q` and `P` was met before. -/
theorem since_concat {Q P : α → Prop} {h : List α} {x : α} :
    Since Q P (h ++ [x]) ↔ P x ∨ Q x ∧ Since Q P h := by
  constructor
  · intro ⟨before, a, after, heq, ha, hafter⟩
    rcases List.eq_nil_or_concat after with hnil | ⟨init, last, hlast⟩
    · -- the entry in question is the new one
      rw [hnil] at heq
      obtain ⟨-, hx⟩ := List.append_inj' heq rfl
      rw [(List.cons.inj hx).1]
      exact Or.inl ha
    · rw [hlast, List.concat_eq_append] at heq hafter
      have hsplit : h ++ [x] = (before ++ a :: init) ++ [last] := by
        rw [heq]
        simp
      obtain ⟨hh, hx⟩ := List.append_inj' hsplit rfl
      rw [(List.cons.inj hx).1]
      exact Or.inr ⟨hafter last (by simp), before, a, init, hh, ha,
        fun b hb => hafter b (List.mem_append_left _ hb)⟩
  · intro h'
    rcases h' with hx | ⟨hx, before, a, after, heq, ha, hafter⟩
    · exact ⟨h, x, [], rfl, hx, by simp⟩
    · refine ⟨before, a, after ++ [x], by simp [heq], ha, fun b hb => ?_⟩
      rcases List.mem_append.mp hb with hb | hb
      · exact hafter b hb
      · rw [List.mem_singleton.mp hb]
        exact hx

end Past
