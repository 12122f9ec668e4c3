import Mathlib.Data.List.Chain

/-!
# Alternating logs

A switch that is turned on only while off, and off only while on, leaves a log that
strictly alternates and starts with an *on*. The log is a list of `Bool`, oldest first,
`true` for *on*; its last entry says how the switch stands.

An alternating log is worth having because it leaves nothing to be cleaned up later:
nobody has turned the switch off who had not turned it on, nobody has turned it on
twice, and the number of times it was turned each way says how it stands
(`Alternates.count_true`). Two rules carry a proof about such a log, one for each
direction of time:

* `Alternates.concat` — a step that turns the switch to where it does not stand may be
  logged. It is the step lemma of an invariant "the log alternates, and `standing` of it
  is the state of the switch".
* `Alternates.of_concat` — the last entry of an alternating log did turn the switch, so
  that a proof about logs can go by induction from their latest end.

What the entries stand for is left to whoever keeps the log: the calls about one issue
of a registry, or the adding and the removing of one entity.
-/

namespace Alternation

/-- The log strictly alternates, starting with an *on*. -/
def Alternates (log : List Bool) : Prop := log.IsChain (· ≠ ·) ∧ log.head? ≠ some false

/-- How the switch stands after the log: as its last entry left it, off before any. -/
def standing (log : List Bool) : Bool := log.getLast?.getD false

/-- Before anything was logged the log alternates. -/
theorem alternates_nil : Alternates [] := ⟨.nil, by simp⟩

/-- And the switch is off. -/
@[simp] theorem standing_nil : standing [] = false := rfl

/-- The last entry says how the switch stands. -/
@[simp] theorem standing_concat (log : List Bool) (b : Bool) : standing (log ++ [b]) = b := by
  simp [standing]

/-- Turning the switch to where it does not stand keeps the log alternating. -/
theorem Alternates.concat {log : List Bool} {b : Bool} (h : Alternates log)
    (hb : standing log = !b) : Alternates (log ++ [b]) := by
  obtain ⟨hchain, hhead⟩ := h
  constructor
  · refine List.isChain_append.mpr ⟨hchain, .singleton b, ?_⟩
    intro x hx y hy
    have hxlog : log.getLast? = some x := hx
    have hyb : b = y := by simpa using hy
    have hxb : x = !b := by simpa [standing, hxlog] using hb
    rw [hxb, ← hyb]
    simp
  · cases log with
    | nil =>
      have : b = true := by simpa using hb
      simp [this]
    | cons a log => simpa using hhead

/-- The log without its last entry alternates too, and that entry turned the switch. -/
theorem Alternates.of_concat {log : List Bool} {b : Bool} (h : Alternates (log ++ [b])) :
    Alternates log ∧ standing log = !b := by
  obtain ⟨hchain, hhead⟩ := h
  obtain ⟨hlog, -, hlast⟩ := List.isChain_append.mp hchain
  rcases List.eq_nil_or_concat log with hnil | ⟨init, last, hlast'⟩
  · rw [hnil] at hhead ⊢
    exact ⟨alternates_nil, by simpa using hhead⟩
  · rw [hlast', List.concat_eq_append] at hlog hhead hlast ⊢
    refine ⟨⟨hlog, ?_⟩, ?_⟩
    · cases init with
      | nil => simpa using hhead
      | cons a init => simpa using hhead
    · have hne : last ≠ b := hlast last (by simp) b (by simp)
      rw [standing_concat]
      exact Bool.eq_not_of_ne hne

/-- The switch has been turned on as often as off, or once more while it stands on. -/
theorem Alternates.count_true {log : List Bool} (h : Alternates log) :
    log.count true = log.count false + if standing log then 1 else 0 := by
  induction log using List.reverseRecOn with
  | nil => rfl
  | append_singleton log b ih =>
    obtain ⟨hlog, hstanding⟩ := h.of_concat
    have hcount := ih hlog
    rw [hstanding] at hcount
    rw [List.count_append, List.count_append, standing_concat]
    cases b with
    | true => simpa using hcount
    | false => simpa using hcount

end Alternation
