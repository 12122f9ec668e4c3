import Gc3.Hass.Supervision

/-!
# One zone's supervision does not depend on the others

Two runs are compared: two entries, two registries, two sequences of polls that agree on
one zone alone — which polls fail, and which flags the zone's own entries carry. `Alike`
is what the two watches of the zone then have in common, and every step keeps it; the
calls are compared from the start of the runs, since the registries may already hold
others.

`supervision_isolated` is the result: whatever the other zones are and whatever they
report, the misses of this one, whether it has been reported, and the calls about its
issue are the same on both sides after every poll. Names do not count either, so the two
sides may even have zone names of different types.

The proof is a simulation by hand. A `Watch` is one zone's share of the bookkeeping
(`Gc3.Hass.Watch` has that it runs by itself), so it is enough that `Alike` survives
what a watch can do: being cleared, raising, settling what is due, one entry of the
list, all of them, and a poll.
-/

namespace Gc3.Hass

open Gc3.Py Gc3.Pygc3
open GC3Coordinator

/-! ## Two watches -/

namespace Watch

/-- Same counter, same report, and the same calls on top of two given logs. -/
structure Alike (log log' : List Bool) (w w' : Watch) : Prop where
  misses_eq : w.misses = w'.misses
  reported_eq : w.reported = w'.reported
  calls_eq : ∃ calls, w.calls = log ++ calls ∧ w'.calls = log' ++ calls

namespace Alike

variable {log log' : List Bool} {w w' : Watch}

/-- One more call of the same kind on either side. -/
theorem call (h : Alike log log' w w') (b : Bool) :
    ∃ calls, w.calls ++ [b] = log ++ calls ∧ w'.calls ++ [b] = log' ++ calls := by
  obtain ⟨calls, hw, hw'⟩ := h.calls_eq
  exact ⟨calls ++ [b], by rw [hw, List.append_assoc], by rw [hw', List.append_assoc]⟩

theorem clear (h : Alike log log' w w') : Alike log log' w.clear w'.clear :=
  ⟨h.misses_eq, rfl, h.call false⟩

theorem raise (h : Alike log log' w w') : Alike log log' w.raise w'.raise :=
  ⟨h.misses_eq, rfl, h.call true⟩

/-- Whether an issue is due is decided by the misses and the mark, which are the same.
-/
theorem settle (h : Alike log log' w w') : Alike log log' w.settle w'.settle := by
  unfold Watch.settle
  rw [h.misses_eq, h.reported_eq]
  split
  · split
    · exact h
    · exact h.raise
  · split
    · exact h.clear
    · exact h

/-- One entry with this flag, on either side. -/
theorem entry (h : Alike log log' w w') (lost : Bool) :
    Alike log log' (w.entry lost) (w'.entry lost) := by
  have hcount : Alike log log' { w with misses := if lost then w.misses + 1 else 0 }
      { w' with misses := if lost then w'.misses + 1 else 0 } :=
    ⟨by rw [h.misses_eq], h.reported_eq, h.calls_eq⟩
  exact hcount.settle

theorem entries (h : Alike log log' w w') (flags : List Bool) :
    Alike log log' (flags.foldl Watch.entry w) (flags.foldl Watch.entry w') := by
  induction flags generalizing w w' with
  | nil => exact h
  | cons lost flags ih => exact ih (h.entry lost)

/-- A poll, failed on both sides or on neither. -/
theorem step (h : Alike log log' w w') (flags : Option (List Bool)) :
    Alike log log' (w.step flags) (w'.step flags) := by
  cases flags with
  | none => exact h
  | some flags =>
    show Alike log log' (w.poll flags) (w'.poll flags)
    unfold Watch.poll
    by_cases hnil : flags = []
    · rw [if_pos hnil, if_pos hnil]
      unfold Watch.absent
      rw [h.reported_eq]
      split
      · exact h.clear
      · exact h
    · rw [if_neg hnil, if_neg hnil]
      exact h.entries flags

end Alike

end Watch

/-! ## Two runs -/

variable {ν ν' : Type}

/-- Both polls fail, or both list the zone with the same flags in the same order. -/
def SameAt (z : String) (p : Poll ν) (q : Poll ν') : Prop :=
  (p.snapshot = none ∧ q.snapshot = none) ∨
    ∃ d d', p.snapshot = some d ∧ q.snapshot = some d' ∧ flagsOf z d.zones = flagsOf z d'.zones

/-- Polls that agree on the zone show its watch the same flags. -/
theorem flagsOf_of_sameAt {z : String} {p : Poll ν} {q : Poll ν'} (h : SameAt z p q) :
    p.flagsOf z = q.flagsOf z := by
  unfold Poll.flagsOf
  rcases h with ⟨hp, hq⟩ | ⟨d, d', hp, hq, hflags⟩
  · rw [hp, hq]
    rfl
  · rw [hp, hq]
    exact congrArg some hflags

/-- The calls about the zone's issue that the registry has received. -/
def GC3Coordinator.callsFor (c : GC3Coordinator ν) (z : String) : List Bool :=
  c.issueRegistry.callsAbout (c.supervisionIssueId z)

/-- **Supervision of one zone does not depend on the others.** Two sequences of
polls that agree on the zone, run from fresh coordinators: after each poll the miss
counts agree, so do the reports, and the same calls have been made about the
zone's issue since the start. -/
theorem supervision_isolated (entry entry' : ConfigEntry) (registry : IssueRegistry ν)
    (registry' : IssueRegistry ν') (z : String) {ps : List (Poll ν)} {qs : List (Poll ν')}
    (hsame : List.Forall₂ (SameAt z) ps qs) (n : Nat) :
    let start := init entry registry
    let start' := init entry' registry'
    let c := Runs.run asyncRefresh start (ps.take n)
    let c' := Runs.run asyncRefresh start' (qs.take n)
    c.misses z = c'.misses z ∧ (z ∈ c.supervisionReported ↔ z ∈ c'.supervisionReported) ∧
      ∃ calls, c.callsFor z = start.callsFor z ++ calls ∧
        c'.callsFor z = start'.callsFor z ++ calls := by
  intro start start' c c'
  have hstart : Watch.Alike (start.callsFor z) (start'.callsFor z) (start.watch z)
      (start'.watch z) :=
    ⟨rfl, rfl, [], (List.append_nil _).symm, (List.append_nil _).symm⟩
  have halike : Watch.Alike (start.callsFor z) (start'.callsFor z) (c.watch z) (c'.watch z) := by
    refine Runs.run_related (R := fun (c : GC3Coordinator ν) (c' : GC3Coordinator ν') =>
      Watch.Alike (start.callsFor z) (start'.callsFor z) (c.watch z) (c'.watch z)) ?_ hstart
      (List.forall₂_take n hsame)
    intro c c' p q h hpq
    rw [watch_asyncRefresh, watch_asyncRefresh, flagsOf_of_sameAt hpq]
    exact h.step _
  refine ⟨halike.misses_eq, ?_, halike.calls_eq⟩
  rw [reported_iff_watch, reported_iff_watch, halike.reported_eq]

/-- A poll that lists zone 1 as lost between two other zones. -/
def crowdedPoll : Poll String :=
  .ofSnapshot ⟨.disarmed, [.bare "7" "Back Door" .quiet,
    .bare "1" "Front Door" { ZoneStatus.quiet with lossOfSupervision := true },
    .bare "9" "Patio Slider" { ZoneStatus.quiet with lossOfSupervision := true }]⟩

/-- Alone in the list or not, zone 1 is counted alike. -/
theorem frontDoor_isolated :
    (Runs.run asyncRefresh (init bareEntry IssueRegistry.empty) [lostPoll, lostPoll]).misses "1" =
      (Runs.run asyncRefresh (init bareEntry IssueRegistry.empty)
        [crowdedPoll, crowdedPoll]).misses "1" := by
  have hsame : SameAt "1" lostPoll crowdedPoll := Or.inr ⟨_, _, rfl, rfl, by decide⟩
  exact (supervision_isolated bareEntry bareEntry .empty .empty "1"
    (.cons hsame (.cons hsame .nil)) 2).1

end Gc3.Hass
