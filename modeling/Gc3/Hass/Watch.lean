import Gc3.Hass.Coordinator
import Gc3.Lib.Runs
import Gc3.Lib.Alternation

/-!
# One zone's supervision, on its own

The supervision pass shares a counter map, a reported set and the issue registry among
all zones. `Watch` is what a single zone's share of them should be: a counter, two flags
and the log of calls about its issue, driven by the `lossOfSupervision` flags of that
zone's own entries in each list.

`watch_asyncRefresh` is the refinement: reading the coordinator at a zone
(`GC3Coordinator.watch`) turns a refresh into one step of that zone's `Watch`, whatever
else the list holds and in whatever order sets are iterated. All facts about supervision
are then facts about the small machine.

On the machine, `step_keeps` is the rule the invariants are proved by: a step only
counts, clears what is reported and raises what is not, so what these three keep every
step keeps. `Sound` is such an invariant (the issue stands while the zone is reported,
and the calls about it alternate). On the side of the coordinator, the source is
followed operation by operation, from `watch_clear` and `watch_raise` through one
iteration of the loop to the whole pass.
-/

namespace Gc3.Hass

open Gc3.Py Gc3.Pygc3 Alternation

/-! ## The machine -/

/-- One zone's share of the supervision state. `calls` logs the registry calls
about its issue, `true` for a create. -/
structure Watch where
  misses : Nat
  reported : Bool
  issue : Bool
  calls : List Bool
  deriving DecidableEq, Repr

namespace Watch

/-- A zone nobody has reported, in a registry without its issue. -/
def fresh : Watch := ⟨0, false, false, []⟩

def clear (w : Watch) : Watch :=
  { w with reported := false, issue := false, calls := w.calls ++ [false] }

def raise (w : Watch) : Watch :=
  { w with reported := true, issue := true, calls := w.calls ++ [true] }

/-- Bring the report in line with the counter. -/
def settle (w : Watch) : Watch :=
  if SUPERVISION_FAILURES_BEFORE_REPAIR ≤ w.misses then
    if w.reported then w else w.raise
  else if w.reported then w.clear else w

/-- One entry of the zone in a list. -/
def entry (w : Watch) (lost : Bool) : Watch :=
  settle { w with misses := if lost then w.misses + 1 else 0 }

/-- A list without the zone: the report goes, the counter stays. -/
def absent (w : Watch) : Watch := if w.reported then w.clear else w

/-- A successful poll whose list shows these flags for the zone, in order. -/
def poll (w : Watch) (flags : List Bool) : Watch :=
  if flags = [] then w.absent else flags.foldl entry w

/-- A poll, failed (`none`) or successful. -/
def step (w : Watch) : Option (List Bool) → Watch
  | none => w
  | some flags => w.poll flags

/-! ### What a step leaves behind -/

@[simp] theorem step_none (w : Watch) : w.step none = w := rfl

@[simp] theorem step_some (w : Watch) (flags : List Bool) :
    w.step (some flags) = w.poll flags := rfl

@[simp] theorem settle_misses (w : Watch) : w.settle.misses = w.misses := by
  unfold settle
  split
  · split <;> rfl
  · split <;> rfl

/-- Settled, the zone is reported exactly when the counter is over the threshold. -/
@[simp] theorem settle_reported (w : Watch) :
    w.settle.reported = decide (SUPERVISION_FAILURES_BEFORE_REPAIR ≤ w.misses) := by
  unfold settle
  by_cases h : SUPERVISION_FAILURES_BEFORE_REPAIR ≤ w.misses
  · rw [if_pos h, decide_eq_true h]
    split
    next hr => exact hr
    next => rfl
  · rw [if_neg h, decide_eq_false h]
    split
    next => rfl
    next hr => exact Bool.eq_false_iff.mpr hr

/-- An entry that is lost counts one more, any other starts over. -/
@[simp] theorem entry_misses (w : Watch) (lost : Bool) :
    (w.entry lost).misses = if lost then w.misses + 1 else 0 := settle_misses _

@[simp] theorem absent_misses (w : Watch) : w.absent.misses = w.misses := by
  unfold absent
  split <;> rfl

@[simp] theorem absent_reported (w : Watch) : w.absent.reported = false := by
  unfold absent
  split
  next => rfl
  next h => exact Bool.eq_false_iff.mpr h

@[simp] theorem poll_nil (w : Watch) : w.poll [] = w.absent := if_pos rfl

theorem poll_concat (w : Watch) (flags : List Bool) (lost : Bool) :
    w.poll (flags ++ [lost]) = (flags.foldl entry w).entry lost := by
  unfold poll
  rw [if_neg (by simp), List.foldl_append]
  rfl

@[simp] theorem poll_singleton (w : Watch) (lost : Bool) : w.poll [lost] = w.entry lost := rfl

/-- After a list that shows the zone, it is reported exactly when its counter is
over the threshold. -/
theorem poll_reported {w : Watch} {flags : List Bool} (h : flags ≠ []) :
    (w.poll flags).reported =
      decide (SUPERVISION_FAILURES_BEFORE_REPAIR ≤ (w.poll flags).misses) := by
  obtain ⟨init, last, rfl⟩ := (List.eq_nil_or_concat flags).resolve_left h
  rw [List.concat_eq_append, poll_concat]
  unfold entry
  rw [settle_reported, settle_misses]

/-- A zone is reported only by a list whose last entry for it shows the loss. -/
theorem getLast?_of_reported {w : Watch} {flags : List Bool} (h : (w.poll flags).reported = true) :
    flags.getLast? = some true := by
  rcases List.eq_nil_or_concat flags with hnil | ⟨init, last, hflags⟩
  · rw [hnil, poll_nil, absent_reported] at h
    exact absurd h (by simp)
  · rw [hflags, List.concat_eq_append] at h ⊢
    cases last with
    | true => simp
    | false =>
      rw [poll_concat] at h
      unfold entry at h
      rw [settle_reported] at h
      exact absurd h (by simp [supervisionFailures_eq])

/-! ### Bookkeeping -/

/-- A step only counts, clears what is reported and raises what is not: what
these three keep, every step keeps. -/
theorem step_keeps {Q : Watch → Prop} (hmisses : ∀ w m, Q w → Q { w with misses := m })
    (hclear : ∀ w, Q w → w.reported = true → Q w.clear)
    (hraise : ∀ w, Q w → ¬ w.reported = true → Q w.raise) {w : Watch} (h : Q w)
    (flags : Option (List Bool)) : Q (w.step flags) := by
  have hsettle : ∀ v, Q v → Q v.settle := by
    intro v hv
    unfold settle
    split
    · split
      next => exact hv
      next hr => exact hraise v hv hr
    · split
      next hr => exact hclear v hv hr
      next => exact hv
  cases flags with
  | none => exact h
  | some flags =>
    show Q (w.poll flags)
    unfold poll
    by_cases hnil : flags = []
    · rw [if_pos hnil]
      unfold absent
      split
      next hr => exact hclear w h hr
      next => exact h
    · rw [if_neg hnil]
      exact List.foldlRecOn flags _ h fun v hv lost _ => hsettle _ (hmisses v _ hv)

/-- The issue stands exactly while the zone is reported. -/
theorem issue_eq_step {w : Watch} (h : w.issue = w.reported) (flags : Option (List Bool)) :
    (w.step flags).issue = (w.step flags).reported :=
  step_keeps (Q := fun w => w.issue = w.reported) (fun _ _ h => h) (fun _ _ _ => rfl)
    (fun _ _ _ => rfl) h flags

/-- The report, the issue and the call log agree, and the log alternates. -/
structure Sound (w : Watch) : Prop where
  issue_eq : w.issue = w.reported
  standing_eq : standing w.calls = w.reported
  alternates : Alternates w.calls

theorem sound_fresh : Sound fresh := ⟨rfl, rfl, alternates_nil⟩

/-- Clearing what is reported alternates with the call that reported it. -/
theorem Sound.clear {w : Watch} (h : Sound w) (hr : w.reported = true) : Sound w.clear :=
  ⟨rfl, standing_concat _ _, h.alternates.concat (h.standing_eq.trans hr)⟩

/-- Raising what is not reported alternates with the call that cleared it. -/
theorem Sound.raise {w : Watch} (h : Sound w) (hr : ¬ w.reported = true) : Sound w.raise :=
  ⟨rfl, standing_concat _ _,
    h.alternates.concat (h.standing_eq.trans (Bool.eq_false_iff.mpr hr))⟩

/-- A step does no other than these two. -/
theorem Sound.step {w : Watch} (h : Sound w) (flags : Option (List Bool)) : Sound (w.step flags) :=
  step_keeps (fun _ _ h => ⟨h.issue_eq, h.standing_eq, h.alternates⟩) (fun _ h hr => h.clear hr)
    (fun _ h hr => h.raise hr) h flags

/-- The bookkeeping is sound after any sequence of polls from a fresh start. -/
theorem sound_run (polls : List (Option (List Bool))) : Sound (Runs.run step fresh polls) :=
  Runs.run_invariant sound_fresh (fun _ flags h => h.step flags) polls

end Watch

/-! ## The coordinator at one zone -/

variable {ν : Type}

/-- The flags of the zone's entries, in list order. -/
def flagsOf (z : String) (zones : List (Zone ν)) : List Bool :=
  (zones.filter (·.id = z)).map (·.status.lossOfSupervision)

/-- What a poll shows of the zone. -/
def Poll.flagsOf (z : String) (p : Poll ν) : Option (List Bool) :=
  p.snapshot.map fun d => Hass.flagsOf z d.zones

namespace GC3Coordinator

/-- One zone's share of the coordinator's supervision state. -/
def watch (z : String) (c : GC3Coordinator ν) : Watch where
  misses := c.misses z
  reported := z ∈ c.supervisionReported
  issue := c.supervisionIssueId z ∈ c.issueRegistry.issues
  calls := c.issueRegistry.callsAbout (c.supervisionIssueId z)

theorem reported_iff_watch (c : GC3Coordinator ν) (z : String) :
    z ∈ c.supervisionReported ↔ (c.watch z).reported = true := decide_eq_true_iff.symm

theorem supervisionIssueId_inj (c : GC3Coordinator ν) {y z : String} :
    c.supervisionIssueId y = c.supervisionIssueId z ↔ y = z := by
  unfold supervisionIssueId
  simp

/-! ### The operations, one zone at a time -/

/-- Clearing one zone is a clearing for its own watch. -/
theorem watch_clear (c : GC3Coordinator ν) (y z : String) :
    (c.clearSupervisionIssue y).watch z = if y = z then (c.watch z).clear else c.watch z := by
  have hid : ∀ x, (c.clearSupervisionIssue y).supervisionIssueId x = c.supervisionIssueId x :=
    fun _ => rfl
  unfold watch Watch.clear
  rw [hid]
  simp only [clearSupervisionIssue, IssueRegistry.mem_delete, IssueRegistry.callsAbout_delete,
    supervisionIssueId_inj, Finset.mem_erase, misses]
  by_cases h : y = z
  · simp [h]
  · have h' : z ≠ y := fun e => h e.symm
    simp [h, h', supervisionIssueId_inj]

/-- And raising one is a raising for its own. -/
theorem watch_raise (c : GC3Coordinator ν) (zone : Zone ν) (z : String) :
    (c.raiseSupervisionIssue zone).watch z
      = if zone.id = z then (c.watch z).raise else c.watch z := by
  have hid : ∀ x, (c.raiseSupervisionIssue zone).supervisionIssueId x = c.supervisionIssueId x :=
    fun _ => rfl
  unfold watch Watch.raise
  rw [hid]
  simp only [raiseSupervisionIssue, IssueRegistry.mem_create, IssueRegistry.callsAbout_create,
    supervisionIssueId_inj, Finset.mem_insert, misses]
  by_cases h : zone.id = z
  · simp [h]
  · have h' : z ≠ zone.id := fun e => h e.symm
    simp [h, h']

theorem watch_countMiss (c : GC3Coordinator ν) (zone : Zone ν) (z : String) :
    (c.countMiss zone).watch z =
      if zone.id = z then
        { c.watch z with
          misses := if zone.status.lossOfSupervision then (c.watch z).misses + 1 else 0 }
      else c.watch z := by
  have hmisses : (c.countMiss zone).misses z =
      if zone.id = z then if zone.status.lossOfSupervision then c.misses z + 1 else 0
      else c.misses z := by
    unfold countMiss misses
    by_cases h : zone.id = z
    · subst h
      cases zone.status.lossOfSupervision <;> simp
    · have h' : z ≠ zone.id := fun e => h e.symm
      rw [if_neg h]
      cases zone.status.lossOfSupervision
      · simp [AList.lookup_erase_ne h']
      · simp [AList.lookup_insert_ne h']
  unfold watch
  rw [hmisses]
  by_cases h : zone.id = z
  · simp only [if_pos h]
    rfl
  · simp only [if_neg h]
    rfl

/-- An iteration of the loop is an entry for its own zone, and nothing for any other. -/
theorem watch_superviseZone (c : GC3Coordinator ν) (zone : Zone ν) (z : String) :
    (c.superviseZone zone).watch z =
      if zone.id = z then (c.watch z).entry zone.status.lossOfSupervision else c.watch z := by
  have hcount := watch_countMiss c zone z
  unfold superviseZone
  dsimp only
  generalize c.countMiss zone = d at hcount ⊢
  by_cases hz : zone.id = z
  · subst hz
    rw [if_pos rfl] at hcount ⊢
    unfold Watch.entry
    rw [← hcount]
    have hover : d.overThreshold zone.id = true ↔
        SUPERVISION_FAILURES_BEFORE_REPAIR ≤ (d.watch zone.id).misses := decide_eq_true_iff
    unfold Watch.settle
    simp only [hover, reported_iff_watch]
    by_cases ho : SUPERVISION_FAILURES_BEFORE_REPAIR ≤ (d.watch zone.id).misses
    · by_cases hr : (d.watch zone.id).reported = true
      · simp [ho, hr]
      · simp [ho, hr, watch_raise]
    · by_cases hr : (d.watch zone.id).reported = true
      · simp [ho, hr, watch_clear]
      · simp [ho, hr]
  · rw [if_neg hz] at hcount ⊢
    split
    · rw [watch_raise, if_neg hz, hcount]
    · split
      · rw [watch_clear, if_neg hz, hcount]
      · exact hcount

/-- The loop over a list is that zone's own entries, one after another. -/
theorem watch_superviseZones (c : GC3Coordinator ν) (zones : List (Zone ν)) (z : String) :
    (zones.foldl superviseZone c).watch z = (flagsOf z zones).foldl Watch.entry (c.watch z) := by
  induction zones generalizing c with
  | nil => rfl
  | cons zone zones ih =>
    rw [List.foldl_cons, ih, watch_superviseZone]
    by_cases hz : zone.id = z
    · simp [flagsOf, hz]
    · simp [flagsOf, hz]

/-- Clearing a duplicate-free list of zones clears those in it once. -/
theorem watch_clears (c : GC3Coordinator ν) {ids : List String} (hids : ids.Nodup) (z : String) :
    (ids.foldl clearSupervisionIssue c).watch z
      = if z ∈ ids then (c.watch z).clear else c.watch z := by
  induction ids generalizing c with
  | nil => rfl
  | cons y ids ih =>
    obtain ⟨hy, hrest⟩ := List.nodup_cons.mp hids
    rw [List.foldl_cons, ih _ hrest, watch_clear]
    by_cases hyz : y = z
    · subst hyz
      simp [hy]
    · have hzy : z ≠ y := fun e => hyz e.symm
      simp [hyz, hzy]

/-- A list shows no flags of a zone that it does not have. -/
theorem flagsOf_eq_nil_iff (z : String) (zones : List (Zone ν)) :
    flagsOf z zones = [] ↔ z ∉ (zones.map (·.id)).toFinset := by
  unfold flagsOf
  simp [List.filter_eq_nil_iff]

/-- **Refinement of the supervision pass**: at every zone it is one step of that
zone's own watch. -/
theorem watch_updateSupervisionIssues (c : GC3Coordinator ν) (order : SetOrder String)
    (zones : List (Zone ν)) (z : String) :
    (c.updateSupervisionIssues order zones).watch z = (c.watch z).poll (flagsOf z zones) := by
  unfold updateSupervisionIssues
  dsimp only
  rw [watch_clears _ (order.nodup _)]
  simp only [order.mem_list, Finset.mem_sdiff, ← flagsOf_eq_nil_iff]
  have hloop := watch_superviseZones c zones z
  simp only [reported_iff_watch, hloop]
  unfold Watch.poll
  by_cases hnil : flagsOf z zones = []
  · rw [if_pos hnil, hnil]
    unfold Watch.absent
    simp
  · simp [hnil]

theorem watch_dropNight (c : GC3Coordinator ν) (st : PanelStatus) (z : String) :
    (c.dropNight st).watch z = c.watch z := by
  unfold dropNight
  split <;> rfl

/-- **Refinement of a refresh.** -/
theorem watch_asyncRefresh (z : String) (c : GC3Coordinator ν) (p : Poll ν) :
    (c.asyncRefresh p).watch z = (c.watch z).step (p.flagsOf z) := by
  unfold Poll.flagsOf
  cases h : p.snapshot with
  | none =>
    rw [asyncRefresh_of_none h]
    rfl
  | some d =>
    rw [asyncRefresh_of_some h]
    refine (watch_updateSupervisionIssues _ _ _ z).trans ?_
    rw [watch_dropNight]
    rfl

/-- A fresh coordinator over an empty registry watches afresh. -/
theorem watch_init (entry : ConfigEntry) (z : String) :
    (init entry (IssueRegistry.empty : IssueRegistry ν)).watch z = Watch.fresh := rfl

/-- A run of polls, watched at one zone. -/
theorem watch_run (z : String) (c : GC3Coordinator ν) (polls : List (Poll ν)) :
    (Runs.run asyncRefresh c polls).watch z
      = Runs.run Watch.step (c.watch z) (polls.map (·.flagsOf z)) :=
  Runs.run_simulation (watch z) (Poll.flagsOf z) (watch_asyncRefresh z) c polls

end GC3Coordinator

end Gc3.Hass
