import Gc3.Hass.Supervision

/-!
# Supervision issues across reloads

The issue registry outlives the coordinator; what the coordinator has reported does not.
A reload is a fresh coordinator over the registry the old one left, so an issue of the
old one is *left over*: it stands, and nobody remembers having raised it. Only a
reported issue is ever deleted, so a left-over issue stays until the zone has been lost
often enough to be reported again.

`noStaleIssue_iff` says exactly which polls leave a stale issue behind, over every run
of polls and reloads; `reload_leaves_stale_issue` is such a run.

As with the supervision pass itself, the argument is about one zone at a time. A `Watch`
now lives through reloads too (`Watch.event`), `LeftOver` is what a reload may make of
it, and `poll_issue_iff` settles which polls end with an issue, from what each entry of
the list does to the counter (`lostRun`). `watch_entryStep` is the refinement that
carries this back to the coordinator, and `ReportedStand`, that a reported zone has its
issue, is the only invariant the run needs.
-/

namespace Gc3.Hass

open Gc3.Py Gc3.Pygc3
open GC3Coordinator

variable {ν : Type}

/-! ## Lifetimes -/

/-- What happens to an entry: a poll, or a reload with other data and options. -/
inductive EntryStep (ν : Type)
  | poll (p : Poll ν)
  | reload (data options : List (String × Json))

/-- A reload builds a fresh coordinator for the same entry over the same registry. -/
def entryStep (c : GC3Coordinator ν) : EntryStep ν → GC3Coordinator ν
  | .poll p => c.asyncRefresh p
  | .reload data options => init ⟨c.configEntry.entryId, data, options⟩ c.issueRegistry

/-! ## Left-over issues, one zone at a time -/

namespace Watch

/-- What happens to one zone's share: a poll, or a reload. -/
inductive Event
  | poll (flags : Option (List Bool))
  | reload

/-- A reload forgets the counter and the report, and keeps the issue. -/
def event (w : Watch) : Event → Watch
  | .poll flags => w.step flags
  | .reload => { w with misses := 0, reported := false }

/-- The issue stands and the coordinator does not know of it. -/
def LeftOver (w : Watch) : Prop := w.issue = true ∧ w.reported = false

/-- Lost entries since the last healthy one, `m` of them before `flags`. -/
def lostRun (m : Nat) (flags : List Bool) : Nat :=
  flags.foldl (fun n lost => if lost then n + 1 else 0) m

theorem lostRun_concat (m : Nat) (flags : List Bool) (lost : Bool) :
    lostRun m (flags ++ [lost]) = if lost then lostRun m flags + 1 else 0 := by
  unfold lostRun
  rw [List.foldl_append]
  rfl

/-- The counter after a list is the run of losses at its end. -/
theorem foldl_entry_misses (w : Watch) (flags : List Bool) :
    (flags.foldl entry w).misses = lostRun w.misses flags := by
  induction flags using List.reverseRecOn with
  | nil => rfl
  | append_singleton flags lost ih =>
    rw [List.foldl_append, lostRun_concat, ← ih]
    exact entry_misses _ _

/-- An entry leaves an issue left over only below the threshold: at the threshold
the zone is reported again. -/
theorem leftOver_entry (w : Watch) (lost : Bool) :
    (w.entry lost).LeftOver ↔
      w.LeftOver ∧ (w.entry lost).misses < SUPERVISION_FAILURES_BEFORE_REPAIR := by
  unfold LeftOver entry
  rw [settle_reported, settle_misses, decide_eq_false_iff_not, Nat.not_le]
  refine and_congr_left fun hlt => ?_
  unfold settle
  rw [if_neg (Nat.not_le.mpr hlt)]
  by_cases hr : w.reported = true
  · simp [hr, clear]
  · simp [hr]

/-- An issue is still left over after a list when at no point of it the counter reached
the threshold. -/
theorem leftOver_foldl (w : Watch) (flags : List Bool) :
    (flags.foldl entry w).LeftOver ↔
      w.LeftOver ∧ ∀ pre, pre ≠ [] → pre <+: flags →
        lostRun w.misses pre < SUPERVISION_FAILURES_BEFORE_REPAIR := by
  induction flags using List.reverseRecOn with
  | nil =>
    refine ⟨fun h => ⟨h, fun pre hne hpre => absurd (List.prefix_nil.mp hpre) hne⟩, fun h => h.1⟩
  | append_singleton flags lost ih =>
    have hmisses :
        ((flags.foldl entry w).entry lost).misses = lostRun w.misses (flags ++ [lost]) := by
      rw [entry_misses, lostRun_concat, foldl_entry_misses]
    rw [List.foldl_append]
    show ((flags.foldl entry w).entry lost).LeftOver ↔ _
    rw [leftOver_entry, ih, hmisses, and_assoc]
    refine and_congr_right fun _ => ⟨?_, ?_⟩
    · intro ⟨hshort, hlong⟩ pre hne hpre
      rcases List.prefix_concat_iff.mp hpre with rfl | hpre
      · exact hlong
      · exact hshort pre hne hpre
    · intro h
      exact ⟨fun pre hne hpre => h pre hne (hpre.trans (List.prefix_append _ _)),
        h _ (by simp) List.prefix_rfl⟩

/-- A reported zone has its issue. -/
theorem issue_of_reported_step {w : Watch} (h : w.reported = true → w.issue = true)
    (flags : Option (List Bool)) :
    (w.step flags).reported = true → (w.step flags).issue = true :=
  step_keeps (Q := fun w => w.reported = true → w.issue = true) (fun _ _ h => h)
    (fun _ _ _ hr => hr) (fun _ _ _ _ => rfl) h flags

theorem issue_iff {w : Watch} (h : w.reported = true → w.issue = true) :
    w.issue = true ↔ w.reported = true ∨ w.LeftOver := by
  unfold LeftOver
  cases hr : w.reported with
  | true => simp [h hr]
  | false => simp

/-- Which polls leave the zone with an issue. -/
theorem poll_issue_iff {w : Watch} (h : w.reported = true → w.issue = true) (flags : List Bool) :
    (w.poll flags).issue = true ↔
      (w.LeftOver ∧ ∀ pre, pre ≠ [] → pre <+: flags →
          lostRun w.misses pre < SUPERVISION_FAILURES_BEFORE_REPAIR) ∨
        flags ≠ [] ∧ SUPERVISION_FAILURES_BEFORE_REPAIR ≤ lostRun w.misses flags := by
  have hafter := issue_iff (issue_of_reported_step h (some flags))
  rw [step_some] at hafter
  rw [hafter]
  by_cases hnil : flags = []
  · subst hnil
    have habsent : w.absent.LeftOver ↔ w.LeftOver := by
      unfold LeftOver absent
      by_cases hr : w.reported = true
      · simp [hr, clear]
      · simp [hr]
    rw [poll_nil, absent_reported, habsent]
    simp only [Bool.false_eq_true, false_or, ne_eq, not_true_eq_false, false_and, or_false]
    exact ⟨fun hl => ⟨hl, fun pre hne hpre => absurd (List.prefix_nil.mp hpre) hne⟩, fun hl => hl.1⟩
  · have hpoll : w.poll flags = flags.foldl entry w := if_neg hnil
    have hrep := poll_reported (w := w) hnil
    rw [hpoll, foldl_entry_misses] at hrep
    rw [hpoll, leftOver_foldl, hrep, decide_eq_true_iff, or_comm]
    simp [hnil]

end Watch

/-- An entry's step, as one zone meets it. -/
def EntryStep.event (z : String) : EntryStep ν → Watch.Event
  | .poll p => .poll (p.flagsOf z)
  | .reload _ _ => .reload

/-- **Refinement of a lifetime's step.** -/
theorem watch_entryStep (z : String) (c : GC3Coordinator ν) (s : EntryStep ν) :
    (entryStep c s).watch z = (c.watch z).event (s.event z) := by
  cases s with
  | poll p => exact watch_asyncRefresh z c p
  | reload data options => rfl

/-! ## Stale issues -/

/-- The snapshot shows the zone without a loss, or not at all. -/
def ClearedBy (z : String) (d : GC3Data ν) : Prop :=
  (∃ zone ∈ d.zones, zone.id = z ∧ zone.status.lossOfSupervision = false) ∨
    ∀ zone ∈ d.zones, zone.id ≠ z

/-- No zone that the poll clears has an issue. -/
def NoStaleIssue (c : GC3Coordinator ν) (p : Poll ν) : Prop :=
  ∀ d, p.snapshot = some d → ∀ z, ClearedBy z d → ¬ c.HasIssue z

/-- The issue of the zone is in the registry, from before this coordinator. -/
def LeftOverIssue (c : GC3Coordinator ν) (z : String) : Prop :=
  c.HasIssue z ∧ z ∉ c.supervisionReported

/-- In the state before the poll, for each zone that it clears: no issue is left
over, unless the poll itself brings the zone to the threshold first; and fewer
lost entries than the threshold come after the zone's last healthy one. -/
def Clears (c : GC3Coordinator ν) (p : Poll ν) : Prop :=
  ∀ d, p.snapshot = some d → ∀ z, ClearedBy z d →
    (LeftOverIssue c z → ∃ pre, pre ≠ [] ∧ pre <+: flagsOf z d.zones ∧
      SUPERVISION_FAILURES_BEFORE_REPAIR ≤ Watch.lostRun (c.misses z) pre) ∧
    (flagsOf z d.zones ≠ [] →
      Watch.lostRun (c.misses z) (flagsOf z d.zones) < SUPERVISION_FAILURES_BEFORE_REPAIR)

theorem leftOverIssue_iff_watch (c : GC3Coordinator ν) (z : String) :
    LeftOverIssue c z ↔ (c.watch z).LeftOver := by
  unfold LeftOverIssue Watch.LeftOver
  rw [hasIssue_iff_watch, reported_iff_watch, Bool.not_eq_true]

/-- Whatever the coordinator has reported stands in the registry. -/
def ReportedStand (c : GC3Coordinator ν) : Prop :=
  ∀ z, (c.watch z).reported = true → (c.watch z).issue = true

/-- A fresh coordinator has reported nothing. -/
theorem reportedStand_init (entry : ConfigEntry) (registry : IssueRegistry ν) :
    ReportedStand (init entry registry) := by
  intro z h
  exact absurd h (by simp [watch, init])

/-- A poll raises what it reports, and a reload forgets it. -/
theorem ReportedStand.step {c : GC3Coordinator ν} (h : ReportedStand c) (s : EntryStep ν) :
    ReportedStand (entryStep c s) := by
  intro z
  rw [watch_entryStep]
  cases s with
  | poll p => exact Watch.issue_of_reported_step (h z) _
  | reload data options => exact fun hr => absurd hr Bool.false_ne_true

/-- One poll leaves no stale issue exactly when it clears what it should. -/
theorem noStaleIssue_asyncRefresh {c : GC3Coordinator ν} (h : ReportedStand c) (p : Poll ν) :
    NoStaleIssue (c.asyncRefresh p) p ↔ Clears c p := by
  unfold NoStaleIssue Clears
  refine forall₂_congr fun d hd => forall₂_congr fun z _ => ?_
  have hwatch : (c.asyncRefresh p).watch z = (c.watch z).poll (flagsOf z d.zones) := by
    rw [watch_asyncRefresh, Poll.flagsOf, hd]
    rfl
  have hmisses : (c.watch z).misses = c.misses z := rfl
  rw [hasIssue_iff_watch, hwatch, Watch.poll_issue_iff (h z), leftOverIssue_iff_watch, hmisses,
    not_or]
  push Not
  exact Iff.rfl

/-- **No stale issue across reloads, exactly when.** Over every run of polls and
reloads of one entry: each successful poll leaves no issue of a zone that it
lists without a loss or does not list, if and only if before each of them no
issue of such a zone was left over from an earlier coordinator (or the poll
itself reports it again first), and no such zone is lost again to the threshold
within the one list. -/
theorem noStaleIssue_iff (entry : ConfigEntry) (registry : IssueRegistry ν)
    (steps : List (EntryStep ν)) :
    (∀ pre p, pre ++ [.poll p] <+: steps →
        NoStaleIssue (Runs.run entryStep (init entry registry) (pre ++ [.poll p])) p) ↔
      ∀ pre p, pre ++ [.poll p] <+: steps →
        Clears (Runs.run entryStep (init entry registry) pre) p := by
  refine forall₂_congr fun pre p => forall_congr' fun _ => ?_
  have hstand : ReportedStand (Runs.run entryStep (init entry registry) pre) :=
    Runs.run_invariant (reportedStand_init entry registry) (fun _ s h => h.step s) pre
  rw [Runs.run_concat]
  exact noStaleIssue_asyncRefresh hstand p

/-- A poll that lists zone 1 alone, well supervised. -/
def healthyPoll : Poll String := .ofSnapshot ⟨.disarmed, [.bare "1" "Front Door" .quiet]⟩

/-- Zone 1 is lost for twenty polls, the entry is reloaded, and the zone is back. -/
def lossThenReload : List (EntryStep String) :=
  List.replicate 20 (.poll lostPoll) ++ [.reload [] []]

/-- The issue raised before the reload outlives the poll that shows the zone well. -/
theorem reload_leaves_stale_issue :
    ¬ ∀ pre p, pre ++ [.poll p] <+: lossThenReload ++ [.poll healthyPoll] →
      NoStaleIssue
        (Runs.run entryStep (init bareEntry IssueRegistry.empty) (pre ++ [.poll p])) p := by
  intro h
  have hstale := h lossThenReload healthyPoll List.prefix_rfl _ rfl "1"
    (Or.inl ⟨_, List.mem_singleton_self _, rfl, rfl⟩)
  refine hstale ((hasIssue_iff_watch _ _).mpr ?_)
  rw [Runs.run_simulation (GC3Coordinator.watch "1") (EntryStep.event "1") (watch_entryStep "1")]
  -- twenty losses, a reload, a healthy entry: the events zone 1 meets
  have hevents : (lossThenReload ++ [EntryStep.poll healthyPoll]).map (EntryStep.event "1") =
      List.replicate 20 (.poll (some [true])) ++ [.reload, .poll (some [false])] := rfl
  rw [hevents, watch_init]
  decide +kernel

end Gc3.Hass
