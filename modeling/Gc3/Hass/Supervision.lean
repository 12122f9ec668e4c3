import Gc3.Hass.BinarySensor
import Gc3.Hass.Watch
import Gc3.Lib.Streak

/-!
# Supervision issues over one lifetime

What a run of polls leaves in the counters, the reported set and the issue registry,
read off the refinement to `Watch`.

* `supervision_bookkeeping` — the three stores agree after any polls at all: issues,
  reported set and overdue counters name the same zones, each of them was lost in the
  last entry of the latest list, and the calls about each issue alternate.
* `hasIssue_iff_streak_iff` — an issue stands for twenty consecutive bad polls, exactly
  as long as no absence splits a bad spell: the counter of a zone the panel does not
  list is kept, not reset.

The first keeps `Settled` through the run, poll by poll (`Settled.refresh`), which next
to the soundness of the zone's `Watch` has what the latest list says of the zone. The
second compares the counter with the definition of a streak: `Counted` relates the watch
to the list of readings so far, whose tally is a fact of `Gc3.Lib.Streak` about any such
list, and `lostForLast_iff` reads the specification off the same list.
-/

namespace Gc3.Hass

open Gc3.Py Gc3.Pygc3 Alternation Streak
open GC3Coordinator

variable {ν : Type}

/-- The `zone_supervision_lost` issue of the zone is in the registry. -/
def GC3Coordinator.HasIssue (c : GC3Coordinator ν) (z : String) : Prop :=
  c.supervisionIssueId z ∈ c.issueRegistry.issues

/-- An issue of a zone is the issue of its watch. -/
theorem hasIssue_iff_watch (c : GC3Coordinator ν) (z : String) :
    c.HasIssue z ↔ (c.watch z).issue = true := by
  unfold HasIssue watch
  rw [decide_eq_true_iff]

/-! ## The stores agree -/

/-- The zones of the latest good poll. -/
def GC3Coordinator.latest (c : GC3Coordinator ν) : List (Zone ν) :=
  (c.data.map GC3Data.zones).getD []

/-- The latest list is the poll's own, if it brought one. -/
theorem latest_asyncRefresh (c : GC3Coordinator ν) (p : Poll ν) :
    (c.asyncRefresh p).latest = (p.snapshot.map GC3Data.zones).getD c.latest := by
  unfold latest
  rw [asyncRefresh_data]
  cases p.snapshot <;> rfl

/-- What the zone's watch says of the latest list. -/
structure Settled (z : String) (c : GC3Coordinator ν) : Prop where
  reported_iff : (c.watch z).reported = true ↔
    flagsOf z c.latest ≠ [] ∧ SUPERVISION_FAILURES_BEFORE_REPAIR ≤ c.misses z
  last : (c.watch z).reported = true → (flagsOf z c.latest).getLast? = some true

/-- Before any poll there is nothing to disagree about. -/
theorem settled_init (entry : ConfigEntry) (z : String) :
    Settled z (init entry (IssueRegistry.empty : IssueRegistry ν)) where
  reported_iff := ⟨fun h => absurd h (by simp [watch, init]), fun h => absurd rfl h.1⟩
  last := fun h => absurd h (by simp [watch, init])

/-- A poll settles the zone: what its watch reports is what the list just read shows
last. -/
theorem Settled.refresh {z : String} {c : GC3Coordinator ν} (h : Settled z c) (p : Poll ν) :
    Settled z (c.asyncRefresh p) := by
  have hwatch := watch_asyncRefresh z c p
  have hlatest := latest_asyncRefresh c p
  cases hp : p.snapshot with
  | none =>
    -- a failed poll leaves both sides of every clause alone
    have hmisses : (c.asyncRefresh p).misses z = c.misses z := by
      rw [asyncRefresh_of_none hp]
      rfl
    rw [Poll.flagsOf, hp] at hwatch
    rw [hp] at hlatest
    refine ⟨?_, ?_⟩
    · rw [hwatch, hlatest, hmisses]
      exact h.reported_iff
    · rw [hwatch, hlatest]
      exact h.last
  | some d =>
    rw [Poll.flagsOf, hp] at hwatch
    rw [hp] at hlatest
    have hpoll : (c.asyncRefresh p).watch z = (c.watch z).poll (flagsOf z d.zones) := hwatch
    have hzones : (c.asyncRefresh p).latest = d.zones := hlatest
    refine ⟨?_, ?_⟩
    · have hmisses : (c.asyncRefresh p).misses z = ((c.asyncRefresh p).watch z).misses := rfl
      rw [hmisses, hpoll, hzones]
      by_cases hnil : flagsOf z d.zones = []
      · simp [hnil]
      · rw [Watch.poll_reported hnil, decide_eq_true_iff]
        exact ⟨fun hle => ⟨hnil, hle⟩, fun hle => hle.2⟩
    · intro hrep
      rw [hpoll] at hrep
      rw [hzones]
      exact Watch.getLast?_of_reported hrep

/-- Settled it is after any polls. -/
theorem settled_run (entry : ConfigEntry) (z : String) (polls : List (Poll ν)) :
    Settled z (Runs.run asyncRefresh (init entry IssueRegistry.empty) polls) :=
  Runs.run_invariant (settled_init entry z) (fun _ p h => h.refresh p) polls

/-- The last entry of a zone in a list, from its last flag. -/
theorem exists_last_entry {z : String} {zones : List (Zone ν)} {lost : Bool}
    (h : (flagsOf z zones).getLast? = some lost) :
    ∃ zone, (zones.filter (·.id = z)).getLast? = some zone ∧
      zone.status.lossOfSupervision = lost := by
  unfold flagsOf at h
  rw [List.getLast?_map] at h
  obtain ⟨zone, hzone, hlost⟩ := Option.map_eq_some_iff.mp h
  exact ⟨zone, hzone, hlost⟩

/-- **Supervision bookkeeping never drifts.** After any polls from an empty
registry: issues, reported set and overdue counters of listed zones name the same
zones; the last entry of each of them shows the loss, so that the health sensor
is on and names it; and the calls about each issue alternate, creation first. -/
theorem supervision_bookkeeping (entry : ConfigEntry) (polls : List (Poll ν)) :
    let c := Runs.run asyncRefresh (init entry IssueRegistry.empty) polls
    (∀ z, c.HasIssue z ↔ z ∈ c.supervisionReported) ∧
      (∀ z, z ∈ c.supervisionReported ↔
        z ∈ c.latest.map (·.id) ∧ SUPERVISION_FAILURES_BEFORE_REPAIR ≤ c.misses z) ∧
      (∀ z ∈ c.supervisionReported, ∃ zone,
        (c.latest.filter (·.id = z)).getLast? = some zone ∧
          zone.status.lossOfSupervision = true ∧
          supervisionLost.isOn c.data = some true ∧
          zone.name ∈ supervisionLost.affectedZones c.data) ∧
      ∀ z, Alternates (c.issueRegistry.callsAbout (c.supervisionIssueId z)) := by
  intro c
  have hsettled : ∀ z, Settled z c := fun z => settled_run entry z polls
  -- at each zone the run is a run of its own watch, from a fresh start
  have hsound : ∀ z, (c.watch z).Sound := by
    intro z
    rw [watch_run, watch_init]
    exact Watch.sound_run _
  refine ⟨?_, ?_, ?_, ?_⟩
  · intro z
    rw [hasIssue_iff_watch, reported_iff_watch, (hsound z).issue_eq]
  · intro z
    rw [reported_iff_watch, (hsettled z).reported_iff, ne_eq, flagsOf_eq_nil_iff, not_not,
      List.mem_toFinset]
  · intro z hz
    have hlast := (hsettled z).last ((reported_iff_watch c z).mp hz)
    obtain ⟨zone, hzone, hlost⟩ := exists_last_entry hlast
    have hmem : zone ∈ c.latest := List.mem_of_mem_filter (List.mem_of_getLast? hzone)
    -- a listed zone means a snapshot to read it from
    obtain ⟨d, hd⟩ : ∃ d, c.data = some d := by
      cases hdata : c.data with
      | none =>
        unfold latest at hmem
        rw [hdata] at hmem
        exact absurd hmem (by simp)
      | some d => exact ⟨d, rfl⟩
    have hzones : zone ∈ d.zones := by
      unfold latest at hmem
      rw [hd] at hmem
      exact hmem
    rw [hd]
    exact ⟨zone, hzone, hlost, supervisionLost.isOn_of_mem hzones hlost⟩
  · intro z
    exact (hsound z).alternates

/-- A poll that lists zone 1 alone, with its supervision lost. -/
def lostPoll : Poll String :=
  .ofSnapshot ⟨.disarmed,
    [.bare "1" "Front Door" { ZoneStatus.quiet with lossOfSupervision := true }]⟩

/-- A coordinator that has seen zone 1 lost in twenty polls on end. -/
def afterLoss : GC3Coordinator String :=
  Runs.run asyncRefresh (init bareEntry IssueRegistry.empty) (List.replicate 20 lostPoll)

/-- There the issue stands, and the reported set, the counter and the health sensor say
the same. -/
theorem loss_on_every_store :
    afterLoss.HasIssue "1" ∧ "1" ∈ afterLoss.supervisionReported ∧ 20 ≤ afterLoss.misses "1" ∧
      supervisionLost.isOn afterLoss.data = some true := by
  have hflags : lostPoll.flagsOf "1" = some [true] := by decide
  have hwatch : (afterLoss.watch "1").reported = true := by
    unfold afterLoss
    rw [watch_run, watch_init, List.map_replicate, hflags]
    decide +kernel
  have hstores := supervision_bookkeeping bareEntry (List.replicate 20 lostPoll)
  rw [← afterLoss] at hstores
  generalize afterLoss = c at hwatch hstores ⊢
  obtain ⟨hissue, hreported, hshown, -⟩ := hstores
  have hmem : "1" ∈ c.supervisionReported := (reported_iff_watch c "1").mpr hwatch
  obtain ⟨_, _, _, hon, _⟩ := hshown "1" hmem
  exact ⟨(hissue "1").mpr hmem, hmem, ((hreported "1").mp hmem).2, hon⟩

/-! ## Twenty consecutive bad polls -/

/-- The snapshots of the successful polls, oldest first. -/
def snapshots (polls : List (Poll ν)) : List (GC3Data ν) := polls.filterMap Poll.snapshot

/-- The poll, if it succeeds, lists no id twice. -/
def Poll.DistinctIds (p : Poll ν) : Prop := ∀ d, p.snapshot = some d → (d.zones.map (·.id)).Nodup

/-- The list shows the zone, with its supervision lost. -/
def ListedLost (z : String) (d : GC3Data ν) : Prop :=
  ∃ zone ∈ d.zones, zone.id = z ∧ zone.status.lossOfSupervision = true

/-- There have been `n` successful polls, and the latest `n` all list the zone as lost. -/
def LostForLast (n : Nat) (z : String) (polls : List (Poll ν)) : Prop :=
  n ≤ (snapshots polls).length ∧ ∀ d ∈ (snapshots polls).reverse.take n, ListedLost z d

/-- One successful poll as a reading of the zone. -/
def listing (z : String) (d : GC3Data ν) : Sample :=
  match flagsOf z d.zones with
  | [] => .missing
  | lost :: _ => if lost then .bad else .good

/-- All successful polls as readings of the zone, oldest first. -/
def listings (z : String) (polls : List (Poll ν)) : List Sample :=
  (snapshots polls).map (listing z)

/-- A list without repeated ids shows a zone at most once. -/
theorem flagsOf_of_nodup (z : String) {d : GC3Data ν} (h : (d.zones.map (·.id)).Nodup) :
    flagsOf z d.zones = [] ∨ ∃ lost, flagsOf z d.zones = [lost] := by
  have hlen : (flagsOf z d.zones).length ≤ 1 := by
    have hcount := List.nodup_iff_count_le_one.mp h z
    unfold flagsOf
    rw [List.length_map, ← List.countP_eq_length_filter]
    rw [List.count, List.countP_map] at hcount
    exact hcount
  cases hf : flagsOf z d.zones with
  | nil => exact Or.inl rfl
  | cons lost rest =>
    rw [hf] at hlen
    have hrest : rest = [] := List.eq_nil_of_length_eq_zero (by simpa using hlen)
    exact Or.inr ⟨lost, by rw [hrest]⟩

/-- A zone is listed as lost when one of its entries says so. -/
theorem listedLost_iff (z : String) (d : GC3Data ν) :
    ListedLost z d ↔ true ∈ flagsOf z d.zones := by
  unfold ListedLost flagsOf
  simp [and_assoc]

/-- With distinct ids a reading is bad when the zone is listed as lost. -/
theorem listing_eq_bad_iff (z : String) {d : GC3Data ν} (h : (d.zones.map (·.id)).Nodup) :
    listing z d = .bad ↔ ListedLost z d := by
  rw [listedLost_iff]
  unfold listing
  rcases flagsOf_of_nodup z h with hf | ⟨lost, hf⟩
  · simp [hf]
  · cases lost <;> simp [hf]

/-- The state of a zone's watch after the readings `ms`, latest first: the counter
is their tally, and the zone is reported when the last of them brought that to
the threshold or found it there. -/
structure Counted (ms : List Sample) (w : Watch) : Prop where
  misses_eq : w.misses = tally ms
  reported_iff : w.reported = true ↔
    ms.head? = some .bad ∧ SUPERVISION_FAILURES_BEFORE_REPAIR ≤ tally ms
  issue_eq : w.issue = w.reported

/-- One more list, one more reading: the counter goes on, starts over or, for a zone not
listed, stays. -/
theorem Counted.listed {z : String} {ms : List Sample} {w : Watch} (h : Counted ms w)
    {d : GC3Data ν} (hd : (d.zones.map (·.id)).Nodup) :
    Counted (listing z d :: ms) (w.poll (flagsOf z d.zones)) := by
  have hissue := Watch.issue_eq_step h.issue_eq (some (flagsOf z d.zones))
  unfold listing
  rcases flagsOf_of_nodup z hd with hf | ⟨lost, hf⟩
  · rw [hf] at hissue ⊢
    exact ⟨by simpa using h.misses_eq, by simp, hissue⟩
  · rw [hf] at hissue ⊢
    refine ⟨?_, ?_, hissue⟩
    · cases lost <;> simp [h.misses_eq]
    · rw [Watch.poll_reported (by simp), decide_eq_true_iff]
      cases lost <;> simp [h.misses_eq, supervisionFailures_eq]

/-- What a run of polls counts is the tally of its listings. -/
theorem counted_run {z : String} {c : GC3Coordinator ν} (h : Counted [] (c.watch z))
    {polls : List (Poll ν)} (hdistinct : ∀ p ∈ polls, p.DistinctIds) :
    Counted (listings z polls).reverse ((Runs.run asyncRefresh c polls).watch z) := by
  induction polls using List.reverseRecOn with
  | nil => exact h
  | append_singleton polls p ih =>
    have hrun := ih fun q hq => hdistinct q (List.mem_append_left _ hq)
    rw [Runs.run_concat, watch_asyncRefresh, Poll.flagsOf]
    unfold listings snapshots at hrun ⊢
    rw [List.filterMap_append]
    cases hp : p.snapshot with
    | none => simpa [hp] using hrun
    | some d =>
      have hd := hdistinct p (List.mem_append_right _ (List.mem_singleton_self p)) d hp
      simpa [hp] using hrun.listed hd

/-- The specification, on the readings: the latest `n` of them are all bad. -/
theorem lostForLast_iff {n : Nat} {z : String} {polls : List (Poll ν)}
    (hdistinct : ∀ p ∈ polls, p.DistinctIds) :
    LostForLast n z polls ↔ n ≤ streak (listings z polls).reverse := by
  rw [le_streak_iff]
  unfold LostForLast listings
  rw [List.length_reverse, List.length_map, ← List.map_reverse, ← List.map_take,
    List.forall_mem_map]
  have hlisted : ∀ d ∈ (snapshots polls).reverse.take n,
      (ListedLost z d ↔ listing z d = .bad) := by
    intro d hd
    have hmem : d ∈ snapshots polls := List.mem_reverse.mp (List.mem_of_mem_take hd)
    obtain ⟨p, hp, hsnap⟩ := List.mem_filterMap.mp hmem
    exact (listing_eq_bad_iff z (hdistinct p hp d hsnap)).symm
  exact and_congr_right fun _ => forall₂_congr hlisted

/-- **An issue stands for twenty consecutive bad polls**, in every state of a run
of polls, exactly when the run's listings of the zone have no split streak: no
absence of the zone between bad listings that make twenty only together. -/
theorem hasIssue_iff_streak_iff (entry : ConfigEntry) (registry : IssueRegistry ν)
    (hclean : ∀ z, ¬ (init entry registry).HasIssue z) (polls : List (Poll ν))
    (hdistinct : ∀ p ∈ polls, p.DistinctIds) (z : String) :
    (∀ pre, pre <+: polls →
        ((Runs.run asyncRefresh (init entry registry) pre).HasIssue z ↔
          LostForLast SUPERVISION_FAILURES_BEFORE_REPAIR z pre)) ↔
      ¬ SplitStreak SUPERVISION_FAILURES_BEFORE_REPAIR (listings z polls) := by
  have hstart : Counted [] ((init entry registry).watch z) :=
    ⟨rfl, by simp [watch, init], decide_eq_false (hclean z)⟩
  have hpre : ∀ pre, pre <+: polls →
      (((Runs.run asyncRefresh (init entry registry) pre).HasIssue z ↔
          LostForLast SUPERVISION_FAILURES_BEFORE_REPAIR z pre) ↔
        ((listings z pre).reverse.head? = some .bad ∧
            SUPERVISION_FAILURES_BEFORE_REPAIR ≤ tally (listings z pre).reverse ↔
          SUPERVISION_FAILURES_BEFORE_REPAIR ≤ streak (listings z pre).reverse)) := by
    intro pre hpre
    have hd : ∀ p ∈ pre, p.DistinctIds := fun p hp => hdistinct p (hpre.subset hp)
    have hcounted := counted_run hstart hd
    rw [hasIssue_iff_watch, hcounted.issue_eq, hcounted.reported_iff, lostForLast_iff hd]
  rw [← tally_alarm_iff_streak (by decide)]
  constructor
  · intro h ms hms
    -- a prefix of the listings is the listings of a prefix
    obtain ⟨ds, hds, rfl⟩ := List.prefix_map_iff.mp hms
    obtain ⟨pre, hp', rfl⟩ := List.prefix_filterMap_iff.mp hds
    exact (hpre pre hp').mp (h pre hp')
  · intro h pre hp
    exact (hpre pre hp).mpr (h _ ((List.IsPrefix.filterMap _ hp).map _))

/-- A poll that lists no zone. -/
def emptyPoll : Poll String := .ofSnapshot ⟨.disarmed, []⟩

/-- The two polls of the examples list at most one zone. -/
theorem distinctIds_of_mem {polls : List (Poll String)}
    (h : ∀ p ∈ polls, p = lostPoll ∨ p = emptyPoll) : ∀ p ∈ polls, p.DistinctIds := by
  intro p hp d hd
  rcases h p hp with rfl | rfl
  · obtain rfl := Option.some.inj hd
    simp
  · obtain rfl := Option.some.inj hd
    simp

/-- After twenty-five lost listings on end the issue stands. -/
theorem hasIssue_of_unbroken_loss :
    (Runs.run asyncRefresh (init bareEntry IssueRegistry.empty)
      (List.replicate 25 lostPoll)).HasIssue "1" := by
  have hdistinct : ∀ p ∈ List.replicate 25 lostPoll, p.DistinctIds :=
    distinctIds_of_mem fun p hp => Or.inl (List.eq_of_mem_replicate hp)
  have hlistings : listings "1" (List.replicate 25 lostPoll) = List.replicate 25 .bad := by decide
  have hiff := (hasIssue_iff_streak_iff bareEntry .empty (fun z => by simp [HasIssue, init]) _
    hdistinct "1").mpr (by
      rw [hlistings]
      intro ⟨before, k, ⟨older, newer, hinfix⟩, _⟩
      -- a split streak has a gap in it
      have hmissing : Sample.missing ∈ List.replicate 25 Sample.bad := by
        rw [← hinfix]
        simp
      exact absurd hmissing (by decide))
  refine (hiff _ List.prefix_rfl).mpr ((lostForLast_iff hdistinct).mpr ?_)
  rw [hlistings]
  decide

/-- Nineteen lost listings, one list without the zone, one more lost listing. -/
def gapPolls : List (Poll String) := List.replicate 19 lostPoll ++ [emptyPoll, lostPoll]

/-- After these the issue is raised, though the zone was not listed as lost in
all of the latest twenty polls. -/
theorem gap_raises_issue :
    ¬ ∀ pre, pre <+: gapPolls →
      ((Runs.run asyncRefresh (init bareEntry IssueRegistry.empty) pre).HasIssue "1" ↔
        LostForLast SUPERVISION_FAILURES_BEFORE_REPAIR "1" pre) := by
  intro h
  have hdistinct : ∀ p ∈ gapPolls, p.DistinctIds := by
    refine distinctIds_of_mem fun p hp => ?_
    unfold gapPolls at hp
    simp only [List.mem_append, List.mem_replicate, List.mem_cons, List.not_mem_nil] at hp
    tauto
  have hlistings : listings "1" gapPolls = List.replicate 19 .bad ++ [.missing, .bad] := by decide
  have hcounted := counted_run (z := "1") (c := init bareEntry IssueRegistry.empty)
    ⟨rfl, by simp [watch, init], rfl⟩ hdistinct
  have hissue := h gapPolls List.prefix_rfl
  rw [hasIssue_iff_watch, hcounted.issue_eq, hcounted.reported_iff, lostForLast_iff hdistinct,
    hlistings] at hissue
  exact absurd hissue (by decide)

end Gc3.Hass
