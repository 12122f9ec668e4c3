import Gc3.Hass.Core
import Gc3.Pygc3.Client

/-!
# `coordinator.py`

The coordinator as a value: the snapshot of the last good poll, the night flag, the
supervision counters and the issue registry it writes to. `asyncUpdateData` is the
method of that name, and `asyncRefresh` what the update coordinator does with its
result. A poll is given by what the two reads come to and by the order in which a set
happens to be iterated while it runs.

The runtime type `ν` of a zone's name is left open: nothing here looks at it.

The tail of a poll does three things to separate parts of the state, and the results at
the end say so once, field by field, for the modules that run polls: `asyncRefresh_data`
for the snapshot, `asyncRefresh_armedNight` for the night flag, and
`updateSupervisionIssues_same` for everything the supervision bookkeeping leaves alone.
What that bookkeeping does is the matter of `Gc3.Hass.Watch`. Whatever a poll read, a
failed one changes nothing but the success flag (`asyncRefresh_of_none`).
-/

namespace Gc3.Hass

open Gc3.Py Gc3.Pygc3

variable {ν : Type}

/-- Consecutive polls with `lossOfSupervision` before a repair issue is raised. -/
def SUPERVISION_FAILURES_BEFORE_REPAIR : Nat := 20

/-- It takes twenty of them. -/
theorem supervisionFailures_eq : SUPERVISION_FAILURES_BEFORE_REPAIR = 20 := rfl

/-! ## The snapshot -/

/-- Snapshot of one poll. -/
structure GC3Data (ν : Type) where
  status : PanelStatus
  zones : List (Zone ν)

/-- `{z.id: z for z in zones}`: of two zones with one id the later one stays. -/
def GC3Data.byId (d : GC3Data ν) : Dict String (Zone ν) :=
  d.zones.foldl (fun m z => m.insert z.id z) ∅

/-! ## The state map -/

inductive AlarmControlPanelState
  | disarmed
  | armedHome
  | armedAway
  | armedNight
  | arming
  | triggered
  deriving DecidableEq, Repr

/-- Derive the HA alarm state. -/
def mapAlarmState (status : PanelStatus) (zones : List (Zone ν)) (armedNight : Bool) :
    AlarmControlPanelState :=
  if zones.any (·.status.inAlarm) then .triggered
  else
    let state := status.armState
    if state = "armed" then
      if !status.isArmedStay then .armedAway
      else if armedNight then .armedNight else .armedHome
    else if state = "arming" then .arming
    else if inStr "alarm" state then .triggered
    else .disarmed

/-! ## The coordinator -/

structure GC3Coordinator (ν : Type) where
  configEntry : ConfigEntry
  data : Option (GC3Data ν)
  lastUpdateSuccess : Bool
  armedNight : Bool
  supervisionMisses : Dict String Nat
  supervisionReported : Finset String
  issueRegistry : IssueRegistry ν

/-- What one run of `_async_update_data` meets: the outcome of either read, and
the order in which a set is iterated. -/
structure Poll (ν : Type) where
  status : Except Raised PanelStatus
  zones : Except Raised (List (Zone ν))
  order : SetOrder String

/-- What `_async_update_data` raises. -/
inductive UpdateError
  | configEntryAuthFailed (message : String)
  | updateFailed (message : String)
  | other (err : Exc)

/-- The two `except` clauses; anything that is no `GC3Error` passes through. -/
def UpdateError.ofRaised : Raised → UpdateError
  | .gc3 (.auth message) => configEntryAuthFailed message
  | .gc3 err => updateFailed err.text
  | .py err => other err

namespace GC3Coordinator

/-- `GC3Coordinator(hass, entry, client, poll_interval)`, over an issue registry
that may already hold issues. -/
def init (entry : ConfigEntry) (registry : IssueRegistry ν) : GC3Coordinator ν where
  configEntry := entry
  data := none
  lastUpdateSuccess := true
  armedNight := false
  supervisionMisses := ∅
  supervisionReported := ∅
  issueRegistry := registry

/-! ### Supervision issues -/

def supervisionIssueId (c : GC3Coordinator ν) (zoneId : String) : String :=
  c.configEntry.entryId ++ "_supervision_" ++ zoneId

def clearSupervisionIssue (c : GC3Coordinator ν) (zoneId : String) : GC3Coordinator ν :=
  { c with
    supervisionReported := c.supervisionReported.erase zoneId
    issueRegistry := c.issueRegistry.asyncDeleteIssue (c.supervisionIssueId zoneId) }

/-- `self._supervision_misses.get(zone_id, 0)` -/
def misses (c : GC3Coordinator ν) (zoneId : String) : Nat :=
  (c.supervisionMisses.lookup zoneId).getD 0

/-- The counter half of the loop body. -/
def countMiss (c : GC3Coordinator ν) (zone : Zone ν) : GC3Coordinator ν :=
  { c with
    supervisionMisses :=
      if zone.status.lossOfSupervision then
        c.supervisionMisses.insert zone.id (c.misses zone.id + 1)
      else c.supervisionMisses.erase zone.id }

/-- Mark the zone reported and create its issue. -/
def raiseSupervisionIssue (c : GC3Coordinator ν) (zone : Zone ν) : GC3Coordinator ν :=
  { c with
    supervisionReported := insert zone.id c.supervisionReported
    issueRegistry := c.issueRegistry.asyncCreateIssue (c.supervisionIssueId zone.id)
      { isFixable := false
        severity := .warning
        translationKey := "zone_supervision_lost"
        zone := zone.name } }

def overThreshold (c : GC3Coordinator ν) (zoneId : String) : Bool :=
  SUPERVISION_FAILURES_BEFORE_REPAIR ≤ c.misses zoneId

/-- One iteration of the loop over `zones`. -/
def superviseZone (c : GC3Coordinator ν) (zone : Zone ν) : GC3Coordinator ν :=
  let c := c.countMiss zone
  if c.overThreshold zone.id ∧ zone.id ∉ c.supervisionReported then c.raiseSupervisionIssue zone
  else if ¬ c.overThreshold zone.id ∧ zone.id ∈ c.supervisionReported then
    c.clearSupervisionIssue zone.id
  else c

/-- Raise/clear a repair issue for zones the panel has stopped hearing from. -/
def updateSupervisionIssues (c : GC3Coordinator ν) (order : SetOrder String)
    (zones : List (Zone ν)) : GC3Coordinator ν :=
  let present := (zones.map (·.id)).toFinset
  let c := zones.foldl superviseZone c
  (order.list (c.supervisionReported \ present)).foldl clearSupervisionIssue c

/-! ### Polling -/

/-- Drop the night flag whenever the panel is no longer armed/arming. -/
def dropNight (c : GC3Coordinator ν) (status : PanelStatus) : GC3Coordinator ν :=
  if status.armState = "armed" ∨ status.armState = "arming" then c
  else { c with armedNight := false }

/-- The part of `_async_update_data` after both reads have returned. -/
def finishUpdate (c : GC3Coordinator ν) (order : SetOrder String) (status : PanelStatus)
    (zones : List (Zone ν)) : GC3Data ν × GC3Coordinator ν :=
  (⟨status, zones⟩, (c.dropNight status).updateSupervisionIssues order zones)

def asyncUpdateData (c : GC3Coordinator ν) (p : Poll ν) :
    Except UpdateError (GC3Data ν × GC3Coordinator ν) := do
  let status ← p.status.mapError .ofRaised
  let zones ← p.zones.mapError .ofRaised
  return c.finishUpdate p.order status zones

/-- The update coordinator stores what a good poll returned. -/
def store (r : GC3Data ν × GC3Coordinator ν) : GC3Coordinator ν :=
  { r.2 with data := some r.1, lastUpdateSuccess := true }

/-- One refresh: a failed poll leaves the snapshot as it was. -/
def asyncRefresh (c : GC3Coordinator ν) (p : Poll ν) : GC3Coordinator ν :=
  match c.asyncUpdateData p with
  | .ok r => store r
  | .error _ => { c with lastUpdateSuccess := false }

/-! ### The night flag -/

/-- Record that we issued an arm, so armed_night can be reported. -/
def noteArm (c : GC3Coordinator ν) (night : Bool) : GC3Coordinator ν :=
  { c with armedNight := night }

/-- Current HA alarm state, or none before the first successful poll. -/
def alarmState (c : GC3Coordinator ν) : Option AlarmControlPanelState :=
  c.data.map fun d => mapAlarmState d.status d.zones c.armedNight

/-! ### What a refresh comes to -/

@[simp] theorem dropNight_configEntry (c : GC3Coordinator ν) (st : PanelStatus) :
    (c.dropNight st).configEntry = c.configEntry := by
  unfold dropNight
  split <;> rfl

/-- The supervision pass touches its own three stores and nothing else. -/
structure SameButSupervision (c c' : GC3Coordinator ν) : Prop where
  configEntry : c'.configEntry = c.configEntry
  data : c'.data = c.data
  lastUpdateSuccess : c'.lastUpdateSuccess = c.lastUpdateSuccess
  armedNight : c'.armedNight = c.armedNight

theorem SameButSupervision.refl (c : GC3Coordinator ν) : SameButSupervision c c :=
  ⟨rfl, rfl, rfl, rfl⟩

theorem SameButSupervision.trans {a b c : GC3Coordinator ν} (hab : SameButSupervision a b)
    (hbc : SameButSupervision b c) : SameButSupervision a c :=
  ⟨hbc.configEntry.trans hab.configEntry, hbc.data.trans hab.data,
    hbc.lastUpdateSuccess.trans hab.lastUpdateSuccess, hbc.armedNight.trans hab.armedNight⟩

/-- One zone's supervision touches its counter, its issue and nothing else. -/
theorem superviseZone_same (c : GC3Coordinator ν) (zone : Zone ν) :
    SameButSupervision c (c.superviseZone zone) := by
  unfold superviseZone
  dsimp only
  split
  · exact ⟨rfl, rfl, rfl, rfl⟩
  · split
    · exact ⟨rfl, rfl, rfl, rfl⟩
    · exact ⟨rfl, rfl, rfl, rfl⟩

/-- And so does that of a whole list, with what is cleared for zones gone. -/
theorem updateSupervisionIssues_same (c : GC3Coordinator ν) (order : SetOrder String)
    (zones : List (Zone ν)) : SameButSupervision c (c.updateSupervisionIssues order zones) := by
  unfold updateSupervisionIssues
  refine List.foldlRecOn _ _ (List.foldlRecOn zones _ (SameButSupervision.refl c) ?_) ?_
  · intro b hb zone _
    exact hb.trans (superviseZone_same b zone)
  · intro b hb zoneId _
    exact hb.trans ⟨rfl, rfl, rfl, rfl⟩

end GC3Coordinator

/-- The poll that brings this snapshot. -/
def Poll.ofSnapshot (d : GC3Data ν) : Poll ν := ⟨.ok d.status, .ok d.zones, .ascending String⟩

/-- What a poll delivers when both reads succeed. -/
def Poll.snapshot (p : Poll ν) : Option (GC3Data ν) :=
  match p.status, p.zones with
  | .ok status, .ok zones => some ⟨status, zones⟩
  | _, _ => none

theorem Poll.snapshot_eq_some {p : Poll ν} {d : GC3Data ν} :
    p.snapshot = some d ↔ p.status = .ok d.status ∧ p.zones = .ok d.zones := by
  unfold Poll.snapshot
  constructor
  · intro h
    split at h
    next status zones hstatus hzones =>
      rw [hstatus, hzones, ← Option.some.inj h]
      exact ⟨rfl, rfl⟩
    next => exact absurd h (by simp)
  · intro ⟨hstatus, hzones⟩
    rw [hstatus, hzones]

namespace GC3Coordinator

/-- A good poll runs the tail of `_async_update_data` and stores its snapshot. -/
theorem asyncRefresh_of_some {p : Poll ν} {d : GC3Data ν} (h : p.snapshot = some d)
    (c : GC3Coordinator ν) :
    c.asyncRefresh p = store (c.finishUpdate p.order d.status d.zones) := by
  unfold Poll.snapshot at h
  unfold asyncRefresh asyncUpdateData
  split at h
  next status zones hstatus hzones =>
    rw [hstatus, hzones, ← Option.some.inj h]
    rfl
  next => exact absurd h (by simp)

/-- A failed poll changes nothing but the success flag. -/
theorem asyncRefresh_of_none {p : Poll ν} (h : p.snapshot = none) (c : GC3Coordinator ν) :
    c.asyncRefresh p = { c with lastUpdateSuccess := false } := by
  unfold Poll.snapshot at h
  unfold asyncRefresh asyncUpdateData
  cases hstatus : p.status with
  | error err => rfl
  | ok status =>
    cases hzones : p.zones with
    | error err => rfl
    | ok zones => simp [hstatus, hzones] at h

@[simp] theorem asyncRefresh_configEntry (c : GC3Coordinator ν) (p : Poll ν) :
    (c.asyncRefresh p).configEntry = c.configEntry := by
  cases h : p.snapshot with
  | none => rw [asyncRefresh_of_none h]
  | some d =>
    rw [asyncRefresh_of_some h]
    exact (updateSupervisionIssues_same _ _ _).configEntry.trans (dropNight_configEntry _ _)

/-- The snapshot after a refresh: the poll's own, or the one before. -/
theorem asyncRefresh_data (c : GC3Coordinator ν) (p : Poll ν) :
    (c.asyncRefresh p).data = p.snapshot.or c.data := by
  cases h : p.snapshot with
  | none => rw [asyncRefresh_of_none h]; rfl
  | some d => rw [asyncRefresh_of_some h]; rfl

@[simp] theorem asyncRefresh_lastUpdateSuccess (c : GC3Coordinator ν) (p : Poll ν) :
    (c.asyncRefresh p).lastUpdateSuccess = p.snapshot.isSome := by
  cases h : p.snapshot with
  | none => rw [asyncRefresh_of_none h]; rfl
  | some d => rw [asyncRefresh_of_some h]; rfl

/-- The tail of a poll drops the night flag when the status it has read is neither
`armed` nor `arming`, and leaves it alone otherwise. -/
theorem finishUpdate_armedNight (c : GC3Coordinator ν) (order : SetOrder String)
    (status : PanelStatus) (zones : List (Zone ν)) :
    (store (c.finishUpdate order status zones)).armedNight =
      if status.armState = "armed" ∨ status.armState = "arming" then c.armedNight else false := by
  refine (updateSupervisionIssues_same _ _ _).armedNight.trans ?_
  unfold dropNight
  split
  · rfl
  · rfl

/-- The night flag after a refresh: a failed poll leaves it alone. -/
theorem asyncRefresh_armedNight (c : GC3Coordinator ν) (p : Poll ν) :
    (c.asyncRefresh p).armedNight =
      match p.snapshot with
      | none => c.armedNight
      | some d =>
        if d.status.armState = "armed" ∨ d.status.armState = "arming" then c.armedNight
        else false := by
  cases h : p.snapshot with
  | none => rw [asyncRefresh_of_none h]
  | some d =>
    rw [asyncRefresh_of_some h]
    exact finishUpdate_armedNight c p.order d.status d.zones

end GC3Coordinator

end Gc3.Hass
