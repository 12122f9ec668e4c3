import Gc3.Hass.Interleave

/-!
# Where a state comes from, however polls and commands interleave

`nightKept_iff` says when a night arm may be lost. The other way round nothing is made
up: over every interleaving the snapshot in use is of one poll, its status what the
panel stood at when that poll asked for it and its zones what it had when it asked for
those (`snapshot_read`); and `armed_night` is shown exactly when that snapshot allows it
and the last command to be noted was a night arm, with no poll completed since that had
read a panel neither armed nor arming (`shown_armedNight_iff`).

The first is an invariant on positions in the run. `StatusRead`, `ZonesRead` and
`Completed` say that the list of moves splits at the move in question, with nothing in
between that would spoil it, and `ReadOff` that what the poll in flight has read, and
what is stored, have such splits; each move either extends one (`.within`, `.since`) or
makes the next out of it.

The second needs the moves told apart only as far as the label is concerned, so they are
first mapped to `Event`s (a poll completed, a command noted, or neither), and `Labelled`
is then the invariant of the sequential runs of `Gc3.Hass.NightFlag`, once more.
-/

namespace Gc3.Hass

open Gc3.Py Gc3.Pygc3 Runs Past

variable {ν : Type}

/-! ## The snapshot -/

/-- A poll began in these moves, and its status was `status`. -/
def StatusRead (s0 : Sys ν) (moves : List (Move ν)) (status : PanelStatus) : Prop :=
  ∃ before within s, moves = before ++ .pollStatus :: within ∧
    exec move s0 before = some s ∧ s.panel.status = status ∧ ∀ m ∈ within, m.WithinPoll

/-- And read the zones of the panel as it stood later on. -/
def ZonesRead (s0 : Sys ν) (moves : List (Move ν)) (d : GC3Data ν) : Prop :=
  ∃ before within s, moves = before ++ .pollZones :: within ∧ exec move s0 before = some s ∧
    StatusRead s0 before d.status ∧ s.panel.zones = d.zones ∧ ∀ m ∈ within, m.WithinPoll

/-- And was completed, the last poll to be so. -/
def Completed (s0 : Sys ν) (moves : List (Move ν)) (d : GC3Data ν) : Prop :=
  ∃ before order after, moves = before ++ .pollTail order :: after ∧ ZonesRead s0 before d ∧
    ∀ order, .pollTail order ∉ after

/-- What the poll in flight has read, and what is stored, was read off the panel. -/
structure ReadOff (s0 : Sys ν) (moves : List (Move ν)) (s : Sys ν) : Prop where
  statusRead : ∀ status, s.poll = .statusRead status → StatusRead s0 moves status
  zonesRead : ∀ status zones, s.poll = .zonesRead status zones → ZonesRead s0 moves ⟨status, zones⟩
  stored : ∀ d, s.coordinator.data = some d → Completed s0 moves d

theorem StatusRead.within {s0 : Sys ν} {moves : List (Move ν)} {status : PanelStatus}
    (h : StatusRead s0 moves status) {m : Move ν} (hm : m.WithinPoll) :
    StatusRead s0 (moves ++ [m]) status := by
  obtain ⟨before, within, s, rfl, hexec, hstatus, hwithin⟩ := h
  refine ⟨before, within ++ [m], s, by simp, hexec, hstatus, fun m' hm' => ?_⟩
  rcases List.mem_append.mp hm' with hm' | hm'
  · exact hwithin m' hm'
  · rw [List.mem_singleton.mp hm']
    exact hm

theorem ZonesRead.within {s0 : Sys ν} {moves : List (Move ν)} {d : GC3Data ν}
    (h : ZonesRead s0 moves d) {m : Move ν} (hm : m.WithinPoll) :
    ZonesRead s0 (moves ++ [m]) d := by
  obtain ⟨before, within, s, rfl, hexec, hstatus, hzones, hwithin⟩ := h
  refine ⟨before, within ++ [m], s, by simp, hexec, hstatus, hzones, fun m' hm' => ?_⟩
  rcases List.mem_append.mp hm' with hm' | hm'
  · exact hwithin m' hm'
  · rw [List.mem_singleton.mp hm']
    exact hm

/-- A poll completed stays the last while no other tail runs. -/
theorem Completed.since {s0 : Sys ν} {moves : List (Move ν)} {d : GC3Data ν}
    (h : Completed s0 moves d) {m : Move ν} (hm : ∀ order, m ≠ .pollTail order) :
    Completed s0 (moves ++ [m]) d := by
  obtain ⟨before, order, after, rfl, hzones, hafter⟩ := h
  refine ⟨before, order, after ++ [m], by simp, hzones, fun order' hmem => ?_⟩
  rcases List.mem_append.mp hmem with hmem | hmem
  · exact hafter order' hmem
  · exact hm order' (List.mem_singleton.mp hmem).symm

/-- A move that neither reads nor ends a poll, and stores nothing, keeps what has been
read. -/
theorem ReadOff.aside {s0 s t : Sys ν} {moves : List (Move ν)} {m : Move ν}
    (h : ReadOff s0 moves s) (hwithin : m.WithinPoll) (hpoll : t.poll = s.poll)
    (hdata : t.coordinator.data = s.coordinator.data) : ReadOff s0 (moves ++ [m]) t where
  statusRead := fun status hstatus => (h.statusRead status (hpoll ▸ hstatus)).within hwithin
  zonesRead := fun status zones hzones =>
    (h.zonesRead status zones (hpoll ▸ hzones)).within hwithin
  stored := fun d hd => (h.stored d (hdata ▸ hd)).since fun order hm => by
    rw [hm] at hwithin
    exact hwithin

/-- Every move keeps what was read off the panel: a read takes it from there, a tail
from the reads, and the rest is aside. -/
theorem ReadOff.move {s0 s t : Sys ν} {moves : List (Move ν)} {m : Move ν}
    (hexec : exec Hass.move s0 moves = some s) (h : ReadOff s0 moves s)
    (hmove : Hass.move s m = some t) : ReadOff s0 (moves ++ [m]) t := by
  cases m with
  | pollStatus =>
    obtain ⟨-, rfl⟩ := move_pollStatus.mp hmove
    refine ⟨fun status hstatus => ?_, fun _ _ hzones => by simp at hzones, fun d hd => ?_⟩
    · exact ⟨moves, [], s, rfl, hexec, PollPhase.statusRead.inj hstatus, by simp⟩
    · exact (h.stored d hd).since (by simp)
  | pollZones =>
    obtain ⟨status, hstatus, rfl⟩ := move_pollZones.mp hmove
    refine ⟨fun _ hstatus => by simp at hstatus, fun status' zones hzones => ?_, fun d hd => ?_⟩
    · obtain ⟨rfl, rfl⟩ := PollPhase.zonesRead.inj hzones
      exact ⟨moves, [], s, rfl, hexec, h.statusRead status hstatus, rfl, by simp⟩
    · exact (h.stored d hd).since (by simp)
  | pollTail order =>
    -- what was in flight is stored, and no poll has completed after it
    obtain ⟨status, zones, hread, rfl⟩ := move_pollTail.mp hmove
    refine ⟨fun _ h => by simp at h, fun _ _ h => by simp at h, fun d hd => ?_⟩
    obtain rfl : (⟨status, zones⟩ : GC3Data ν) = d := Option.some.inj hd
    exact ⟨moves, order, [], rfl, h.zonesRead status zones hread, by simp⟩
  | pollFail =>
    obtain ⟨-, rfl⟩ := move_pollFail.mp hmove
    exact ⟨fun _ h => by simp at h, fun _ _ h => by simp at h,
      fun d hd => (h.stored d hd).since (by simp)⟩
  | accept cmd after =>
    unfold Hass.move at hmove
    dsimp only at hmove
    split at hmove
    · obtain rfl := Option.some.inj hmove
      exact h.aside trivial rfl rfl
    · contradiction
  | note =>
    obtain ⟨cmd, -, rfl⟩ := move_note.mp hmove
    exact h.aside trivial rfl rfl
  | drift after =>
    obtain rfl := Option.some.inj hmove
    exact h.aside trivial rfl rfl

/-- And so does every interleaving, from a start with no poll under way. -/
theorem readOff_run {s0 : Sys ν} (hidle : s0.poll = .idle) (hdata : s0.coordinator.data = none)
    {moves : List (Move ν)} {s : Sys ν} (hrun : exec move s0 moves = some s) :
    ReadOff s0 moves s := by
  refine exec_history (R := ReadOff s0) ?_ (fun _ _ _ _ hexec h hmove => h.move hexec hmove) hrun
  exact ⟨fun _ h => by simp [hidle] at h, fun _ _ h => by simp [hidle] at h,
    fun _ h => by simp [hdata] at h⟩

/-- **No snapshot is made up.** However polls, commands and the panel's own changes
interleave, the snapshot in use was brought by the last poll to complete: a status the
panel had when that poll asked for it, with the zones it had when asked for those. -/
theorem snapshot_read (entry : ConfigEntry) (registry : IssueRegistry ν) (panel : PanelNow ν)
    {moves : List (Move ν)} {s : Sys ν}
    (hrun : exec move (startBeside entry registry panel) moves = some s) {d : GC3Data ν}
    (hd : s.coordinator.data = some d) : Completed (startBeside entry registry panel) moves d :=
  (readOff_run rfl rfl hrun).stored d hd

/-- The two halves need not be of one moment: here the panel is armed in between. -/
theorem torn_snapshot :
    Completed (startBeside bareEntry .empty disarmedPanel)
      [.pollStatus, .drift stayPanel, .pollZones, .pollTail (.ascending String)]
      ⟨disarmedPanel.status, stayPanel.zones⟩ :=
  snapshot_read bareEntry .empty disarmedPanel rfl rfl

/-! ## The label -/

/-- What of a move matters to the label: a command is noted, a poll is completed. -/
inductive Event (ν : Type)
  | noted (cmd : AlarmCommand)
  | completed (d : GC3Data ν)
  | other

def eventOf (s : Sys ν) : Move ν → Event ν
  | .note =>
    match s.command with
    | .accepted cmd => .noted cmd
    | .idle => .other
  | .pollTail _ =>
    match s.poll with
    | .zonesRead status zones => .completed ⟨status, zones⟩
    | _ => .other
  | _ => .other

/-- The events of an interleaving. -/
def eventsOf (s0 : Sys ν) (moves : List (Move ν)) : List (Event ν) :=
  execOutputs move eventOf s0 moves

/-- The last poll to complete brought `d`. -/
def LastCompleted (d : GC3Data ν) (events : List (Event ν)) : Prop :=
  Since (fun e => ∀ d', e ≠ .completed d') (· = .completed d) events

/-- The last command noted was a night arm, and no poll completed since had read an arm
state other than `armed` or `arming`. -/
def NightNoted (events : List (Event ν)) : Prop :=
  Since (fun e => (∀ cmd, e ≠ .noted cmd) ∧ ∀ d, e = .completed d → HoldsNight d.status)
    (· = .noted .armNight) events

/-- The coordinator remembers of its events what the label needs. -/
structure Labelled (events : List (Event ν)) (c : GC3Coordinator ν) : Prop where
  data_iff : ∀ d, c.data = some d ↔ LastCompleted d events
  armedNight_iff : c.armedNight = true ↔ NightNoted events

/-- A move that is no event changes neither flag nor snapshot. -/
theorem Labelled.other {events : List (Event ν)} {c c' : GC3Coordinator ν}
    (h : Labelled events c) (hdata : c'.data = c.data) (hnight : c'.armedNight = c.armedNight) :
    Labelled (events ++ [.other]) c' where
  data_iff := fun d => by
    unfold LastCompleted
    rw [since_concat, hdata, h.data_iff d]
    simp [LastCompleted]
  armedNight_iff := by
    unfold NightNoted
    rw [since_concat, hnight, h.armedNight_iff]
    simp [NightNoted]

/-- A command noted sets the flag to its own, whatever there was. -/
theorem Labelled.noted {events : List (Event ν)} {c : GC3Coordinator ν} (h : Labelled events c)
    (cmd : AlarmCommand) : Labelled (events ++ [.noted cmd]) (c.noteArm cmd.night) where
  data_iff := fun d => by
    unfold LastCompleted
    rw [since_concat, ← LastCompleted, ← h.data_iff d]
    simp [GC3Coordinator.noteArm]
  armedNight_iff := by
    unfold NightNoted
    rw [since_concat]
    cases cmd <;> simp [GC3Coordinator.noteArm, AlarmCommand.night]

/-- A poll completed brings its snapshot, and clears the flag over a panel neither armed
nor arming. -/
theorem Labelled.completed {events : List (Event ν)} {c : GC3Coordinator ν} (h : Labelled events c)
    (order : SetOrder String) (status : PanelStatus) (zones : List (Zone ν)) :
    Labelled (events ++ [.completed ⟨status, zones⟩])
      (GC3Coordinator.store (c.finishUpdate order status zones)) where
  data_iff := fun d => by
    unfold LastCompleted
    rw [since_concat]
    simp [GC3Coordinator.store, GC3Coordinator.finishUpdate]
  armedNight_iff := by
    rw [GC3Coordinator.finishUpdate_armedNight]
    unfold NightNoted
    rw [since_concat, ← NightNoted, ← h.armedNight_iff]
    -- a status that does not hold the label ends it here; one that does leaves it as noted
    by_cases hholds : status.armState = "armed" ∨ status.armState = "arming"
    · simp [HoldsNight, hholds]
    · simp [HoldsNight, hholds]

/-- Every move keeps the label to the events. -/
theorem labelled_move {events : List (Event ν)} {s t : Sys ν} {m : Move ν}
    (h : Labelled events s.coordinator) (hmove : move s m = some t) :
    Labelled (events ++ [eventOf s m]) t.coordinator := by
  cases m with
  | pollStatus =>
    obtain ⟨-, rfl⟩ := move_pollStatus.mp hmove
    exact h.other rfl rfl
  | pollZones =>
    obtain ⟨status, -, rfl⟩ := move_pollZones.mp hmove
    exact h.other rfl rfl
  | pollTail order =>
    obtain ⟨status, zones, hread, rfl⟩ := move_pollTail.mp hmove
    unfold eventOf
    rw [hread]
    exact h.completed order status zones
  | pollFail =>
    obtain ⟨-, rfl⟩ := move_pollFail.mp hmove
    exact h.other rfl rfl
  | accept cmd after =>
    unfold move at hmove
    dsimp only at hmove
    split at hmove
    · obtain rfl := Option.some.inj hmove
      exact h.other rfl rfl
    · contradiction
  | note =>
    obtain ⟨cmd, hcmd, rfl⟩ := move_note.mp hmove
    unfold eventOf
    rw [hcmd]
    exact h.noted cmd
  | drift after =>
    obtain rfl := Option.some.inj hmove
    exact h.other rfl rfl

/-- **What `armed_night` means, however polls and commands interleave**: the last poll to
complete read a panel armed to stay without an alarm, the last command noted was a night
arm, and no poll completed since the note had read a panel neither armed nor arming. -/
theorem shown_armedNight_iff (entry : ConfigEntry) (registry : IssueRegistry ν)
    (panel : PanelNow ν) {moves : List (Move ν)} {s : Sys ν}
    (hrun : exec move (startBeside entry registry panel) moves = some s) :
    let events := eventsOf (startBeside entry registry panel) moves
    s.coordinator.alarmState = some .armedNight ↔
      (∃ d, LastCompleted d events ∧ d.status.armState = "armed" ∧ d.status.isArmedStay = true ∧
        ∀ z ∈ d.zones, z.status.inAlarm = false) ∧ NightNoted events := by
  intro events
  have h : Labelled events s.coordinator := by
    refine exec_history (R := fun moves s => Labelled (eventsOf (startBeside entry registry panel)
      moves) s.coordinator) ?_ (fun moves t m u hexec h hmove => ?_) hrun
    · refine ⟨fun d => iff_of_false (by simp [startBeside, GC3Coordinator.init])
        (not_since_nil _ _), iff_of_false (by simp [startBeside, GC3Coordinator.init])
        (not_since_nil _ _)⟩
    · unfold eventsOf
      rw [execOutputs_concat hexec]
      exact labelled_move h hmove
  rw [← h.armedNight_iff]
  unfold GC3Coordinator.alarmState
  rw [Option.map_eq_some_iff]
  constructor
  · rintro ⟨d, hd, hstate⟩
    obtain ⟨harmed, hstay, hquiet, hnight⟩ := (mapAlarmState_armedNight_iff _ _ _).mp hstate
    exact ⟨⟨d, (h.data_iff d).mp hd, harmed, hstay, hquiet⟩, hnight⟩
  · rintro ⟨⟨d, hd, harmed, hstay, hquiet⟩, hnight⟩
    exact ⟨d, (h.data_iff d).mpr hd,
      (mapAlarmState_armedNight_iff _ _ _).mpr ⟨harmed, hstay, hquiet, hnight⟩⟩

/-- An undisturbed night arm, and a poll after it. -/
theorem nightNoted_undisturbed :
    NightNoted (eventsOf (startBeside bareEntry .empty disarmedPanel)
      [.accept .armNight stayPanel, .note, .pollStatus, .pollZones,
        .pollTail (.ascending String)]) :=
  ((shown_armedNight_iff bareEntry .empty disarmedPanel rfl).mp rfl).2

end Gc3.Hass
