import Gc3.Hass.NightFlag

/-!
# Polls and commands interleaved

Home Assistant runs the poll and the command as two tasks that give way to each
other at every `await`. A poll is three moves (the panel answers `/status`, then
`/zones`, then the tail of `_async_update_data` runs), a command two (the panel
accepts it, then `note_arm` runs). An interleaving is a list of moves none of
which is refused; the panel may change by itself between any two.

A night arm can be lost. The tail drops the flag on the strength of a status that
may be older than the command, so a poll that read "disarmed" before the panel
accepted the arm clears the flag just noted, and nothing ever sets it again.
`nightKept_iff` says that this is the only way to lose it.
-/

namespace Gc3.Hass

open Gc3.Py Gc3.Pygc3 Runs

variable {ν : Type}

/-! ## The two parties -/

/-- What the panel would answer. -/
structure PanelNow (ν : Type) where
  status : PanelStatus
  zones : List (Zone ν)

/-- How far the running poll has come, with what it has read. -/
inductive PollPhase (ν : Type)
  | idle
  | statusRead (status : PanelStatus)
  | zonesRead (status : PanelStatus) (zones : List (Zone ν))

/-- How far the running command has come. -/
inductive CommandPhase
  | idle
  | accepted (cmd : AlarmCommand)
  deriving DecidableEq, Repr

structure Sys (ν : Type) where
  coordinator : GC3Coordinator ν
  panel : PanelNow ν
  poll : PollPhase ν
  command : CommandPhase

/-- One move of either task, or of the panel. -/
inductive Move (ν : Type)
  | pollStatus
  | pollZones
  /-- The tail of `_async_update_data`, with the order its sets iterate in. -/
  | pollTail (order : SetOrder String)
  /-- A read fails, and with it the poll. -/
  | pollFail
  /-- The panel carries a command out and is then in the state `after`. -/
  | accept (cmd : AlarmCommand) (after : PanelNow ν)
  | note
  /-- The panel changes by itself: a sensor, a countdown. -/
  | drift (after : PanelNow ν)

/-- One move, refused when its task is not where the move starts from. -/
def move (s : Sys ν) : Move ν → Option (Sys ν)
  | .pollStatus =>
    match s.poll with
    | .idle => some { s with poll := .statusRead s.panel.status }
    | _ => none
  | .pollZones =>
    match s.poll with
    | .statusRead status => some { s with poll := .zonesRead status s.panel.zones }
    | _ => none
  | .pollTail order =>
    match s.poll with
    | .zonesRead status zones =>
      some { s with
        coordinator := GC3Coordinator.store (s.coordinator.finishUpdate order status zones)
        poll := .idle }
    | _ => none
  | .pollFail =>
    match s.poll with
    | .zonesRead _ _ => none
    | _ => some { s with
        coordinator := { s.coordinator with lastUpdateSuccess := false }
        poll := .idle }
  | .accept cmd after =>
    match s.command with
    | .idle => some { s with panel := after, command := .accepted cmd }
    | .accepted _ => none
  | .note =>
    match s.command with
    | .idle => none
    | .accepted cmd =>
      some { s with coordinator := s.coordinator.noteArm cmd.night, command := .idle }
  | .drift after => some { s with panel := after }

/-- A fresh coordinator next to a panel, nothing running. -/
def startBeside (entry : ConfigEntry) (registry : IssueRegistry ν) (panel : PanelNow ν) : Sys ν :=
  ⟨.init entry registry, panel, .idle, .idle⟩

/-! ### What each move does -/

/-- The panel answers `/status`, if no poll is under way. -/
theorem move_pollStatus {s t : Sys ν} : move s .pollStatus = some t ↔
    s.poll = .idle ∧ { s with poll := .statusRead s.panel.status } = t := by
  unfold move
  cases s.poll <;> simp

/-- It answers `/zones` to a poll that has its status. -/
theorem move_pollZones {s t : Sys ν} : move s .pollZones = some t ↔
    ∃ status, s.poll = .statusRead status ∧
      { s with poll := .zonesRead status s.panel.zones } = t := by
  unfold move
  cases s.poll <;> simp

/-- The tail runs once both are read, and stores. -/
theorem move_pollTail {s t : Sys ν} {order : SetOrder String} :
    move s (.pollTail order) = some t ↔
      ∃ status zones, s.poll = .zonesRead status zones ∧
        { s with
          coordinator := GC3Coordinator.store (s.coordinator.finishUpdate order status zones)
          poll := .idle } = t := by
  unfold move
  cases s.poll <;> simp

/-- A read raises, before both are there. -/
theorem move_pollFail {s t : Sys ν} : move s .pollFail = some t ↔
    (∀ status zones, s.poll ≠ .zonesRead status zones) ∧
      { s with
        coordinator := { s.coordinator with lastUpdateSuccess := false }
        poll := .idle } = t := by
  unfold move
  cases s.poll <;> simp

/-- The task of an accepted command goes on to note it. -/
theorem move_note {s t : Sys ν} : move s .note = some t ↔
    ∃ cmd, s.command = .accepted cmd ∧
      { s with coordinator := s.coordinator.noteArm cmd.night, command := .idle } = t := by
  unfold move
  cases s.command <;> simp

/-! ## What is asked of a night arm -/

/-- The panel is armed to stay, and no zone is in alarm. -/
def PanelNow.ArmedStay (p : PanelNow ν) : Prop :=
  p.status.armState = "armed" ∧ p.status.isArmedStay = true ∧
    ∀ z ∈ p.zones, z.status.inAlarm = false

/-- A move that is no command and leaves an armed panel armed to stay. -/
def Move.Quiet : Move ν → Prop
  | .accept _ _ => False
  | .drift after => after.ArmedStay
  | _ => True

/-- A move that neither begins nor ends a poll. -/
def Move.WithinPoll : Move ν → Prop
  | .pollStatus => False
  | .pollTail _ => False
  | .pollFail => False
  | _ => True

/-- The poll still running after these moves had its status answered among them. -/
def StatusAnswered (moves : List (Move ν)) : Prop :=
  ∃ before within, moves = before ++ .pollStatus :: within ∧ ∀ m ∈ within, m.WithinPoll

/-- However the interleaving `pre` goes on once the pending `note_arm` has run, as
long as it stays quiet: every poll whose status is answered from then on leaves
the alarm state `armed_night`. -/
def NightKept (s0 : Sys ν) (pre : List (Move ν)) : Prop :=
  ∀ post order u, (∀ m ∈ post, m.Quiet) → StatusAnswered post →
    exec move s0 (pre ++ .note :: (post ++ [.pollTail order])) = some u →
    u.coordinator.alarmState = some .armedNight

/-- The poll in flight, if it has read its status, read one that keeps the flag. -/
def PollPhase.Harmless : PollPhase ν → Prop
  | .idle => True
  | .statusRead status => HoldsNight status
  | .zonesRead status _ => HoldsNight status

/-! ## The flag while the panel stays armed -/

/-- After the note: flag and panel are as they should be, no command is running,
and the poll in flight will not clear the flag. -/
structure Kept (s : Sys ν) : Prop where
  armedNight : s.coordinator.armedNight = true
  panel : s.panel.ArmedStay
  command : s.command = .idle
  poll : s.poll.Harmless

/-- The poll in flight has read the panel as it stands. -/
def PollPhase.Fresh : PollPhase ν → Prop
  | .idle => False
  | .statusRead status => status.armState = "armed" ∧ status.isArmedStay = true
  | .zonesRead status zones => PanelNow.ArmedStay ⟨status, zones⟩

/-- A quiet move keeps what the note established. -/
theorem Kept.move {s t : Sys ν} {m : Move ν} (hm : m.Quiet) (h : Kept s)
    (hmove : move s m = some t) : Kept t := by
  obtain ⟨hnight, hpanel, hcommand, hpoll⟩ := h
  cases m with
  | pollStatus =>
    obtain ⟨-, rfl⟩ := move_pollStatus.mp hmove
    exact ⟨hnight, hpanel, hcommand, Or.inl hpanel.1⟩
  | pollZones =>
    obtain ⟨status, hstatus, rfl⟩ := move_pollZones.mp hmove
    rw [hstatus] at hpoll
    exact ⟨hnight, hpanel, hcommand, hpoll⟩
  | pollTail order =>
    obtain ⟨status, zones, hread, rfl⟩ := move_pollTail.mp hmove
    rw [hread] at hpoll
    have hflag := GC3Coordinator.finishUpdate_armedNight s.coordinator order status zones
    rw [if_pos (show _ ∨ _ from hpoll), hnight] at hflag
    exact ⟨hflag, hpanel, hcommand, trivial⟩
  | pollFail =>
    obtain ⟨-, rfl⟩ := move_pollFail.mp hmove
    exact ⟨hnight, hpanel, hcommand, trivial⟩
  | accept cmd after => exact absurd hm (fun h => h)
  | note =>
    obtain ⟨cmd, hcmd, -⟩ := move_note.mp hmove
    rw [hcommand] at hcmd
    exact absurd hcmd (by simp)
  | drift after =>
    obtain rfl := Option.some.inj hmove
    exact ⟨hnight, hm, hcommand, hpoll⟩

/-- A quiet move within a poll keeps what it has read fresh. -/
theorem fresh_move {s t : Sys ν} {m : Move ν} (hm : m.Quiet ∧ m.WithinPoll)
    (h : Kept s ∧ s.poll.Fresh) (hmove : move s m = some t) : Kept t ∧ t.poll.Fresh := by
  obtain ⟨hkept, hfresh⟩ := h
  refine ⟨hkept.move hm.1 hmove, ?_⟩
  cases m with
  | pollStatus => exact absurd hm.2 (fun h => h)
  | pollTail order => exact absurd hm.2 (fun h => h)
  | pollFail => exact absurd hm.2 (fun h => h)
  | pollZones =>
    obtain ⟨status, hstatus, rfl⟩ := move_pollZones.mp hmove
    rw [hstatus] at hfresh
    exact ⟨hfresh.1, hfresh.2, hkept.panel.2.2⟩
  | accept cmd after => exact absurd hm.1 (fun h => h)
  | note =>
    obtain ⟨cmd, hcmd, -⟩ := move_note.mp hmove
    rw [hkept.command] at hcmd
    exact absurd hcmd (by simp)
  | drift after =>
    obtain rfl := Option.some.inj hmove
    exact hfresh

/-- The tail of a poll that read the panel armed to stay shows `armed_night`. -/
theorem alarmState_of_tail {s u : Sys ν} (hkept : Kept s) (hfresh : s.poll.Fresh)
    {order : SetOrder String} (htail : move s (.pollTail order) = some u) :
    u.coordinator.alarmState = some .armedNight := by
  have hafter := Kept.move (m := .pollTail order) trivial hkept htail
  obtain ⟨status, zones, hread, hu⟩ := move_pollTail.mp htail
  rw [hread] at hfresh
  have hdata : u.coordinator.data = some ⟨status, zones⟩ := by
    rw [← hu]
    rfl
  unfold GC3Coordinator.alarmState
  rw [hdata]
  exact congrArg some ((mapAlarmState_armedNight_iff status zones _).mpr
    ⟨hfresh.1, hfresh.2.1, hfresh.2.2, hafter.armedNight⟩)

/-! ## When a night arm is kept -/

/-- From a state the note left as it should be, every quiet run that answers a
status and completes its poll ends in `armed_night`. -/
theorem Kept.alarmState {s u : Sys ν} (h : Kept s) {post : List (Move ν)}
    {order : SetOrder String} (hquiet : ∀ m ∈ post, m.Quiet) (hanswered : StatusAnswered post)
    (hrun : exec Hass.move s (post ++ [.pollTail order]) = some u) :
    u.coordinator.alarmState = some .armedNight := by
  obtain ⟨before, within, rfl, hwithin⟩ := hanswered
  obtain ⟨v, hv, htail⟩ := exec_append_eq_some.mp hrun
  obtain ⟨r, hr, hpoll⟩ := exec_append_eq_some.mp hv
  obtain ⟨q, hstatus, hq⟩ := exec_cons_eq_some.mp hpoll
  -- up to the status the flag is kept, and the status read is the panel's
  have hkept : Kept r := exec_invariant (fun _ _ _ hm h hmove => Kept.move hm h hmove)
    (fun m hm => hquiet m (List.mem_append_left _ hm)) h hr
  have hkept' : Kept q := Kept.move (m := .pollStatus) trivial hkept hstatus
  have hfresh : q.poll.Fresh := by
    obtain ⟨-, rfl⟩ := move_pollStatus.mp hstatus
    exact ⟨hkept.panel.1, hkept.panel.2.1⟩
  -- and what the poll has read stays fresh up to its tail
  have hend : Kept v ∧ v.poll.Fresh :=
    exec_invariant (fun _ _ _ hm h hmove => fresh_move hm h hmove)
    (fun m hm => ⟨hquiet m (by simp [hm]), hwithin m hm⟩) ⟨hkept', hfresh⟩ hq
  obtain ⟨u', hu', hlast⟩ := exec_cons_eq_some.mp htail
  obtain rfl := Option.some.inj hlast
  exact alarmState_of_tail hend.1 hend.2 hu'

/-- A stale poll that reads on, ends, and is followed by a whole poll. -/
def stalePost (phase : PollPhase ν) : List (Move ν) :=
  (match phase with
    | .statusRead _ => [.pollZones]
    | _ => []) ++ [.pollTail (.ascending String), .pollStatus, .pollZones]

/-- A poll in flight that has read a panel neither armed nor arming clears the
flag, and the next poll shows a plain `armed_home`. -/
theorem stale_loses {s : Sys ν} (hpanel : s.panel.ArmedStay) (h : ¬ s.poll.Harmless) :
    ∃ u, exec move s (stalePost s.poll ++ [.pollTail (.ascending String)]) = some u ∧
      u.coordinator.alarmState ≠ some .armedNight := by
  -- whatever the zones, the tail has cleared the flag, and the panel holds it clear
  have hclear : ∀ status zones, ¬ HoldsNight status → ∀ c : GC3Coordinator ν,
      (GC3Coordinator.store ((GC3Coordinator.store
        (c.finishUpdate (.ascending String) status zones)).finishUpdate (.ascending String)
          s.panel.status s.panel.zones)).alarmState ≠ some .armedNight := by
    intro status zones hstatus c hstate
    have hnight := ((mapAlarmState_armedNight_iff _ _ _).mp (Option.some.inj hstate)).2.2.2
    rw [GC3Coordinator.finishUpdate_armedNight, if_pos (Or.inl hpanel.1),
      GC3Coordinator.finishUpdate_armedNight, if_neg (show ¬ (_ ∨ _) from hstatus)] at hnight
    exact absurd hnight (by simp)
  obtain ⟨c, panel, poll, command⟩ := s
  cases poll with
  | idle => exact absurd trivial h
  | statusRead status => exact ⟨_, rfl, hclear status panel.zones h c⟩
  | zonesRead status zones => exact ⟨_, rfl, hclear status zones h c⟩

theorem stalePost_quiet (phase : PollPhase ν) : ∀ m ∈ stalePost phase, m.Quiet := by
  unfold stalePost
  intro m hm
  cases phase with
  | statusRead status =>
    simp only [List.cons_append, List.nil_append, List.mem_cons, List.not_mem_nil, or_false] at hm
    rcases hm with rfl | rfl | rfl | rfl <;> trivial
  | _ =>
    simp only [List.nil_append, List.mem_cons, List.not_mem_nil, or_false] at hm
    rcases hm with rfl | rfl | rfl <;> trivial

theorem stalePost_answered (phase : PollPhase ν) : StatusAnswered (stalePost phase) := by
  unfold stalePost
  refine ⟨_ ++ [.pollTail (.ascending String)], [.pollZones], List.append_cons _ _ _, ?_⟩
  intro m hm
  rw [List.mem_singleton.mp hm]
  trivial

/-- **When a night arm is kept.** Over every run up to an accepted night arm that
left the panel armed to stay: the arm is kept, however the interleaving goes on,
if and only if no poll is then in flight that has read an arm state other than
`armed` or `arming`. -/
theorem nightKept_iff (entry : ConfigEntry) (registry : IssueRegistry ν) (panel : PanelNow ν)
    {pre : List (Move ν)} {s : Sys ν}
    (hrun : exec move (startBeside entry registry panel) pre = some s)
    (hnight : s.command = .accepted .armNight) (hstay : s.panel.ArmedStay) :
    NightKept (startBeside entry registry panel) pre ↔ s.poll.Harmless := by
  have hnote : move s .note = some { s with
      coordinator := s.coordinator.noteArm true, command := .idle } :=
    move_note.mpr ⟨.armNight, hnight, rfl⟩
  constructor
  · intro hkept
    by_contra hstale
    obtain ⟨u, hu, hlost⟩ := stale_loses (s := { s with
      coordinator := s.coordinator.noteArm true, command := .idle }) hstay hstale
    exact hlost (hkept (stalePost s.poll) _ u (stalePost_quiet _) (stalePost_answered _)
      (exec_append_eq_some.mpr ⟨s, hrun, exec_cons_eq_some.mpr ⟨_, hnote, hu⟩⟩))
  · intro hharmless post order u hquiet hanswered hexec
    obtain ⟨s', hs', hrest⟩ := exec_append_eq_some.mp hexec
    obtain rfl : s = s' := Option.some.inj (hrun.symm.trans hs')
    obtain ⟨t, ht, hpost⟩ := exec_cons_eq_some.mp hrest
    have hkept : Kept t := by
      rw [← Option.some.inj (hnote.symm.trans ht)]
      exact ⟨rfl, hstay, rfl, hharmless⟩
    exact hkept.alarmState hquiet hanswered hpost

/-- A panel that stands disarmed, with no zones. -/
def disarmedPanel : PanelNow String := ⟨.disarmed, []⟩

/-- A panel armed to stay, with no zones. -/
def stayPanel : PanelNow String := ⟨⟨"armed", true, .obj []⟩, []⟩

theorem stayPanel_armedStay : stayPanel.ArmedStay := ⟨rfl, rfl, by simp [stayPanel]⟩

/-- The arm is kept with no poll in flight, and beside one that has read an armed panel. -/
theorem nightKept_between_polls :
    NightKept (startBeside bareEntry .empty disarmedPanel) [.accept .armNight stayPanel] ∧
      NightKept (startBeside bareEntry .empty stayPanel)
        [.pollStatus, .accept .armNight stayPanel] :=
  ⟨(nightKept_iff bareEntry .empty disarmedPanel
      (s := ⟨.init bareEntry .empty, stayPanel, .idle, .accepted .armNight⟩) rfl rfl
      stayPanel_armedStay).mpr trivial,
    (nightKept_iff bareEntry .empty stayPanel
      (s := ⟨.init bareEntry .empty, stayPanel, .statusRead stayPanel.status,
        .accepted .armNight⟩) rfl rfl stayPanel_armedStay).mpr (Or.inl rfl)⟩

/-- A poll has read "disarmed" when the panel accepts the arm: the arm is lost,
with no hand on the keypad. -/
theorem night_lost_to_poll :
    ¬ ∀ (pre : List (Move String)) (s : Sys String),
      exec move (startBeside bareEntry .empty disarmedPanel) pre = some s →
      s.command = .accepted .armNight → s.panel.ArmedStay →
      NightKept (startBeside bareEntry .empty disarmedPanel) pre := by
  intro h
  have hkept := h [.pollStatus, .accept .armNight stayPanel] _ rfl rfl stayPanel_armedStay
  -- the stale poll ends, and a second one reads the panel as it is
  have hstate := hkept [.pollZones, .pollTail (.ascending String), .pollStatus, .pollZones]
    (.ascending String) _ (stalePost_quiet (.statusRead .disarmed))
    (stalePost_answered (.statusRead .disarmed)) rfl
  have hhome : some AlarmControlPanelState.armedHome = some .armedNight := hstate
  exact absurd hhome (by decide)

end Gc3.Hass
