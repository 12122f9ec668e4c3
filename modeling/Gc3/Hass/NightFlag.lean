import Gc3.Hass.AlarmControlPanel
import Gc3.Lib.Past
import Gc3.Lib.Runs
import Gc3.Pygc3.Parsing

/-!
# What `armed_night` means

The panel has no night state; the label is put together from a flag the last command
left behind and a snapshot the last good poll brought. Over runs in which every poll and
every command finishes before the next begins, both are read off the history, and
`alarmState_armedNight_iff` says what that comes to: the latest good poll saw the panel
armed to stay with no zone in alarm, the latest successful command was a night arm, and
no good poll since has seen the panel neither armed nor arming. The second half of it is
that what failed leaves no trace.

`Remembers` is the invariant, one sentence of history for each field the label is made
of (`act_data`, `act_armedNight` say what one step does to them, `Remembers.act` that a
step keeps it, `remembers_run` that a run does); the result then only looks at the state
map. `LastPolled` and `NightHeld` are both `Past.Since`: something was the case at some
point, and nothing has undone it. What interleaving adds is the matter of
`Gc3.Hass.Interleave` and `Gc3.Hass.Provenance`.
-/

namespace Gc3.Hass

open Gc3.Py Gc3.Pygc3 Past

variable {ν : Type}

/-- One completed step: a poll, or a command sent through a panel. -/
inductive Act (ν : Type)
  | poll (p : Poll ν)
  | command (cmd : AlarmCommand) (panel : Panel)

/-- What a poll brought; nothing for a command or a failed poll. -/
def Act.polled : Act ν → Option (GC3Data ν)
  | .poll p => p.snapshot
  | .command _ _ => none

/-- An arm state that lets the night flag stand. -/
def HoldsNight (status : PanelStatus) : Prop :=
  status.armState = "armed" ∨ status.armState = "arming"

instance (status : PanelStatus) : Decidable (HoldsNight status) :=
  inferInstanceAs (Decidable (_ ∨ _))

/-- The state map comes to `armed_night` over a panel armed to stay, no zone in alarm
and the flag set. -/
theorem mapAlarmState_armedNight_iff (status : PanelStatus) (zones : List (Zone ν))
    (armedNight : Bool) :
    mapAlarmState status zones armedNight = .armedNight ↔
      status.armState = "armed" ∧ status.isArmedStay = true ∧
        (∀ z ∈ zones, z.status.inAlarm = false) ∧ armedNight = true := by
  unfold mapAlarmState
  by_cases hany : zones.any (·.status.inAlarm) = true
  · rw [if_pos hany]
    obtain ⟨z, hz, halarm⟩ := List.any_eq_true.mp hany
    refine iff_of_false (by simp) fun h => ?_
    have hquiet := h.2.2.1 z hz
    rw [halarm] at hquiet
    exact absurd hquiet (by simp)
  · have hquiet : ∀ z ∈ zones, z.status.inAlarm = false := by
      simpa using hany
    rw [if_neg hany]
    dsimp only
    by_cases harmed : status.armState = "armed"
    · rw [if_pos harmed]
      cases hstay : status.isArmedStay with
      | false => simp
      | true =>
        cases armedNight with
        | false => simp
        | true => simpa [harmed] using hquiet
    · rw [if_neg harmed]
      refine iff_of_false ?_ fun h => harmed h.1
      split
      · simp
      · split <;> simp

section

variable [Runtime]

/-- The state after a step: a command that raises leaves the coordinator alone. -/
def act (client : GC3Client) (c : GC3Coordinator ν) : Act ν → GC3Coordinator ν
  | .poll p => c.asyncRefresh p
  | .command cmd panel =>
    match c.asyncCommand client panel cmd with
    | .ok c' => c'
    | .error _ => c

/-! ## The history -/

/-- The step is a successful command, and this one. -/
def Commanded (client : GC3Client) (entry : ConfigEntry) (cmd : AlarmCommand) (a : Act ν) : Prop :=
  ∃ panel, a = .command cmd panel ∧ cmd.outcome client entry panel = .ok ()

/-- The last successful poll brought `d`. -/
def LastPolled (d : GC3Data ν) (acts : List (Act ν)) : Prop :=
  Since (fun a => a.polled = none) (fun a => a.polled = some d) acts

/-- The last successful command was a night arm, and no successful poll after it
reported an arm state other than `armed` or `arming`. -/
def NightHeld (client : GC3Client) (entry : ConfigEntry) (acts : List (Act ν)) : Prop :=
  Since (fun a =>
      (∀ cmd, ¬ Commanded client entry cmd a) ∧ ∀ d, a.polled = some d → HoldsNight d.status)
    (Commanded client entry .armNight) acts

/-! ## One step -/

/-- What a command leaves of the coordinator. -/
theorem act_command (client : GC3Client) (c : GC3Coordinator ν) (cmd : AlarmCommand)
    (panel : Panel) :
    act client c (.command cmd panel) =
      if cmd.outcome client c.configEntry panel = .ok () then c.noteArm cmd.night else c := by
  show (match c.asyncCommand client panel cmd with | .ok c' => c' | .error _ => c) = _
  rw [asyncCommand_eq]
  cases cmd.outcome client c.configEntry panel with
  | ok u => rfl
  | error err => rfl

theorem act_configEntry (client : GC3Client) (c : GC3Coordinator ν) (a : Act ν) :
    (act client c a).configEntry = c.configEntry := by
  cases a with
  | poll p => exact GC3Coordinator.asyncRefresh_configEntry c p
  | command cmd panel =>
    rw [act_command]
    split <;> rfl

/-- The snapshot after a step: a good poll's own, and else the one before. -/
theorem act_data (client : GC3Client) (c : GC3Coordinator ν) (a : Act ν) :
    (act client c a).data = a.polled.or c.data := by
  cases a with
  | poll p => exact GC3Coordinator.asyncRefresh_data c p
  | command cmd panel =>
    rw [act_command]
    split <;> rfl

/-- The night flag after a step. -/
theorem act_armedNight (client : GC3Client) (c : GC3Coordinator ν) (a : Act ν) :
    (act client c a).armedNight = true ↔
      Commanded client c.configEntry .armNight a ∨
        ((∀ cmd, ¬ Commanded client c.configEntry cmd a) ∧
          ∀ d, a.polled = some d → HoldsNight d.status) ∧
          c.armedNight = true := by
  cases a with
  | poll p =>
    have hnot : ∀ cmd, ¬ Commanded client c.configEntry cmd (.poll p) := by
      intro cmd ⟨panel, h, _⟩
      exact absurd h (by simp)
    show (c.asyncRefresh p).armedNight = true ↔ _
    rw [GC3Coordinator.asyncRefresh_armedNight]
    have hpolled : (Act.poll p).polled = p.snapshot := rfl
    rw [hpolled]
    cases h : p.snapshot with
    | none => simp [hnot]
    | some d =>
      by_cases hd : HoldsNight d.status
      · simp only [if_pos (show _ ∨ _ from hd)]
        simp [hnot, hd]
      · simp only [if_neg (show ¬ (_ ∨ _) from hd)]
        simp [hnot, hd]
  | command cmd panel =>
    have hcmd : ∀ cmd', Commanded client c.configEntry cmd' (.command cmd panel : Act ν) ↔
        cmd' = cmd ∧ cmd.outcome client c.configEntry panel = .ok () := by
      intro cmd'
      constructor
      · intro ⟨panel', h, hok⟩
        obtain ⟨rfl, rfl⟩ := Act.command.inj h
        exact ⟨rfl, hok⟩
      · intro ⟨h, hok⟩
        rw [h]
        exact ⟨panel, rfl, hok⟩
    rw [act_command]
    simp only [hcmd]
    by_cases hok : cmd.outcome client c.configEntry panel = .ok ()
    · rw [if_pos hok]
      show cmd.night = true ↔ _
      cases cmd <;> simp [hok, AlarmCommand.night]
    · rw [if_neg hok]
      simp [hok, Act.polled]

/-- A poll that fails and a command that raises change neither flag nor snapshot. -/
theorem act_of_failed (client : GC3Client) (c : GC3Coordinator ν) (a : Act ν)
    (hpoll : a.polled = none) (hcommand : ∀ cmd, ¬ Commanded client c.configEntry cmd a) :
    (act client c a).data = c.data ∧ (act client c a).armedNight = c.armedNight := by
  refine ⟨by rw [act_data, hpoll]; rfl, ?_⟩
  rw [Bool.eq_iff_iff, act_armedNight]
  simp [hpoll, hcommand]

/-! ## A whole run -/

/-- The coordinator remembers its history as the label needs it. -/
structure Remembers (client : GC3Client) (entry : ConfigEntry) (acts : List (Act ν))
    (c : GC3Coordinator ν) : Prop where
  configEntry : c.configEntry = entry
  data_iff : ∀ d, c.data = some d ↔ LastPolled d acts
  armedNight_iff : c.armedNight = true ↔ NightHeld client entry acts

/-- A fresh coordinator has no history, no flag and no snapshot. -/
theorem remembers_init (client : GC3Client) (entry : ConfigEntry) (registry : IssueRegistry ν) :
    Remembers client entry [] (.init entry registry) where
  configEntry := rfl
  data_iff := fun _ => iff_of_false (by simp [GC3Coordinator.init]) (not_since_nil _ _)
  armedNight_iff := iff_of_false (by simp [GC3Coordinator.init]) (not_since_nil _ _)

/-- A step keeps the coordinator to its history: a good poll carries both parts, a
command that succeeds the flag, and anything else is no news. -/
theorem Remembers.act {client : GC3Client} {entry : ConfigEntry} {acts : List (Act ν)}
    {c : GC3Coordinator ν} (h : Remembers client entry acts c) (a : Act ν) :
    Remembers client entry (acts ++ [a]) (act client c a) where
  configEntry := (act_configEntry client c a).trans h.configEntry
  data_iff := by
    intro d
    have hdata : c.data = some d ↔
        Since (fun a => a.polled = none) (fun a => a.polled = some d) acts := h.data_iff d
    unfold LastPolled
    rw [since_concat, act_data, ← hdata]
    cases a.polled with
    | none => simp
    | some d' => simp
  armedNight_iff := by
    unfold NightHeld
    rw [since_concat, act_armedNight, h.configEntry, h.armedNight_iff]
    rfl

/-- And so does a run. -/
theorem remembers_run (client : GC3Client) (entry : ConfigEntry) (registry : IssueRegistry ν)
    (acts : List (Act ν)) :
    Remembers client entry acts (Runs.run (Hass.act client) (.init entry registry) acts) :=
  Runs.run_history (remembers_init client entry registry) (fun _ _ a h => h.act a) acts

/-- **The exact meaning of `armed_night`** over a run of completed polls and
commands from a fresh coordinator, and that failures leave no trace in it. -/
theorem alarmState_armedNight_iff (client : GC3Client) (entry : ConfigEntry)
    (registry : IssueRegistry ν) (acts : List (Act ν)) :
    let c := Runs.run (act client) (.init entry registry) acts
    (c.alarmState = some .armedNight ↔
        (∃ d, LastPolled d acts ∧ d.status.armState = "armed" ∧ d.status.isArmedStay = true ∧
          ∀ z ∈ d.zones, z.status.inAlarm = false) ∧
        NightHeld client entry acts) ∧
      ∀ a : Act ν, a.polled = none → (∀ cmd, ¬ Commanded client entry cmd a) →
        (act client c a).data = c.data ∧ (act client c a).armedNight = c.armedNight := by
  intro c
  have h : Remembers client entry acts c := remembers_run client entry registry acts
  constructor
  · rw [← h.armedNight_iff]
    unfold GC3Coordinator.alarmState
    rw [Option.map_eq_some_iff]
    constructor
    · intro ⟨d, hd, hstate⟩
      obtain ⟨harmed, hstay, hquiet, hnight⟩ := (mapAlarmState_armedNight_iff _ _ _).mp hstate
      exact ⟨⟨d, (h.data_iff d).mp hd, harmed, hstay, hquiet⟩, hnight⟩
    · intro ⟨⟨d, hd, harmed, hstay, hquiet⟩, hnight⟩
      exact ⟨d, (h.data_iff d).mpr hd,
        (mapAlarmState_armedNight_iff _ _ _).mpr ⟨harmed, hstay, hquiet, hnight⟩⟩
  · intro a hpoll hcommand
    refine act_of_failed client c a hpoll ?_
    rw [h.configEntry]
    exact hcommand

end

/-- The poll of a panel armed to stay, with no zones. -/
def stayPoll : Poll String := .ofSnapshot ⟨⟨"armed", true, .obj []⟩, []⟩

/-- An evening: a disarmed panel is polled and asked to arm for the night, gives this
answer, and is polled again, armed to stay. -/
def evening (answer : Exchange) : List (Act String) :=
  [.poll (.ofSnapshot ⟨.disarmed, []⟩), .command .armNight fun _ => answer, .poll stayPoll]

/-- What Home Assistant shows at the end of it. -/
def shownAfter (answer : Exchange) : Option AlarmControlPanelState :=
  (Runs.run (@act String latin1 sampleClient) (.init bareEntry .empty) (evening answer)).alarmState

/-- The label follows the answer to the command: `armed_night` where the panel took it,
and for one that refused it and was then armed at the keypad, `armed_home`. -/
theorem night_shown_if_taken :
    shownAfter (.ofJson 200 (.obj [])) = some .armedNight ∧
      shownAfter (.ofJson 403 (.obj [])) = some .armedHome := by
  let _runtime := latin1
  refine ⟨?_, rfl⟩
  refine (alarmState_armedNight_iff sampleClient bareEntry .empty _).1.mpr
    ⟨⟨⟨⟨"armed", true, .obj []⟩, []⟩, ?_, rfl, rfl, by simp⟩, ?_⟩
  · exact ⟨[_, _], .poll stayPoll, [], rfl, rfl, by simp⟩
  · -- the 200 makes the command a success, and the poll after it reads "armed"
    refine ⟨[_], .command .armNight fun _ => .ofJson 200 (.obj []), [.poll stayPoll], rfl,
      ⟨_, rfl, rfl⟩, ?_⟩
    simp only [List.forall_mem_singleton]
    refine ⟨fun cmd ⟨panel, hcmd, _⟩ => absurd hcmd (by simp), fun d hd => ?_⟩
    rw [← Option.some.inj hd]
    exact Or.inl rfl

end Gc3.Hass
