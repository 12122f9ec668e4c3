import Gc3.Hass.Interleave
import Gc3.Hass.Traffic

/-!
# Home Assistant and the panel together

The panel as the README and the comments of `alarm_control_panel.py` document it: what
it does with an arm, a disarm and a read, its exit countdown, and the *auto-stay* that
turns an away arm into a stay one when nobody has left by the end of it. Next to such
a panel a command that is carried out is what Home Assistant shows
(`commanded_mode_shown`), for as long as nobody else gives one and, armed, no zone is
opened. Without the countdown the integration suppresses there is nothing for auto-stay
to convert.

The two run side by side, request by request: between the status and the zones of a
poll, between the panel's carrying a command out and its answer being noted, and between
any two of these, time passes and doors open. So the state (`Coupled`) has a poll and a
command in flight, and a run is a list of happenings none of which is refused. What is
left out of the modes is what the README says an opening does to an armed panel: an
entry countdown or a siren (`PanelMode.entered`), of which the status is not documented.

What carries the proof is `Tracks`: since the command was carried out the panel stands
where it was told to, the night flag is the command's as soon as it is noted, and what
was read since tells of the command. Every quiet happening keeps it (`Tracks.quiet`) and
so does the note (`Tracks.note`), the latter under the one condition a night arm needs:
that the poll in flight has not read a disarmed panel before, which its tail would take
for a reason to drop the flag.
-/

namespace Gc3.Hass

open Gc3.Py Gc3.Pygc3 Fallible Runs

/-! ## The panel -/

/-- Where the panel stands; while it counts down, whether an exit zone has opened and
how many seconds are left. `entered` is what an opening makes of an armed panel, the
entry countdown or the siren. -/
inductive PanelMode
  | ready
  | arming (stay exitOpened : Bool) (left : Nat)
  | armed (stay : Bool)
  | entered (stay : Bool)
  deriving DecidableEq, Repr

/-- What happens at the panel by itself: a second passes, a zone that is not bypassed
opens, somebody is at the keypad. -/
inductive PanelEvent
  | second
  | opening (exitZone : Bool)
  | keypad (mode : PanelMode)

/-- At the end of the countdown an away arm becomes a stay arm, unless somebody left. -/
def PanelMode.after : PanelMode → PanelEvent → PanelMode
  | .arming stay exitOpened (left + 2), .second => .arming stay exitOpened (left + 1)
  | .arming stay exitOpened _, .second => .armed (stay || !exitOpened)
  | .arming stay exitOpened left, .opening exitZone => .arming stay (exitOpened || exitZone) left
  -- with no countdown a door opened is an entry
  | .armed stay, .opening _ => .entered stay
  | _, .keypad mode => mode
  | mode, _ => mode

/-- The `armState` the panel gives, where it is documented. -/
def PanelMode.text : PanelMode → Option String
  | .ready => some "ready"
  | .arming .. => some "arming"
  | .armed _ => some "armed"
  | .entered _ => none

section

variable [Runtime]

/-- A status says where the panel stands. -/
structure PanelMode.Tells (mode : PanelMode) (status : PanelStatus) : Prop where
  armState_eq : ∀ text, mode.text = some text → status.armState = text
  isArmedStay_eq : ∀ stay, mode = .armed stay → status.isArmedStay = stay

/-- A panel that does as documented. It may refuse or fail any request; what it does
with one that it refuses is left open, except for a read. -/
structure DocumentedPanel (client : GC3Client) (σ : Type) where
  serve : σ → Request → Exchange × σ
  happen : σ → PanelEvent → σ
  mode : σ → PanelMode
  exitDelay : Nat
  mode_happen : ∀ s e, mode (happen s e) = (mode s).after e
  mode_read : ∀ s r, r.method = "GET" → mode (serve s r).2 = mode s
  status_tells : ∀ s status,
    client.status (fun _ => (serve s client.statusRequest).1) = .ok status → (mode s).Tells status
  mode_arm : ∀ s stay noEntryDelay noExitDelay bypass answer,
    let request := client.armRequest (.bool stay) noEntryDelay (.bool noExitDelay) bypass
      (.bool false) none
    client.arm (fun _ => (serve s request).1) (.bool stay) noEntryDelay (.bool noExitDelay) bypass
        (.bool false) none = .ok answer →
      mode (serve s request).2 = if noExitDelay then .armed stay else .arming stay false exitDelay
  mode_disarm : ∀ s pin answer,
    client.disarm (fun _ => (serve s (client.disarmRequest pin none)).1) pin none = .ok answer →
      mode (serve s (client.disarmRequest pin none)).2 = .ready

/-! ## Both together -/

/-- Home Assistant and the panel, with the poll and the command in flight. -/
structure Coupled (σ : Type) where
  coordinator : GC3Coordinator Json
  panel : σ
  poll : PollPhase Json
  command : CommandPhase

/-- One request of Home Assistant's and what is made of its answer, the two steps in
which nothing is sent, or something that happens at the panel. -/
inductive Happening
  | readStatus
  | readZones
  /-- The tail of `_async_update_data`, with the order its sets iterate in. -/
  | finish (order : SetOrder String)
  | send (cmd : AlarmCommand)
  | note
  | panel (e : PanelEvent)

variable {client : GC3Client} {σ : Type}

/-- A read has raised, and the poll with it. -/
def Coupled.pollFailed (x : Coupled σ) (panel : σ) : Coupled σ :=
  { x with
    coordinator := { x.coordinator with lastUpdateSuccess := false }
    panel := panel
    poll := .idle }

/-- One step, refused when its task is not where the step starts from. No two commands
are under way at once (`PARALLEL_UPDATES = 1`), and no two polls. -/
def DocumentedPanel.step (P : DocumentedPanel client σ) (x : Coupled σ) :
    Happening → Option (Coupled σ)
  | .readStatus =>
    match x.poll with
    | .idle =>
      let answer := P.serve x.panel client.statusRequest
      match client.status fun _ => answer.1 with
      | .ok status => some { x with panel := answer.2, poll := .statusRead status }
      | .error _ => some (x.pollFailed answer.2)
    | _ => none
  | .readZones =>
    match x.poll with
    | .statusRead status =>
      let answer := P.serve x.panel client.zonesRequest
      match client.zones (fun _ => answer.1) false with
      | .ok zones => some { x with panel := answer.2, poll := .zonesRead status zones }
      | .error _ => some (x.pollFailed answer.2)
    | _ => none
  | .finish order =>
    match x.poll with
    | .zonesRead status zones =>
      some { x with
        coordinator := GC3Coordinator.store (x.coordinator.finishUpdate order status zones)
        poll := .idle }
    | _ => none
  | .send cmd =>
    match x.command with
    | .idle =>
      match cmd.request client x.coordinator.configEntry with
      | none => some x
      | some request =>
        let answer := P.serve x.panel request
        match cmd.outcome client x.coordinator.configEntry fun _ => answer.1 with
        | .ok _ => some { x with panel := answer.2, command := .accepted cmd }
        | .error _ => some { x with panel := answer.2 }
    | _ => none
  | .note =>
    match x.command with
    | .accepted cmd =>
      some { x with coordinator := x.coordinator.noteArm cmd.night, command := .idle }
    | _ => none
  | .panel e => some { x with panel := P.happen x.panel e }

/-- Where a command asks the panel to stand. -/
def AlarmCommand.mode : AlarmCommand → PanelMode
  | .armHome => .armed true
  | .armAway => .armed false
  | .armNight => .armed true
  | .disarm _ => .ready

/-- The state a command should lead to. -/
def AlarmCommand.shown : AlarmCommand → AlarmControlPanelState
  | .armHome => .armedHome
  | .armAway => .armedAway
  | .armNight => .armedNight
  | .disarm _ => .disarmed

/-- Nobody gives a command, here or at the keypad, and no zone of an armed panel opens:
polls, and what the panel does by itself. -/
def Happening.Quiet (cmd : AlarmCommand) : Happening → Prop
  | .readStatus => True
  | .readZones => True
  | .finish _ => True
  | .panel .second => True
  | .panel (.opening _) => cmd.mode = .ready
  | _ => False

/-- A poll was begun among these happenings, and afterwards one was finished. -/
def Polled (es : List Happening) : Prop :=
  ∃ before order after, es = before ++ .finish order :: after ∧ .readStatus ∈ before

/-- The poll in flight, if there is one, has read a status that tells of the command. -/
def PollPhase.TellsOf (cmd : AlarmCommand) : PollPhase Json → Prop
  | .idle => True
  | .statusRead status => cmd.mode.Tells status
  | .zonesRead status _ => cmd.mode.Tells status

/-- A snapshot taken since the command tells of it. -/
def Seen (cmd : AlarmCommand) (x : Coupled σ) : Prop :=
  ∃ d, x.coordinator.data = some d ∧ cmd.mode.Tells d.status

/-- The command is carried out and not noted yet, or noted and safe. -/
inductive Flagged (cmd : AlarmCommand) (x : Coupled σ) : Prop
  | pending (h : x.command = .accepted cmd)
  | noted (hcommand : x.command = .idle) (hnight : x.coordinator.armedNight = cmd.night)
      (hharmless : cmd.night = true → x.poll.Harmless)

/-- What holds since the panel carried the command out, of what has happened since. -/
structure Tracks (P : DocumentedPanel client σ) (cmd : AlarmCommand) (es : List Happening)
    (x : Coupled σ) : Prop where
  mode_eq : P.mode x.panel = cmd.mode
  flagged : Flagged cmd x
  tells : .readStatus ∈ es → x.poll.TellsOf cmd
  seen : Polled es → Seen cmd x

/-! ### What each step does -/

section

variable {P : DocumentedPanel client σ} {x y : Coupled σ}

/-- A status read either brings a status, or ends the poll. -/
theorem step_readStatus (h : P.step x .readStatus = some y) :
    x.poll = .idle ∧
      ((∃ status, client.status (fun _ => (P.serve x.panel client.statusRequest).1) = .ok status ∧
          y = { x with
            panel := (P.serve x.panel client.statusRequest).2, poll := .statusRead status }) ∨
        y = x.pollFailed (P.serve x.panel client.statusRequest).2) := by
  unfold DocumentedPanel.step at h
  cases hpoll : x.poll with
  | idle =>
    simp only [hpoll] at h
    cases hstatus : client.status fun _ => (P.serve x.panel client.statusRequest).1 with
    | ok status =>
      simp only [hstatus] at h
      exact ⟨rfl, Or.inl ⟨status, rfl, (Option.some.inj h).symm⟩⟩
    | error err =>
      simp only [hstatus] at h
      exact ⟨rfl, Or.inr (Option.some.inj h).symm⟩
  | statusRead status => simp [hpoll] at h
  | zonesRead status zones => simp [hpoll] at h

/-- A zones read keeps the status, or ends the poll. -/
theorem step_readZones (h : P.step x .readZones = some y) :
    ∃ status, x.poll = .statusRead status ∧
      ((∃ zones, y = { x with
          panel := (P.serve x.panel client.zonesRequest).2, poll := .zonesRead status zones }) ∨
        y = x.pollFailed (P.serve x.panel client.zonesRequest).2) := by
  unfold DocumentedPanel.step at h
  cases hpoll : x.poll with
  | idle => simp [hpoll] at h
  | statusRead status =>
    simp only [hpoll] at h
    refine ⟨status, rfl, ?_⟩
    split at h
    · exact Or.inl ⟨_, (Option.some.inj h).symm⟩
    · exact Or.inr (Option.some.inj h).symm
  | zonesRead status zones => simp [hpoll] at h

/-- A tail runs behind both reads, and stores what they brought. -/
theorem step_finish {order : SetOrder String} (h : P.step x (.finish order) = some y) :
    ∃ status zones, x.poll = .zonesRead status zones ∧ y = { x with
      coordinator := GC3Coordinator.store (x.coordinator.finishUpdate order status zones)
      poll := .idle } := by
  unfold DocumentedPanel.step at h
  cases hpoll : x.poll with
  | idle => simp [hpoll] at h
  | statusRead status => simp [hpoll] at h
  | zonesRead status zones =>
    simp only [hpoll] at h
    exact ⟨status, zones, rfl, (Option.some.inj h).symm⟩

/-- A note is that of the command the panel has accepted. -/
theorem step_note (h : P.step x .note = some y) :
    ∃ cmd, x.command = .accepted cmd ∧ y = { x with
      coordinator := x.coordinator.noteArm cmd.night, command := .idle } := by
  unfold DocumentedPanel.step at h
  cases hcommand : x.command with
  | idle => simp [hcommand] at h
  | accepted cmd =>
    simp only [hcommand] at h
    exact ⟨cmd, rfl, (Option.some.inj h).symm⟩

omit [Runtime] in
/-- A client call behind a command that came off has returned. -/
theorem command_eq_ok {ν : Type} {c : GC3Coordinator ν} {action : Except Raised Json} {night : Bool}
    {u : Unit} (h : (c.command action night).map (fun _ => ()) = .ok u) :
    ∃ answer, action = .ok answer := by
  cases action with
  | ok answer => exact ⟨answer, rfl⟩
  | error err => cases err <;> contradiction

/-- A panel that has carried a command out stands where it was told to. -/
theorem mode_of_outcome {entry : ConfigEntry} {cmd : AlarmCommand} {request : Request} {s : σ}
    {u : Unit} (hrequest : cmd.request client entry = some request)
    (hok : cmd.outcome client entry (fun _ => (P.serve s request).1) = .ok u) :
    P.mode (P.serve s request).2 = cmd.mode := by
  replace hrequest := wording_of_request hrequest
  cases cmd with
  | disarm code =>
    by_cases hpin : (pinOf entry code).truthy = true
    · unfold AlarmCommand.wording at hrequest
      dsimp only at hrequest
      rw [if_pos hpin] at hrequest
      obtain rfl := Option.some.inj hrequest
      unfold AlarmCommand.outcome GC3Coordinator.asyncCommand GC3Coordinator.asyncAlarmDisarm at hok
      dsimp only at hok
      rw [disarmPin_eq, if_neg (by simpa [GC3Coordinator.init] using hpin)] at hok
      obtain ⟨answer, hanswer⟩ := command_eq_ok hok
      exact P.mode_disarm s _ answer hanswer
    · simp [AlarmCommand.wording, hpin] at hrequest
  | _ =>
    obtain rfl := Option.some.inj hrequest
    obtain ⟨answer, hanswer⟩ := command_eq_ok hok
    exact P.mode_arm s _ _ true _ answer hanswer

/-- A command sent is pending if the panel has carried it out, and else forgotten. -/
theorem step_send {cmd : AlarmCommand} (h : P.step x (.send cmd) = some y) :
    y.command = .accepted cmd ∧ P.mode y.panel = cmd.mode ∨ y.command = .idle := by
  unfold DocumentedPanel.step at h
  cases hcommand : x.command with
  | accepted cmd' => simp [hcommand] at h
  | idle =>
    simp only [hcommand] at h
    split at h
    · obtain rfl := Option.some.inj h
      exact Or.inr hcommand
    next request hrequest =>
      split at h
      next u hok =>
        obtain rfl := Option.some.inj h
        exact Or.inl ⟨rfl, mode_of_outcome hrequest hok⟩
      · obtain rfl := Option.some.inj h
        exact Or.inr rfl

/-- Quiet happenings leave the command in flight as it is. -/
theorem command_of_quiet {cmd : AlarmCommand} {e : Happening} (he : e.Quiet cmd)
    (h : P.step x e = some y) : y.command = x.command := by
  cases e with
  | readStatus =>
    obtain ⟨-, ⟨status, -, rfl⟩ | rfl⟩ := step_readStatus h
    · rfl
    · rfl
  | readZones =>
    obtain ⟨status, -, ⟨zones, rfl⟩ | rfl⟩ := step_readZones h
    · rfl
    · rfl
  | finish order =>
    obtain ⟨status, zones, -, rfl⟩ := step_finish h
    rfl
  | send cmd' => exact absurd he id
  | note => exact absurd he id
  | panel e =>
    obtain rfl := Option.some.inj h
    rfl

end

/-! ### What is kept -/

omit [Runtime] in
/-- A suppressed countdown leaves the clock nothing to change. -/
theorem mode_after_quiet {cmd : AlarmCommand} {e : PanelEvent}
    (h : (Happening.panel e).Quiet cmd) : cmd.mode.after e = cmd.mode := by
  cases e with
  | second => cases cmd <;> rfl
  | opening exitZone =>
    have hready : cmd.mode = .ready := h
    rw [hready]
    rfl
  | keypad mode => exact absurd h id

omit [Runtime] in
/-- A mode a command asks for is no reason to drop its flag. -/
theorem holdsNight_of_tells {cmd : AlarmCommand} (hnight : cmd.night = true)
    {status : PanelStatus} (h : cmd.mode.Tells status) : HoldsNight status := by
  cases cmd with
  | armNight => exact Or.inl (h.armState_eq "armed" rfl)
  | _ => contradiction

omit [Runtime] in
theorem polled_concat {es : List Happening} {e : Happening} (h : Polled (es ++ [e])) :
    Polled es ∨ (∃ order, e = .finish order) ∧ .readStatus ∈ es := by
  obtain ⟨before, order, after, heq, hread⟩ := h
  rcases List.eq_nil_or_concat after with rfl | ⟨after, e', rfl⟩
  · obtain ⟨rfl, rfl⟩ := List.append_singleton_inj.mp heq
    exact Or.inr ⟨⟨order, rfl⟩, hread⟩
  · refine Or.inl ⟨before, order, after, ?_, hread⟩
    rw [List.concat_eq_append, ← List.cons_append, ← List.append_assoc] at heq
    exact (List.append_singleton_inj.mp heq).1

omit [Runtime] in
/-- A step that finishes no poll leaves what was seen before it to be seen. -/
theorem seen_of_unfinished {cmd : AlarmCommand} {es : List Happening} {e : Happening}
    {x y : Coupled σ} (hseen : Polled es → Seen cmd x)
    (hdata : y.coordinator.data = x.coordinator.data)
    (he : ∀ order, e ≠ .finish order) (h : Polled (es ++ [e])) : Seen cmd y := by
  rcases polled_concat h with hpolled | ⟨⟨order, rfl⟩, -⟩
  · unfold Seen
    rw [hdata]
    exact hseen hpolled
  · exact absurd rfl (he order)

section

variable {P : DocumentedPanel client σ} {cmd : AlarmCommand} {es : List Happening} {x y : Coupled σ}

omit [Runtime] in
/-- A step that leaves command and flag alone keeps the flag safe, if the poll is. -/
theorem Flagged.of_eq (h : Flagged cmd x) (hcommand : y.command = x.command)
    (hnight : y.coordinator.armedNight = x.coordinator.armedNight)
    (hharmless : cmd.night = true → x.poll.Harmless → y.poll.Harmless) : Flagged cmd y := by
  cases h with
  | pending h => exact .pending (hcommand.trans h)
  | noted hidle hflag hpoll =>
    exact .noted (hcommand.trans hidle) (hnight.trans hflag) fun h => hharmless h (hpoll h)

/-- A status read from here on tells of the command, so the poll it begins is safe. -/
theorem Tracks.readStatus (h : Tracks P cmd es x) (hstep : P.step x .readStatus = some y) :
    Tracks P cmd (es ++ [.readStatus]) y := by
  have hmode : P.mode (P.serve x.panel client.statusRequest).2 = cmd.mode :=
    (P.mode_read _ _ rfl).trans h.mode_eq
  obtain ⟨-, ⟨status, hstatus, rfl⟩ | rfl⟩ := step_readStatus hstep
  · have htells : cmd.mode.Tells status := h.mode_eq ▸ P.status_tells x.panel status hstatus
    exact ⟨hmode, h.flagged.of_eq rfl rfl fun hnight _ => holdsNight_of_tells hnight htells,
      fun _ => htells, seen_of_unfinished h.seen rfl (by simp)⟩
  · exact ⟨hmode, h.flagged.of_eq rfl rfl fun _ _ => trivial, fun _ => trivial,
      seen_of_unfinished h.seen rfl (by simp)⟩

/-- The zones change nothing of what the status told. -/
theorem Tracks.readZones (h : Tracks P cmd es x) (hstep : P.step x .readZones = some y) :
    Tracks P cmd (es ++ [.readZones]) y := by
  have hmode : P.mode (P.serve x.panel client.zonesRequest).2 = cmd.mode :=
    (P.mode_read _ _ rfl).trans h.mode_eq
  have htells : .readStatus ∈ es ++ [.readZones] → x.poll.TellsOf cmd := by
    simpa using h.tells
  obtain ⟨status, hpoll, ⟨zones, rfl⟩ | rfl⟩ := step_readZones hstep
  · rw [hpoll] at htells
    refine ⟨hmode, h.flagged.of_eq rfl rfl fun _ hharmless => ?_, htells,
      seen_of_unfinished h.seen rfl (by simp)⟩
    rw [hpoll] at hharmless
    exact hharmless
  · exact ⟨hmode, h.flagged.of_eq rfl rfl fun _ _ => trivial, fun _ => trivial,
      seen_of_unfinished h.seen rfl (by simp)⟩

/-- The tail of a poll keeps the flag of a command it tells of, and brings it to be seen. -/
theorem Tracks.finish {order : SetOrder String} (h : Tracks P cmd es x)
    (hstep : P.step x (.finish order) = some y) : Tracks P cmd (es ++ [.finish order]) y := by
  obtain ⟨status, zones, hpoll, rfl⟩ := step_finish hstep
  refine ⟨h.mode_eq, ?_, fun _ => trivial, fun hpolled => ?_⟩
  · cases h.flagged with
    | pending hcommand => exact .pending hcommand
    | noted hidle hflag hharmless =>
      refine .noted hidle ?_ fun _ => trivial
      show (GC3Coordinator.store (x.coordinator.finishUpdate order status zones)).armedNight = _
      rw [GC3Coordinator.finishUpdate_armedNight, hflag]
      cases hnight : cmd.night with
      | false => exact ite_self _
      | true =>
        rw [hpoll] at hharmless
        exact if_pos (hharmless hnight)
  · rcases polled_concat hpolled with hbefore | ⟨-, hread⟩
    · -- the snapshot is replaced by a later one, which tells of the command as well
      obtain ⟨before, order', after, rfl, hread⟩ := hbefore
      have htells := h.tells (List.mem_append_left _ hread)
      rw [hpoll] at htells
      exact ⟨⟨status, zones⟩, rfl, htells⟩
    · have htells := h.tells hread
      rw [hpoll] at htells
      exact ⟨⟨status, zones⟩, rfl, htells⟩

/-- Quiet, the panel stays as it was told, the flag stays, and what is read tells of the
command. -/
theorem Tracks.quiet {e : Happening} (h : Tracks P cmd es x) (he : e.Quiet cmd)
    (hstep : P.step x e = some y) : Tracks P cmd (es ++ [e]) y := by
  cases e with
  | readStatus => exact h.readStatus hstep
  | readZones => exact h.readZones hstep
  | finish order => exact h.finish hstep
  | send cmd' => exact absurd he id
  | note => exact absurd he id
  | panel e =>
    obtain rfl := Option.some.inj hstep
    refine ⟨?_, h.flagged.of_eq rfl rfl fun _ hharmless => hharmless, fun hread => h.tells ?_,
      seen_of_unfinished h.seen rfl (by simp)⟩
    · rw [P.mode_happen, h.mode_eq, mode_after_quiet he]
    · simpa using hread

/-- The note sets the flag, which is safe if the poll in flight is. -/
theorem Tracks.note (h : Tracks P cmd es x) (hharmless : cmd.night = true → x.poll.Harmless)
    (hstep : P.step x .note = some y) : Tracks P cmd (es ++ [.note]) y := by
  obtain ⟨cmd', hcommand, rfl⟩ := step_note hstep
  have hsame : cmd' = cmd := by
    cases h.flagged with
    | pending hpending => exact CommandPhase.accepted.inj (hcommand.symm.trans hpending)
    | noted hidle => exact absurd (hidle.symm.trans hcommand) (by simp)
  subst hsame
  refine ⟨h.mode_eq, .noted rfl rfl hharmless, fun hread => h.tells ?_,
    seen_of_unfinished h.seen rfl (by simp)⟩
  simpa using hread

/-- And so through any quiet stretch. -/
theorem Tracks.run (h : Tracks P cmd es x) {later : List Happening}
    (hlater : ∀ e ∈ later, e.Quiet cmd) (hrun : exec P.step x later = some y) :
    Tracks P cmd (es ++ later) y := by
  induction later generalizing es x with
  | nil =>
    obtain rfl := Option.some.inj hrun
    rwa [List.append_nil]
  | cons e later ih =>
    obtain ⟨t, ht, hrest⟩ := exec_cons_eq_some.mp hrun
    have hend := ih (h.quiet (hlater e (List.mem_cons_self ..)) ht)
      (fun e' he' => hlater e' (List.mem_cons_of_mem _ he')) hrest
    rwa [List.append_assoc] at hend

/-- Nor does a quiet stretch. -/
theorem command_of_quiet_run {later : List Happening} (hlater : ∀ e ∈ later, e.Quiet cmd)
    (hrun : exec P.step x later = some y) : y.command = x.command :=
  exec_invariant (I := fun t => t.command = x.command) (C := fun e => e.Quiet cmd)
    (fun _ _ _ he ht hstep => (command_of_quiet he hstep).trans ht) hlater rfl hrun

/-- A command that is noted, and seen, is shown. -/
theorem Tracks.alarmState (h : Tracks P cmd es x) (hidle : x.command = .idle)
    (hpolled : Polled es) : ∃ d, x.coordinator.data = some d ∧ x.coordinator.alarmState =
      some (if d.zones.any (·.status.inAlarm) then .triggered else cmd.shown) := by
  obtain ⟨d, hd, htells⟩ := h.seen hpolled
  have hnight : x.coordinator.armedNight = cmd.night := by
    cases h.flagged with
    | pending hpending => exact absurd (hidle.symm.trans hpending) (by simp)
    | noted _ hflag _ => exact hflag
  refine ⟨d, hd, ?_⟩
  unfold GC3Coordinator.alarmState
  rw [hd, Option.map_some, hnight]
  unfold mapAlarmState
  refine congrArg some (if_congr Iff.rfl rfl ?_)
  -- the arm state is the mode's, and the night flag tells the two stay arms apart
  cases cmd with
  | disarm code =>
    have hready : inStr "alarm" "ready" = false := by decide
    simp [htells.armState_eq "ready" rfl, AlarmCommand.shown, hready]
  | armHome => simp [htells.armState_eq "armed" rfl, htells.isArmedStay_eq true rfl,
      AlarmCommand.night, AlarmCommand.shown]
  | armAway => simp [htells.armState_eq "armed" rfl, htells.isArmedStay_eq false rfl,
      AlarmCommand.shown]
  | armNight => simp [htells.armState_eq "armed" rfl, htells.isArmedStay_eq true rfl,
      AlarmCommand.night, AlarmCommand.shown]

end

end

/-! ## A panel that does so -/

/-- The answer to `/status`; over an entry the panel goes on to call itself armed. -/
def PanelMode.statusBody (mode : PanelMode) : Json :=
  .obj [("armState", .str (mode.text.getD "armed")), ("isArmedStay", .bool (mode == .armed true))]

/-- Carries out every request, on a panel without zones. -/
def PanelMode.serve (mode : PanelMode) (r : Request) : Exchange × PanelMode :=
  if r.method = "GET" then
    if r.url = sampleClient.statusRequest.url then (.ofJson 200 mode.statusBody, mode)
    else (.ofJson 200 (.arr []), mode)
  else
    match r.json with
    | some (.obj [_, ("armStay", .bool stay), ("noExitDelay", .bool noExitDelay), _, _, _]) =>
      (.ofJson 200 (.obj []), if noExitDelay then .armed stay else .arming stay false 60)
    | _ => (.ofJson 200 (.obj []), .ready)

/-- The status of the simulated panel is read as where it stands. -/
theorem statusBody_tells {mode : PanelMode} {status : PanelStatus}
    (h : @GC3Client.status latin1 sampleClient (fun _ => .ofJson 200 mode.statusBody) =
      .ok status) : mode.Tells status := by
  let _runtime := latin1
  unfold PanelMode.statusBody at h
  rw [status_ofJson sampleClient (by decide), panelStatus_fromJson_obj] at h
  obtain rfl := Except.ok.inj h
  cases mode with
  | ready =>
    refine ⟨fun text htext => ?_, fun _ h => by contradiction⟩
    rw [← Option.some.inj htext]
    exact show lower "ready" = "ready" by decide +kernel
  | arming stay exitOpened left =>
    refine ⟨fun text htext => ?_, fun _ h => by contradiction⟩
    rw [← Option.some.inj htext]
    exact show lower "arming" = "arming" by decide +kernel
  | armed stay =>
    refine ⟨fun text htext => ?_, fun stay' h => ?_⟩
    · rw [← Option.some.inj htext]
      exact show lower "armed" = "armed" by decide +kernel
    · obtain rfl := PanelMode.armed.inj h
      cases stay with
      | false => rfl
      | true => rfl
  | entered stay => exact ⟨fun text h => by contradiction, fun _ h => by contradiction⟩

def simulatedPanel : @DocumentedPanel latin1 sampleClient PanelMode :=
  letI := latin1
  { serve := PanelMode.serve
    happen := PanelMode.after
    mode := id
    exitDelay := 60
    mode_happen := fun _ _ => rfl
    mode_read := by
      intro mode r hget
      unfold PanelMode.serve
      rw [if_pos hget]
      split
      · rfl
      · rfl
    status_tells := fun _ _ h => statusBody_tells h
    mode_arm := fun _ _ _ _ _ _ _ => rfl
    mode_disarm := fun _ _ _ _ => rfl }

/-- Somebody's countdown to away, in its last second, with a poll that has just read it. -/
def countingDown : Coupled PanelMode :=
  ⟨.init bareEntry .empty, .arming false false 1, .statusRead ⟨"arming", false, .obj []⟩, .idle⟩

/-- With a countdown, the same second would have ended in a stay arm. -/
example : PanelMode.after (.arming false false 1) .second = .armed true := rfl

end Gc3.Hass
