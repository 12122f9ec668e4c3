import Gc3.Hass.AlarmControlPanel
import Gc3.Hass.AlarmState
import Gc3.Hass.ConfigFlow
import Gc3.Hass.NightFlag
import Gc3.Pygc3.Wire

/-!
# What Home Assistant sends the panel

Polls and commands as programs that talk to a panel, which may change, fail and answer
as it likes from one request to the next. A poll asks for the zones only once it has
read the status; a command is one request, and none at all for a disarm without a PIN or
for a partition that no URL can be written for. `session_performs` says this of whole
sessions, task by task, and that each task amounts to one step of `Gc3.Hass.NightFlag`:
what has been shown of runs of these steps holds of sessions with a live panel.

And the stored PIN goes nowhere else: as long as every disarm brings its own code,
nothing that is sent depends on it (`pin_stays_home`). Both are results about programs
that ask, and both go by the rules of `Gc3.Lib.Ask`: `Ask.session` lifts a fact about
one task to a list of them, and `Ask.Alike` relates two programs that put the same
questions and go on alike whatever they are answered. What is left to show here is one
task each time: `poll_performs` and `command_performs`, and `talk_alike`.
-/

namespace Gc3.Hass

open Gc3.Py Gc3.Pygc3

variable {ν : Type}

section

variable [Runtime]

/-! ## Tasks -/

/-- `/zones` is not tried when `/status` raised. -/
def zonesAfter (client : GC3Client) (order : SetOrder String) :
    Except Raised PanelStatus → Talk (Poll Json)
  | .error err => return ⟨.error err, .error err, order⟩
  | .ok status => return ⟨.ok status, ← client.zonesTalk false, order⟩

/-- The two reads of `_async_update_data`. -/
def pollTalk (client : GC3Client) (order : SetOrder String) : Talk (Poll Json) := do
  zonesAfter client order (← client.statusTalk)

/-- A command of the panel entity. -/
def commandTalk (client : GC3Client) (c : GC3Coordinator ν) :
    AlarmCommand → Talk (Except CommandError (GC3Coordinator ν))
  | .armHome => do
    let o := c.armOptions CONF_NO_ENTRY_DELAY
    let answer ← client.armTalk (.bool true) o.noEntryDelay o.noExitDelay o.bypassNotReady
      (.bool false) none
    return c.command answer false
  | .armAway => do
    let o := c.armOptions CONF_NO_ENTRY_DELAY
    let answer ← client.armTalk (.bool false) o.noEntryDelay o.noExitDelay o.bypassNotReady
      (.bool false) none
    return c.command answer false
  | .armNight => do
    let o := c.armOptions CONF_NIGHT_NO_ENTRY_DELAY
    let answer ← client.armTalk (.bool true) o.noEntryDelay o.noExitDelay o.bypassNotReady
      (.bool false) none
    return c.command answer true
  | .disarm code =>
    let pin := c.disarmPin code
    if !pin.truthy then return .error .noDisarmPin
    else do
      let answer ← client.disarmTalk pin none
      return c.command answer false

/-- What Home Assistant sets going: a poll, or a command. -/
inductive Task
  | poll (order : SetOrder String)
  | command (cmd : AlarmCommand)

/-- A command that raises leaves the coordinator as it was. -/
def afterCommand (c : GC3Coordinator ν) (r : Except CommandError (GC3Coordinator ν)) :
    GC3Coordinator ν :=
  match r with
  | .ok c' => c'
  | .error _ => c

def Task.talk (client : GC3Client) (c : GC3Coordinator Json) : Task → Talk (GC3Coordinator Json)
  | .poll order => do return c.asyncRefresh (← pollTalk client order)
  | .command cmd => do return afterCommand c (← commandTalk client c cmd)

/-! ## What is sent -/

/-- An arm with the entry's flags; the exit delay is always suppressed. -/
def armRequestOf (client : GC3Client) (entry : ConfigEntry) (stay : Bool)
    (entryDelayOption : String) : Request :=
  client.armRequest (.bool stay) (getOr entry.options entryDelayOption (.bool false)) (.bool true)
    (getOr entry.options CONF_BYPASS_NOT_READY (.bool false)) (.bool false) none

/-- The PIN a disarm sends: the code it was given, or else the stored one. -/
def pinOf (entry : ConfigEntry) (code : Option String) : Json :=
  (Json.str (code.getD "")).or (getOr entry.data CONF_DISARM_PIN (.str ""))

/-- What a command asks the panel; a disarm without a PIN asks nothing. -/
def AlarmCommand.wording (client : GC3Client) (entry : ConfigEntry) :
    AlarmCommand → Option Request
  | .armHome => some (armRequestOf client entry true CONF_NO_ENTRY_DELAY)
  | .armAway => some (armRequestOf client entry false CONF_NO_ENTRY_DELAY)
  | .armNight => some (armRequestOf client entry true CONF_NIGHT_NO_ENTRY_DELAY)
  | .disarm code =>
    if (pinOf entry code).truthy then some (client.disarmRequest (pinOf entry code) none) else none

/-- The one request of a command: none if it asks nothing, or for a boolean partition, which
no URL can be written for. -/
def AlarmCommand.request (client : GC3Client) (entry : ConfigEntry) (cmd : AlarmCommand) :
    Option Request :=
  match client.partition with
  | .number _ => cmd.wording client entry
  | .flag _ => none

omit [Runtime] in
/-- What is sent is what the command asks. -/
theorem wording_of_request {client : GC3Client} {entry : ConfigEntry} {cmd : AlarmCommand}
    {request : Request} (h : cmd.request client entry = some request) :
    cmd.wording client entry = some request := by
  unfold AlarmCommand.request at h
  split at h
  · exact h
  · contradiction

omit [Runtime] in
theorem disarmPin_eq (c : GC3Coordinator ν) (code : Option String) :
    c.disarmPin code = pinOf c.configEntry code := by
  cases code with
  | none => rfl
  | some code => rfl

/-- One request, and what is made of its answer. -/
def askOne (client : GC3Client) (c : GC3Coordinator Json) (cmd : AlarmCommand) :
    Option Request → Talk (GC3Coordinator Json)
  | none => .done c
  | some request => .ask request fun answer => .done (act client c (.command cmd fun _ => answer))

/-- For a number a command is its request, and what is made of the answer. -/
theorem command_asks_number {client : GC3Client} {n : Int} (hpart : client.partition = .number n)
    (c : GC3Coordinator Json) (cmd : AlarmCommand) :
    (Task.command cmd).talk client c = askOne client c cmd (cmd.wording client c.configEntry) := by
  have hnone : client.partitionOr none = .number n := hpart
  cases cmd with
  | disarm code =>
    unfold Task.talk commandTalk AlarmCommand.wording
    dsimp only
    rw [disarmPin_eq]
    -- with a PIN the disarm is sent, without one it is refused before anything is asked
    by_cases hpin : (pinOf c.configEntry code).truthy = true
    · rw [if_pos hpin, if_neg (by simp [hpin]), GC3Client.disarmTalk,
        GC3Client.askFor_number hnone]
      refine congrArg (Ask.ask _) (funext fun answer => congrArg Ask.done ?_)
      show _ = act client c (.command (.disarm code) fun _ => answer)
      unfold act GC3Coordinator.asyncCommand GC3Coordinator.asyncAlarmDisarm
      dsimp only
      rw [disarmPin_eq, if_neg (by simp [hpin])]
      rfl
    · rw [if_neg hpin, if_pos (by simp [hpin])]
      rfl
  | _ =>
    unfold Task.talk commandTalk GC3Client.armTalk
    simp only [GC3Client.askFor_number hnone]
    rfl

/-- For a boolean it raises, if only once it has its PIN, and changes nothing. -/
theorem command_asks_flag {client : GC3Client} {b : Bool} (hpart : client.partition = .flag b)
    (c : GC3Coordinator Json) (cmd : AlarmCommand) :
    (Task.command cmd).talk client c = .done c := by
  have hnone : client.partitionOr none = .flag b := hpart
  cases cmd with
  | disarm code =>
    unfold Task.talk commandTalk
    dsimp only
    by_cases hpin : (!(c.disarmPin code).truthy) = true
    · rw [if_pos hpin]
      rfl
    · obtain ⟨err, herr⟩ := GC3Client.askFor_flag hnone
        (client.disarmRequest (c.disarmPin code) none) fun panel =>
          client.disarm panel (c.disarmPin code) none
      rw [if_neg hpin, GC3Client.disarmTalk, herr]
      rfl
  | _ =>
    unfold Task.talk commandTalk GC3Client.armTalk
    dsimp only
    obtain ⟨err, herr⟩ := GC3Client.askFor_flag hnone (client.armRequest _ _ _ _ _ none)
      fun panel => client.arm panel _ _ _ _ _ none
    rw [herr]
    rfl

/-- A command is its request, if it has one, and what is made of the answer. -/
theorem command_asks (client : GC3Client) (c : GC3Coordinator Json) (cmd : AlarmCommand) :
    (Task.command cmd).talk client c = askOne client c cmd (cmd.request client c.configEntry) := by
  unfold AlarmCommand.request
  cases hpart : client.partition with
  | number n => exact command_asks_number hpart c cmd
  | flag b => exact command_asks_flag hpart c cmd

/-- What a task says to the panel, and the step it is. -/
inductive Performs (client : GC3Client) (entry : ConfigEntry) :
    Task → List (Request × Exchange) → Act Json → Prop
  | statusFailed {answer : Exchange} {err : Raised} (order : SetOrder String)
      (hstatus : client.status (fun _ => answer) = .error err) :
      Performs client entry (.poll order) [(client.statusRequest, answer)]
        (.poll ⟨.error err, .error err, order⟩)
  | polled {answer : Exchange} {status : PanelStatus} (answer' : Exchange)
      (order : SetOrder String) (hstatus : client.status (fun _ => answer) = .ok status) :
      Performs client entry (.poll order)
        [(client.statusRequest, answer), (client.zonesRequest, answer')]
        (.poll (pollOver client answer answer' order))
  | commanded {cmd : AlarmCommand} {request : Request} (answer : Exchange)
      (hrequest : cmd.request client entry = some request) :
      Performs client entry (.command cmd) [(request, answer)] (.command cmd fun _ => answer)
  | refused {cmd : AlarmCommand} (panel : Panel) (hrequest : cmd.request client entry = none) :
      Performs client entry (.command cmd) [] (.command cmd panel)

omit [Runtime] in
/-- A client call that raised makes the command raise. -/
theorem command_of_error {c : GC3Coordinator ν} {action : Except Raised Json} {err : Raised}
    (h : action = .error err) (night : Bool) :
    ∃ err', c.command action night = .error err' := by
  rw [h]
  cases err with
  | gc3 err => exact ⟨_, rfl⟩
  | py err => exact ⟨_, rfl⟩

/-- A command without a request is refused by every panel. -/
theorem outcome_of_request_none {client : GC3Client} {entry : ConfigEntry} {cmd : AlarmCommand}
    (h : cmd.request client entry = none) (panel : Panel) :
    ∃ err, cmd.outcome client entry panel = .error err := by
  unfold AlarmCommand.outcome
  suffices hraised : ∃ err, (GC3Coordinator.init entry
      (IssueRegistry.empty : IssueRegistry Unit)).asyncCommand client panel cmd = .error err by
    obtain ⟨err, herr⟩ := hraised
    exact ⟨err, by rw [herr]; rfl⟩
  unfold AlarmCommand.request at h
  cases hpart : client.partition with
  | number n =>
    rw [hpart] at h
    cases cmd with
    | disarm code =>
      have hpin : ¬ (pinOf entry code).truthy = true := by
        simpa [AlarmCommand.wording] using h
      unfold GC3Coordinator.asyncCommand GC3Coordinator.asyncAlarmDisarm
      dsimp only
      rw [disarmPin_eq, if_pos (by simpa [GC3Coordinator.init] using hpin)]
      exact ⟨_, rfl⟩
    | _ => contradiction
  | flag b =>
    have hnone : client.partitionOr none = .flag b := hpart
    cases cmd with
    | disarm code =>
      unfold GC3Coordinator.asyncCommand GC3Coordinator.asyncAlarmDisarm
      dsimp only
      split
      · exact ⟨_, rfl⟩
      · obtain ⟨err, herr⟩ := GC3Client.disarm_flag hnone panel _
        exact command_of_error herr _
    | _ =>
      obtain ⟨err, herr⟩ := GC3Client.arm_flag hnone panel _ _ _ _ _
      exact command_of_error herr _

variable {σ : Type} {client : GC3Client}

/-- A poll whose status read fails says nothing more. -/
theorem poll_run_error {serve : σ → Request → Exchange × σ} {s : σ} {err : Raised}
    (h : client.status (fun _ => (serve s client.statusRequest).1) = .error err)
    (c : GC3Coordinator Json) (order : SetOrder String) :
    ((Task.poll order).talk client c).run serve s =
        (c.asyncRefresh ⟨.error err, .error err, order⟩, (serve s client.statusRequest).2) ∧
      ((Task.poll order).talk client c).transcript serve s =
        [(client.statusRequest, (serve s client.statusRequest).1)] := by
  have hasks : (Task.poll order).talk client c = .ask client.statusRequest fun answer =>
      (zonesAfter client order (client.status fun _ => answer)).bind fun p =>
        .done (c.asyncRefresh p) := rfl
  rw [hasks, Ask.transcript, Ask.run, h]
  exact ⟨rfl, rfl⟩

/-- One whose status read succeeds asks for the zones as the panel then stands. -/
theorem poll_run_ok {serve : σ → Request → Exchange × σ} {s : σ} {status : PanelStatus}
    (h : client.status (fun _ => (serve s client.statusRequest).1) = .ok status)
    (c : GC3Coordinator Json) (order : SetOrder String) :
    let zonesAnswer := serve (serve s client.statusRequest).2 client.zonesRequest
    ((Task.poll order).talk client c).run serve s =
        (c.asyncRefresh ⟨.ok status, client.zones (fun _ => zonesAnswer.1) false, order⟩,
          zonesAnswer.2) ∧
      ((Task.poll order).talk client c).transcript serve s =
        [(client.statusRequest, (serve s client.statusRequest).1),
          (client.zonesRequest, zonesAnswer.1)] := by
  have hasks : (Task.poll order).talk client c = .ask client.statusRequest fun answer =>
      (zonesAfter client order (client.status fun _ => answer)).bind fun p =>
        .done (c.asyncRefresh p) := rfl
  rw [hasks, Ask.transcript, Ask.run, h]
  exact ⟨rfl, rfl⟩

/-- A poll performs a poll: of the two answers, or of the one whose read failed. -/
theorem poll_performs (serve : σ → Request → Exchange × σ) (c : GC3Coordinator Json)
    (order : SetOrder String) (s : σ) :
    ∃ a, Performs client c.configEntry (.poll order)
        (((Task.poll order).talk client c).transcript serve s) a ∧
      (((Task.poll order).talk client c).run serve s).1 = act client c a := by
  cases hstatus : client.status fun _ => (serve s client.statusRequest).1 with
  | error err =>
    obtain ⟨hrun, htranscript⟩ := poll_run_error hstatus c order
    rw [hrun, htranscript]
    exact ⟨_, .statusFailed order hstatus, rfl⟩
  | ok status =>
    obtain ⟨hrun, htranscript⟩ := poll_run_ok hstatus c order
    rw [hrun, htranscript]
    refine ⟨_, .polled _ order hstatus, ?_⟩
    show c.asyncRefresh _ = c.asyncRefresh (pollOver client _ _ order)
    unfold pollOver
    rw [hstatus]

/-- A command performs a command, over a panel that gives the answer it got. -/
theorem command_performs (serve : σ → Request → Exchange × σ) (c : GC3Coordinator Json)
    (cmd : AlarmCommand) (s : σ) :
    ∃ a, Performs client c.configEntry (.command cmd)
        (((Task.command cmd).talk client c).transcript serve s) a ∧
      (((Task.command cmd).talk client c).run serve s).1 = act client c a := by
  rw [command_asks]
  cases hrequest : cmd.request client c.configEntry with
  | none =>
    refine ⟨_, .refused (fun _ => .ofJson 200 .null) hrequest, ?_⟩
    obtain ⟨err, herr⟩ := outcome_of_request_none hrequest (fun _ => .ofJson 200 .null)
    rw [act_command, herr]
    rfl
  | some request => exact ⟨_, .commanded _ hrequest, rfl⟩

/-- **What a session sends, and what it comes to.** Whatever the panel answers from one
request to the next, polls and commands send it these requests and no others, each task
performs one completed step, and together the steps leave the coordinator as the session
does. The re-poll after a command is a task of its own. -/
theorem session_performs (client : GC3Client) (entry : ConfigEntry) (registry : IssueRegistry Json)
    (serve : σ → Request → Exchange × σ) (s : σ) (tasks : List Task) :
    let said := Ask.sessionTranscript serve (Task.talk client) (.init entry registry, s) tasks
    said.length = tasks.length ∧ ∃ acts : List (Act Json), acts.length = tasks.length ∧
      (Runs.run (Ask.sessionStep serve (Task.talk client)) (.init entry registry, s)
        tasks).1 = Runs.run (act client) (.init entry registry) acts ∧
      List.Forall₂ (fun task (w : List (Request × Exchange) × Act Json) =>
          Performs client entry task w.1 w.2) tasks (said.zip acts) := by
  refine ⟨Runs.length_outputs .., Ask.session (I := fun c => c.configEntry = entry)
    (fun c a h => ?_) (fun c task t h => ?_) rfl tasks⟩
  · rw [act_configEntry, h]
  · rw [← h]
    cases task with
    | poll order => exact poll_performs serve c order t
    | command cmd => exact command_performs serve c cmd t

/-! ## Where the PIN goes -/

/-- The same entry, but for the PIN it stores. -/
structure SameButPin (e e' : ConfigEntry) : Prop where
  entryId_eq : e'.entryId = e.entryId
  options_eq : e'.options = e.options
  data_eq : ∀ key ≠ CONF_DISARM_PIN, e'.data.lookup key = e.data.lookup key

/-- A disarm brings its own code. -/
def Task.BringsCode : Task → Prop
  | .command (.disarm code) => ∃ c, code = some c ∧ c ≠ ""
  | _ => True

/-- The same coordinator, with other things stored in its entry. -/
def GC3Coordinator.withStored (c : GC3Coordinator ν) (data options : List (String × Json)) :
    GC3Coordinator ν :=
  { c with configEntry := ⟨c.configEntry.entryId, data, options⟩ }

omit [Runtime] in
theorem superviseZone_withStored (c : GC3Coordinator ν) (data options : List (String × Json))
    (zone : Zone ν) :
    (c.withStored data options).superviseZone zone =
      (c.superviseZone zone).withStored data options := by
  unfold GC3Coordinator.superviseZone
  dsimp only
  -- neither test looks at the entry
  show (if (c.countMiss zone).overThreshold zone.id ∧
      zone.id ∉ (c.countMiss zone).supervisionReported then _
    else if ¬ (c.countMiss zone).overThreshold zone.id ∧
      zone.id ∈ (c.countMiss zone).supervisionReported then _ else _) = _
  split
  · rfl
  · split
    · rfl
    · rfl

omit [Runtime] in
/-- A poll reads nothing of its entry but the id. -/
theorem asyncRefresh_withStored (c : GC3Coordinator ν) (data options : List (String × Json))
    (p : Poll ν) :
    (c.withStored data options).asyncRefresh p = (c.asyncRefresh p).withStored data options := by
  cases h : p.snapshot with
  | none =>
    rw [GC3Coordinator.asyncRefresh_of_none h, GC3Coordinator.asyncRefresh_of_none h]
    rfl
  | some d =>
    -- the tail of a poll reads the arm state, the counters and, for its issues, the entry's id
    have hdrop : (c.withStored data options).dropNight d.status =
        (c.dropNight d.status).withStored data options := by
      unfold GC3Coordinator.dropNight
      split
      · rfl
      · rfl
    have hsupervise : ∀ c : GC3Coordinator ν,
        (c.withStored data options).updateSupervisionIssues p.order d.zones =
          (c.updateSupervisionIssues p.order d.zones).withStored data options := by
      intro c
      unfold GC3Coordinator.updateSupervisionIssues
      dsimp only
      rw [List.foldl_hom (f := fun c : GC3Coordinator ν => c.withStored data options)
        fun c z => superviseZone_withStored c data options z]
      exact List.foldl_hom (f := fun c : GC3Coordinator ν => c.withStored data options)
        fun _ _ => rfl
    rw [GC3Coordinator.asyncRefresh_of_some h, GC3Coordinator.asyncRefresh_of_some h]
    unfold GC3Coordinator.finishUpdate
    rw [hdrop, hsupervise]
    rfl

/-- The client of an entry does not look at the PIN. -/
theorem flowClient_sameButPin {e e' : ConfigEntry} (h : SameButPin e e') :
    flowClient e'.data = flowClient e.data := by
  unfold flowClient item getOr
  rw [h.data_eq _ (by decide), h.data_eq _ (by decide), h.data_eq _ (by decide),
    h.data_eq _ (by decide), h.data_eq _ (by decide)]

omit [Runtime] in
/-- With a code of its own, a command makes the same request from either entry. -/
theorem request_sameButPin {e e' : ConfigEntry} (h : SameButPin e e') {cmd : AlarmCommand}
    (hcode : (Task.command cmd).BringsCode) : cmd.request client e' = cmd.request client e := by
  suffices hwording : cmd.wording client e' = cmd.wording client e by
    unfold AlarmCommand.request
    rw [hwording]
  cases cmd with
  | disarm code =>
    obtain ⟨code, rfl, hne⟩ := hcode
    have hpin : ∀ e, pinOf e (some code) = .str code := fun e => by
      simp [pinOf, Json.or, Json.truthy, hne]
    unfold AlarmCommand.wording
    dsimp only
    rw [hpin, hpin]
  | _ =>
    unfold AlarmCommand.wording armRequestOf
    rw [h.options_eq]

omit [Runtime] in
theorem command_withStored (c : GC3Coordinator ν) (data options : List (String × Json))
    (action : Except Raised Json) (night : Bool) :
    (c.withStored data options).command action night =
      (c.command action night).map (·.withStored data options) := by
  cases action with
  | ok answer => rfl
  | error err => cases err <;> rfl

/-- With a code of its own, a command comes to the same from either entry. -/
theorem asyncCommand_sameButPin {c : GC3Coordinator ν} {e' : ConfigEntry}
    (h : SameButPin c.configEntry e') {cmd : AlarmCommand} (hcode : (Task.command cmd).BringsCode)
    (panel : Panel) :
    (c.withStored e'.data e'.options).asyncCommand client panel cmd =
      (c.asyncCommand client panel cmd).map (·.withStored e'.data e'.options) := by
  have hoptions : ∀ option, (c.withStored e'.data e'.options).armOptions option =
      c.armOptions option := by
    intro option
    unfold GC3Coordinator.armOptions GC3Coordinator.withStored
    rw [h.options_eq]
  cases cmd with
  | disarm code =>
    obtain ⟨code, rfl, hne⟩ := hcode
    have hpin : ∀ c : GC3Coordinator ν, c.disarmPin (some code) = .str code := fun c => by
      simp [GC3Coordinator.disarmPin, Json.or, Json.truthy, hne]
    unfold GC3Coordinator.asyncCommand GC3Coordinator.asyncAlarmDisarm
    dsimp only
    rw [hpin, hpin, if_neg (by simp [Json.truthy, hne]), if_neg (by simp [Json.truthy, hne])]
    exact command_withStored ..
  | armHome =>
    unfold GC3Coordinator.asyncCommand GC3Coordinator.asyncAlarmArmHome
    dsimp only
    rw [hoptions]
    exact command_withStored ..
  | armAway =>
    unfold GC3Coordinator.asyncCommand GC3Coordinator.asyncAlarmArmAway
    dsimp only
    rw [hoptions]
    exact command_withStored ..
  | armNight =>
    unfold GC3Coordinator.asyncCommand GC3Coordinator.asyncAlarmArmNight
    dsimp only
    rw [hoptions]
    exact command_withStored ..

/-- The task asks alike from either entry, whatever it is answered. -/
theorem talk_alike {e e' : ConfigEntry} (h : SameButPin e e') {task : Task}
    (hcode : task.BringsCode) {c : GC3Coordinator Json} (hc : c.configEntry = e) :
    Ask.Alike (fun a b => a.configEntry = e ∧ b = a.withStored e'.data e'.options)
      (task.talk client c) (task.talk client (c.withStored e'.data e'.options)) := by
  have hentry : (c.withStored e'.data e'.options).configEntry = e' := by
    unfold GC3Coordinator.withStored
    rw [hc, ← h.entryId_eq]
  cases task with
  | poll order =>
    refine Ask.Alike.bind (Ask.Alike.refl (R := Eq) (fun _ => rfl) (pollTalk client order)) ?_
    rintro p _ rfl
    exact ⟨(GC3Coordinator.asyncRefresh_configEntry c p).trans hc, asyncRefresh_withStored c _ _ p⟩
  | command cmd =>
    -- the options are the same, and a disarm's PIN is the code it brings
    rw [command_asks, command_asks, hentry, hc, request_sameButPin h hcode]
    cases cmd.request client e with
    | none => exact ⟨hc, rfl⟩
    | some request =>
      refine ⟨rfl, fun answer => ⟨(act_configEntry client c _).trans hc, ?_⟩⟩
      have hsame : SameButPin c.configEntry e' := by
        rw [hc]
        exact h
      unfold act
      dsimp only
      rw [asyncCommand_sameButPin hsame hcode]
      cases c.asyncCommand client (fun _ => answer) cmd with
      | ok c' => rfl
      | error err => rfl

/-- **The stored PIN stays at home.** Two entries that differ in their PIN alone make
one client; as long as every disarm brings its own code they say the same to the
panel, word for word, and all that differs in the end is the PIN. -/
theorem pin_stays_home {e e' : ConfigEntry} (h : SameButPin e e') (client : GC3Client)
    (registry : IssueRegistry Json) (serve : σ → Request → Exchange × σ) (s : σ)
    {tasks : List Task} (htasks : ∀ task ∈ tasks, task.BringsCode) :
    flowClient e'.data = flowClient e.data ∧
      Ask.sessionTranscript serve (Task.talk client) (.init e registry, s) tasks =
        Ask.sessionTranscript serve (Task.talk client) (.init e' registry, s) tasks ∧
      (Runs.run (Ask.sessionStep serve (Task.talk client)) (.init e' registry, s) tasks).1 =
        (Runs.run (Ask.sessionStep serve (Task.talk client)) (.init e registry, s)
          tasks).1.withStored e'.data e'.options := by
  have hinit : (GC3Coordinator.init e registry).withStored e'.data e'.options =
      .init e' registry := by
    unfold GC3Coordinator.withStored GC3Coordinator.init
    rw [← h.entryId_eq]
  have hstep : ∀ (a b : GC3Coordinator Json) (i j : Task),
      a.configEntry = e ∧ b = a.withStored e'.data e'.options → i = j ∧ i.BringsCode →
      Ask.Alike (fun a b => a.configEntry = e ∧ b = a.withStored e'.data e'.options)
        (i.talk client a) (j.talk client b) := by
    rintro a _ i _ ⟨ha, rfl⟩ ⟨rfl, hcode⟩
    exact talk_alike h hcode ha
  obtain ⟨hsame, -, hend⟩ := Ask.Alike.session hstep serve (s := s) ⟨rfl, hinit.symm⟩
    (List.forall₂_same.mpr fun task ht => ⟨rfl, htasks task ht⟩)
  exact ⟨flowClient_sameButPin h, hsame, hend⟩

end

/-- An entry that stores this PIN. -/
def pinEntry (pin : String) : ConfigEntry :=
  ⟨bareEntry.entryId, [(CONF_DISARM_PIN, .str pin)], []⟩

/-- A panel without a state that answers everything with an empty object. -/
def obliging : Unit → Request → Exchange × Unit := fun s _ => (.ofJson 200 (.obj []), s)

/-- Armed for the night and disarmed with a code, nothing tells one PIN from another. -/
theorem pin_stays_home_obliging :
    let _runtime := latin1
    let tasks : List Task := [.poll (.ascending String), .command .armNight,
      .command (.disarm (some "4321"))]
    Ask.sessionTranscript obliging (Task.talk sampleClient)
        (.init (pinEntry "1234") .empty, ()) tasks =
      Ask.sessionTranscript obliging (Task.talk sampleClient)
        (.init (pinEntry "") .empty, ()) tasks := by
  intro _runtime tasks
  have hpin : SameButPin (pinEntry "1234") (pinEntry "") := by
    refine ⟨rfl, rfl, fun key hkey => ?_⟩
    unfold pinEntry
    rw [lookup_cons_ite, lookup_cons_ite, if_neg hkey, if_neg hkey]
  exact (pin_stays_home hpin sampleClient .empty obliging ()
    (by simp [tasks, Task.BringsCode])).2.1

end Gc3.Hass
