import Gc3.Hass.Coordinator
import Gc3.Pygc3.Client

/-!
# `alarm_control_panel.py`

The four commands of the panel entity. Each makes one request of the panel, turns the
client's errors into a Home Assistant error, and on success records the night flag; the
refresh it then asks for is a poll of its own. A disarm is refused without a request
when there is no PIN, neither in the call nor in the entry.

The arm modes differ in two flags of the request, *stay* and the entry delay, and in
nothing the panel could tell night from home by: that difference is the flag alone, in
the coordinator. `_arm_options` suppresses the exit delay in every mode.

`asyncCommand_eq` is the one statement about commands that the rest of the development
uses: whether a command comes off is decided by the entry, the client and the panel
(`AlarmCommand.outcome`), and all that it does then is to note its flag. So nothing
after this module takes a command apart again, and what a run of polls and commands does
to a coordinator is a matter of which of them succeeded.
-/

namespace Gc3.Hass

open Gc3.Py Gc3.Pygc3

variable {ν : Type}

/-- What a command raises. -/
inductive CommandError
  /-- `HomeAssistantError`, `command_failed`, with `str(err)`. -/
  | commandFailed (error : String)
  /-- `ServiceValidationError`, `no_disarm_pin`. -/
  | noDisarmPin
  /-- Whatever `_command` does not catch. -/
  | other (err : Exc)
  deriving DecidableEq, Repr

/-- The panel flags of an arm command. -/
structure ArmOptions where
  noEntryDelay : Json
  noExitDelay : Json
  bypassNotReady : Json

/-- The commands a user can give. -/
inductive AlarmCommand
  | armHome
  | armAway
  | armNight
  | disarm (code : Option String)
  deriving DecidableEq, Repr

namespace GC3Coordinator

/-- Panel flags for an arm command, with entry delay per arm mode. -/
def armOptions (c : GC3Coordinator ν) (entryDelayOption : String) : ArmOptions :=
  let options := c.configEntry.options
  { noEntryDelay := getOr options entryDelayOption (.bool false)
    noExitDelay := .bool true
    bypassNotReady := getOr options CONF_BYPASS_NOT_READY (.bool false) }

/-- Issue a panel command, then record the night flag. -/
def command (c : GC3Coordinator ν) (action : Except Raised Json) (night : Bool) :
    Except CommandError (GC3Coordinator ν) :=
  match action with
  | .ok _ => .ok (c.noteArm night)
  | .error (.gc3 err) => .error (.commandFailed err.text)
  | .error (.py err) => .error (.other err)

/-- `code or entry.data.get(CONF_DISARM_PIN, "")` -/
def disarmPin (c : GC3Coordinator ν) (code : Option String) : Json :=
  let stored := getOr c.configEntry.data CONF_DISARM_PIN (.str "")
  match code with
  | some code => (Json.str code).or stored
  | none => stored

section

variable [Runtime]

def asyncAlarmDisarm (c : GC3Coordinator ν) (client : GC3Client) (panel : Panel)
    (code : Option String) : Except CommandError (GC3Coordinator ν) :=
  let pin := c.disarmPin code
  if !pin.truthy then .error .noDisarmPin
  else c.command (client.disarm panel pin none) false

def asyncAlarmArmHome (c : GC3Coordinator ν) (client : GC3Client) (panel : Panel) :
    Except CommandError (GC3Coordinator ν) :=
  let o := c.armOptions CONF_NO_ENTRY_DELAY
  c.command (client.arm panel (.bool true) o.noEntryDelay o.noExitDelay o.bypassNotReady
    (.bool false) none) false

def asyncAlarmArmAway (c : GC3Coordinator ν) (client : GC3Client) (panel : Panel) :
    Except CommandError (GC3Coordinator ν) :=
  let o := c.armOptions CONF_NO_ENTRY_DELAY
  c.command (client.arm panel (.bool false) o.noEntryDelay o.noExitDelay o.bypassNotReady
    (.bool false) none) false

def asyncAlarmArmNight (c : GC3Coordinator ν) (client : GC3Client) (panel : Panel) :
    Except CommandError (GC3Coordinator ν) :=
  let o := c.armOptions CONF_NIGHT_NO_ENTRY_DELAY
  c.command (client.arm panel (.bool true) o.noEntryDelay o.noExitDelay o.bypassNotReady
    (.bool false) none) true

/-- The handler of each command. -/
def asyncCommand (c : GC3Coordinator ν) (client : GC3Client) (panel : Panel) :
    AlarmCommand → Except CommandError (GC3Coordinator ν)
  | .armHome => c.asyncAlarmArmHome client panel
  | .armAway => c.asyncAlarmArmAway client panel
  | .armNight => c.asyncAlarmArmNight client panel
  | .disarm code => c.asyncAlarmDisarm client panel code

end

end GC3Coordinator

/-! ## What a command does -/

/-- Arming for the night is the only command that sets the night flag. -/
def AlarmCommand.night : AlarmCommand → Bool
  | .armNight => true
  | _ => false

section

variable [Runtime]

/-- What a command comes to, sent through this panel for this entry. -/
def AlarmCommand.outcome (client : GC3Client) (entry : ConfigEntry) (panel : Panel)
    (cmd : AlarmCommand) : Except CommandError Unit :=
  ((GC3Coordinator.init entry (IssueRegistry.empty : IssueRegistry Unit)).asyncCommand client panel
    cmd).map fun _ => ()

/-- The whole effect of a command: it succeeds or fails by the entry, the client
and the panel alone, and success records its night flag. -/
theorem asyncCommand_eq (c : GC3Coordinator ν) (client : GC3Client) (panel : Panel)
    (cmd : AlarmCommand) :
    c.asyncCommand client panel cmd =
      (cmd.outcome client c.configEntry panel).map fun _ => c.noteArm cmd.night := by
  have hmap : ∀ (action : Except Raised Json) (night : Bool), c.command action night =
      (((GC3Coordinator.init c.configEntry (IssueRegistry.empty : IssueRegistry Unit)).command
        action night).map fun _ => ()).map fun _ => c.noteArm night := by
    intro action night
    cases action with
    | ok answer => rfl
    | error err => cases err <;> rfl
  cases cmd with
  | armHome => exact hmap _ _
  | armAway => exact hmap _ _
  | armNight => exact hmap _ _
  | disarm code =>
    unfold AlarmCommand.outcome GC3Coordinator.asyncCommand GC3Coordinator.asyncAlarmDisarm
    have hpin : (GC3Coordinator.init c.configEntry
        (IssueRegistry.empty : IssueRegistry Unit)).disarmPin code = c.disarmPin code := rfl
    dsimp only
    rw [hpin]
    by_cases h : (!(c.disarmPin code).truthy) = true
    · rw [if_pos h, if_pos h]
      rfl
    · rw [if_neg h, if_neg h]
      exact hmap _ _

end

end Gc3.Hass
