import Gc3.Py.Json

/-!
# `pygc3.models` and `pygc3.exceptions`

The typed models, and how each is read off the panel's JSON. A dataclass annotates its
fields but checks nothing, and `Zone.from_json` stores whatever `voiceDescriptor` holds:
so the type of a zone's name is a parameter of `Zone`, `Json` as it comes off the wire
and `String` once the console filter has called its string methods.

Every `from_json` is a chain of `.get`s in the order of the source, and this is where a
body of another shape is found out: `Json.get` raises `AttributeError` on anything that
is no dict. Only two other steps can raise, `int()` on a serial number and `.strip()` on
a zone name that is no string; every flag goes through `_as_bool`, which takes any
value.

The exceptions of the client are `GC3Error`. What a call may raise is `Raised`: one of
these, or a Python exception that has got past the client, put there by `escape`.
-/

namespace Gc3.Pygc3

open Gc3.Py

/-! ## Exceptions -/

/-- The subclasses of `GC3Error`, with their message and what they carry. -/
inductive GC3Error
  | connection (message : String)
  | auth (message : String)
  | response (message : String) (status : Option Nat)
  deriving DecidableEq, Repr

/-- `str(err)` -/
def GC3Error.text : GC3Error → String
  | connection message => message
  | auth message => message
  | response message _ => message

/-- What a call of the client raises: one of its own errors, or anything else that escaped it. -/
inductive Raised
  | gc3 (err : GC3Error)
  | py (err : Exc)
  deriving DecidableEq, Repr

/-- Let a Python exception pass through unhandled. -/
def escape {α : Type} (r : Except Exc α) : Except Raised α := r.mapError .py

@[simp] theorem escape_ok {α : Type} (a : α) : escape (.ok a : Except Exc α) = .ok a := rfl

/-- An exception passes as it is, and is none of the client's own. -/
@[simp] theorem escape_error {α : Type} (e : Exc) :
    escape (.error e : Except Exc α) = .error (.py e) := rfl

/-- Nothing is caught on the way, so a value was there before. -/
theorem escape_eq_ok {α : Type} {r : Except Exc α} {a : α} : escape r = .ok a ↔ r = .ok a := by
  cases r <;> simp

/-! ## Models -/

/-- Coerce the panel's truthiness (bool, 0/1, "true") to a real bool. -/
def asBool [Runtime] : Json → Bool
  | .bool b => b
  | .int n => n != 0
  | .float x => x.nonzero
  | .str s => ["true", "1", "yes", "on"].contains (lower (strip s))
  | v => v.truthy

/-- `GET /api/v1/status` -/
structure PanelStatus where
  armState : String
  isArmedStay : Bool
  raw : Json

/-- A panel that stands disarmed. -/
def PanelStatus.disarmed : PanelStatus := ⟨"disarmed", false, .obj []⟩

def PanelStatus.fromJson [Runtime] (data : Json) : Except Exc PanelStatus := do
  let armState ← data.get "armState"
  let isArmedStay ← data.get "isArmedStay"
  return {
    armState := lower (armState.or (.str "")).pyStr
    isArmedStay := asBool isArmedStay
    raw := data }

/-- The `status` sub-object of a zone; `isOpen` is its `open`. -/
structure ZoneStatus where
  isOpen : Bool
  inAlarm : Bool
  batteryLow : Bool
  tampered : Bool
  bypassed : Bool
  bypassable : Bool
  lossOfSupervision : Bool
  notReady : Bool
  crossed : Bool
  raw : Json

def ZoneStatus.fromJson [Runtime] (data : Json) : Except Exc ZoneStatus := do
  let isOpen ← data.get "open"
  let inAlarm ← data.get "inAlarm"
  let batteryLow ← data.get "batteryLow"
  let tampered ← data.get "tampered"
  let bypassed ← data.get "bypassed"
  let bypassable ← data.get "bypassable"
  let lossOfSupervision ← data.get "lossOfSupervision"
  let notReady ← data.get "notReady"
  let crossed ← data.get "crossed"
  return {
    isOpen := asBool isOpen
    inAlarm := asBool inAlarm
    batteryLow := asBool batteryLow
    tampered := asBool tampered
    bypassed := asBool bypassed
    bypassable := asBool bypassable
    lossOfSupervision := asBool lossOfSupervision
    notReady := asBool notReady
    crossed := asBool crossed
    raw := data }

/-- One entry from `GET /api/v1/zones`, with a name of type `ν`. -/
structure Zone (ν : Type) where
  id : String
  name : ν
  serial : Option Int
  equipmentCode : Json
  connectionType : Json
  partition : Json
  zonePhysicalType : Json
  zoneAlarmType : Json
  supervisionEnabled : Bool
  status : ZoneStatus
  raw : Json

/-- `int(serial) if serial is not None else None` -/
def serialOf [Runtime] : Json → Except Exc (Option Int)
  | .null => .ok none
  | serial => some <$> serial.pyInt

def Zone.fromJson [Runtime] (data : Json) : Except Exc (Zone Json) := do
  let serial ← data.get "deviceSerialNumber"
  let id ← data.get "id"
  let voiceDescriptor ← data.get "voiceDescriptor"
  let serialNumber ← serialOf serial
  let equipmentCode ← data.get "equipmentCode"
  let connectionType ← data.get "connectionType"
  let partition ← data.get "partitionAssignment"
  let zonePhysicalType ← data.get "zonePhysicalType"
  let zoneAlarmType ← data.get "zoneAlarmType"
  let supervisionEnabled ← data.get "sensorSupervisionEnabled"
  let statusObject ← data.get "status"
  let status ← ZoneStatus.fromJson (statusObject.or (.obj []))
  return {
    id := id.pyStr
    name := voiceDescriptor.or (.str ("Zone " ++ id.pyStr))
    serial := serialNumber
    equipmentCode := equipmentCode
    connectionType := connectionType
    partition := partition
    zonePhysicalType := zonePhysicalType
    zoneAlarmType := zoneAlarmType
    supervisionEnabled := asBool supervisionEnabled
    status := status
    raw := data }

/-- A zone object that gives no more than `id` and `voiceDescriptor`, next to a status. -/
def Zone.bare {ν : Type} (id : String) (name : ν) (status : ZoneStatus) : Zone ν where
  id := id
  name := name
  serial := none
  equipmentCode := .null
  connectionType := .null
  partition := .null
  zonePhysicalType := .null
  zoneAlarmType := .null
  supervisionEnabled := false
  status := status
  raw := .obj []

/-- What an empty `status` object reads as. -/
def ZoneStatus.quiet : ZoneStatus :=
  ⟨false, false, false, false, false, false, false, false, false, .obj []⟩

/-- `name.strip().lower() == "console"`, for a name that has those methods. -/
def isConsoleName [Runtime] (name : String) : Bool := lower (strip name) == "console"

/-- The name test evaluated: stripped and lowered, the name is *console*. -/
theorem isConsoleName_iff [Runtime] (name : String) :
    isConsoleName name = true ↔ lower (strip name) = "console" := beq_iff_eq

/-- Zone 0 / the panel's own console. The name is only looked at past the id test. -/
def Zone.isConsole [Runtime] (z : Zone Json) : Except Exc Bool :=
  if z.id = "0" then .ok true
  else
    match z.name with
    | .str name => .ok (isConsoleName name)
    | name => .error ⟨.attributeError,
        "'" ++ name.typeName ++ "' object has no attribute 'strip'"⟩

/-- `GET /api/v1/pair` -/
structure Pairing where
  pairingKey : String
  deviceName : String
  allPartitionAccess : Bool
  isSecurityDevice : Bool
  memberOfPartition : String
  raw : Json

def Pairing.fromJson [Runtime] (data : Json) : Except Exc Pairing := do
  let pairingKey ← data.get "PairingKey"
  let deviceName ← data.get "deviceName"
  let allPartitionAccess ← data.get "allPartitionAccess"
  let isSecurityDevice ← data.get "isSecurityDevice"
  let memberOfPartition ← data.get "memberOfPartition"
  return {
    pairingKey := (pairingKey.or (.str "")).pyStr
    deviceName := (deviceName.or (.str "")).pyStr
    allPartitionAccess := asBool allPartitionAccess
    isSecurityDevice := asBool isSecurityDevice
    memberOfPartition := (memberOfPartition.or (.str "")).pyStr
    raw := data }

end Gc3.Pygc3
