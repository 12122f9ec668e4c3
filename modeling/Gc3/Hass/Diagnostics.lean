import Gc3.Hass.AlarmState
import Gc3.Hass.ConfigFlow
import Gc3.Hass.Redaction
import Gc3.Lib.Pointwise
import Gc3.Lib.Runs

/-!
# `diagnostics.py`

The dump a user attaches to a bug report. Secrets reach it along two routes, the entry's
data and the zones' `raw`, and both are redacted; along the others they must not: the
alarm state is derived from the zones too, and from a part of them that holds no secret
(`mapAlarmState_eq`).

`diagnostics_same` is a statement about two homes at once. Their entries agree but for
the credentials, the PIN and the host, their panels answer alike but for serial numbers,
and whatever they have polled, the two dumps are one.

The proof keeps `SameButSecrets` through the two runs, poll by poll
(`SameButSecrets.refresh`). Redaction is `Gc3.Hass.Redaction`, which has that equal
redacted values are all that is left of two that agree off the redacted keys. What this
module adds is the route past it: a snapshot is parsed from its own `raw`
(`status_parsed`, `zones_parsed`), so two `raw`s that agree give one alarm state.
`mudRoom_same` are two homes that differ in all six secrets.
-/

namespace Gc3.Hass

open Gc3.Py Gc3.Pygc3 Fallible

/-! ## The dump -/

def TO_REDACT_ENTRY : List String := [CONF_API_KEY, CONF_PAIRING_KEY, CONF_DISARM_PIN, "host"]
def TO_REDACT_ZONE : List String := ["deviceSerialNumber"]

/-- Two keys, a PIN and an address, by the names an entry stores them under. -/
theorem toRedactEntry_eq :
    TO_REDACT_ENTRY = ["api_key", "pairing_key", "disarm_pin", "host"] := rfl

/-- What a zone's alarm flag is read from is no secret. -/
theorem not_mem_toRedactZone {key : String} (h : key ≠ "deviceSerialNumber") :
    key ∉ TO_REDACT_ZONE := by
  unfold TO_REDACT_ZONE
  simpa using h

/-- The value of the enumeration's member. -/
def AlarmControlPanelState.value : AlarmControlPanelState → String
  | disarmed => "disarmed"
  | armedHome => "armed_home"
  | armedAway => "armed_away"
  | armedNight => "armed_night"
  | arming => "arming"
  | triggered => "triggered"

/-- `%02d` of a number below 60. -/
def twoDigits (n : Int) : String := if n < 10 then "0" ++ toString n else toString n

/-- `str(timedelta(seconds=seconds))` -/
def timedeltaStr (seconds : Int) : String :=
  let days := seconds / 86400
  let rest := seconds % 86400
  let clock := toString (rest / 3600) ++ ":" ++ twoDigits (rest / 60 % 60) ++ ":" ++
    twoDigits (rest % 60)
  if days = 0 then clock
  else toString days ++ (if days.natAbs = 1 then " day, " else " days, ") ++ clock

/-- Return redacted diagnostics for a config entry, whose coordinator polls every
`updateInterval` seconds. -/
def asyncGetConfigEntryDiagnostics {ν : Type} (r : Redaction) (entry : ConfigEntry)
    (coordinator : GC3Coordinator ν) (updateInterval : Int) : Json :=
  .obj [
    ("entry", .obj [
      ("data", r.asyncRedactData (.obj entry.data) TO_REDACT_ENTRY),
      ("options", .obj entry.options)]),
    ("coordinator", .obj [
      ("last_update_success", .bool coordinator.lastUpdateSuccess),
      ("update_interval", .str (timedeltaStr updateInterval)),
      ("alarm_state",
        match coordinator.alarmState with
        | some state => .str state.value
        | none => .null)]),
    ("status",
      match coordinator.data with
      | some data => data.status.raw
      | none => .null),
    ("zones",
      match coordinator.data with
      | some data => .arr (data.zones.map fun zone => r.asyncRedactData zone.raw TO_REDACT_ZONE)
      | none => .arr [])]

section

variable [Runtime]

/-! ## Snapshots of the panel's answers -/

/-- Every model of the snapshot is what `from_json` makes of its `raw`. -/
structure Parsed (d : GC3Data Json) : Prop where
  status : PanelStatus.fromJson d.status.raw = .ok d.status
  zones : ∀ z ∈ d.zones, Zone.fromJson z.raw = .ok z

theorem panelStatus_raw {v : Json} {status : PanelStatus}
    (h : PanelStatus.fromJson v = .ok status) : status.raw = v := by
  obtain ⟨armState, -, h⟩ := bind_eq_ok.mp h
  obtain ⟨isArmedStay, -, h⟩ := bind_eq_ok.mp h
  rw [← pure_eq_ok.mp h]

theorem zone_raw {v : Json} {z : Zone Json} (h : Zone.fromJson v = .ok z) : z.raw = v := by
  obtain ⟨fields, rfl, -⟩ := (zone_fromJson_ok_iff v).mp ⟨z, h⟩
  unfold Zone.fromJson at h
  simp only [Json.get_obj, bind_eq_ok, pure_eq_ok, Except.ok.injEq, exists_eq_left'] at h
  obtain ⟨serial, -, status, -, hz⟩ := h
  rw [← hz]

/-- What `status()` returns is parsed from its own `raw`. -/
theorem status_parsed {client : GC3Client} {panel : Panel} {status : PanelStatus}
    (h : client.status panel = .ok status) : PanelStatus.fromJson status.raw = .ok status := by
  obtain ⟨body, -, hbody⟩ := bind_eq_ok.mp h
  have hstatus := escape_eq_ok.mp hbody
  rw [panelStatus_raw hstatus]
  exact hstatus

/-- So is every zone that `zones()` returns. -/
theorem zones_parsed {client : GC3Client} {panel : Panel} {zones : List (Zone Json)}
    (h : client.zones panel false = .ok zones) : ∀ z ∈ zones, Zone.fromJson z.raw = .ok z := by
  obtain ⟨body, -, hbody⟩ := bind_eq_ok.mp h
  cases body with
  | arr data =>
    obtain ⟨parsed, hparsed, hkept⟩ := bind_eq_ok.mp hbody
    have hdrop : GC3Client.dropConsole parsed = .ok zones := escape_eq_ok.mp hkept
    intro z hz
    have hmem := ((mem_of_dropConsole hdrop z).mp hz).1
    obtain ⟨v, -, hv⟩ := Pointwise.exists_left (parseZones_ok_iff.mp (escape_eq_ok.mp hparsed)) hmem
    rw [zone_raw hv]
    exact hv
  | _ => contradiction

/-- A poll that reads a panel, as the panel is at each of the two requests. -/
def ReadsPanel (p : Poll Json) : Prop :=
  ∃ client panel panel', p.status = GC3Client.status client panel ∧
    p.zones = GC3Client.zones client panel' false

/-- The snapshot of a poll that read the panel is parsed from its own `raw`. -/
theorem snapshot_parsed {p : Poll Json} (h : ReadsPanel p) {d : GC3Data Json}
    (hd : p.snapshot = some d) : Parsed d := by
  obtain ⟨client, panel, panel', hstatus, hzones⟩ := h
  unfold Poll.snapshot at hd
  split at hd
  · next status zones hst hzs =>
    rw [← Option.some.inj hd]
    exact ⟨status_parsed (hstatus.symm.trans hst), zones_parsed (hzones.symm.trans hzs)⟩
  · contradiction

/-- Two parsed snapshots with one status payload, whose zone payloads agree but for
the serial numbers. -/
structure SameButSerials (d d' : GC3Data Json) : Prop where
  parsed : Parsed d
  parsed' : Parsed d'
  status_eq : d.status.raw = d'.status.raw
  zones : List.Forall₂ (fun z z' => Agree TO_REDACT_ZONE z.raw z'.raw) d.zones d'.zones

/-- A flag is a flag, however the values inside a container differ: only whether there
are any counts. -/
theorem asBool_eq {keys : List String} {x y : Json} (h : Agree keys x y) :
    asBool x = asBool y := by
  cases h with
  | refl => rfl
  | list h => exact (Agree.list h).truthy_eq
  | dict h => exact (Agree.dict h).truthy_eq

/-- The alarm flag of a zone is read past its serial numbers. -/
theorem inAlarm_eq {z z' : Zone Json} (hz : Zone.fromJson z.raw = .ok z)
    (hz' : Zone.fromJson z'.raw = .ok z') (h : Agree TO_REDACT_ZONE z.raw z'.raw) :
    z.status.inAlarm = z'.status.inAlarm := by
  obtain ⟨fields, hfields, -⟩ := (zone_fromJson_ok_iff _).mp ⟨z, hz⟩
  obtain ⟨fields', hfields', -⟩ := (zone_fromJson_ok_iff _).mp ⟨z', hz'⟩
  rw [hfields] at hz h
  rw [hfields'] at hz' h
  obtain ⟨status, hstatus, halarm⟩ := zoneStatus_inAlarm (zone_fromJson_fields hz).2.2
  obtain ⟨status', hstatus', halarm'⟩ := zoneStatus_inAlarm (zone_fromJson_fields hz').2.2
  have hobject : Agree TO_REDACT_ZONE (statusObject fields) (statusObject fields') :=
    (h.field (not_mem_toRedactZone (by decide))).or _
  rw [hstatus, hstatus'] at hobject
  rw [halarm, halarm']
  exact asBool_eq (hobject.field (not_mem_toRedactZone (by decide)))

/-- A status holds no serial number, so it is the same on both sides. -/
theorem SameButSerials.status {d d' : GC3Data Json} (h : SameButSerials d d') :
    d.status = d'.status := by
  have hstatus := h.parsed.status
  rw [h.status_eq, h.parsed'.status] at hstatus
  exact (Except.ok.inj hstatus).symm

/-- The alarm state holds nothing of the serial numbers. -/
theorem mapAlarmState_eq {d d' : GC3Data Json} (h : SameButSerials d d') (armedNight : Bool) :
    mapAlarmState d.status d.zones armedNight = mapAlarmState d'.status d'.zones armedNight := by
  have hflags : d.zones.map (·.status.inAlarm) = d'.zones.map (·.status.inAlarm) :=
    Pointwise.map_eq h.zones fun z hz z' hz' hagree =>
      inAlarm_eq (h.parsed.zones z hz) (h.parsed'.zones z' hz') hagree
  have hany : d.zones.any (·.status.inAlarm) = d'.zones.any (·.status.inAlarm) := by
    have hid := congrArg (List.any · id) hflags
    rwa [List.any_map, List.any_map] at hid
  unfold mapAlarmState
  rw [hany, h.status]

/-! ## What two coordinators show -/

/-- Two coordinators that differ in the serial numbers of their zones at most, as far
as the dump looks. -/
structure SameButSecrets (c c' : GC3Coordinator Json) : Prop where
  data : Option.Rel SameButSerials c.data c'.data
  armedNight : c.armedNight = c'.armedNight
  lastUpdateSuccess : c.lastUpdateSuccess = c'.lastUpdateSuccess

theorem SameButSecrets.alarmState {c c' : GC3Coordinator Json} (h : SameButSecrets c c') :
    c.alarmState = c'.alarmState := by
  have hdata := h.data
  unfold GC3Coordinator.alarmState
  rw [h.armedNight]
  generalize c.data = d at hdata ⊢
  generalize c'.data = d' at hdata ⊢
  cases hdata with
  | none => rfl
  | some hd => exact congrArg some (mapAlarmState_eq hd _)

/-- A poll of either panel keeps it so, when what they answer differs in serial
numbers at most. -/
theorem SameButSecrets.refresh {c c' : GC3Coordinator Json} (h : SameButSecrets c c')
    {p p' : Poll Json} (hp : Option.Rel SameButSerials p.snapshot p'.snapshot) :
    SameButSecrets (c.asyncRefresh p) (c'.asyncRefresh p') := by
  have hdata := h.data
  -- the two polls fail together or replace both snapshots
  refine ⟨?_, ?_, ?_⟩
  · rw [GC3Coordinator.asyncRefresh_data, GC3Coordinator.asyncRefresh_data]
    generalize p.snapshot = d at hp ⊢
    generalize p'.snapshot = d' at hp ⊢
    cases hp with
    | none => exact hdata
    | some hd => exact .some hd
  · rw [GC3Coordinator.asyncRefresh_armedNight, GC3Coordinator.asyncRefresh_armedNight]
    generalize p.snapshot = d at hp ⊢
    generalize p'.snapshot = d' at hp ⊢
    cases hp with
    | none => exact h.armedNight
    | some hd =>
      dsimp only
      rw [hd.status, h.armedNight]
  · rw [GC3Coordinator.asyncRefresh_lastUpdateSuccess,
      GC3Coordinator.asyncRefresh_lastUpdateSuccess]
    generalize p.snapshot = d at hp ⊢
    generalize p'.snapshot = d' at hp ⊢
    cases hp <;> rfl

/-- Two runs of polls stay the same but for the secrets. -/
theorem sameButSecrets_run (entry entry' : ConfigEntry) (registry registry' : IssueRegistry Json)
    {polls polls' : List (Poll Json)}
    (h : List.Forall₂ (fun p p' => Option.Rel SameButSerials p.snapshot p'.snapshot) polls polls') :
    SameButSecrets (Runs.run GC3Coordinator.asyncRefresh (.init entry registry) polls)
      (Runs.run GC3Coordinator.asyncRefresh (.init entry' registry') polls') := by
  have hinit : SameButSecrets (.init entry registry) (.init entry' registry') :=
    ⟨.none, rfl, rfl⟩
  exact Runs.run_related (fun _ _ _ _ hc hp => hc.refresh hp) hinit h

/-- **Diagnostics reveal nothing about the secrets.** Two entries with the same
options whose data agree but for the credentials, the disarm PIN and the host, and
two coordinators whose parsed snapshots agree but for the zones' serial numbers, with
the same night flag and the same success, have the same dump, whatever does the
redaction. -/
theorem diagnostics_same (r : Redaction) {entry entry' : ConfigEntry}
    {c c' : GC3Coordinator Json} (updateInterval : Int)
    (hdata : Agree TO_REDACT_ENTRY (.obj entry.data) (.obj entry'.data))
    (hoptions : entry.options = entry'.options) (hcoordinator : SameButSecrets c c') :
    asyncGetConfigEntryDiagnostics r entry c updateInterval =
      asyncGetConfigEntryDiagnostics r entry' c' updateInterval := by
  have hsnapshots := hcoordinator.data
  unfold asyncGetConfigEntryDiagnostics
  rw [hdata.redact_eq r, hoptions, hcoordinator.lastUpdateSuccess, hcoordinator.alarmState]
  generalize c.data = d at hsnapshots ⊢
  generalize c'.data = d' at hsnapshots ⊢
  cases hsnapshots with
  | none => rfl
  | some hd =>
    dsimp only
    rw [hd.status_eq, Pointwise.map_eq hd.zones fun z _ z' _ hagree => hagree.redact_eq r]

end

/-! ## Two homes with one dump -/

/-- A zone object with a serial number. -/
def serialObject (serial : Int) : Json :=
  .obj [("id", .str "1"), ("voiceDescriptor", .str "Mud Room Door"),
    ("deviceSerialNumber", .int serial)]

/-- An entry with an address and these secrets. -/
def entryOf (host apiKey pairingKey pin : String) : ConfigEntry :=
  { bareEntry with
    data := [(CONF_HOST, .str host), (CONF_API_KEY, .str apiKey),
      (CONF_PAIRING_KEY, .str pairingKey), (CONF_DISARM_PIN, .str pin)] }

/-- A poll of a ready panel with this zone object. -/
def readyPoll (zone : Json) : Poll Json :=
  @pollOver latin1 sampleClient (.ofJson 200 (.obj [("armState", .str "ready")]))
    (.ofJson 200 (.arr [zone])) (.ascending String)

/-- A coordinator after one such poll. -/
def polledOver (zone : Json) : GC3Coordinator Json :=
  freshCoordinator.asyncRefresh (readyPoll zone)

/-- The poll of one mud room door comes off, with that door's object as its `raw`. -/
theorem readyPoll_snapshot (serial : Int) :
    ∃ d, (readyPoll (serialObject serial)).snapshot = some d ∧ @Parsed latin1 d ∧
      d.status.raw = .obj [("armState", .str "ready")] ∧
      d.zones.map (·.raw) = [serialObject serial] := by
  have hreads : @ReadsPanel latin1 (readyPoll (serialObject serial)) :=
    ⟨sampleClient, _, _, rfl, rfl⟩
  refine ⟨_, rfl, ?_, rfl, rfl⟩
  exact @snapshot_parsed latin1 _ hreads _ rfl

/-- The entries of two homes that have no secret in common. -/
def oneHome : ConfigEntry := entryOf "192.168.1.25" "key" "123456" "4321"
def otherHome : ConfigEntry := entryOf "10.0.0.9" "other key" "654321" "0000"

/-- Two homes with a mud room door, behind other credentials, another PIN and another
address, and with another sensor: one dump. -/
theorem mudRoom_same :
    asyncGetConfigEntryDiagnostics homeAssistant oneHome (polledOver (serialObject 1234567)) 3 =
      asyncGetConfigEntryDiagnostics homeAssistant otherHome
        (polledOver (serialObject 7654321)) 3 := by
  let _runtime := latin1
  have hmem : ∀ key ∈ [CONF_HOST, CONF_API_KEY, CONF_PAIRING_KEY, CONF_DISARM_PIN],
      key ∈ TO_REDACT_ENTRY := by
    rw [toRedactEntry_eq]
    decide
  simp only [List.forall_mem_cons] at hmem
  obtain ⟨hhost, hapi, hpairing, hpin, -⟩ := hmem
  have hentry : Agree TO_REDACT_ENTRY (.obj oneHome.data) (.obj otherHome.data) :=
    .dict (.secret hhost rfl rfl (.secret hapi rfl rfl
      (.secret hpairing rfl rfl (.secret hpin rfl rfl .nil))))
  have hzone : Agree TO_REDACT_ZONE (serialObject 1234567) (serialObject 7654321) :=
    .dict (.cons (.refl _) (.cons (.refl _) (.secret (by decide) rfl rfl .nil)))
  have hsnapshots : Option.Rel SameButSerials (readyPoll (serialObject 1234567)).snapshot
      (readyPoll (serialObject 7654321)).snapshot := by
    obtain ⟨d, hd, hparsed, hraw, hzones⟩ := readyPoll_snapshot 1234567
    obtain ⟨d', hd', hparsed', hraw', hzones'⟩ := readyPoll_snapshot 7654321
    rw [hd, hd']
    refine .some ⟨hparsed, hparsed', hraw.trans hraw'.symm, ?_⟩
    have hforall : List.Forall₂ (Agree TO_REDACT_ZONE) (d.zones.map (·.raw))
        (d'.zones.map (·.raw)) := by
      rw [hzones, hzones']
      exact .cons hzone .nil
    rwa [List.forall₂_map_left_iff, List.forall₂_map_right_iff] at hforall
  have hcoordinators : SameButSecrets (polledOver (serialObject 1234567))
      (polledOver (serialObject 7654321)) :=
    sameButSecrets_run bareEntry bareEntry .empty .empty (.cons hsnapshots .nil)
  exact diagnostics_same homeAssistant 3 hentry rfl hcoordinators

/-- The dump of either, as the user sees it. -/
example :
    asyncGetConfigEntryDiagnostics homeAssistant oneHome (polledOver (serialObject 1234567)) 3 =
      .obj [
      ("entry", .obj [
        ("data", .obj [("host", .str "**REDACTED**"), ("api_key", .str "**REDACTED**"),
          ("pairing_key", .str "**REDACTED**"), ("disarm_pin", .str "**REDACTED**")]),
        ("options", .obj [])]),
      ("coordinator", .obj [
        ("last_update_success", .bool true),
        ("update_interval", .str "0:00:03"),
        ("alarm_state", .str "disarmed")]),
      ("status", .obj [("armState", .str "ready")]),
      ("zones", .arr [.obj [("id", .str "1"), ("voiceDescriptor", .str "Mud Room Door"),
        ("deviceSerialNumber", .str "**REDACTED**")]])] := rfl

end Gc3.Hass
