import Gc3.Hass.AlarmState
import Gc3.Hass.OpenZones
import Gc3.Lib.Pointwise
import Gc3.Lib.Runs

/-!
# A mirror of the panel's answers

Two levels of one design. Below, an entry as it runs: loaded, polled and unloaded over
whatever the panel answers. Above, a `Mirror`, which remembers nothing but the last two
bodies that could be read since the last load, and what each entity has to show written
down on the objects in these bodies (`House`). `entities_mirror` joins the two: whatever
fails on the way, no entity ever shows anything else.

The upper level is written without the models of `pygc3`: `raising`, `openings`,
`alarmState` and the rest read fields of JSON objects, so that a reader can hold them
against what the panel sends.

The proof has two halves. `shows_snapshot` is about one poll: it delivers the two
bodies' `House`, object by object (`readable_iff`, `zoneShown_of_fromJson`,
`zones_eq_ok_iff`), or nothing where one of them cannot be read. `Mirrored` is the
relation of the two machines, kept by `Mirrored.load` and `Mirrored.step`; and under it
every entity shows what the mirror says (`Mirrored.displays`), by one lemma for each
kind of entity.
-/

namespace Gc3.Hass

open Gc3.Py Gc3.Pygc3 Fallible

/-- The members of a JSON object. -/
abbrev Fields := List (String × Json)

section

variable [Runtime]

/-! ## The panel's objects -/

/-- The text of a string; no name that is anything else is ever shown. -/
def textOf : Json → String
  | .str s => s
  | _ => ""

def idOf (zone : Fields) : String := (Json.field zone "id").pyStr

/-- The zone's voice descriptor, or a name made from its id. -/
def nameOr (zone : Fields) : Json :=
  (Json.field zone "voiceDescriptor").or (.str ("Zone " ++ idOf zone))

def nameOf (zone : Fields) : String := textOf (nameOr zone)

/-- The zone object reports the flag, in any encoding `_as_bool` takes as true. -/
def raises (flag : String) (zone : Fields) : Bool :=
  match statusObject zone with
  | .obj status => asBool (Json.field status flag)
  | _ => false

def isConsoleObject (zone : Fields) : Bool := idOf zone == "0" || isConsoleName (nameOf zone)

def isObject : Json → Bool
  | .obj _ => true
  | _ => false

def isText : Json → Bool
  | .str _ => true
  | _ => false

/-- A zone object that is read without an exception. -/
def readable : Json → Bool
  | .obj zone =>
    (serialOf (Json.field zone "deviceSerialNumber")).isOk && isObject (statusObject zone) &&
      (idOf zone == "0" || isText (nameOr zone))
  | _ => false

def fieldsOf : Json → Fields
  | .obj fields => fields
  | _ => []

/-- What the panel said last: its status object and its zone objects. -/
structure House where
  status : Fields
  zones : List Fields

/-- The object in an answer to `/status`. -/
def statusBody : Exchange → Option Fields
  | .answered ⟨status, .ok (.obj fields), _, _⟩ => if status < 400 then some fields else none
  | _ => none

/-- The objects in an answer to `/zones`. -/
def zonesBody : Exchange → Option (List Fields)
  | .answered ⟨status, .ok (.arr zones), _, _⟩ =>
    if status < 400 ∧ zones.all readable then some (zones.map fieldsOf) else none
  | _ => none

/-- Both bodies, if both can be read. -/
def House.read (statusAnswer zonesAnswer : Exchange) : Option House := do
  return ⟨← statusBody statusAnswer, ← zonesBody zonesAnswer⟩

/-! ## What is to be shown -/

namespace House

/-- All zones but the console. -/
def shown (house : House) : List Fields := house.zones.filter fun zone => !isConsoleObject zone

/-- The names of the zones that report a flag, in panel order. -/
def raising (flag : String) (house : House) : List String :=
  (house.shown.filter (raises flag)).map nameOf

/-- The names of the ways into the house that are open. -/
def openings (house : House) : List String :=
  (house.shown.filter fun zone => raises "open" zone && isOpeningZone (nameOf zone)).map nameOf

/-- The zone with this id, the last if there are more. -/
def zone (house : House) (id : String) : Option Fields :=
  (house.shown.filter fun zone => idOf zone = id).getLast?

def alarmState (night : Bool) (house : House) : AlarmControlPanelState :=
  if house.shown.any (raises "inAlarm") then .triggered
  else if armStateOf house.status = "armed" then
    if asBool (Json.field house.status "isArmedStay") then
      if night then .armedNight else .armedHome
    else .armedAway
  else if armStateOf house.status = "arming" then .arming
  else if inStr "alarm" (armStateOf house.status) then .triggered
  else .disarmed

end House

/-- The attributes of a zone's sensor. -/
def attributesOf (zone : Fields) : Fields :=
  [("in_alarm", .bool (raises "inAlarm" zone)),
    ("battery_low", .bool (raises "batteryLow" zone)),
    ("tampered", .bool (raises "tampered" zone)),
    ("bypassed", .bool (raises "bypassed" zone)),
    ("loss_of_supervision", .bool (raises "lossOfSupervision" zone)),
    ("connection", Json.field zone "connectionType")]

omit [Runtime] in
/-- The health sensors, each with the flag it rolls up as the panel spells it. -/
def HEALTH_FLAGS : List (GC3HealthDescription × String) :=
  [(batteryLow, "batteryLow"), (tamper, "tampered"), (supervisionLost, "lossOfSupervision"),
    (zonesBypassed, "bypassed")]

/-! ## The two machines -/

/-- What happens to an entry, with the panel's two answers to each refresh. -/
inductive WireStep
  | load (data options : Fields) (statusAnswer zonesAnswer : Exchange) (order : SetOrder String)
  | poll (statusAnswer zonesAnswer : Exchange) (order : SetOrder String)
  | unload

omit [Runtime] in
/-- The zone with its name as the string it is. -/
def named (z : Zone Json) : Zone String := { z with name := textOf z.name }

/-- The poll that reads these two answers. -/
def pollOf (client : GC3Client) (statusAnswer zonesAnswer : Exchange) (order : SetOrder String) :
    Poll String where
  status := client.status fun _ => statusAnswer
  zones := (client.zones (fun _ => zonesAnswer) false).map (·.map named)
  order := order

def WireStep.hub (client : GC3Client) : WireStep → HubStep
  | .load data options statusAnswer zonesAnswer order =>
    .load data options (pollOf client statusAnswer zonesAnswer order)
  | .poll statusAnswer zonesAnswer order => .poll (pollOf client statusAnswer zonesAnswer order)
  | .unload => .unload

structure Mirror where
  loaded : Bool
  /-- The last refresh succeeded. -/
  current : Bool
  house : Option House

namespace Mirror

def new : Mirror := ⟨false, true, none⟩

def step (m : Mirror) : WireStep → Mirror
  | .load _ _ statusAnswer zonesAnswer _ =>
    let house := House.read statusAnswer zonesAnswer
    ⟨house.isSome, house.isSome, house⟩
  | .poll statusAnswer zonesAnswer _ =>
    if m.loaded then
      let house := House.read statusAnswer zonesAnswer
      ⟨true, house.isSome, house.or m.house⟩
    else m
  | .unload => { m with loaded := false }

end Mirror

/-! ## What the two reads return -/

omit [Runtime] in
theorem guardConnection_eq_ok {method path : String} {r : Except Raised Json} {body : Json} :
    guardConnection method path r = .ok body ↔ r = .ok body := by
  unfold guardConnection
  split
  · split <;> simp
  · rfl

/-- A body is returned below 400 only, and as it was read. -/
theorem readAnswer_eq_ok {method path : String} {resp : Response} {body : Json} :
    readAnswer method path resp = .ok body ↔ resp.status < 400 ∧ resp.json = .ok body := by
  unfold readAnswer
  by_cases h403 : resp.status = 403
  · rw [if_pos h403]
    simp [bind_eq_ok, h403]
  rw [if_neg h403]
  by_cases h400 : 400 ≤ resp.status
  · rw [if_pos h400]
    simp [bind_eq_ok, Nat.not_lt.mpr h400]
  rw [if_neg h400]
  cases hjson : resp.json with
  | ok data => simp [Nat.not_le.mp h400]
  | error err =>
    dsimp only
    split <;> simp

/-- A request returns the JSON body of an answer below 400. -/
theorem requestOver_eq_ok {method path : String} {ex : Exchange} {body : Json} :
    requestOver method path ex = .ok body ↔
      ∃ resp, ex = .answered resp ∧ resp.status < 400 ∧ resp.json = .ok body := by
  unfold requestOver
  cases ex with
  | failed err h => simp [guardConnection_eq_ok]
  | answered resp => simp [guardConnection_eq_ok, readAnswer_eq_ok]

omit [Runtime] in
/-- A status body is the object in an answer below 400. -/
theorem statusBody_eq_some {ex : Exchange} {fields : Fields} :
    statusBody ex = some fields ↔
      ∃ resp, ex = .answered resp ∧ resp.status < 400 ∧ resp.json = .ok (.obj fields) := by
  constructor
  · intro h
    unfold statusBody at h
    split at h
    next status fields' text hraises =>
      split at h
      next hstatus =>
        obtain rfl := Option.some.inj h
        exact ⟨_, rfl, hstatus, rfl⟩
      next => contradiction
    next => contradiction
  · rintro ⟨⟨status, json, text, hraises⟩, rfl, hstatus, rfl⟩
    exact if_pos hstatus

/-- `status()` returns what it makes of the object in the answer. -/
theorem status_eq_ok_iff (client : GC3Client) {ex : Exchange} {status : PanelStatus} :
    client.status (fun _ => ex) = .ok status ↔
      ∃ fields, statusBody ex = some fields ∧ PanelStatus.fromJson (.obj fields) = .ok status := by
  unfold GC3Client.status GC3Client.request
  simp only [bind_eq_ok, escape_eq_ok, requestOver_eq_ok, statusBody_eq_some]
  constructor
  · rintro ⟨body, ⟨resp, hex, hstatus, hjson⟩, hparse⟩
    obtain ⟨fields, rfl⟩ := (panelStatus_fromJson_ok_iff body).mp ⟨status, hparse⟩
    exact ⟨fields, ⟨resp, hex, hstatus, hjson⟩, hparse⟩
  · rintro ⟨fields, ⟨resp, hex, hstatus, hjson⟩, hparse⟩
    exact ⟨.obj fields, ⟨resp, hex, hstatus, hjson⟩, hparse⟩

omit [Runtime] in
theorem isOk_iff {ε α : Type} (r : Except ε α) : r.isOk = true ↔ ∃ a, r = .ok a := by
  cases r <;> simp [Except.isOk, Except.toBool]

omit [Runtime] in
/-- The test on this level is the shape of the one below. -/
theorem isObject_iff (v : Json) : isObject v = true ↔ v.IsObj := by
  cases v <;> simp [isObject, Json.IsObj]

omit [Runtime] in
theorem isText_iff (v : Json) : isText v = true ↔ v.IsStr := by
  cases v <;> simp [isText, Json.IsStr]

/-! ### One zone -/

/-- The zone that was read shows what the object says. -/
structure ZoneShown (zone : Fields) (z : Zone String) : Prop where
  id_eq : z.id = idOf zone
  name_eq : z.name = nameOf zone
  connection_eq : z.connectionType = Json.field zone "connectionType"
  status_eq : ZoneStatus.fromJson (statusObject zone) = .ok z.status

/-- A zone object is readable when it parses and the console filter can look at it. -/
theorem readable_iff (v : Json) :
    readable v = true ↔
      ∃ z, Zone.fromJson v = .ok z ∧ ∃ console, z.isConsole = .ok console := by
  constructor
  · intro h
    cases v with
    | obj zone =>
      simp only [readable, Bool.and_eq_true, Bool.or_eq_true, beq_iff_eq, isOk_iff, isObject_iff,
        isText_iff] at h
      obtain ⟨⟨hserial, hstatus⟩, hname⟩ := h
      obtain ⟨z, hz⟩ := (zone_fromJson_ok_iff _).mpr
        ⟨zone, rfl, (serialOf_ok_iff _).mp hserial, (statusObject_isObj_iff zone).mp hstatus⟩
      obtain ⟨hid, hnameEq, -⟩ := zone_fromJson_fields hz
      refine ⟨z, hz, (isConsole_ok_iff z).mpr fun hne => ?_⟩
      rw [hnameEq]
      exact hname.resolve_left fun h0 => hne (hid.trans h0)
    | _ => exact absurd h (by simp [readable])
  · intro ⟨z, hz, hconsole⟩
    obtain ⟨zone, rfl, hserial, hstatus⟩ := (zone_fromJson_ok_iff v).mp ⟨z, hz⟩
    obtain ⟨hid, hnameEq, -⟩ := zone_fromJson_fields hz
    simp only [readable, Bool.and_eq_true, Bool.or_eq_true, beq_iff_eq, isOk_iff, isObject_iff,
      isText_iff]
    refine ⟨⟨(serialOf_ok_iff _).mpr hserial, (statusObject_isObj_iff zone).mpr hstatus⟩, ?_⟩
    by_cases h0 : idOf zone = "0"
    · exact Or.inl h0
    · refine Or.inr ?_
      have hstr := (isConsole_ok_iff z).mp hconsole fun h => h0 (hid.symm.trans h)
      rw [hnameEq] at hstr
      exact hstr

/-- What a zone parses to shows its object, field by field. -/
theorem zoneShown_of_fromJson {zone : Fields} {z : Zone Json}
    (h : Zone.fromJson (.obj zone) = .ok z) : ZoneShown zone (named z) := by
  obtain ⟨hid, hname, hstatus⟩ := zone_fromJson_fields h
  refine ⟨hid, congrArg textOf hname, ?_, hstatus⟩
  unfold Zone.fromJson at h
  simp only [Json.get_obj, bind_eq_ok, pure_eq_ok, Except.ok.injEq, exists_eq_left'] at h
  obtain ⟨serial, -, status, -, rfl⟩ := h
  rfl

/-- The console filter and `isConsoleObject` agree on what they both look at. -/
theorem isConsole_eq_isConsoleObject {zone : Fields} {z : Zone Json}
    (h : Zone.fromJson (.obj zone) = .ok z) (hok : ∃ console, z.isConsole = .ok console) :
    z.isConsole = .ok (isConsoleObject zone) := by
  obtain ⟨hid, hname, -⟩ := zone_fromJson_fields h
  obtain ⟨console, hconsole⟩ := hok
  have hnameOf : nameOf zone = textOf z.name := congrArg textOf hname.symm
  have hidOf : idOf zone = z.id := hid.symm
  unfold isConsoleObject
  rw [hnameOf, hidOf]
  unfold Zone.isConsole at hconsole ⊢
  by_cases h0 : z.id = "0"
  · simp [h0]
  · rw [if_neg h0] at hconsole ⊢
    cases hn : z.name with
    | str name => simp [h0, textOf]
    | _ =>
      rw [hn] at hconsole
      exact absurd hconsole (by simp)

namespace ZoneShown

variable {zone : Fields} {z : Zone String}

/-- Every flag of the zone is the flag of the same meaning in the object. -/
theorem flags (h : ZoneShown zone z) :
    z.status.isOpen = raises "open" zone ∧ z.status.inAlarm = raises "inAlarm" zone ∧
      z.status.batteryLow = raises "batteryLow" zone ∧ z.status.tampered = raises "tampered" zone ∧
      z.status.bypassed = raises "bypassed" zone ∧
      z.status.lossOfSupervision = raises "lossOfSupervision" zone := by
  obtain ⟨status, hstatus⟩ := (zoneStatus_fromJson_ok_iff _).mp ⟨_, h.status_eq⟩
  have hread := h.status_eq
  unfold raises
  rw [hstatus] at hread ⊢
  unfold ZoneStatus.fromJson at hread
  simp only [Json.get_obj, bind_eq_ok, pure_eq_ok, Except.ok.injEq, exists_eq_left'] at hread
  rw [← hread]
  exact ⟨rfl, rfl, rfl, rfl, rfl, rfl⟩

end ZoneShown

/-! ### The zone list -/

/-- A zones body is an array in an answer below 400 whose every object is readable. -/
theorem zonesBody_eq_some {ex : Exchange} {zones : List Fields} :
    zonesBody ex = some zones ↔
      ∃ resp data, ex = .answered resp ∧ resp.status < 400 ∧ resp.json = .ok (.arr data) ∧
        (∀ v ∈ data, readable v = true) ∧ zones = data.map fieldsOf := by
  constructor
  · intro h
    unfold zonesBody at h
    split at h
    next status data text hraises =>
      split at h
      next hread =>
        exact ⟨_, data, rfl, hread.1, rfl, List.all_eq_true.mp hread.2, (Option.some.inj h).symm⟩
      next => contradiction
    next => contradiction
  · rintro ⟨⟨status, json, text, hraises⟩, data, rfl, hstatus, rfl, hread, rfl⟩
    exact if_pos ⟨hstatus, List.all_eq_true.mpr hread⟩

/-- `zones()` returns the zones of the array in the answer, less the console. -/
theorem zones_eq_ok_iff (client : GC3Client) {ex : Exchange} {kept : List (Zone Json)} :
    client.zones (fun _ => ex) false = .ok kept ↔
      ∃ resp data parsed, ex = .answered resp ∧ resp.status < 400 ∧ resp.json = .ok (.arr data) ∧
        List.Forall₂ (fun v z => Zone.fromJson v = .ok z) data parsed ∧
        GC3Client.dropConsole parsed = .ok kept := by
  unfold GC3Client.zones GC3Client.request
  simp only [bind_eq_ok, requestOver_eq_ok]
  constructor
  · rintro ⟨body, ⟨resp, hex, hstatus, hjson⟩, hkept⟩
    cases body with
    | arr data =>
      simp only [bind_eq_ok, escape_eq_ok, Bool.false_eq_true, if_false, parseZones_ok_iff] at hkept
      obtain ⟨parsed, hparsed, hkept⟩ := hkept
      exact ⟨resp, data, parsed, hex, hstatus, hjson, hparsed, hkept⟩
    | _ => exact absurd hkept (by simp)
  · rintro ⟨resp, data, parsed, hex, hstatus, hjson, hparsed, hkept⟩
    refine ⟨.arr data, ⟨resp, hex, hstatus, hjson⟩, ?_⟩
    simp only [bind_eq_ok, escape_eq_ok, Bool.false_eq_true, if_false, parseZones_ok_iff]
    exact ⟨parsed, hparsed, hkept⟩

/-- The zones kept are those of the objects shown, one for one. -/
theorem zoneShown_of_kept {data : List Json} {parsed kept : List (Zone Json)}
    (hparsed : List.Forall₂ (fun v z => Zone.fromJson v = .ok z) data parsed)
    (hkept : GC3Client.dropConsole parsed = .ok kept) :
    List.Forall₂ ZoneShown ((data.map fieldsOf).filter fun zone => !isConsoleObject zone)
      (kept.map named) := by
  obtain ⟨hok, rfl⟩ := dropConsole_eq_ok_iff.mp hkept
  have hread : List.Forall₂ (fun zone z => Zone.fromJson (.obj zone) = .ok z)
      (data.map fieldsOf) parsed := by
    rw [List.forall₂_map_left_iff]
    refine hparsed.imp fun v z hz => ?_
    obtain ⟨zone, rfl, -⟩ := (zone_fromJson_ok_iff v).mp ⟨z, hz⟩
    exact hz
  rw [List.forall₂_map_right_iff]
  refine (Pointwise.filter hread fun zone _ z hz hzone => ?_).imp
    fun zone z hz => zoneShown_of_fromJson hz
  rw [isConsole_eq_isConsoleObject hzone (hok z hz)]
  simp

/-! ### Both bodies -/

/-- The snapshot shows what the two bodies say. -/
structure Shows (house : House) (d : GC3Data String) : Prop where
  status_eq : PanelStatus.fromJson (.obj house.status) = .ok d.status
  zones : List.Forall₂ ZoneShown house.shown d.zones

theorem read_eq_some {statusAnswer zonesAnswer : Exchange} {house : House} :
    House.read statusAnswer zonesAnswer = some house ↔
      statusBody statusAnswer = some house.status ∧ zonesBody zonesAnswer = some house.zones := by
  unfold House.read
  cases statusBody statusAnswer with
  | none => simp
  | some status =>
    cases zonesBody zonesAnswer with
    | none => simp
    | some zones =>
      obtain ⟨status', zones'⟩ := house
      simp

/-- Where there is a zones body, `zones()` returns its objects less the console. -/
theorem zones_of_zonesBody (client : GC3Client) {ex : Exchange} {zones : List Fields}
    (h : zonesBody ex = some zones) :
    ∃ kept, client.zones (fun _ => ex) false = .ok kept ∧
      List.Forall₂ ZoneShown (zones.filter fun zone => !isConsoleObject zone) (kept.map named) := by
  obtain ⟨resp, data, hex, hstatus, hjson, hread, rfl⟩ := zonesBody_eq_some.mp h
  obtain ⟨parsed, hparsed, hok⟩ := (Pointwise.forall_mem_exists_iff _ _ data).mp
    fun v hv => (readable_iff v).mp (hread v hv)
  -- what is readable one by one is read as a whole, and the filter returns
  have hkept := dropConsole_eq_ok_iff.mpr ⟨hok, rfl⟩
  refine ⟨_, ?_, zoneShown_of_kept hparsed hkept⟩
  exact (zones_eq_ok_iff client).mpr ⟨resp, data, parsed, hex, hstatus, hjson, hparsed, hkept⟩

theorem zonesBody_of_zones {client : GC3Client} {ex : Exchange} {kept : List (Zone Json)}
    (h : client.zones (fun _ => ex) false = .ok kept) : ∃ zones, zonesBody ex = some zones := by
  obtain ⟨resp, data, parsed, hex, hstatus, hjson, hparsed, hkept⟩ := (zones_eq_ok_iff client).mp h
  refine ⟨_, zonesBody_eq_some.mpr ⟨resp, data, hex, hstatus, hjson, fun v hv => ?_, rfl⟩⟩
  obtain ⟨z, hz, hv⟩ := Pointwise.exists_left (List.Forall₂.flip (Pointwise.mem_both hparsed)) hv
  obtain ⟨-, hmem, hread⟩ := hv
  exact (readable_iff v).mpr ⟨z, hread, (dropConsole_eq_ok_iff.mp hkept).1 z hmem⟩

/-- **A poll delivers what the two bodies say**, and nothing when one of them cannot
be read. -/
theorem shows_snapshot (client : GC3Client) (statusAnswer zonesAnswer : Exchange)
    (order : SetOrder String) :
    Option.Rel Shows (House.read statusAnswer zonesAnswer)
      (pollOf client statusAnswer zonesAnswer order).snapshot := by
  cases hread : House.read statusAnswer zonesAnswer with
  | some house =>
    obtain ⟨hstatus, hzones⟩ := read_eq_some.mp hread
    obtain ⟨kept, hkept, hshown⟩ := zones_of_zonesBody client hzones
    obtain ⟨status, hparse⟩ := (panelStatus_fromJson_ok_iff _).mpr ⟨house.status, rfl⟩
    have hsnap : (pollOf client statusAnswer zonesAnswer order).snapshot =
        some ⟨status, kept.map named⟩ := by
      refine Poll.snapshot_eq_some.mpr ⟨?_, ?_⟩
      · exact (status_eq_ok_iff client).mpr ⟨_, hstatus, hparse⟩
      · exact congrArg (Except.map (·.map named)) hkept
    rw [hsnap]
    exact .some ⟨hparse, hshown⟩
  | none =>
    cases hsnap : (pollOf client statusAnswer zonesAnswer order).snapshot with
    | none => exact .none
    | some d =>
      -- both reads returned, so both bodies can be read
      obtain ⟨hstatus, hzones⟩ := Poll.snapshot_eq_some.mp hsnap
      obtain ⟨fields, hfields, -⟩ := (status_eq_ok_iff client).mp hstatus
      obtain ⟨kept, hkept, -⟩ := map_eq_ok.mp hzones
      obtain ⟨zones, hbody⟩ := zonesBody_of_zones hkept
      have hsome := (@read_eq_some _ _ _ ⟨fields, zones⟩).mpr ⟨hfields, hbody⟩
      rw [hread] at hsome
      exact absurd hsome (by simp)

/-! ## What the entities show -/

namespace Shows

variable {house : House} {d : GC3Data String}

/-- A list of names taken from the zones that pass a test. -/
theorem names_eq (h : Shows house d) {p : Fields → Bool} {q : Zone String → Bool}
    (hpq : ∀ zone z, ZoneShown zone z → p zone = q z) :
    (d.zones.filter q).map (·.name) = (house.shown.filter p).map nameOf := by
  have hkept := Pointwise.filter h.zones fun zone _ z _ hz => hpq zone z hz
  exact (Pointwise.map_eq hkept fun zone _ z _ hz => hz.name_eq.symm).symm

/-- The state map goes by the status object and by the `inAlarm` of the objects shown.
-/
theorem alarmState_eq (h : Shows house d) (night : Bool) :
    mapAlarmState d.status d.zones night = house.alarmState night := by
  have hany : d.zones.any (·.status.inAlarm) = house.shown.any (raises "inAlarm") := by
    rw [Bool.eq_iff_iff, List.any_eq_true, List.any_eq_true]
    refine Pointwise.exists_mem_iff h.zones fun zone z _ hz => ?_
    rw [hz.flags.2.1]
  have hstatus := h.status_eq
  unfold PanelStatus.fromJson at hstatus
  simp only [Json.get_obj, bind_eq_ok, pure_eq_ok, Except.ok.injEq, exists_eq_left'] at hstatus
  unfold mapAlarmState House.alarmState
  rw [hany, ← hstatus]
  dsimp only
  split
  · rfl
  · show (if armStateOf house.status = "armed" then _ else _) = _
    split
    · cases asBool (Json.field house.status "isArmedStay") <;> rfl
    · rfl

/-- The zone an entity looks up is the one its id names. -/
theorem zoneOf_eq (h : Shows house d) (id : String) :
    Option.Rel ZoneShown (house.zone id) (zoneOf (some d) id) := by
  have hlookup : zoneOf (some d) id = (d.zones.filter (·.id = id)).getLast? := byId_lookup d id
  rw [hlookup]
  refine Pointwise.getLast? (Pointwise.filter h.zones fun zone _ z _ hz => ?_)
  rw [hz.id_eq]

/-- Each health sensor's flag is the one the panel spells so. -/
theorem health_flag {x : GC3HealthDescription × String} (hx : x ∈ HEALTH_FLAGS) {zone : Fields}
    {z : Zone String} (hz : ZoneShown zone z) : raises x.2 zone = x.1.flag z.status := by
  obtain ⟨-, -, hbattery, htamper, hbypass, hloss⟩ := hz.flags
  unfold HEALTH_FLAGS at hx
  rcases List.mem_cons.mp hx with rfl | hx
  · exact hbattery.symm
  rcases List.mem_cons.mp hx with rfl | hx
  · exact htamper.symm
  rcases List.mem_cons.mp hx with rfl | hx
  · exact hloss.symm
  obtain rfl := List.mem_singleton.mp hx
  exact hbypass.symm

/-- A health sensor lists the zones that raise its flag. -/
theorem affectedZones_eq (h : Shows house d) {x : GC3HealthDescription × String}
    (hx : x ∈ HEALTH_FLAGS) : x.1.affectedZones (some d) = house.raising x.2 :=
  h.names_eq fun _ _ hz => health_flag hx hz

/-- The open-zone sensor lists the openings that are open. -/
theorem openZones_eq (h : Shows house d) : openZones (some d) = house.openings := by
  refine h.names_eq fun zone z hz => ?_
  rw [hz.name_eq, hz.flags.1]

end Shows

/-! ## In step -/

/-- The entry is where the mirror says it is. -/
structure Mirrored (h : Hub) (m : Mirror) : Prop where
  loaded_eq : h.platform.isSome = m.loaded
  current_eq : h.coordinator.lastUpdateSuccess = m.current
  shows : Option.Rel Shows m.house h.coordinator.data

/-- With its platforms set up or not, a loaded entry's coordinator refreshes at every poll. -/
theorem refresh_of_loaded {h : Hub} {pl : ZonePlatform} (hpl : h.platform = some pl)
    (p : Poll String) :
    (h.refresh p).platform.isSome = true ∧
      (h.refresh p).coordinator = h.coordinator.asyncRefresh p := by
  unfold Hub.refresh
  rw [hpl]
  dsimp only
  split
  · exact ⟨rfl, rfl⟩
  · refine ⟨?_, rfl⟩
    show h.platform.isSome = true
    rw [hpl]
    rfl

/-- A load brings what its own first refresh read, and nothing from before it. -/
theorem Mirrored.load (client : GC3Client) (h : Hub) (m : Mirror) (data options : Fields)
    (statusAnswer zonesAnswer : Exchange) (order : SetOrder String) :
    Mirrored (h.step (WireStep.hub client (.load data options statusAnswer zonesAnswer order)))
      (m.step (.load data options statusAnswer zonesAnswer order)) := by
  have hrel := shows_snapshot client statusAnswer zonesAnswer order
  show Mirrored (h.load data options (pollOf client statusAnswer zonesAnswer order))
    ⟨(House.read statusAnswer zonesAnswer).isSome, (House.read statusAnswer zonesAnswer).isSome,
      House.read statusAnswer zonesAnswer⟩
  rw [Pointwise.isSome_eq hrel]
  generalize pollOf client statusAnswer zonesAnswer order = p at hrel ⊢
  have hsuccess := Hub.success_firstRefresh h data options p
  cases hsnap : p.snapshot with
  | none =>
    rw [Hub.load_of_none h data options hsnap]
    rw [hsnap] at hsuccess hrel
    -- a load that fails leaves a fresh coordinator, so nothing is shown
    refine ⟨rfl, hsuccess, ?_⟩
    unfold Hub.firstRefresh
    rw [GC3Coordinator.asyncRefresh_data, hsnap]
    exact hrel
  | some d =>
    obtain ⟨hload, hdata⟩ := Hub.load_of_some h data options hsnap
    rw [hload]
    rw [hsnap] at hsuccess hrel
    refine ⟨rfl, hsuccess, ?_⟩
    show Option.Rel Shows _ (h.firstRefresh data options p).coordinator.data
    rw [hdata]
    exact hrel

/-- Load, poll and unload keep hub and mirror in step. -/
theorem Mirrored.step (client : GC3Client) {h : Hub} {m : Mirror} (hm : Mirrored h m)
    (s : WireStep) : Mirrored (h.step (s.hub client)) (m.step s) := by
  cases s with
  | load data options statusAnswer zonesAnswer order =>
    exact Mirrored.load client h m data options statusAnswer zonesAnswer order
  | poll statusAnswer zonesAnswer order =>
    have hrel := shows_snapshot client statusAnswer zonesAnswer order
    unfold Mirror.step
    dsimp only
    rw [← hm.loaded_eq]
    cases hpl : h.platform with
    | none =>
      -- an entry that is not loaded is not polled
      have hsame : h.step (WireStep.hub client (.poll statusAnswer zonesAnswer order)) = h := by
        show h.refresh _ = h
        unfold Hub.refresh
        rw [hpl]
      rw [hsame]
      exact hm
    | some pl =>
      obtain ⟨hloaded, hcoordinator⟩ :=
        refresh_of_loaded hpl (pollOf client statusAnswer zonesAnswer order)
      refine ⟨hloaded, ?_, ?_⟩
      · show (h.refresh _).coordinator.lastUpdateSuccess = _
        rw [hcoordinator, GC3Coordinator.asyncRefresh_lastUpdateSuccess]
        exact (Pointwise.isSome_eq hrel).symm
      · show Option.Rel Shows _ (h.refresh _).coordinator.data
        rw [hcoordinator, GC3Coordinator.asyncRefresh_data]
        exact Pointwise.or hrel hm.shows
  | unload => exact ⟨rfl, hm.current_eq, hm.shows⟩

/-- What every entity of an entry shows, next to the two bodies the mirror holds. A zone's
sensor may be one whose zone is gone, or that the platform has yet to create. -/
structure Displays (c : GC3Coordinator String) (m : Mirror) : Prop where
  alarmState_eq : ∀ night, (c.noteArm night).alarmState = m.house.map (·.alarmState night)
  health_isOn_eq : ∀ x ∈ HEALTH_FLAGS,
    x.1.isOn c.data = m.house.map fun house => !(house.raising x.2).isEmpty
  health_zones_eq : ∀ x ∈ HEALTH_FLAGS,
    x.1.affectedZones c.data = (m.house.map (·.raising x.2)).getD []
  openZones_eq : openZones c.data = (m.house.map (·.openings)).getD []
  nativeValue_eq : nativeValue c.data = m.house.map (·.openings.length)
  zone_available_eq : ∀ e : GC3ZoneSensor,
    e.available c = (m.current && (m.house.bind (·.zone e.zoneId)).isSome)
  zone_isOn_eq : ∀ e : GC3ZoneSensor,
    e.isOn c.data = (m.house.bind (·.zone e.zoneId)).map (raises "open")
  zone_attributes_eq : ∀ e : GC3ZoneSensor,
    e.extraStateAttributes c.data = (m.house.bind (·.zone e.zoneId)).map attributesOf

/-- In step, every entity shows what the mirror remembers. -/
theorem Mirrored.displays {h : Hub} {m : Mirror} (hm : Mirrored h m) :
    Displays h.coordinator m := by
  have hzone : ∀ id, Option.Rel ZoneShown (m.house.bind (·.zone id))
      (zoneOf h.coordinator.data id) := by
    intro id
    exact Pointwise.option_bind hm.shows fun house d hd => hd.zoneOf_eq id
  constructor
  · intro night
    exact (Pointwise.option_map_eq hm.shows fun house d hd => (hd.alarmState_eq night).symm).symm
  · intro x hx
    have hdata : x.1.isOn h.coordinator.data =
        h.coordinator.data.map fun d => !(x.1.affectedZones (some d)).isEmpty := by
      cases h.coordinator.data <;> rfl
    rw [hdata]
    refine (Pointwise.option_map_eq hm.shows fun house d hd => ?_).symm
    rw [hd.affectedZones_eq hx]
  · intro x hx
    have hdata : x.1.affectedZones h.coordinator.data =
        (h.coordinator.data.map fun d => x.1.affectedZones (some d)).getD [] := by
      cases h.coordinator.data <;> rfl
    rw [hdata]
    refine congrArg (Option.getD · []) (Pointwise.option_map_eq hm.shows fun house d hd => ?_).symm
    exact (hd.affectedZones_eq hx).symm
  · have hdata : openZones h.coordinator.data =
        (h.coordinator.data.map fun d => openZones (some d)).getD [] := by
      cases h.coordinator.data <;> rfl
    rw [hdata]
    refine congrArg (Option.getD · []) (Pointwise.option_map_eq hm.shows fun house d hd => ?_).symm
    exact hd.openZones_eq.symm
  · have hdata : nativeValue h.coordinator.data =
        h.coordinator.data.map fun d => (openZones (some d)).length := by
      cases h.coordinator.data <;> rfl
    rw [hdata]
    refine (Pointwise.option_map_eq hm.shows fun house d hd => ?_).symm
    rw [hd.openZones_eq]
  · intro e
    unfold GC3ZoneSensor.available
    rw [hm.current_eq, Pointwise.isSome_eq (hzone e.zoneId)]
  · intro e
    exact (Pointwise.option_map_eq (hzone e.zoneId) fun zone z hz => hz.flags.1.symm).symm
  · intro e
    refine (Pointwise.option_map_eq (hzone e.zoneId) fun zone z hz => ?_).symm
    obtain ⟨-, halarm, hbattery, htamper, hbypass, hloss⟩ := hz.flags
    unfold attributesOf
    rw [halarm, hbattery, htamper, hbypass, hloss, hz.connection_eq]

/-- **Entities mirror the panel's answers.** Over any run of loads, polls and unloads, with
the two requests of each refresh answered or failing in any way, every entity shows what the
last two bodies read since the last load say, and nothing before there are any. -/
theorem entities_mirror (client : GC3Client) (entry : ConfigEntry) (steps : List WireStep) :
    let h := Runs.run Hub.step (Hub.new entry) (steps.map (WireStep.hub client))
    let m := Runs.run Mirror.step .new steps
    h.platform.isSome = m.loaded ∧ h.coordinator.lastUpdateSuccess = m.current ∧
      Displays h.coordinator m := by
  have hrun : Mirrored (Runs.run Hub.step (Hub.new entry) (steps.map (WireStep.hub client)))
      (Runs.run Mirror.step .new steps) := by
    refine Runs.run_related (E := fun i j => i = WireStep.hub client j) ?_ ⟨rfl, rfl, .none⟩ ?_
    · rintro h m _ s hm rfl
      exact hm.step client s
    · rw [List.forall₂_map_left_iff]
      exact List.forall₂_same.mpr fun s _ => rfl
  exact ⟨hrun.loaded_eq, hrun.current_eq, hrun.displays⟩

end

end Gc3.Hass
