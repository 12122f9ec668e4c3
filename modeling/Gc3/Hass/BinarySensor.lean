import Gc3.Hass.Coordinator
import Gc3.Lib.Fallible

/-!
# `binary_sensor.py`

Zone sensors and panel-wide health sensors, and the platform set-up that keeps the
former in step with the panel's zones. A sensor is what its constructor fixes; its state
is read off the coordinator's snapshot.

`_sync_zones` is `syncZones`: given the snapshot and the set of ids it already knows, it
says what it asks of Home Assistant, a batch to add and ids to remove, what it knows
from then on, and whether the sort raised on the way. The sort matters, since the new
ids are noted as known before it and the entities made after it: an id on which
`_sort_key` raises is never added at all.

Two results say all that a call does, and every invariant of the entities is derived
from these without looking at the code again: `syncZones_of_sortable`, over ids that all
have a key, and `syncZones_of_not_sortable`, over ids of which one has none. Unique ids
cannot clash, between zones by `zoneUniqueId_inj` and with the health sensors by
`health_uniqueId_ne`.
-/

namespace Gc3.Hass

open Gc3.Py Gc3.Pygc3 Fallible

/-! ## Device classes -/

inductive BinarySensorDeviceClass
  | motion
  | moisture
  | vibration
  | smoke
  | co
  | cold
  | heat
  | garageDoor
  | window
  | door
  | opening
  deriving DecidableEq, Repr

/-- Real devices but not openings. -/
def TRANSIENT_KEYWORDS : List String := ["keyfob", "key fob", "fob", "pendant"]

/-- What counts as "the house is open": an opening someone can walk through. -/
def OPENING_DEVICE_CLASSES : List BinarySensorDeviceClass := [.door, .window, .garageDoor, .opening]

/-- `any(k in n for k in keywords)` -/
def anyIn (keywords : List String) (n : String) : Bool := keywords.any (inStr · n)

section Names

variable [Runtime]

/-- Map a zone's voice descriptor to a device class. -/
def zoneDeviceClass (name : String) : Option BinarySensorDeviceClass :=
  let n := lower name
  if anyIn TRANSIENT_KEYWORDS n then none
  else if anyIn ["motion", "pir", "occup"] n then some .motion
  else if anyIn ["flood", "leak", "water", "moisture", "sump"] n then some .moisture
  else if inStr "glass" n then some .vibration
  else if inStr "smoke" n || inStr "fire" n then some .smoke
  else if inStr "co " n || endswith n " co" || inStr "carbon" n then some .co
  else if inStr "freeze" n || inStr "cold" n then some .cold
  else if inStr "heat" n then some .heat
  else if inStr "overhead" n || inStr "garage door" n then some .garageDoor
  else if inStr "window" n then some .window
  else if anyIn ["door", "slider", "gate"] n then some .door
  else some .opening

/-- Keyfobs and pendants, which are created disabled. -/
def isTransientZone (name : String) : Bool := anyIn TRANSIENT_KEYWORDS (lower name)

/-- `device_class in OPENING_DEVICE_CLASSES`, for an entity that may have none. -/
def isOpeningClass (cls : Option BinarySensorDeviceClass) : Bool :=
  match cls with
  | some cls => OPENING_DEVICE_CLASSES.contains cls
  | none => false

/-- True for zones that represent a way into the house. -/
def isOpeningZone (name : String) : Bool := isOpeningClass (zoneDeviceClass name)

end Names

/-! ## Health sensors -/

/-- A panel-wide roll-up of one zone status flag. -/
structure GC3HealthDescription where
  key : String
  flag : ZoneStatus → Bool

def batteryLow : GC3HealthDescription := ⟨"battery_low", (·.batteryLow)⟩
def tamper : GC3HealthDescription := ⟨"tamper", (·.tampered)⟩
def supervisionLost : GC3HealthDescription := ⟨"supervision_lost", (·.lossOfSupervision)⟩
def zonesBypassed : GC3HealthDescription := ⟨"zones_bypassed", (·.bypassed)⟩

def HEALTH_SENSORS : List GC3HealthDescription :=
  [batteryLow, tamper, supervisionLost, zonesBypassed]

namespace GC3HealthDescription

variable {ν : Type}

/-- The unique id of the health sensor of one entry. -/
def uniqueId (d : GC3HealthDescription) (entryId : String) : String := entryId ++ "_" ++ d.key

/-- Names of the zones currently raising this flag, in panel order. -/
def affectedZones (d : GC3HealthDescription) (data : Option (GC3Data ν)) : List ν :=
  match data with
  | none => []
  | some data => (data.zones.filter fun zone => d.flag zone.status).map (·.name)

def isOn (d : GC3HealthDescription) (data : Option (GC3Data ν)) : Option Bool :=
  match data with
  | none => none
  | some data => some (!(d.affectedZones (some data)).isEmpty)

/-- A listed zone that raises the flag turns the sensor on and is named by it. -/
theorem isOn_of_mem (d : GC3HealthDescription) {data : GC3Data ν} {zone : Zone ν}
    (hmem : zone ∈ data.zones) (hflag : d.flag zone.status = true) :
    d.isOn (some data) = some true ∧ zone.name ∈ d.affectedZones (some data) := by
  have hname : zone.name ∈ d.affectedZones (some data) := by
    show zone.name ∈ (data.zones.filter fun zone => d.flag zone.status).map (·.name)
    exact List.mem_map_of_mem (List.mem_filter.mpr ⟨hmem, hflag⟩)
  refine ⟨?_, hname⟩
  show some (!(d.affectedZones (some data)).isEmpty) = some true
  rw [List.isEmpty_eq_false_iff_exists_mem.mpr ⟨_, hname⟩]
  rfl

end GC3HealthDescription

/-! ## Zone sensors -/

/-- Stable unique_id for a zone's binary sensor. -/
def zoneUniqueId (entryId zoneId : String) : String := entryId ++ "_zone_" ++ zoneId

/-- Two zones of one entry have one unique id only if they are one zone. -/
theorem zoneUniqueId_inj (entryId : String) {y z : String} :
    zoneUniqueId entryId y = zoneUniqueId entryId z ↔ y = z := by
  unfold zoneUniqueId
  simp

/-- No health sensor takes a zone sensor's unique id. -/
theorem health_uniqueId_ne {d : GC3HealthDescription} (h : d ∈ HEALTH_SENSORS)
    (entryId zoneId : String) : d.uniqueId entryId ≠ zoneUniqueId entryId zoneId := by
  -- past the entry id the two differ in the sixth character at the latest
  have hkey : ∀ key ∈ HEALTH_SENSORS.map (·.key),
      ("_" ++ key).toList.take 6 ≠ ("_zone_").toList := by decide
  intro heq
  unfold GC3HealthDescription.uniqueId zoneUniqueId at heq
  rw [String.append_assoc, String.append_assoc] at heq
  have htail := congrArg String.toList heq
  rw [String.toList_append, String.toList_append (t := "_zone_" ++ zoneId)] at htail
  have htail := congrArg (List.take 6) (List.append_cancel_left htail)
  refine hkey d.key (List.mem_map_of_mem h) (htail.trans ?_)
  rw [String.toList_append]
  rfl

/-- `coordinator.data.by_id.get(zone_id)` -/
def zoneOf (data : Option (GC3Data String)) (zoneId : String) : Option (Zone String) :=
  data.bind fun data => data.byId.lookup zoneId

/-- What the constructor of a zone sensor fixes. -/
structure GC3ZoneSensor where
  zoneId : String
  uniqueId : String
  name : String
  deviceClass : Option BinarySensorDeviceClass
  enabledDefault : Bool
  deriving DecidableEq, Repr

namespace GC3ZoneSensor

/-- `GC3ZoneSensor(coordinator, zone_id)` -/
def new [Runtime] (entryId : String) (data : Option (GC3Data String)) (zoneId : String) :
    GC3ZoneSensor :=
  let name :=
    match zoneOf data zoneId with
    | some zone => zone.name
    | none => "Zone " ++ zoneId
  { zoneId := zoneId
    uniqueId := zoneUniqueId entryId zoneId
    name := name
    deviceClass := zoneDeviceClass name
    enabledDefault := !isTransientZone name }

def isOn (e : GC3ZoneSensor) (data : Option (GC3Data String)) : Option Bool :=
  (zoneOf data e.zoneId).map (·.status.isOpen)

/-- Unavailable if the last poll failed, or the panel stopped listing this zone. -/
def available (e : GC3ZoneSensor) (coordinator : GC3Coordinator String) : Bool :=
  coordinator.lastUpdateSuccess && (zoneOf coordinator.data e.zoneId).isSome

def extraStateAttributes (e : GC3ZoneSensor) (data : Option (GC3Data String)) :
    Option (List (String × Json)) :=
  (zoneOf data e.zoneId).map fun zone =>
    [("in_alarm", .bool zone.status.inAlarm),
      ("battery_low", .bool zone.status.batteryLow),
      ("tampered", .bool zone.status.tampered),
      ("bypassed", .bool zone.status.bypassed),
      ("loss_of_supervision", .bool zone.status.lossOfSupervision),
      ("connection", zone.connectionType)]

end GC3ZoneSensor

/-! ## Zone order -/

section Order

variable [Runtime]

/-- Numeric zone ids in numeric order, anything else after them. -/
def sortKey (zoneId : String) : Except Exc (Int × String) :=
  if isdigit zoneId then do
    let n ← (Json.str zoneId).pyInt
    return (n, "")
  -- `10**9`
  else return (1000000000, zoneId)

/-- `_sort_key(zone_id)` returns. -/
def Sortable (zoneId : String) : Prop := ∃ key, sortKey zoneId = .ok key

/-- Tuples compare by their first components, and by the second where these agree. -/
def keyLe (a b : Int × String) : Bool := a.1 < b.1 || a.1 = b.1 && a.2 ≤ b.2

/-- The keys, computed in the order given; the first one that raises ends it. -/
def withKeys : List String → Except Exc (List ((Int × String) × String))
  | [] => .ok []
  | zoneId :: rest => do
    let key ← sortKey zoneId
    let keyed ← withKeys rest
    return (key, zoneId) :: keyed

/-- `sorted(ids, key=_sort_key)`, the ids coming in the order given. -/
def sortZones (ids : List String) : Except Exc (List String) := do
  let keyed ← withKeys ids
  return (keyed.insertionSort fun a b => keyLe a.1 b.1).map (·.2)

/-- Keys are computed from the left, and the first that raises ends it. -/
theorem withKeys_cons (zoneId : String) (rest : List String) :
    withKeys (zoneId :: rest) =
      (sortKey zoneId >>= fun key => withKeys rest >>= fun keyed =>
        pure ((key, zoneId) :: keyed)) := rfl

/-- Keys are found exactly when every id has one; then no id is lost or added. -/
theorem withKeys_ok_iff (ids : List String) :
    (∃ keyed, withKeys ids = .ok keyed) ↔ ∀ z ∈ ids, Sortable z := by
  induction ids with
  | nil => exact ⟨fun _ z hz => absurd hz (by simp), fun _ => ⟨[], rfl⟩⟩
  | cons zoneId rest ih =>
    rw [List.forall_mem_cons, ← ih, withKeys_cons]
    simp only [bind_eq_ok, pure_eq_ok]
    constructor
    · intro ⟨_, key, hkey, more, hmore, _⟩
      exact ⟨⟨key, hkey⟩, more, hmore⟩
    · intro ⟨⟨key, hkey⟩, more, hmore⟩
      exact ⟨_, key, hkey, more, hmore, rfl⟩

theorem withKeys_ids {ids : List String} {keyed : List ((Int × String) × String)}
    (h : withKeys ids = .ok keyed) : keyed.map (·.2) = ids := by
  induction ids generalizing keyed with
  | nil => rw [← Except.ok.inj h, List.map_nil]
  | cons zoneId rest ih =>
    simp only [withKeys_cons, bind_eq_ok, pure_eq_ok] at h
    obtain ⟨key, -, more, hmore, hkeyed⟩ := h
    rw [← hkeyed, List.map_cons, ih hmore]

/-- The sort returns exactly when every id has a key. -/
theorem sortZones_ok_iff (ids : List String) :
    (∃ sorted, sortZones ids = .ok sorted) ↔ ∀ z ∈ ids, Sortable z := by
  rw [← withKeys_ok_iff]
  unfold sortZones
  simp only [bind_eq_ok, pure_eq_ok]
  constructor
  · intro ⟨_, keyed, hkeyed, _⟩
    exact ⟨keyed, hkeyed⟩
  · intro ⟨keyed, hkeyed⟩
    exact ⟨_, keyed, hkeyed, rfl⟩

/-- Sorting permutes. -/
theorem sortZones_perm {ids sorted : List String} (h : sortZones ids = .ok sorted) :
    sorted.Perm ids := by
  unfold sortZones at h
  simp only [bind_eq_ok, pure_eq_ok] at h
  obtain ⟨keyed, hkeyed, hsorted⟩ := h
  rw [← hsorted, ← withKeys_ids hkeyed]
  exact (List.perm_insertionSort _ keyed).map _

end Order

/-! ## Keeping in sync -/

/-- What one call of `_sync_zones` comes to: the ids it knows afterwards, the
batch it passed to `async_add_entities` if it called it, the ids it removed, and
what it raised. -/
structure Sync where
  known : Finset String
  batch : Option (List GC3ZoneSensor)
  removed : List String
  raised : Option Exc

/-- `set(coordinator.data.by_id)` -/
def currentIds (data : GC3Data String) : Finset String := data.byId.keys.toFinset

/-- The removals at the end of `_sync_zones`. -/
def dropRemoved (order : SetOrder String) (known current : Finset String)
    (batch : Option (List GC3ZoneSensor)) : Sync where
  known := known \ (known \ current)
  batch := batch
  removed := order.list (known \ current)
  raised := none

def syncZones [Runtime] (entryId : String) (order : SetOrder String)
    (data : Option (GC3Data String)) (known : Finset String) : Sync :=
  match data with
  | none => ⟨known, none, [], none⟩
  | some snapshot =>
    let current := currentIds snapshot
    let new := current \ known
    if new = ∅ then dropRemoved order known current none
    else
      -- `known.update(new)` comes before the sort, so it stays when that raises
      match sortZones (order.list new) with
      | .error err => ⟨known ∪ new, none, [], some err⟩
      | .ok sorted =>
        dropRemoved order (known ∪ new) current (some (sorted.map (GC3ZoneSensor.new entryId data)))

/-! ### What a call does -/

theorem mem_currentIds {data : GC3Data String} {z : String} :
    z ∈ currentIds data ↔ z ∈ data.byId := by
  unfold currentIds
  rw [List.mem_toFinset, AList.mem_keys]

/-- The entries of the id map are the listed zones, the last of each id. -/
theorem byId_lookup (data : GC3Data String) (z : String) :
    data.byId.lookup z = (data.zones.filter (·.id = z)).getLast? := by
  unfold GC3Data.byId
  induction data.zones using List.reverseRecOn with
  | nil => rfl
  | append_singleton zones zone ih =>
    rw [List.foldl_append, List.filter_append, List.foldl_cons, List.foldl_nil]
    by_cases h : zone.id = z
    · subst h
      simp
    · have h' : z ≠ zone.id := fun e => h e.symm
      rw [AList.lookup_insert_ne h', ih]
      simp [h]

theorem mem_currentIds_iff {data : GC3Data String} {z : String} :
    z ∈ currentIds data ↔ z ∈ data.zones.map (·.id) := by
  rw [mem_currentIds, ← AList.lookup_isSome, byId_lookup, Option.isSome_iff_ne_none, ne_eq,
    List.getLast?_eq_none_iff]
  simp [List.filter_eq_nil_iff]

section

variable [Runtime]

/-- A call over ids that all have a key: it knows the current ids, adds a sensor
for each new one, removes the others, and raises nothing. -/
structure Synced (entryId : String) (order : SetOrder String) (data : GC3Data String)
    (known : Finset String) (r : Sync) : Prop where
  known_eq : r.known = currentIds data
  batch_eq : ∃ new : List String, new.Perm (order.list (currentIds data \ known)) ∧
    r.batch.getD [] = new.map (GC3ZoneSensor.new entryId (some data))
  removed_eq : r.removed = order.list (known \ currentIds data)
  raised_eq : r.raised = none

/-- New ids that all have a key: they are added in one batch, in order, and known from
then on; ids no longer listed are removed and forgotten. -/
theorem syncZones_of_sortable (entryId : String) (order : SetOrder String) {data : GC3Data String}
    {known : Finset String} (h : ∀ z ∈ currentIds data \ known, Sortable z) :
    Synced entryId order data known (syncZones entryId order (some data) known) := by
  unfold syncZones
  dsimp only
  by_cases hnew : currentIds data \ known = ∅
  · rw [if_pos hnew]
    have hsub : currentIds data ⊆ known := Finset.sdiff_eq_empty_iff_subset.mp hnew
    refine ⟨Finset.sdiff_sdiff_eq_self hsub, ⟨[], ?_, rfl⟩, rfl, rfl⟩
    have hnil : order.list (currentIds data \ known) = [] := by
      refine List.eq_nil_iff_forall_not_mem.mpr fun z hz => ?_
      rw [order.mem_list, hnew] at hz
      exact absurd hz (Finset.notMem_empty z)
    rw [hnil]
  · rw [if_neg hnew]
    obtain ⟨sorted, hsorted⟩ := (sortZones_ok_iff (order.list (currentIds data \ known))).mpr
      fun z hz => h z ((order.mem_list _ z).mp hz)
    rw [hsorted]
    -- the new ids are current, so what is dropped was known before the call
    have hdrop : (known ∪ currentIds data \ known) \ currentIds data = known \ currentIds data := by
      ext z
      simp only [Finset.mem_sdiff, Finset.mem_union]
      tauto
    have hkeep :
        (known ∪ currentIds data \ known) \ (known \ currentIds data) = currentIds data := by
      ext z
      simp only [Finset.mem_sdiff, Finset.mem_union]
      tauto
    unfold dropRemoved
    rw [hdrop]
    exact ⟨hkeep, ⟨sorted, sortZones_perm hsorted, rfl⟩, rfl, rfl⟩

/-- A new id without a key: the call raises between noting the new ids and adding
any of them. -/
theorem syncZones_of_not_sortable (entryId : String) (order : SetOrder String)
    {data : GC3Data String} {known : Finset String}
    (h : ¬ ∀ z ∈ currentIds data \ known, Sortable z) :
    ∃ err, syncZones entryId order (some data) known
      = ⟨known ∪ currentIds data \ known, none, [], some err⟩ := by
  have hne : currentIds data \ known ≠ ∅ := by
    intro hempty
    refine h fun z hz => ?_
    rw [hempty] at hz
    exact absurd hz (Finset.notMem_empty z)
  unfold syncZones
  dsimp only
  rw [if_neg hne]
  cases hsort : sortZones (order.list (currentIds data \ known)) with
  | error err => exact ⟨err, rfl⟩
  | ok sorted =>
    have hall := (sortZones_ok_iff _).mp ⟨sorted, hsort⟩
    exact absurd (fun z hz => hall z ((order.mem_list _ z).mpr hz)) h

end

end Gc3.Hass
