import Gc3.Hass.BinarySensor

/-!
# One entry in Home Assistant

What an entry goes through: it is loaded (a fresh coordinator, a first refresh, and only
if that succeeds the platforms), polled, unloaded, loaded again. The binary sensors'
share of it is the `known` set of one set-up, the zone sensors it has created, and the
entity registry, which is there before the first load and stays when the entry is
unloaded.

A `Hub` is one entry with its share of that registry, and `HubStep` what Home Assistant
may do to it, in any order. The platform is an `Option`, since there is none between an
unload and the next set-up; and it may be deaf, since `_sync_zones` is called once
before it is added as a listener, and when that first call raises the platform never
listens at all.

The results here are what a sync does to the registry, from the two results on
`syncZones`: over ids that all have a key, and over ids of which one has none. The
modules on the entity registry, on open zones and on several entries all go on from
these.
-/

namespace Gc3.Hass

open Gc3.Py Gc3.Pygc3

/-- One set-up of the platform: the ids `_sync_zones` knows, the zone sensors
created and not removed since, and whether it listens to the coordinator. -/
structure ZonePlatform where
  known : Finset String
  entities : List GC3ZoneSensor
  listening : Bool

/-- An entry: its latest coordinator, its platform while it is loaded, and the
unique ids registered for its binary sensors. -/
structure Hub where
  coordinator : GC3Coordinator String
  platform : Option ZonePlatform
  registry : Finset String

/-- What happens to an entry. A load of a loaded entry is a reload; the stored
data and options may have changed. -/
inductive HubStep
  | load (data options : List (String × Json)) (p : Poll String)
  | poll (p : Poll String)
  | unload

namespace Hub

/-- An entry that has never been loaded. -/
def new (entry : ConfigEntry) : Hub := ⟨.init entry .empty, none, ∅⟩

def entryId (h : Hub) : String := h.coordinator.configEntry.entryId

/-- The zone's sensor is registered. -/
def Registered (h : Hub) (z : String) : Prop := zoneUniqueId h.entryId z ∈ h.registry

/-- Home Assistant's side of a sync: a batch is registered under its unique ids,
and of the removed ids those that are registered go. -/
def register (h : Hub) (r : Sync) : Finset String :=
  (h.registry ∪ ((r.batch.getD []).map (·.uniqueId)).toFinset) \
    (r.removed.map (zoneUniqueId h.entryId)).toFinset

/-- What a sync leaves of the platform; a removed entity is gone from it. -/
def applySync (pl : ZonePlatform) (r : Sync) : ZonePlatform :=
  { pl with
    known := r.known
    entities := (pl.entities ++ r.batch.getD []).filter fun e => e.zoneId ∉ r.removed }

/-- `_sync_zones()`, over the platform state `pl`. -/
def sync [Runtime] (h : Hub) (order : SetOrder String) (pl : ZonePlatform) : Hub × Sync :=
  let r := syncZones h.entryId order h.coordinator.data pl.known
  ({ h with platform := some (applySync pl r), registry := h.register r }, r)

/-- The unique ids of the health sensors. -/
def healthIds (h : Hub) : Finset String := (HEALTH_SENSORS.map (·.uniqueId h.entryId)).toFinset

def addHealthSensors (h : Hub) : Hub := { h with registry := h.registry ∪ h.healthIds }

/-- The platform's `async_setup_entry`: it listens only if its own sync returned. -/
def setupPlatform [Runtime] (h : Hub) (order : SetOrder String) : Hub :=
  let (h, r) := h.addHealthSensors.sync order ⟨∅, [], false⟩
  { h with platform := h.platform.map fun pl => { pl with listening := r.raised.isNone } }

/-- A fresh coordinator for the same entry, after its first refresh. -/
def firstRefresh (h : Hub) (data options : List (String × Json)) (p : Poll String) : Hub where
  coordinator := (GC3Coordinator.init ⟨h.entryId, data, options⟩
    h.coordinator.issueRegistry).asyncRefresh p
  platform := none
  registry := h.registry

/-- The integration's `async_setup_entry`: not ready unless the first refresh succeeds. -/
def load [Runtime] (h : Hub) (data options : List (String × Json)) (p : Poll String) : Hub :=
  let h := h.firstRefresh data options p
  if h.coordinator.lastUpdateSuccess then h.setupPlatform p.order else h

/-- The coordinator's part of a refresh. -/
def refreshed (h : Hub) (p : Poll String) : Hub :=
  { h with coordinator := h.coordinator.asyncRefresh p }

/-- A refresh, and the listener after it: called whenever the refresh succeeds,
and once when it begins to fail. -/
def refresh [Runtime] (h : Hub) (p : Poll String) : Hub :=
  match h.platform with
  | none => h
  | some pl =>
    let h' := h.refreshed p
    if pl.listening ∧ (h'.coordinator.lastUpdateSuccess ∨ h.coordinator.lastUpdateSuccess) then
      (h'.sync p.order pl).1
    else h'

def step [Runtime] (h : Hub) : HubStep → Hub
  | .load data options p => h.load data options p
  | .poll p => h.refresh p
  | .unload => { h with platform := none }

/-- The step calls `_sync_zones`. -/
def Syncs (h : Hub) : HubStep → Prop
  | .load _ _ p => p.snapshot.isSome
  | .poll p => ∃ pl, h.platform = some pl ∧ pl.listening = true ∧
      (p.snapshot.isSome ∨ h.coordinator.lastUpdateSuccess)
  | .unload => False

/-! ## What a sync does to the registry -/

section

variable [Runtime]

/-- Registration after a sync over ids that all have a key: the new ones are in,
those no longer listed are out. -/
theorem registered_sync_of_sortable (h : Hub) (order : SetOrder String) (pl : ZonePlatform)
    {d : GC3Data String} (hdata : h.coordinator.data = some d)
    (hsort : ∀ z ∈ currentIds d \ pl.known, Sortable z) (z : String) :
    (h.sync order pl).1.Registered z ↔
      (h.Registered z ∨ z ∈ currentIds d \ pl.known) ∧ z ∉ pl.known \ currentIds d := by
  have hsynced := syncZones_of_sortable h.entryId order hsort
  obtain ⟨new, hperm, hbatch⟩ := hsynced.batch_eq
  have hnew : z ∈ new ↔ z ∈ currentIds d \ pl.known := by
    rw [hperm.mem_iff, order.mem_list]
  have hids : (new.map (GC3ZoneSensor.new h.entryId (some d))).map (·.uniqueId) =
      new.map (zoneUniqueId h.entryId) := by
    rw [List.map_map]
    rfl
  have hmem : ∀ ids : List String,
      zoneUniqueId h.entryId z ∈ ids.map (zoneUniqueId h.entryId) ↔ z ∈ ids := by
    intro ids
    simp only [List.mem_map, zoneUniqueId_inj, exists_eq_right]
  show zoneUniqueId h.entryId z ∈
    h.register (syncZones h.entryId order h.coordinator.data pl.known) ↔ _
  unfold register
  rw [hdata, hbatch, hsynced.removed_eq, hids, Finset.mem_sdiff, Finset.mem_union,
    List.mem_toFinset, List.mem_toFinset, hmem, hmem, hnew, order.mem_list]
  exact Iff.rfl

/-- A sync that raises leaves the registry as it was. -/
theorem registered_sync_of_not_sortable (h : Hub) (order : SetOrder String) (pl : ZonePlatform)
    {d : GC3Data String} (hdata : h.coordinator.data = some d)
    (hsort : ¬ ∀ z ∈ currentIds d \ pl.known, Sortable z) (z : String) :
    (h.sync order pl).1.Registered z ↔ h.Registered z := by
  obtain ⟨err, hraised⟩ := syncZones_of_not_sortable h.entryId order hsort
  show zoneUniqueId h.entryId z ∈
    h.register (syncZones h.entryId order h.coordinator.data pl.known) ↔ _
  unfold register
  rw [hdata, hraised]
  simp [Registered]

/-- And what the platform knows from then on is what is listed. -/
theorem known_sync_of_sortable (h : Hub) (order : SetOrder String) (pl : ZonePlatform)
    {d : GC3Data String} (hdata : h.coordinator.data = some d)
    (hsort : ∀ z ∈ currentIds d \ pl.known, Sortable z) :
    (h.sync order pl).2.known = currentIds d ∧ (h.sync order pl).2.raised = none := by
  have hsynced := syncZones_of_sortable h.entryId order hsort
  unfold sync
  dsimp only
  rw [hdata]
  exact ⟨hsynced.known_eq, hsynced.raised_eq⟩

end

end Hub

end Gc3.Hass
