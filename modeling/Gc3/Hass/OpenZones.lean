import Gc3.Hass.EntityRegistry
import Gc3.Py.Latin1

/-!
# `sensor.py`: the open-zone count next to the zone entities

`GC3OpenZonesSensor` classifies the zones of the snapshot by the names they bear now; a
zone entity keeps the name and the device class it was built with. Over one set-up the
two agree on which zones there are (`Mirrors`), and so on the count, as long as a zone
is judged by its present name. For entities whose zone was not renamed since, that is
their own device class (`openZones_agree`); `renamed_door_not_counted` is one that was.

`Mirrors` is the invariant of a set-up: the platform listens, what it knows is what the
snapshot lists, and its entities are one for each of these (`ZonePlatform.Consistent`).
A load over ids that have keys establishes it and a good poll keeps it (`mirrors_load`,
`Mirrors.poll`, `mirrors_run`), both by what a sync does to the entities. The count is
then a matter of two lists over one set of ids: the sensor's, along the zones of the
snapshot, and the platform's, along its entities, and they are permutations of each
other (`Mirrors.openZones_perm`).
-/

namespace Gc3.Hass

open Gc3.Py Gc3.Pygc3

section

variable [Runtime]

/-! ## The sensor -/

/-- `_open_zones`: the names of the openings that are open, in panel order. -/
def openZones (data : Option (GC3Data String)) : List String :=
  match data with
  | none => []
  | some data =>
    (data.zones.filter fun zone => zone.status.isOpen && isOpeningZone zone.name).map (·.name)

def nativeValue (data : Option (GC3Data String)) : Option Nat :=
  match data with
  | none => none
  | some data => some (openZones (some data)).length

/-! ## The entities -/

omit [Runtime] in
/-- The name the entity's zone bears in the snapshot. -/
def GC3ZoneSensor.currentName (data : Option (GC3Data String)) (e : GC3ZoneSensor) :
    Option String :=
  (zoneOf data e.zoneId).map (·.name)

/-- The entity is on, and its zone's present name is that of an opening. -/
def GC3ZoneSensor.opensNow (data : Option (GC3Data String)) (e : GC3ZoneSensor) : Bool :=
  e.isOn data == some true && (e.currentName data).any isOpeningZone

/-- The entity is on, and its own device class is that of an opening. -/
def GC3ZoneSensor.opensAsBuilt (data : Option (GC3Data String)) (e : GC3ZoneSensor) : Bool :=
  e.isOn data == some true && isOpeningClass e.deviceClass

/-- The count is that of these entities, and the names listed are the ones given. -/
def CountsEntities (data : Option (GC3Data String)) (entities : List GC3ZoneSensor)
    (name : GC3ZoneSensor → Option String) : Prop :=
  nativeValue data = some entities.length ∧
    ((openZones data).map some).Perm (entities.map name)

/-- One entity for each id the platform knows, each classified by the name it was
built with. -/
structure ZonePlatform.Consistent (pl : ZonePlatform) : Prop where
  nodup : (pl.entities.map (·.zoneId)).Nodup
  mem_iff : ∀ z, z ∈ pl.entities.map (·.zoneId) ↔ z ∈ pl.known
  built : ∀ e ∈ pl.entities, e.deviceClass = zoneDeviceClass e.name

/-- The listening platform mirrors the zones of the snapshot. -/
structure Mirrors (h : Hub) (d : GC3Data String) (pl : ZonePlatform) : Prop where
  platform : h.platform = some pl
  listening : pl.listening = true
  data : h.coordinator.data = some d
  known : pl.known = currentIds d
  consistent : pl.Consistent

/-- An entity is classed by the name it is built with. -/
theorem deviceClass_new (entryId : String) (data : Option (GC3Data String)) (z : String) :
    (GC3ZoneSensor.new entryId data z).deviceClass =
      zoneDeviceClass (GC3ZoneSensor.new entryId data z).name := by
  simp only [GC3ZoneSensor.new]

/-- A sync over ids that all have a key keeps the platform consistent. -/
theorem ZonePlatform.Consistent.sync {pl : ZonePlatform} (hpl : pl.Consistent) (h : Hub)
    (order : SetOrder String) {d : GC3Data String} (hdata : h.coordinator.data = some d)
    (hnew : ∀ z ∈ currentIds d \ pl.known, Sortable z) :
    (Hub.applySync pl (h.sync order pl).2).Consistent := by
  have hsynced := syncZones_of_sortable h.entryId order hnew
  have hr : (h.sync order pl).2 = syncZones h.entryId order (some d) pl.known := by
    unfold Hub.sync
    rw [hdata]
  obtain ⟨new, hperm, hbatch⟩ := hsynced.batch_eq
  have hmem : ∀ z, z ∈ new ↔ z ∈ currentIds d \ pl.known := fun z => by
    rw [hperm.mem_iff, order.mem_list]
  rw [hr]
  unfold Hub.applySync
  rw [hbatch, hsynced.removed_eq, hsynced.known_eq]
  -- on ids: the old ones and the new ones, less the removed ones
  have hids : (((pl.entities ++ new.map (GC3ZoneSensor.new h.entryId (some d))).filter
      fun e => e.zoneId ∉ order.list (pl.known \ currentIds d)).map (·.zoneId)) =
      (pl.entities.map (·.zoneId) ++ new).filter
        fun z => z ∉ order.list (pl.known \ currentIds d) := by
    have hzoneIds : (new.map (GC3ZoneSensor.new h.entryId (some d))).map (·.zoneId) = new := by
      rw [List.map_map]
      exact List.map_id _
    have happend : pl.entities.map (·.zoneId) ++ new =
        (pl.entities ++ new.map (GC3ZoneSensor.new h.entryId (some d))).map (·.zoneId) := by
      rw [List.map_append, hzoneIds]
    rw [happend, List.filter_map]
    rfl
  constructor
  · show (List.map _ (List.filter _ _)).Nodup
    rw [hids]
    refine List.Nodup.filter _ (List.nodup_append.mpr ⟨hpl.nodup, ?_, ?_⟩)
    · exact hperm.nodup_iff.mpr (order.nodup _)
    · intro a ha b hb hab
      rw [hab, hpl.mem_iff] at ha
      exact (Finset.mem_sdiff.mp ((hmem b).mp hb)).2 ha
  · intro z
    show z ∈ List.map _ (List.filter _ _) ↔ z ∈ currentIds d
    rw [hids, List.mem_filter, List.mem_append, hpl.mem_iff, hmem, decide_eq_true_iff,
      order.mem_list, Finset.mem_sdiff, Finset.mem_sdiff]
    tauto
  · intro e he
    rcases List.mem_append.mp (List.mem_of_mem_filter he) with he | he
    · exact hpl.built e he
    · obtain ⟨z, -, rfl⟩ := List.mem_map.mp he
      exact deviceClass_new _ _ _

/-! ## One set-up -/

theorem consistent_empty : (⟨∅, [], false⟩ : ZonePlatform).Consistent where
  nodup := List.nodup_nil
  mem_iff := fun z => by simp
  built := fun e he => absurd he (by simp)

/-- A successful poll with distinct ids, each with a sort key. -/
def GoodPoll (p : Poll String) (d : GC3Data String) : Prop :=
  p.snapshot = some d ∧ (d.zones.map (·.id)).Nodup ∧ ∀ z ∈ d.zones.map (·.id), Sortable z

/-- A load over a good poll sets up a platform that mirrors it. -/
theorem mirrors_load (h : Hub) (data options : List (String × Json)) {p : Poll String}
    {d : GC3Data String} (hp : GoodPoll p d) :
    ∃ pl, Mirrors (h.load data options p) d pl := by
  obtain ⟨hsnap, -, hsort⟩ := hp
  obtain ⟨hload, hdata⟩ := Hub.load_of_some h data options hsnap
  rw [hload]
  generalize h.firstRefresh data options p = h1 at hdata
  have hnew : ∀ z ∈ currentIds d \ (∅ : Finset String), Sortable z := by
    intro z hz
    exact hsort z (mem_currentIds_iff.mp (Finset.mem_sdiff.mp hz).1)
  have hconsistent := consistent_empty.sync h1.addHealthSensors p.order hdata hnew
  obtain ⟨hknown, hraised⟩ := Hub.known_sync_of_sortable h1.addHealthSensors p.order
    ⟨∅, [], false⟩ hdata hnew
  exact ⟨_, rfl, Option.isNone_iff_eq_none.mpr hraised, hdata, hknown,
    hconsistent.nodup, hconsistent.mem_iff, hconsistent.built⟩

/-- The next good poll calls it back, and it mirrors that one. -/
theorem Mirrors.poll {h : Hub} {d d' : GC3Data String} {pl : ZonePlatform} (hm : Mirrors h d pl)
    {p : Poll String} (hp : GoodPoll p d') : ∃ pl', Mirrors (h.refresh p) d' pl' := by
  obtain ⟨hsnap, -, hsort⟩ := hp
  have hdata : (h.refreshed p).coordinator.data = some d' := by
    rw [Hub.data_refreshed hm.data, hsnap]
    rfl
  have hnew : ∀ z ∈ currentIds d' \ pl.known, Sortable z := by
    intro z hz
    exact hsort z (mem_currentIds_iff.mp (Finset.mem_sdiff.mp hz).1)
  rw [Hub.refresh_of_syncs hm.platform hm.listening (Or.inl (by rw [hsnap]; rfl))]
  have hconsistent := hm.consistent.sync (h.refreshed p) p.order hdata hnew
  exact ⟨_, rfl, hm.listening, hdata, (Hub.known_sync_of_sortable _ p.order pl hdata hnew).1,
    hconsistent⟩

/-- Through a set-up and any number of good polls the platform mirrors the latest. -/
theorem mirrors_run (h : Hub) (data options : List (String × Json)) {p : Poll String}
    {d : GC3Data String} (hp : GoodPoll p d) (ps : List (Poll String))
    (hps : ∀ q ∈ ps, ∃ d, GoodPoll q d) :
    ∃ q d pl, q ∈ p :: ps ∧ GoodPoll q d ∧
      Mirrors (Runs.run Hub.step h (.load data options p :: ps.map .poll)) d pl := by
  induction ps using List.reverseRecOn with
  | nil =>
    obtain ⟨pl, hm⟩ := mirrors_load h data options hp
    exact ⟨p, d, pl, List.mem_singleton_self p, hp, hm⟩
  | append_singleton ps q ih =>
    obtain ⟨-, d', pl', -, -, hm⟩ := ih fun q' hq' => hps q' (List.mem_append_left _ hq')
    obtain ⟨d'', hq⟩ := hps q (by simp)
    obtain ⟨pl'', hm'⟩ := hm.poll hq
    refine ⟨q, d'', pl'', by simp, hq, ?_⟩
    rw [List.map_append, ← List.cons_append]
    show Mirrors (Runs.run Hub.step h (_ ++ [.poll q])) d'' pl''
    rw [Runs.run_concat]
    exact hm'

/-! ## The two answers -/

/-- `isOn` and present name of an entity, from its zone. -/
def opensAt (data : Option (GC3Data String)) (z : String) : Bool :=
  (zoneOf data z).any fun zone => zone.status.isOpen && isOpeningZone zone.name

/-- Whether an entity is on over a present opening goes by its id alone. -/
theorem opensNow_eq (data : Option (GC3Data String)) (e : GC3ZoneSensor) :
    e.opensNow data = opensAt data e.zoneId := by
  unfold GC3ZoneSensor.opensNow GC3ZoneSensor.isOn GC3ZoneSensor.currentName opensAt
  cases zoneOf data e.zoneId with
  | none => rfl
  | some zone => cases hopen : zone.status.isOpen <;> simp [hopen]

omit [Runtime] in
/-- With distinct ids, a listed zone is alone under its id. -/
theorem filter_id_of_mem {zones : List (Zone String)} (hd : (zones.map (·.id)).Nodup)
    {zone : Zone String} (h : zone ∈ zones) : zones.filter (·.id = zone.id) = [zone] := by
  induction zones with
  | nil => exact absurd h (by simp)
  | cons a zones ih =>
    rw [List.map_cons, List.nodup_cons] at hd
    obtain ⟨ha, hrest⟩ := hd
    by_cases hid : a.id = zone.id
    · have hnone : zones.filter (·.id = zone.id) = [] := by
        refine List.filter_eq_nil_iff.mpr fun b hb hbid => ha ?_
        rw [hid, ← of_decide_eq_true hbid]
        exact List.mem_map_of_mem hb
      have hzone : zone = a := by
        rcases List.mem_cons.mp h with h | h
        · exact h
        · exact absurd (hid ▸ List.mem_map_of_mem h) ha
      rw [List.filter_cons, if_pos (decide_eq_true hid), hnone, hzone]
    · have hmem : zone ∈ zones := by
        rcases List.mem_cons.mp h with h | h
        · exact absurd (by rw [h]) hid
        · exact h
      rw [List.filter_cons_of_neg (by simpa using hid), ih hrest hmem]

omit [Runtime] in
/-- With distinct ids, the id map gives each listed zone back. -/
theorem zoneOf_of_mem {d : GC3Data String} (hd : (d.zones.map (·.id)).Nodup) {zone : Zone String}
    (h : zone ∈ d.zones) : zoneOf (some d) zone.id = some zone := by
  show d.byId.lookup zone.id = some zone
  rw [byId_lookup, filter_id_of_mem hd h]
  rfl

/-- The sensor's names, looked up by id. -/
theorem openZones_eq {d : GC3Data String} (hd : (d.zones.map (·.id)).Nodup) :
    (openZones (some d)).map some =
      ((d.zones.map (·.id)).filter (opensAt (some d))).map
        fun z => (zoneOf (some d) z).map (·.name) := by
  have hopen : ∀ zone ∈ d.zones, opensAt (some d) zone.id =
      (zone.status.isOpen && isOpeningZone zone.name) := by
    intro zone hz
    unfold opensAt
    rw [zoneOf_of_mem hd hz]
    rfl
  show ((d.zones.filter fun zone => zone.status.isOpen && isOpeningZone zone.name).map
    (·.name)).map some = _
  rw [List.filter_map, List.map_map, List.map_map]
  have hfilter : d.zones.filter (opensAt (some d) ∘ (·.id)) =
      d.zones.filter fun zone => zone.status.isOpen && isOpeningZone zone.name :=
    List.filter_congr hopen
  rw [hfilter]
  refine List.map_congr_left fun zone hz => ?_
  have hname := zoneOf_of_mem hd (List.mem_of_mem_filter hz)
  show some zone.name = (zoneOf (some d) zone.id).map (·.name)
  rw [hname]
  rfl

/-- Where the platform mirrors the snapshot, the names the sensor lists are those
of the entities that are on over a present opening. -/
theorem Mirrors.openZones_perm {h : Hub} {d : GC3Data String} {pl : ZonePlatform}
    (hm : Mirrors h d pl) (hd : (d.zones.map (·.id)).Nodup) :
    ((openZones (some d)).map some).Perm
      ((pl.entities.filter (·.opensNow (some d))).map (·.currentName (some d))) := by
  have hids : (pl.entities.map (·.zoneId)).Perm (d.zones.map (·.id)) := by
    refine (List.perm_ext_iff_of_nodup hm.consistent.nodup hd).mpr fun z => ?_
    rw [hm.consistent.mem_iff, hm.known, mem_currentIds_iff]
  have hentities : (pl.entities.filter (·.opensNow (some d))).map (·.currentName (some d)) =
      ((pl.entities.map (·.zoneId)).filter (opensAt (some d))).map
        fun z => (zoneOf (some d) z).map (·.name) := by
    rw [List.filter_map, List.map_map]
    have hfilter : pl.entities.filter (·.opensNow (some d)) =
        pl.entities.filter (opensAt (some d) ∘ (·.zoneId)) :=
      List.filter_congr fun e _ => opensNow_eq (some d) e
    rw [hfilter]
    rfl
  rw [openZones_eq hd, hentities]
  exact ((hids.symm.filter _).map _)

/-- An entity whose zone kept its name is judged by its own device class. -/
theorem opensNow_of_name {data : Option (GC3Data String)} {e : GC3ZoneSensor}
    (hname : e.currentName data = some e.name) (hbuilt : e.deviceClass = zoneDeviceClass e.name) :
    e.opensNow data = e.opensAsBuilt data := by
  unfold GC3ZoneSensor.opensNow GC3ZoneSensor.opensAsBuilt
  rw [hname, hbuilt]
  rfl

/-- **The open-zone count and the zone entities.** In one set-up, after any good
polls: the count is the number of zone entities that are on and whose zone now
bears the name of an opening, and the names listed are those names; where every
entity's zone still bears the name it was built with, these are the entities
whose device class is that of an opening, and their names. -/
theorem openZones_agree (h : Hub) (data options : List (String × Json)) {p : Poll String}
    {d : GC3Data String} (hp : GoodPoll p d) (ps : List (Poll String))
    (hps : ∀ q ∈ ps, ∃ d, GoodPoll q d) :
    let h' := Runs.run Hub.step h (.load data options p :: ps.map .poll)
    let now := h'.coordinator.data
    ∃ pl, h'.platform = some pl ∧
      CountsEntities now (pl.entities.filter (·.opensNow now)) (·.currentName now) ∧
      ((∀ e ∈ pl.entities, e.currentName now = some e.name) →
        CountsEntities now (pl.entities.filter (·.opensAsBuilt now)) fun e => some e.name) := by
  intro h' now
  obtain ⟨q, d', pl, -, ⟨-, hdistinct, -⟩, hm⟩ := mirrors_run h data options hp ps hps
  have hnow : now = some d' := hm.data
  have hcounts : CountsEntities now (pl.entities.filter (·.opensNow now)) (·.currentName now) := by
    rw [hnow]
    have hperm := hm.openZones_perm hdistinct
    have hlen := hperm.length_eq
    rw [List.length_map, List.length_map] at hlen
    exact ⟨congrArg some hlen, hperm⟩
  refine ⟨pl, hm.platform, hcounts, fun hnames => ?_⟩
  have hsame : pl.entities.filter (·.opensNow now) = pl.entities.filter (·.opensAsBuilt now) :=
    List.filter_congr fun e he => opensNow_of_name (hnames e he) (hm.consistent.built e he)
  rw [hsame] at hcounts
  have hown : (pl.entities.filter (·.opensAsBuilt now)).map (·.currentName now) =
      (pl.entities.filter (·.opensAsBuilt now)).map fun e => some e.name :=
    List.map_congr_left fun e he => hnames e (List.mem_of_mem_filter he)
  exact ⟨hcounts.1, hown ▸ hcounts.2⟩

end

/-- A poll that lists zone 1 alone, open, under this name. -/
def openPoll (name : String) : Poll String :=
  .ofSnapshot ⟨.disarmed, [.bare "1" name { ZoneStatus.quiet with isOpen := true }]⟩

theorem sortable_one : @Sortable latin1 "1" := ⟨(1, ""), by decide +kernel⟩

/-- Its poll is good: one zone, and an id that sorts. -/
theorem openPoll_good (name : String) :
    ∃ d, @GoodPoll latin1 (openPoll name) d := by
  refine ⟨_, rfl, List.nodup_singleton _, fun z hz => ?_⟩
  rw [List.mem_singleton.mp hz]
  exact sortable_one

/-- An entry loaded with zone 1 open under one name, and polled with it under another. -/
def renamedHub (before after : String) : Hub :=
  Runs.run (@Hub.step latin1) (.new bareEntry)
    (.load [] [] (openPoll before) :: [openPoll after].map .poll)

/-- A door that keeps its name is counted. -/
theorem openDoor_counted :
    ∃ pl, (renamedHub "Front Door" "Front Door").platform = some pl ∧
      @CountsEntities latin1 (renamedHub "Front Door" "Front Door").coordinator.data
        (pl.entities.filter
          (·.opensAsBuilt (renamedHub "Front Door" "Front Door").coordinator.data))
        fun e => some e.name := by
  obtain ⟨d, hd⟩ := openPoll_good "Front Door"
  obtain ⟨pl, hpl, -, hagree⟩ := @openZones_agree latin1 (.new bareEntry) [] [] _ d hd
    [openPoll "Front Door"] (fun q hq => List.mem_singleton.mp hq ▸ openPoll_good "Front Door")
  refine ⟨pl, hpl, hagree ?_⟩
  have hnames : (renamedHub "Front Door" "Front Door").platform.all (fun pl => pl.entities.all
      fun e => e.currentName (renamedHub "Front Door" "Front Door").coordinator.data
        == some e.name) = true := by decide +kernel
  rw [show (renamedHub "Front Door" "Front Door").platform = some pl from hpl] at hnames
  intro e he
  exact eq_of_beq (List.all_eq_true.mp hnames e he)

/-- A door renamed to a motion sensor keeps its entity a door, and drops out of
the count. -/
theorem renamed_door_not_counted :
    ¬ ∀ p ps, (∀ q ∈ p :: ps, ∃ d : GC3Data String, q.snapshot = some d ∧
        (d.zones.map (·.id)).Nodup) →
      let h' := Runs.run (@Hub.step latin1) (.new bareEntry) (.load [] [] p :: ps.map .poll)
      ∃ pl, h'.platform = some pl ∧ @CountsEntities latin1 h'.coordinator.data
        (pl.entities.filter (·.opensAsBuilt h'.coordinator.data)) fun e => some e.name := by
  intro h
  obtain ⟨pl, hpl, hcount, -⟩ := h (openPoll "Front Door") [openPoll "Hall Motion"] (by
    intro q hq
    obtain ⟨d, hd⟩ : ∃ d, @GoodPoll latin1 q d := by
      rcases List.mem_cons.mp hq with rfl | hq
      · exact openPoll_good _
      · exact List.mem_singleton.mp hq ▸ openPoll_good _
    exact ⟨d, hd.1, hd.2.1⟩)
  have hentities : (renamedHub "Front Door" "Hall Motion").platform.map (fun pl =>
      (pl.entities.filter (·.opensAsBuilt
        (renamedHub "Front Door" "Hall Motion").coordinator.data)).length) = some 1 := by
    decide +kernel
  have hvalue : @nativeValue latin1 (renamedHub "Front Door" "Hall Motion").coordinator.data
      = some 0 := by decide +kernel
  rw [show (renamedHub "Front Door" "Hall Motion").platform = some pl from hpl] at hentities
  have hone := Option.some.inj hentities
  have hzero := Option.some.inj (hvalue.symm.trans hcount)
  exact absurd (hzero.trans hone) (by decide)

end Gc3.Hass
