import Gc3.Hass.Hub
import Gc3.Hass.Supervision
import Gc3.Lib.Shared
import Gc3.Py.Latin1
import Mathlib.Data.Finset.Lattice.Lemmas

/-!
# Several panels in one Home Assistant

Every entry has a coordinator and a platform of its own, but there is one issue registry
and one entity registry, and what an entry writes there is told apart by its id in front
of the key. Home Assistant's ids are of one length and distinct, so no entry ever writes
under a key of another; nor does it read what it has written. Hence `entries_isolated`:
next to others, in whatever order they all take their turns, an entry fares as it would
alone.

The general fact is `Shared.run_shared`: actions that edit a shared store each under its
own key, without reading it, do not disturb each other. What is shown here is that the
steps of a hub are such actions, `WritesBlindly`, and the proof is that notion's small
calculus: `EditsUnder` is closed under composition and has the three calls that edit a
registry, and `WritesBlindly` is closed under composition (`comp`), under loops over a
list (`foldl`) and under what only touches the hub itself (`of_private`). Then each
function of the source is blind because its parts are, from
`blind_clearSupervisionIssue` up to `blind_step`.
-/

namespace Gc3.Hass

open Gc3.Py Gc3.Pygc3 Shared

/-! ## What is shared -/

/-- The two registries. -/
structure Registries where
  issues : IssueRegistry String
  entities : Finset String

namespace Registries

/-- What is kept under a key: its issue, the calls about it, and whether it is an entity. -/
structure Slot where
  issue : Option (Issue String)
  calls : List Bool
  entity : Bool

def slot (r : Registries) (key : String) : Slot :=
  ⟨r.issues.issues.lookup key, r.issues.callsAbout key, decide (key ∈ r.entities)⟩

end Registries

/-- The hub over other registries. -/
def Hub.over (h : Hub) (r : Registries) : Hub :=
  { h with coordinator := { h.coordinator with issueRegistry := r.issues }, registry := r.entities }

def Hub.registries (h : Hub) : Registries := ⟨h.coordinator.issueRegistry, h.registry⟩

/-- What is the hub's own: all but the registries. -/
def Hub.ownPart (h : Hub) : Hub := h.over ⟨.empty, ∅⟩

/-! ## Edits under one id -/

/-- Ids of one length, no two alike. -/
structure DistinctIds {κ : Type} (ids : κ → String) : Prop where
  length_eq : ∀ j k, (ids j).length = (ids k).length
  injective : Function.Injective ids

/-- Ids of one length that differ stay different in front of any keys. -/
theorem DistinctIds.append_ne {κ : Type} {ids : κ → String} (h : DistinctIds ids) {j k : κ}
    (hjk : j ≠ k) (a b : String) : ids j ++ a ≠ ids k ++ b := by
  intro heq
  -- of one length, the ids can be cut off in front
  have hlist := congrArg String.toList heq
  rw [String.toList_append, String.toList_append] at hlist
  have hlength : (ids j).toList.length = (ids k).toList.length := by
    rw [String.length_toList, String.length_toList, h.length_eq j k]
  exact hjk (h.injective (String.toList_inj.mp (List.append_inj_left hlist hlength)))

/-- An edit of the slots, key by key, that touches no key but those under the id. -/
structure EditsUnder (id : String) (f : Registries → Registries) : Prop where
  slotwise : ∃ g : String → Registries.Slot → Registries.Slot,
    (∀ r key, (f r).slot key = g key (r.slot key)) ∧
      ∀ key, (∀ own, key ≠ id ++ own) → ∀ v, g key v = v

namespace EditsUnder

variable {id : String} {f g : Registries → Registries}

/-- To leave the registries alone is an edit under any id. -/
theorem refl (id : String) : EditsUnder id fun r => r :=
  ⟨fun _ v => v, fun _ _ => rfl, fun _ _ _ => rfl⟩

theorem comp (hg : EditsUnder id g) (hf : EditsUnder id f) : EditsUnder id fun r => g (f r) := by
  obtain ⟨a, ha, hother⟩ := hf.slotwise
  obtain ⟨b, hb, hother'⟩ := hg.slotwise
  refine ⟨fun key v => b key (a key v), fun r key => ?_, fun key hkey v => ?_⟩
  · rw [hb, ha]
  · show b key (a key v) = v
    rw [hother key hkey, hother' key hkey]

/-- Creating an issue under the id is an edit under it. -/
theorem create (own : String) (issue : Issue String) : EditsUnder id fun r =>
    { r with issues := r.issues.asyncCreateIssue (id ++ own) issue } := by
  refine ⟨fun key v => if key = id ++ own then ⟨some issue, v.calls ++ [true], v.entity⟩ else v,
    fun r key => ?_, fun key hkey v => if_neg (hkey own)⟩
  unfold Registries.slot
  dsimp only
  by_cases h : key = id ++ own
  · rw [if_pos h, h]
    rw [IssueRegistry.callsAbout_create, if_pos rfl]
    exact congrArg (Registries.Slot.mk · _ _) (AList.lookup_insert _)
  · rw [if_neg h]
    rw [IssueRegistry.callsAbout_create, if_neg (Ne.symm h), List.append_nil]
    exact congrArg (Registries.Slot.mk · _ _) (AList.lookup_insert_ne h)

theorem delete (own : String) : EditsUnder id fun r =>
    { r with issues := r.issues.asyncDeleteIssue (id ++ own) } := by
  refine ⟨fun key v => if key = id ++ own then ⟨none, v.calls ++ [false], v.entity⟩ else v,
    fun r key => ?_, fun key hkey v => if_neg (hkey own)⟩
  unfold Registries.slot
  dsimp only
  by_cases h : key = id ++ own
  · rw [if_pos h, h]
    rw [IssueRegistry.callsAbout_delete, if_pos rfl]
    exact congrArg (Registries.Slot.mk · _ _) (AList.lookup_erase _ _)
  · rw [if_neg h]
    rw [IssueRegistry.callsAbout_delete, if_neg (Ne.symm h), List.append_nil]
    exact congrArg (Registries.Slot.mk · _ _) (AList.lookup_erase_ne h)

/-- Entities come and go by keys under the id. -/
theorem entities {add remove : Finset String} (hadd : ∀ key ∈ add, ∃ own, key = id ++ own)
    (hremove : ∀ key ∈ remove, ∃ own, key = id ++ own) : EditsUnder id fun r =>
    { r with entities := (r.entities ∪ add) \ remove } := by
  refine ⟨fun key v => ⟨v.issue, v.calls, decide ((v.entity ∨ key ∈ add) ∧ key ∉ remove)⟩,
    fun r key => ?_, fun key hkey v => ?_⟩
  · unfold Registries.slot
    dsimp only
    refine congrArg (Registries.Slot.mk _ _) ?_
    simp
  · have hadd' : key ∉ add := fun h => by
      obtain ⟨own, hown⟩ := hadd key h
      exact hkey own hown
    have hremove' : key ∉ remove := fun h => by
      obtain ⟨own, hown⟩ := hremove key h
      exact hkey own hown
    simp [hadd', hremove']

/-- An edit under one entry's id is an edit of that entry's own slots. -/
theorem ownEdit {κ : Type} {ids : κ → String} (h : DistinctIds ids) {k : κ}
    (hf : EditsUnder (ids k) f) :
    OwnEdit (fun k (r : Registries) (own : String) => r.slot (ids k ++ own)) k f := by
  obtain ⟨g, hg, hother⟩ := hf.slotwise
  refine ⟨fun r r' hview => funext fun own => ?_, fun j hj r => funext fun own => ?_⟩
  · rw [hg, hg, congrFun hview own]
  · rw [hg, hother _ (h.append_ne hj own)]

end EditsUnder

/-! ## Writing without reading -/

/-- Whatever stands in the registries, the action leads to one and the same hub but for
them, by one edit under the hub's id. -/
def WritesBlindly (F : Hub → Hub) (h : Hub) : Prop :=
  ∃ (h' : Hub) (f : Registries → Registries),
    h'.entryId = h.entryId ∧ EditsUnder h.entryId f ∧ ∀ r, F (h.over r) = h'.over (f r)

namespace WritesBlindly

/-- An action that does not come near the registries. -/
theorem of_private {F : Hub → Hub} {h : Hub} (h' : Hub) (hid : h'.entryId = h.entryId)
    (hF : ∀ r, F (h.over r) = h'.over r) : WritesBlindly F h :=
  ⟨h', fun r => r, hid, .refl _, hF⟩

/-- Only what the action does to this hub counts, over whatever registries. -/
theorem congr {F G : Hub → Hub} {h h₀ : Hub} (hG : WritesBlindly G h₀)
    (hid : h₀.entryId = h.entryId) (hFG : ∀ r, F (h.over r) = G (h₀.over r)) :
    WritesBlindly F h := by
  obtain ⟨h', f, hid', hf, hstep⟩ := hG
  rw [hid] at hid' hf
  exact ⟨h', f, hid', hf, fun r => (hFG r).trans (hstep r)⟩

/-- One blind action after another is blind: the second edits what the first has left,
and neither looks. -/
theorem comp {F G : Hub → Hub} {h : Hub} (hF : WritesBlindly F h)
    (hG : ∀ h' : Hub, h'.entryId = h.entryId → WritesBlindly G h') :
    WritesBlindly (fun h => G (F h)) h := by
  obtain ⟨h', f, hid, hf, hstep⟩ := hF
  obtain ⟨h'', g, hid', hg, hstep'⟩ := hG h' hid
  rw [hid] at hid' hg
  refine ⟨h'', fun r => g (f r), hid', hg.comp hf, fun r => ?_⟩
  show G (F (h.over r)) = _
  rw [hstep, hstep']

theorem foldl {α : Type} {F : α → Hub → Hub} (as : List α) {h : Hub}
    (hF : ∀ a, ∀ h' : Hub, h'.entryId = h.entryId → WritesBlindly (F a) h') :
    WritesBlindly (fun h => as.foldl (fun h a => F a h) h) h := by
  induction as generalizing h with
  | nil => exact of_private _ rfl fun _ => rfl
  | cons a as ih =>
    refine (hF a h rfl).comp (G := fun h => as.foldl (fun h a => F a h) h) fun h' hid => ih ?_
    intro a h'' hid'
    exact hF a h'' (hid'.trans hid)

end WritesBlindly

/-! ### The coordinator -/

/-- An action of the coordinator alone. -/
def onCoordinator (g : GC3Coordinator String → GC3Coordinator String) (h : Hub) : Hub :=
  { h with coordinator := g h.coordinator }

/-- Clearing an issue: the counter and the note are the coordinator's own, and the
deletion is under its id. -/
theorem blind_clearSupervisionIssue (z : String) (h : Hub) :
    WritesBlindly (onCoordinator (·.clearSupervisionIssue z)) h := by
  refine ⟨{ h with coordinator := { h.coordinator with
    supervisionReported := h.coordinator.supervisionReported.erase z } }, _, rfl,
    .delete ("_supervision_" ++ z), fun r => ?_⟩
  rw [← String.append_assoc]
  rfl

theorem blind_raiseSupervisionIssue (zone : Zone String) (h : Hub) :
    WritesBlindly (onCoordinator (·.raiseSupervisionIssue zone)) h := by
  refine ⟨{ h with coordinator := { h.coordinator with
    supervisionReported := insert zone.id h.coordinator.supervisionReported } }, _, rfl,
    .create ("_supervision_" ++ zone.id) ⟨false, .warning, "zone_supervision_lost", zone.name⟩,
    fun r => ?_⟩
  rw [← String.append_assoc]
  rfl

/-- One zone's supervision clears, raises or only counts, by what the coordinator itself
holds. -/
theorem blind_superviseZone (zone : Zone String) (h : Hub) :
    WritesBlindly (onCoordinator (·.superviseZone zone)) h := by
  let counted := onCoordinator (·.countMiss zone) h
  -- neither test of the loop body looks at the registries
  by_cases hraise : counted.coordinator.overThreshold zone.id = true ∧
      zone.id ∉ counted.coordinator.supervisionReported
  · refine (blind_raiseSupervisionIssue zone counted).congr rfl fun r => ?_
    exact congrArg (Hub.mk · _ _) (if_pos hraise)
  · by_cases hclear : ¬ counted.coordinator.overThreshold zone.id = true ∧
        zone.id ∈ counted.coordinator.supervisionReported
    · refine (blind_clearSupervisionIssue zone.id counted).congr rfl fun r => ?_
      exact congrArg (Hub.mk · _ _) ((if_neg hraise).trans (if_pos hclear))
    · refine .of_private counted rfl fun r => ?_
      exact congrArg (Hub.mk · _ _) ((if_neg hraise).trans (if_neg hclear))

/-- A loop over the coordinator is a loop over the hub. -/
theorem onCoordinator_foldl {α : Type} (g : GC3Coordinator String → α → GC3Coordinator String)
    (as : List α) (h : Hub) :
    onCoordinator (fun c => as.foldl g c) h = as.foldl (fun h a => onCoordinator (g · a) h) h := by
  induction as generalizing h with
  | nil => rfl
  | cons a as ih => exact ih (onCoordinator (g · a) h)

/-- The loop over the zones, and the loop over those that are gone. -/
theorem blind_updateSupervisionIssues (order : SetOrder String) (zones : List (Zone String))
    (h : Hub) : WritesBlindly (onCoordinator (·.updateSupervisionIssues order zones)) h := by
  have hzones : WritesBlindly (onCoordinator (zones.foldl GC3Coordinator.superviseZone ·)) h :=
    (WritesBlindly.foldl (F := fun zone => onCoordinator (·.superviseZone zone)) zones
      fun zone h' _ => blind_superviseZone zone h').congr rfl fun r => onCoordinator_foldl _ _ _
  -- the zones to clear are told by the reported set, which is the hub's own
  refine hzones.comp (G := onCoordinator fun c => (order.list (c.supervisionReported \
    (zones.map (·.id)).toFinset)).foldl GC3Coordinator.clearSupervisionIssue c) fun h' _ => ?_
  exact (WritesBlindly.foldl (F := fun z => onCoordinator (·.clearSupervisionIssue z))
    (order.list (h'.coordinator.supervisionReported \ (zones.map (·.id)).toFinset))
    fun z h'' _ => blind_clearSupervisionIssue z h'').congr rfl fun r => onCoordinator_foldl _ _ _

theorem blind_asyncRefresh (p : Poll String) (h : Hub) :
    WritesBlindly (onCoordinator (·.asyncRefresh p)) h := by
  cases hp : p.snapshot with
  | none =>
    refine .of_private { h with coordinator := { h.coordinator with
      lastUpdateSuccess := false } } rfl fun r => ?_
    exact congrArg (Hub.mk · _ _) (GC3Coordinator.asyncRefresh_of_none hp _)
  | some d =>
    -- a good poll: drop the flag, supervise the zones, store the snapshot
    let dropped : Hub := { h with coordinator := h.coordinator.dropNight d.status }
    have hdrop : ∀ r, onCoordinator (·.dropNight d.status) (h.over r) = dropped.over r := by
      intro r
      by_cases hholds : d.status.armState = "armed" ∨ d.status.armState = "arming"
      · simp [onCoordinator, GC3Coordinator.dropNight, Hub.over, dropped, hholds]
      · simp [onCoordinator, GC3Coordinator.dropNight, Hub.over, dropped, hholds]
    have hstored := (blind_updateSupervisionIssues p.order d.zones dropped).comp
      (G := onCoordinator fun c => { c with data := some d, lastUpdateSuccess := true })
      fun h' _ => .of_private { h' with coordinator := { h'.coordinator with
        data := some d, lastUpdateSuccess := true } } rfl fun _ => rfl
    refine hstored.congr ?_ fun r => ?_
    · exact congrArg ConfigEntry.entryId
        (GC3Coordinator.dropNight_configEntry h.coordinator d.status)
    · rw [← hdrop]
      exact congrArg (Hub.mk · _ _) (GC3Coordinator.asyncRefresh_of_some hp _)

/-! ### The platform -/

section

variable [Runtime]

/-- A sync adds and removes under the entry's id. -/
theorem mem_batch_syncZones {entryId : String} {order : SetOrder String}
    {data : Option (GC3Data String)} {known : Finset String} {e : GC3ZoneSensor}
    (h : e ∈ (syncZones entryId order data known).batch.getD []) :
    ∃ own, e.uniqueId = entryId ++ own := by
  have hnew : ∀ ids : List String, e ∈ ids.map (GC3ZoneSensor.new entryId data) →
      ∃ own, e.uniqueId = entryId ++ own := by
    intro ids he
    obtain ⟨z, -, rfl⟩ := List.mem_map.mp he
    exact ⟨"_zone_" ++ z, String.append_assoc ..⟩
  unfold syncZones at h
  cases data with
  | none => exact absurd h List.not_mem_nil
  | some d =>
    dsimp only at h
    split at h
    · exact absurd h List.not_mem_nil
    · split at h
      · exact absurd h List.not_mem_nil
      · exact hnew _ h

/-- What a sync does to the entity registry is an edit under the entry's id. -/
theorem editsUnder_register (h : Hub) (order : SetOrder String) (known add : Finset String)
    (hadd : ∀ key ∈ add, ∃ own, key = h.entryId ++ own) :
    let r := syncZones h.entryId order h.coordinator.data known
    EditsUnder h.entryId fun s => { s with
      entities := (s.entities ∪ (add ∪ ((r.batch.getD []).map (·.uniqueId)).toFinset)) \
        (r.removed.map (zoneUniqueId h.entryId)).toFinset } := by
  intro r
  refine EditsUnder.entities (fun key hkey => ?_) fun key hkey => ?_
  · rcases Finset.mem_union.mp hkey with hkey | hkey
    · exact hadd key hkey
    · obtain ⟨e, he, rfl⟩ := List.mem_map.mp (List.mem_toFinset.mp hkey)
      exact mem_batch_syncZones he
  · obtain ⟨z, -, rfl⟩ := List.mem_map.mp (List.mem_toFinset.mp hkey)
    exact ⟨"_zone_" ++ z, String.append_assoc ..⟩

/-- A sync looks at the snapshot and at what it knows, and not at the registry. -/
theorem blind_sync (order : SetOrder String) (pl : ZonePlatform) (h : Hub) :
    WritesBlindly (fun h => (h.sync order pl).1) h := by
  refine ⟨{ h with platform := some (Hub.applySync pl
    (syncZones h.entryId order h.coordinator.data pl.known)) }, _, rfl,
    editsUnder_register h order pl.known ∅ (by simp), fun r => ?_⟩
  dsimp only
  rw [Finset.empty_union]
  rfl

theorem blind_setupPlatform (order : SetOrder String) (h : Hub) :
    WritesBlindly (·.setupPlatform order) h := by
  have hhealth : ∀ key ∈ h.healthIds, ∃ own, key = h.entryId ++ own := by
    intro key hkey
    obtain ⟨d, -, rfl⟩ := List.mem_map.mp (List.mem_toFinset.mp hkey)
    exact ⟨"_" ++ d.key, String.append_assoc ..⟩
  let r := syncZones h.entryId order h.coordinator.data ∅
  refine ⟨{ h with platform := some { Hub.applySync ⟨∅, [], false⟩ r with
    listening := r.raised.isNone } }, _, rfl,
    editsUnder_register h order ∅ h.healthIds hhealth, fun s => ?_⟩
  dsimp only
  rw [← Finset.union_assoc]
  rfl

/-- A load is a first refresh and, if that is good, a set-up. -/
theorem blind_load (data options : List (String × Json)) (p : Poll String) (h : Hub) :
    WritesBlindly (·.load data options p) h := by
  have hfirst : WritesBlindly (·.firstRefresh data options p) h :=
    (blind_asyncRefresh p ⟨.init ⟨h.entryId, data, options⟩ .empty, none, ∅⟩).congr rfl
      fun _ => rfl
  refine hfirst.comp (G := fun h =>
    if h.coordinator.lastUpdateSuccess then h.setupPlatform p.order else h) fun h' _ => ?_
  -- whether the platform is set up is told by the first refresh, which reads no registry
  by_cases hsuccess : h'.coordinator.lastUpdateSuccess = true
  · exact (blind_setupPlatform p.order h').congr rfl fun r => if_pos hsuccess
  · exact .of_private h' rfl fun r => if_neg hsuccess

/-- A poll is a refresh and, where the platform listens, a sync. -/
theorem blind_refresh (p : Poll String) (h : Hub) : WritesBlindly (·.refresh p) h := by
  cases hpl : h.platform with
  | none =>
    refine .of_private h rfl fun r => ?_
    have hover : (h.over r).platform = none := hpl
    show (h.over r).refresh p = _
    unfold Hub.refresh
    rw [hover]
  | some pl =>
    have hboth := (blind_asyncRefresh p h).comp (G := fun h' =>
      if pl.listening ∧ (h'.coordinator.lastUpdateSuccess ∨ h.coordinator.lastUpdateSuccess) then
        (h'.sync p.order pl).1
      else h') fun h' _ => by
        by_cases hcall : pl.listening ∧
            (h'.coordinator.lastUpdateSuccess ∨ h.coordinator.lastUpdateSuccess)
        · exact (blind_sync p.order pl h').congr rfl fun r => if_pos hcall
        · exact .of_private h' rfl fun r => if_neg hcall
    refine hboth.congr rfl fun r => ?_
    have hover : (h.over r).platform = some pl := hpl
    show (h.over r).refresh p = _
    unfold Hub.refresh
    rw [hover]
    rfl

/-- Every step of a hub writes blindly. -/
theorem blind_step (i : HubStep) (h : Hub) : WritesBlindly (·.step i) h := by
  cases i with
  | load data options p => exact blind_load data options p h
  | poll p => exact blind_refresh p h
  | unload => exact .of_private { h with platform := none } rfl fun _ => rfl

/-! ## A home -/

/-- One entry takes a step over the registries it finds. -/
def homeStep (x : Hub × Registries) (i : HubStep) : Hub × Registries :=
  let h := (x.1.over x.2).step i
  (h.ownPart, h.registries)

/-- On its own, an entry's step over the registries is the step of its hub. -/
theorem run_homeStep (h : Hub) (is : List HubStep) :
    Runs.run homeStep (h.ownPart, h.registries) is =
      ((Runs.run Hub.step h is).ownPart, (Runs.run Hub.step h is).registries) := by
  induction is generalizing h with
  | nil => rfl
  | cons i is ih =>
    have hstep : homeStep (h.ownPart, h.registries) i =
        ((h.step i).ownPart, (h.step i).registries) := rfl
    rw [Runs.run_cons, Runs.run_cons, hstep, ih]

/-- **Entries do not notice each other.** Loads, polls and unloads of several entries in
any order, over one issue registry and one entity registry: each entry's coordinator and
platform are what they would be if it were the only one, and so is what stands in either
registry under its id. -/
theorem entries_isolated {κ : Type} [DecidableEq κ] {entry : κ → ConfigEntry}
    (hids : DistinctIds fun k => (entry k).entryId) (is : List (κ × HubStep)) (k : κ) :
    let home := Runs.run (sharedStep fun _ => homeStep)
      (fun k => Hub.new (entry k), ⟨.empty, ∅⟩) is
    let alone := Runs.run Hub.step (Hub.new (entry k)) (stepsOf k is)
    home.1 k = alone.ownPart ∧
      ∀ own, home.2.slot ((entry k).entryId ++ own) =
        alone.registries.slot ((entry k).entryId ++ own) := by
  intro home alone
  have hblind : ∀ k, Blind (fun k (r : Registries) (own : String) =>
      r.slot ((entry k).entryId ++ own)) k homeStep fun h => h.entryId = (entry k).entryId := by
    intro k h i hid
    obtain ⟨h', f, hid', hf, hstep⟩ := blind_step i h
    rw [hid] at hid' hf
    refine ⟨h'.ownPart, f, hid', hf.ownEdit hids, fun r => ?_⟩
    have hover : (h.over r).step i = h'.over (f r) := hstep r
    unfold homeStep
    dsimp only
    rw [hover]
    rfl
  obtain ⟨hown, hview⟩ := run_shared hblind (t := fun k => Hub.new (entry k)) (fun _ => rfl)
    (k := k) (s := ⟨.empty, ∅⟩) rfl is
  have halone : Runs.run homeStep (Hub.new (entry k), ⟨.empty, ∅⟩) (stepsOf k is) =
      (alone.ownPart, alone.registries) := run_homeStep (Hub.new (entry k)) (stepsOf k is)
  rw [halone] at hown hview
  exact ⟨hown, fun own => congrFun hview own⟩

end

/-- The entries of two panels. -/
def panelEntry (basement : Bool) : ConfigEntry :=
  ⟨if basement then "01JGC3BASEMENT0000000000" else "01JGC3UPSTAIRS0000000000", [], []⟩

/-- The front door of either panel: losing it upstairs is nothing to the basement. -/
theorem basement_isolated :
    let _runtime := latin1
    let quiet : Poll String := .ofSnapshot ⟨.disarmed, [.bare "1" "Front Door" .quiet]⟩
    let home := Runs.run (sharedStep fun _ => homeStep)
      (fun b => Hub.new (panelEntry b), ⟨.empty, ∅⟩)
      [(true, .load [] [] quiet), (false, .load [] [] lostPoll), (true, .poll quiet)]
    home.1 true = (Runs.run Hub.step (Hub.new (panelEntry true))
      [.load [] [] quiet, .poll quiet]).ownPart := by
  intro _runtime quiet home
  have hids : DistinctIds fun b => (panelEntry b).entryId :=
    ⟨by decide, fun a b h => by revert h; cases a <;> cases b <;> decide⟩
  exact (entries_isolated hids [(true, .load [] [] quiet), (false, .load [] [] lostPoll),
    (true, .poll quiet)] true).1

end Gc3.Hass
