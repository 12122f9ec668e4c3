import Gc3.Hass.EntityRegistry
import Gc3.Lib.Alternation

/-!
# Every call of `_sync_zones` in one set-up

The closure of `async_setup_entry` as a machine: the coordinator it reads, the set it
keeps between calls, and a log of what each call came to. Its additions and removals of
one zone id are a switch turned on and off (`Alternates`), and the switch stands on
exactly while the id is listed: `zones_added_once`, through a set-up and any polls whose
ids have sort keys. A call over an unchanged list adds nothing and removes nothing, and
no batch has an id twice.

Two invariants, one on top of the other. `Logged` is about the calls made so far,
whatever they read: the events of each id alternate, and end on a removal or on an
addition according to whether the id is known. `Logged.call` keeps it, by what one call
does to one id (`events_of_synced`), which is `syncZones_of_sortable` again. `InStep`
adds that what is known is what the data lists, which every good poll brings about and a
failed one leaves as it is (`InStep.poll`).
-/

namespace Gc3.Hass

open Gc3.Py Gc3.Pygc3 Alternation

/-! ## The closure -/

/-- The coordinator a set-up reads, its `known`, and what its calls came to. -/
structure SyncRun where
  coordinator : GC3Coordinator String
  known : Finset String
  calls : List Sync

/-- The ids in `coordinator.data`. -/
def idsOf (data : Option (GC3Data String)) : Finset String :=
  match data with
  | some d => currentIds d
  | none => ∅

/-- What a call did to one id, in order: `true` for an addition, `false` for a removal. -/
def Sync.events (z : String) (r : Sync) : List Bool :=
  ((r.batch.getD []).filter (·.zoneId = z)).map (fun _ => true) ++
    (r.removed.filter (· = z)).map fun _ => false

/-- `_sort_key` returns on every id of the snapshot. -/
def SortableIds (data : Option (GC3Data String)) [Runtime] : Prop := ∀ z ∈ idsOf data, Sortable z

/-- No batch passed to `async_add_entities` has an id twice. -/
def Sync.BatchNodup (r : Sync) : Prop :=
  ∀ batch, r.batch = some batch → (batch.map (·.zoneId)).Nodup

namespace SyncRun

variable [Runtime]

/-- One call of `_sync_zones`. -/
def call (r : SyncRun) (order : SetOrder String) : SyncRun :=
  let s := syncZones r.coordinator.configEntry.entryId order r.coordinator.data r.known
  { r with known := s.known, calls := r.calls ++ [s] }

/-- `async_setup_entry`, up to its own call. -/
def setup (c : GC3Coordinator String) (order : SetOrder String) : SyncRun :=
  call ⟨c, ∅, []⟩ order

/-- A poll, successful or not, and the call after it. -/
def poll (r : SyncRun) (p : Poll String) : SyncRun :=
  call { r with coordinator := r.coordinator.asyncRefresh p } p.order

omit [Runtime] in
/-- Everything the calls did to one id. -/
def events (z : String) (r : SyncRun) : List Bool := r.calls.flatMap (Sync.events z)

/-! ## One call -/

omit [Runtime] in
/-- In a list without repetitions an id is found once or not at all. -/
theorem filter_eq_of_nodup {l : List String} (h : l.Nodup) (z : String) :
    l.filter (· = z) = if z ∈ l then [z] else [] := by
  rw [List.filter_eq, h.count]
  split <;> rfl

theorem zoneId_new (entryId : String) (data : Option (GC3Data String)) (ids : List String) :
    (ids.map (GC3ZoneSensor.new entryId data)).map (·.zoneId) = ids := by
  rw [List.map_map]
  exact List.map_id _

/-- What a call that knows its sort keys does to one id. -/
theorem events_of_synced {entryId : String} {order : SetOrder String} {d : GC3Data String}
    {known : Finset String} {s : Sync} (h : Synced entryId order d known s) (z : String) :
    s.events z = (if z ∈ currentIds d \ known then [true] else []) ++
      if z ∈ known \ currentIds d then [false] else [] := by
  obtain ⟨new, hperm, hbatch⟩ := h.batch_eq
  have hnew : z ∈ new ↔ z ∈ currentIds d \ known := by
    rw [hperm.mem_iff, order.mem_list]
  have hnodup : new.Nodup := hperm.nodup_iff.mpr (order.nodup _)
  have hadded : ((s.batch.getD []).filter (·.zoneId = z)).map (fun _ => true) =
      if z ∈ currentIds d \ known then [true] else [] := by
    have hids : ((s.batch.getD []).filter (·.zoneId = z)).map (·.zoneId) = new.filter (· = z) := by
      rw [hbatch, ← zoneId_new entryId (some d) new, List.filter_map, zoneId_new]
      rfl
    have hlen := congrArg (List.map fun _ => true) hids
    rw [List.map_map, filter_eq_of_nodup hnodup] at hlen
    refine hlen.trans ?_
    simp only [hnew]
    split <;> rfl
  have hremoved : (s.removed.filter (· = z)).map (fun _ => false) =
      if z ∈ known \ currentIds d then [false] else [] := by
    rw [h.removed_eq, filter_eq_of_nodup (order.nodup _)]
    simp only [order.mem_list]
    split <;> rfl
  unfold Sync.events
  rw [hadded, hremoved]

/-- A batch is a set's elements in some order, so it has none twice. -/
theorem batchNodup_of_synced {entryId : String} {order : SetOrder String} {d : GC3Data String}
    {known : Finset String} {s : Sync} (h : Synced entryId order d known s) : s.BatchNodup := by
  intro batch hbatch
  obtain ⟨new, hperm, hnew⟩ := h.batch_eq
  rw [hbatch, Option.getD_some] at hnew
  rw [hnew, zoneId_new]
  exact hperm.nodup_iff.mpr (order.nodup _)

/-- Additions and removals of each id alternate, and the last of them says whether
it is known. -/
structure Logged (r : SyncRun) : Prop where
  alternates : ∀ z, Alternates (r.events z)
  standing : ∀ z, standing (r.events z) = decide (z ∈ r.known)
  batches : ∀ s ∈ r.calls, s.BatchNodup

omit [Runtime] in
/-- Before the first call there is nothing in the log and nothing known. -/
theorem logged_new (c : GC3Coordinator String) : Logged ⟨c, ∅, []⟩ where
  alternates := fun _ => alternates_nil
  standing := fun _ => rfl
  batches := fun s hs => absurd hs (by simp)

omit [Runtime] in
/-- One more call is logged when its batch is, and each id's events carry on. -/
theorem Logged.log {r : SyncRun} (h : Logged r) {known : Finset String} {s : Sync}
    (hbatch : s.BatchNodup)
    (hevents : ∀ z, Alternates (r.events z ++ s.events z) ∧
      Alternation.standing (r.events z ++ s.events z) = decide (z ∈ known)) :
    Logged { r with known := known, calls := r.calls ++ [s] } := by
  have happend : ∀ z, events z { r with known := known, calls := r.calls ++ [s] }
      = r.events z ++ s.events z := by
    intro z
    unfold events
    rw [List.flatMap_append, List.flatMap_singleton]
  refine ⟨fun z => ?_, fun z => ?_, ?_⟩
  · rw [happend]
    exact (hevents z).1
  · rw [happend]
    exact (hevents z).2
  · intro t ht
    rcases List.mem_append.mp ht with ht | ht
    · exact h.batches t ht
    · rw [List.mem_singleton.mp ht]
      exact hbatch

/-- A call over new ids that all have a key brings `known` to the ids listed, and
logs one event for each id that came or went. -/
theorem Logged.call {r : SyncRun} (h : Logged r) (order : SetOrder String) {d : GC3Data String}
    (hdata : r.coordinator.data = some d) (hsort : ∀ z ∈ currentIds d \ r.known, Sortable z) :
    Logged (r.call order) ∧ (r.call order).known = currentIds d := by
  have hsynced := syncZones_of_sortable r.coordinator.configEntry.entryId order hsort
  have hcall : r.call order = { r with
      known := currentIds d
      calls := r.calls ++
        [syncZones r.coordinator.configEntry.entryId order (some d) r.known] } := by
    unfold SyncRun.call
    dsimp only
    rw [hdata, hsynced.known_eq]
  rw [hcall]
  refine ⟨h.log (batchNodup_of_synced hsynced) fun z => ?_, rfl⟩
  rw [events_of_synced hsynced z]
  have halternates := h.alternates z
  have hstanding := h.standing z
  by_cases hk : z ∈ r.known <;> by_cases hc : z ∈ currentIds d
  · exact ⟨by simpa [hk, hc] using halternates, by simpa [hk, hc] using hstanding⟩
  · have hremoved := Alternates.concat (b := false) halternates
      (hstanding.trans (decide_eq_true hk))
    exact ⟨by simpa [hk, hc] using hremoved, by simp [hk, hc]⟩
  · have hadded := Alternates.concat (b := true) halternates
      (hstanding.trans (decide_eq_false hk))
    exact ⟨by simpa [hk, hc] using hadded, by simp [hk, hc]⟩
  · exact ⟨by simpa [hk, hc] using halternates, by simpa [hk, hc] using hstanding⟩

/-! ## A whole set-up -/

/-- Between calls `known` is moreover what the data lists. -/
structure InStep (r : SyncRun) : Prop extends Logged r where
  known : r.known = idsOf r.coordinator.data

/-- The data was listed by the polls so far, or there is none and nothing is known. -/
theorem InStep.of_logged {r : SyncRun} (h : Logged r) (order : SetOrder String)
    (hnone : r.coordinator.data = none → r.known = ∅)
    (hsort : ∀ z ∈ idsOf r.coordinator.data \ r.known, Sortable z) : InStep (r.call order) := by
  cases hdata : r.coordinator.data with
  | none =>
    -- a call without data returns at once
    have hcall : r.call order = { r with calls := r.calls ++ [⟨r.known, none, [], none⟩] } := by
      unfold SyncRun.call
      rw [hdata]
      rfl
    have hnothing : ∀ z, (⟨r.known, none, [], none⟩ : Sync).events z = [] := fun z => rfl
    rw [hcall]
    refine ⟨h.log (fun batch hbatch => absurd hbatch (by simp)) fun z => ?_, ?_⟩
    · rw [hnothing, List.append_nil]
      exact ⟨h.alternates z, h.standing z⟩
    · show r.known = idsOf r.coordinator.data
      rw [hdata, hnone hdata]
      rfl
  | some d =>
    rw [hdata] at hsort
    obtain ⟨hlogged, hknown⟩ := h.call order hdata hsort
    refine ⟨hlogged, hknown.trans ?_⟩
    show currentIds d = idsOf r.coordinator.data
    rw [hdata]
    rfl

/-- The first call brings the two in step. -/
theorem inStep_setup (c : GC3Coordinator String) (order : SetOrder String)
    (hsort : SortableIds c.data) : InStep (setup c order) :=
  InStep.of_logged (logged_new c) order (fun _ => rfl) fun z hz =>
    hsort z (Finset.mem_sdiff.mp hz).1

/-- A poll that fails leaves the data, whose ids are known. -/
theorem InStep.poll {r : SyncRun} (h : InStep r) {p : Poll String}
    (hsort : SortableIds p.snapshot) : InStep (r.poll p) := by
  have hlogged : Logged { r with coordinator := r.coordinator.asyncRefresh p } :=
    ⟨h.alternates, h.standing, h.batches⟩
  refine InStep.of_logged hlogged p.order (fun hnone => ?_) fun z hz => ?_
  · show r.known = ∅
    have hdata : p.snapshot.or r.coordinator.data = none := by
      rw [← GC3Coordinator.asyncRefresh_data]
      exact hnone
    rw [h.known, (Option.or_eq_none_iff.mp hdata).2]
    rfl
  · have hz' : z ∈ idsOf (p.snapshot.or r.coordinator.data) \ r.known := by
      rw [← GC3Coordinator.asyncRefresh_data]
      exact hz
    rw [h.known] at hz'
    cases hp : p.snapshot with
    | none =>
      rw [hp, Option.none_or, Finset.sdiff_self] at hz'
      exact absurd hz' (Finset.notMem_empty z)
    | some d =>
      rw [hp, Option.some_or] at hz'
      refine hsort z ?_
      rw [hp]
      exact (Finset.mem_sdiff.mp hz').1

/-- A call that finds the ids it knows adds nothing and removes nothing. -/
theorem syncZones_of_known (entryId : String) (order : SetOrder String)
    (data : Option (GC3Data String)) :
    (syncZones entryId order data (idsOf data)).batch = none ∧
      (syncZones entryId order data (idsOf data)).removed = [] := by
  cases data with
  | none => exact ⟨rfl, rfl⟩
  | some d =>
    have hself : currentIds d \ currentIds d = ∅ := Finset.sdiff_self _
    have hnil : order.list ∅ = [] := List.eq_nil_iff_forall_not_mem.mpr fun z hz =>
      absurd ((order.mem_list _ z).mp hz) (Finset.notMem_empty z)
    unfold syncZones idsOf
    dsimp only
    rw [if_pos hself]
    unfold dropRemoved
    rw [hself, hnil]
    exact ⟨rfl, rfl⟩

/-- **Added and removed once per appearance.** Through a set-up and any polls whose
ids have sort keys: `known` is what the data lists; the additions and removals of
each id alternate, an addition first, one more of them than of the other while the
id is listed; no batch has an id twice; and a call that finds the same ids again
adds and removes nothing. -/
theorem zones_added_once (c : GC3Coordinator String) (order : SetOrder String)
    (hc : SortableIds c.data) (polls : List (Poll String))
    (hpolls : ∀ p ∈ polls, SortableIds p.snapshot) :
    let r := Runs.run poll (setup c order) polls
    r.known = idsOf r.coordinator.data ∧
      (∀ z, Alternates (r.events z) ∧ (r.events z).count true =
        (r.events z).count false + if z ∈ idsOf r.coordinator.data then 1 else 0) ∧
      (∀ s ∈ r.calls, s.BatchNodup) ∧
      ∀ p s, (r.poll p).calls = r.calls ++ [s] →
        idsOf (r.poll p).coordinator.data = idsOf r.coordinator.data →
          s.batch = none ∧ s.removed = [] := by
  intro r
  have hrun : InStep r := by
    induction polls using List.reverseRecOn with
    | nil => exact inStep_setup c order hc
    | append_singleton polls p ih =>
      have hlast := ih (fun q hq => hpolls q (List.mem_append_left _ hq))
      show InStep (Runs.run poll (setup c order) (polls ++ [p]))
      rw [Runs.run_concat]
      exact hlast.poll (hpolls p (by simp))
  refine ⟨hrun.known, fun z => ⟨hrun.alternates z, ?_⟩, hrun.batches, fun p s hs hids => ?_⟩
  · rw [Alternates.count_true (hrun.alternates z), hrun.standing z, ← hrun.known]
    simp only [decide_eq_true_eq]
  · have hsync := (List.append_cancel_left hs).symm
    rw [List.singleton_inj.mp hsync]
    have hknown : r.known = idsOf (r.poll p).coordinator.data := hrun.known.trans hids.symm
    show (syncZones _ _ (r.poll p).coordinator.data r.known).batch = none ∧ _
    rw [hknown]
    exact syncZones_of_known _ _ _

end SyncRun

/-- The back door is listed, deleted, and listed again: it comes, goes and comes back. -/
theorem backDoor_comes_back :
    Alternates ((Runs.run (@SyncRun.poll latin1) (@SyncRun.setup latin1 (.init bareEntry .empty)
      (.ascending String)) [doorsPoll, frontPoll, doorsPoll]).events "2") := by
  have hone : @Sortable latin1 "1" := ⟨(1, ""), by decide +kernel⟩
  have htwo : @Sortable latin1 "2" := ⟨(2, ""), by decide +kernel⟩
  have hdoors : @SortableIds doorsPoll.snapshot latin1 := by
    intro z hz
    have hmem : z ∈ ["1", "2"] := mem_currentIds_iff.mp hz
    rcases List.mem_cons.mp hmem with rfl | hmem
    · exact hone
    · rw [List.mem_singleton.mp hmem]
      exact htwo
  have hfront : @SortableIds frontPoll.snapshot latin1 := by
    intro z hz
    have hmem : z ∈ ["1"] := mem_currentIds_iff.mp hz
    rw [List.mem_singleton.mp hmem]
    exact hone
  refine ((@SyncRun.zones_added_once latin1 (.init bareEntry .empty) (.ascending String)
    (fun z hz => absurd hz (Finset.notMem_empty z)) [doorsPoll, frontPoll, doorsPoll] ?_).2.1 "2").1
  intro p hp
  simp only [List.mem_cons, List.not_mem_nil, or_false] at hp
  rcases hp with rfl | rfl | rfl
  · exact hdoors
  · exact hfront
  · exact hdoors

end Gc3.Hass
