import Gc3.Hass.Hub
import Gc3.Lib.Runs
import Gc3.Py.Latin1

/-!
# Does the entity registry follow the panel's zones?

Within one set-up it does: what `_sync_zones` knows is what is registered, and each call
brings both to the zones of the latest poll. Across set-ups it does not: `known` starts
empty, so a sensor whose zone was deleted while the entry was not loaded is in neither
difference and stays registered. The other way out is a zone id on which `_sort_key`
raises, which is noted as known and never added. `follows_iff` says that there is no
third.

`Followable` is the condition, on the step and on the registry before it, and the proof
has it kind by kind: `load_follows_iff` for a load, `poll_follows_iff` for a poll that
calls the platform back, and nothing to show for an unload. What carries a run of them
is `InSync`, which holds as long as every step so far was followable: between set-ups
there is no platform, and within one, what the platform knows is what is registered. It
is kept by `InSync.load` and `InSync.refresh`, and both come out of the two results on
`syncZones`.
-/

namespace Gc3.Hass

open Gc3.Py Gc3.Pygc3

namespace Hub

/-! ## What is asked of a sync, and when it is met -/

/-- The zone is in the latest list polled. -/
def Listed (h : Hub) (z : String) : Prop :=
  ∃ d, h.coordinator.data = some d ∧ z ∈ d.zones.map (·.id)

/-- The zones registered are the zones listed. -/
def Follows (h : Hub) : Prop := ∀ z, h.Registered z ↔ h.Listed z

/-- The platform is there and called back. -/
def Listening (h : Hub) : Prop := ∃ pl, h.platform = some pl ∧ pl.listening = true

variable [Runtime]

/-- In the state before the step, if it syncs at all: what a load finds registered
is among the zones it is about to list, and every zone listed has a sort key. -/
def Followable (h : Hub) : HubStep → Prop
  | .load _ _ p => ∀ d, p.snapshot = some d →
      (∀ z, h.Registered z → z ∈ d.zones.map (·.id)) ∧ ∀ z ∈ d.zones.map (·.id), Sortable z
  | .poll p => h.Listening → ∀ d, p.snapshot = some d → ∀ z ∈ d.zones.map (·.id), Sortable z
  | .unload => True

/-- Only ids with a sort key are ever registered, and a platform that is called
back knows the ids of the snapshot, which are the ones registered. -/
structure InSync (h : Hub) : Prop where
  sortable : ∀ z, h.Registered z → Sortable z
  known : ∀ pl, h.platform = some pl → pl.listening = true →
    ∃ d, h.coordinator.data = some d ∧ pl.known = currentIds d ∧
      ∀ z, h.Registered z ↔ z ∈ currentIds d

/-- An entry never loaded has nothing registered, and no platform to disagree. -/
theorem inSync_new (entry : ConfigEntry) : InSync (new entry) where
  sortable := fun z hz => absurd hz (by simp [Registered, new])
  known := fun pl hpl => absurd hpl (by simp [new])

/-! ## A load -/

omit [Runtime] in
/-- With a snapshot, to follow is to have the current ids registered. -/
theorem follows_iff_of_data {h : Hub} {d : GC3Data String} (hdata : h.coordinator.data = some d) :
    h.Follows ↔ ∀ z, h.Registered z ↔ z ∈ currentIds d := by
  unfold Follows Listed
  refine forall_congr' fun z => ?_
  rw [hdata, mem_currentIds_iff]
  simp

omit [Runtime] in
theorem registered_firstRefresh (h : Hub) (data options : List (String × Json)) (p : Poll String)
    (z : String) : (h.firstRefresh data options p).Registered z ↔ h.Registered z := by
  unfold Registered entryId firstRefresh
  rw [GC3Coordinator.asyncRefresh_configEntry]
  exact Iff.rfl

omit [Runtime] in
theorem registered_addHealthSensors (h : Hub) (z : String) :
    h.addHealthSensors.Registered z ↔ h.Registered z := by
  have hnot : zoneUniqueId h.entryId z ∉ h.healthIds := by
    unfold healthIds
    rw [List.mem_toFinset, List.mem_map]
    intro ⟨d, hd, hid⟩
    exact health_uniqueId_ne hd _ _ hid
  show zoneUniqueId h.entryId z ∈ h.registry ∪ h.healthIds ↔ zoneUniqueId h.entryId z ∈ h.registry
  simp [hnot]

/-- After a set-up over ids that all have a key: what was registered, and what is
listed. -/
theorem setupPlatform_of_sortable (h : Hub) (order : SetOrder String) {d : GC3Data String}
    (hdata : h.coordinator.data = some d) (hsort : ∀ z ∈ currentIds d, Sortable z) :
    (∀ z, (h.setupPlatform order).Registered z ↔ h.Registered z ∨ z ∈ currentIds d) ∧
      ∀ pl, (h.setupPlatform order).platform = some pl → pl.known = currentIds d := by
  have hnew : ∀ z ∈ currentIds d \ (∅ : Finset String), Sortable z := by
    simpa using hsort
  constructor
  · intro z
    have hsync := registered_sync_of_sortable h.addHealthSensors order ⟨∅, [], false⟩ hdata hnew z
    rw [registered_addHealthSensors] at hsync
    refine Iff.trans hsync ?_
    simp
  · intro pl hpl
    have hknown := known_sync_of_sortable h.addHealthSensors order ⟨∅, [], false⟩ hdata hnew
    rw [← Option.some.inj hpl]
    exact hknown.1

/-- A set-up whose sync raises registers no zone, and is not called back. -/
theorem setupPlatform_of_not_sortable (h : Hub) (order : SetOrder String) {d : GC3Data String}
    (hdata : h.coordinator.data = some d) (hsort : ¬ ∀ z ∈ currentIds d, Sortable z) (z : String) :
    (h.setupPlatform order).Registered z ↔ h.Registered z := by
  have hnew : ¬ ∀ z ∈ currentIds d \ (∅ : Finset String), Sortable z := by
    simpa using hsort
  have hsync := registered_sync_of_not_sortable h.addHealthSensors order ⟨∅, [], false⟩ hdata hnew z
  rw [registered_addHealthSensors] at hsync
  exact hsync

omit [Runtime] in
theorem success_firstRefresh (h : Hub) (data options : List (String × Json)) (p : Poll String) :
    (h.firstRefresh data options p).coordinator.lastUpdateSuccess = p.snapshot.isSome :=
  GC3Coordinator.asyncRefresh_lastUpdateSuccess _ p

/-- A load whose first refresh fails ends there, before any platform. -/
theorem load_of_none (h : Hub) (data options : List (String × Json)) {p : Poll String}
    (hp : p.snapshot = none) :
    h.load data options p = h.firstRefresh data options p := by
  refine if_neg ?_
  rw [success_firstRefresh, hp]
  simp

/-- And one whose first refresh succeeds sets the platforms up over its snapshot. -/
theorem load_of_some (h : Hub) (data options : List (String × Json)) {p : Poll String}
    {d : GC3Data String} (hp : p.snapshot = some d) :
    h.load data options p = (h.firstRefresh data options p).setupPlatform p.order ∧
      (h.firstRefresh data options p).coordinator.data = some d := by
  refine ⟨if_pos ?_, ?_⟩
  · rw [success_firstRefresh, hp]
    rfl
  · unfold firstRefresh
    rw [GC3Coordinator.asyncRefresh_data, hp]
    rfl

/-- A load is followed up exactly when it could be. -/
theorem load_follows_iff {h : Hub} (hsync : InSync h) {p : Poll String} {d : GC3Data String}
    (hp : p.snapshot = some d) (data options : List (String × Json)) :
    (h.load data options p).Follows ↔ h.Followable (.load data options p) := by
  obtain ⟨hload, hdata⟩ := load_of_some h data options hp
  have hfollowable : h.Followable (.load data options p) ↔
      (∀ z, h.Registered z → z ∈ currentIds d) ∧ ∀ z ∈ currentIds d, Sortable z := by
    unfold Followable
    simp only [hp, Option.some.injEq, forall_eq', mem_currentIds_iff]
  have hbefore := registered_firstRefresh h data options p
  have hcoord : ((h.firstRefresh data options p).setupPlatform p.order).coordinator.data = some d :=
    hdata
  rw [hload, hfollowable, follows_iff_of_data hcoord]
  by_cases hsort : ∀ z ∈ currentIds d, Sortable z
  · have hafter := (setupPlatform_of_sortable _ p.order hdata hsort).1
    constructor
    · intro hfollows
      refine ⟨fun z hz => (hfollows z).mp ((hafter z).mpr (Or.inl ((hbefore z).mpr hz))), hsort⟩
    · intro ⟨hsub, _⟩ z
      rw [hafter, hbefore]
      exact ⟨fun hz => hz.elim (hsub z) id, Or.inr⟩
  · -- the id without a key is listed, but cannot have been registered before
    have hafter := setupPlatform_of_not_sortable _ p.order hdata hsort
    refine iff_of_false (fun hfollows => hsort fun z hz => ?_) fun hall => hsort hall.2
    exact hsync.sortable z ((hbefore z).mp ((hafter z).mp ((hfollows z).mpr hz)))

/-- A followable load leaves known and registered the same: set-up starts from no
`known`, and the condition is that what was registered before is still listed. -/
theorem InSync.load {h : Hub} (hsync : InSync h) {data options : List (String × Json)}
    {p : Poll String} (hfollowable : h.Followable (.load data options p)) :
    InSync (h.load data options p) := by
  have hbefore := registered_firstRefresh h data options p
  cases hp : p.snapshot with
  | none =>
    rw [load_of_none h data options hp]
    exact ⟨fun z hz => hsync.sortable z ((hbefore z).mp hz), fun pl hpl => absurd hpl (by
      simp [firstRefresh])⟩
  | some d =>
    obtain ⟨hload, hdata⟩ := load_of_some h data options hp
    obtain ⟨hsub, hsort⟩ := hfollowable d hp
    simp only [← mem_currentIds_iff] at hsub hsort
    obtain ⟨hafter, hknown⟩ := setupPlatform_of_sortable _ p.order hdata hsort
    rw [hload]
    have hiff : ∀ z, ((h.firstRefresh data options p).setupPlatform p.order).Registered z ↔
        z ∈ currentIds d := by
      intro z
      rw [hafter, hbefore]
      exact ⟨fun hz => hz.elim (hsub z) id, Or.inr⟩
    exact ⟨fun z hz => hsort z ((hiff z).mp hz), fun pl hpl _ => ⟨d, hdata, hknown pl hpl, hiff⟩⟩

/-! ## A poll -/

omit [Runtime] in
theorem registered_refreshed (h : Hub) (p : Poll String) (z : String) :
    (h.refreshed p).Registered z ↔ h.Registered z := by
  unfold Registered entryId refreshed
  rw [GC3Coordinator.asyncRefresh_configEntry]

omit [Runtime] in
/-- The snapshot a platform is called back with. -/
theorem data_refreshed {h : Hub} {d : GC3Data String} (hdata : h.coordinator.data = some d)
    (p : Poll String) : (h.refreshed p).coordinator.data = some (p.snapshot.getD d) := by
  unfold refreshed
  rw [GC3Coordinator.asyncRefresh_data, hdata]
  cases p.snapshot <;> rfl

omit [Runtime] in
theorem success_refreshed (h : Hub) (p : Poll String) :
    (h.refreshed p).coordinator.lastUpdateSuccess = p.snapshot.isSome :=
  GC3Coordinator.asyncRefresh_lastUpdateSuccess _ p

/-- A listening platform is called back after a success, and after the first failure. -/
theorem refresh_of_syncs {h : Hub} {pl : ZonePlatform} (hpl : h.platform = some pl)
    (hon : pl.listening = true) {p : Poll String}
    (hcall : p.snapshot.isSome ∨ h.coordinator.lastUpdateSuccess) :
    h.refresh p = ((h.refreshed p).sync p.order pl).1 := by
  unfold refresh
  rw [hpl]
  refine if_pos ⟨hon, ?_⟩
  rw [success_refreshed]
  exact hcall

/-- Without a call back the registry stays as it is, and so does the platform. -/
theorem refresh_of_not_syncs {h : Hub} {p : Poll String} (hs : ¬ h.Syncs (.poll p)) :
    (∀ z, (h.refresh p).Registered z ↔ h.Registered z) ∧
      (h.refresh p).platform = h.platform ∧
        ((h.refresh p).coordinator.data = h.coordinator.data ∨ ¬ h.Listening) := by
  unfold refresh
  cases hpl : h.platform with
  | none => exact ⟨fun z => Iff.rfl, hpl, Or.inl rfl⟩
  | some pl =>
    dsimp only
    by_cases hon : pl.listening = true
    · have hcall : ¬ (p.snapshot.isSome ∨ h.coordinator.lastUpdateSuccess) :=
        fun hcall => hs ⟨pl, hpl, hon, hcall⟩
      have hnone : p.snapshot = none := by
        cases hp : p.snapshot with
        | none => rfl
        | some d => exact absurd (Or.inl (by rw [hp]; rfl)) hcall
      rw [success_refreshed, if_neg (fun hc => hcall hc.2)]
      refine ⟨registered_refreshed h p, hpl, Or.inl ?_⟩
      unfold refreshed
      rw [GC3Coordinator.asyncRefresh_data, hnone]
      rfl
    · rw [if_neg (fun hc => hon hc.1)]
      refine ⟨registered_refreshed h p, hpl, Or.inr ?_⟩
      intro ⟨pl', hpl', hon'⟩
      rw [hpl] at hpl'
      exact hon (by rw [Option.some.inj hpl']; exact hon')

/-- What a listening platform needs of a poll is a key for each new id. -/
theorem followable_poll_iff {h : Hub} (hsync : InSync h) {pl : ZonePlatform}
    (hpl : h.platform = some pl) (hon : pl.listening = true) {d : GC3Data String}
    (hknown : pl.known = currentIds d) (hreg : ∀ z, h.Registered z ↔ z ∈ currentIds d)
    (p : Poll String) :
    h.Followable (.poll p) ↔ ∀ z ∈ currentIds (p.snapshot.getD d) \ pl.known, Sortable z := by
  have hlistening : h.Listening := ⟨pl, hpl, hon⟩
  show (h.Listening → ∀ d', p.snapshot = some d' → ∀ z ∈ d'.zones.map (·.id), Sortable z) ↔ _
  cases hp : p.snapshot with
  | none => simp [hknown]
  | some d' =>
    simp only [Option.some.injEq, forall_eq', Option.getD_some, ← mem_currentIds_iff]
    constructor
    · intro hall z hz
      exact hall hlistening z (Finset.mem_sdiff.mp hz).1
    · intro hnew _ z hz
      by_cases hk : z ∈ pl.known
      · rw [hknown] at hk
        exact hsync.sortable z ((hreg z).mpr hk)
      · exact hnew z (Finset.mem_sdiff.mpr ⟨hz, hk⟩)

/-- A sync in which every new id has a key brings registry and `known` to the
zones listed. -/
theorem sync_of_sortable (h : Hub) (order : SetOrder String) {pl : ZonePlatform}
    {d d' : GC3Data String} (hdata : h.coordinator.data = some d')
    (hknown : pl.known = currentIds d) (hreg : ∀ z, h.Registered z ↔ z ∈ currentIds d)
    (hnew : ∀ z ∈ currentIds d' \ pl.known, Sortable z) (z : String) :
    (h.sync order pl).1.Registered z ↔ z ∈ currentIds d' := by
  rw [registered_sync_of_sortable h order pl hdata hnew, hreg, hknown, Finset.mem_sdiff,
    Finset.mem_sdiff]
  tauto

/-- A poll that calls back is followed exactly when it could be. -/
theorem poll_follows_iff {h : Hub} (hsync : InSync h) {p : Poll String}
    (hs : h.Syncs (.poll p)) : (h.refresh p).Follows ↔ h.Followable (.poll p) := by
  obtain ⟨pl, hpl, hon, hcall⟩ := hs
  obtain ⟨d, hdata, hknown, hreg⟩ := hsync.known pl hpl hon
  have hreg' : ∀ z, (h.refreshed p).Registered z ↔ z ∈ currentIds d := fun z =>
    (registered_refreshed h p z).trans (hreg z)
  rw [refresh_of_syncs hpl hon hcall, followable_poll_iff hsync hpl hon hknown hreg,
    follows_iff_of_data (h := ((h.refreshed p).sync p.order pl).1) (data_refreshed hdata p)]
  constructor
  · intro hfollows
    by_contra hnew
    -- a new id without a key is listed and still not registered
    refine hnew fun z hz => ?_
    have hz' := (hfollows z).mpr (Finset.mem_sdiff.mp hz).1
    rw [registered_sync_of_not_sortable _ _ _ (data_refreshed hdata p) hnew, hreg', ← hknown] at hz'
    exact absurd hz' (Finset.mem_sdiff.mp hz).2
  · intro hnew z
    exact sync_of_sortable _ _ (data_refreshed hdata p) hknown hreg' hnew z

/-- A followable poll keeps known and registered the same: called back or not, both go
to the zones listed or both stay. -/
theorem InSync.refresh {h : Hub} (hsync : InSync h) {p : Poll String}
    (hfollowable : h.Followable (.poll p)) : InSync (h.refresh p) := by
  by_cases hs : h.Syncs (.poll p)
  · obtain ⟨pl, hpl, hon, hcall⟩ := hs
    obtain ⟨d, hdata, hknown, hreg⟩ := hsync.known pl hpl hon
    have hreg' : ∀ z, (h.refreshed p).Registered z ↔ z ∈ currentIds d := fun z =>
      (registered_refreshed h p z).trans (hreg z)
    have hnew := (followable_poll_iff hsync hpl hon hknown hreg p).mp hfollowable
    have hdata' := data_refreshed hdata p
    have hafter := sync_of_sortable _ p.order hdata' hknown hreg' hnew
    rw [refresh_of_syncs hpl hon hcall]
    constructor
    · intro z hz
      have hz' := (hafter z).mp hz
      by_cases hk : z ∈ pl.known
      · rw [hknown] at hk
        exact hsync.sortable z ((hreg z).mpr hk)
      · exact hnew z (Finset.mem_sdiff.mpr ⟨hz', hk⟩)
    · intro pl' hpl' _
      refine ⟨_, hdata', ?_, hafter⟩
      rw [← Option.some.inj hpl']
      exact (known_sync_of_sortable _ p.order _ hdata' hnew).1
  · obtain ⟨hreg, hplatform, hdata⟩ := refresh_of_not_syncs hs
    refine ⟨fun z hz => hsync.sortable z ((hreg z).mp hz), fun pl hpl hon => ?_⟩
    rw [hplatform] at hpl
    obtain ⟨d, hd, hknown, hall⟩ := hsync.known pl hpl hon
    rcases hdata with hdata | hoff
    · exact ⟨d, hdata.trans hd, hknown, fun z => (hreg z).trans (hall z)⟩
    · exact absurd ⟨pl, hpl, hon⟩ hoff

/-! ## Any run -/

/-- One step in sync is followed exactly when it could be: the load, the poll and the
unload, each by its own result. -/
theorem step_follows_iff {h : Hub} (hsync : InSync h) (s : HubStep) :
    (h.Syncs s → (h.step s).Follows) ↔ h.Followable s := by
  cases s with
  | load data options p =>
    cases hp : p.snapshot with
    | none =>
      refine iff_of_true (fun hs => ?_) fun d hd => ?_
      · have hsome : p.snapshot.isSome = true := hs
        rw [hp] at hsome
        exact absurd hsome (by simp)
      · rw [hp] at hd
        exact absurd hd (by simp)
    | some d =>
      have hsyncs : h.Syncs (.load data options p) := by
        show p.snapshot.isSome = true
        rw [hp]
        rfl
      rw [forall_prop_of_true hsyncs]
      exact load_follows_iff hsync hp data options
  | poll p =>
    by_cases hs : h.Syncs (.poll p)
    · rw [forall_prop_of_true hs]
      exact poll_follows_iff hsync hs
    · refine iff_of_true (fun hs' => absurd hs' hs) fun hl d hd => ?_
      obtain ⟨pl, hpl, hon⟩ := hl
      exact absurd ⟨pl, hpl, hon, Or.inl (by rw [hd]; rfl)⟩ hs
  | unload => exact iff_of_true (fun hs => absurd hs fun h => h) trivial

/-- And if it could be, it leaves the entry in sync. -/
theorem InSync.step {h : Hub} (hsync : InSync h) {s : HubStep} (hfollowable : h.Followable s) :
    InSync (h.step s) := by
  cases s with
  | load data options p => exact hsync.load hfollowable
  | poll p => exact hsync.refresh hfollowable
  | unload => exact ⟨hsync.sortable, fun pl hpl => absurd hpl (by simp [Hub.step])⟩

/-- **When the entity registry follows the panel.** Over every run of loads, polls
and unloads of one entry: every call of `_sync_zones` leaves registered the zones
listed, if and only if no load finds a zone registered that it does not list, and
no call meets a listed id on which `_sort_key` raises. -/
theorem follows_iff (entry : ConfigEntry) (steps : List HubStep) :
    (∀ pre s, pre ++ [s] <+: steps → (Runs.run step (new entry) pre).Syncs s →
        (Runs.run step (new entry) (pre ++ [s])).Follows) ↔
      ∀ pre s, pre ++ [s] <+: steps → (Runs.run step (new entry) pre).Followable s := by
  have hrun : Runs.Along step (fun h s => h.Syncs s → (h.step s).Follows) (new entry) steps ↔
      Runs.Along step Followable (new entry) steps :=
    Runs.along_iff_of_step (I := InSync) (fun h s hsync => step_follows_iff hsync s)
      (fun h s hsync hg => hsync.step hg) (inSync_new entry) steps
  rw [Runs.along_iff, Runs.along_iff] at hrun
  simpa only [Runs.run_concat] using hrun

end Hub

/-- A poll that lists a front and a back door. -/
def doorsPoll : Poll String :=
  .ofSnapshot ⟨.disarmed, [.bare "1" "Front Door" .quiet, .bare "2" "Back Door" .quiet]⟩

/-- A poll that lists the front door alone. -/
def frontPoll : Poll String := .ofSnapshot ⟨.disarmed, [.bare "1" "Front Door" .quiet]⟩

/-- The entry is loaded with two doors, unloaded, and loaded again after the back
door was deleted on the panel. -/
def deletedWhileUnloaded : List HubStep := [.load [] [] doorsPoll, .unload]

instance (h : Hub) (z : String) : Decidable (h.Registered z) := inferInstanceAs (Decidable (_ ∈ _))

/-- The deleted door stays registered. -/
theorem deleted_zone_stays :
    ¬ ∀ pre s, pre ++ [s] <+: deletedWhileUnloaded ++ [.load [] [] frontPoll] →
      (Runs.run (@Hub.step latin1) (Hub.new bareEntry) pre).Syncs s →
        (Runs.run (@Hub.step latin1) (Hub.new bareEntry) (pre ++ [s])).Follows := by
  intro h
  have hfollows := h deletedWhileUnloaded (.load [] [] frontPoll) List.prefix_rfl rfl
  have hregistered : (Runs.run (@Hub.step latin1) (Hub.new bareEntry)
      (deletedWhileUnloaded ++ [.load [] [] frontPoll])).Registered "2" := by decide +kernel
  obtain ⟨d, hd, hlisted⟩ := (hfollows "2").mp hregistered
  obtain rfl := Option.some.inj hd
  exact absurd hlisted (by decide)

end Gc3.Hass
