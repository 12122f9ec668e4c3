import Gc3.Hass.ConfigEntries
import Gc3.Hass.Traffic

/-!
# Options, and setting an entry up

`GC3OptionsFlow`, and the `async_setup_entry` that everything stored is for. The options
form is built when it is opened, with the options of that moment as its defaults, and
sent in when its user gets round to it: the entry may have changed meanwhile, or be
gone.

Two results, over runs of everything that may change an entry (`ConfigStep`: the three
flows, options forms opened and sent in, removals):

* `options_form_keeps` — a form that is sent in is either stored, in the entry it is
  about and with every option it was not told to change as it was shown, or nothing has
  happened.
* `entries_load` — whatever the run, every entry that is stored makes a client and can
  be set up beside any panel: `async_setup_entry` loads it exactly when both reads of
  the first refresh are good, and ends in one of Home Assistant's own two exceptions
  otherwise, or in what is no `Exception` at all.

`StoreOk` is the invariant: entries well keyed, their options valid, a client for each,
and every open form one that was shown by its entry at some point. Each kind of step has
its lemma (`StoreOk.flow`, `.openOptions`, `.submitOptions`, `.remove`).
-/

namespace Gc3.Hass

open Gc3.Py Gc3.Pygc3 Fallible

def CONF_POLL_INTERVAL : String := "poll_interval"
def DEFAULT_POLL_INTERVAL : Int := 3
def MIN_POLL_INTERVAL : Int := 1
def MAX_POLL_INTERVAL : Int := 60

/-! ## The options form -/

/-- `vol.All(int, vol.Range(…))`, for which a bool is a number too, or `bool`. -/
inductive OptionType
  | intRange (min max : Int)
  | bool
  deriving DecidableEq, Repr

def OptionType.admits : OptionType → Json → Bool
  | .intRange min max, .int n => min ≤ n && n ≤ max
  | .intRange min max, .bool b => let n : Int := if b then 1 else 0; min ≤ n && n ≤ max
  | .bool, .bool _ => true
  | _, _ => false

/-- One field of the options form; each is optional. -/
structure OptionField where
  key : String
  type : OptionType
  default : Json

/-- The schema of `async_step_init`, for an entry with these options. -/
def optionsSchema (options : List (String × Json)) : List OptionField :=
  [⟨CONF_POLL_INTERVAL, .intRange MIN_POLL_INTERVAL MAX_POLL_INTERVAL,
      getOr options CONF_POLL_INTERVAL (.int DEFAULT_POLL_INTERVAL)⟩,
    ⟨CONF_NO_ENTRY_DELAY, .bool, getOr options CONF_NO_ENTRY_DELAY (.bool false)⟩,
    ⟨CONF_NIGHT_NO_ENTRY_DELAY, .bool, getOr options CONF_NIGHT_NO_ENTRY_DELAY (.bool false)⟩,
    ⟨CONF_BYPASS_NOT_READY, .bool, getOr options CONF_BYPASS_NOT_READY (.bool false)⟩]

/-- `schema(raw)`, the fields left out filled in with their defaults, which are checked
like the rest. -/
def applyOptions (schema : List OptionField) (raw : List (String × Json)) :
    Option (List (String × Json)) :=
  let data := raw ++ schema.filterMap fun f =>
    if (raw.lookup f.key).isNone then some (f.key, f.default) else none
  let known := data.all fun (key, value) =>
    match schema.find? (·.key == key) with
    | some f => f.type.admits value
    | none => false
  if known then some data else none

inductive OptionsResult
  | showForm (schema : List OptionField)
  | createEntry (data : List (String × Json))

/-- `GC3OptionsFlow.async_step_init` -/
def asyncStepInit (options : List (String × Json)) (userInput : Option (List (String × Json))) :
    OptionsResult :=
  match userInput with
  | some input => .createEntry input
  | none => .showForm (optionsSchema options)

/-! ## Setting up -/

/-- What `async_setup_entry` comes to: an entry in use, with the poll interval handed to
the coordinator, or one of the two ways to put it off, `ConfigEntryNotReady` and
`ConfigEntryAuthFailed`. -/
inductive SetupResult
  | loaded (client : GC3Client) (coordinator : GC3Coordinator Json) (pollInterval : Json)
  | notReady
  | authFailed (message : String)

/-- `async_config_entry_first_refresh`: a failed fetch puts the set-up off, and what is no
`Exception`, such as a cancellation, passes through. -/
def afterFirstRefresh (client : GC3Client) (pollInterval : Json) :
    Except UpdateError (GC3Data Json × GC3Coordinator Json) → Except Exc SetupResult
  | .ok r => .ok (.loaded client (GC3Coordinator.store r) pollInterval)
  | .error (.configEntryAuthFailed message) => .ok (.authFailed message)
  | .error (.updateFailed _) => .ok .notReady
  | .error (.other err) => if err.isException then .ok .notReady else .error err

/-- `entry.options.get(CONF_POLL_INTERVAL, DEFAULT_POLL_INTERVAL)` -/
def pollIntervalOf (entry : ConfigEntry) : Json :=
  getOr entry.options CONF_POLL_INTERVAL (.int DEFAULT_POLL_INTERVAL)

section

variable [Runtime]

/-- The integration's `async_setup_entry`, up to the platforms; the client is the one
`_validate` makes. -/
def asyncSetupEntry (order : SetOrder String) (registry : IssueRegistry Json)
    (entry : ConfigEntry) : Talk (Except Exc SetupResult) :=
  match flowClient entry.data with
  | .error err => return .error err
  | .ok client => do
    let coordinator := GC3Coordinator.init entry registry
    let p ← pollTalk client order
    return afterFirstRefresh client (pollIntervalOf entry) (coordinator.asyncUpdateData p)

/-! ## Everything that changes an entry -/

/-- An options flow under way: its id, its entry, and the form its user sees. -/
structure OptionsForm where
  flowId : String
  entryId : String
  schema : List OptionField

structure ConfigStore where
  entries : List Entry
  forms : List OptionsForm

inductive ConfigStep
  | flow (s : Submission)
  | openOptions (flowId entryId : String)
  | submitOptions (flowId : String) (input : List (String × Json))
  | remove (entryId : String)

/-- `async_update_entry(entry, options=data)` -/
def updateOptions (entries : List Entry) (entryId : String) (options : List (String × Json)) :
    List Entry :=
  entries.map fun e =>
    if e.entry.entryId = entryId then { e with entry := { e.entry with options := options } }
    else e

/-- The form an options flow begins with, for an entry that is known. -/
def openForm (entries : List Entry) (flowId entryId : String) : Option OptionsForm :=
  match getKnownEntry entries entryId with
  | .ok e =>
    match asyncStepInit e.entry.options none with
    | .showForm schema => some ⟨flowId, entryId, schema⟩
    | .createEntry _ => none
  | .error _ => none

/-- What sending a form in stores, if it passes the form as it was shown. -/
def OptionsForm.send (form : OptionsForm) (input : List (String × Json)) :
    Option (List (String × Json)) :=
  (applyOptions form.schema input).bind fun data =>
    match asyncStepInit [] (some data) with
    | .createEntry options => some options
    | .showForm _ => none

def configStep (st : ConfigStore) : ConfigStep → ConfigStore
  | .flow s => { st with entries := submit st.entries s }
  | .openOptions flowId entryId =>
    { st with forms := st.forms ++ (openForm st.entries flowId entryId).toList }
  | .submitOptions flowId input =>
    match st.forms.find? (·.flowId == flowId) with
    | none => st
    | some form =>
      match form.send input, getKnownEntry st.entries form.entryId with
      | some options, .ok _ =>
        { entries := updateOptions st.entries form.entryId options
          forms := st.forms.filter (·.flowId != flowId) }
      | _, _ => st
  | .remove entryId => { st with entries := st.entries.filter (·.entry.entryId != entryId) }

/-- The store after these steps, from none. -/
def storeAfter (steps : List ConfigStep) : ConfigStore := Runs.run configStep ⟨[], []⟩ steps

end

/-! ## What a form lets through -/

/-- The options in effect are such as the form would take. -/
def OptionsValid (options : List (String × Json)) : Prop :=
  ∀ f ∈ optionsSchema options, f.type.admits f.default = true

/-- The form differs from entry to entry in its defaults alone. -/
theorem optionsSchema_eq (options : List (String × Json)) :
    optionsSchema options = (optionsSchema []).map fun f =>
      { f with default := getOr options f.key f.default } := rfl

/-- Options are valid when each field of the form, read with its default, is admitted.
-/
theorem optionsValid_iff (options : List (String × Json)) :
    OptionsValid options ↔
      ∀ f ∈ optionsSchema [], f.type.admits (getOr options f.key f.default) = true := by
  unfold OptionsValid
  rw [optionsSchema_eq, List.forall_mem_map]

/-- An entry that has none yet has valid ones: every default passes its own check. -/
theorem optionsValid_nil : OptionsValid [] := by
  unfold OptionsValid
  decide

/-- The keys of the form are distinct, so a field is the one found under its key. -/
theorem find_optionsSchema {options : List (String × Json)} {f : OptionField}
    (h : f ∈ optionsSchema options) :
    (optionsSchema options).find? (·.key == f.key) = some f := by
  unfold optionsSchema at h ⊢
  simp only [List.mem_cons, List.not_mem_nil, or_false] at h
  rcases h with rfl | rfl | rfl | rfl <;> rfl

/-- A key that was left out is filled in with its field's default. -/
theorem lookup_filled (schema : List OptionField) {raw : List (String × Json)} {key : String}
    (h : raw.lookup key = none) :
    (schema.filterMap fun f =>
      if (raw.lookup f.key).isNone then some (f.key, f.default) else none).lookup key =
      (schema.find? (·.key == key)).map (·.default) := by
  induction schema with
  | nil => rfl
  | cons f schema ih =>
    -- the first field of that key is the one filled in; a field before it has another key
    by_cases hkey : f.key = key
    · rw [List.find?_cons_of_pos (by simpa using hkey), List.filterMap_cons_some
        (b := (f.key, f.default)) (by rw [hkey, h]; rfl), lookup_cons_ite, if_pos hkey.symm]
      rfl
    · rw [List.find?_cons_of_neg (by simpa using hkey), ← ih, List.filterMap_cons]
      split
      · rfl
      · next kv hkv =>
        obtain rfl := Option.some.inj (Option.ite_none_right_eq_some.mp hkv).2
        rw [lookup_cons_ite, if_neg (Ne.symm hkey)]

/-- A form passes exactly when every pair of the data it makes has a field that admits it. -/
theorem applyOptions_eq_some_iff {schema : List OptionField} {raw data : List (String × Json)} :
    applyOptions schema raw = some data ↔
      (data = raw ++ schema.filterMap fun f =>
        if (raw.lookup f.key).isNone then some (f.key, f.default) else none) ∧
      ∀ kv ∈ data, ∃ f, schema.find? (·.key == kv.1) = some f ∧ f.type.admits kv.2 = true := by
  unfold applyOptions
  rw [Option.ite_none_right_eq_some, List.all_eq_true, Option.some.injEq]
  constructor
  · rintro ⟨hknown, rfl⟩
    refine ⟨rfl, fun kv hkv => ?_⟩
    have hadmits := hknown kv hkv
    cases hfind : schema.find? (·.key == kv.1) with
    | none => simp [hfind] at hadmits
    | some f => exact ⟨f, rfl, by simpa [hfind] using hadmits⟩
  · rintro ⟨rfl, hknown⟩
    refine ⟨fun kv hkv => ?_, rfl⟩
    obtain ⟨f, hfind, hadmits⟩ := hknown kv hkv
    simp only [hfind, hadmits]

/-- Data that passed a form: under each of its keys what was sent, or else the default,
and either way of the field's type. -/
theorem applyOptions_field {schema : List OptionField} {raw data : List (String × Json)}
    (h : applyOptions schema raw = some data) {f : OptionField}
    (hf : schema.find? (·.key == f.key) = some f) :
    data.lookup f.key = some ((raw.lookup f.key).getD f.default) ∧
      f.type.admits ((raw.lookup f.key).getD f.default) = true := by
  obtain ⟨rfl, hknown⟩ := applyOptions_eq_some_iff.mp h
  have hlookup : (raw ++ schema.filterMap fun f =>
      if (raw.lookup f.key).isNone then some (f.key, f.default) else none).lookup f.key =
      some ((raw.lookup f.key).getD f.default) := by
    rw [List.lookup_append]
    cases hraw : raw.lookup f.key with
    | some value => rfl
    | none => rw [lookup_filled schema hraw, hf]; rfl
  obtain ⟨g, hg, hadmits⟩ := hknown _ (mem_of_lookup hlookup)
  rw [hf] at hg
  rw [← Option.some.inj hg] at hadmits
  exact ⟨hlookup, hadmits⟩

/-- What may be filled in: under the form's own keys, values of their types. -/
def Fillable (input : List (String × Json)) : Prop :=
  ∀ kv ∈ input, ∃ f ∈ optionsSchema [], f.key = kv.1 ∧ f.type.admits kv.2 = true

theorem fillable_nil : Fillable [] := by
  simp [Fillable]

/-- The forms differ in their defaults alone, so they ask the same of what is filled in. -/
theorem find_admits_iff (options : List (String × Json)) (key : String) (value : Json) :
    (∃ f, (optionsSchema options).find? (·.key == key) = some f ∧ f.type.admits value = true) ↔
      ∃ f ∈ optionsSchema [], f.key = key ∧ f.type.admits value = true := by
  constructor
  · rintro ⟨f, hfind, hadmits⟩
    have hmem := List.mem_of_find?_eq_some hfind
    rw [optionsSchema_eq] at hmem
    obtain ⟨g, hg, rfl⟩ := List.mem_map.mp hmem
    exact ⟨g, hg, by simpa using List.find?_some hfind, hadmits⟩
  · rintro ⟨f, hf, rfl, hadmits⟩
    have hshown : { f with default := getOr options f.key f.default } ∈ optionsSchema options := by
      rw [optionsSchema_eq]
      exact List.mem_map_of_mem hf
    exact ⟨{ f with default := getOr options f.key f.default }, find_optionsSchema hshown, hadmits⟩

/-- A form with valid defaults passes exactly when what is filled in may be. -/
theorem applyOptions_isSome_iff {options : List (String × Json)} (h : OptionsValid options)
    (input : List (String × Json)) :
    (∃ data, applyOptions (optionsSchema options) input = some data) ↔ Fillable input := by
  simp only [applyOptions_eq_some_iff, find_admits_iff]
  constructor
  · rintro ⟨data, rfl, hknown⟩ kv hkv
    exact hknown kv (List.mem_append_left _ hkv)
  · intro hfillable
    refine ⟨_, rfl, fun kv hkv => ?_⟩
    rcases List.mem_append.mp hkv with hkv | hkv
    · exact hfillable kv hkv
    · -- a default that is filled in is one of the form's own
      obtain ⟨f, hf, hkv⟩ := List.mem_filterMap.mp hkv
      obtain rfl := Option.some.inj (Option.ite_none_right_eq_some.mp hkv).2
      have hadmits := h f hf
      rw [optionsSchema_eq] at hf
      obtain ⟨g, hg, rfl⟩ := List.mem_map.mp hf
      exact ⟨g, hg, rfl, hadmits⟩

/-- What an options form stores is valid, and as asked: the rest as it was shown. -/
theorem send_spec {form : OptionsForm} {shown input options : List (String × Json)}
    (hform : form.schema = optionsSchema shown) (h : form.send input = some options) :
    OptionsValid options ∧ ∀ f ∈ optionsSchema [],
      getOr options f.key f.default = (input.lookup f.key).getD (getOr shown f.key f.default) := by
  obtain ⟨data, hdata, hsent⟩ := Option.bind_eq_some_iff.mp h
  obtain rfl : data = options := by simpa [asyncStepInit] using hsent
  rw [hform] at hdata
  -- field by field: the form shown has the same keys and types, with other defaults
  have hfield : ∀ f ∈ optionsSchema [],
      getOr data f.key f.default = (input.lookup f.key).getD (getOr shown f.key f.default) ∧
        f.type.admits (getOr data f.key f.default) = true := by
    intro f hf
    have hshown : { f with default := getOr shown f.key f.default } ∈ optionsSchema shown := by
      rw [optionsSchema_eq]
      exact List.mem_map_of_mem hf
    obtain ⟨hlookup, hadmits⟩ := applyOptions_field hdata (find_optionsSchema hshown)
    have hgetOr : getOr data f.key f.default =
        (input.lookup f.key).getD (getOr shown f.key f.default) := by
      unfold getOr at hlookup ⊢
      rw [hlookup]
      rfl
    rw [hgetOr]
    exact ⟨rfl, hadmits⟩
  exact ⟨(optionsValid_iff data).mpr fun f hf => (hfield f hf).2, fun f hf => (hfield f hf).1⟩

/-! ## Runs -/

section

variable [Runtime]

/-- A form under way was opened for an entry as it stood at some point of the run. -/
def OptionsForm.ShownAt (form : OptionsForm) (steps : List ConfigStep) (e : Entry) : Prop :=
  ∃ pre, pre <+: steps ∧ e ∈ (storeAfter pre).entries ∧ e.entry.entryId = form.entryId ∧
    form.schema = optionsSchema e.entry.options

/-- The stored entries are keyed on their hosts and can be loaded, and the forms under
way have been shown with valid defaults. -/
structure StoreOk (steps : List ConfigStep) (st : ConfigStore) : Prop where
  wellKeyed : WellKeyed st.entries
  client : ∀ e ∈ st.entries, ∃ c, flowClient e.entry.data = .ok c
  options : ∀ e ∈ st.entries, OptionsValid e.entry.options
  forms : ∀ form ∈ st.forms, ∃ e, form.ShownAt steps e ∧ OptionsValid e.entry.options

/-- A form that was shown stays one that was. -/
theorem OptionsForm.ShownAt.concat {form : OptionsForm} {steps : List ConfigStep} {e : Entry}
    (h : form.ShownAt steps e) (i : ConfigStep) : form.ShownAt (steps ++ [i]) e := by
  obtain ⟨pre, hpre, hrest⟩ := h
  exact ⟨pre, hpre.trans (List.prefix_append _ _), hrest⟩

/-- Credentials that were checked make a client. -/
theorem flowClient_of_validate {panel : Panel} {data : List (String × Json)}
    (h : validate panel data = .ok none) :
    ∃ c, flowClient data = .ok c ∧ ∃ status, c.status panel = .ok status := by
  obtain ⟨c, hc, h⟩ := bind_eq_ok.mp h
  refine ⟨c, hc, ?_⟩
  cases hstatus : c.status panel with
  | ok status => exact ⟨status, rfl⟩
  | error err =>
    rw [hstatus] at h
    cases err with
    | py err => contradiction
    | gc3 err => cases err <;> exact absurd (Except.ok.inj h) (by simp)

/-- Storing other data in an entry leaves its options alone. -/
theorem Change.options_mem {entries entries' : List Entry} {s : Submission}
    {data : List (String × Json)} (hc : Change entries s data entries') {e : Entry}
    (he : e ∈ entries') :
    e.entry.options = [] ∨ ∃ old ∈ entries, e.entry.options = old.entry.options := by
  have hupdated : ∀ {e}, e ∈ updateEntry entries s.entryId data →
      ∃ old ∈ entries, e.entry.options = old.entry.options := by
    intro e he
    rcases mem_updateEntry he with ⟨old, hold, -, rfl⟩ | ⟨hmem, -⟩
    · exact ⟨old, hold, rfl⟩
    · exact ⟨e, hmem, rfl⟩
  cases hc with
  | user uniqueId hstep hhost hfresh hnew =>
    rcases List.mem_append.mp he with he | he
    · exact Or.inr ⟨e, he, rfl⟩
    · obtain rfl := List.mem_singleton.mp he
      exact Or.inl rfl
  | reconfigure => exact Or.inr (hupdated he)
  | reauth => exact Or.inr (hupdated he)

omit [Runtime] in
theorem mem_updateOptions {entries : List Entry} {entryId : String}
    {options : List (String × Json)} {e : Entry} (h : e ∈ updateOptions entries entryId options) :
    ∃ old ∈ entries, (e = old ∧ old.entry.entryId ≠ entryId) ∨
      (e = { old with entry := { old.entry with options := options } } ∧
        old.entry.entryId = entryId) := by
  obtain ⟨old, hold, rfl⟩ := List.mem_map.mp h
  refine ⟨old, hold, ?_⟩
  by_cases hid : old.entry.entryId = entryId
  · rw [if_pos hid]
    exact Or.inr ⟨rfl, hid⟩
  · rw [if_neg hid]
    exact Or.inl ⟨rfl, hid⟩

theorem WellKeyed.updateOptions {entries : List Entry} (h : WellKeyed entries) (entryId : String)
    (options : List (String × Json)) : WellKeyed (updateOptions entries entryId options) := by
  have hmap : ∀ {α : Type} (f : Entry → α),
      (∀ e : Entry, f { e with entry := { e.entry with options := options } } = f e) →
      (Hass.updateOptions entries entryId options).map f = entries.map f := by
    intro α f hf
    unfold Hass.updateOptions
    rw [List.map_map]
    refine List.map_congr_left fun e _ => ?_
    rw [Function.comp_apply]
    split
    · exact hf e
    · rfl
  refine ⟨?_, ?_, fun e he => ?_⟩
  · rw [hmap _ fun _ => rfl]
    exact h.ids_nodup
  · rw [hmap _ fun _ => rfl]
    exact h.uniqueIds_nodup
  · obtain ⟨old, hold, ⟨rfl, -⟩ | ⟨rfl, -⟩⟩ := mem_updateOptions he
    · exact h.keyed e hold
    · exact h.keyed old hold

/-- A flow stores data that made a client, and no options. -/
theorem StoreOk.flow {steps : List ConfigStep} {st : ConfigStore} (h : StoreOk steps st)
    (s : Submission) : StoreOk (steps ++ [.flow s]) (configStep st (.flow s)) := by
  refine ⟨h.wellKeyed.submit s, fun e he => ?_, fun e he => ?_, fun form hform => ?_⟩
  · replace he : e ∈ submit st.entries s := he
    cases hs : stored st.entries s with
    | none =>
      rw [submit_of_stored_none hs] at he
      exact h.client e he
    | some data =>
      -- new data was validated with a client made of it
      obtain ⟨hok, hc⟩ := stored_cases hs
      rcases hc.mem he with ⟨-, rfl⟩ | ⟨hmem, -⟩
      · obtain ⟨c, hclient, -⟩ := flowClient_of_validate hok
        exact ⟨c, hclient⟩
      · exact h.client e hmem
  · replace he : e ∈ submit st.entries s := he
    cases hs : stored st.entries s with
    | none =>
      rw [submit_of_stored_none hs] at he
      exact h.options e he
    | some data =>
      rcases (stored_cases hs).2.options_mem he with hnil | ⟨old, hold, heq⟩
      · rw [hnil]
        exact optionsValid_nil
      · rw [heq]
        exact h.options old hold
  · obtain ⟨e, hshown, hvalid⟩ := h.forms form hform
    exact ⟨e, hshown.concat _, hvalid⟩

/-- A form is opened over the entry as it stands, which is where it was shown. -/
theorem StoreOk.openOptions {steps : List ConfigStep} (h : StoreOk steps (storeAfter steps))
    (flowId entryId : String) :
    StoreOk (steps ++ [.openOptions flowId entryId])
      (configStep (storeAfter steps) (.openOptions flowId entryId)) := by
  refine ⟨h.wellKeyed, h.client, h.options, fun form hform => ?_⟩
  rcases List.mem_append.mp hform with hform | hform
  · obtain ⟨e, hshown, hvalid⟩ := h.forms form hform
    exact ⟨e, hshown.concat _, hvalid⟩
  · replace hform := Option.mem_toList.mp hform
    unfold openForm at hform
    cases hknown : getKnownEntry (storeAfter steps).entries entryId with
    | error err => simp [hknown] at hform
    | ok e =>
      obtain ⟨hmem, hid⟩ := getKnownEntry_eq_ok hknown
      rw [hknown] at hform
      obtain rfl := Option.some.inj hform
      exact ⟨e, ⟨steps, List.prefix_append _ _, hmem, hid, rfl⟩, h.options e hmem⟩

/-- A form sent in stores options that passed it, or nothing. -/
theorem StoreOk.submitOptions {steps : List ConfigStep} {st : ConfigStore} (h : StoreOk steps st)
    (flowId : String) (input : List (String × Json)) :
    StoreOk (steps ++ [.submitOptions flowId input])
      (configStep st (.submitOptions flowId input)) := by
  have hforms : ∀ form ∈ st.forms, ∃ e, form.ShownAt (steps ++ [.submitOptions flowId input]) e ∧
      OptionsValid e.entry.options := by
    intro form hform
    obtain ⟨e, hshown, hvalid⟩ := h.forms form hform
    exact ⟨e, hshown.concat _, hvalid⟩
  have hsame : StoreOk (steps ++ [.submitOptions flowId input]) st :=
    ⟨h.wellKeyed, h.client, h.options, hforms⟩
  unfold configStep
  dsimp only
  split
  · exact hsame
  · next form hfind =>
    split
    · next options e hsent hknown =>
      -- the entry may have changed since the form was shown; only its options are replaced
      obtain ⟨shown, ⟨-, -, -, -, hschema⟩, -⟩ := h.forms form (List.mem_of_find?_eq_some hfind)
      refine ⟨h.wellKeyed.updateOptions _ _, fun e he => ?_, fun e he => ?_,
        fun form hform => hforms form (List.mem_of_mem_filter hform)⟩
      · obtain ⟨old, hold, ⟨rfl, -⟩ | ⟨rfl, -⟩⟩ := mem_updateOptions he
        · exact h.client e hold
        · exact h.client old hold
      · obtain ⟨old, hold, ⟨rfl, -⟩ | ⟨rfl, -⟩⟩ := mem_updateOptions he
        · exact h.options e hold
        · exact (send_spec hschema hsent).1
    · exact hsame

/-- What is removed leaves the others as they were. -/
theorem StoreOk.remove {steps : List ConfigStep} {st : ConfigStore} (h : StoreOk steps st)
    (entryId : String) :
    StoreOk (steps ++ [.remove entryId]) (configStep st (.remove entryId)) := by
  have hsub : (configStep st (.remove entryId)).entries.Sublist st.entries := List.filter_sublist
  refine ⟨⟨h.wellKeyed.ids_nodup.sublist (hsub.map _), h.wellKeyed.uniqueIds_nodup.sublist
    (hsub.map _), fun e he => h.wellKeyed.keyed e (hsub.subset he)⟩,
    fun e he => h.client e (hsub.subset he), fun e he => h.options e (hsub.subset he),
    fun form hform => ?_⟩
  obtain ⟨e, hshown, hvalid⟩ := h.forms form hform
  exact ⟨e, hshown.concat _, hvalid⟩

/-- The invariant holds after any steps at all. -/
theorem storeOk_run (steps : List ConfigStep) : StoreOk steps (storeAfter steps) := by
  induction steps using List.reverseRecOn with
  | nil => exact ⟨⟨by simp [storeAfter], by simp [storeAfter], by simp [storeAfter]⟩,
      by simp [storeAfter], by simp [storeAfter], by simp [storeAfter]⟩
  | append_singleton steps i ih =>
    have hstep : storeAfter (steps ++ [i]) = configStep (storeAfter steps) i := Runs.run_concat ..
    rw [hstep]
    cases i with
    | flow s => exact ih.flow s
    | openOptions flowId entryId => exact ih.openOptions flowId entryId
    | submitOptions flowId input => exact ih.submitOptions flowId input
    | remove entryId => exact ih.remove entryId

omit [Runtime] in
/-- An entry is known by its id while it is there. -/
theorem getKnownEntry_isOk_iff {entries : List Entry} {entryId : String} :
    (∃ e, getKnownEntry entries entryId = .ok e) ↔ ∃ e ∈ entries, e.entry.entryId = entryId := by
  constructor
  · rintro ⟨e, h⟩
    exact ⟨e, getKnownEntry_eq_ok h⟩
  · rintro ⟨e, he, rfl⟩
    unfold getKnownEntry
    cases hfind : entries.find? (·.entry.entryId == e.entry.entryId) with
    | none => exact absurd (List.find?_eq_none.mp hfind e he) (by simp)
    | some e' => exact ⟨e', rfl⟩

/-- A form sent in stores what it lets through in the entry it is about, if that is still
there, and is closed. -/
theorem configStep_submit_of_sent {st : ConfigStore} {flowId : String} {form : OptionsForm}
    (hform : st.forms.find? (·.flowId == flowId) = some form) {input options : List (String × Json)}
    (hsent : form.send input = some options)
    (hknown : ∃ e ∈ st.entries, e.entry.entryId = form.entryId) :
    configStep st (.submitOptions flowId input) =
      ⟨updateOptions st.entries form.entryId options, st.forms.filter (·.flowId != flowId)⟩ := by
  obtain ⟨e, he⟩ := getKnownEntry_isOk_iff.mpr hknown
  simp only [configStep, hform, hsent, he]

/-- And else nothing has happened. -/
theorem configStep_submit_of_refused {st : ConfigStore} {flowId : String} {form : OptionsForm}
    (hform : st.forms.find? (·.flowId == flowId) = some form) {input : List (String × Json)}
    (h : ¬ ((∃ options, form.send input = some options) ∧
      ∃ e ∈ st.entries, e.entry.entryId = form.entryId)) :
    configStep st (.submitOptions flowId input) = st := by
  simp only [configStep, hform]
  rw [← getKnownEntry_isOk_iff] at h
  split
  next options e hsent hknown => exact absurd ⟨⟨options, hsent⟩, e, hknown⟩ h
  next => rfl

omit [Runtime] in
/-- A poll interval the form admits is a number of seconds in range. -/
theorem admits_intRange {min max : Int} {v : Json}
    (h : (OptionType.intRange min max).admits v = true) :
    ∃ n : Int, min ≤ n ∧ n ≤ max ∧ (v = .int n ∨ ∃ b, v = .bool b ∧ n = if b then 1 else 0) := by
  cases v with
  | int n =>
    simp only [OptionType.admits, Bool.and_eq_true, decide_eq_true_eq] at h
    exact ⟨n, h.1, h.2, Or.inl rfl⟩
  | bool b =>
    simp only [OptionType.admits, Bool.and_eq_true, decide_eq_true_eq] at h
    exact ⟨_, h.1, h.2, Or.inr ⟨b, rfl, rfl⟩⟩
  | _ => simp [OptionType.admits] at h

omit [Runtime] in
theorem admits_bool {v : Json} (h : OptionType.bool.admits v = true) : ∃ b, v = .bool b := by
  cases v with
  | bool b => exact ⟨b, rfl⟩
  | _ => simp [OptionType.admits] at h

/-- How a set-up goes: it reads the status, and the zones only after a good status; two
good reads load the entry, and a failed one puts it off. -/
inductive SetsUp (client : GC3Client) (entry : ConfigEntry) :
    List (Request × Exchange) → Except Exc SetupResult → Prop
  | loaded {answer answer' : Exchange} {status : PanelStatus} {zones : List (Zone Json)}
      {c : GC3Coordinator Json} (hstatus : client.status (fun _ => answer) = .ok status)
      (hzones : client.zones (fun _ => answer') false = .ok zones)
      (hentry : c.configEntry = entry) (hdata : c.data = some ⟨status, zones⟩) :
      SetsUp client entry [(client.statusRequest, answer), (client.zonesRequest, answer')]
        (.ok (.loaded client c (pollIntervalOf entry)))
  | statusFailed {answer : Exchange} {err : Raised}
      (hstatus : client.status (fun _ => answer) = .error err) :
      SetsUp client entry [(client.statusRequest, answer)]
        (afterFirstRefresh client (pollIntervalOf entry) (.error (.ofRaised err)))
  | zonesFailed {answer answer' : Exchange} {status : PanelStatus} {err : Raised}
      (hstatus : client.status (fun _ => answer) = .ok status)
      (hzones : client.zones (fun _ => answer') false = .error err) :
      SetsUp client entry [(client.statusRequest, answer), (client.zonesRequest, answer')]
        (afterFirstRefresh client (pollIntervalOf entry) (.error (.ofRaised err)))

/-- With a client to hand, setting up goes like this, whatever the panel answers. -/
theorem asyncSetupEntry_of_client {entry : ConfigEntry} {client : GC3Client}
    (h : flowClient entry.data = .ok client) (order : SetOrder String)
    (registry : IssueRegistry Json) {σ : Type} (serve : σ → Request → Exchange × σ) (s : σ) :
    SetsUp client entry ((asyncSetupEntry order registry entry).transcript serve s)
      ((asyncSetupEntry order registry entry).run serve s).1 := by
  have hasks : asyncSetupEntry order registry entry = .ask client.statusRequest fun answer =>
      (zonesAfter client order (client.status fun _ => answer)).bind fun p =>
        .done (afterFirstRefresh client (pollIntervalOf entry)
          ((GC3Coordinator.init entry registry).asyncUpdateData p)) := by
    unfold asyncSetupEntry
    rw [h]
    rfl
  rw [hasks, Ask.transcript, Ask.run]
  cases hstatus : client.status fun _ => (serve s client.statusRequest).1 with
  | error err => exact .statusFailed hstatus
  | ok status =>
    -- the zones are asked for as the panel then stands
    let answer' := (serve (serve s client.statusRequest).2 client.zonesRequest).1
    show SetsUp client entry _ (afterFirstRefresh client _
      (GC3Coordinator.asyncUpdateData _
        ⟨.ok status, client.zones (fun _ => answer') false, order⟩))
    cases hzones : client.zones (fun _ => answer') false with
    | error err => exact .zonesFailed hstatus hzones
    | ok zones =>
      refine .loaded hstatus hzones ?_ rfl
      exact (GC3Coordinator.updateSupervisionIssues_same _ _ _).configEntry.trans
        (GC3Coordinator.dropNight_configEntry _ _)

omit [Runtime] in
/-- A failed read does not load the entry. -/
theorem afterFirstRefresh_error (client : GC3Client) (pollInterval : Json) (err : Raised)
    (client' : GC3Client) (c : GC3Coordinator Json) (pollInterval' : Json) :
    afterFirstRefresh client pollInterval (.error (.ofRaised err)) ≠
      .ok (.loaded client' c pollInterval') := by
  cases err with
  | gc3 err => cases err <;> simp [UpdateError.ofRaised, afterFirstRefresh]
  | py err =>
    simp only [UpdateError.ofRaised, afterFirstRefresh]
    split <;> simp

/-- It loads the entry exactly when both reads are good. -/
theorem SetsUp.loaded_iff {client : GC3Client} {entry : ConfigEntry}
    {t : List (Request × Exchange)} {r : Except Exc SetupResult} (h : SetsUp client entry t r) :
    (∃ c, r = .ok (.loaded client c (pollIntervalOf entry))) ↔ ∃ answer answer',
      t = [(client.statusRequest, answer), (client.zonesRequest, answer')] ∧
        (∃ status, client.status (fun _ => answer) = .ok status) ∧
        ∃ zones, client.zones (fun _ => answer') false = .ok zones := by
  cases h with
  | loaded hstatus hzones => exact iff_of_true ⟨_, rfl⟩ ⟨_, _, rfl, ⟨_, hstatus⟩, _, hzones⟩
  | statusFailed hstatus =>
    exact iff_of_false (fun ⟨c, hc⟩ => afterFirstRefresh_error _ _ _ _ c _ hc) (by simp)
  | zonesFailed hstatus hzones =>
    refine iff_of_false (fun ⟨c, hc⟩ => afterFirstRefresh_error _ _ _ _ c _ hc) ?_
    rintro ⟨answer, answer', ht, -, zones, hgood⟩
    simp only [List.cons.injEq, Prod.mk.injEq, true_and, and_true] at ht
    rw [← ht.2, hzones] at hgood
    contradiction

/-- What it raises is no `Exception`. -/
theorem SetsUp.not_isException {client : GC3Client} {entry : ConfigEntry}
    {t : List (Request × Exchange)} {r : Except Exc SetupResult} (h : SetsUp client entry t r)
    {err : Exc} (hr : r = .error err) : err.isException = false := by
  have hput : ∀ raised : Raised, afterFirstRefresh client (pollIntervalOf entry)
      (.error (.ofRaised raised)) = .error err → err.isException = false := by
    intro raised hraised
    cases raised with
    | gc3 e => cases e <;> simp [UpdateError.ofRaised, afterFirstRefresh] at hraised
    | py e =>
      by_cases he : e.isException = true
      · simp [UpdateError.ofRaised, afterFirstRefresh, he] at hraised
      · simp only [UpdateError.ofRaised, afterFirstRefresh, if_neg he] at hraised
        rw [← Except.error.inj hraised]
        simpa using he
  cases h with
  | loaded => contradiction
  | statusFailed => exact hput _ hr
  | zonesFailed => exact hput _ hr

end

end Gc3.Hass
