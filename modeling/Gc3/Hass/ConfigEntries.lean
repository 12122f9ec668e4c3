import Gc3.Hass.ConfigFlow
import Gc3.Lib.Past
import Gc3.Py.Latin1

/-!
# What the config flow keeps true of the entries

Each step is taken apart once, into what it must have seen to store anything. From
there: the entries stay keyed on their hosts, and what an entry holds was checked with
the panel by the latest submission that wrote it.

The modular path from the three steps to any run of submissions is:

* `asyncStepUser_stored`, `asyncStepReconfigure_stored` and
  `asyncStepReauthConfirm_stored` invert one step each: what it looked up, what it
  compared, that `_validate` came to nothing, and what it stores.
* `stored_cases` puts the three together as a `Change` of the list of entries, which is
  all that the invariants are told of a submission.
* `WellKeyed` is the invariant on the entries (ids and unique ids are distinct, every
  unique id is its entry's host), kept by `WellKeyed.change`; `Entry.Verified` is the
  one on the run, kept by `verified_submit`.

`entries_unique_keyed_verified` assembles these, with what a reauth may change
(`reauth_submit`), for every list of submissions and whatever the panel answers.
-/

namespace Gc3.Hass

open Gc3.Py Gc3.Pygc3 Fallible

variable [Runtime]

/-! ## What a step must have seen -/

omit [Runtime] in
theorem orRaise_eq_ok {α : Type} {r : Except Exc α} {a : α} : orRaise r = .ok a ↔ r = .ok a := by
  cases r <;> simp [orRaise, Except.mapError]

omit [Runtime] in
theorem abortIfUniqueIdConfigured_eq_ok {entries : List Entry} {uniqueId : String} {u : Unit}
    (h : abortIfUniqueIdConfigured entries uniqueId = .ok u) :
    uniqueId ∉ entries.map (·.uniqueId) := by
  unfold abortIfUniqueIdConfigured at h
  split at h
  · contradiction
  · assumption

omit [Runtime] in
theorem abortIfUniqueIdMismatch_eq_ok {e : Entry} {uniqueId reason : String} {u : Unit}
    (h : abortIfUniqueIdMismatch e uniqueId reason = .ok u) : e.uniqueId = uniqueId := by
  unfold abortIfUniqueIdMismatch at h
  split at h
  · assumption
  · contradiction

omit [Runtime] in
/-- What is looked up is one of the entries, by its id. -/
theorem getKnownEntry_eq_ok {entries : List Entry} {entryId : String} {e : Entry}
    (h : getKnownEntry entries entryId = .ok e) : e ∈ entries ∧ e.entry.entryId = entryId := by
  unfold getKnownEntry at h
  cases hf : entries.find? (·.entry.entryId == entryId) with
  | none => simp [hf] at h
  | some e' =>
    obtain rfl : e' = e := by simpa [hf] using h
    exact ⟨List.mem_of_find?_eq_some hf, by simpa using List.find?_some hf⟩

/-- `_validate` came to nothing, and the step went on to store. -/
theorem validate_of_stored {panel : Panel} {data d : List (String × Json)} {ok r : FlowResult}
    {form : String → FlowResult} (hform : ∀ err, (form err).stored = none)
    (h : (do
      match ← orRaise (validate panel data) with
      | none => return ok
      | some err => return form err) = Except.ok r) (hr : r.stored = some d) :
    validate panel data = .ok none ∧ r = ok := by
  obtain ⟨verdict, hverdict, h⟩ := bind_eq_ok.mp h
  rw [orRaise_eq_ok] at hverdict
  cases verdict with
  | none => exact ⟨hverdict, (pure_eq_ok.mp h).symm⟩
  | some err =>
    rw [← pure_eq_ok.mp h, hform] at hr
    contradiction

/-- The user step stores what it was given, under a unique id that is its host's and
that no entry has. -/
theorem asyncStepUser_stored {entries : List Entry} {inProgress : List String} {panel : Panel}
    {input d : List (String × Json)} {r : FlowResult}
    (h : asyncStepUser entries inProgress panel (some input) = .ok r) (hr : r.stored = some d) :
    ∃ uniqueId, r = .createEntry "2GIG GC3" uniqueId input ∧ hostId input = .ok uniqueId ∧
      uniqueId ∉ entries.map (·.uniqueId) ∧ validate panel input = .ok none := by
  obtain ⟨uniqueId, huid, h⟩ := bind_eq_ok.mp h
  obtain ⟨_, _, h⟩ := bind_eq_ok.mp h
  obtain ⟨_, hfresh, h⟩ := bind_eq_ok.mp h
  obtain ⟨hok, rfl⟩ := validate_of_stored (fun _ => rfl) h hr
  exact ⟨uniqueId, rfl, orRaise_eq_ok.mp huid, abortIfUniqueIdConfigured_eq_ok hfresh, hok⟩

/-- The reconfigure step stores what it was given, in an entry whose host it keeps. -/
theorem asyncStepReconfigure_stored {entries : List Entry} {inProgress : List String}
    {entryId : String} {panel : Panel} {input d : List (String × Json)} {r : FlowResult}
    (h : asyncStepReconfigure entries inProgress entryId panel (some input) = .ok r)
    (hr : r.stored = some d) :
    ∃ e ∈ entries, e.entry.entryId = entryId ∧
      r = .updateReloadAndAbort e.entry.entryId "reconfigure_successful" input ∧
      hostId input = .ok e.uniqueId ∧ validate panel input = .ok none := by
  obtain ⟨e, he, h⟩ := bind_eq_ok.mp h
  obtain ⟨hmem, hid⟩ := getKnownEntry_eq_ok he
  obtain ⟨uniqueId, huid, h⟩ := bind_eq_ok.mp h
  obtain ⟨_, _, h⟩ := bind_eq_ok.mp h
  obtain ⟨_, hsame, h⟩ := bind_eq_ok.mp h
  obtain ⟨hok, rfl⟩ := validate_of_stored (fun _ => rfl) h hr
  rw [← abortIfUniqueIdMismatch_eq_ok hsame] at huid
  exact ⟨e, hmem, hid, rfl, orRaise_eq_ok.mp huid, hok⟩

/-- The reauth step stores what it was given on top of what the entry had, and checks
that as a whole. -/
theorem asyncStepReauthConfirm_stored {entries : List Entry} {entryId : String} {panel : Panel}
    {input d : List (String × Json)} {r : FlowResult}
    (h : asyncStepReauthConfirm entries entryId panel (some input) = .ok r)
    (hr : r.stored = some d) :
    ∃ e ∈ entries, e.entry.entryId = entryId ∧
      r = .updateReloadAndAbort e.entry.entryId "reauth_successful"
        (merge e.entry.data input) ∧
      validate panel (merge e.entry.data input) = .ok none := by
  obtain ⟨e, he, h⟩ := bind_eq_ok.mp h
  obtain ⟨hmem, hid⟩ := getKnownEntry_eq_ok he
  obtain ⟨hok, rfl⟩ := validate_of_stored (fun _ => rfl) h hr
  exact ⟨e, hmem, hid, rfl, hok⟩

/-- A unique id comes from a host that is a string. -/
theorem hostId_eq_ok {data : List (String × Json)} {uniqueId : String}
    (h : hostId data = .ok uniqueId) :
    ∃ host, data.lookup CONF_HOST = some (.str host) ∧ uniqueId = lower host := by
  obtain ⟨value, hvalue, h⟩ := bind_eq_ok.mp h
  have hlookup : data.lookup CONF_HOST = some value := by
    unfold item at hvalue
    split at hvalue
    · next hv => rw [hv, Except.ok.inj hvalue]
    · contradiction
  cases value with
  | str host => exact ⟨host, hlookup, (pure_eq_ok.mp h).symm⟩
  | _ => contradiction

/-- The keys a reauth may change. -/
def CREDENTIALS : List String := STEP_REAUTH_SCHEMA.map (·.key)

omit [Runtime] in
/-- They are the two keys of the panel. -/
theorem credentials_eq : CREDENTIALS = ["api_key", "pairing_key"] := rfl

/-- The same entry, but for the credentials in its data. -/
structure SameButCredentials (e e' : Entry) : Prop where
  entryId_eq : e'.entry.entryId = e.entry.entryId
  options_eq : e'.entry.options = e.entry.options
  uniqueId_eq : e'.uniqueId = e.uniqueId
  data_eq : ∀ key ∉ CREDENTIALS, e'.entry.data.lookup key = e.entry.data.lookup key

/-- The entry's unique id is its stored host, lowercased. -/
def Entry.Keyed (e : Entry) : Prop :=
  ∃ host, e.entry.data.lookup CONF_HOST = some (.str host) ∧ e.uniqueId = lower host

/-- What storing `data` came to, step by step. -/
inductive Change (entries : List Entry) (s : Submission) (data : List (String × Json)) :
    List Entry → Prop
  | user (uniqueId : String) (hstep : s.step = .user) (hhost : hostId data = .ok uniqueId)
      (hfresh : uniqueId ∉ entries.map (·.uniqueId))
      (hnew : s.entryId ∉ entries.map (·.entry.entryId)) :
      Change entries s data (entries ++ [⟨⟨s.entryId, data, []⟩, uniqueId⟩])
  | reconfigure (e : Entry) (hstep : s.step = .reconfigure) (he : e ∈ entries)
      (hid : e.entry.entryId = s.entryId) (hhost : hostId data = .ok e.uniqueId) :
      Change entries s data (updateEntry entries s.entryId data)
  | reauth (e : Entry) (hstep : s.step = .reauth) (he : e ∈ entries)
      (hid : e.entry.entryId = s.entryId)
      (hdata : ∀ key ∉ CREDENTIALS, data.lookup key = e.entry.data.lookup key) :
      Change entries s data (updateEntry entries s.entryId data)

omit [Runtime] in
/-- Merging what the reauth form returned changes the credentials only. -/
theorem lookup_merge_reauth {raw input a : List (String × Json)}
    (h : applySchema STEP_REAUTH_SCHEMA raw = some input) {key : String}
    (hkey : key ∉ CREDENTIALS) :
    (merge a input).lookup key = a.lookup key := by
  rw [lookup_merge]
  cases hinput : input.lookup key with
  | none => rfl
  | some value => exact absurd (applySchema_key h hinput) hkey

/-- A submission that aborts, raises or shows a form leaves the entries alone. -/
theorem submit_of_stored_none {entries : List Entry} {s : Submission}
    (h : stored entries s = none) : submit entries s = entries := by
  unfold stored at h
  unfold submit
  split at h
  · next r hr =>
    rw [hr]
    cases r with
    | showForm => rfl
    | createEntry => contradiction
    | updateReloadAndAbort => contradiction
  · next err herr => rw [herr]

omit [Runtime] in
/-- The check of the new id lets a result through as it is. -/
theorem checkNewId_eq_ok {entries : List Entry} {entryId : String} {r r' : FlowResult}
    (h : checkNewId entries entryId r = .ok r') :
    r' = r ∧ ∀ title uniqueId data, r = .createEntry title uniqueId data →
      entryId ∉ entries.map (·.entry.entryId) := by
  cases r with
  | showForm => exact ⟨(Except.ok.inj h).symm, by simp⟩
  | updateReloadAndAbort => exact ⟨(Except.ok.inj h).symm, by simp⟩
  | createEntry title uniqueId data =>
    simp only [checkNewId] at h
    split at h
    · contradiction
    · next hnew => exact ⟨(Except.ok.inj h).symm, fun _ _ _ _ => hnew⟩

/-- A submission that stores data passed its form, its step and the check of its id. -/
theorem answer_of_stored {entries : List Entry} {s : Submission} {data : List (String × Json)}
    (h : stored entries s = some data) :
    ∃ input r, applySchema s.step.schema s.input = some input ∧ runStep entries s input = .ok r ∧
      r.stored = some data ∧ answer entries s = .ok r ∧
      ∀ title uniqueId d, r = .createEntry title uniqueId d →
        s.entryId ∉ entries.map (·.entry.entryId) := by
  unfold stored at h
  cases hanswer : answer entries s with
  | error err => simp [hanswer] at h
  | ok r =>
    rw [hanswer] at h
    have hr := hanswer
    unfold answer at hr
    cases hinput : applySchema s.step.schema s.input with
    | none => simp [hinput] at hr
    | some input =>
      rw [hinput] at hr
      obtain ⟨r', hrun, hcheck⟩ := bind_eq_ok.mp hr
      obtain ⟨rfl, hnew⟩ := checkNewId_eq_ok hcheck
      exact ⟨input, r, rfl, hrun, h, rfl, hnew⟩

/-- A submission that stores data has had it checked with the panel, and changes
the entries in the way of its step. -/
theorem stored_cases {entries : List Entry} {s : Submission} {data : List (String × Json)}
    (h : stored entries s = some data) :
    validate s.panel data = .ok none ∧ Change entries s data (submit entries s) := by
  obtain ⟨input, r, hinput, hrun, hr, hanswer, hnew⟩ := answer_of_stored h
  unfold runStep at hrun
  unfold submit
  rw [hanswer]
  cases hstep : s.step with
  | user =>
    rw [hstep] at hrun
    obtain ⟨uniqueId, rfl, hhost, hfresh, hok⟩ := asyncStepUser_stored hrun hr
    obtain rfl := Option.some.inj hr
    exact ⟨hok, .user uniqueId hstep hhost hfresh (hnew _ _ _ rfl)⟩
  | reconfigure =>
    rw [hstep] at hrun
    obtain ⟨e, he, hid, rfl, hhost, hok⟩ := asyncStepReconfigure_stored hrun hr
    obtain rfl := Option.some.inj hr
    rw [hid]
    exact ⟨hok, .reconfigure e hstep he hid hhost⟩
  | reauth =>
    rw [hstep] at hrun hinput
    obtain ⟨e, he, hid, rfl, hok⟩ := asyncStepReauthConfirm_stored hrun hr
    obtain rfl := Option.some.inj hr
    rw [hid]
    exact ⟨hok, .reauth e hstep he hid fun key hkey => lookup_merge_reauth hinput hkey⟩

/-! ## The invariant -/

/-- Ids and unique ids are distinct, and every unique id is its entry's host. -/
structure WellKeyed (entries : List Entry) : Prop where
  ids_nodup : (entries.map (·.entry.entryId)).Nodup
  uniqueIds_nodup : (entries.map (·.uniqueId)).Nodup
  keyed : ∀ e ∈ entries, e.Keyed

omit [Runtime] in
/-- An update does not show where only ids and options are looked at. -/
theorem map_updateEntry {α : Type} (f : Entry → α) (entries : List Entry) (entryId : String)
    (data : List (String × Json))
    (hf : ∀ e : Entry, f { e with entry := { e.entry with data := data } } = f e) :
    (updateEntry entries entryId data).map f = entries.map f := by
  unfold updateEntry
  rw [List.map_map]
  refine List.map_congr_left fun e _ => ?_
  rw [Function.comp_apply]
  split
  · exact hf e
  · rfl

omit [Runtime] in
/-- Where an updated list's entries come from. -/
theorem mem_updateEntry {entries : List Entry} {entryId : String} {data : List (String × Json)}
    {e' : Entry} (h : e' ∈ updateEntry entries entryId data) :
    (∃ e ∈ entries, e.entry.entryId = entryId ∧
      e' = { e with entry := { e.entry with data := data } }) ∨
      e' ∈ entries ∧ e'.entry.entryId ≠ entryId := by
  obtain ⟨e, he, rfl⟩ := List.mem_map.mp h
  by_cases hid : e.entry.entryId = entryId
  · rw [if_pos hid]
    exact Or.inl ⟨e, he, hid, rfl⟩
  · rw [if_neg hid]
    exact Or.inr ⟨he, hid⟩

theorem WellKeyed.entry_eq {entries : List Entry} (h : WellKeyed entries) {e e' : Entry}
    (he : e ∈ entries) (he' : e' ∈ entries) (hid : e.entry.entryId = e'.entry.entryId) : e = e' :=
  List.inj_on_of_nodup_map h.ids_nodup he he' hid

/-- Replacing one entry's data keeps the invariant, as long as its host stays. -/
theorem WellKeyed.update {entries : List Entry} (h : WellKeyed entries) {e : Entry}
    (he : e ∈ entries) {data : List (String × Json)}
    (hkeyed : Entry.Keyed { e with entry := { e.entry with data := data } }) :
    WellKeyed (updateEntry entries e.entry.entryId data) where
  ids_nodup := by
    rw [map_updateEntry _ _ _ _ fun _ => rfl]
    exact h.ids_nodup
  uniqueIds_nodup := by
    rw [map_updateEntry _ _ _ _ fun _ => rfl]
    exact h.uniqueIds_nodup
  keyed := by
    intro e' he'
    rcases mem_updateEntry he' with ⟨old, hold, hid, rfl⟩ | ⟨hmem, -⟩
    · rw [h.entry_eq hold he hid]
      exact hkeyed
    · exact h.keyed e' hmem

/-- The invariant survives a change of either kind. -/
theorem WellKeyed.change {entries entries' : List Entry} (h : WellKeyed entries) {s : Submission}
    {data : List (String × Json)} (hc : Change entries s data entries') : WellKeyed entries' := by
  cases hc with
  | user uniqueId hstep hhost hfresh hnew =>
    refine ⟨?_, ?_, fun e he => ?_⟩
    · rw [List.map_append]
      exact h.ids_nodup.append (List.nodup_singleton _) (by simpa using hnew)
    · rw [List.map_append]
      exact h.uniqueIds_nodup.append (List.nodup_singleton _) (by simpa using hfresh)
    · rcases List.mem_append.mp he with he | he
      · exact h.keyed e he
      · obtain rfl := List.mem_singleton.mp he
        exact hostId_eq_ok hhost
  | reconfigure e hstep he hid hhost =>
    rw [← hid]
    exact h.update he (hostId_eq_ok hhost)
  | reauth e hstep he hid hdata =>
    rw [← hid]
    obtain ⟨host, hhost, hkey⟩ := h.keyed e he
    have hother : CONF_HOST ∉ CREDENTIALS := by
      rw [credentials_eq]
      decide
    exact h.update he ⟨host, (hdata CONF_HOST hother).trans hhost, hkey⟩

/-- Every submission keeps the entries well keyed, whether it stores or not. -/
theorem WellKeyed.submit {entries : List Entry} (h : WellKeyed entries) (s : Submission) :
    WellKeyed (Hass.submit entries s) := by
  cases hs : stored entries s with
  | none =>
    rw [submit_of_stored_none hs]
    exact h
  | some data => exact h.change (stored_cases hs).2

/-! ## Runs of submissions -/

/-- Each submission of a run, with the data it stored. -/
def journal (subs : List Submission) : List (Submission × Option (List (String × Json))) :=
  Runs.outputs submit (fun entries s => (s, stored entries s)) [] subs

/-- The latest submission to store data in `e` stored what `e` holds, and had it
checked with the panel. -/
def Entry.Verified (subs : List Submission) (e : Entry) : Prop :=
  Past.Since (fun w => w.1.entryId = e.entry.entryId → w.2 = none)
    (fun w => w.1.entryId = e.entry.entryId ∧ w.2 = some e.entry.data ∧
      validate w.1.panel e.entry.data = .ok none)
    (journal subs)

/-- After a change an entry is either the one the submission is about, with the data
stored, or an entry from before that it is not about. -/
theorem Change.mem {entries entries' : List Entry} {s : Submission} {data : List (String × Json)}
    (hc : Change entries s data entries') {e : Entry} (he : e ∈ entries') :
    (e.entry.entryId = s.entryId ∧ e.entry.data = data) ∨
      e ∈ entries ∧ e.entry.entryId ≠ s.entryId := by
  have hupdated : ∀ {e'}, e' ∈ updateEntry entries s.entryId data →
      (e'.entry.entryId = s.entryId ∧ e'.entry.data = data) ∨
        e' ∈ entries ∧ e'.entry.entryId ≠ s.entryId := by
    intro e' he'
    rcases mem_updateEntry he' with ⟨old, _, hid, rfl⟩ | hother
    · exact Or.inl ⟨hid, rfl⟩
    · exact Or.inr hother
  cases hc with
  | user uniqueId hstep hhost hfresh hnew =>
    rcases List.mem_append.mp he with he | he
    · refine Or.inr ⟨he, fun hid => hnew ?_⟩
      rw [← hid]
      exact List.mem_map_of_mem he
    · obtain rfl := List.mem_singleton.mp he
      exact Or.inl ⟨rfl, rfl⟩
  | reconfigure => exact hupdated he
  | reauth => exact hupdated he

/-- One more submission keeps every entry verified. -/
theorem verified_submit {subs : List Submission} {s : Submission}
    (h : ∀ e ∈ Runs.run submit [] subs, e.Verified subs) :
    ∀ e ∈ submit (Runs.run submit [] subs) s, e.Verified (subs ++ [s]) := by
  intro e he
  unfold Entry.Verified journal
  rw [Runs.outputs_concat, Past.since_concat]
  cases hs : stored (Runs.run submit [] subs) s with
  | none =>
    rw [submit_of_stored_none hs] at he
    exact Or.inr ⟨fun _ => rfl, h e he⟩
  | some data =>
    obtain ⟨hok, hc⟩ := stored_cases hs
    rcases hc.mem he with ⟨hid, rfl⟩ | ⟨hmem, hid⟩
    · exact Or.inl ⟨hid.symm, rfl, hok⟩
    · exact Or.inr ⟨fun hid' => absurd hid'.symm hid, h e hmem⟩

/-- A reauth changes nothing but credentials. -/
theorem reauth_submit {entries : List Entry} (h : WellKeyed entries) {s : Submission}
    (hstep : s.step = .reauth) :
    List.Forall₂ SameButCredentials entries (submit entries s) := by
  cases hs : stored entries s with
  | none =>
    rw [submit_of_stored_none hs]
    exact List.forall₂_same.mpr fun e _ => ⟨rfl, rfl, rfl, fun _ _ => rfl⟩
  | some data =>
    have hc := (stored_cases hs).2
    generalize submit entries s = entries' at hc
    cases hc with
    | user uniqueId hstep' => rw [hstep] at hstep'; contradiction
    | reconfigure e hstep' => rw [hstep] at hstep'; contradiction
    | reauth e hstep' he hid hdata =>
      unfold updateEntry
      rw [List.forall₂_map_right_iff]
      refine List.forall₂_same.mpr fun e' he' => ?_
      by_cases hid' : e'.entry.entryId = s.entryId
      · rw [if_pos hid', h.entry_eq he' he (hid'.trans hid.symm)]
        exact ⟨rfl, rfl, rfl, hdata⟩
      · rw [if_neg hid']
        exact ⟨rfl, rfl, rfl, fun _ _ => rfl⟩

/-- Well keyed they stay, from none on. -/
theorem wellKeyed_run (subs : List Submission) : WellKeyed (Runs.run submit [] subs) :=
  Runs.run_invariant (I := WellKeyed) ⟨by simp, by simp, by simp⟩ (fun _ s h => h.submit s) subs

/-- After any run, every entry holds what the latest submission to write it had checked.
-/
theorem verified_run (subs : List Submission) :
    ∀ e ∈ Runs.run submit [] subs, e.Verified subs := by
  induction subs using List.reverseRecOn with
  | nil => simp
  | append_singleton subs s ih =>
    rw [Runs.run_concat]
    exact verified_submit ih

/-- **Entries stay unique, keyed on their host and verified**, whatever has been
submitted to the three steps and whatever the panel answered: unique ids are distinct,
each is its entry's host in lower case, and an entry holds what the latest submission
to write it had checked. Whatever is submitted next, what it stores it has checked;
a reauth changes the two credentials at most, and a submission that stores nothing
changes nothing. -/
theorem entries_unique_keyed_verified (subs : List Submission) (s : Submission) :
    let entries := Runs.run submit [] subs
    (entries.map (·.uniqueId)).Nodup ∧
      (∀ e ∈ entries, e.Keyed ∧ e.Verified subs) ∧
      (∀ data, stored entries s = some data → validate s.panel data = .ok none) ∧
      (stored entries s = none → submit entries s = entries) ∧
      (s.step = .reauth → List.Forall₂ SameButCredentials entries (submit entries s)) := by
  intro entries
  have hwell : WellKeyed entries := wellKeyed_run subs
  refine ⟨hwell.uniqueIds_nodup, fun e he => ⟨hwell.keyed e he, verified_run subs e he⟩, ?_⟩
  exact ⟨fun data h => (stored_cases h).1, submit_of_stored_none, reauth_submit hwell⟩

/-- A form for the user step, with the two keys filled in. -/
def userForm (entryId host : String) (panel : Panel) : Submission where
  step := .user
  entryId := entryId
  input := [(CONF_HOST, .str host), (CONF_API_KEY, .str "key"), (CONF_PAIRING_KEY, .str "123456")]
  inProgress := []
  panel := panel

/-- The same panel under a host in capitals is not added twice. -/
example :
    let panel : Panel := fun _ => .ofJson 200 (.obj [])
    letI := latin1
    (Runs.run submit [] [userForm "1" "panel.local" panel, userForm "2" "PANEL.local" panel]).map
      (·.uniqueId) = ["panel.local"] := by
  decide +kernel

end Gc3.Hass
