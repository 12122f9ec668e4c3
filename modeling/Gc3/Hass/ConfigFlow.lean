import Gc3.Hass.Core
import Gc3.Lib.Fallible
import Gc3.Lib.Runs
import Gc3.Pygc3.Client

/-!
# The config flow

`config_flow.py`, and the config entries it makes and changes. Of Home Assistant: an
input is checked against the form's schema before a step sees it, an entry is added
under a fresh id, and an update replaces the data of one entry and nothing else. A flow
is judged by what the panel answers to its one request.

A form is a list of `Field`s, and `applySchema` is what voluptuous does with it: refuse
an unknown key, a missing one or a value of another type, and fill in the defaults. Like
voluptuous it takes a bool where an int is asked for, so an entry may hold a partition
that is `True`, and the client is made with it as it is (`partitionOf`).

Each of the three steps is a function to a `FlowResult`, or to what ended it early: an
`AbortFlow`, or an exception that no step catches. `submit` is one submission from the
form to the stored entries, and the runs of `Gc3.Hass.ConfigEntries` and
`Gc3.Hass.Options` are made of it.
-/

namespace Gc3.Hass

open Gc3.Py Gc3.Pygc3

def CONF_HOST : String := "host"
def CONF_PORT : String := "port"
def CONF_API_KEY : String := "api_key"
def CONF_PAIRING_KEY : String := "pairing_key"
def CONF_PARTITION : String := "partition"
def DEFAULT_PORT : Int := 3000
def DEFAULT_PARTITION : Int := 1

/-! ## Schemas -/

/-- The types a form asks for; a bool passes for an int. -/
inductive FieldType
  | str
  | int
  deriving DecidableEq, Repr

def FieldType.admits : FieldType → Json → Bool
  | .str, .str _ => true
  | .int, .int _ => true
  | .int, .bool _ => true
  | _, _ => false

/-- One field of a form: required, or optional with a default. -/
structure Field where
  key : String
  type : FieldType
  default : Option Json

def required (key : String) (type : FieldType) : Field := ⟨key, type, none⟩

def optional (key : String) (type : FieldType) (default : Json) : Field := ⟨key, type, some default⟩

def STEP_USER_SCHEMA : List Field :=
  [required CONF_HOST .str, required CONF_API_KEY .str, required CONF_PAIRING_KEY .str,
    optional CONF_DISARM_PIN .str (.str ""), optional CONF_PORT .int (.int DEFAULT_PORT),
    optional CONF_PARTITION .int (.int DEFAULT_PARTITION)]

def STEP_REAUTH_SCHEMA : List Field :=
  [required CONF_API_KEY .str, required CONF_PAIRING_KEY .str]

/-- The defaults of the fields the input leaves out. -/
def defaults (schema : List Field) (raw : List (String × Json)) : List (String × Json) :=
  schema.filterMap fun f =>
    if (raw.lookup f.key).isNone then f.default.map (f.key, ·) else none

/-- `schema(raw)`: no key it does not name, none of its own missing, each of its type. -/
def applySchema (schema : List Field) (raw : List (String × Json)) :
    Option (List (String × Json)) :=
  let data := raw ++ defaults schema raw
  let known := data.all fun (key, value) =>
    match schema.find? (·.key == key) with
    | some f => f.type.admits value
    | none => false
  let complete := schema.all fun f => (data.lookup f.key).isSome
  if known && complete then some data else none

theorem mem_of_lookup {d : List (String × Json)} {key : String} {value : Json}
    (h : d.lookup key = some value) : (key, value) ∈ d := by
  obtain ⟨pre, post, rfl, -⟩ := List.lookup_eq_some_iff.mp h
  simp

/-- Data that passed a schema has no other key. -/
theorem applySchema_key {schema : List Field} {raw data : List (String × Json)}
    (h : applySchema schema raw = some data) {key : String} {value : Json}
    (hvalue : data.lookup key = some value) : key ∈ schema.map (·.key) := by
  simp only [applySchema, Option.ite_none_right_eq_some, Bool.and_eq_true, List.all_eq_true,
    Option.some.injEq] at h
  obtain ⟨⟨hknown, -⟩, rfl⟩ := h
  have hadmits := hknown _ (mem_of_lookup hvalue)
  cases hf : schema.find? (·.key == key) with
  | none => simp [hf] at hadmits
  | some f =>
    have hkey : f.key = key := by simpa using List.find?_some hf
    exact List.mem_map.mpr ⟨f, List.mem_of_find?_eq_some hf, hkey⟩

/-! ## Data -/

/-- `d[key]` -/
def item (d : List (String × Json)) (key : String) : Except Exc Json :=
  match d.lookup key with
  | some value => .ok value
  | none => .error ⟨.otherException, "'" ++ key ++ "'"⟩

/-- `{**a, **b}` -/
def merge (a b : List (String × Json)) : List (String × Json) :=
  (a.map fun (key, value) => (key, (b.lookup key).getD value)) ++
    b.filter fun (key, _) => (a.lookup key).isNone

/-- A map over the values changes what a key holds, and no key. -/
theorem lookup_map_value (f : String → Json → Json) (d : List (String × Json)) (key : String) :
    (d.map fun (k, v) => (k, f k v)).lookup key = (d.lookup key).map (f key) := by
  induction d with
  | nil => rfl
  | cons kv d ih =>
    obtain ⟨k, v⟩ := kv
    rw [List.map_cons, lookup_cons_ite, lookup_cons_ite, ih]
    by_cases h : key = k
    · rw [if_pos h, if_pos h, h, Option.map_some]
    · rw [if_neg h, if_neg h]

theorem lookup_filter_key (p : String → Bool) (d : List (String × Json)) (key : String) :
    (d.filter fun (k, _) => p k).lookup key = if p key then d.lookup key else none := by
  induction d with
  | nil => simp
  | cons kv d ih =>
    obtain ⟨k, v⟩ := kv
    rw [List.filter_cons, lookup_cons_ite]
    by_cases h : key = k
    · subst h
      by_cases hp : p key = true
      · rw [if_pos hp, lookup_cons_ite, if_pos rfl, if_pos hp, if_pos rfl]
      · rw [if_neg hp, ih, if_neg hp, if_neg hp]
    · rw [if_neg h]
      by_cases hp : p k = true
      · rw [if_pos hp, lookup_cons_ite, if_neg h, ih]
      · rw [if_neg hp, ih]

/-- Under `{**a, **b}` a key reads `b` first. -/
theorem lookup_merge (a b : List (String × Json)) (key : String) :
    (merge a b).lookup key = (b.lookup key).or (a.lookup key) := by
  unfold merge
  rw [List.lookup_append, lookup_map_value fun k v => (b.lookup k).getD v,
    lookup_filter_key fun k => (a.lookup k).isNone]
  cases ha : a.lookup key <;> cases hb : b.lookup key <;> rfl

/-- A header, as aiohttp takes it: a string. -/
def headerText : Json → Except Exc String
  | .str s => .ok s
  | v => .error ⟨.typeError, "Cannot serialize non-str key " ++ v.typeName⟩

/-- The partition of an entry. The schema asks for an `int`, and lets a bool pass for one. -/
def partitionOf : Json → Partition
  | .bool b => .flag b
  | .int n => .number n
  -- no form lets anything else through
  | _ => .number 0

section

variable [Runtime]

/-- `user_input[CONF_HOST].lower()` -/
def hostId (userInput : List (String × Json)) : Except Exc String := do
  match ← item userInput CONF_HOST with
  | .str host => return lower host
  | v => .error ⟨.attributeError, "'" ++ v.typeName ++ "' object has no attribute 'lower'"⟩

/-- The client `_validate` asks with. -/
def flowClient (data : List (String × Json)) : Except Exc GC3Client := do
  let host ← item data CONF_HOST
  let pairingKey ← item data CONF_PAIRING_KEY
  let apiKey ← item data CONF_API_KEY
  let port := getOr data CONF_PORT (.int DEFAULT_PORT)
  return {
    base := "https://" ++ host.pyStr ++ ":" ++ port.pyStr
    pairingKey := ← headerText pairingKey
    apiKey := ← headerText apiKey
    partition := partitionOf (getOr data CONF_PARTITION (.int DEFAULT_PARTITION)) }

/-- `_validate`: an error key, or `none` if the credentials authenticate. -/
def validate (panel : Panel) (data : List (String × Json)) : Except Exc (Option String) := do
  match (← flowClient data).status panel with
  | .ok _ => return none
  | .error (.gc3 (.auth _)) => return some "invalid_auth"
  | .error (.gc3 (.connection _)) => return some "cannot_connect"
  | .error (.gc3 _) => return some "unknown"
  | .error (.py err) => .error err

/-! ## Home Assistant's side of a flow -/

/-- A stored config entry and its unique id. -/
structure Entry where
  entry : ConfigEntry
  uniqueId : String

/-- What ends a step early: `AbortFlow`, or any other exception. -/
inductive Interrupt
  | abortFlow (reason : String)
  | raised (err : Exc)

/-- Let an exception end the step. -/
def orRaise {α : Type} (r : Except Exc α) : Except Interrupt α := r.mapError .raised

/-- What a step returns: a form to fill in, an entry to create, or new data for one
entry, which is then reloaded while the flow aborts with `reason`. -/
inductive FlowResult
  | showForm (stepId : String) (schema : List Field) (suggested : List (String × Json))
      (errors : List (String × String))
  | createEntry (title uniqueId : String) (data : List (String × Json))
  | updateReloadAndAbort (entryId reason : String) (data : List (String × Json))

/-- The data a result stores in an entry. -/
def FlowResult.stored : FlowResult → Option (List (String × Json))
  | .showForm .. => none
  | .createEntry _ _ data => some data
  | .updateReloadAndAbort _ _ data => some data

/-- `async_set_unique_id`, with the unique ids other flows are at work on. -/
def asyncSetUniqueId (inProgress : List String) (uniqueId : String) : Except Interrupt Unit :=
  if uniqueId ∈ inProgress then .error (.abortFlow "already_in_progress") else .ok ()

/-- `_abort_if_unique_id_configured` -/
def abortIfUniqueIdConfigured (entries : List Entry) (uniqueId : String) :
    Except Interrupt Unit :=
  if uniqueId ∈ entries.map (·.uniqueId) then .error (.abortFlow "already_configured") else .ok ()

/-- `_abort_if_unique_id_mismatch` -/
def abortIfUniqueIdMismatch (e : Entry) (uniqueId reason : String) : Except Interrupt Unit :=
  if e.uniqueId = uniqueId then .ok () else .error (.abortFlow reason)

/-- `_get_reauth_entry`, `_get_reconfigure_entry` -/
def getKnownEntry (entries : List Entry) (entryId : String) : Except Interrupt Entry :=
  match entries.find? (·.entry.entryId == entryId) with
  | some e => .ok e
  | none => .error (.raised ⟨.otherException, entryId⟩)

/-! ## The steps -/

def asyncStepUser (entries : List Entry) (inProgress : List String) (panel : Panel)
    (userInput : Option (List (String × Json))) : Except Interrupt FlowResult := do
  match userInput with
  | none => return .showForm "user" STEP_USER_SCHEMA [] []
  | some input =>
    let uniqueId ← orRaise (hostId input)
    asyncSetUniqueId inProgress uniqueId
    abortIfUniqueIdConfigured entries uniqueId
    match ← orRaise (validate panel input) with
    | none => return .createEntry "2GIG GC3" uniqueId input
    | some err => return .showForm "user" STEP_USER_SCHEMA [] [("base", err)]

/-- `user_input or entry.data` -/
def inputOr (userInput : Option (List (String × Json))) (e : Entry) : List (String × Json) :=
  match userInput with
  | some (kv :: rest) => kv :: rest
  | _ => e.entry.data

def asyncStepReconfigure (entries : List Entry) (inProgress : List String) (entryId : String)
    (panel : Panel) (userInput : Option (List (String × Json))) :
    Except Interrupt FlowResult := do
  let e ← getKnownEntry entries entryId
  match userInput with
  | none => return .showForm "reconfigure" STEP_USER_SCHEMA (inputOr userInput e) []
  | some input =>
    let uniqueId ← orRaise (hostId input)
    asyncSetUniqueId inProgress uniqueId
    abortIfUniqueIdMismatch e uniqueId "wrong_panel"
    match ← orRaise (validate panel input) with
    | none => return .updateReloadAndAbort e.entry.entryId "reconfigure_successful" input
    | some err =>
      return .showForm "reconfigure" STEP_USER_SCHEMA (inputOr userInput e) [("base", err)]

def asyncStepReauthConfirm (entries : List Entry) (entryId : String) (panel : Panel)
    (userInput : Option (List (String × Json))) : Except Interrupt FlowResult := do
  let e ← getKnownEntry entries entryId
  match userInput with
  | none => return .showForm "reauth_confirm" STEP_REAUTH_SCHEMA [] []
  | some input =>
    let merged := merge e.entry.data input
    match ← orRaise (validate panel merged) with
    | none => return .updateReloadAndAbort e.entry.entryId "reauth_successful" merged
    | some err => return .showForm "reauth_confirm" STEP_REAUTH_SCHEMA [] [("base", err)]

/-- `async_step_reauth`: the stored data it is handed plays no part. -/
def asyncStepReauth (entries : List Entry) (entryId : String) (panel : Panel)
    (_entryData : List (String × Json)) : Except Interrupt FlowResult :=
  asyncStepReauthConfirm entries entryId panel none

/-! ## Submissions -/

inductive FlowStep
  | user
  | reconfigure
  | reauth
  deriving DecidableEq, Repr

/-- The form a step asks with. -/
def FlowStep.schema : FlowStep → List Field
  | .user => STEP_USER_SCHEMA
  | .reconfigure => STEP_USER_SCHEMA
  | .reauth => STEP_REAUTH_SCHEMA

/-- A form sent in: to which step, for which entry (a new one's id for the user
step), what was filled in, the unique ids other flows are at work on, and the panel
as the step finds it. -/
structure Submission where
  step : FlowStep
  entryId : String
  input : List (String × Json)
  inProgress : List String
  panel : Panel

/-- The submission handed to its step. -/
def runStep (entries : List Entry) (s : Submission) (data : List (String × Json)) :
    Except Interrupt FlowResult :=
  match s.step with
  | .user => asyncStepUser entries s.inProgress s.panel (some data)
  | .reconfigure => asyncStepReconfigure entries s.inProgress s.entryId s.panel (some data)
  | .reauth => asyncStepReauthConfirm entries s.entryId s.panel (some data)

/-- `async_add` refuses an entry whose id is taken. -/
def checkNewId (entries : List Entry) (entryId : String) :
    FlowResult → Except Interrupt FlowResult
  | .createEntry title uniqueId data =>
    if entryId ∈ entries.map (·.entry.entryId) then .error (.raised ⟨.otherException,
      "An entry with the id " ++ entryId ++ " already exists."⟩)
    else .ok (.createEntry title uniqueId data)
  | r => .ok r

/-- `async_configure`: the input is checked against the form, then handed to the step. -/
def answer (entries : List Entry) (s : Submission) : Except Interrupt FlowResult :=
  match applySchema s.step.schema s.input with
  | none => .error (.raised ⟨.otherException, "Schema validation failed"⟩)
  | some data => runStep entries s data >>= checkNewId entries s.entryId

/-- `async_update_entry(entry, data=data)` -/
def updateEntry (entries : List Entry) (entryId : String) (data : List (String × Json)) :
    List Entry :=
  entries.map fun e =>
    if e.entry.entryId = entryId then { e with entry := { e.entry with data := data } } else e

/-- The entries after a submission. -/
def submit (entries : List Entry) (s : Submission) : List Entry :=
  match answer entries s with
  | .ok (.createEntry _ uniqueId data) => entries ++ [⟨⟨s.entryId, data, []⟩, uniqueId⟩]
  | .ok (.updateReloadAndAbort entryId _ data) => updateEntry entries entryId data
  | .ok (.showForm ..) => entries
  | .error _ => entries

/-- The data a submission stores; `none` for one that aborts, raises or shows a form. -/
def stored (entries : List Entry) (s : Submission) : Option (List (String × Json)) :=
  match answer entries s with
  | .ok r => r.stored
  | .error _ => none

end

end Gc3.Hass
