import Gc3.Lib.Ask
import Gc3.Lib.Fallible
import Gc3.Py.Json

/-!
# `tools/pair.py`

Enrolment with the panel by hand, as programs that ask it: `show`, `probe` and `enrol`.
`probe` posts what `enrol` would, never with an api key, and interprets the answer. The
two agree (`probe_foretells_enrol`): whatever the panel answers, each puts one request
and no other, they end with the same exit code or in the same exception, and `probe`
reports success exactly when `enrol` prints an api key, which is when the first key
field of the object in a good answer holds a value that counts as true.

`requests` is modelled by what a `Reply` says of its body. `r.json()` raises a
`ValueError` on a text that is no JSON, which both programs catch, and a
`RecursionError` on JSON nested too deep, which neither does; `Reply.tryJson` is that
`try`, and the lemmas on `bodyOf`, `enrolled` and `interpret` have one equation for each
of its three outcomes.

The agreement is about one answer at a time: `foretells_reply`, by whether the answer is
good. A good one is searched by both programs for the same field
(`foretells_good_reply`), and of a bad one `enrol` says what `interpret` makes of it,
which is what `probe` says (`foretells_bad_reply`).
-/

namespace Gc3.Tools.Pair

open Gc3.Py Fallible

/-! ## `requests` -/

structure Call where
  method : String
  url : String
  json : Option Json
  headers : List (String × String)

/-- A response, its body as text and as JSON. -/
structure Reply where
  status : Nat
  text : String
  json : Except Exc Json
  -- the second for JSON nested deeper than `json.loads` goes
  json_raises : ∀ err, json = .error err → err.cls = .valueError ∨ err.cls = .recursionError

/-- `r.ok` -/
def Reply.ok (r : Reply) : Bool := !(400 ≤ r.status && r.status < 600)

/-- `r.json()` under an `except ValueError`: nothing is what that has caught. -/
def Reply.tryJson (r : Reply) : Except Exc (Option Json) :=
  match r.json with
  | .ok body => .ok (some body)
  | .error err => if err.cls = .valueError then .ok none else .error err

/-- A program over the network; a request may raise instead of being answered. -/
abbrev Script (α : Type) := Ask Call (Except Exc Reply) α

/-- A request whose exception nobody catches: the program ends as `raised` says. -/
def request {α : Type} (raised : Exc → α) (q : Call) (next : Reply → Script α) : Script α :=
  .ask q fun
    | .ok r => next r
    | .error err => .done (raised err)

section

variable {α : Type} {raised : Exc → α} {q : Call} {next : Reply → Script α} {σ : Type}
  {serve : σ → Call → Except Exc Reply × σ} {s : σ}

theorem request_of_ok {r : Reply} (h : (serve s q).1 = .ok r) :
    (request raised q next).transcript serve s =
        (q, .ok r) :: (next r).transcript serve (serve s q).2 ∧
      (request raised q next).run serve s = (next r).run serve (serve s q).2 := by
  simp only [request, Ask.transcript, Ask.run, h, and_self]

/-- An answer that did not come ends the program in the exception. -/
theorem request_of_error {err : Exc} (h : (serve s q).1 = .error err) :
    (request raised q next).transcript serve s = [(q, .error err)] ∧
      (request raised q next).run serve s = (raised err, (serve s q).2) := by
  simp only [request, Ask.transcript, Ask.run, h, and_self]

/-- One request and no more: what was asked, and what became of the answer. -/
theorem request_once {β : Type} (f : Reply → Except Exc β) :
    (request .error q fun r => .done (f r)).transcript serve s = [(q, (serve s q).1)] ∧
      (request .error q fun r => .done (f r)).run serve s =
        ((serve s q).1.bind f, (serve s q).2) := by
  cases hanswer : (serve s q).1 with
  | ok r => exact request_of_ok hanswer
  | error err => exact request_of_error hanswer

end

/-- `args.panel.rstrip("/")` -/
def rstripSlash (s : String) : String := String.ofList (s.toList.rdropWhile (· = '/'))

/-- A header that is set when there is something to set it to. -/
def header (name : String) : Option String → List (String × String)
  | some value => if value = "" then [] else [(name, value)]
  | none => []

/-! ## The helper -/

def PAIR_PATH : String := "/api/v1/pair"

/-- Names under which the issued key has been seen, or might be. -/
def KEY_FIELDS : List String := ["apiKey", "ApiKey", "api_key", "apikey", "key", "token"]

/-- The headers of `_session(api_key, pairing_key)`. -/
def session (apiKey pairingKey : Option String) : List (String × String) :=
  header "X-Pairing-Key" pairingKey ++ header "X-Api-Key" apiKey ++
    [("Content-Type", "application/json")]

def enrolBody (deviceName : String) (partition : Int) : Json :=
  .obj [("deviceName", .str deviceName), ("allPartitionAccess", .bool true),
    ("isSecurityDevice", .bool false), ("memberOfPartition", .str (toString partition))]

/-- `key in data` -/
def contains (data : Json) (key : String) : Except Exc Bool :=
  match data with
  | .obj fields => .ok (fields.lookup key).isSome
  | .arr items => .ok (items.any fun v =>
      match v with
      | .str s => s == key
      | _ => false)
  | .str s => .ok (inStr key s)
  | _ => .error ⟨.typeError, "argument of type '" ++ data.typeName ++ "' is not iterable"⟩

/-- `data[key]` -/
def item (data : Json) (key : String) : Except Exc Json :=
  match data with
  | .obj fields =>
    match fields.lookup key with
    | some v => .ok v
    -- a `KeyError`
    | none => .error ⟨.otherException, "'" ++ key ++ "'"⟩
  | .arr _ => .error ⟨.typeError, "list indices must be integers or slices, not str"⟩
  | .str _ => .error ⟨.typeError, "string indices must be integers, not 'str'"⟩
  | _ => .error ⟨.typeError, "'" ++ data.typeName ++ "' object is not subscriptable"⟩

/-- The first of the fields that is there. -/
def firstOf (data : Json) : List String → Except Exc Json
  | [] => .ok .null
  | key :: rest => do if ← contains data key then item data key else firstOf data rest

def issuedKey (data : Json) : Except Exc Json := firstOf data KEY_FIELDS

/-- What `_interpret` makes of an answer. -/
inductive Outcome
  | success
  | noKeyField
  | gate2
  | gate1
  | unrecognised
  deriving DecidableEq, Repr

def Outcome.text : Outcome → String
  | success => "SUCCESS: the panel issued an API key (see above). The System Pairing window " ++
      "accepts an unauthenticated enrol -- bootstrap works. Capture the key + pairing code " ++
      "into .env."
  | noKeyField => "2xx but no recognised key field. Inspect the body for a ~36-char " ++
      "UUID-shaped value; that is the API key."
  | gate2 => "Gate 2 (pairing-authorized state) is still closed: the panel is NOT in the " ++
      "System Pairing listen window right now. Open Installer Toolbox -> System Pairing, " ++
      "press '+', and re-run within the window."
  | gate1 => "Gate 1 (auth middleware) rejected the request for lack of a valid api key -- " ++
      "the listen window does NOT relax the middleware for an unauthenticated device. If " ++
      "the Enter Key screen shows a code, pass it as --pairing-key and retry; otherwise " ++
      "unauthenticated bootstrap is blocked on this firmware."
  | unrecognised => "Unrecognised outcome -- record the status + body above in " ++
      "INTEGRATION_PLAN.md."

structure Args where
  panel : String
  apiKey : Option String
  pairingKey : Option String
  deviceName : String
  partition : Int

def Args.url (args : Args) : String := rstripSlash args.panel ++ PAIR_PATH

/-- The post of `probe` and `enrol`. -/
def Args.enrolCall (args : Args) (apiKey : Option String) : Call :=
  ⟨"POST", args.url, some (enrolBody args.deviceName args.partition),
    session apiKey args.pairingKey⟩

section

variable [Runtime]

/-- The JSON of the body, or an empty object. -/
def bodyOf (r : Reply) : Except Exc Json := do return (← r.tryJson).getD (.obj [])

def interpret (r : Reply) : Except Exc Outcome := do
  let body ← bodyOf r
  if r.ok then
    return if (← issuedKey body).truthy then .success else .noKeyField
  let err := ((← body.get "Error").or ((← body.get "message").or (.str r.text))).pyStr
  if r.status = 403 ∧ inStr "not authorized" (lower err) then return .gate2
  if (r.status = 401 ∨ r.status = 403) ∧ inStr "api key" (lower err) then return .gate1
  return .unrecognised

/-- `return 0 if r.ok else 1` -/
def exitCode (r : Reply) : Nat := if r.ok then 0 else 1

/-- `show` -/
def showPairing (args : Args) : Script (Except Exc Nat) :=
  request .error ⟨"GET", args.url, none, session args.apiKey args.pairingKey⟩ fun r =>
    .done (.ok (exitCode r))

/-- What `probe` makes of the reply: its reading, and its exit code. -/
def probed (r : Reply) : Except Exc (Outcome × Nat) := do return (← interpret r, exitCode r)

def probe (args : Args) : Script (Except Exc (Outcome × Nat)) :=
  request .error (args.enrolCall none) fun r => .done (probed r)

/-- What `enrol` has to say. -/
inductive Enrolment
  | refused (outcome : Outcome)
  | notJson
  | issued (key : Json)
  | unknownField

def enrolled (r : Reply) : Except Exc (Enrolment × Nat) := do
  if r.ok then
    match ← r.tryJson with
    | none => return (.notJson, 0)
    | some data =>
      let issued ← issuedKey data
      return (if issued.truthy then .issued issued else .unknownField, 0)
  else return (.refused (← interpret r), 1)

def enrol (args : Args) : Script (Except Exc (Enrolment × Nat)) :=
  request .error (args.enrolCall args.apiKey) fun r => .done (enrolled r)

/-! ## The issued key -/

omit [Runtime] in
/-- In an object the first of the keys that it has is the one that is taken. -/
theorem firstOf_obj (fields : List (String × Json)) (keys : List String) :
    firstOf (.obj fields) keys =
      .ok ((keys.findSome? fun key => fields.lookup key).getD .null) := by
  induction keys with
  | nil => rfl
  | cons key rest ih =>
    have hcontains : contains (.obj fields) key = .ok (fields.lookup key).isSome := rfl
    unfold firstOf
    rw [hcontains, ih, List.findSome?_cons]
    cases hlookup : fields.lookup key with
    | none => rfl
    | some v =>
      show item (.obj fields) key = .ok v
      simp only [item, hlookup]

omit [Runtime] in
/-- A body that is no object has no key to give: it lacks all the fields, or raises. -/
theorem eq_null_of_firstOf {data v : Json} (hobj : ¬ data.IsObj) {keys : List String}
    (h : firstOf data keys = .ok v) : v = .null := by
  induction keys with
  | nil => exact (Except.ok.inj h).symm
  | cons key rest ih =>
    unfold firstOf at h
    obtain ⟨found, -, h⟩ := bind_eq_ok.mp h
    cases found with
    | false => exact ih h
    | true =>
      cases data with
      | obj fields => exact absurd ⟨fields, rfl⟩ hobj
      | _ => exact absurd h (by simp [item])

omit [Runtime] in
/-- A key that counts as true is the first field of an object. -/
theorem issuedKey_eq_ok_iff {v : Json} (htruthy : v.truthy = true) (data : Json) :
    issuedKey data = .ok v ↔
      ∃ fields, data = .obj fields ∧
        (KEY_FIELDS.findSome? fun key => fields.lookup key) = some v := by
  constructor
  · intro hv
    by_cases hobj : data.IsObj
    · obtain ⟨fields, rfl⟩ := hobj
      unfold issuedKey at hv
      rw [firstOf_obj, Except.ok.injEq] at hv
      refine ⟨fields, rfl, ?_⟩
      cases hfind : KEY_FIELDS.findSome? fun key => fields.lookup key with
      | none =>
        rw [hfind] at hv
        rw [← hv] at htruthy
        exact absurd htruthy (by simp [Json.truthy])
      | some w =>
        rw [hfind] at hv
        exact congrArg some hv
    · rw [eq_null_of_firstOf hobj hv] at htruthy
      exact absurd htruthy (by simp [Json.truthy])
  · rintro ⟨fields, rfl, hfind⟩
    unfold issuedKey
    rw [firstOf_obj, hfind]
    rfl

omit [Runtime] in
/-- There is a key to print exactly in an object whose first key field counts as true.
-/
theorem issuedKey_truthy_iff (data : Json) :
    (∃ v, issuedKey data = .ok v ∧ v.truthy = true) ↔
      ∃ fields v, data = .obj fields ∧
        (KEY_FIELDS.findSome? fun key => fields.lookup key) = some v ∧ v.truthy = true := by
  constructor
  · rintro ⟨v, hv, htruthy⟩
    obtain ⟨fields, hdata, hfind⟩ := (issuedKey_eq_ok_iff htruthy data).mp hv
    exact ⟨fields, v, hdata, hfind, htruthy⟩
  · rintro ⟨fields, v, hdata, hfind, htruthy⟩
    exact ⟨v, (issuedKey_eq_ok_iff htruthy data).mpr ⟨fields, hdata, hfind⟩, htruthy⟩

omit [Runtime] in
/-- An object always has something to say about its key. -/
theorem not_isObj_of_issuedKey {data : Json} {err : Exc} (h : issuedKey data = .error err) :
    ¬ data.IsObj := by
  rintro ⟨fields, rfl⟩
  unfold issuedKey at h
  rw [firstOf_obj] at h
  exact absurd h (by simp)

/-! ## Probing and enrolling -/

/-- `enrol` ends as `probe` did, with a key where `probe` saw success. -/
structure Foretells (p : Except Exc (Outcome × Nat)) (e : Except Exc (Enrolment × Nat)) : Prop where
  code_eq : p.map (·.2) = e.map (·.2)
  success_iff : (∃ code, p = .ok (.success, code)) ↔ ∃ key code, e = .ok (.issued key, code)
  refused : ∀ outcome code, e = .ok (.refused outcome, code) → p = .ok (outcome, code)

/-- A bad answer has one of three readings, two of them under certain statuses only. -/
theorem interpret_bad_reply {r : Reply} (hok : ¬ r.ok = true) {outcome : Outcome}
    (h : interpret r = .ok outcome) :
    outcome = .gate2 ∧ r.status = 403 ∨ outcome = .gate1 ∧ (r.status = 401 ∨ r.status = 403) ∨
      outcome = .unrecognised := by
  unfold interpret at h
  simp only [if_neg hok, bind_eq_ok] at h
  obtain ⟨body, -, error, -, message, -, h⟩ := h
  split at h
  next h403 => exact Or.inl ⟨(pure_eq_ok.mp h).symm, h403.1⟩
  next =>
    split at h
    next hauth => exact Or.inr (Or.inl ⟨(pure_eq_ok.mp h).symm, hauth.1⟩)
    next => exact Or.inr (Or.inr (pure_eq_ok.mp h).symm)

/-- Success is read off a good answer with a key that counts as true. -/
theorem interpret_success_iff (r : Reply) :
    interpret r = .ok .success ↔
      r.ok = true ∧
        ∃ body, bodyOf r = .ok body ∧ ∃ v, issuedKey body = .ok v ∧ v.truthy = true := by
  by_cases hok : r.ok = true
  · unfold interpret
    simp only [if_pos hok, bind_eq_ok, pure_eq_ok]
    refine ⟨?_, ?_⟩
    · rintro ⟨body, hbody, v, hv, hsuccess⟩
      refine ⟨hok, body, hbody, v, hv, ?_⟩
      by_contra htruthy
      rw [if_neg htruthy] at hsuccess
      exact absurd hsuccess (by simp)
    · rintro ⟨-, body, hbody, v, hv, htruthy⟩
      exact ⟨body, hbody, v, hv, if_pos htruthy⟩
  · refine iff_of_false (fun h => ?_) fun h => hok h.1
    rcases interpret_bad_reply hok h with ⟨houtcome, -⟩ | ⟨houtcome, -⟩ | houtcome <;>
      exact absurd houtcome (by simp)

/-! What `enrol` makes of a reply, by its status and its body. -/

omit [Runtime] in
theorem tryJson_of_json {r : Reply} {data : Json} (hjson : r.json = .ok data) :
    r.tryJson = .ok (some data) := by
  unfold Reply.tryJson
  rw [hjson]

omit [Runtime] in
/-- The body was read exactly when it is there after the `try`. -/
theorem json_of_tryJson {r : Reply} {data : Json} (h : r.tryJson = .ok (some data)) :
    r.json = .ok data := by
  unfold Reply.tryJson at h
  cases hjson : r.json with
  | ok body =>
    simp only [hjson, Except.ok.injEq, Option.some.injEq] at h
    rw [h]
  | error err =>
    simp only [hjson] at h
    split at h <;> exact absurd h (by simp)

omit [Runtime] in
/-- A body that is no JSON is not, and nothing is raised. -/
theorem tryJson_of_valueError {r : Reply} {err : Exc} (hjson : r.json = .error err)
    (hcls : err.cls = .valueError) : r.tryJson = .ok none := by
  unfold Reply.tryJson
  simp only [hjson, if_pos hcls]

omit [Runtime] in
theorem tryJson_of_recursionError {r : Reply} {err : Exc} (hjson : r.json = .error err)
    (hcls : err.cls = .recursionError) : r.tryJson = .error err := by
  have hnot : err.cls ≠ .valueError := by simp [hcls]
  unfold Reply.tryJson
  simp only [hjson, if_neg hnot]

omit [Runtime] in
/-- Where there is no body an empty object stands for it. -/
theorem bodyOf_of_tryJson {r : Reply} {body : Option Json} (h : r.tryJson = .ok body) :
    bodyOf r = .ok (body.getD (.obj [])) := by
  unfold bodyOf
  rw [h]
  rfl

omit [Runtime] in
theorem bodyOf_of_raised {r : Reply} {err : Exc} (h : r.tryJson = .error err) :
    bodyOf r = .error err := by
  unfold bodyOf
  rw [h]
  rfl

/-- A good answer with a body: the key in it, or else a word that there was none. -/
theorem enrolled_of_json {r : Reply} {data : Json} (hok : r.ok = true)
    (h : r.tryJson = .ok (some data)) :
    enrolled r = (issuedKey data).map
      fun v => (if v.truthy then .issued v else .unknownField, 0) := by
  unfold enrolled
  rw [if_pos hok, h]
  show (do let issued ← issuedKey data; pure _) = _
  cases issuedKey data <;> rfl

/-- A good answer that is no JSON ends with 0, and no key. -/
theorem enrolled_of_not_json {r : Reply} (hok : r.ok = true) (h : r.tryJson = .ok none) :
    enrolled r = .ok (.notJson, 0) := by
  unfold enrolled
  rw [if_pos hok, h]
  rfl

theorem enrolled_of_raised {r : Reply} {err : Exc} (hok : r.ok = true)
    (h : r.tryJson = .error err) : enrolled r = .error err := by
  unfold enrolled
  rw [if_pos hok, h]
  rfl

theorem interpret_of_raised {r : Reply} {err : Exc} (h : r.tryJson = .error err) :
    interpret r = .error err := by
  unfold interpret
  rw [bodyOf_of_raised h]
  rfl

theorem enrolled_bad_reply {r : Reply} (hok : ¬ r.ok = true) :
    enrolled r = (interpret r).map fun outcome => (.refused outcome, 1) := by
  unfold enrolled
  rw [if_neg hok]
  cases interpret r <;> rfl

/-- A good answer: `probe` looks for the key where `enrol` takes it from. -/
theorem foretells_good_reply {r : Reply} (hok : r.ok = true) :
    Foretells (probed r) (enrolled r) := by
  have hcode : exitCode r = 0 := if_pos hok
  have hprobed : ∀ {body}, r.tryJson = .ok body → probed r =
      (issuedKey (body.getD (.obj []))).map
        fun v => (if v.truthy then .success else .noKeyField, 0) := by
    intro body hbody
    unfold probed interpret
    simp only [if_pos hok, hcode, bodyOf_of_tryJson hbody]
    show (do let outcome ← (do let v ← issuedKey (body.getD (.obj [])); pure _); pure _) = _
    cases issuedKey (body.getD (.obj [])) <;> rfl
  cases hbody : r.tryJson with
  | error err =>
    -- neither catches it
    have hraised : probed r = .error err := by
      unfold probed
      rw [interpret_of_raised hbody]
      rfl
    rw [hraised, enrolled_of_raised hok hbody]
    exact ⟨rfl, by simp, by simp⟩
  | ok body =>
    rw [hprobed hbody]
    cases body with
    | none =>
      have hnone : issuedKey ((none : Option Json).getD (.obj [])) = .ok .null :=
        firstOf_obj [] KEY_FIELDS
      rw [hnone, enrolled_of_not_json hok hbody]
      exact ⟨rfl, by simp [Except.map, Json.truthy], by simp⟩
    | some data =>
      rw [Option.getD_some, enrolled_of_json hok hbody]
      cases issuedKey data with
      | error err => exact ⟨rfl, by simp [Except.map], by simp [Except.map]⟩
      | ok v =>
        cases htruthy : v.truthy with
        | true => exact ⟨rfl, by simp [Except.map, htruthy], by simp [Except.map, htruthy]⟩
        | false => exact ⟨rfl, by simp [Except.map, htruthy], by simp [Except.map, htruthy]⟩

/-- A bad answer: both have it interpreted. -/
theorem foretells_bad_reply {r : Reply} (hok : ¬ r.ok = true) :
    Foretells (probed r) (enrolled r) := by
  have hcode : exitCode r = 1 := if_neg hok
  have hprobed : probed r = (interpret r).map fun outcome => (outcome, 1) := by
    unfold probed
    rw [hcode]
    cases interpret r <;> rfl
  have hfailed : interpret r ≠ .ok .success := fun h => hok ((interpret_success_iff r).mp h).1
  rw [hprobed, enrolled_bad_reply hok]
  cases houtcome : interpret r with
  | error err => exact ⟨rfl, by simp [Except.map], by simp [Except.map]⟩
  | ok outcome =>
    rw [houtcome] at hfailed
    have hne : outcome ≠ .success := fun h => hfailed (congrArg Except.ok h)
    exact ⟨rfl, by simp [Except.map, hne], by simp [Except.map]⟩

/-- Any answer. -/
theorem foretells_reply (r : Reply) : Foretells (probed r) (enrolled r) := by
  by_cases hok : r.ok = true
  · exact foretells_good_reply hok
  · exact foretells_bad_reply hok

/-- The answer that is taken for a success: a good one, an object, whose first key field
holds a value that counts as true. -/
def IssuesKey (r : Reply) : Prop :=
  r.ok = true ∧ ∃ fields key, r.json = .ok (.obj fields) ∧
    (KEY_FIELDS.findSome? fun key => fields.lookup key) = some key ∧ key.truthy = true

theorem interpret_success_iff_issuesKey (r : Reply) :
    interpret r = .ok .success ↔ IssuesKey r := by
  rw [interpret_success_iff]
  simp only [issuedKey_truthy_iff]
  refine and_congr_right fun _ => ⟨?_, ?_⟩
  · rintro ⟨body, hbody, fields, v, rfl, hfind, htruthy⟩
    obtain ⟨found, hfound, hobj⟩ := bind_eq_ok.mp hbody
    cases found with
    | none =>
      -- the empty object in place of a body has no key field
      rw [← Json.obj.inj (pure_eq_ok.mp hobj)] at hfind
      exact absurd hfind (by simp [KEY_FIELDS])
    | some data =>
      have hdata : data = .obj fields := pure_eq_ok.mp hobj
      exact ⟨fields, v, hdata ▸ json_of_tryJson hfound, hfind, htruthy⟩
  · rintro ⟨fields, v, hjson, hfind, htruthy⟩
    exact ⟨.obj fields, bodyOf_of_tryJson (tryJson_of_json hjson), fields, v, rfl, hfind, htruthy⟩

theorem probed_success_iff (r : Reply) :
    (∃ code, probed r = .ok (.success, code)) ↔ IssuesKey r := by
  rw [← interpret_success_iff_issuesKey]
  simp only [probed, bind_eq_ok, pure_eq_ok, Prod.mk.injEq]
  constructor
  · rintro ⟨_, outcome, houtcome, rfl, -⟩
    exact houtcome
  · exact fun h => ⟨exitCode r, .success, h, rfl, rfl⟩

omit [Runtime] in
theorem no_api_key (pairingKey : Option String) (value : String) :
    ("X-Api-Key", value) ∉ session none pairingKey := by
  cases pairingKey with
  | none => simp [session, header]
  | some key =>
    unfold session header
    split <;> simp

/-- **What `probe` finds, `enrol` gets.** Against one panel, in any state, `probe` and
`enrol` without an api key ask the same, once, and never with an api key; they end with the
same exit code or in the same exception, what `enrol` is refused for is what `probe` says,
and `probe` reports success exactly when `enrol` prints an issued key. -/
theorem probe_foretells_enrol (args : Args) {σ : Type} (serve : σ → Call → Except Exc Reply × σ)
    (s : σ) :
    let p := probe args
    let e := enrol { args with apiKey := none }
    p.transcript serve s = e.transcript serve s ∧ (p.transcript serve s).length = 1 ∧
      (p.run serve s).2 = (e.run serve s).2 ∧
      (∀ qa ∈ p.transcript serve s, ∀ value, ("X-Api-Key", value) ∉ qa.1.headers) ∧
      Foretells (p.run serve s).1 (e.run serve s).1 ∧
      ((∃ code, (p.run serve s).1 = .ok (.success, code)) ↔
        ∃ r, p.transcript serve s = [(args.enrolCall none, .ok r)] ∧ IssuesKey r) := by
  intro p e
  have hheaders : ∀ value, ("X-Api-Key", value) ∉ (args.enrolCall none).headers :=
    fun value => no_api_key args.pairingKey value
  have hp : p.transcript serve s = [(args.enrolCall none, (serve s (args.enrolCall none)).1)] ∧
      p.run serve s = ((serve s (args.enrolCall none)).1.bind probed,
        (serve s (args.enrolCall none)).2) := request_once probed
  have he : e.transcript serve s = [(args.enrolCall none, (serve s (args.enrolCall none)).1)] ∧
      e.run serve s = ((serve s (args.enrolCall none)).1.bind enrolled,
        (serve s (args.enrolCall none)).2) := request_once enrolled
  rw [hp.1, hp.2, he.1, he.2]
  refine ⟨rfl, rfl, rfl, ?_, ?_⟩
  · intro qa hqa
    rw [List.mem_singleton.mp hqa]
    exact hheaders
  cases (serve s (args.enrolCall none)).1 with
  | ok r =>
    refine ⟨foretells_reply r, ?_⟩
    show (∃ code, probed r = .ok (.success, code)) ↔ _
    rw [probed_success_iff]
    refine ⟨fun h => ⟨r, rfl, h⟩, ?_⟩
    rintro ⟨r', hr', h⟩
    simp only [List.cons.injEq, Prod.mk.injEq, Except.ok.injEq, and_true, true_and] at hr'
    rw [hr']
    exact h
  | error err => exact ⟨⟨rfl, by simp [Except.bind], by simp [Except.bind]⟩, by simp [Except.bind]⟩

end

end Gc3.Tools.Pair
