import Gc3.Pygc3.Models

/-!
# `pygc3.client`

The client over an arbitrary panel: a request is a record, and the network is a function
from requests to exchanges (`Exchange`), each of which either fails to open or is
answered with a status and a body that may in turn fail to be read. Sessions, TLS and
time-outs have no counterpart here; a time-out shows up as the exception it raises.

The two `except` clauses of `_request` are two functions, `safeMessage` for the inner
one and `guardConnection` for the outer, so that a result about a failed exchange can be
stated about the one that is at fault. What an exchange may raise is part of its type:
`Exchange.failed` carries that the outer clause catches it, and a `Response` that its
`json` raises one of `jsonRaises`. The last of these is `RecursionError`, which
`json.loads` raises on JSON nested too deep and which no clause names; so a body is
related to its exchange by `Exchange.Holds`, which allows for it, and not read off it.

Every method is its `_request` call followed by a parser of `Gc3.Pygc3.Models`. Those that
name a partition first turn it into a query parameter, which yarl does inside that call and
refuses to do for a boolean (`Partition.query`): a `TypeError` then, and no request.
-/

namespace Gc3.Pygc3

open Gc3.Py

/-! ## The wire -/

/-- What `session.request` is called with. -/
structure Request where
  method : String
  url : String
  json : Option Json
  params : Option (List (String × Json))
  headers : List (String × String)

/-- The classes `resp.json(content_type=None)` raises. The last is for a body that is
JSON, and nested deeper than `json.loads` goes. -/
def jsonRaises : List ExcClass :=
  [.contentTypeError, .valueError, .clientError, .timeoutError, .recursionError]

/-- An answer from the panel: its status, and what reading the body as JSON and
as text comes to. -/
structure Response where
  status : Nat
  json : Except Exc Json
  text : Except Exc String
  json_raises : ∀ err, json = .error err → err.cls ∈ jsonRaises

/-- `(TimeoutError, aiohttp.ClientError)` -/
def Exc.isConnectionFailure (err : Exc) : Bool := err.cls == .timeoutError || err.isClientError

/-- One exchange with the panel: the request could not be opened, or was answered. -/
inductive Exchange
  | failed (err : Exc) (h : Exc.isConnectionFailure err = true)
  | answered (resp : Response)

/-- An answer whose body is read as the JSON value `body`. -/
def Exchange.ofJson (status : Nat) (body : Json) : Exchange :=
  .answered ⟨status, .ok body, .ok "", by simp⟩

/-- An answer whose body holds the JSON value `body`: either it is read as that, or it is
nested too deep to be read at all. An empty body holds `null`. -/
inductive Exchange.Holds (status : Nat) (body : Json) : Exchange → Prop
  | read {resp : Response} (hstatus : resp.status = status) (hjson : resp.json = .ok body) :
      Exchange.Holds status body (.answered resp)
  | tooDeep {resp : Response} {err : Exc} (hstatus : resp.status = status)
      (hjson : resp.json = .error err) (hcls : err.cls = .recursionError) :
      Exchange.Holds status body (.answered resp)

/-- `resp.json()` returns. -/
def Exchange.Readable : Exchange → Prop
  | .failed _ _ => False
  | .answered resp => ∃ body, resp.json = .ok body

/-! ## The core request -/

section

variable [Runtime]

/-- The readable part of a JSON body: its `message` field if that says anything. -/
def messageOf : Json → String
  | .obj fields => ((Json.field fields "message").or (.obj fields)).pyStr
  | data => data.pyStr

/-- Best-effort human-readable body for error paths. -/
def safeMessage (resp : Response) : Except Exc String :=
  match resp.json with
  | .ok data => .ok (messageOf data)
  | .error err =>
    if err.cls = .contentTypeError ∨ err.cls = .valueError ∨ err.isClientError then
      match resp.text with
      | .ok text => .ok (String.ofList (text.toList.take 200))
      | .error err => if err.isException then .ok "" else .error err
    else .error err

/-- The body of the `async with`: what becomes of an answer before the outer
`except` sees it. -/
def readAnswer (method path : String) (resp : Response) : Except Raised Json :=
  if resp.status = 403 then do
    let message ← escape (safeMessage resp)
    .error (.gc3 (.auth (if message = "" then "Invalid API key" else message)))
  else if 400 ≤ resp.status then do
    let message ← escape (safeMessage resp)
    .error (.gc3 (.response (method ++ " " ++ path ++ " -> HTTP " ++ toString resp.status ++ ": "
      ++ message) (some resp.status)))
  else
    match resp.json with
    | .ok data => .ok data
    | .error err =>
      if err.cls = .contentTypeError ∨ err.cls = .valueError then
        .error (.gc3 (.response (method ++ " " ++ path ++ ": response was not JSON")
          (some resp.status)))
      else .error (.py err)

/-- The outer `except (TimeoutError, aiohttp.ClientError)`. -/
def guardConnection (method path : String) : Except Raised Json → Except Raised Json
  | .error (.py err) =>
    if Exc.isConnectionFailure err then
      .error (.gc3 (.connection (method ++ " " ++ path ++ ": " ++ err.text)))
    else .error (.py err)
  | r => r

/-- `GC3Client._request`, once the session has turned the request into an exchange. -/
def requestOver (method path : String) : Exchange → Except Raised Json
  | .failed err _ => guardConnection method path (.error (.py err))
  | .answered resp => guardConnection method path (readAnswer method path resp)

/-! ## The client -/

/-- A partition: a number, or a boolean, which is an `int` too and is kept as it is. -/
inductive Partition
  | number (n : Int)
  | flag (b : Bool)
  deriving DecidableEq, Repr

namespace Partition

/-- As a field of a JSON body. -/
def json : Partition → Json
  | .number n => .int n
  | .flag b => .bool b

/-- `str(partition)` -/
def text : Partition → String
  | .number n => toString n
  | .flag true => "True"
  | .flag false => "False"

/-- As a query parameter. yarl takes a number, and no boolean. -/
def query : Partition → Except Exc Json
  | .number n => .ok (.int n)
  | .flag b => .error ⟨.typeError,
      "Invalid variable type: value should be str, int or float, got " ++ (Partition.flag b).text
        ++ " of type <class 'bool'>"⟩

/-- The partition is no boolean. -/
def IsNumber (p : Partition) : Prop := ∃ n, p = .number n

end Partition

/-- What the constructor keeps. -/
structure GC3Client where
  base : String
  pairingKey : String
  apiKey : Option String
  partition : Partition

/-- The network, as the client sees it. -/
abbrev Panel := Request → Exchange

namespace GC3Client

/-- `GC3Client(host, pairing_key, api_key, port=…, partition=…)` -/
def new (host pairingKey : String) (apiKey : Option String) (port : Int) (partition : Partition) :
    GC3Client where
  base := "https://" ++ host ++ ":" ++ toString port
  pairingKey := pairingKey
  apiKey := apiKey
  partition := partition

/-- The api key is left out when there is none, or an empty one. -/
def headers (c : GC3Client) : List (String × String) :=
  [("X-Pairing-Key", c.pairingKey), ("Content-Type", "application/json")] ++
    match c.apiKey with
    | some key => if key = "" then [] else [("X-Api-Key", key)]
    | none => []

def request (c : GC3Client) (panel : Panel) (method path : String) (jsonBody : Option Json)
    (params : Option (List (String × Json))) : Except Raised Json :=
  requestOver method path (panel ⟨method, c.base ++ path, jsonBody, params, c.headers⟩)

/-- `partition or self._partition` -/
def partitionOr (c : GC3Client) : Option Int → Partition
  | some p => if p = 0 then c.partition else .number p
  | none => c.partition

/-- `GET /api/v1/status` -/
def status (c : GC3Client) (panel : Panel) : Except Raised PanelStatus := do
  escape (PanelStatus.fromJson (← c.request panel "GET" "/api/v1/status" none none))

/-- `[Zone.from_json(z) for z in data]` -/
def parseZones : List Json → Except Exc (List (Zone Json))
  | [] => .ok []
  | z :: rest => do return (← Zone.fromJson z) :: (← parseZones rest)

/-- `[z for z in parsed if not z.is_console]` -/
def dropConsole : List (Zone Json) → Except Exc (List (Zone Json))
  | [] => .ok []
  | z :: rest => do
    let console ← z.isConsole
    let kept ← dropConsole rest
    return if console then kept else z :: kept

/-- `GET /api/v1/zones`. Console/zone-0 filtered out unless asked for. -/
def zones (c : GC3Client) (panel : Panel) (includeConsole : Bool) :
    Except Raised (List (Zone Json)) := do
  match ← c.request panel "GET" "/api/v1/zones" none none with
  | .arr data =>
    let parsed ← escape (parseZones data)
    if includeConsole then return parsed
    else escape (dropConsole parsed)
  | _ => .error (.gc3 (.response "zones: expected a JSON array" none))

/-- `GET /api/v1/pair` -- the controller currently enrolled. -/
def getPairing (c : GC3Client) (panel : Panel) (partition : Option Int) :
    Except Raised Pairing := do
  -- `session.request` raises for a boolean, and sends nothing
  let part ← escape (c.partitionOr partition).query
  let params := [("partition", part)]
  escape (Pairing.fromJson (← c.request panel "GET" "/api/v1/pair" none (some params)))

/-- Arm the panel. Each flag is one flag of the request; none of them says *night*. -/
def arm (c : GC3Client) (panel : Panel)
    (stay noEntryDelay noExitDelay bypassNotReady silent : Json) (partition : Option Int) :
    Except Raised Json := do
  let part := c.partitionOr partition
  let body := Json.obj [("partition", part.json), ("armStay", stay), ("noExitDelay", noExitDelay),
    ("noEntryDelay", noEntryDelay), ("bypassNotReadyZones", bypassNotReady),
    ("silentEntryExit", silent)]
  let query ← escape part.query
  c.request panel "POST" "/api/v1/actions/panel/arm" (some body) (some [("partition", query)])

/-- Disarm with a user PIN. -/
def disarm (c : GC3Client) (panel : Panel) (pin : Json) (partition : Option Int) :
    Except Raised Json := do
  let part := c.partitionOr partition
  let body := Json.obj [("userPIN", pin), ("partition", part.json)]
  let query ← escape part.query
  c.request panel "POST" "/api/v1/actions/panel/disarm" (some body) (some [("partition", query)])

/-- For a boolean `arm` raises, whatever the panel would say. -/
theorem arm_flag {c : GC3Client} {b : Bool} {partition : Option Int}
    (h : c.partitionOr partition = .flag b) (panel : Panel)
    (stay noEntryDelay noExitDelay bypassNotReady silent : Json) :
    ∃ err, c.arm panel stay noEntryDelay noExitDelay bypassNotReady silent partition
      = .error (.py err) := by
  unfold arm
  rw [h]
  exact ⟨_, rfl⟩

/-- And so does `disarm`. -/
theorem disarm_flag {c : GC3Client} {b : Bool} {partition : Option Int}
    (h : c.partitionOr partition = .flag b) (panel : Panel) (pin : Json) :
    ∃ err, c.disarm panel pin partition = .error (.py err) := by
  unfold disarm
  rw [h]
  exact ⟨_, rfl⟩

/-- Enrol this controller: `POST /api/v1/pair`. It takes no api key to ask. -/
def pair (c : GC3Client) (panel : Panel) (deviceName : String)
    (allPartitionAccess isSecurityDevice : Bool) (partition : Option Int) : Except Raised Json :=
  let body := Json.obj [("deviceName", .str deviceName),
    ("allPartitionAccess", .bool allPartitionAccess), ("isSecurityDevice", .bool isSecurityDevice),
    ("memberOfPartition", .str (c.partitionOr partition).text)]
  c.request panel "POST" "/api/v1/pair" (some body) none

end GC3Client

end

end Gc3.Pygc3
