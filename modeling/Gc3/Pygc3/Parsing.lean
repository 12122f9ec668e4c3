import Gc3.Pygc3.Client
import Gc3.Lib.Fallible
import Gc3.Lib.Pointwise
import Gc3.Py.Latin1

/-!
# Which bodies the reads can parse

`status`, `zones` and `get_pairing` promise models or a `GC3Error`. `zones` keeps that
promise for a body that is no array, and nothing else checks a shape: a body, a zone or
a zone's `status` that is no dict fails at its first `.get` with an `AttributeError`, a
serial that is no number fails in `int()`, and a name that is no string is stored as it
is, or fails in the console filter. And a body that is nested too deep, wherever in it
the nesting sits, is not read at all: `resp.json()` raises `RecursionError`, and no
clause of `_request` catches that (`request_tooDeep`).

`reads_answered_iff` puts this together: what a body must look like for each of the
three calls to keep its promise, no more and no less, for every exchange that holds it.

The proof goes up the call graph. `panelStatus_fromJson_ok_iff`,
`zoneStatus_fromJson_ok_iff`, `zone_fromJson_ok_iff` and `pairing_fromJson_ok_iff` say
on which values one parser returns, each from `isObj_of_get_bind`; `parseZones_ok_iff`
and `dropConsole_eq_ok_iff` lift the zone parser and the name test to lists; and the
reads are these behind `request_answered`.
-/

namespace Gc3.Pygc3

open Gc3.Py Fallible

/-- The call returned something `good`, or raised `GC3ResponseError`. -/
def Answered {α : Type} (good : α → Prop) : Except Raised α → Prop
  | .ok a => good a
  | .error (.gc3 (.response _ _)) => True
  | .error _ => False

/-- A parser raises nothing of the client's own, so a call that ends in one keeps its
promise only by returning. -/
theorem answered_escape {α : Type} (good : α → Prop) (r : Except Exc α) :
    Answered good (escape r) ↔ ∃ a, r = .ok a ∧ good a := by
  cases r with
  | ok a => simp [Answered]
  | error err => simp [Answered]

/-- The dict a zone's `status` is read from. -/
def statusObject (fields : List (String × Json)) : Json :=
  (Json.field fields "status").or (.obj [])

/-- A `status` with nothing to it reads as an empty dict; any other has to be one. -/
theorem statusObject_isObj_iff (fields : List (String × Json)) :
    (statusObject fields).IsObj ↔
      ((Json.field fields "status").truthy = true → (Json.field fields "status").IsObj) := by
  unfold statusObject Json.or
  by_cases h : (Json.field fields "status").truthy = true
  · simp [h]
  · simp only [if_neg h]
    exact iff_of_true ⟨[], rfl⟩ fun ht => absurd ht h

/-- A parser that begins with a `.get` returns on dicts only. -/
theorem isObj_of_get_bind {α : Type} {v : Json} {key : String} {f : Json → Except Exc α} {a : α}
    (h : (v.get key >>= f) = .ok a) : v.IsObj := by
  by_contra hobj
  obtain ⟨text, hget⟩ := Json.get_error hobj key
  obtain ⟨field, hfield, -⟩ := bind_eq_ok.mp h
  rw [hget] at hfield
  exact absurd hfield (by simp)

section

variable [Runtime]

/-! ## One dict -/

theorem panelStatus_fromJson_obj (fields : List (String × Json)) :
    PanelStatus.fromJson (.obj fields) = .ok {
      armState := lower ((Json.field fields "armState").or (.str "")).pyStr
      isArmedStay := asBool (Json.field fields "isArmedStay")
      raw := .obj fields } := rfl

/-- `PanelStatus.from_json` returns on dicts, and on nothing else. -/
theorem panelStatus_fromJson_ok_iff (v : Json) :
    (∃ status, PanelStatus.fromJson v = .ok status) ↔ v.IsObj := by
  constructor
  · intro ⟨status, h⟩
    exact isObj_of_get_bind h
  · intro ⟨fields, hv⟩
    rw [hv]
    exact ⟨_, panelStatus_fromJson_obj fields⟩

/-- `Pairing.from_json` returns on dicts, and on nothing else. -/
theorem pairing_fromJson_ok_iff (v : Json) :
    (∃ pairing, Pairing.fromJson v = .ok pairing) ↔ v.IsObj := by
  constructor
  · intro ⟨pairing, h⟩
    exact isObj_of_get_bind h
  · intro ⟨fields, hv⟩
    rw [hv]
    exact ⟨_, rfl⟩

/-- `ZoneStatus.from_json` returns on dicts, and on nothing else. -/
theorem zoneStatus_fromJson_ok_iff (v : Json) :
    (∃ status, ZoneStatus.fromJson v = .ok status) ↔ v.IsObj := by
  constructor
  · intro ⟨status, h⟩
    exact isObj_of_get_bind h
  · intro ⟨fields, hv⟩
    rw [hv]
    exact ⟨_, rfl⟩

/-- Every flag of a parsed `status` object is `_as_bool` of its own key. -/
theorem zoneStatus_inAlarm {v : Json} {status : ZoneStatus}
    (h : ZoneStatus.fromJson v = .ok status) :
    ∃ fields, v = .obj fields ∧ status.inAlarm = asBool (Json.field fields "inAlarm") := by
  obtain ⟨fields, hv⟩ := (zoneStatus_fromJson_ok_iff v).mp ⟨status, h⟩
  rw [hv] at h
  have hok := Except.ok.inj h
  exact ⟨fields, hv, by rw [← hok]⟩

/-! ## One zone -/

/-- A serial converts when it is missing, or `int()` takes it. -/
theorem serialOf_ok_iff (v : Json) :
    (∃ serial, serialOf v = .ok serial) ↔ v = .null ∨ v.IsInt := by
  unfold serialOf Json.IsInt
  cases v with
  | null => simp
  | _ =>
    have hmap : ∀ r : Except Exc Int, (∃ serial, some <$> r = .ok serial) ↔ ∃ n, r = .ok n := by
      intro r
      simp only [map_eq_ok]
      exact ⟨fun ⟨_, n, hn, _⟩ => ⟨n, hn⟩, fun ⟨n, hn⟩ => ⟨some n, n, hn, rfl⟩⟩
    simpa using hmap _

/-- What a parsed zone holds, as far as anything downstream looks. -/
theorem zone_fromJson_fields {fields : List (String × Json)} {z : Zone Json}
    (h : Zone.fromJson (.obj fields) = .ok z) :
    z.id = (Json.field fields "id").pyStr ∧
      z.name = (Json.field fields "voiceDescriptor").or
        (.str ("Zone " ++ (Json.field fields "id").pyStr)) ∧
      ZoneStatus.fromJson (statusObject fields) = .ok z.status := by
  unfold Zone.fromJson at h
  simp only [Json.get_obj, bind_eq_ok, pure_eq_ok, Except.ok.injEq, exists_eq_left'] at h
  obtain ⟨serial, hserial, status, hstatus, hz⟩ := h
  rw [← hz]
  exact ⟨rfl, rfl, hstatus⟩

/-- `Zone.from_json` returns exactly on the dicts whose serial converts and whose
`status`, if there is anything to it, is a dict. -/
theorem zone_fromJson_ok_iff (v : Json) :
    (∃ z, Zone.fromJson v = .ok z) ↔
      ∃ fields, v = .obj fields ∧
        (Json.field fields "deviceSerialNumber" = .null ∨
          (Json.field fields "deviceSerialNumber").IsInt) ∧
        ((Json.field fields "status").truthy = true → (Json.field fields "status").IsObj) := by
  constructor
  · intro ⟨z, h⟩
    obtain ⟨fields, hv⟩ := isObj_of_get_bind h
    subst hv
    have hstatus := (zone_fromJson_fields h).2.2
    unfold Zone.fromJson at h
    simp only [Json.get_obj, bind_eq_ok, Except.ok.injEq, exists_eq_left'] at h
    obtain ⟨serial, hserial, -⟩ := h
    refine ⟨fields, rfl, (serialOf_ok_iff _).mp ⟨serial, hserial⟩, ?_⟩
    exact (statusObject_isObj_iff fields).mp ((zoneStatus_fromJson_ok_iff _).mp ⟨_, hstatus⟩)
  · intro ⟨fields, hv, hserial, hstatus⟩
    subst hv
    obtain ⟨serial, hserial⟩ := (serialOf_ok_iff _).mpr hserial
    rw [← statusObject_isObj_iff, ← zoneStatus_fromJson_ok_iff] at hstatus
    obtain ⟨status, hstatus⟩ := hstatus
    unfold statusObject at hstatus
    unfold Zone.fromJson
    simp only [Json.get_obj, bind_eq_ok, Except.ok.injEq, exists_eq_left']
    exact ⟨_, serial, hserial, status, hstatus, rfl⟩

/-! ## The zone list -/

/-- The comprehension is a `mapM`: it stops at the first zone that raises. -/
theorem parseZones_eq_mapM (data : List Json) :
    GC3Client.parseZones data = data.mapM Zone.fromJson := by
  induction data with
  | nil => rfl
  | cons v data ih =>
    rw [List.mapM_cons, ← ih]
    rfl

theorem dropConsole_cons (z : Zone Json) (zones : List (Zone Json)) :
    GC3Client.dropConsole (z :: zones) = (do
      let console ← z.isConsole
      let kept ← GC3Client.dropConsole zones
      return if console then kept else z :: kept) := rfl

/-- Parsing an array parses its elements one by one. -/
theorem parseZones_ok_iff {data : List Json} {zones : List (Zone Json)} :
    GC3Client.parseZones data = .ok zones ↔
      List.Forall₂ (fun v z => Zone.fromJson v = .ok z) data zones := by
  rw [parseZones_eq_mapM, mapM_eq_ok_iff]

/-- The console test raises only on a name that is no string, and past the id test. -/
theorem isConsole_ok_iff (z : Zone Json) :
    (∃ console, z.isConsole = .ok console) ↔ (z.id ≠ "0" → z.name.IsStr) := by
  unfold Zone.isConsole
  by_cases hid : z.id = "0"
  · simp [hid]
  · simp only [if_neg hid]
    cases hname : z.name with
    | str name => simp [Json.IsStr]
    | _ => simp [Json.IsStr, hid]

/-- The console filter returns when every test does, and keeps the zones whose
test came out false. -/
theorem dropConsole_eq_ok_iff {zones kept : List (Zone Json)} :
    GC3Client.dropConsole zones = .ok kept ↔
      (∀ z ∈ zones, ∃ console, z.isConsole = .ok console) ∧
        kept = zones.filter (·.isConsole = .ok false) := by
  induction zones generalizing kept with
  | nil => simp [GC3Client.dropConsole, eq_comm]
  | cons z zones ih =>
    rw [dropConsole_cons, List.forall_mem_cons]
    simp only [bind_eq_ok, pure_eq_ok, ih]
    cases hz : z.isConsole with
    | error err => simp
    | ok console => cases console <;> simp [hz, eq_comm]

/-- What the filter keeps: the zones that are tested and not the console. -/
theorem mem_of_dropConsole {zones kept : List (Zone Json)}
    (h : GC3Client.dropConsole zones = .ok kept) (z : Zone Json) :
    z ∈ kept ↔ z ∈ zones ∧ z.isConsole = .ok false := by
  rw [(dropConsole_eq_ok_iff.mp h).2, List.mem_filter, decide_eq_true_iff]

/-- The filter returns when every zone that it has to test by name has a string for it.
-/
theorem dropConsole_ok_iff (zones : List (Zone Json)) :
    (∃ kept, GC3Client.dropConsole zones = .ok kept) ↔
      ∀ z ∈ zones, z.id ≠ "0" → z.name.IsStr := by
  simp only [dropConsole_eq_ok_iff, isConsole_ok_iff]
  exact ⟨fun ⟨_, hall, _⟩ => hall, fun hall => ⟨_, hall, rfl⟩⟩

/-! ## The three reads -/

/-- A zone object `zones(include_console=…)` gets through with a string for its
name: the serial converts, `status` is a dict or falsy, and the name is a string
or falsy — or never looked at, in a zone 0 about to be dropped. -/
def ZoneObject (includeConsole : Bool) (v : Json) : Prop :=
  ∃ fields, v = .obj fields ∧
    (Json.field fields "deviceSerialNumber" = .null ∨
      (Json.field fields "deviceSerialNumber").IsInt) ∧
    ((Json.field fields "status").truthy = true → (Json.field fields "status").IsObj) ∧
    ((Json.field fields "voiceDescriptor").truthy = true →
      (Json.field fields "voiceDescriptor").IsStr ∨
        includeConsole = false ∧ (Json.field fields "id").pyStr = "0")

/-- A parsed name is a string when the `voiceDescriptor` is one, or is falsy and
replaced. -/
theorem zone_name_isStr_iff {fields : List (String × Json)} {z : Zone Json}
    (h : Zone.fromJson (.obj fields) = .ok z) :
    z.name.IsStr ↔ ((Json.field fields "voiceDescriptor").truthy = true →
      (Json.field fields "voiceDescriptor").IsStr) := by
  rw [(zone_fromJson_fields h).2.1]
  unfold Json.or
  by_cases ht : (Json.field fields "voiceDescriptor").truthy = true
  · simp [ht]
  · simp only [if_neg ht]
    exact iff_of_true ⟨_, rfl⟩ fun h => absurd h ht

/-- A zone object is one that parses to a zone whose name, unless the filter
drops the zone unread, is a string. -/
theorem zoneObject_iff (includeConsole : Bool) (v : Json) :
    ZoneObject includeConsole v ↔
      ∃ z, Zone.fromJson v = .ok z ∧ (z.name.IsStr ∨ includeConsole = false ∧ z.id = "0") := by
  unfold ZoneObject
  constructor
  · intro ⟨fields, hv, hserial, hstatus, hname⟩
    obtain ⟨z, hz⟩ := (zone_fromJson_ok_iff v).mpr ⟨fields, hv, hserial, hstatus⟩
    refine ⟨z, hz, ?_⟩
    rw [hv] at hz
    rw [zone_name_isStr_iff hz, (zone_fromJson_fields hz).1]
    by_cases ht : (Json.field fields "voiceDescriptor").truthy = true
    · rcases hname ht with hs | h0
      · exact Or.inl fun _ => hs
      · exact Or.inr h0
    · exact Or.inl fun h => absurd h ht
  · intro ⟨z, hz, hname⟩
    obtain ⟨fields, hv, hserial, hstatus⟩ := (zone_fromJson_ok_iff v).mp ⟨z, hz⟩
    refine ⟨fields, hv, hserial, hstatus, fun ht => ?_⟩
    rw [hv] at hz
    rw [zone_name_isStr_iff hz, (zone_fromJson_fields hz).1] at hname
    rcases hname with hs | h0
    · exact Or.inl (hs ht)
    · exact Or.inr h0

/-- Below 400 a body that can be read is what `_request` returns. -/
theorem request_answered (client : GC3Client) {resp : Response} (hstatus : resp.status < 400)
    {body : Json} (hjson : resp.json = .ok body) (method path : String) (jsonBody : Option Json)
    (params : Option (List (String × Json))) :
    client.request (fun _ => .answered resp) method path jsonBody params = .ok body := by
  have h403 : resp.status ≠ 403 := by omega
  have h400 : ¬ 400 ≤ resp.status := by omega
  unfold GC3Client.request requestOver readAnswer
  simp only [if_neg h403, if_neg h400, hjson]
  rfl

/-- And one too deep to be read ends the request in its `RecursionError`, which neither
`except` catches. -/
theorem request_tooDeep (client : GC3Client) {resp : Response} (hstatus : resp.status < 400)
    {err : Exc} (hjson : resp.json = .error err) (hcls : err.cls = .recursionError)
    (method path : String) (jsonBody : Option Json) (params : Option (List (String × Json))) :
    client.request (fun _ => .answered resp) method path jsonBody params = .error (.py err) := by
  have h403 : resp.status ≠ 403 := by omega
  have h400 : ¬ 400 ≤ resp.status := by omega
  have hbody : ¬ (err.cls = .contentTypeError ∨ err.cls = .valueError) := by simp [hcls]
  have hconn : Exc.isConnectionFailure err = false := by
    simp [Exc.isConnectionFailure, Exc.isClientError, hcls]
  unfold GC3Client.request requestOver readAnswer
  simp only [if_neg h403, if_neg h400, hjson, if_neg hbody, guardConnection, hconn]
  rfl

/-- `status` is its parser, on a body that could be read. -/
theorem status_answered (client : GC3Client) {resp : Response} (hstatus : resp.status < 400)
    {body : Json} (hjson : resp.json = .ok body) :
    client.status (fun _ => .answered resp) = escape (PanelStatus.fromJson body) := by
  unfold GC3Client.status
  rw [request_answered client hstatus hjson]
  rfl

theorem status_ofJson (client : GC3Client) {code : Nat} (hcode : code < 400) (body : Json) :
    client.status (fun _ => .ofJson code body) = escape (PanelStatus.fromJson body) := by
  unfold Exchange.ofJson
  exact status_answered client hcode rfl

/-- `get_pairing` keeps its promise for a number alone, and then by what its request and
its parser make of the answer: over a boolean it raises before there is one. -/
theorem getPairing_answered_iff (client : GC3Client) {x : Exchange} {r : Except Raised Json}
    (hrequest : ∀ params, client.request (fun _ => x) "GET" "/api/v1/pair" none params = r)
    (partition : Option Int) :
    Answered (fun _ => True) (client.getPairing (fun _ => x) partition) ↔
      (client.partitionOr partition).IsNumber ∧
        Answered (fun _ => True) (r >>= fun data => escape (Pairing.fromJson data)) := by
  unfold GC3Client.getPairing
  cases hpart : client.partitionOr partition with
  | number n =>
    show Answered _ (client.request (fun _ => x) "GET" "/api/v1/pair" none
      (some [("partition", .int n)]) >>= _) ↔ _
    rw [hrequest]
    exact (and_iff_right ⟨n, rfl⟩).symm
  | flag b => exact iff_of_false id fun ⟨⟨n, hn⟩, _⟩ => absurd hn (by simp)

/-- Over an array, `zones` is its two comprehensions. -/
theorem zones_answered_arr_eq (client : GC3Client) {resp : Response} (hstatus : resp.status < 400)
    {data : List Json} (hjson : resp.json = .ok (.arr data)) (includeConsole : Bool) :
    client.zones (fun _ => .answered resp) includeConsole =
      escape (do
        let parsed ← GC3Client.parseZones data
        if includeConsole then return parsed else GC3Client.dropConsole parsed) := by
  unfold GC3Client.zones
  rw [request_answered client hstatus hjson]
  show (escape (GC3Client.parseZones data) >>= _) = _
  cases GC3Client.parseZones data with
  | error err => rfl
  | ok parsed => cases includeConsole <;> rfl

/-- `zones` over the answer that holds the array `data` and is read. -/
theorem zones_ofJson_arr (client : GC3Client) {code : Nat} (hcode : code < 400) (data : List Json)
    (includeConsole : Bool) :
    client.zones (fun _ => .ofJson code (.arr data)) includeConsole =
      escape (do
        let parsed ← GC3Client.parseZones data
        if includeConsole then return parsed else GC3Client.dropConsole parsed) := by
  unfold Exchange.ofJson
  exact zones_answered_arr_eq client hcode rfl includeConsole

/-- The filter leaves zones with a string for their name exactly when every zone
is a zone 0, which goes unread, or has one. -/
theorem dropConsole_isStr_iff (zones : List (Zone Json)) :
    (∃ kept, GC3Client.dropConsole zones = .ok kept ∧ ∀ z ∈ kept, z.name.IsStr) ↔
      ∀ z ∈ zones, z.name.IsStr ∨ z.id = "0" := by
  constructor
  · intro ⟨kept, hkept, hstr⟩ z hz
    by_cases hid : z.id = "0"
    · exact Or.inr hid
    · exact Or.inl ((dropConsole_ok_iff zones).mp ⟨kept, hkept⟩ z hz hid)
  · intro h
    obtain ⟨kept, hkept⟩ := (dropConsole_ok_iff zones).mpr fun z hz hid =>
      (h z hz).resolve_right hid
    refine ⟨kept, hkept, fun z hz => ?_⟩
    obtain ⟨hmem, hconsole⟩ := (mem_of_dropConsole hkept z).mp hz
    refine (h z hmem).resolve_right fun hid => ?_
    unfold Zone.isConsole at hconsole
    rw [if_pos hid] at hconsole
    exact absurd hconsole (by simp)

/-- An array is read well exactly when each of its elements is a zone object. -/
theorem zones_answered_arr (client : GC3Client) {resp : Response} (hstatus : resp.status < 400)
    {data : List Json} (hjson : resp.json = .ok (.arr data)) (includeConsole : Bool) :
    Answered (fun zs => ∀ z ∈ zs, z.name.IsStr)
        (client.zones (fun _ => .answered resp) includeConsole) ↔
      ∀ v ∈ data, ZoneObject includeConsole v := by
  have hforall : (∀ v ∈ data, ZoneObject includeConsole v) ↔
      ∃ parsed, GC3Client.parseZones data = .ok parsed ∧
        ∀ z ∈ parsed, z.name.IsStr ∨ includeConsole = false ∧ z.id = "0" := by
    simp only [zoneObject_iff, parseZones_ok_iff]
    exact Pointwise.forall_mem_exists_iff _ _ data
  rw [zones_answered_arr_eq client hstatus hjson, answered_escape, hforall]
  cases includeConsole with
  | true => simp
  | false =>
    simp only [bind_eq_ok, Bool.false_eq_true, if_false, true_and, ← dropConsole_isStr_iff]
    constructor
    · intro ⟨kept, ⟨parsed, hparsed, hkept⟩, hstr⟩
      exact ⟨parsed, hparsed, kept, hkept, hstr⟩
    · intro ⟨parsed, hparsed, kept, hkept, hstr⟩
      exact ⟨kept, ⟨parsed, hparsed, hkept⟩, hstr⟩

/-- Whatever array or other value is read, `zones` answers well exactly when all of an
array are zone objects; anything else is the shape it checks for. -/
theorem zones_answered_iff (client : GC3Client) {resp : Response} (hstatus : resp.status < 400)
    {body : Json} (hjson : resp.json = .ok body) (includeConsole : Bool) :
    Answered (fun zs => ∀ z ∈ zs, z.name.IsStr)
        (client.zones (fun _ => .answered resp) includeConsole) ↔
      ∀ data, body = .arr data → ∀ v ∈ data, ZoneObject includeConsole v := by
  cases body with
  | arr data =>
    rw [zones_answered_arr client hstatus hjson]
    constructor
    · intro h data' hdata
      rw [← Json.arr.inj hdata]
      exact h
    · intro h
      exact h data rfl
  | _ =>
    unfold GC3Client.zones
    rw [request_answered client hstatus hjson]
    exact iff_of_true trivial fun data hdata => absurd hdata (by simp)

end

/-- A client of the panel at its usual address. -/
def sampleClient : GC3Client := GC3Client.new "192.168.1.25" "123456" (some "key") 3000 (.number 1)

end Gc3.Pygc3
