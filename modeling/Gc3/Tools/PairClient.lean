import Gc3.Pygc3.Classify
import Gc3.Pygc3.Wire
import Gc3.Tools.Pair

/-!
# Enrolling with the library

`pygc3` enrols with `GC3Client.pair`, `tools/pair.py` with `enrol`: two programs over two
HTTP libraries, which agree (`client_pairs_as_enrol`). For one controller both put the same
request to the panel, once, and on every answer below status 600 they end as the table
`EnrolsAlike` has it.

The two libraries are related answer by answer, in `SameAnswer`, because they do not see
the same of one answer: `requests` has the body before it returns and `aiohttp` reads it
afterwards, an exchange that breaks off in the body is an answer to one and none to the
other, and of an empty body `requests` says that it is no JSON where `aiohttp` returns
`None`. Everything else is the same for both: a body that is JSON, one that is not, and
one that is nested too deep to be read, over which either raises.

What the table says, one row at a time:

* the client returns an object whose first key field counts as true where `enrol` prints
  that key, and nowhere else;
* it raises wherever `enrol` ends with exit code 1, an authentication error for the
  answers `enrol` reads as a closed listen window;
* `enrol` breaks down over a body the client returns only if that is no object.

They part over a good answer that is no JSON: `enrol` ends with 0, and the client raises,
or returns `None` if the body is empty. The proof goes by how far the answer came and
then by its status; below 400 the body decides (`enrolsAlike_good_reply`), from 400 on the
client goes by the status and the tool by the body (`enrolsAlike_bad_reply`).
-/

namespace Gc3.Tools.Pair

open Gc3.Py Gc3.Pygc3 Fallible

/-! ## One panel through two libraries -/

/-- One request, as the tool and as the client put it; headers are in no order. -/
structure SameRequest (q : Call) (r : Request) : Prop where
  method_eq : q.method = r.method
  url_eq : q.url = r.url
  json_eq : q.json = r.json
  params_eq : r.params = none
  headers_perm : q.headers.Perm r.headers

/-- One body, as the two read it. Of an empty one `requests` says that it is no JSON, and
`aiohttp` that there is none. -/
inductive SameBody : Except Exc Json → Except Exc Json → Prop
  | json (body : Json) : SameBody (.ok body) (.ok body)
  | notJson {err err' : Exc} (h : err.cls = .valueError)
      (h' : err'.cls = .contentTypeError ∨ err'.cls = .valueError) :
      SameBody (.error err) (.error err')
  | empty {err : Exc} (h : err.cls = .valueError) : SameBody (.error err) (.ok .null)
  | tooDeep {err err' : Exc} (h : err.cls = .recursionError) (h' : err'.cls = .recursionError) :
      SameBody (.error err) (.error err')

/-- One answer of the panel, as the two see it. A status from 600 on is a good one to
`requests` only. -/
inductive SameAnswer : Except Exc Reply → Exchange → Prop
  | answered {r : Reply} {resp : Response} (hstatus : r.status = resp.status)
      (hrange : resp.status < 600) (hbody : SameBody r.json resp.json)
      (htext : ∀ err, resp.text = .error err → err.isException = true) :
      SameAnswer (.ok r) (.answered resp)
  -- `requests` reads the body before it returns
  | brokeOff {err err' : Exc} {resp : Response} (hjson : resp.json = .error err')
      (hbroke : err'.cls = .clientError ∨ err'.cls = .timeoutError) :
      SameAnswer (.error err) (.answered resp)
  | unreachable {err err' : Exc} (h : Exc.isConnectionFailure err' = true) :
      SameAnswer (.error err) (.failed err' h)

/-- The tool's arguments and the client are about one controller. -/
structure SameController (args : Args) (c : GC3Client) : Prop where
  base_eq : rstripSlash args.panel = c.base
  pairingKey_eq : args.pairingKey = some c.pairingKey
  -- the tool leaves an empty pairing key out, the client sends it
  pairingKey_ne : c.pairingKey ≠ ""
  apiKey_eq : args.apiKey = c.apiKey
  partition_eq : c.partition = .number args.partition

/-- The library's `pair`, with the defaults of its arguments. -/
def pairCall [Runtime] (c : GC3Client) (deviceName : String) : Talk (Except Raised Json) :=
  c.pairTalk deviceName true false none

/-- The two programs word their requests alike, up to the order of headers. -/
theorem sameRequest {args : Args} {c : GC3Client} (same : SameController args c) :
    SameRequest (args.enrolCall args.apiKey)
      (c.pairRequest args.deviceName true false none) where
  method_eq := rfl
  url_eq := congrArg (· ++ PAIR_PATH) same.base_eq
  json_eq := by
    unfold GC3Client.pairRequest GC3Client.partitionOr
    rw [same.partition_eq]
    rfl
  params_eq := rfl
  headers_perm := by
    have hkey : header "X-Pairing-Key" args.pairingKey = [("X-Pairing-Key", c.pairingKey)] := by
      rw [same.pairingKey_eq]
      exact if_neg same.pairingKey_ne
    have hclient : c.headers = [("X-Pairing-Key", c.pairingKey),
        ("Content-Type", "application/json")] ++ header "X-Api-Key" c.apiKey := rfl
    show (session args.apiKey args.pairingKey).Perm c.headers
    rw [hclient, session, hkey, same.apiKey_eq, List.append_assoc]
    -- the api key goes before the content type, or after it
    have hlast : (header "X-Api-Key" c.apiKey ++ [("Content-Type", "application/json")]).Perm
        ([("Content-Type", "application/json")] ++ header "X-Api-Key" c.apiKey) :=
      List.perm_append_comm
    exact hlast.cons ("X-Pairing-Key", c.pairingKey)

/-! ## How the two end -/

section

variable [Runtime]

/-- How `enrol` ends beside `GC3Client.pair`. -/
inductive EnrolsAlike : Except Exc (Enrolment × Nat) → Except Raised Json → Prop
  | issued {fields : List (String × Json)} {key : Json}
      (hfirst : (KEY_FIELDS.findSome? fun key => fields.lookup key) = some key)
      (htruthy : key.truthy = true) :
      EnrolsAlike (.ok (.issued key, 0)) (.ok (.obj fields))
  | unknownField {data : Json}
      (hnone : ∀ fields key, data = .obj fields →
        (KEY_FIELDS.findSome? fun key => fields.lookup key) = some key → key.truthy = false) :
      EnrolsAlike (.ok (.unknownField, 0)) (.ok data)
  | tripped {err : Exc} {data : Json} (hobj : ¬ data.IsObj) : EnrolsAlike (.error err) (.ok data)
  | notJson {message : String} {status : Nat} (hgood : status < 400) :
      EnrolsAlike (.ok (.notJson, 0)) (.error (.gc3 (.response message (some status))))
  | empty : EnrolsAlike (.ok (.notJson, 0)) (.ok .null)
  | rejected {outcome : Outcome} {message : String}
      (houtcome : outcome = .gate2 ∨ outcome = .gate1 ∨ outcome = .unrecognised) :
      EnrolsAlike (.ok (.refused outcome, 1)) (.error (.gc3 (.auth message)))
  | refused {outcome : Outcome} {message : String} {status : Nat} (hbad : 400 ≤ status)
      (houtcome : outcome = .gate1 ∧ status = 401 ∨ outcome = .unrecognised) :
      EnrolsAlike (.ok (.refused outcome, 1)) (.error (.gc3 (.response message (some status))))
  | raised {err : Exc} {raised : Raised} : EnrolsAlike (.error err) (.error raised)

omit [Runtime] in
/-- Below 600, `requests` and the client agree which statuses are good. -/
theorem ok_iff_of_range {r : Reply} (hrange : r.status < 600) : r.ok = true ↔ r.status < 400 := by
  simp only [Reply.ok, Bool.not_eq_true', Bool.and_eq_false_iff, decide_eq_false_iff_not]
  omega

/-- A good answer: its body decides, on both sides. -/
theorem enrolsAlike_good_reply {method path : String} {r : Reply} {resp : Response}
    (hok : r.ok = true) (hgood : resp.status < 400)
    (hbody : SameBody r.json resp.json) :
    EnrolsAlike (enrolled r) (requestOver method path (.answered resp)) := by
  have hclass := classified_of_success method path (Nat.not_le.mpr hgood)
  unfold Classified at hclass
  simp only [if_neg (show resp.status ≠ 403 by omega), if_neg (Nat.not_le.mpr hgood)] at hclass
  generalize hjson : r.json = x at hbody
  generalize hjson' : resp.json = y at hbody
  cases hbody with
  | json data =>
    simp only [hjson'] at hclass
    rw [hclass, enrolled_of_json hok (tryJson_of_json hjson)]
    cases hissued : issuedKey data with
    | error err => exact .tripped (not_isObj_of_issuedKey hissued)
    | ok key =>
      simp only [Except.map]
      cases htruthy : key.truthy with
      | true =>
        obtain ⟨fields, rfl, hfirst⟩ := (issuedKey_eq_ok_iff htruthy data).mp hissued
        exact .issued hfirst htruthy
      | false =>
        refine .unknownField fun fields key' hdata hfirst => ?_
        cases htruthy' : key'.truthy with
        | false => rfl
        | true =>
          rw [(issuedKey_eq_ok_iff htruthy' data).mpr ⟨fields, hdata, hfirst⟩,
            Except.ok.injEq] at hissued
          rw [← hissued, htruthy'] at htruthy
          exact absurd htruthy (by simp)
  | @notJson err err' h h' =>
    simp only [hjson', if_pos h'] at hclass
    obtain ⟨message, hclass⟩ := hclass
    rw [hclass, enrolled_of_not_json hok (tryJson_of_valueError hjson h)]
    exact .notJson hgood
  | empty h =>
    simp only [hjson'] at hclass
    rw [hclass, enrolled_of_not_json hok (tryJson_of_valueError hjson h)]
    exact .empty
  | tooDeep h h' =>
    simp only [hjson', h', reduceCtorEq, or_self, if_false, if_true] at hclass
    rw [hclass, enrolled_of_raised hok (tryJson_of_recursionError hjson h)]
    exact .raised

/-- A body too deep to be read: whatever the status, both raise. -/
theorem raises_tooDeep (method path : String) {resp : Response} {err : Exc}
    (hjson : resp.json = .error err) (hcls : err.cls = .recursionError) (hbad : 400 ≤ resp.status) :
    ∃ raised, requestOver method path (.answered resp) = .error raised := by
  have hsafe : safeMessage resp = .error err := by
    unfold safeMessage
    simp [hjson, hcls, Exc.isClientError]
  rw [requestOver_not_safe method path hbad hsafe]
  rcases guardConnection_py method path err with h | ⟨message, h⟩
  · exact ⟨_, h⟩
  · exact ⟨_, h⟩

/-- A bad answer whose body, if it is no JSON, is a text: the client goes by its status, the
tool reads its body. -/
theorem enrolsAlike_readable_bad_reply {method path : String} {r : Reply} {resp : Response}
    (hstatus : r.status = resp.status) (hok : ¬ r.ok = true) (hbad : 400 ≤ resp.status)
    {message : String} (hsafe : safeMessage resp = .ok message) :
    EnrolsAlike (enrolled r) (requestOver method path (.answered resp)) := by
  have hclass := classified_of_safe method path hbad hsafe
  unfold Classified at hclass
  rw [enrolled_bad_reply hok]
  by_cases h403 : resp.status = 403
  · simp only [if_pos h403] at hclass
    obtain ⟨message, hclass⟩ := hclass
    rw [hclass]
    cases houtcome : interpret r with
    | error err => exact .raised
    | ok outcome =>
      refine .rejected ?_
      rcases interpret_bad_reply hok houtcome with ⟨h, -⟩ | ⟨h, -⟩ | h
      · exact Or.inl h
      · exact Or.inr (Or.inl h)
      · exact Or.inr (Or.inr h)
  · simp only [if_neg h403, if_pos hbad] at hclass
    obtain ⟨message, hclass⟩ := hclass
    rw [hclass]
    cases houtcome : interpret r with
    | error err => exact .raised
    | ok outcome =>
      refine .refused hbad ?_
      rcases interpret_bad_reply hok houtcome with ⟨-, h⟩ | ⟨h, h401⟩ | h
      · exact absurd (hstatus ▸ h) h403
      · exact Or.inl ⟨h, h401.elim (hstatus ▸ ·) fun h => absurd (hstatus ▸ h) h403⟩
      · exact Or.inr h

/-- A bad answer: by whether the body is too deep for both. -/
theorem enrolsAlike_bad_reply {method path : String} {r : Reply} {resp : Response}
    (hstatus : r.status = resp.status) (hok : ¬ r.ok = true) (hbad : 400 ≤ resp.status)
    (hbody : SameBody r.json resp.json)
    (htext : ∀ err, resp.text = .error err → err.isException = true) :
    EnrolsAlike (enrolled r) (requestOver method path (.answered resp)) := by
  have hreadable : (∃ message, safeMessage resp = .ok message) →
      EnrolsAlike (enrolled r) (requestOver method path (.answered resp)) :=
    fun ⟨_, hsafe⟩ => enrolsAlike_readable_bad_reply hstatus hok hbad hsafe
  rw [safeMessage_ok_iff] at hreadable
  generalize hjson : r.json = x at hbody
  generalize hjson' : resp.json = y at hbody hreadable
  cases hbody with
  | json data => exact hreadable fun err hraised => absurd hraised (by simp)
  | empty h => exact hreadable fun err hraised => absurd hraised (by simp)
  | notJson h h' =>
    refine hreadable fun err hraised => ?_
    rw [← Except.error.inj hraised]
    rcases h' with h' | h' <;> exact ⟨by simp [h'], by simp [h'], htext⟩
  | tooDeep h h' =>
    obtain ⟨raised, hraised⟩ := raises_tooDeep method path hjson' h' hbad
    rw [hraised, enrolled_bad_reply hok, interpret_of_raised (tryJson_of_recursionError hjson h)]
    exact .raised

/-- An answer that never came through: both raise. -/
theorem raises_brokeOff {method path : String} {err : Exc} {resp : Response}
    (hjson : resp.json = .error err)
    (hbroke : err.cls = .clientError ∨ err.cls = .timeoutError) :
    ∃ raised, requestOver method path (.answered resp) = .error raised := by
  have hnot : ¬ (err.cls = .contentTypeError ∨ err.cls = .valueError) := by
    rcases hbroke with h | h <;> simp [h]
  have hdeep : err.cls ≠ .recursionError := by
    rcases hbroke with h | h <;> simp [h]
  by_cases hbad : 400 ≤ resp.status
  · cases hsafe : safeMessage resp with
    | ok message =>
      have hclass := classified_of_safe method path hbad hsafe
      unfold Classified at hclass
      by_cases h403 : resp.status = 403
      · simp only [if_pos h403] at hclass
        exact ⟨_, hclass.choose_spec⟩
      · simp only [if_neg h403, if_pos hbad] at hclass
        exact ⟨_, hclass.choose_spec⟩
    | error err =>
      rw [requestOver_not_safe method path hbad hsafe]
      rcases guardConnection_py method path err with h | ⟨message, h⟩
      · exact ⟨_, h⟩
      · exact ⟨_, h⟩
  · have hclass := classified_of_success method path hbad
    unfold Classified at hclass
    simp only [if_neg (show resp.status ≠ 403 by omega), if_neg hbad, hjson, if_neg hnot,
      if_neg hdeep] at hclass
    exact ⟨_, hclass.choose_spec⟩

/-- Whatever the answer, the two end as the table has it. -/
theorem enrolsAlike {method path : String} {x : Except Exc Reply} {y : Exchange}
    (h : SameAnswer x y) :
    EnrolsAlike (x.bind enrolled) (requestOver method path y) := by
  -- by how far the answer came, and then by its status
  cases h with
  | @answered r resp hstatus hrange hbody htext =>
    have hok : r.ok = true ↔ resp.status < 400 := by
      rw [← hstatus]
      exact ok_iff_of_range (hstatus ▸ hrange)
    by_cases hgood : resp.status < 400
    · exact enrolsAlike_good_reply (hok.mpr hgood) hgood hbody
    · exact enrolsAlike_bad_reply hstatus (hgood ∘ hok.mp) (Nat.not_lt.mp hgood) hbody htext
  | brokeOff hjson hbroke =>
    obtain ⟨raised, hraised⟩ := raises_brokeOff hjson hbroke
    rw [hraised]
    exact .raised
  | unreachable hconn =>
    unfold requestOver guardConnection
    simp only [hconn]
    exact .raised

/-- **The library enrols as the tool does.** Against two panels that answer one request
alike, for one controller, `enrol` and `GC3Client.pair` each put the same one request, and
end as the table has it. -/
theorem client_pairs_as_enrol {args : Args} {c : GC3Client} (same : SameController args c)
    {σ τ : Type} (serve : σ → Call → Except Exc Reply × σ) (panel : τ → Request → Exchange × τ)
    (s : σ) (t : τ)
    (halike : ∀ q r, SameRequest q r → SameAnswer (serve s q).1 (panel t r).1) :
    ∃ q r x y, SameRequest q r ∧ SameAnswer x y ∧
      (enrol args).transcript serve s = [(q, x)] ∧
      (pairCall c args.deviceName).transcript panel t = [(r, y)] ∧
      EnrolsAlike ((enrol args).run serve s).1
        ((pairCall c args.deviceName).run panel t).1 := by
  have hanswer := halike _ _ (sameRequest same)
  have henrol : (enrol args).transcript serve s =
        [(args.enrolCall args.apiKey, (serve s (args.enrolCall args.apiKey)).1)] ∧
      (enrol args).run serve s = ((serve s (args.enrolCall args.apiKey)).1.bind enrolled,
        (serve s (args.enrolCall args.apiKey)).2) := request_once enrolled
  refine ⟨_, _, _, _, sameRequest same, hanswer, henrol.1, rfl, ?_⟩
  rw [henrol.2]
  exact enrolsAlike hanswer

end

/-- A controller that has no key yet. -/
def bootstrapArgs : Args := ⟨"https://192.168.1.25:3000/", none, some "123456", "Home Assistant", 1⟩

def bootstrapClient : GC3Client := .new "192.168.1.25" "123456" none 3000 (.number 1)

def keyBody : Json := .obj [("apiKey", .str "0b9c")]

/-- A controller without a key yet: the tool prints the key that the client returns. -/
theorem bootstrap_alike : ∃ q r x y, SameRequest q r ∧ SameAnswer x y ∧
    (@enrol latin1 bootstrapArgs).transcript
      (fun (_ : Unit) _ => (.ok ⟨200, "", .ok keyBody, by simp⟩, ())) () = [(q, x)] ∧
    (@pairCall latin1 bootstrapClient "Home Assistant").transcript
      (fun (_ : Unit) _ => (.ofJson 200 keyBody, ())) () = [(r, y)] ∧
    EnrolsAlike (.ok (.issued (.str "0b9c"), 0)) (.ok keyBody) :=
  @client_pairs_as_enrol latin1 bootstrapArgs bootstrapClient
    ⟨by decide, rfl, by decide, rfl, rfl⟩ Unit Unit _ _ () ()
    fun _ _ _ => .answered rfl (by decide) (.json keyBody) (by simp)

end Gc3.Tools.Pair
