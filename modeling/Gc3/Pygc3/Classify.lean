import Gc3.Pygc3.Client
import Gc3.Py.Latin1

/-!
# What a failed exchange is reported as

`Classified` is what the callers of `_request` rely on: an unreachable panel is a
`GC3ConnectionError`, a 403 a `GC3AuthError`, any other error status a
`GC3ResponseError` with that status, and below 400 the body decides. The code meets it
up to one hole. `_safe_message` is awaited while the error is being built, and it lets
through what its own two `except` do not name: the time-out of a body that is read as
JSON, the `RecursionError` of one nested too deep, and whatever is not an `Exception`.
The first then leaves through the outer `except` as a connection problem.

`request_classified_iff` says that this is the only way to miss the classification, for
every exchange, method, path and body.

The proof follows the two `try` blocks. `safeMessage_ok_iff` says what gets through the
inner one. On an error status the classification holds when `_safe_message` returns
(`classified_of_safe`) and fails when it does not (`not_classified_of_not_safe`); below
400 it always holds (`classified_of_success`). `slowRejection` is the 403 that is taken
for a panel out of reach.
-/

namespace Gc3.Pygc3

open Gc3.Py

/-- The outcome `r` an exchange has to be reported as. -/
def Classified (x : Exchange) (r : Except Raised Json) : Prop :=
  match x with
  | .failed _ _ => ∃ message, r = .error (.gc3 (.connection message))
  | .answered resp =>
    if resp.status = 403 then ∃ message, r = .error (.gc3 (.auth message))
    else if 400 ≤ resp.status then
      ∃ message, r = .error (.gc3 (.response message (some resp.status)))
    else
      match resp.json with
      | .ok data => r = .ok data
      | .error err =>
        if err.cls = .contentTypeError ∨ err.cls = .valueError then
          ∃ message, r = .error (.gc3 (.response message (some resp.status)))
        -- no class of its own for JSON that is nested too deep: the exception goes through
        else if err.cls = .recursionError then r = .error (.py err)
        else ∃ message, r = .error (.gc3 (.connection message))

/-- On an error status `_safe_message` returns. -/
def SafeOnErrors [Runtime] : Exchange → Prop
  | .failed _ _ => True
  | .answered resp => 400 ≤ resp.status → ∃ message, safeMessage resp = .ok message

/-- The body of an error answer does not time out while it is read as JSON and is not
nested too deep for it, and when it is no JSON then reading it as text raises nothing
past `Exception`. -/
def ErrorBodyReadable : Exchange → Prop
  | .failed _ _ => True
  | .answered resp => 400 ≤ resp.status → ∀ err, resp.json = .error err →
      err.cls ≠ .timeoutError ∧ err.cls ≠ .recursionError ∧
        ∀ err', resp.text = .error err' → err'.isException = true

/-- Nothing the outer `except` does turns an escaped exception into an
authentication or a response error. -/
theorem guardConnection_py (method path : String) (err : Exc) :
    guardConnection method path (.error (.py err)) = .error (.py err) ∨
      ∃ message, guardConnection method path (.error (.py err))
        = .error (.gc3 (.connection message)) := by
  unfold guardConnection
  by_cases h : Exc.isConnectionFailure err = true
  · exact Or.inr ⟨_, if_pos h⟩
  · exact Or.inl (if_neg h)

section

variable [Runtime]

/-! ## `_safe_message` -/

/-- `_safe_message` lets exactly three things through: a time-out while the JSON is
read, JSON nested too deep, and a `BaseException` while the text is read. -/
theorem safeMessage_ok_iff (resp : Response) :
    (∃ message, safeMessage resp = .ok message) ↔
      ∀ err, resp.json = .error err →
        err.cls ≠ .timeoutError ∧ err.cls ≠ .recursionError ∧
          ∀ err', resp.text = .error err' → err'.isException = true := by
  unfold safeMessage
  cases hjson : resp.json with
  | ok data => simp
  | error err =>
    have hcls := resp.json_raises err hjson
    by_cases huncaught : err.cls = .timeoutError ∨ err.cls = .recursionError
    · rcases huncaught with h | h <;> simp [h, Exc.isClientError]
    · obtain ⟨ht, hr⟩ := not_or.mp huncaught
      have hcaught : err.cls = .contentTypeError ∨ err.cls = .valueError ∨ err.isClientError := by
        simp only [jsonRaises, List.mem_cons, List.not_mem_nil, or_false] at hcls
        rcases hcls with h | h | h | h | h
        · exact Or.inl h
        · exact Or.inr (Or.inl h)
        · exact Or.inr (Or.inr (by simp [Exc.isClientError, h]))
        · exact absurd h ht
        · exact absurd h hr
      simp only [if_pos hcaught]
      cases htext : resp.text with
      | ok text => simp [ht, hr]
      | error err' =>
        cases hexc : err'.isException with
        | true => simp [ht, hr, hexc]
        | false => simp [hexc]

/-- What `_safe_message` needs of the body, asked only where it is called. -/
theorem safeOnErrors_iff (x : Exchange) : SafeOnErrors x ↔ ErrorBodyReadable x := by
  cases x with
  | failed err h => exact Iff.rfl
  | answered resp =>
    unfold SafeOnErrors ErrorBodyReadable
    exact imp_congr_right fun _ => safeMessage_ok_iff resp

/-! ## The two `try` blocks -/

/-- An error answer whose body cannot be read safely is reported as what went
wrong while reading it. -/
theorem requestOver_not_safe (method path : String) {resp : Response} {err : Exc}
    (hstatus : 400 ≤ resp.status) (hsafe : safeMessage resp = .error err) :
    requestOver method path (.answered resp) = guardConnection method path (.error (.py err)) := by
  unfold requestOver readAnswer
  by_cases h403 : resp.status = 403
  · simp only [if_pos h403, hsafe]
    rfl
  · simp only [if_neg h403, if_pos hstatus, hsafe]
    rfl

/-- An error answer with a safe body is reported by its status. -/
theorem classified_of_safe (method path : String) {resp : Response} {message : String}
    (hstatus : 400 ≤ resp.status) (hsafe : safeMessage resp = .ok message) :
    Classified (.answered resp) (requestOver method path (.answered resp)) := by
  unfold Classified requestOver readAnswer
  by_cases h403 : resp.status = 403
  · simp only [if_pos h403, hsafe]
    exact ⟨_, rfl⟩
  · simp only [if_neg h403, if_pos hstatus, hsafe]
    exact ⟨_, rfl⟩

/-- Below 400 the body alone decides, and every outcome is the right one. -/
theorem classified_of_success (method path : String) {resp : Response}
    (hstatus : ¬ 400 ≤ resp.status) :
    Classified (.answered resp) (requestOver method path (.answered resp)) := by
  have h403 : resp.status ≠ 403 := by omega
  unfold Classified requestOver readAnswer
  simp only [if_neg h403, if_neg hstatus]
  cases hjson : resp.json with
  | ok data => rfl
  | error err =>
    dsimp only
    by_cases hbody : err.cls = .contentTypeError ∨ err.cls = .valueError
    · simp only [if_pos hbody]
      exact ⟨_, rfl⟩
    by_cases hdeep : err.cls = .recursionError
    · have hconn : Exc.isConnectionFailure err = false := by
        simp [Exc.isConnectionFailure, Exc.isClientError, hdeep]
      simp only [if_neg hbody, if_pos hdeep, guardConnection, hconn]
      rfl
    · have hconn : Exc.isConnectionFailure err = true := by
        have hcls := resp.json_raises err hjson
        simp only [jsonRaises, List.mem_cons, List.not_mem_nil, or_false] at hcls
        rcases hcls with h | h | h | h | h
        · exact absurd (Or.inl h) hbody
        · exact absurd (Or.inr h) hbody
        · simp [Exc.isConnectionFailure, Exc.isClientError, h]
        · simp [Exc.isConnectionFailure, h]
        · exact absurd h hdeep
      simp only [if_neg hbody, if_neg hdeep, guardConnection, hconn]
      exact ⟨_, rfl⟩

/-- An error answer with an unsafe body is reported as neither of the two error
kinds its status calls for. -/
theorem not_classified_of_not_safe (method path : String) {resp : Response} {err : Exc}
    (hstatus : 400 ≤ resp.status) (hsafe : safeMessage resp = .error err) :
    ¬ Classified (.answered resp) (requestOver method path (.answered resp)) := by
  intro h
  unfold Classified at h
  rw [requestOver_not_safe method path hstatus hsafe] at h
  dsimp only at h
  rcases guardConnection_py method path err with hr | ⟨message, hr⟩
  · rw [hr] at h
    by_cases h403 : resp.status = 403
    · simp [h403] at h
    · simp [h403, hstatus] at h
  · rw [hr] at h
    by_cases h403 : resp.status = 403
    · simp [h403] at h
    · simp [h403, hstatus] at h

/-- **`_request` classifies an exchange, and `_safe_message` gets through it,
exactly when it is no error answer whose body times out as JSON, is nested too deep for
it, or is torn down while it is read as text.** -/
theorem request_classified_iff (client : GC3Client) (x : Exchange) (method path : String)
    (jsonBody : Option Json) (params : Option (List (String × Json))) :
    (Classified x (client.request (fun _ => x) method path jsonBody params) ↔
        ErrorBodyReadable x) ∧
      (SafeOnErrors x ↔ ErrorBodyReadable x) := by
  refine ⟨?_, safeOnErrors_iff x⟩
  unfold GC3Client.request
  cases x with
  | failed err hconn =>
    refine iff_of_true ?_ trivial
    unfold Classified requestOver guardConnection
    simp only [hconn]
    exact ⟨_, rfl⟩
  | answered resp =>
    by_cases hstatus : 400 ≤ resp.status
    · rw [← safeOnErrors_iff]
      cases hsafe : safeMessage resp with
      | ok message =>
        exact iff_of_true (classified_of_safe method path hstatus hsafe) fun _ => ⟨message, hsafe⟩
      | error err =>
        refine iff_of_false (not_classified_of_not_safe method path hstatus hsafe) fun h => ?_
        obtain ⟨message, hok⟩ := h hstatus
        rw [hsafe] at hok
        exact absurd hok (by simp)
    · exact iff_of_true (classified_of_success method path hstatus) fun h => absurd h hstatus

end

/-- A rejected key whose error body does not arrive in time. -/
def slowRejection : Exchange :=
  .answered ⟨403, .error ⟨.timeoutError, ""⟩, .ok "", by simp [jsonRaises]⟩

/-- The rejected key is reported as a connection problem, so it is retried
instead of asking for new keys; and `_safe_message` has raised. -/
theorem slowRejection_misclassified :
    ¬ Classified slowRejection (@GC3Client.request latin1 ⟨"https://192.168.1.25:3000", "123456",
        some "key", .number 1⟩ (fun _ => slowRejection) "GET" "/api/v1/status" none none) ∧
      ¬ @SafeOnErrors latin1 slowRejection := by
  have hsafe : @safeMessage latin1 ⟨403, .error ⟨.timeoutError, ""⟩, .ok "", by simp [jsonRaises]⟩
      = .error ⟨.timeoutError, ""⟩ := rfl
  constructor
  · exact @not_classified_of_not_safe latin1 "GET" "/api/v1/status" _ _ (by decide) hsafe
  · intro h
    obtain ⟨message, hok⟩ := h (by decide)
    rw [hsafe] at hok
    exact absurd hok (by simp)

end Gc3.Pygc3
