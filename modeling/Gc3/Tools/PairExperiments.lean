import Gc3.Py.Latin1
import Gc3.Pygc3.Models
import Gc3.Tools.Pair

/-!
# `tools/pairexp.py` and `tools/pairnew.py`

Two experiments with the pairing of a live panel, both under its present credentials.
Each reads `/status` and `/pair`, aborts unless both answers are good, posts to `/pair`
once, and reads both again. `pairexp` posts the pairing it has just read; `pairnew` asks
for a new one and masks what it prints of the answers. What the scripts do to the panel
is one result, `experiments_write`: they post once at most, on a healthy baseline only,
and nothing else than they should. What `pairnew` shows of the secrets is the other,
`pairnew_hides`.

The first is by the paths through a script. `Attempted` has one constructor for each of
them, with the calls made on it and how it ended; that the two programs take no other
path is `pairexp_attempted` and `pairnew_attempted`, by the rules for what holds of a
program whatever it is answered (`Ask.Always`), and `Attempted.writesOnce` reads the
result off the paths.

The second is a relation of two runs. `mask_eq_iff` says which values print the same
when masked; `SameLook` which answers do, place by place in the script; and `Ask.Blind`
is the relation of programs that go on printing the same over such answers, with a rule
for each construct the script is made of.
-/

namespace Gc3.Tools.Pair

open Gc3.Py Gc3.Pygc3 Fallible

/-! ## Masking -/

/-- The last two characters. -/
def lastTwo (s : String) : List Char := s.toList.drop (s.length - 2)

/-- `f"<{v[:2]}…{v[-2:]} ({len(v)} chars)>"` -/
def maskText (s : String) : String :=
  String.ofList ('<' :: (s.toList.take 2 ++ '…' :: (lastTwo s ++
    (" (".toList ++ ((toString s.length).toList ++ " chars)>".toList)))))

mutual

/-- `mask(v)`: both branches of the test on a key mask what it holds. -/
def mask : Json → Json
  | .obj fields => .obj (maskFields fields)
  | .str s => .str (if 6 ≤ s.length then maskText s else s)
  | v => v

def maskFields : List (String × Json) → List (String × Json)
  | [] => []
  | (key, v) :: rest => (key, mask v) :: maskFields rest

end

/-- Two strings of six characters or more with the same length and the same two characters
at either end. -/
structure SameEnds (s t : String) : Prop where
  long : 6 ≤ s.length
  length_eq : s.length = t.length
  take_eq : s.toList.take 2 = t.toList.take 2
  lastTwo_eq : lastTwo s = lastTwo t

mutual

/-- Two values that differ in the middle of strings only, and in none inside a list. -/
inductive LooksLike : Json → Json → Prop
  | refl (v : Json) : LooksLike v v
  | text {s t : String} : SameEnds s t → LooksLike (.str s) (.str t)
  | dict {xs ys : List (String × Json)} : LooksLikeFields xs ys → LooksLike (.obj xs) (.obj ys)

inductive LooksLikeFields : List (String × Json) → List (String × Json) → Prop
  | nil : LooksLikeFields [] []
  | cons {key : String} {x y : Json} {xs ys : List (String × Json)} :
    LooksLike x y → LooksLikeFields xs ys → LooksLikeFields ((key, x) :: xs) ((key, y) :: ys)

end

/-- Of six characters or more, two are left over at the end. -/
theorem length_lastTwo {s : String} (h : 6 ≤ s.length) : (lastTwo s).length = 2 := by
  unfold lastTwo
  rw [List.length_drop, String.length_toList]
  omega

/-- A masked string is longer than any that is left as it is. -/
theorem length_maskText {s : String} (h : 6 ≤ s.length) : 6 ≤ (maskText s).length := by
  have htail : (" chars)>".toList).length = 8 := by decide
  unfold maskText
  rw [String.length_ofList, List.length_cons, List.length_append, List.length_cons,
    List.length_append, List.length_append, List.length_append, htail, length_lastTwo h]
  omega

/-- The number shown is the length. -/
theorem length_eq_of_shown {m n : Nat} (h : (toString m).toList = (toString n).toList) : m = n := by
  have hdigits : ∀ k : Nat, (toString k).toList = Nat.toDigits 10 k := fun k => Nat.toList_repr
  rw [hdigits, hdigits] at h
  rw [← Nat.ofDigitChars_ten_toDigits (n := m), h, Nat.ofDigitChars_ten_toDigits]

/-- What a masked string shows is its ends and its length. -/
theorem maskText_eq_iff {s t : String} (hs : 6 ≤ s.length) (ht : 6 ≤ t.length) :
    maskText s = maskText t ↔ SameEnds s t := by
  have htake : ∀ {u : String}, 6 ≤ u.length → (u.toList.take 2).length = 2 := by
    intro u hu
    rw [List.length_take, String.length_toList]
    omega
  constructor
  · intro h
    unfold maskText at h
    -- the ends have two characters each, so the parts can be told apart from the left
    have hchars := String.ofList_injective h
    obtain ⟨htaken, hrest⟩ := List.append_inj (List.cons.inj hchars).2
      ((htake hs).trans (htake ht).symm)
    obtain ⟨hlast, hrest⟩ := List.append_inj (List.cons.inj hrest).2
      ((length_lastTwo hs).trans (length_lastTwo ht).symm)
    have hnumber := List.append_cancel_right (List.append_cancel_left hrest)
    exact ⟨hs, length_eq_of_shown hnumber, htaken, hlast⟩
  · intro h
    unfold maskText
    rw [h.take_eq, h.lastTwo_eq, h.length_eq]

/-- Two strings print the same when they are one, or share their ends and their length.
-/
theorem masked_str_eq_iff (s t : String) :
    mask (.str s) = mask (.str t) ↔ s = t ∨ SameEnds s t := by
  have hmask : ∀ u : String, mask (.str u) = .str (if 6 ≤ u.length then maskText u else u) :=
    fun u => by rw [mask]
  rw [hmask, hmask, Json.str.injEq]
  -- one string masked and the other not: the masked one is longer
  by_cases hs : 6 ≤ s.length
  · by_cases ht : 6 ≤ t.length
    · rw [if_pos hs, if_pos ht, maskText_eq_iff hs ht]
      refine ⟨Or.inr, ?_⟩
      rintro (rfl | h)
      · exact ⟨hs, rfl, rfl, rfl⟩
      · exact h
    · rw [if_pos hs, if_neg ht]
      refine iff_of_false (fun h => ht (h ▸ length_maskText hs)) ?_
      rintro (rfl | h)
      · exact ht hs
      · exact ht (h.length_eq ▸ hs)
  · rw [if_neg hs]
    have hends : ¬ SameEnds s t := fun h => hs h.long
    by_cases ht : 6 ≤ t.length
    · rw [if_pos ht]
      refine iff_of_false (fun h => hs (h ▸ length_maskText ht)) ?_
      rintro (rfl | h)
      · exact hs ht
      · exact hends h
    · rw [if_neg ht]
      exact (or_iff_left hends).symm

theorem LooksLike.of_eq {v w : Json} (h : v = w) : LooksLike v w := h ▸ .refl v

mutual

/-- What prints the same looks alike: by the shape of the one, then of the other. -/
theorem looksLike_of_mask_eq {v w : Json} (h : mask v = mask w) : LooksLike v w := by
  cases v with
  | obj xs =>
    cases w with
    | obj ys => exact .dict (looksLikeFields_of_maskFields_eq (Json.obj.inj h))
    | _ => exact absurd h (by simp [mask])
  | str s =>
    cases w with
    | str t =>
      rcases (masked_str_eq_iff s t).mp h with rfl | hends
      · exact .refl _
      · exact .text hends
    | _ => exact absurd h (by simp [mask])
  | _ =>
    cases w with
    | obj ys => exact absurd h (by simp [mask])
    | str t => exact absurd h (by simp [mask])
    | _ => exact .of_eq h

/-- And so for the fields of a dict, one by one. -/
theorem looksLikeFields_of_maskFields_eq {xs ys : List (String × Json)}
    (h : maskFields xs = maskFields ys) : LooksLikeFields xs ys := by
  cases xs with
  | nil =>
    cases ys with
    | nil => exact .nil
    | cons y ys => exact absurd h (by simp [maskFields])
  | cons x xs =>
    cases ys with
    | nil => exact absurd h (by simp [maskFields])
    | cons y ys =>
      obtain ⟨key, v⟩ := x
      obtain ⟨key', w⟩ := y
      simp only [maskFields, List.cons.injEq, Prod.mk.injEq] at h
      obtain ⟨⟨rfl, hv⟩, hrest⟩ := h
      exact .cons (looksLike_of_mask_eq hv) (looksLikeFields_of_maskFields_eq hrest)

end

mutual

/-- What looks alike prints the same. -/
theorem LooksLike.mask_eq {v w : Json} : LooksLike v w → mask v = mask w
  | .refl _ => rfl
  | .text hends => (masked_str_eq_iff _ _).mpr (Or.inr hends)
  | .dict h => congrArg Json.obj h.maskFields_eq

theorem LooksLikeFields.maskFields_eq {xs ys : List (String × Json)} :
    LooksLikeFields xs ys → maskFields xs = maskFields ys
  | .nil => rfl
  | .cons hxy hrest => by rw [maskFields, maskFields, hxy.mask_eq, hrest.maskFields_eq]

end

/-- **What the masked output gives away** is everything but the middles of longer strings;
of a list it gives away all. -/
theorem mask_eq_iff (v w : Json) : mask v = mask w ↔ LooksLike v w :=
  ⟨looksLike_of_mask_eq, LooksLike.mask_eq⟩

/-! ## The scripts -/

/-- What the scripts take from the environment. -/
structure Env where
  panelUrl : String
  apiKey : String
  pairingKey : String
  newName : String

namespace Env

def headers (env : Env) : List (String × String) :=
  [("X-Api-Key", env.apiKey), ("X-Pairing-Key", env.pairingKey),
    ("Content-Type", "application/json")]

/-- `g(path)` -/
def g (env : Env) (path : String) : Call :=
  ⟨"GET", rstripSlash env.panelUrl ++ path, none, env.headers⟩

def statusCall (env : Env) : Call := env.g "/api/v1/status"

def pairCall (env : Env) : Call := env.g "/api/v1/pair"

def postCall (env : Env) (body : Json) : Call :=
  ⟨"POST", rstripSlash env.panelUrl ++ "/api/v1/pair", some body, env.headers⟩

end Env

/-- How a script comes to its end: by `SystemExit(2)`, or having found out whether the old
credentials still work. -/
inductive Ending
  | aborted
  | finished (survived : Bool)

/-- A value that may raise, with nobody to catch it. -/
def attempt {α β : Type} (raised : Exc → α) (x : Except Exc β) (next : β → Script α) : Script α :=
  match x with
  | .ok b => next b
  | .error err => .done (raised err)

/-- The body of `pairexp`, from the pairing it has read. -/
def reassertBody (basePair : Json) : Except Exc Json := do
  return .obj [("deviceName", ← basePair.get "deviceName"),
    ("allPartitionAccess", ← basePair.get "allPartitionAccess"),
    ("isSecurityDevice", ← basePair.get "isSecurityDevice"),
    ("memberOfPartition", ← basePair.get "memberOfPartition"),
    ("PairingKey", ← basePair.get "PairingKey")]

/-- What the verdict looks up for its last two lines. -/
def readAfter (r : Reply) : Except Exc Unit := do
  let after ← r.json
  let _ ← after.get "PairingKey"
  let _ ← after.get "deviceName"

def pairexp (env : Env) : Script (Except Exc Ending) :=
  request .error env.statusCall fun st =>
  request .error env.pairCall fun pr =>
  if st.ok && pr.ok then
    attempt .error (pr.json >>= reassertBody) fun body =>
    request .error (env.postCall body) fun _ =>
    request .error env.statusCall fun st2 =>
    request .error env.pairCall fun pr3 =>
    if pr3.ok then
      attempt .error (readAfter pr3) fun _ => .done (.ok (.finished (st2.ok && pr3.ok)))
    else .done (.ok (.finished (st2.ok && pr3.ok)))
  else .done (.ok .aborted)

/-- A line of `pairnew`'s output: a text, or one with a `json.dumps(…)` at its end. -/
inductive Line
  | text (s : String)
  | dumped (label : String) (v : Json)

/-- What a run of `pairnew` leaves: its output, the answer it has written to the file, and
how it ended. -/
structure Ran where
  out : List Line
  file : Option Json
  result : Except Exc Ending

def Ran.stop (result : Except Exc Ending) : Ran := ⟨[], none, result⟩

def Ran.raised (err : Exc) : Ran := .stop (.error err)

/-- `print(…)`, before all that follows. -/
def say (line : Line) (m : Script Ran) : Script Ran :=
  m.bind fun ran => .done { ran with out := line :: ran.out }

/-- `json.dump(…)` into the file. -/
def save (v : Json) (m : Script Ran) : Script Ran :=
  m.bind fun ran => .done { ran with file := ran.file.or (some v) }

/-- The body of `pairnew`. -/
def newBody (env : Env) : Json := enrolBody env.newName 1

section

variable [Runtime]

/-- `mask(r.json()) if r.ok else r.text` -/
def shownPair (r : Reply) : Except Exc String :=
  if r.ok then (r.json.map mask).map Json.pyStr else .ok r.text

/-- The `try` after the post. -/
def showAnswer (r : Reply) (m : Script Ran) : Script Ran :=
  attempt .raised r.tryJson fun
    | some data =>
      say (.dumped "resp  :" (mask data)) <| save data <|
        say (.text "      (full raw response written to /tmp/ha_pair_result.json in-container)") m
    | none => say (.text ("resp  : " ++ String.ofList (r.text.toList.take 300))) m

def pairnew (env : Env) : Script Ran :=
  say (.text "=== BASELINE ===") <|
  request .raised env.statusCall fun st =>
  say (.text ("status: " ++ toString st.status ++ " " ++ st.text)) <|
  request .raised env.pairCall fun pr =>
  attempt .raised (shownPair pr) fun shown =>
  say (.text ("pair  : " ++ toString pr.status ++ " " ++ shown)) <|
  if st.ok && pr.ok then
    say (.text
      ("\n=== POST /api/v1/pair  (new identity: " ++ Json.reprStr env.newName ++ ") ===")) <|
    request .raised (env.postCall (newBody env)) fun r =>
    say (.text ("POST  : " ++ toString r.status)) <|
    showAnswer r <|
    say (.text "\n=== POST-STATE: existing creds still work? ===") <|
    request .raised env.statusCall fun st2 =>
    say (.text ("status(old creds): " ++ toString st2.status ++ " " ++
      String.ofList (st2.text.toList.take 80))) <|
    request .raised env.pairCall fun pr2 =>
    attempt .raised (shownPair pr2) fun shown2 =>
    say (.text ("pair  (old creds): " ++ toString pr2.status ++ " " ++ shown2)) <|
    say (.text ("\nold creds survived: " ++ (Json.bool (st2.ok && pr2.ok)).pyStr)) <|
    .done (.stop (.ok (.finished (st2.ok && pr2.ok))))
  else
    say (.text "!! baseline not healthy; aborting.") <|
    .done (.stop (.ok .aborted))

end

/-! ## How the scripts go -/

/-- What was asked and answered. -/
abbrev Transcript := List (Call × Except Exc Reply)

/-- After a request: what holds over every reply, and over the exception. -/
theorem always_request {α : Type} {raised : Exc → α} {q : Call} {next : Reply → Script α}
    {P : Transcript → α → Prop} (hok : ∀ r, (next r).Always fun t a => P ((q, .ok r) :: t) a)
    (herror : ∀ err, P [(q, .error err)] (raised err)) : (request raised q next).Always P := by
  intro x
  cases x with
  | ok r => exact hok r
  | error err => exact herror err

theorem always_attempt {α β : Type} {raised : Exc → α} {x : Except Exc β} {next : β → Script α}
    {P : Transcript → α → Prop} (hok : ∀ b, x = .ok b → (next b).Always P)
    (herror : ∀ err, x = .error err → P [] (raised err)) : (attempt raised x next).Always P := by
  cases x with
  | ok b => exact hok b rfl
  | error err => exact herror err rfl

/-- What is printed has no part in how a script goes. -/
theorem always_say {line : Line} {m : Script Ran} {P : Transcript → Except Exc Ending → Prop}
    (h : m.Always fun t ran => P t ran.result) :
    (say line m).Always fun t ran => P t ran.result := by
  unfold say
  rw [Ask.always_bind]
  simpa [Ask.Always] using h

theorem always_save {v : Json} {m : Script Ran} {P : Transcript → Except Exc Ending → Prop}
    (h : m.Always fun t ran => P t ran.result) : (save v m).Always fun t ran => P t ran.result := by
  unfold save
  rw [Ask.always_bind]
  simpa [Ask.Always] using h

/-- The two reads after the post. -/
inductive Recheck (env : Env) : Transcript → Except Exc Ending → Prop
  | statusRaised (err : Exc) : Recheck env [(env.statusCall, .error err)] (.error err)
  | pairRaised (st : Reply) (err : Exc) :
    Recheck env [(env.statusCall, .ok st), (env.pairCall, .error err)] (.error err)
  | unread (st pr : Reply) (err : Exc) :
    Recheck env [(env.statusCall, .ok st), (env.pairCall, .ok pr)] (.error err)
  | done (st pr : Reply) :
    Recheck env [(env.statusCall, .ok st), (env.pairCall, .ok pr)]
      (.ok (.finished (st.ok && pr.ok)))

/-- All that can become of a script that makes its post of the pairing it has read. -/
inductive Attempted (env : Env) (bodyFrom : Json → Except Exc Json) :
    Transcript → Except Exc Ending → Prop
  | statusRaised (err : Exc) : Attempted env bodyFrom [(env.statusCall, .error err)] (.error err)
  | pairRaised (st : Reply) (err : Exc) :
    Attempted env bodyFrom [(env.statusCall, .ok st), (env.pairCall, .error err)] (.error err)
  | unhealthy {st pr : Reply} (h : (st.ok && pr.ok) = false) :
    Attempted env bodyFrom [(env.statusCall, .ok st), (env.pairCall, .ok pr)] (.ok .aborted)
  | unread {st pr : Reply} {err : Exc} (h : ∀ v body, pr.json = .ok v → bodyFrom v ≠ .ok body) :
    Attempted env bodyFrom [(env.statusCall, .ok st), (env.pairCall, .ok pr)] (.error err)
  | posted {st pr : Reply} {v body : Json} {answer : Except Exc Reply} {rest : Transcript}
    {r : Except Exc Ending} (hok : (st.ok && pr.ok) = true) (hread : pr.json = .ok v)
    (hbody : bodyFrom v = .ok body)
    -- the post raises, or its answer cannot be read
    (hrest : (∃ err, rest = [] ∧ r = .error err) ∨ (∃ reply, answer = .ok reply) ∧
      Recheck env rest r) :
    Attempted env bodyFrom ((env.statusCall, .ok st) :: (env.pairCall, .ok pr) ::
      (env.postCall body, answer) :: rest) r

/-- What comes after the post, if it leaves a recheck. -/
theorem Attempted.of_recheck {env : Env} {bodyFrom : Json → Except Exc Json} {st pr reply : Reply}
    {v body : Json} (hok : (st.ok && pr.ok) = true) (hread : pr.json = .ok v)
    (hbody : bodyFrom v = .ok body) {rest : Transcript} {r : Except Exc Ending}
    (h : Recheck env rest r) :
    Attempted env bodyFrom ((env.statusCall, .ok st) :: (env.pairCall, .ok pr) ::
      (env.postCall body, .ok reply) :: rest) r :=
  .posted hok hread hbody (Or.inr ⟨⟨reply, rfl⟩, h⟩)

/-- `pairexp` takes one of the paths. -/
theorem pairexp_attempted (env : Env) : (pairexp env).Always (Attempted env reassertBody) := by
  refine always_request (fun st => ?_) .statusRaised
  refine always_request (fun pr => ?_) (.pairRaised st)
  cases hok : st.ok && pr.ok with
  | false => exact .unhealthy hok
  | true =>
    refine always_attempt (fun body hbody => ?_) fun err hraised => ?_
    · obtain ⟨v, hread, hbody⟩ := bind_eq_ok.mp hbody
      refine always_request (fun reply => ?_) fun err =>
        .posted hok hread hbody (Or.inl ⟨err, rfl, rfl⟩)
      refine Ask.Always.imp (P := Recheck env) ?_ fun t r => .of_recheck hok hread hbody
      refine always_request (fun st2 => ?_) .statusRaised
      refine always_request (fun pr3 => ?_) (.pairRaised st2)
      split
      · exact always_attempt (fun _ _ => .done st2 pr3) fun err _ => .unread st2 pr3 err
      · exact .done st2 pr3
    · refine .unread fun v body hread hbody => ?_
      rw [hread] at hraised
      exact absurd (hbody.symm.trans hraised) (by simp)

section

variable [Runtime]

/-- What is shown of a pairing fails only over a body that cannot be read. -/
theorem shownPair_eq_error {r : Reply} {err : Exc} (h : shownPair r = .error err) :
    r.json = .error err := by
  unfold shownPair at h
  split at h
  · cases hjson : r.json with
    | ok v =>
      rw [hjson] at h
      exact absurd h (by simp [Except.map])
    | error err' =>
      rw [hjson] at h
      exact congrArg Except.error (Except.error.inj h)
  · exact absurd h (by simp)

theorem shownPair_eq_ok {r : Reply} {shown : String} (h : shownPair r = .ok shown)
    (hok : r.ok = true) : ∃ v, r.json = .ok v := by
  unfold shownPair at h
  rw [if_pos hok] at h
  cases hjson : r.json with
  | ok v => exact ⟨v, rfl⟩
  | error err =>
    rw [hjson] at h
    exact absurd h (by simp [Except.map])

omit [Runtime] in
/-- After the post the script goes on, or ends in what reading the answer has raised. -/
theorem always_showAnswer {r : Reply} {m : Script Ran}
    {P : Transcript → Except Exc Ending → Prop} (h : m.Always fun t ran => P t ran.result)
    (herror : ∀ err, P [] (.error err)) :
    (showAnswer r m).Always fun t ran => P t ran.result := by
  refine always_attempt (P := fun t (ran : Ran) => P t ran.result) (fun body _ => ?_)
    fun err _ => herror err
  cases body with
  | none => exact always_say h
  | some data => exact always_say (always_save (always_say h))

/-- `pairnew` takes one of the paths, with a body of its own. -/
theorem pairnew_attempted (env : Env) :
    (pairnew env).Always fun t ran => Attempted env (fun _ => .ok (newBody env)) t ran.result := by
  have hbody : ∀ v : Json, (fun _ => .ok (newBody env) : Json → Except Exc Json) v =
      .ok (newBody env) := fun _ => rfl
  refine always_say ?_
  refine always_request (fun st => always_say ?_) .statusRaised
  refine always_request (fun pr => ?_) (.pairRaised st)
  refine always_attempt (fun shown hshown => always_say ?_) fun err hraised => ?_
  · cases hok : st.ok && pr.ok with
    | false => exact always_say (.unhealthy hok)
    | true =>
      obtain ⟨v, hread⟩ := shownPair_eq_ok hshown (Bool.and_eq_true_iff.mp hok).2
      refine always_say ?_
      refine always_request (fun reply => always_say (always_showAnswer (always_say ?_) fun err =>
        .posted hok hread (hbody v) (Or.inl ⟨err, rfl, rfl⟩))) fun err =>
        .posted hok hread (hbody v) (Or.inl ⟨err, rfl, rfl⟩)
      refine Ask.Always.imp (P := fun t ran => Recheck env t ran.result) ?_
        fun t ran => .of_recheck hok hread (hbody v)
      refine always_request (fun st2 => always_say ?_) .statusRaised
      refine always_request (fun pr2 => ?_) (.pairRaised st2)
      exact always_attempt (fun _ _ => always_say (always_say (.done st2 pr2)))
        fun err _ => .unread st2 pr2 err
  · refine .unread fun v body hread _ => ?_
    rw [shownPair_eq_error hraised] at hread
    exact absurd hread (by simp)

end

/-! ## What is written -/

/-- A script asks its five questions in order, as far as it gets; it posts exactly when both
answers before were good and a body could be made of the pairing read, and posts that body;
it exits with 2 only on a baseline that is not healthy, without a post; and what it says of
the old credentials is what the last two reads say. -/
structure WritesOnce (env : Env) (bodyFrom : Json → Except Exc Json) (t : Transcript)
    (r : Except Exc Ending) : Prop where
  calls : ∃ body, t.map (·.1) <+:
    [env.statusCall, env.pairCall, env.postCall body, env.statusCall, env.pairCall]
  posts_iff : ∀ body, env.postCall body ∈ t.map (·.1) ↔
    ∃ st pr v rest, t = (env.statusCall, .ok st) :: (env.pairCall, .ok pr) :: rest ∧
      (st.ok && pr.ok) = true ∧ pr.json = .ok v ∧ bodyFrom v = .ok body
  aborted : r = .ok .aborted → ∃ st pr,
    t = [(env.statusCall, .ok st), (env.pairCall, .ok pr)] ∧ (st.ok && pr.ok) = false
  finished : ∀ survived, r = .ok (.finished survived) → ∃ before st pr,
    t = before ++ [(env.statusCall, .ok st), (env.pairCall, .ok pr)] ∧ before.length = 3 ∧
      survived = (st.ok && pr.ok)

theorem postCall_ne_g (env : Env) (body : Json) (path : String) : env.postCall body ≠ env.g path :=
  fun h => absurd (congrArg Call.method h) (by simp [Env.postCall, Env.g])

/-- The second pair of reads, as far as it got. -/
theorem Recheck.calls {env : Env} {t : Transcript} {r : Except Exc Ending} (h : Recheck env t r) :
    t.map (·.1) <+: [env.statusCall, env.pairCall] := by
  cases h with
  | statusRaised err => exact ⟨[env.pairCall], rfl⟩
  | _ => exact List.prefix_rfl

/-- It ends in an exception, or in what the two answers say. -/
theorem Recheck.ends {env : Env} {t : Transcript} {r : Except Exc Ending} (h : Recheck env t r) :
    (∃ err, r = .error err) ∨ ∃ st pr, t = [(env.statusCall, .ok st), (env.pairCall, .ok pr)] ∧
      r = .ok (.finished (st.ok && pr.ok)) := by
  cases h with
  | done st pr => exact Or.inr ⟨st, pr, rfl, rfl⟩
  | _ => exact Or.inl ⟨_, rfl⟩

/-- A script that never gets to its post. -/
theorem writesOnce_of_unposted {env : Env} {bodyFrom : Json → Except Exc Json} {t : Transcript}
    {r : Except Exc Ending} (hcalls : t.map (·.1) <+: [env.statusCall, env.pairCall])
    (hnone : ∀ st pr v rest body, t = (env.statusCall, .ok st) :: (env.pairCall, .ok pr) :: rest →
      (st.ok && pr.ok) = true → pr.json = .ok v → bodyFrom v ≠ .ok body)
    (hr : (∃ err, r = .error err) ∨ r = .ok .aborted ∧ ∃ st pr,
      t = [(env.statusCall, .ok st), (env.pairCall, .ok pr)] ∧ (st.ok && pr.ok) = false) :
    WritesOnce env bodyFrom t r := by
  constructor
  · exact ⟨.null, hcalls.trans ⟨[_, _, _], rfl⟩⟩
  · intro body
    refine iff_of_false (fun hpost => ?_) ?_
    · rcases List.mem_cons.mp (hcalls.subset hpost) with h | h
      · exact postCall_ne_g env body _ h
      · exact postCall_ne_g env body _ (List.mem_singleton.mp h)
    · rintro ⟨st, pr, v, rest, ht, hok, hread, hbody⟩
      exact hnone st pr v rest body ht hok hread hbody
  · rintro rfl
    rcases hr with ⟨err, h⟩ | ⟨-, h⟩
    · exact absurd h (by simp)
    · exact h
  · rintro survived rfl
    rcases hr with ⟨err, h⟩ | ⟨h, -⟩ <;> exact absurd h (by simp)

/-- On every path but one nothing is posted; on that one the post is the third call, and
all others are reads. -/
theorem Attempted.writesOnce {env : Env} {bodyFrom : Json → Except Exc Json} {t : Transcript}
    {r : Except Exc Ending} (h : Attempted env bodyFrom t r) : WritesOnce env bodyFrom t r := by
  cases h with
  | statusRaised err =>
    exact writesOnce_of_unposted ⟨[_], rfl⟩ (by simp) (Or.inl ⟨err, rfl⟩)
  | pairRaised st err =>
    exact writesOnce_of_unposted List.prefix_rfl (by simp) (Or.inl ⟨err, rfl⟩)
  | @unhealthy st pr hok =>
    refine writesOnce_of_unposted List.prefix_rfl ?_ (Or.inr ⟨rfl, st, pr, rfl, hok⟩)
    rintro st' pr' v rest body ht hok' - -
    simp only [List.cons.injEq, Prod.mk.injEq, Except.ok.injEq, true_and] at ht
    rw [← ht.1, ← ht.2.1, hok] at hok'
    exact absurd hok' (by simp)
  | @unread st pr err hunread =>
    refine writesOnce_of_unposted List.prefix_rfl ?_ (Or.inl ⟨err, rfl⟩)
    rintro st' pr' v rest body ht - hread
    simp only [List.cons.injEq, Prod.mk.injEq, Except.ok.injEq, true_and] at ht
    rw [← ht.2.1] at hread
    exact hunread v body hread
  | @posted st pr v body answer rest _ hok hread hbody hrest =>
    have hafter : rest.map (·.1) <+: [env.statusCall, env.pairCall] := by
      rcases hrest with ⟨err, rfl, -⟩ | ⟨-, hrecheck⟩
      · exact List.nil_prefix
      · exact hrecheck.calls
    constructor
    · exact ⟨body, by
        simp only [List.map_cons, List.cons_prefix_cons, true_and]
        exact hafter⟩
    · intro body'
      constructor
      · intro hpost
        -- the post is the third call, and all the others are reads
        have hsame : body' = body := by
          rcases List.mem_cons.mp hpost with h | h
          · exact absurd h (postCall_ne_g env body' _)
          rcases List.mem_cons.mp h with h | h
          · exact absurd h (postCall_ne_g env body' _)
          rcases List.mem_cons.mp h with h | h
          · exact Option.some.inj (congrArg Call.json h)
          rcases List.mem_cons.mp (hafter.subset h) with h | h
          · exact absurd h (postCall_ne_g env body' _)
          · exact absurd (List.mem_singleton.mp h) (postCall_ne_g env body' _)
        exact ⟨st, pr, v, _, rfl, hok, hread, hsame ▸ hbody⟩
      · rintro ⟨st', pr', v', rest', ht, -, hread', hbody'⟩
        simp only [List.cons.injEq, Prod.mk.injEq, Except.ok.injEq, true_and] at ht
        rw [← ht.2.1, hread] at hread'
        rw [← Except.ok.inj hread', hbody] at hbody'
        rw [← Except.ok.inj hbody']
        simp
    · rintro rfl
      rcases hrest with ⟨err, -, h⟩ | ⟨-, hrecheck⟩
      · exact absurd h (by simp)
      · rcases hrecheck.ends with ⟨err, h⟩ | ⟨st2, pr2, -, h⟩ <;> exact absurd h (by simp)
    · rintro survived rfl
      rcases hrest with ⟨err, -, h⟩ | ⟨-, hrecheck⟩
      · exact absurd h (by simp)
      · rcases hrecheck.ends with ⟨err, h⟩ | ⟨st2, pr2, rfl, h⟩
        · exact absurd h (by simp)
        · exact ⟨[_, _, _], st2, pr2, rfl, rfl, by simpa using h⟩

/-- The body `pairexp` posts is read as the pairing it was made of. -/
theorem pairing_reassertBody [Runtime] {v body : Json} (h : reassertBody v = .ok body) :
    ∃ p, Pairing.fromJson v = .ok p ∧ Pairing.fromJson body = .ok { p with raw := body } := by
  unfold reassertBody at h
  obtain ⟨name, hname, h⟩ := bind_eq_ok.mp h
  by_cases hobj : v.IsObj
  · obtain ⟨fields, rfl⟩ := hobj
    simp only [Json.get_obj, bind_eq_ok, pure_eq_ok, Except.ok.injEq, exists_eq_left'] at hname h
    rw [← h, ← hname]
    exact ⟨_, rfl, rfl⟩
  · obtain ⟨text, hraised⟩ := Json.get_error hobj "deviceName"
    rw [hraised] at hname
    exact absurd hname (by simp)

/-- Two replies with the same status, with one text as far as `pairnew` prints it, and with
JSON that looks alike where it prints the JSON. Of the status all of the text is printed
before the post, and its beginning after it. -/
structure SameLook (env : Env) (asked : List Call) (q : Call) (r r' : Reply) : Prop where
  status_eq : r.status = r'.status
  text_eq : q = env.statusCall ∧ asked = [] ∨ q = env.pairCall ∧ r.ok = false → r.text = r'.text
  status_text_eq : q = env.statusCall → r.text.toList.take 80 = r'.text.toList.take 80
  post_text_eq : q.method = "POST" ∧ r.tryJson = .ok none →
    r.text.toList.take 300 = r'.text.toList.take 300
  pair_json_alike : q = env.pairCall ∧ r.ok = true →
    r.json = r'.json ∨ ∃ v w, r.json = .ok v ∧ r'.json = .ok w ∧ LooksLike v w
  post_json_alike : q.method = "POST" →
    r.tryJson = r'.tryJson ∨ ∃ v w, r.json = .ok v ∧ r'.json = .ok w ∧ LooksLike v w

/-- Two answers of which the output tells the same: one exception, or replies that look
the same. -/
def AnsweredAlike (env : Env) (asked : List Call) (q : Call) (x y : Except Exc Reply) : Prop :=
  (∃ err, x = .error err ∧ y = .error err) ∨
    ∃ r r', x = .ok r ∧ y = .ok r' ∧ SameLook env asked q r r'

/-- Two runs that print the same and end the same way. -/
structure PrintsAlike (ran ran' : Ran) : Prop where
  out_eq : ran.out = ran'.out
  result_eq : ran.result = ran'.result

section

variable {env : Env}

theorem SameLook.ok_eq {asked : List Call} {q : Call} {r r' : Reply}
    (h : SameLook env asked q r r') : r.ok = r'.ok := by
  unfold Reply.ok
  rw [h.status_eq]

/-- A request, if what follows is blind to the answers that look the same. -/
theorem blind_request {asked : List Call} {q : Call} {next next' : Reply → Script Ran}
    (h : ∀ r r', SameLook env asked q r r' →
      Ask.Blind (AnsweredAlike env) PrintsAlike (asked ++ [q]) (next r) (next' r')) :
    Ask.Blind (AnsweredAlike env) PrintsAlike asked (request .raised q next)
      (request .raised q next') := by
  refine ⟨rfl, ?_⟩
  rintro x y (⟨err, rfl, rfl⟩ | ⟨r, r', rfl, rfl, hlook⟩)
  · exact ⟨rfl, rfl⟩
  · exact h r r' hlook

theorem blind_say {asked : List Call} {line line' : Line} {m m' : Script Ran}
    (hline : line = line') (h : Ask.Blind (AnsweredAlike env) PrintsAlike asked m m') :
    Ask.Blind (AnsweredAlike env) PrintsAlike asked (say line m) (say line' m') := by
  refine h.bind fun _ ran ran' hran => ?_
  exact ⟨congrArg₂ List.cons hline hran.out_eq, hran.result_eq⟩

/-- What is written to the file is not printed. -/
theorem blind_save {asked : List Call} {v w : Json} {m m' : Script Ran}
    (h : Ask.Blind (AnsweredAlike env) PrintsAlike asked m m') :
    Ask.Blind (AnsweredAlike env) PrintsAlike asked (save v m) (save w m') :=
  h.bind fun _ _ _ hran => ⟨hran.out_eq, hran.result_eq⟩

theorem blind_attempt {α : Type} {asked : List Call} {x y : Except Exc α}
    {next next' : α → Script Ran} (hxy : x = y)
    (h : ∀ a, Ask.Blind (AnsweredAlike env) PrintsAlike asked (next a) (next' a)) :
    Ask.Blind (AnsweredAlike env) PrintsAlike asked (attempt .raised x next)
      (attempt .raised y next') := by
  subst hxy
  cases x with
  | ok a => exact h a
  | error err => exact ⟨rfl, rfl⟩

variable [Runtime]

/-- Of an answer to a read of `/pair` the same is shown. -/
theorem shownPair_eq {asked : List Call} {r r' : Reply} (h : SameLook env asked env.pairCall r r') :
    shownPair r = shownPair r' := by
  unfold shownPair
  rw [← h.ok_eq]
  cases hok : r.ok with
  | false => exact congrArg Except.ok (h.text_eq (Or.inr ⟨rfl, hok⟩))
  | true =>
    rcases h.pair_json_alike ⟨rfl, hok⟩ with hsame | ⟨v, w, hv, hw, hlooks⟩
    · rw [hsame, if_pos rfl, if_pos rfl]
    · rw [hv, hw]
      exact congrArg (fun v => Except.ok (Json.pyStr v)) ((mask_eq_iff _ _).mpr hlooks)

omit [Runtime] in
/-- And the same of the answer to the post, by whether it is JSON. -/
theorem blind_showAnswer {asked asked' : List Call} {body : Json} {r r' : Reply}
    (h : SameLook env asked (env.postCall body) r r')
    {m m' : Script Ran} (hm : Ask.Blind (AnsweredAlike env) PrintsAlike asked' m m') :
    Ask.Blind (AnsweredAlike env) PrintsAlike asked' (showAnswer r m) (showAnswer r' m') := by
  unfold showAnswer
  rcases h.post_json_alike rfl with hsame | ⟨v, w, hv, hw, hlooks⟩
  · rw [← hsame]
    cases hbody : r.tryJson with
    | error err => exact ⟨rfl, rfl⟩
    | ok body =>
      cases body with
      | none => exact blind_say (by rw [h.post_text_eq ⟨rfl, hbody⟩]) hm
      | some v => exact blind_say rfl (blind_save (blind_say rfl hm))
  · rw [tryJson_of_json hv, tryJson_of_json hw]
    exact blind_say (congrArg _ ((mask_eq_iff _ _).mpr hlooks)) (blind_save (blind_say rfl hm))

/-- `pairnew` does not tell answers apart that look the same. -/
theorem pairnew_blind (env : Env) :
    Ask.Blind (AnsweredAlike env) PrintsAlike [] (pairnew env) (pairnew env) := by
  refine blind_say rfl (blind_request fun st st' hst => ?_)
  refine blind_say (by rw [hst.status_eq, hst.text_eq (Or.inl ⟨rfl, rfl⟩)])
    (blind_request fun pr pr' hpr => ?_)
  refine blind_attempt (shownPair_eq hpr) fun shown => blind_say (by rw [hpr.status_eq]) ?_
  rw [← hst.ok_eq, ← hpr.ok_eq]
  cases st.ok && pr.ok with
  | false => exact blind_say rfl ⟨rfl, rfl⟩
  | true =>
    -- the answer to the post is shown by its status and its masked JSON
    refine blind_say rfl (blind_request fun r r' hr => blind_say (by rw [hr.status_eq]) ?_)
    refine blind_showAnswer hr (blind_say rfl (blind_request fun st2 st2' hst2 => ?_))
    refine blind_say (by rw [hst2.status_eq, hst2.status_text_eq rfl])
      (blind_request fun pr2 pr2' hpr2 => ?_)
    refine blind_attempt (shownPair_eq hpr2) fun shown2 => blind_say (by rw [hpr2.status_eq]) ?_
    rw [← hst2.ok_eq, ← hpr2.ok_eq]
    exact blind_say rfl ⟨rfl, rfl⟩

/-- **The output keeps the middles of the secrets.** Two panels that answer alike but for the
middles of strings of six characters or more, outside of lists, in the JSON that is printed,
and for whatever is not printed at all, hear the same from `pairnew` and see it print the same
and end the same way. What is printed of an answer may depend on what was asked before. -/
theorem pairnew_hides (env : Env) {σ τ : Type} {serve : σ → Call → Except Exc Reply × σ}
    {serve' : τ → Call → Except Exc Reply × τ} {T : List Call → σ → τ → Prop}
    (hserve : ∀ asked s t q, T asked s t →
      AnsweredAlike env asked q (serve s q).1 (serve' t q).1 ∧
        T (asked ++ [q]) (serve s q).2 (serve' t q).2)
    {s : σ} {t : τ} (h : T [] s t) :
    PrintsAlike ((pairnew env).run serve s).1 ((pairnew env).run serve' t).1 ∧
      ((pairnew env).transcript serve s).map (·.1) =
        ((pairnew env).transcript serve' t).map (·.1) :=
  (pairnew_blind env).run hserve h

end

def sampleEnv : Env := ⟨"https://192.168.1.25:3000/", "old-key", "123456", "Home Assistant"⟩

/-- A panel in pairing mode, about to issue this key. -/
def issuing (key : String) (_ : Unit) (q : Call) : Except Exc Reply × Unit :=
  if q.method = "POST" then (.ok ⟨200, key, .ok (.obj [("apiKey", .str key)]), by simp⟩, ())
  else (.ok ⟨200, "ready", .ok (.obj [("armState", .str "ready")]), by simp⟩, ())

/-- The output does not tell two keys with the same ends apart. -/
theorem issued_key_hidden :
    PrintsAlike ((@pairnew latin1 sampleEnv).run (issuing "8f14e45fceea167a5a36") ()).1
      ((@pairnew latin1 sampleEnv).run (issuing "8fdddddddddddddddd36") ()).1 := by
  refine (@pairnew_hides latin1 sampleEnv Unit Unit _ _ (fun _ _ _ => True) ?_ () () trivial).1
  intro asked _ _ q _
  refine ⟨?_, trivial⟩
  unfold issuing
  split
  next hpost =>
    have hread : ∀ path, q ≠ sampleEnv.g path := by
      rintro path rfl
      exact absurd hpost (by simp [Env.g])
    refine Or.inr ⟨_, _, rfl, rfl, rfl, ?_, fun h => absurd h (hread _), ?_,
      fun h => absurd h.1 (hread _), fun _ => Or.inr ⟨_, _, rfl, rfl, ?_⟩⟩
    · rintro (⟨h, -⟩ | ⟨h, -⟩) <;> exact absurd h (hread _)
    · rintro ⟨-, h⟩
      exact absurd h (by simp [Reply.tryJson])
    · exact .dict (.cons (.text ⟨by decide, by decide, by decide, by decide⟩) .nil)
  next =>
    exact Or.inr ⟨_, _, rfl, rfl, rfl, fun _ => rfl, fun _ => rfl, fun _ => rfl,
      fun _ => Or.inl rfl, fun _ => Or.inl rfl⟩

end Gc3.Tools.Pair
