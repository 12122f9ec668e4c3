import Gc3.Lib.Runs
import Gc3.Pygc3.Client

/-!
# Who closes which session

The session fields of the client under several tasks at once. A request takes the
session from `_ensure_session` in one step; a `close()` has two, since it awaits the
session's own close before it clears the field, and the others run in between.

A session the client created is lost when it is neither the current one nor closed nor
being closed by anyone, and once lost it stays lost. What loses it is a `close()` that
clears the field of a session it did not close: `accounted_iff` says that this is the
only way, over every interleaving of requests and closes, and `second_session_leaks` is
a run of six steps in which it happens.

Two invariants carry the proof. `Own` holds of every reachable state of a client that
was given no session: it owns all it has, and its current session is open. `Kept` is
what can be lost: `kept_step_iff` says that a step keeps it exactly when the step is
`Undisturbed`, and `lost_step` that no step brings it back, which together are what
`Runs.run_iff_along` asks for. A client that was given its session never changes at all
(`run_injected`).
-/

namespace Gc3.Pygc3

/-- A session passed to the constructor, or the `n`th the client created. -/
inductive Session (σ : Type)
  | injected (session : σ)
  | created (n : ℕ)
  deriving DecidableEq, Repr

/-- `_session` and `_owns_session`, how many sessions the client has created, those it
has closed, and the one that each suspended `close()` awaits. -/
structure Sessions (σ : Type) where
  session : Option (Session σ)
  ownsSession : Bool
  created : ℕ
  closed : List (Session σ)
  closing : List (Session σ)

/-- What a task does between two awaits. -/
inductive SessionStep
  /-- A request starts, and takes its session. -/
  | request
  /-- A `close()` starts, and runs up to its await. -/
  | close
  /-- The `i`th suspended `close()` goes on: the session it awaits has closed. -/
  | resume (i : ℕ)
  deriving DecidableEq, Repr

namespace Sessions

variable {σ : Type}

/-- `GC3Client(..., session=session)` -/
def init (session : Option σ) : Sessions σ where
  session := session.map .injected
  ownsSession := session.isNone
  created := 0
  closed := []
  closing := []

/-- The session a request uses: the current one, or a new one the client owns. -/
def ensureSession (s : Sessions σ) : Session σ × Sessions σ :=
  match s.session with
  | some session => (session, s)
  | none =>
    (.created s.created, { s with
      session := some (.created s.created)
      ownsSession := true
      created := s.created + 1 })

/-- `close()` up to its await. -/
def close (s : Sessions σ) : Sessions σ :=
  match s.session with
  | some session =>
    if s.ownsSession then { s with closing := s.closing ++ [session] } else s
  | none => s

/-- `close()` from its await on: the field is cleared whatever it holds by now. -/
def resume (s : Sessions σ) (i : ℕ) : Sessions σ :=
  match s.closing[i]? with
  | some session => { s with
      session := none
      closed := s.closed ++ [session]
      closing := s.closing.eraseIdx i }
  | none => s

def step (s : Sessions σ) : SessionStep → Sessions σ
  | .request => s.ensureSession.2
  | .close => s.close
  | .resume i => s.resume i

/-! ## What is asked -/

/-- Every session the client created is the current one or has been closed. -/
def Accounted (s : Sessions σ) : Prop :=
  ∀ n < s.created, s.session = some (.created n) ∨ .created n ∈ s.closed

/-- A `close()` that goes on finds no session in the field but one that it, or another
suspended `close()`, is closing. -/
def Undisturbed (s : Sessions σ) : SessionStep → Prop
  | .resume i => i < s.closing.length → ∀ session, s.session = some session → session ∈ s.closing
  | _ => True

/-! ## A session that was passed in -/

/-- A client that was given its session does not own it, so no step of any task changes
anything. -/
theorem step_injected (session : σ) (e : SessionStep) :
    (init (some session)).step e = init (some session) := by
  cases e <;> rfl

/-- And no run does. -/
theorem run_injected (session : σ) (steps : List SessionStep) :
    Runs.run step (init (some session)) steps = init (some session) :=
  Runs.run_invariant (I := (· = init (some session))) rfl
    (fun _ e h => h ▸ step_injected session e) steps

/-- There is no suspended `close()` in such a client to be disturbed. -/
theorem undisturbed_injected (session : σ) (e : SessionStep) :
    Undisturbed (init (some session)) e := by
  cases e with
  | request => trivial
  | close => trivial
  | resume i => exact fun h => absurd h (Nat.not_lt_zero i)

/-! ## Sessions of its own -/

/-- The client has only sessions it created, and the current one is open. -/
structure Own (s : Sessions σ) : Prop where
  owns : s.ownsSession = true
  session_lt : ∀ session, s.session = some session → ∃ n < s.created, session = .created n
  closed_lt : ∀ session ∈ s.closed, ∃ n < s.created, session = .created n
  closing_lt : ∀ session ∈ s.closing, ∃ n < s.created, session = .created n
  session_open : ∀ session, s.session = some session → session ∉ s.closed

/-- A client that was given no session starts without one. -/
theorem own_init : Own (init (none : Option σ)) where
  owns := rfl
  session_lt := fun _ h => absurd h (by simp [init])
  closed_lt := fun _ h => absurd h (by simp [init])
  closing_lt := fun _ h => absurd h (by simp [init])
  session_open := fun _ h => absurd h (by simp [init])

theorem request_of_some {s : Sessions σ} {session : Session σ} (h : s.session = some session) :
    s.step .request = s := by
  unfold step ensureSession
  rw [h]

theorem request_of_none {s : Sessions σ} (h : s.session = none) :
    s.step .request = { s with
      session := some (.created s.created)
      ownsSession := true
      created := s.created + 1 } := by
  unfold step ensureSession
  rw [h]

/-- A `close()` of an own session suspends, with that session to close. -/
theorem close_of_some {s : Sessions σ} {session : Session σ} (howns : s.ownsSession = true)
    (h : s.session = some session) :
    s.step .close = { s with closing := s.closing ++ [session] } := by
  unfold step close
  rw [h]
  exact if_pos howns

theorem close_of_none {s : Sessions σ} (h : s.session = none) : s.step .close = s := by
  unfold step close
  rw [h]

/-- A suspended `close()` goes on: its session is closed, and the field cleared. -/
theorem resume_of_lt {s : Sessions σ} {i : ℕ} (h : i < s.closing.length) :
    s.step (.resume i) = { s with
      session := none
      closed := s.closed ++ [s.closing[i]]
      closing := s.closing.eraseIdx i } := by
  unfold step resume
  dsimp only
  rw [List.getElem?_eq_getElem h]

theorem resume_of_ge {s : Sessions σ} {i : ℕ} (h : s.closing.length ≤ i) :
    s.step (.resume i) = s := by
  unfold step resume
  dsimp only
  rw [List.getElem?_eq_none h]

/-- Every step keeps `Own`. Only a request fills the field, with a number no closed
session has; `close` and `resume` move sessions from one list to the next. -/
theorem Own.step {s : Sessions σ} (h : Own s) (e : SessionStep) : Own (s.step e) := by
  cases e with
  | request =>
    cases hs : s.session with
    | some session =>
      rw [request_of_some hs]
      exact h
    | none =>
      rw [request_of_none hs]
      have hgrow : ∀ session : Session σ, (∃ n < s.created, session = .created n) →
          ∃ n < s.created + 1, session = .created n := by
        intro session ⟨n, hn, hsession⟩
        exact ⟨n, Nat.lt_succ_of_lt hn, hsession⟩
      refine ⟨rfl, fun session hnew => ?_, fun session hin => hgrow _ (h.closed_lt _ hin),
        fun session hin => hgrow _ (h.closing_lt _ hin), fun session hnew hin => ?_⟩
      · exact ⟨s.created, Nat.lt_succ_self _, (Option.some.inj hnew).symm⟩
      · -- a session just created has not been closed
        obtain ⟨n, hn, hsession⟩ := h.closed_lt _ hin
        rw [← Option.some.inj hnew] at hsession
        have heq := Session.created.inj hsession
        omega
  | close =>
    cases hs : s.session with
    | none =>
      rw [close_of_none hs]
      exact h
    | some session =>
      rw [close_of_some h.owns hs]
      refine ⟨h.owns, h.session_lt, h.closed_lt, fun session' hin => ?_, h.session_open⟩
      rcases List.mem_append.mp hin with hin | hin
      · exact h.closing_lt session' hin
      · rw [List.mem_singleton.mp hin]
        exact h.session_lt session hs
  | resume i =>
    rcases Nat.lt_or_ge i s.closing.length with hlt | hge
    · rw [resume_of_lt hlt]
      refine ⟨h.owns, fun _ hnone => absurd hnone (by simp), fun session hin => ?_,
        fun session hin => h.closing_lt session (List.mem_of_mem_eraseIdx hin),
        fun _ hnone => absurd hnone (by simp)⟩
      rcases List.mem_append.mp hin with hin | hin
      · exact h.closed_lt session hin
      · rw [List.mem_singleton.mp hin]
        exact h.closing_lt _ (List.getElem_mem hlt)
    · rw [resume_of_ge hge]
      exact h

/-! ## Losing one -/

/-- Every session the client created is the current one, or has been closed, or is
being closed. -/
def Kept (s : Sessions σ) : Prop :=
  ∀ n < s.created, s.session = some (.created n) ∨ .created n ∈ s.closed ∨ .created n ∈ s.closing

/-- When no `close()` is suspended, nothing is being closed. -/
theorem accounted_iff_kept {s : Sessions σ} (h : s.closing = []) : Accounted s ↔ Kept s := by
  unfold Accounted Kept
  simp [h]

/-- After a `close()` has gone on, what is kept is what has been closed or is being
closed. -/
theorem kept_resume_iff {s : Sessions σ} {i : ℕ} (h : i < s.closing.length) :
    Kept (s.step (.resume i)) ↔
      ∀ n < s.created, .created n ∈ s.closed ∨ .created n ∈ s.closing := by
  have hmem := fun session => (List.getElem_cons_eraseIdx_perm h).mem_iff (a := session)
  unfold Kept
  rw [resume_of_lt h]
  simp only [← hmem, reduceCtorEq, false_or, List.mem_append, List.mem_cons, List.not_mem_nil,
    or_assoc]

/-- A step keeps every session exactly when it is undisturbed. -/
theorem kept_step_iff {s : Sessions σ} (h : Own s) (hk : Kept s) (e : SessionStep) :
    Kept (s.step e) ↔ Undisturbed s e := by
  cases e with
  | request =>
    refine iff_of_true ?_ trivial
    cases hs : s.session with
    | some session =>
      rw [request_of_some hs]
      exact hk
    | none =>
      rw [request_of_none hs]
      intro n hn
      rcases Nat.lt_succ_iff_lt_or_eq.mp hn with hlt | rfl
      · have hold := hk n hlt
        rw [hs] at hold
        exact Or.inr (hold.resolve_left (by simp))
      · exact Or.inl rfl
  | close =>
    refine iff_of_true ?_ trivial
    cases hs : s.session with
    | none =>
      rw [close_of_none hs]
      exact hk
    | some session =>
      rw [close_of_some h.owns hs]
      intro n hn
      rcases hk n hn with hcurrent | hclosed | hclosing
      · exact Or.inl hcurrent
      · exact Or.inr (Or.inl hclosed)
      · exact Or.inr (Or.inr (List.mem_append_left _ hclosing))
  | resume i =>
    rcases Nat.lt_or_ge i s.closing.length with hlt | hge
    · -- the field is cleared: what it held must be on its way to being closed
      rw [kept_resume_iff hlt]
      constructor
      · intro hall _ session hs
        obtain ⟨n, hn, rfl⟩ := h.session_lt session hs
        exact (hall n hn).resolve_left (h.session_open _ hs)
      · intro hundisturbed n hn
        rcases hk n hn with hcurrent | hkept
        · exact Or.inr (hundisturbed hlt _ hcurrent)
        · exact hkept
    · rw [resume_of_ge hge]
      exact iff_of_true hk fun hlt => absurd hlt (Nat.not_lt.mpr hge)

/-- What is lost is out of reach of every later step. -/
theorem lost_step {s : Sessions σ} (h : Own s) (hk : ¬ Kept s) (e : SessionStep) :
    ¬ Kept (s.step e) := by
  intro hnext
  refine hk fun n hn => ?_
  cases e with
  | request =>
    cases hs : s.session with
    | some session =>
      rw [request_of_some hs] at hnext
      rw [← hs]
      exact hnext n hn
    | none =>
      rw [request_of_none hs] at hnext
      rcases hnext n (Nat.lt_succ_of_lt hn) with hcurrent | hkept
      · -- the session just created has a number of its own
        have heq := Session.created.inj (Option.some.inj hcurrent)
        omega
      · exact Or.inr hkept
  | close =>
    cases hs : s.session with
    | none =>
      rw [close_of_none hs] at hnext
      rw [← hs]
      exact hnext n hn
    | some session =>
      rw [close_of_some h.owns hs] at hnext
      rcases hnext n hn with hcurrent | hclosed | hclosing
      · exact Or.inl (hs.symm.trans hcurrent)
      · exact Or.inr (Or.inl hclosed)
      · rcases List.mem_append.mp hclosing with hclosing | hclosing
        · exact Or.inr (Or.inr hclosing)
        · rw [List.mem_singleton.mp hclosing]
          exact Or.inl rfl
  | resume i =>
    rcases Nat.lt_or_ge i s.closing.length with hlt | hge
    · exact Or.inr ((kept_resume_iff hlt).mp hnext n hn)
    · rw [resume_of_ge hge] at hnext
      exact hnext n hn

/-- **Sessions are neither leaked nor closed for others exactly when** no `close()`
goes on over a session that nobody is closing. For every client and every run: a
session passed to the constructor stays the current one and is not closed; and where
no `close()` is suspended, every session the client created is the current one or has
been closed, if and only if every step before met the condition. -/
theorem accounted_iff (session : Option σ) (steps : List SessionStep) :
    let s := Runs.run step (init session) steps
    (∀ given, session = some given →
        s.session = some (.injected given) ∧ .injected given ∉ s.closed) ∧
      (s.closing = [] → (Accounted s ↔ Runs.Along step Undisturbed (init session) steps)) := by
  intro s
  cases session with
  | some given =>
    have hs : s = init (some given) := run_injected given steps
    have halong : Runs.Along step Undisturbed (init (some given)) steps := by
      refine Runs.along_iff.mpr fun before e _ => ?_
      rw [run_injected]
      exact undisturbed_injected given e
    rw [hs]
    refine ⟨fun given' hgiven => ?_, fun _ => iff_of_true (fun n hn => absurd hn ?_) halong⟩
    · rw [← Option.some.inj hgiven]
      exact ⟨rfl, List.not_mem_nil⟩
    · exact Nat.not_lt_zero n
  | none =>
    refine ⟨fun _ h => absurd h (by simp), fun hquiet => ?_⟩
    rw [accounted_iff_kept hquiet]
    exact Runs.run_iff_along (I := Own) (K := Kept) (fun t e h => h.step e)
      (fun t e h hk => kept_step_iff h hk e) (fun t e h hk => lost_step h hk e) own_init
      (fun n hn => absurd hn (Nat.not_lt_zero n)) steps

/-- Two calls of `close()`, the later one done first, and a request between their ends:
the second session is lost. -/
theorem second_session_leaks :
    ¬ ∀ steps : List SessionStep, (Runs.run step (init (none : Option Unit)) steps).closing = [] →
      Accounted (Runs.run step (init (none : Option Unit)) steps) := by
  intro h
  have hlost := h [.request, .close, .close, .resume 1, .request, .resume 0] rfl 1 (by decide)
  exact absurd hlost (by decide)

end Sessions

end Gc3.Pygc3
