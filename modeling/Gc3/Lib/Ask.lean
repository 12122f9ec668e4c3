import Gc3.Lib.Runs

/-!
# Programs that ask

A program that asks questions of a server it knows nothing about: it goes on with
whatever it is answered, and returns a result. The server has a state of its own and may
answer the same question differently each time. Programs are put together with `bind`;
against a server a program is `run`, and what it was asked and answered is its
`transcript`.

What is proved of a program comes in three forms, each with a rule for `bind`, so that
it is shown piece by piece along the program's text, and a rule that says what it means
against a server:

* `Always` — what holds of transcript and result whatever the answers are.
* `Alike` — two programs that ask the same as long as they are answered the same, and
  come to related results.
* `Blind` — two programs that ask the same although some answers to them differ: what
  they cannot tell apart is given by a relation on answers, which may depend on the
  question and on what was asked before.

In a *session* a machine takes one program a step against one server. `session` says
when it is a run of a machine that asks nothing, one act for each step, and
`Alike.session` when two sessions ask the same, whatever the server is. Both are
inductions on the inputs of the session over the rule for one program.
-/

universe u v

/-- A program that asks `Q`s, is answered by `A`s, and returns an `α`. -/
inductive Ask (Q A : Type u) (α : Type v)
  | done (a : α)
  | ask (q : Q) (next : A → Ask Q A α)

namespace Ask

variable {Q A : Type u} {α β : Type v} {σ : Type*}

/-- One program after another. -/
def bind (m : Ask Q A α) (f : α → Ask Q A β) : Ask Q A β :=
  match m with
  | done a => f a
  | ask q next => ask q fun x => (next x).bind f

instance : Monad (Ask Q A) where
  pure := done
  bind := bind

/-! ## Running -/

/-- The result against a server in state `s`, and the state that is left. -/
def run (serve : σ → Q → A × σ) : Ask Q A α → σ → α × σ
  | done a, s => (a, s)
  | ask q next, s => (next (serve s q).1).run serve (serve s q).2

/-- The questions the server is asked, with its answers. -/
def transcript (serve : σ → Q → A × σ) : Ask Q A α → σ → List (Q × A)
  | done _, _ => []
  | ask q next, s => (q, (serve s q).1) :: (next (serve s q).1).transcript serve (serve s q).2

/-! ## What two programs ask alike -/

/-- As long as they are answered alike, two programs ask the same questions, and
their results are related. -/
def Alike (R : α → β → Prop) : Ask Q A α → Ask Q A β → Prop
  | done a, done b => R a b
  | ask q next, ask q' next' => q = q' ∧ ∀ x, Alike R (next x) (next' x)
  | _, _ => False

/-- A program asks what it asks itself. -/
theorem Alike.refl {R : α → α → Prop} (hR : ∀ a, R a a) (m : Ask Q A α) : Alike R m m := by
  induction m with
  | done a => exact hR a
  | ask q next ih => exact ⟨rfl, ih⟩

/-- One program after another: alike in front, and alike behind wherever the results in
front are related. -/
theorem Alike.bind {γ δ : Type v} {R : α → β → Prop} {S : γ → δ → Prop} {m : Ask Q A α}
    {m' : Ask Q A β} {f : α → Ask Q A γ} {f' : β → Ask Q A δ} (hm : Alike R m m')
    (hf : ∀ a b, R a b → Alike S (f a) (f' b)) : Alike S (m.bind f) (m'.bind f') := by
  induction m generalizing m' with
  | done a =>
    cases m' with
    | done b => exact hf a b hm
    | ask q' next' => exact absurd hm id
  | ask q next ih =>
    cases m' with
    | done b => exact absurd hm id
    | ask q' next' => exact ⟨hm.1, fun x => ih x (hm.2 x)⟩

/-- Against one server, what is asked and answered is the same, and so is the state it
is left in. -/
theorem Alike.run {R : α → β → Prop} {m : Ask Q A α} {m' : Ask Q A β} (h : Alike R m m')
    (serve : σ → Q → A × σ) (s : σ) :
    R (m.run serve s).1 (m'.run serve s).1 ∧ (m.run serve s).2 = (m'.run serve s).2 ∧
      m.transcript serve s = m'.transcript serve s := by
  induction m generalizing m' s with
  | done a =>
    cases m' with
    | done b => exact ⟨h, rfl, rfl⟩
    | ask q' next' => exact absurd h id
  | ask q next ih =>
    cases m' with
    | done b => exact absurd h id
    | ask q' next' =>
      obtain ⟨rfl, hnext⟩ := h
      obtain ⟨hR, hstate, hsame⟩ := ih (serve s q).1 (hnext _) (serve s q).2
      exact ⟨hR, hstate, congrArg (_ :: ·) hsame⟩

/-! ## Whatever the answers -/

/-- `P` holds of what is asked and answered and of the result, whatever the answers are. -/
def Always : Ask Q A α → (List (Q × A) → α → Prop) → Prop
  | done a, P => P [] a
  | ask q next, P => ∀ x, Always (next x) fun t a => P ((q, x) :: t) a

/-- What holds whatever the answers are holds against every server. -/
theorem Always.run {m : Ask Q A α} {P : List (Q × A) → α → Prop} (h : Always m P)
    (serve : σ → Q → A × σ) (s : σ) : P (m.transcript serve s) (m.run serve s).1 := by
  induction m generalizing P s with
  | done a => exact h
  | ask q next ih => exact ih _ (h _) _

/-- It may be weakened under the program. -/
theorem Always.imp {m : Ask Q A α} {P P' : List (Q × A) → α → Prop} (h : Always m P)
    (himp : ∀ t a, P t a → P' t a) : Always m P' := by
  induction m generalizing P P' with
  | done a => exact himp [] a h
  | ask q next ih => exact fun x => ih x (h x) fun t a => himp ((q, x) :: t) a

/-- One program after another: the transcript of both together. -/
theorem always_bind {m : Ask Q A α} {f : α → Ask Q A β} {P : List (Q × A) → β → Prop} :
    Always (m.bind f) P ↔ Always m fun t a => Always (f a) fun t' b => P (t ++ t') b := by
  induction m generalizing P with
  | done a => exact Iff.rfl
  | ask q next ih => exact forall_congr' fun x => ih x

/-! ## What a program cannot tell apart -/

/-- Two programs that, as long as the answers to one question are related by `E`, go on
to ask the same, and end with related results. What is related may depend on what was
asked before. -/
def Blind (E : List Q → Q → A → A → Prop) (R : α → β → Prop) :
    List Q → Ask Q A α → Ask Q A β → Prop
  | _, done a, done b => R a b
  | asked, ask q next, ask q' next' =>
    q = q' ∧ ∀ x y, E asked q x y → Blind E R (asked ++ [q]) (next x) (next' y)
  | _, _, _ => False

/-- One blind program after another: whatever was asked by the end of the first, the
second is blind from there. -/
theorem Blind.bind {γ δ : Type v} {E : List Q → Q → A → A → Prop} {R : α → β → Prop}
    {S : γ → δ → Prop} {asked : List Q} {m : Ask Q A α} {m' : Ask Q A β} {f : α → Ask Q A γ}
    {f' : β → Ask Q A δ} (hm : Blind E R asked m m')
    (hf : ∀ asked' a b, R a b → Blind E S asked' (f a) (f' b)) :
    Blind E S asked (m.bind f) (m'.bind f') := by
  induction m generalizing m' asked with
  | done a =>
    cases m' with
    | done b => exact hf asked a b hm
    | ask q' next' => exact absurd hm id
  | ask q next ih =>
    cases m' with
    | done b => exact absurd hm id
    | ask q' next' => exact ⟨hm.1, fun x y hxy => ih x (hm.2 x y hxy)⟩

/-- Two servers that keep answering alike hear the same questions, and the results
are related. -/
theorem Blind.run {τ : Type*} {E : List Q → Q → A → A → Prop} {R : α → β → Prop}
    {m : Ask Q A α} {m' : Ask Q A β} {asked : List Q} (h : Blind E R asked m m')
    {serve : σ → Q → A × σ} {serve' : τ → Q → A × τ} {T : List Q → σ → τ → Prop}
    (hserve : ∀ asked s t q, T asked s t →
      E asked q (serve s q).1 (serve' t q).1 ∧ T (asked ++ [q]) (serve s q).2 (serve' t q).2)
    {s : σ} {t : τ} (h0 : T asked s t) :
    R (m.run serve s).1 (m'.run serve' t).1 ∧
      (m.transcript serve s).map (·.1) = (m'.transcript serve' t).map (·.1) := by
  induction m generalizing m' s t asked with
  | done a =>
    cases m' with
    | done b => exact ⟨h, rfl⟩
    | ask q' next' => exact absurd h id
  | ask q next ih =>
    cases m' with
    | done b => exact absurd h id
    | ask q' next' =>
      obtain ⟨rfl, hnext⟩ := h
      obtain ⟨hanswers, hstates⟩ := hserve asked s t q h0
      obtain ⟨hR, hsame⟩ := ih _ (hnext _ _ hanswers) hstates
      exact ⟨hR, congrArg (q :: ·) hsame⟩

/-! ## Sessions -/

variable {τ τ' : Type v} {ι κ : Type*}

/-- One step of a session: the machine's program for the input, run against the server. -/
def sessionStep (serve : σ → Q → A × σ) (prog : τ → ι → Ask Q A τ) (s : τ × σ)
    (i : ι) : τ × σ := (prog s.1 i).run serve s.2

/-- The transcript of a session, step by step. -/
def sessionTranscript (serve : σ → Q → A × σ) (prog : τ → ι → Ask Q A τ) (s : τ × σ)
    (is : List ι) : List (List (Q × A)) :=
  Runs.outputs (sessionStep serve prog) (fun s i => (prog s.1 i).transcript serve s.2) s is

/-- **Session rule**: if every step, whatever the state of the server, is an act of the
machine `act`, one that its input and what was said account for, then so is the session:
its end is the end of a run of `act`, of one act for each step. -/
theorem session {serve : σ → Q → A × σ} {prog : τ → ι → Ask Q A τ} {act : τ → κ → τ}
    {I : τ → Prop} {Performs : ι → List (Q × A) → κ → Prop} (hI : ∀ t k, I t → I (act t k))
    (h : ∀ t i s, I t → ∃ k, Performs i ((prog t i).transcript serve s) k ∧
      ((prog t i).run serve s).1 = act t k)
    {s : τ × σ} (h0 : I s.1) (is : List ι) :
    ∃ ks : List κ, ks.length = is.length ∧
      (Runs.run (sessionStep serve prog) s is).1 = Runs.run act s.1 ks ∧
      List.Forall₂ (fun i (w : List (Q × A) × κ) => Performs i w.1 w.2) is
        ((sessionTranscript serve prog s is).zip ks) := by
  induction is generalizing s with
  | nil => exact ⟨[], rfl, rfl, .nil⟩
  | cons i is ih =>
    obtain ⟨k, hk, hact⟩ := h s.1 i s.2 h0
    have hstep : (sessionStep serve prog s i).1 = act s.1 k := hact
    obtain ⟨ks, hlength, hend, hrest⟩ :=
      ih (s := sessionStep serve prog s i) (hstep ▸ hI s.1 k h0)
    refine ⟨k :: ks, congrArg (· + 1) hlength, ?_, .cons hk hrest⟩
    rw [Runs.run_cons, hend, hstep, Runs.run_cons]

/-- **Two-session rule**: if related states and related inputs give programs that ask
alike and return related states, then two sessions with one server ask it the same
throughout. -/
theorem Alike.session {prog : τ → ι → Ask Q A τ} {prog' : τ' → κ → Ask Q A τ'}
    {R : τ → τ' → Prop} {E : ι → κ → Prop}
    (h : ∀ t t' i j, R t t' → E i j → Alike R (prog t i) (prog' t' j))
    (serve : σ → Q → A × σ) {t : τ} {t' : τ'} {s : σ} (h0 : R t t') {is : List ι} {js : List κ}
    (hinputs : List.Forall₂ E is js) :
    sessionTranscript serve prog (t, s) is = sessionTranscript serve prog' (t', s) js ∧
      R (Runs.run (sessionStep serve prog) (t, s) is).1
        (Runs.run (sessionStep serve prog') (t', s) js).1 := by
  induction hinputs generalizing t t' s with
  | nil => exact ⟨rfl, h0⟩
  | @cons i j is js hij _ ih =>
    obtain ⟨hR, hstate, hsame⟩ := (h t t' i j h0 hij).run serve s
    -- the server is left in one state, from which both sessions go on
    have hstep : sessionStep serve prog' (t', s) j =
        (((prog' t' j).run serve s).1, ((prog t i).run serve s).2) := Prod.ext rfl hstate.symm
    obtain ⟨hrest, hend⟩ := ih (s := ((prog t i).run serve s).2) hR
    unfold sessionTranscript at hrest ⊢
    rw [Runs.outputs, Runs.outputs, Runs.run_cons, Runs.run_cons, hstep]
    exact ⟨List.cons_eq_cons.mpr ⟨hsame, hrest⟩, hend⟩

end Ask
