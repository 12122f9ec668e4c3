import Mathlib.Data.List.Infix

/-!
# Cutting a stream at a separator

A reader collects what arrives in a buffer and cuts a frame off it wherever a separator
has come in. `cutAll` is what that makes of a whole buffer: the frames before each
separator, leftmost first, and what is left; `feed` is one more chunk.

Two facts make such a reader trustworthy, and both are equations:

* `cutAll_append` — cutting first and reading on is cutting the longer buffer, so how
  the stream was split into chunks shows in neither the frames nor the rest.
* `glue_cutAll` — putting the separators back gives the stream, so nothing is lost and
  nothing is read twice.

Both go by induction on the length of the buffer, along the cuts: a buffer without a
separator is left alone, and one with a separator is a first frame and a shorter buffer
(`cutAll_of_none`, `cutAll_of_some`). What they need of one cut is that it takes the
buffer apart (`append_of_cutAt`) and that bytes arriving behind it do not move it
(`cutAt_append`), which is where it matters that the leftmost separator is taken.
`cutUpTo` has a bound on the number of frames, the length of the buffer, which is never
met unless the separator is empty (`cutUpTo_eq`).
-/

namespace Framing

variable {α : Type*} [DecidableEq α]

/-- What stands before the first `sep` and what stands after it. -/
def cutAt (sep : List α) : List α → Option (List α × List α)
  | [] => if sep = [] then some ([], []) else none
  | b :: bs =>
    if sep <+: b :: bs then some ([], (b :: bs).drop sep.length)
    else (cutAt sep bs).map fun (frame, rest) => (b :: frame, rest)

/-- Cut off frames while there is a separator, at most `n` of them. -/
def cutUpTo (sep : List α) : ℕ → List α → List (List α) × List α
  | 0, buf => ([], buf)
  | n + 1, buf =>
    match cutAt sep buf with
    | none => ([], buf)
    | some (frame, rest) => (frame :: (cutUpTo sep n rest).1, (cutUpTo sep n rest).2)

/-- All frames of a buffer, and what is left of it: no more frames than bytes. -/
def cutAll (sep buf : List α) : List (List α) × List α := cutUpTo sep buf.length buf

/-- One chunk more: the frames so far and those it completes, and the new rest. -/
def feed (sep : List α) (st : List (List α) × List α) (chunk : List α) :
    List (List α) × List α :=
  (st.1 ++ (cutAll sep (st.2 ++ chunk)).1, (cutAll sep (st.2 ++ chunk)).2)

/-- Frames and rest, with the separators put back. -/
def glue (sep : List α) (st : List (List α) × List α) : List α :=
  (st.1.map (· ++ sep)).flatten ++ st.2

variable {sep : List α}

/-! ## One cut -/

/-- A cut takes a buffer apart. -/
theorem append_of_cutAt {buf frame rest : List α} (h : cutAt sep buf = some (frame, rest)) :
    frame ++ sep ++ rest = buf := by
  induction buf generalizing frame with
  | nil =>
    unfold cutAt at h
    split at h
    · next hsep =>
      simp only [Option.some.injEq, Prod.mk.injEq] at h
      obtain ⟨rfl, rfl⟩ := h
      rw [hsep]
      rfl
    · contradiction
  | cons b bs ih =>
    unfold cutAt at h
    split at h
    · next hstarts =>
      simp only [Option.some.injEq, Prod.mk.injEq] at h
      obtain ⟨rfl, rfl⟩ := h
      exact List.prefix_append_drop hstarts |>.symm
    · obtain ⟨⟨frame', rest'⟩, hcut, heq⟩ := Option.map_eq_some_iff.mp h
      simp only [Prod.mk.injEq] at heq
      obtain ⟨rfl, rfl⟩ := heq
      rw [List.cons_append, List.cons_append, ih hcut]

/-- There is nothing to cut where the separator does not occur. -/
theorem cutAt_eq_none_iff {buf : List α} : cutAt sep buf = none ↔ ¬ sep <:+: buf := by
  induction buf with
  | nil => by_cases h : sep = [] <;> simp [cutAt, h]
  | cons b bs ih =>
    unfold cutAt
    rw [List.infix_cons_iff, not_or, ← ih]
    by_cases h : sep <+: b :: bs <;> simp [h]

/-- More bytes behind it do not move the first separator. -/
theorem cutAt_append {buf frame rest : List α} (h : cutAt sep buf = some (frame, rest))
    (more : List α) : cutAt sep (buf ++ more) = some (frame, rest ++ more) := by
  induction buf generalizing frame with
  | nil =>
    unfold cutAt at h
    split at h
    · next hsep =>
      simp only [Option.some.injEq, Prod.mk.injEq] at h
      obtain ⟨rfl, rfl⟩ := h
      subst hsep
      cases more <;> simp [cutAt]
    · contradiction
  | cons b bs ih =>
    unfold cutAt at h
    rw [List.cons_append, cutAt]
    split at h
    · next hstarts =>
      simp only [Option.some.injEq, Prod.mk.injEq] at h
      obtain ⟨rfl, rfl⟩ := h
      rw [← List.cons_append, if_pos (hstarts.trans (List.prefix_append _ _)),
        List.drop_append_of_le_length hstarts.length_le]
    · next hstarts =>
      obtain ⟨⟨frame', rest'⟩, hcut, heq⟩ := Option.map_eq_some_iff.mp h
      simp only [Prod.mk.injEq] at heq
      obtain ⟨rfl, rfl⟩ := heq
      -- a separator that starts here would lie within the buffer, since one does further on
      have hnot : ¬ sep <+: b :: (bs ++ more) := by
        intro hlong
        have hlen := congrArg List.length (append_of_cutAt hcut)
        rw [List.length_append, List.length_append] at hlen
        refine hstarts
          (List.prefix_of_prefix_length_le hlong (List.prefix_append (b :: bs) more) ?_)
        rw [List.length_cons]
        omega
      rw [if_neg hnot, ih hcut]
      rfl

/-! ## All cuts -/

/-- A cut shortens the buffer, so that the cuts come to an end. -/
theorem length_lt_of_cutAt (hsep : sep ≠ []) {buf frame rest : List α}
    (h : cutAt sep buf = some (frame, rest)) : rest.length < buf.length := by
  have hpos := List.length_pos_of_ne_nil hsep
  rw [← append_of_cutAt h, List.length_append, List.length_append]
  omega

/-- The bound on the number of frames is never met. -/
theorem cutUpTo_eq (hsep : sep ≠ []) {n m : ℕ} {buf : List α} (hn : buf.length ≤ n)
    (hm : buf.length ≤ m) : cutUpTo sep n buf = cutUpTo sep m buf := by
  induction n generalizing m buf with
  | zero =>
    obtain rfl := List.eq_nil_of_length_eq_zero (Nat.le_zero.mp hn)
    cases m with
    | zero => rfl
    | succ m => simp [cutUpTo, cutAt, hsep]
  | succ n ih =>
    cases m with
    | zero =>
      obtain rfl := List.eq_nil_of_length_eq_zero (Nat.le_zero.mp hm)
      simp [cutUpTo, cutAt, hsep]
    | succ m =>
      unfold cutUpTo
      cases h : cutAt sep buf with
      | none => rfl
      | some p =>
        obtain ⟨frame, rest⟩ := p
        have hlt := length_lt_of_cutAt hsep h
        dsimp only
        rw [ih (m := m) (by omega) (by omega)]

/-- A buffer without a separator is all rest. -/
theorem cutAll_of_none {buf : List α} (h : cutAt sep buf = none) : cutAll sep buf = ([], buf) := by
  unfold cutAll
  cases hlen : buf.length with
  | zero => rfl
  | succ n => rw [cutUpTo, h]

/-- A buffer with one is its first frame, and then the cuts of what is behind it. -/
theorem cutAll_of_some (hsep : sep ≠ []) {buf frame rest : List α}
    (h : cutAt sep buf = some (frame, rest)) :
    cutAll sep buf = (frame :: (cutAll sep rest).1, (cutAll sep rest).2) := by
  have hlt := length_lt_of_cutAt hsep h
  unfold cutAll
  obtain ⟨n, hn⟩ : ∃ n, buf.length = n + 1 := ⟨buf.length - 1, by omega⟩
  rw [hn, cutUpTo, h]
  dsimp only
  rw [cutUpTo_eq hsep (by omega) (Nat.le_refl rest.length)]

/-- **Chunks do not show**: a buffer cut and then fed a chunk is cut like the two at once. -/
theorem cutAll_append (hsep : sep ≠ []) (buf more : List α) :
    cutAll sep (buf ++ more) = feed sep (cutAll sep buf) more := by
  induction h : buf.length using Nat.strongRecOn generalizing buf with
  | _ n ih =>
    cases hcut : cutAt sep buf with
    | none =>
      rw [cutAll_of_none hcut]
      rfl
    | some p =>
      obtain ⟨frame, rest⟩ := p
      have hlt := length_lt_of_cutAt hsep hcut
      rw [cutAll_of_some hsep hcut, cutAll_of_some hsep (cutAt_append hcut more),
        ih rest.length (h ▸ hlt) rest rfl]
      rfl

/-- **Nothing is lost**: each frame with its separator, then the rest, is the buffer. -/
theorem glue_cutAll (hsep : sep ≠ []) (buf : List α) : glue sep (cutAll sep buf) = buf := by
  induction h : buf.length using Nat.strongRecOn generalizing buf with
  | _ n ih =>
    cases hcut : cutAt sep buf with
    | none => rw [cutAll_of_none hcut]; rfl
    | some p =>
      obtain ⟨frame, rest⟩ := p
      have hlt := length_lt_of_cutAt hsep hcut
      have hrest := ih rest.length (h ▸ hlt) rest rfl
      rw [cutAll_of_some hsep hcut]
      unfold glue at hrest ⊢
      rw [List.map_cons, List.flatten_cons, List.append_assoc, hrest, append_of_cutAt hcut]

end Framing
