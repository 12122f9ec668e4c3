import Mathlib.Data.String.Basic

/-!
# UTF-8 with replacement

Decoding that cannot fail: a byte sequence that starts like a character and breaks off
is read as one U+FFFD, and the byte at which it broke off is looked at afresh. The
decoder is a machine that takes one byte at a time (`step`); between bytes it holds the
character it is in the middle of (`Pending`), with the range in which the next byte has
to lie, which is how overlong forms and surrogates are shut out.

Three things are used of it elsewhere:

* `decode_encode` — what was encoded comes back. The machine is followed through one
  character, of two, three or four bytes (`decodeFrom_two` and its siblings), and then
  from character to character.
* `decode_append_ascii` — an ASCII byte ends whatever was begun before it and stands for
  itself, since no character has such a byte in its middle (`lead_lower`, `step_lower`).
  So a text may be cut at its newlines before or after it is decoded.
* `decode_eq_nil_iff` — only no bytes at all decode to no text: every byte completes a
  character or leaves one begun, and what is left begun at the end is one U+FFFD.
-/

namespace Utf8

/-- A character begun: the continuation bytes it still wants, the range the next
one has to lie in, and the bits read so far. -/
structure Pending where
  needed : Nat
  lower : Nat
  upper : Nat
  point : Nat
  deriving DecidableEq, Repr

def replacement : Char := '\uFFFD'

/-- A byte that no character is pending before. -/
def lead (b : Nat) : List Char × Option Pending :=
  if b ≤ 0x7f then ([Char.ofNat b], none)
  else if 0xc2 ≤ b ∧ b ≤ 0xdf then ([], some ⟨1, 0x80, 0xbf, b - 0xc0⟩)
  else if b = 0xe0 then ([], some ⟨2, 0xa0, 0xbf, 0⟩)
  else if b = 0xed then ([], some ⟨2, 0x80, 0x9f, 0xd⟩)
  else if 0xe1 ≤ b ∧ b ≤ 0xef then ([], some ⟨2, 0x80, 0xbf, b - 0xe0⟩)
  else if b = 0xf0 then ([], some ⟨3, 0x90, 0xbf, 0⟩)
  else if 0xf1 ≤ b ∧ b ≤ 0xf3 then ([], some ⟨3, 0x80, 0xbf, b - 0xf0⟩)
  else if b = 0xf4 then ([], some ⟨3, 0x80, 0x8f, 4⟩)
  else ([replacement], none)

/-- One more byte: the characters it completes, and what is pending after it. -/
def step : Option Pending → Nat → List Char × Option Pending
  | none, b => lead b
  | some p, b =>
    if p.lower ≤ b ∧ b ≤ p.upper then
      let point := p.point * 64 + (b - 0x80)
      if p.needed = 1 then ([Char.ofNat point], none)
      else ([], some ⟨p.needed - 1, 0x80, 0xbf, point⟩)
    else (replacement :: (lead b).1, (lead b).2)

/-- The characters of `bs`, read with `pending` already begun. -/
def decodeFrom (pending : Option Pending) : List UInt8 → List Char
  | [] => if pending.isSome then [replacement] else []
  | b :: bs => (step pending b.toNat).1 ++ decodeFrom (step pending b.toNat).2 bs

def decode (bs : List UInt8) : List Char := decodeFrom none bs

def encode (cs : List Char) : List UInt8 := cs.flatMap String.utf8EncodeChar

/-! ## Reading back one character -/

/-- A byte of the encoder, as the number it was made from. -/
theorem toNat_byte {n : Nat} (h : n < 256) : (UInt8.ofNat n).toNat = n := by
  rw [UInt8.toNat_ofNat']
  exact Nat.mod_eq_of_lt h

/-- A continuation byte inside the pending range, more of them to come. -/
theorem step_more {p : Pending} {d : Nat} (hlower : p.lower ≤ d + 0x80)
    (hupper : d + 0x80 ≤ p.upper) (hneeded : p.needed ≠ 1) :
    step (some p) (d + 0x80) = ([], some ⟨p.needed - 1, 0x80, 0xbf, p.point * 64 + d⟩) := by
  simp only [step, if_pos (And.intro hlower hupper), if_neg hneeded, Nat.add_sub_cancel]

/-- The last continuation byte. -/
theorem step_last {p : Pending} {d : Nat} (hlower : p.lower ≤ d + 0x80)
    (hupper : d + 0x80 ≤ p.upper) (hneeded : p.needed = 1) :
    step (some p) (d + 0x80) = ([Char.ofNat (p.point * 64 + d)], none) := by
  simp only [step, if_pos (And.intro hlower hupper), if_pos hneeded, Nat.add_sub_cancel]

/-- A character of two bytes. -/
theorem decodeFrom_two {a b : Nat} (ha : a < 32) (ha' : 2 ≤ a) (hb : b < 64) (bs : List UInt8) :
    decodeFrom none (UInt8.ofNat (a + 0xc0) :: UInt8.ofNat (b + 0x80) :: bs)
      = Char.ofNat (a * 64 + b) :: decodeFrom none bs := by
  have hlead : step none (a + 0xc0) = ([], some ⟨1, 0x80, 0xbf, a⟩) := by
    simp only [step, lead]
    rw [if_neg (by omega), if_pos (by omega), Nat.add_sub_cancel]
  rw [decodeFrom, toNat_byte (by omega), hlead, decodeFrom, toNat_byte (by omega),
    step_last (by dsimp only; omega) (by dsimp only; omega) rfl]
  rfl

/-- A character of three: not overlong, and no surrogate. -/
theorem decodeFrom_three {a b c : Nat} (ha : a < 16) (hb : b < 64) (hc : c < 64)
    (hsmall : 0x800 ≤ a * 4096 + b * 64 + c)
    (hsurrogate : a * 4096 + b * 64 + c < 0xd800 ∨ 0xdfff < a * 4096 + b * 64 + c)
    (bs : List UInt8) :
    decodeFrom none (UInt8.ofNat (a + 0xe0) :: UInt8.ofNat (b + 0x80) ::
      UInt8.ofNat (c + 0x80) :: bs)
      = Char.ofNat (a * 4096 + b * 64 + c) :: decodeFrom none bs := by
  obtain ⟨p, hlead, hneeded, hpoint, hlower, hupper⟩ : ∃ p, step none (a + 0xe0) = ([], some p) ∧
      p.needed = 2 ∧ p.point = a ∧ p.lower ≤ b + 0x80 ∧ b + 0x80 ≤ p.upper := by
    simp only [step, lead]
    rw [if_neg (by omega), if_neg (by omega)]
    by_cases h0 : a + 0xe0 = 0xe0
    · rw [if_pos h0]
      exact ⟨_, rfl, rfl, by dsimp only; omega, by dsimp only; omega, by dsimp only; omega⟩
    · rw [if_neg h0]
      by_cases hd : a + 0xe0 = 0xed
      · rw [if_pos hd]
        exact ⟨_, rfl, rfl, by dsimp only; omega, by dsimp only; omega, by dsimp only; omega⟩
      · rw [if_neg hd, if_pos (by omega)]
        exact ⟨_, rfl, rfl, by dsimp only; omega, by dsimp only; omega, by dsimp only; omega⟩
  have hpoint' : (a * 64 + b) * 64 + c = a * 4096 + b * 64 + c := by omega
  rw [decodeFrom, toNat_byte (by omega), hlead, decodeFrom, toNat_byte (by omega),
    step_more hlower hupper (by omega), decodeFrom, toNat_byte (by omega),
    step_last (by dsimp only; omega) (by dsimp only; omega) (by dsimp only; omega)]
  dsimp only
  rw [hpoint, hpoint']
  rfl

/-- A character of four: not overlong, and no further than the last code point. -/
theorem decodeFrom_four {a b c d : Nat} (hb : b < 64) (hc : c < 64) (hd : d < 64)
    (hsmall : 0x10000 ≤ a * 262144 + b * 4096 + c * 64 + d)
    (hlarge : a * 262144 + b * 4096 + c * 64 + d < 0x110000) (bs : List UInt8) :
    decodeFrom none (UInt8.ofNat (a + 0xf0) :: UInt8.ofNat (b + 0x80) ::
      UInt8.ofNat (c + 0x80) :: UInt8.ofNat (d + 0x80) :: bs)
      = Char.ofNat (a * 262144 + b * 4096 + c * 64 + d) :: decodeFrom none bs := by
  obtain ⟨p, hlead, hneeded, hpoint, hlower, hupper⟩ : ∃ p, step none (a + 0xf0) = ([], some p) ∧
      p.needed = 3 ∧ p.point = a ∧ p.lower ≤ b + 0x80 ∧ b + 0x80 ≤ p.upper := by
    simp only [step, lead]
    rw [if_neg (by omega), if_neg (by omega), if_neg (by omega), if_neg (by omega),
      if_neg (by omega)]
    by_cases h0 : a + 0xf0 = 0xf0
    · rw [if_pos h0]
      exact ⟨_, rfl, rfl, by dsimp only; omega, by dsimp only; omega, by dsimp only; omega⟩
    · rw [if_neg h0]
      by_cases h3 : 0xf1 ≤ a + 0xf0 ∧ a + 0xf0 ≤ 0xf3
      · rw [if_pos h3]
        exact ⟨_, rfl, rfl, by dsimp only; omega, by dsimp only; omega, by dsimp only; omega⟩
      · rw [if_neg h3, if_pos (by omega)]
        exact ⟨_, rfl, rfl, by dsimp only; omega, by dsimp only; omega, by dsimp only; omega⟩
  have hpoint' : ((a * 64 + b) * 64 + c) * 64 + d = a * 262144 + b * 4096 + c * 64 + d := by omega
  rw [decodeFrom, toNat_byte (by omega), hlead, decodeFrom, toNat_byte (by omega),
    step_more hlower hupper (by omega), decodeFrom, toNat_byte (by omega),
    step_more (by dsimp only; omega) (by dsimp only; omega) (by dsimp only; omega), decodeFrom,
    toNat_byte (by omega),
    step_last (by dsimp only; omega) (by dsimp only; omega) (by dsimp only; omega)]
  dsimp only
  rw [hpoint, hpoint']
  rfl

/-- One encoded character is read back, whatever follows it. -/
theorem decodeFrom_encodeChar (c : Char) (bs : List UInt8) :
    decodeFrom none (String.utf8EncodeChar c ++ bs) = c :: decodeFrom none bs := by
  have hvalid : c.val.toNat < 0xd800 ∨ 0xdfff < c.val.toNat ∧ c.val.toNat < 0x110000 := c.valid
  have hc : Char.ofNat c.val.toNat = c := Char.ofNat_toNat c
  unfold String.utf8EncodeChar
  generalize c.val.toNat = v at hvalid hc
  rw [← hc]
  dsimp only
  split
  · next h1 =>
    have hstep : step none v = ([Char.ofNat v], none) := by
      simp only [step, lead]
      rw [if_pos h1]
    rw [List.singleton_append, decodeFrom, toNat_byte (by omega), hstep]
    rfl
  · split
    · next h1 h2 =>
      rw [List.cons_append, List.singleton_append, decodeFrom_two (by omega) (by omega) (by omega)]
      congr 2
      omega
    · split
      · next h1 h2 h3 =>
        rw [List.cons_append, List.cons_append, List.singleton_append,
          decodeFrom_three (by omega) (by omega) (by omega) (by omega) (by omega)]
        congr 2
        omega
      · rw [List.cons_append, List.cons_append, List.cons_append, List.singleton_append,
          decodeFrom_four (by omega) (by omega) (by omega) (by omega) (by omega)]
        congr 2
        omega

/-- **What was encoded is decoded again.** -/
theorem decode_encode (cs : List Char) : decode (encode cs) = cs := by
  unfold decode encode
  induction cs with
  | nil => rfl
  | cons c cs ih => rw [List.flatMap_cons, decodeFrom_encodeChar, ih]

/-! ## ASCII bytes -/

/-- No range for a next byte reaches down to ASCII. -/
theorem lead_lower {b : Nat} {p : Pending} (h : (lead b).2 = some p) : 0x80 ≤ p.lower := by
  unfold lead at h
  split_ifs at h <;> simp only [Option.some.injEq] at h
  all_goals
    subst h
    simp

/-- Nor has any range that is pending in the middle of a character. -/
theorem step_lower {pending : Option Pending} {b : Nat} {p : Pending}
    (h : (step pending b).2 = some p) : 0x80 ≤ p.lower := by
  cases pending with
  | none => exact lead_lower h
  | some q =>
    simp only [step] at h
    split at h
    · split at h
      · contradiction
      · obtain rfl := Option.some.inj h
        exact Nat.le_refl 0x80
    · exact lead_lower h

/-- An ASCII byte before which nothing is pending. -/
theorem lead_ascii {b : Nat} (h : b < 0x80) : lead b = ([Char.ofNat b], none) := by
  unfold lead
  rw [if_pos (by omega)]

/-- In the middle of a character, where the range keeps ASCII bytes out. -/
theorem decodeFrom_ascii {pending : Option Pending} (hp : ∀ p, pending = some p → 0x80 ≤ p.lower)
    (bs : List UInt8) {x : UInt8} (hx : x.toNat < 0x80) (rest : List UInt8) :
    decodeFrom pending (bs ++ x :: rest)
      = decodeFrom pending bs ++ Char.ofNat x.toNat :: decodeFrom none rest := by
  induction bs generalizing pending with
  | nil =>
    rw [List.nil_append, decodeFrom, decodeFrom]
    cases pending with
    | none =>
      rw [step, lead_ascii hx]
      rfl
    | some p =>
      have hlower := hp p rfl
      rw [step, if_neg (by omega), lead_ascii hx]
      rfl
  | cons b bs ih =>
    rw [List.cons_append, decodeFrom, decodeFrom, ih fun p h => step_lower h, List.append_assoc]

/-- An ASCII byte ends whatever was begun before it and stands for itself. -/
theorem decode_append_ascii (bs : List UInt8) {x : UInt8} (hx : x.toNat < 0x80)
    (rest : List UInt8) :
    decode (bs ++ x :: rest) = decode bs ++ Char.ofNat x.toNat :: decode rest :=
  decodeFrom_ascii (by simp) bs hx rest

/-- ASCII bytes are their own characters. -/
theorem decode_of_ascii {bs : List UInt8} (h : ∀ x ∈ bs, x.toNat < 0x80) :
    decode bs = bs.map fun x => Char.ofNat x.toNat := by
  induction bs with
  | nil => rfl
  | cons x bs ih =>
    have hhead := decode_append_ascii [] (h x (List.mem_cons_self ..)) bs
    rw [List.nil_append] at hhead
    rw [hhead, ih fun y hy => h y (List.mem_cons_of_mem _ hy)]
    rfl

/-- A byte completes a character or leaves one begun. -/
theorem step_some {pending : Option Pending} {b : Nat} (h : (step pending b).1 = []) :
    (step pending b).2.isSome = true := by
  have hlead : ∀ b : Nat, (lead b).1 = [] → (lead b).2.isSome = true := by
    intro b
    unfold lead
    split_ifs <;> simp
  cases pending with
  | none => exact hlead b h
  | some p =>
    unfold step at h ⊢
    dsimp only at h ⊢
    split_ifs at h ⊢
    rfl

/-- What is pending is read as a character too, should the bytes end there. -/
theorem decodeFrom_eq_nil_iff {pending : Option Pending} {bs : List UInt8} :
    decodeFrom pending bs = [] ↔ pending = none ∧ bs = [] := by
  induction bs generalizing pending with
  | nil => cases pending <;> simp [decodeFrom]
  | cons b bs ih =>
    rw [decodeFrom, List.append_eq_nil_iff, ih]
    refine iff_of_false ?_ (by simp)
    rintro ⟨hnone, hpending, -⟩
    have hsome := step_some hnone
    rw [hpending] at hsome
    contradiction

/-- Only nothing decodes to nothing. -/
theorem decode_eq_nil_iff {bs : List UInt8} : decode bs = [] ↔ bs = [] := by
  unfold decode
  rw [decodeFrom_eq_nil_iff]
  simp

end Utf8
