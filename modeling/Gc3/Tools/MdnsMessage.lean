import Gc3.Tools.MdnsDecode

/-!
# Well-formed messages

What the format says a name, a question, a record and a message are, as relations
between a buffer and what lies in it — stated without the decoder — and the proof that
`parse_message` reads back exactly that. A name may be compressed: its bytes go on at a
pointer's target, and the next field follows the first pointer, wherever the rest of the
name is.

`Encodes` is that relation for names, an inductive one with a derivation for every chain
of labels and pointers; its last index counts the pointers, since a decoder that is to
end must give up on some number of them, and this one does so past twenty. `WellFormed`
puts header, questions and records together, back to back.

The proof follows the derivation. `returns_of_encodes` is the induction, from any state
of the loop that has enough jumps left, and `decodeName_of_nameAt` its case at the start
of a name; sections are read by induction over `BackToBack`. `wellFormed_parsed` is the
result, and `ptrReply` a reply with a compressed name, as the panel would send it.
-/

namespace Gc3.Tools.MdnsProbe

open Gc3.Py Loop

/-! ## The format -/

/-- The bytes at `off` encode the labels, by way of so many pointers; what follows
the name begins at `after`. -/
inductive Encodes (buf : Bytes) : (off : Nat) → (labels : List Bytes) →
    (pointers after : Nat) → Prop
  | root {off : Nat} (h : At buf off [0]) : Encodes buf off [] 0 (off + 1)
  | label {off pointers after : Nat} {raw : Bytes} {labels : List Bytes} {len : UInt8}
      (hlen : len.toNat = raw.length) (hpos : 1 ≤ raw.length) (hmax : raw.length ≤ 63)
      (h : At buf off (len :: raw))
      (hrest : Encodes buf (off + 1 + raw.length) labels pointers after) :
      Encodes buf off (raw :: labels) pointers after
  | pointer {off pointers after : Nat} {labels : List Bytes} {hi lo : UInt8}
      (hhi : 192 ≤ hi.toNat) (h : At buf off [hi, lo])
      (htarget : Encodes buf ((hi.toNat - 192) * 256 + lo.toNat) labels pointers after) :
      Encodes buf off labels (pointers + 1) (off + 2)

/-- A name as the decoder has to read it: at most 20 pointers long. -/
def NameAt (buf : Bytes) (off : Nat) (labels : List Bytes) (after : Nat) : Prop :=
  ∃ pointers ≤ 20, Encodes buf off labels pointers after

/-- The text of a name: its labels, decoded, with dots between them. -/
def dotted (labels : List Bytes) : String := ".".intercalate (labels.map Bytes.decodeReplace)

structure WireQuestion where
  labels : List Bytes
  qtype : UInt16
  qclass : UInt16

structure WireRecord where
  labels : List Bytes
  rtype : UInt16
  rclass : UInt16
  ttl : UInt32
  rdata : Bytes
  /-- The labels that the data of a PTR record names. -/
  target : List Bytes

/-- A name, then two bytes of type and two of class. -/
def QuestionAt (buf : Bytes) (off : Nat) (q : WireQuestion) (after : Nat) : Prop :=
  ∃ mid, NameAt buf off q.labels mid ∧
    At buf mid (packed [(2, q.qtype.toNat), (2, q.qclass.toNat)]) ∧ after = mid + 4

/-- A name; type, class, time to live and length of the data; the data, which in a
PTR record is a name. -/
def RecordAt (buf : Bytes) (off : Nat) (r : WireRecord) (after : Nat) : Prop :=
  ∃ mid, NameAt buf off r.labels mid ∧ r.rdata.length < 65536 ∧
    At buf mid (packed [(2, r.rtype.toNat), (2, r.rclass.toNat), (4, r.ttl.toNat),
      (2, r.rdata.length)] ++ r.rdata) ∧
    (r.rtype = 12 → ∃ stop, NameAt buf (mid + 10) r.target stop) ∧
    after = mid + 10 + r.rdata.length

/-- One after the other. -/
inductive BackToBack {α : Type} (item : Nat → α → Nat → Prop) : Nat → List α → Nat → Prop
  | nil {off : Nat} : BackToBack item off [] off
  | cons {off mid after : Nat} {a : α} {rest : List α} (h : item off a mid)
      (hrest : BackToBack item mid rest after) : BackToBack item off (a :: rest) after

/-- A message: the header with the exact counts, the questions, the records of the
three sections. -/
structure WellFormed (buf : Bytes) (questions : List WireQuestion)
    (an ns ar : List WireRecord) : Prop where
  header : ∃ id flags : UInt16, At buf 0 (packed [(2, id.toNat), (2, flags.toNat),
    (2, questions.length), (2, an.length), (2, ns.length), (2, ar.length)])
  counts : questions.length < 65536 ∧ an.length < 65536 ∧ ns.length < 65536 ∧ ar.length < 65536
  body : ∃ mid after, BackToBack (QuestionAt buf) 12 questions mid ∧
    BackToBack (RecordAt buf) mid (an ++ ns ++ ar) after

/-! ## Names -/

variable {buf : Bytes}

/-- A name has at least its last byte in the buffer. -/
theorem NameAt.lt_length {off after : Nat} {labels : List Bytes}
    (h : NameAt buf off labels after) : off < buf.length := by
  obtain ⟨pointers, -, henc⟩ := h
  cases henc with
  | root h => exact lt_length_of_getElem? h.getElem?
  | label hlen hpos hmax h => exact lt_length_of_getElem? h.getElem?
  | pointer hhi h => exact lt_length_of_getElem? h.getElem?

/-- From any state of the loop with enough jumps left, the rest of the name is
appended, and the offset is the first pointer's if there has been one. -/
theorem returns_of_encodes {off : Nat} {labels : List Bytes} {pointers after : Nat}
    (h : Encodes buf off labels pointers after) (s : NameState) (hoff : s.off = off)
    (hhops : s.hops + pointers ≤ 20) :
    Returns (nameStep buf) s (".".intercalate (s.labels ++ labels.map Bytes.decodeReplace),
      if s.jumped then s.end_ else after) := by
  induction h generalizing s with
  | root h =>
    subst hoff
    rw [List.map_nil, List.append_nil]
    exact .done (nameStep_zero h.getElem?)
  | @label off pointers after raw labels len hlen hpos hmax h hrest ih =>
    subst hoff
    have hslice : buf.slice (s.off + 1) (s.off + 1 + len.toNat) = raw := by
      rw [hlen]
      exact (h.right (a := [len])).slice_eq
    have hstep := nameStep_label h.getElem? (s := s) (by omega) (by omega)
    rw [hslice, hlen] at hstep
    refine .next hstep ?_
    have hih := ih _ (rfl : NameState.off { s with
      labels := s.labels ++ [raw.decodeReplace]
      off := s.off + 1 + raw.length
      end_ := if s.jumped then s.end_ else s.off + 1 + raw.length } = _) hhops
    rw [List.map_cons, List.append_cons]
    cases hj : s.jumped <;> simpa [hj] using hih
  | @pointer off pointers after labels hi lo hhi h htarget ih =>
    subst hoff
    -- from here on the offset returned is fixed
    have hstep := nameStep_pointer h.getElem? (h.right (a := [hi])).getElem? hhi (s := s)
    have hle : ¬ 20 < (s.jump ((hi.toNat - 192) * 256 + lo.toNat)).hops := by
      show ¬ 20 < s.hops + 1
      omega
    dsimp only at hstep
    rw [if_neg hle] at hstep
    refine .next hstep (ih (s.jump _) rfl ?_)
    show s.hops + 1 + pointers ≤ 20
    omega

/-- `decode_name` reads a name and finds the byte behind it. -/
theorem decodeName_of_nameAt {off after : Nat} {labels : List Bytes}
    (h : NameAt buf off labels after) : decodeName buf off = .ok (dotted labels, after) := by
  obtain ⟨pointers, hmax, henc⟩ := h
  have hreturns : Returns (nameStep buf) ⟨[], false, off, off, 0⟩ (dotted labels, after) :=
    returns_of_encodes henc _ rfl (by dsimp only; omega)
  exact hreturns.run_eq (decodeName_total buf off)

/-! ## Sections -/

/-- Questions laid back to back are read one by one. -/
theorem parseQuestions_of_backToBack {off after : Nat} {qs : List WireQuestion}
    (h : BackToBack (QuestionAt buf) off qs after) :
    parseQuestions buf qs.length off
      = .ok (qs.map fun q => ⟨dotted q.labels, q.qtype.toNat, ""⟩, some after) := by
  induction h with
  | nil => rfl
  | @cons off mid after q rest h hrest ih =>
    obtain ⟨mid', hname, hat, rfl⟩ := h
    have hlong : mid' + 4 ≤ buf.length := hat.le_length (by simp [packed, toBig])
    have htype := q.qtype.toNat_lt
    have hclass := q.qclass.toNat_lt
    have hunpack : structUnpack [2, 2] (buf.slice mid' (mid' + 4))
        = .ok [q.qtype.toNat, q.qclass.toNat] := hat.structUnpack rfl (by simp; omega)
    exact parseQuestions_succ (decodeName_of_nameAt hname) hlong hunpack ih

/-- The data of a PTR record is the name it holds. -/
theorem decodeRdata_ptr {off stop : Nat} {target : List Bytes} (h : NameAt buf off target stop)
    (rdata : Bytes) : decodeRdata buf off 12 rdata = .ok (dotted target) := by
  unfold decodeRdata readRdata
  rw [decodeName_of_nameAt h]
  rfl

/-- A record as the format says it should be read. -/
def Reads (r : WireRecord) (a : Record) : Prop :=
  a.name = dotted r.labels ∧ a.rtype = r.rtype.toNat ∧ (r.rtype = 12 → a.data = dotted r.target)

/-- And so are records. -/
theorem parseAnswers_of_backToBack {off after : Nat} {rs : List WireRecord}
    (h : BackToBack (RecordAt buf) off rs after) :
    ∃ answers, parseAnswers buf rs.length off = .ok answers ∧ List.Forall₂ Reads rs answers := by
  induction h with
  | nil => exact ⟨[], rfl, .nil⟩
  | @cons off mid after r rest h hrest ih =>
    obtain ⟨mid', hname, hlen, hat, hptr, rfl⟩ := h
    obtain ⟨answers, hanswers, hreads⟩ := ih
    have hlong : mid' + 10 ≤ buf.length := hat.left.le_length (by simp [packed, toBig])
    have hoff : off < buf.length := hname.lt_length
    have htype := r.rtype.toNat_lt
    have hclass := r.rclass.toNat_lt
    have httl := r.ttl.toNat_lt
    have hunpack : structUnpack [2, 2, 4, 2] (buf.slice mid' (mid' + 10))
        = .ok [r.rtype.toNat, r.rclass.toNat, r.ttl.toNat, r.rdata.length] :=
      hat.left.structUnpack rfl (by simp; omega)
    obtain ⟨data, hdata⟩ := decodeRdata_total buf (mid' + 10) r.rtype.toNat
      (buf.slice (mid' + 10) (mid' + 10 + r.rdata.length))
    refine ⟨_, parseAnswers_succ (decodeName_of_nameAt hname) hoff hlong hunpack hdata hanswers,
      .cons ⟨rfl, rfl, fun h12 => ?_⟩ hreads⟩
    obtain ⟨stop, htarget⟩ := hptr h12
    rw [h12] at hdata
    exact Except.ok.inj (hdata.symm.trans (decodeRdata_ptr htarget _))

/-! ## Messages -/

/-- An exact header is read as it is. -/
theorem WellFormed.counts_eq {questions : List WireQuestion} {an ns ar : List WireRecord}
    (h : WellFormed buf questions an ns ar) : 12 ≤ buf.length ∧
      count buf 4 = questions.length ∧ count buf 6 = an.length ∧ count buf 8 = ns.length ∧
      count buf 10 = ar.length := by
  obtain ⟨id, flags, hat⟩ := h.header
  obtain ⟨hq, han, hns, har⟩ := h.counts
  have hlong : 0 + 12 ≤ buf.length := hat.le_length (by simp [packed, toBig])
  have hid := id.toNat_lt
  have hflags := flags.toNat_lt
  have hunpack : structUnpack [2, 2, 2, 2, 2, 2] (buf.slice 0 (0 + 12)) = .ok [id.toNat,
      flags.toNat, questions.length, an.length, ns.length, ar.length] :=
    hat.structUnpack rfl (by simp; omega)
  rw [Nat.zero_add, header_eq (by omega)] at hunpack
  simp only [Except.ok.injEq, List.cons.injEq] at hunpack
  obtain ⟨-, -, h4, h6, h8, h10, -⟩ := hunpack
  exact ⟨by omega, h4, h6, h8, h10⟩

/-- **`parse_message` reads every well-formed message**: exactly its questions and
exactly its records, in order, each with its name and its type, and a PTR record with
the name its data holds — however the names are compressed, as long as each is at most
20 pointers away from its labels. -/
theorem wellFormed_parsed {questions : List WireQuestion} {an ns ar : List WireRecord}
    (h : WellFormed buf questions an ns ar) :
    ∃ answers, parseMessage buf = .ok
      (questions.map fun q => ⟨dotted q.labels, q.qtype.toNat, ""⟩, answers) ∧
      List.Forall₂ Reads (an ++ ns ++ ar) answers := by
  obtain ⟨hlong, h4, h6, h8, h10⟩ := h.counts_eq
  obtain ⟨mid, after, hqs, hrs⟩ := h.body
  obtain ⟨answers, hanswers, hreads⟩ := parseAnswers_of_backToBack hrs
  have hquestions := parseQuestions_of_backToBack hqs
  rw [← h4] at hquestions
  rw [List.length_append, List.length_append, ← h6, ← h8, ← h10] at hanswers
  exact ⟨answers, parseMessage_some hlong hquestions hanswers, hreads⟩

/-- A question about `a`, and a PTR record for `a` that names `b.a`, both by pointer. -/
def ptrReply : Bytes :=
  [0, 0, 0x84, 0, 0, 1, 0, 1, 0, 0, 0, 0,
    1, 97, 0, 0, 12, 0, 1,
    0xC0, 12, 0, 12, 0, 1, 0, 0, 0, 120, 0, 4, 1, 98, 0xC0, 12]

/-- The compressed name is read in full, and so is the PTR record's. -/
theorem ptrReply_parsed :
    ∃ answers, parseMessage ptrReply = .ok ([⟨dotted [[97]], 12, ""⟩], answers) ∧
      List.Forall₂ Reads [⟨[[97]], 12, 1, 120, [1, 98, 0xC0, 12], [[98], [97]]⟩] answers := by
  have hname : Encodes ptrReply 12 [[97]] 0 15 :=
    @Encodes.label ptrReply 12 0 15 [97] [] 1 rfl (by decide) (by decide) (by decide)
      (.root (by decide))
  have hpointer : Encodes ptrReply 19 [[97]] 1 21 :=
    @Encodes.pointer ptrReply 19 0 15 [[97]] 0xC0 12 (by decide) (by decide) hname
  have htarget : Encodes ptrReply 31 [[98], [97]] 1 35 :=
    @Encodes.label ptrReply 31 1 35 [98] [[97]] 1 rfl (by decide) (by decide) (by decide)
      (@Encodes.pointer ptrReply 33 0 15 [[97]] 0xC0 12 (by decide) (by decide) hname)
  have hwell : WellFormed ptrReply [⟨[[97]], 12, 1⟩]
      [⟨[[97]], 12, 1, 120, [1, 98, 0xC0, 12], [[98], [97]]⟩] [] [] :=
    { header := ⟨0, 0x8400, by decide⟩
      counts := by decide
      body := ⟨19, 35, .cons ⟨15, ⟨0, by decide, hname⟩, by decide, rfl⟩ .nil,
        .cons ⟨21, ⟨1, by decide, hpointer⟩, by decide, by decide,
          fun _ => ⟨35, 1, by decide, htarget⟩, rfl⟩ .nil⟩ }
  exact wellFormed_parsed hwell

end Gc3.Tools.MdnsProbe
