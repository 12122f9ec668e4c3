import Gc3.Tools.MdnsProbe

/-!
# What the decoder reads

One equation for each way a pass of `decode_name` can go carries everything here. On any
bytes at all the decoder ends without an exception, since a pass either jumps, of which
it allows twenty, or moves on through the buffer. `parse_total` says so of whole
packets: a name from any offset, the data of any record, and any message are decoded to
something, and a message never to more questions and records than its header counts.

For a single name the argument is a measure (`nameMeasure`), which counts the jumps that
are left and the bytes ahead, and which every pass that goes on brings down
(`nameStep_total`); so the loop comes to its end, and well within the budget that stands
for Python's having none. The section loops are structural on the counts of the header,
and each of their passes reads a name and a fixed number of bytes behind it, or is cut
short by the end of the buffer: `parseQuestions_succ`, `parseQuestions_cut` and their
counterparts for answers are those cases. The same equations say what is read off a
buffer that is laid out as the format has it, which is the next module.
-/

namespace Gc3.Tools.MdnsProbe

open Gc3.Py Loop

/-! ## One pass of `decode_name` -/

/-- A byte whose top two bits are set, as the code tests it. -/
theorem isPointer_iff {n : Nat} (h : n < 256) : n &&& 0xC0 = 0xC0 ↔ 192 ≤ n := by
  have hall : ∀ m < 256, m &&& 0xC0 = 0xC0 ↔ 192 ≤ m := by decide +kernel
  exact hall n h

/-- A pointer's target: the 14 bits below the top two. -/
theorem pointerTarget {hi lo : Nat} (hhi : 192 ≤ hi) (hhi' : hi < 256) (hlo : lo < 256) :
    ((hi &&& 0x3F) <<< 8) ||| lo = (hi - 192) * 256 + lo := by
  have hmask : hi &&& 0x3F = hi % 64 := Nat.and_two_pow_sub_one_eq_mod hi 6
  have hmod : hi % 64 = hi - 192 := by omega
  have hlo' : lo < 2 ^ 8 := hlo
  rw [hmask, hmod, ← Nat.shiftLeft_add_eq_or_of_lt hlo', Nat.shiftLeft_eq]

variable {buf : Bytes} {s : NameState}

/-- Past the end of the buffer the name is what there is of it. -/
theorem nameStep_end (h : buf.length ≤ s.off) : nameStep buf s = .ok (.inr s.result) := by
  unfold nameStep
  rw [if_pos h]
  rfl

theorem lt_length_of_getElem? {i : Nat} {x : UInt8} (h : buf[i]? = some x) : i < buf.length :=
  (List.getElem?_eq_some_iff.mp h).1

/-- A zero byte ends the name; the next field follows it, unless there has been a jump.
-/
theorem nameStep_zero (h : buf[s.off]? = some 0) :
    nameStep buf s = .ok (.inr (".".intercalate s.labels,
      if s.jumped then s.end_ else s.off + 1)) := by
  have hlt := lt_length_of_getElem? h
  unfold nameStep
  rw [if_neg (by omega), byteAt_eq h]
  rfl

/-- A length byte is followed by its label, of which the buffer may hold less. -/
theorem nameStep_label {b : UInt8} (h : buf[s.off]? = some b) (hpos : 0 < b.toNat)
    (hlabel : b.toNat < 192) :
    nameStep buf s = .ok (.inl
      { s with
        labels := s.labels ++
          [(buf.slice (s.off + 1) (s.off + 1 + b.toNat)).decodeReplace]
        off := s.off + 1 + b.toNat
        end_ := if s.jumped then s.end_ else s.off + 1 + b.toNat }) := by
  have hlt := lt_length_of_getElem? h
  have hptr : ¬ b.toNat &&& 0xC0 = 0xC0 := by
    rw [isPointer_iff b.toNat_lt]
    omega
  unfold nameStep
  rw [if_neg (by omega), byteAt_eq h]
  dsimp only [bind, Except.bind, pure, Except.pure]
  rw [if_neg (by omega), if_neg hptr]

/-- The last byte of the buffer starts a pointer. -/
theorem nameStep_cut {b : UInt8} (h : buf[s.off]? = some b) (hptr : 192 ≤ b.toNat)
    (hend : buf.length ≤ s.off + 1) : nameStep buf s = .ok (.inr s.result) := by
  have hlt := lt_length_of_getElem? h
  unfold nameStep
  rw [if_neg (by omega), byteAt_eq h]
  dsimp only [bind, Except.bind, pure, Except.pure]
  rw [if_neg (by omega), if_pos ((isPointer_iff b.toNat_lt).mpr hptr), if_pos hend]

/-- The state after a jump. -/
def NameState.jump (s : NameState) (target : Nat) : NameState :=
  { s with
    end_ := if s.jumped then s.end_ else s.off + 2
    off := target
    jumped := true
    hops := s.hops + 1 }

/-- Two bytes of a pointer: the name goes on at the target, unless there have been
twenty jumps. -/
theorem nameStep_pointer {hi lo : UInt8} (hhi : buf[s.off]? = some hi)
    (hlo : buf[s.off + 1]? = some lo) (hptr : 192 ≤ hi.toNat) :
    nameStep buf s =
      let t := s.jump ((hi.toNat - 192) * 256 + lo.toNat)
      if 20 < t.hops then .ok (.inr t.result) else .ok (.inl t) := by
  have hlt := lt_length_of_getElem? hhi
  have hlt' := lt_length_of_getElem? hlo
  unfold nameStep
  rw [if_neg (by omega), byteAt_eq hhi, byteAt_eq hlo]
  dsimp only [bind, Except.bind, pure, Except.pure]
  rw [if_neg (by omega), if_pos ((isPointer_iff hi.toNat_lt).mpr hptr), if_neg (by omega),
    pointerTarget hptr hi.toNat_lt lo.toNat_lt]
  rfl

/-! ## Any bytes at all -/

/-- Jumps left, each with a buffer's worth of labels, then the bytes left. -/
def nameMeasure (buf : Bytes) (s : NameState) : Nat :=
  (21 - s.hops) * (buf.length + 2) + (buf.length + 1 - s.off)

/-- A pass that goes on has used up a jump, or has moved on in the buffer. -/
theorem nameStep_total (buf : Bytes) (s : NameState) (hs : s.hops ≤ 20) :
    (∃ t, nameStep buf s = .ok (.inl t) ∧ t.hops ≤ 20 ∧ nameMeasure buf t < nameMeasure buf s) ∨
      ∃ r, nameStep buf s = .ok (.inr r) ∧ True := by
  rcases Nat.lt_or_ge s.off buf.length with hlt | hge
  · have hb : buf[s.off]? = some buf[s.off] := List.getElem?_eq_getElem hlt
    generalize buf[s.off] = b at hb
    rcases Nat.lt_or_ge b.toNat 192 with hlabel | hptr
    · rcases Nat.eq_zero_or_pos b.toNat with hzero | hpos
      · have hb0 : b = 0 := UInt8.toNat_inj.mp hzero
        rw [hb0] at hb
        exact Or.inr ⟨_, nameStep_zero hb, trivial⟩
      · refine Or.inl ⟨_, nameStep_label hb hpos hlabel, hs, ?_⟩
        unfold nameMeasure
        dsimp only
        omega
    · rcases Nat.lt_or_ge (s.off + 1) buf.length with hlt' | hge'
      · have hlo : buf[s.off + 1]? = some buf[s.off + 1] := List.getElem?_eq_getElem hlt'
        have hstep := nameStep_pointer hb hlo hptr
        dsimp only at hstep
        split at hstep
        · exact Or.inr ⟨_, hstep, trivial⟩
        · next hhops =>
          refine Or.inl ⟨_, hstep, by omega, ?_⟩
          unfold nameMeasure NameState.jump
          dsimp only
          -- a jump costs a whole buffer's worth
          have hsplit : (21 - s.hops) * (buf.length + 2)
              = (21 - (s.hops + 1)) * (buf.length + 2) + (buf.length + 2) := by
            rw [← Nat.succ_mul]
            congr 1
            omega
          omega
      · exact Or.inr ⟨_, nameStep_cut hb hptr hge', trivial⟩
  · exact Or.inr ⟨_, nameStep_end hge, trivial⟩

/-- `decode_name` returns, on every buffer and from every offset. -/
theorem decodeName_total (buf : Bytes) (off : Nat) : ∃ r, decodeName buf off = .ok r := by
  have hbudget : nameMeasure buf ⟨[], false, off, off, 0⟩ < nameBudget buf := by
    unfold nameMeasure nameBudget
    dsimp only
    omega
  obtain ⟨r, hr, -⟩ := run_total (I := fun s : NameState => s.hops ≤ 20) (Q := fun _ => True)
    (nameStep_total buf) (Nat.zero_le 20) hbudget
  exact ⟨r, hr⟩

/-- The strings of a TXT record are read to its end. -/
theorem txtStrings_total (rdata : Bytes) :
    ∃ parts, Loop.run (txtStep rdata) (rdata.length + 1) ([], 0) = .ok parts := by
  have hstep : ∀ s : List String × Nat, True →
      (∃ t, txtStep rdata s = .ok (.inl t) ∧ True ∧ rdata.length - t.2 < rdata.length - s.2) ∨
        ∃ parts, txtStep rdata s = .ok (.inr parts) ∧ True := by
    rintro ⟨parts, i⟩ -
    unfold txtStep
    dsimp only
    rcases Nat.lt_or_ge i rdata.length with hlt | hge
    · obtain ⟨x, hx⟩ := exists_byteAt hlt
      rw [if_neg (by omega), hx]
      refine Or.inl ⟨_, rfl, trivial, ?_⟩
      dsimp only
      omega
    · rw [if_pos hge]
      exact Or.inr ⟨parts, rfl, trivial⟩
  have hfuel : rdata.length - (([], 0) : List String × Nat).2 < rdata.length + 1 := by
    dsimp only
    omega
  obtain ⟨parts, hparts, -⟩ := run_total (I := fun _ => True) (Q := fun _ => True) hstep trivial
    hfuel
  exact ⟨parts, hparts⟩

/-- Nothing inside the `try` of `decode_rdata` raises. -/
theorem readRdata_total (buf : Bytes) (off rtype : Nat) (rdata : Bytes) :
    ∃ r, readRdata buf off rtype rdata = .ok r := by
  unfold readRdata
  split
  · exact ⟨_, rfl⟩
  split
  · exact ⟨_, rfl⟩
  split
  · obtain ⟨r, hr⟩ := decodeName_total buf off
    rw [hr]
    exact ⟨_, rfl⟩
  split
  · next hsrv =>
    have hunpack : structUnpack [2, 2, 2] (rdata.slice 0 6) = .ok _ :=
      structUnpack_slice (n := 6) rfl (by omega)
    obtain ⟨r, hr⟩ := decodeName_total buf (off + 6)
    rw [hunpack, hr]
    exact ⟨_, rfl⟩
  split
  · obtain ⟨parts, hparts⟩ := txtStrings_total rdata
    rw [hparts]
    exact ⟨_, rfl⟩
  · exact ⟨none, rfl⟩

/-- `decode_rdata` returns on every record. -/
theorem decodeRdata_total (buf : Bytes) (off rtype : Nat) (rdata : Bytes) :
    ∃ text, decodeRdata buf off rtype rdata = .ok text := by
  obtain ⟨r, hr⟩ := readRdata_total buf off rtype rdata
  unfold decodeRdata
  rw [hr]
  cases r with
  | none => exact ⟨_, rfl⟩
  | some text => exact ⟨text, rfl⟩

/-! ## One pass of the section loops -/

/-- A question: its name, its type and its class, and the rest of them behind it. -/
theorem parseQuestions_succ {n off after qtype qclass : Nat} {name : String}
    (hname : decodeName buf off = .ok (name, after)) (hlong : after + 4 ≤ buf.length)
    (hunpack : structUnpack [2, 2] (buf.slice after (after + 4)) = .ok [qtype, qclass])
    {qs : List Record} {next : Option Nat}
    (hrest : parseQuestions buf n (after + 4) = .ok (qs, next)) :
    parseQuestions buf (n + 1) off = .ok (⟨name, qtype, ""⟩ :: qs, next) := by
  rw [parseQuestions, hname]
  dsimp only [bind, Except.bind]
  rw [if_neg (by omega), hunpack, hrest]
  rfl

/-- A question without its last four bytes ends the section, and the message. -/
theorem parseQuestions_cut {n off after : Nat} {name : String}
    (hname : decodeName buf off = .ok (name, after)) (hshort : buf.length < after + 4) :
    parseQuestions buf (n + 1) off = .ok ([], none) := by
  rw [parseQuestions, hname]
  dsimp only [bind, Except.bind]
  rw [if_pos hshort]
  rfl

/-- A record: its name, ten bytes, its data, and the rest behind these. -/
theorem parseAnswers_succ {n off after rtype rclass ttl rdlen : Nat} {name data : String}
    (hname : decodeName buf off = .ok (name, after)) (hoff : off < buf.length)
    (hlong : after + 10 ≤ buf.length)
    (hunpack : structUnpack [2, 2, 4, 2] (buf.slice after (after + 10))
      = .ok [rtype, rclass, ttl, rdlen])
    (hdata : decodeRdata buf (after + 10) rtype
      (buf.slice (after + 10) (after + 10 + rdlen)) = .ok data)
    {rs : List Record} (hrest : parseAnswers buf n (after + 10 + rdlen) = .ok rs) :
    parseAnswers buf (n + 1) off = .ok (⟨name, rtype, data⟩ :: rs) := by
  rw [parseAnswers, if_neg (by omega), hname]
  dsimp only [bind, Except.bind]
  rw [if_neg (by omega), hunpack]
  dsimp only [orRaise_ok]
  rw [hdata, hrest]
  rfl

theorem parseAnswers_cut {n off after : Nat} {name : String}
    (hname : decodeName buf off = .ok (name, after)) (hshort : buf.length < after + 10) :
    parseAnswers buf (n + 1) off = .ok [] := by
  rw [parseAnswers, hname]
  split
  · rfl
  · dsimp only [bind, Except.bind]
    rw [if_pos hshort]
    rfl

/-- The question section is read, to as many as the header counts at most. -/
theorem parseQuestions_total (buf : Bytes) (n off : Nat) :
    ∃ qs next, parseQuestions buf n off = .ok (qs, next) ∧ qs.length ≤ n := by
  induction n generalizing off with
  | zero => exact ⟨[], some off, rfl, Nat.le_refl 0⟩
  | succ n ih =>
    obtain ⟨⟨name, after⟩, hname⟩ := decodeName_total buf off
    rcases Nat.lt_or_ge buf.length (after + 4) with hshort | hlong
    · exact ⟨[], none, parseQuestions_cut hname hshort, Nat.zero_le _⟩
    · obtain ⟨qs, next, hqs, hlen⟩ := ih (after + 4)
      exact ⟨_, next, parseQuestions_succ hname hlong (structUnpack_slice rfl hlong) hqs,
        Nat.succ_le_succ hlen⟩

/-- So are the records. -/
theorem parseAnswers_total (buf : Bytes) (n off : Nat) :
    ∃ rs, parseAnswers buf n off = .ok rs ∧ rs.length ≤ n := by
  induction n generalizing off with
  | zero => exact ⟨[], rfl, Nat.le_refl 0⟩
  | succ n ih =>
    obtain ⟨⟨name, after⟩, hname⟩ := decodeName_total buf off
    rcases Nat.lt_or_ge buf.length (after + 10) with hshort | hlong
    · exact ⟨[], parseAnswers_cut hname hshort, Nat.zero_le _⟩
    rcases Nat.lt_or_ge off buf.length with hoff | hpast
    · have hunpack : structUnpack [2, 2, 4, 2] (buf.slice after (after + 10)) = .ok [_, _, _, _] :=
        structUnpack_slice rfl hlong
      obtain ⟨data, hdata⟩ := decodeRdata_total buf (after + 10) _ (buf.slice (after + 10) _)
      obtain ⟨rs, hrs, hlen⟩ := ih (after + 10 + _)
      exact ⟨_, parseAnswers_succ hname hoff hlong hunpack hdata hrs, Nat.succ_le_succ hlen⟩
    · refine ⟨[], ?_, Nat.zero_le _⟩
      rw [parseAnswers, if_pos hpast]
      rfl

/-- The number in the two bytes at `off`, a count of the header. -/
def count (buf : Bytes) (off : Nat) : Nat := ofBig (buf.slice off (off + 2))

/-- The header is its six counts. -/
theorem header_eq (h : 12 ≤ buf.length) :
    structUnpack [2, 2, 2, 2, 2, 2] (buf.slice 0 12) = .ok [count buf 0, count buf 2, count buf 4,
      count buf 6, count buf 8, count buf 10] := by
  have hunpack : structUnpack [2, 2, 2, 2, 2, 2] (buf.slice 0 12) = .ok _ :=
    structUnpack_slice (n := 12) rfl (by omega)
  rw [hunpack]
  simp [fields, count, Bytes.slice, List.drop_take, List.take_take, List.drop_drop]

/-- A message that is cut in its questions has no records. -/
theorem parseMessage_none {questions : List Record} (hlong : 12 ≤ buf.length)
    (hq : parseQuestions buf (count buf 4) 12 = .ok (questions, none)) :
    parseMessage buf = .ok (questions, []) := by
  unfold parseMessage
  rw [if_neg (by omega), header_eq hlong]
  dsimp only [orRaise_ok, bind, Except.bind]
  rw [hq]
  rfl

/-- Behind the questions the three record sections are read as one. -/
theorem parseMessage_some {questions answers : List Record} {off : Nat} (hlong : 12 ≤ buf.length)
    (hq : parseQuestions buf (count buf 4) 12 = .ok (questions, some off))
    (ha : parseAnswers buf (count buf 6 + count buf 8 + count buf 10) off = .ok answers) :
    parseMessage buf = .ok (questions, answers) := by
  unfold parseMessage
  rw [if_neg (by omega), header_eq hlong]
  dsimp only [orRaise_ok, bind, Except.bind]
  rw [hq]
  dsimp only
  rw [ha]
  rfl

/-- **`parse_message` is total on hostile packets.** For every byte string: a name is
decoded from any offset without an exception and without running on; so is the data
of any record, before the handler around it has anything to catch; and the message
comes to a pair of lists no longer than its header's counts. -/
theorem parse_total (buf : Bytes) :
    (∀ off, ∃ name after, decodeName buf off = .ok (name, after)) ∧
      (∀ off rtype rdata, ∃ r, readRdata buf off rtype rdata = .ok r) ∧
      ∃ questions answers, parseMessage buf = .ok (questions, answers) ∧
        questions.length ≤ count buf 4 ∧
        answers.length ≤ count buf 6 + count buf 8 + count buf 10 := by
  refine ⟨fun off => ?_, readRdata_total buf, ?_⟩
  · obtain ⟨⟨name, after⟩, h⟩ := decodeName_total buf off
    exact ⟨name, after, h⟩
  rcases Nat.lt_or_ge buf.length 12 with hshort | hlong
  · refine ⟨[], [], ?_, Nat.zero_le _, Nat.zero_le _⟩
    unfold parseMessage
    rw [if_pos hshort]
    rfl
  · obtain ⟨questions, next, hq, hqlen⟩ := parseQuestions_total buf (count buf 4) 12
    cases next with
    | none => exact ⟨questions, [], parseMessage_none hlong hq, hqlen, Nat.zero_le _⟩
    | some off =>
      obtain ⟨answers, ha, halen⟩ :=
        parseAnswers_total buf (count buf 6 + count buf 8 + count buf 10) off
      exact ⟨questions, answers, parseMessage_some hlong hq ha, hqlen, halen⟩

end Gc3.Tools.MdnsProbe
