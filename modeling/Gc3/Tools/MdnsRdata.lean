import Gc3.Tools.MdnsQuery

/-!
# What a record's data says

The data of a record is laid out by its type: four bytes of an address, a name, a
service's port and target, a run of strings. `DataAt` is that layout, again without the
decoder, and `RecordData.printed` the text it stands for; data the probe has no reading
for is shown as its first bytes in hexadecimal. A message of such records is read to the
last field (`typed_message_read`).

A typed message is a well-formed one (`TypedMessage.wellFormed`), so what is known of
questions, counts and names carries over, and only the data is read anew: by one lemma a
type (`readRdata_service`, `readRdata_text`, and the name of a PTR record from before),
put together in `decodeRdata_of_dataAt`. The TXT record has a loop of its own over its
strings, which is followed string by string (`txtStep_string`, `txt_returns`); `Unread`
is what no branch of `decode_rdata` reads, by its type or for its size.
-/

namespace Gc3.Tools.MdnsProbe

open Gc3.Py Loop

/-! ## The format -/

/-- The data of a record, by type. -/
inductive RecordData
  | address (a b c d : UInt8)
  | address6 (bytes : Bytes)
  | pointer (target : List Bytes)
  | service (priority weight port : UInt16) (target : List Bytes)
  | text (strings : List Bytes)
  | other (rtype : UInt16) (bytes : Bytes)

def RecordData.rtype : RecordData → UInt16
  | .address .. => 1
  | .address6 _ => 28
  | .pointer _ => 12
  | .service .. => 33
  | .text _ => 16
  | .other rtype _ => rtype

/-- Nothing the probe reads: another type, or an address or a service of a wrong size. -/
def Unread (rtype : UInt16) (size : Nat) : Prop :=
  rtype ≠ 12 ∧ rtype ≠ 16 ∧ (rtype = 1 → size ≠ 4) ∧ (rtype = 28 → size ≠ 16) ∧
    (rtype = 33 → size < 6)

/-- The data of a record is `rdata`, which lies at `off` in its message: a name in it may
go on anywhere. -/
def DataAt (buf : Bytes) (off : Nat) (rdata : Bytes) : RecordData → Prop
  | .address a b c d => rdata = [a, b, c, d]
  | .address6 bytes => rdata = bytes ∧ bytes.length = 16
  | .pointer target => ∃ stop, NameAt buf off target stop
  | .service priority weight port target => ∃ name stop,
      rdata = packed [(2, priority.toNat), (2, weight.toNat), (2, port.toNat)] ++ name ∧
        NameAt buf (off + 6) target stop
  | .text strings => (∀ s ∈ strings, s.length < 256) ∧ rdata = wireLabels strings
  | .other rtype bytes => rdata = bytes ∧ Unread rtype bytes.length

/-- The text that data stands for. -/
def RecordData.printed : RecordData → String
  | .address a b c d =>
    ".".intercalate [toString a.toNat, toString b.toNat, toString c.toNat, toString d.toNat]
  | .address6 bytes => inetNtop bytes
  | .pointer target => dotted target
  | .service _ _ port target => dotted target ++ ":" ++ toString port.toNat
  | .text strings => " ".intercalate ((strings.filter (· ≠ [])).map Bytes.decodeReplace)
  | .other _ bytes => Bytes.hex (bytes.take 24)

structure TypedRecord where
  labels : List Bytes
  rclass : UInt16
  ttl : UInt32
  rdata : Bytes
  data : RecordData

def TypedRecord.read (r : TypedRecord) : Record :=
  ⟨dotted r.labels, r.data.rtype.toNat, r.data.printed⟩

/-- A record laid out in full. -/
def TypedAt (buf : Bytes) (off : Nat) (r : TypedRecord) (after : Nat) : Prop :=
  ∃ mid, NameAt buf off r.labels mid ∧ r.rdata.length < 65536 ∧
    At buf mid (packed [(2, r.data.rtype.toNat), (2, r.rclass.toNat), (4, r.ttl.toNat),
      (2, r.rdata.length)] ++ r.rdata) ∧
    DataAt buf (mid + 10) r.rdata r.data ∧ after = mid + 10 + r.rdata.length

/-- A message of such records. -/
structure TypedMessage (buf : Bytes) (questions : List WireQuestion)
    (an ns ar : List TypedRecord) : Prop where
  header : ∃ id flags : UInt16, At buf 0 (packed [(2, id.toNat), (2, flags.toNat),
    (2, questions.length), (2, an.length), (2, ns.length), (2, ar.length)])
  counts : questions.length < 65536 ∧ an.length < 65536 ∧ ns.length < 65536 ∧ ar.length < 65536
  body : ∃ mid after, BackToBack (QuestionAt buf) 12 questions mid ∧
    BackToBack (TypedAt buf) mid (an ++ ns ++ ar) after

/-! ## Strings -/

variable {buf : Bytes}

theorem decodeReplace_eq_empty_iff (s : Bytes) : s.decodeReplace = "" ↔ s = [] := by
  unfold Bytes.decodeReplace
  rw [← String.toList_inj, String.toList_ofList, String.toList_empty, Utf8.decode_eq_nil_iff]

/-- One string of a TXT record: its length, and as many bytes. -/
theorem txtStep_string {pre s rest : Bytes} (parts : List String) (hs : s.length < 256) :
    txtStep (pre ++ (UInt8.ofNat s.length :: s ++ rest)) (parts, pre.length) =
      .ok (.inl (parts ++ [s.decodeReplace],
        (pre ++ UInt8.ofNat s.length :: s).length)) := by
  have hlen : (UInt8.ofNat s.length).toNat = s.length := Utf8.toNat_byte hs
  have hat : At (pre ++ (UInt8.ofNat s.length :: s ++ rest)) pre.length
      (UInt8.ofNat s.length :: s) := by
    rw [← List.append_assoc]
    exact .of_append pre _ rest
  -- the string lies one byte behind its length
  have hslice := (hat.right (a := [UInt8.ofNat s.length])).slice_eq
  rw [List.length_singleton] at hslice
  unfold txtStep
  dsimp only
  rw [if_neg (by simp), byteAt_eq hat.getElem?, hlen]
  dsimp only [bind, Except.bind, pure, Except.pure]
  rw [hslice, List.length_append, List.length_cons, Nat.add_comm 1]

/-- The loop over a TXT record reads the strings that are left. -/
theorem txt_returns {strings : List Bytes} (hs : ∀ s ∈ strings, s.length < 256) (pre : Bytes)
    (parts : List String) :
    Returns (txtStep (pre ++ wireLabels strings)) (parts, pre.length)
      (parts ++ strings.map Bytes.decodeReplace) := by
  induction strings generalizing pre parts with
  | nil =>
    refine .done ?_
    unfold txtStep
    dsimp only
    rw [if_pos (by simp [wireLabels]), List.map_nil, List.append_nil]
    rfl
  | cons s rest ih =>
    obtain ⟨hs, hrest⟩ := List.forall_mem_cons.mp hs
    have hih := ih hrest (pre ++ UInt8.ofNat s.length :: s) (parts ++ [s.decodeReplace])
    rw [List.append_assoc, ← wireLabels_cons, List.append_assoc, List.singleton_append,
      ← List.map_cons] at hih
    refine .next ?_ hih
    rw [wireLabels_cons]
    exact txtStep_string parts hs

/-- The strings that say something, decoded. -/
theorem filter_decoded (strings : List Bytes) :
    (strings.map Bytes.decodeReplace).filter (· ≠ "") =
      (strings.filter (· ≠ [])).map Bytes.decodeReplace := by
  rw [List.filter_map]
  refine congrArg _ (List.filter_congr fun s _ => ?_)
  simp [decodeReplace_eq_empty_iff]

/-! ## Data -/

theorem length_hexByte (x : UInt8) : (Json.hex 2 x.toNat).toList.length = 2 := by
  have hall : ∀ n < 256, (Json.hex 2 n).toList.length = 2 := by decide +kernel
  exact hall x.toNat x.toNat_lt

/-- Two digits a byte. -/
theorem hex_take (b : Bytes) (n : Nat) :
    String.ofList (b.hex.toList.take (2 * n)) = Bytes.hex (b.take n) := by
  unfold Bytes.hex
  rw [← String.toList_inj, String.toList_ofList, String.toList_join, String.toList_join]
  induction b generalizing n with
  | nil => simp
  | cons x b ih =>
    cases n with
    | zero => simp
    | succ n =>
      -- two of the digits wanted are those of the first byte
      have hdrop : (Json.hex 2 x.toNat).toList.take (2 * (n + 1)) =
          (Json.hex 2 x.toNat).toList := List.take_of_length_le (by rw [length_hexByte]; omega)
      have hleft : 2 * (n + 1) - 2 = 2 * n := by omega
      rw [List.take_succ_cons, List.map_cons, List.map_cons, List.flatMap_cons, List.flatMap_cons,
        List.take_append, hdrop, length_hexByte, hleft, ih]

theorem decodeRdata_of_read {off rtype : Nat} {rdata : Bytes} {text : String}
    (h : readRdata buf off rtype rdata = .ok (some text)) :
    decodeRdata buf off rtype rdata = .ok text := by
  unfold decodeRdata
  rw [h]

/-- A service's port and target; priority and weight are passed over. -/
theorem readRdata_service {off stop : Nat} {priority weight port : UInt16} {target : List Bytes}
    {name : Bytes} (h : NameAt buf (off + 6) target stop) :
    readRdata buf off 33
        (packed [(2, priority.toNat), (2, weight.toNat), (2, port.toNat)] ++ name) =
      .ok (some (dotted target ++ ":" ++ toString port.toNat)) := by
  have hpriority := priority.toNat_lt
  have hweight := weight.toNat_lt
  have hport := port.toNat_lt
  have hat : At (packed [(2, priority.toNat), (2, weight.toNat), (2, port.toNat)] ++ name) 0
      (packed [(2, priority.toNat), (2, weight.toNat), (2, port.toNat)]) := .of_append [] _ name
  have hunpack : structUnpack [2, 2, 2]
      ((packed [(2, priority.toNat), (2, weight.toNat), (2, port.toNat)] ++ name).slice 0 6) =
      .ok [priority.toNat, weight.toNat, port.toNat] :=
    hat.structUnpack (n := 6) rfl (by simp; omega)
  have hsize : 6 ≤ (packed [(2, priority.toNat), (2, weight.toNat), (2, port.toNat)] ++
      name).length := by
    rw [List.length_append, length_packed]
    exact Nat.le_add_right 6 _
  unfold readRdata
  rw [if_neg (by simp), if_neg (by simp), if_neg (by simp), if_pos ⟨rfl, hsize⟩, hunpack,
    decodeName_of_nameAt h]
  rfl

/-- A TXT record is its strings, less the empty ones, with a space in between. -/
theorem readRdata_text {off : Nat} {strings : List Bytes} (h : ∀ s ∈ strings, s.length < 256) :
    readRdata buf off 16 (wireLabels strings) =
      .ok (some (" ".intercalate ((strings.filter (· ≠ [])).map Bytes.decodeReplace))) := by
  have hread : Loop.run (txtStep (wireLabels strings)) ((wireLabels strings).length + 1) ([], 0) =
      .ok (strings.map Bytes.decodeReplace) := (txt_returns h [] []).run_eq (txtStrings_total _)
  unfold readRdata
  rw [if_neg (by simp), if_neg (by simp), if_neg (by simp), if_neg (by simp), if_pos rfl, hread,
    ← filter_decoded]
  rfl

theorem readRdata_unread {off : Nat} {rtype : UInt16} {rdata : Bytes}
    (h : Unread rtype rdata.length) : readRdata buf off rtype.toNat rdata = .ok none := by
  obtain ⟨h12, h16, h1, h28, h33⟩ := h
  have htype : ∀ n < 65536, rtype.toNat = n → rtype = UInt16.ofNat n := fun n _ hn => by
    rw [← hn, UInt16.ofNat_toNat]
  -- each of the five readings asks for a type, and most for a size as well
  unfold readRdata
  rw [if_neg fun h => h1 (htype 1 (by decide) h.1) h.2,
    if_neg fun h => h28 (htype 28 (by decide) h.1) h.2,
    if_neg fun h => h12 (htype 12 (by decide) h),
    if_neg fun h => Nat.not_le.mpr (h33 (htype 33 (by decide) h.1)) h.2,
    if_neg fun h => h16 (htype 16 (by decide) h)]
  rfl

/-- The data is read as what it says. -/
theorem decodeRdata_of_dataAt {off : Nat} {rdata : Bytes} {d : RecordData}
    (h : DataAt buf off rdata d) : decodeRdata buf off d.rtype.toNat rdata = .ok d.printed := by
  cases d with
  | address a b c d =>
    obtain rfl : rdata = [a, b, c, d] := h
    rfl
  | address6 bytes =>
    obtain ⟨rfl, hsize⟩ := h
    refine decodeRdata_of_read ?_
    unfold readRdata
    rw [if_neg (by simp [RecordData.rtype]), if_pos ⟨rfl, hsize⟩]
    rfl
  | pointer target =>
    obtain ⟨stop, hname⟩ := h
    exact decodeRdata_ptr hname rdata
  | service priority weight port target =>
    obtain ⟨name, stop, rfl, hname⟩ := h
    exact decodeRdata_of_read (readRdata_service hname)
  | text strings =>
    obtain ⟨hsizes, rfl⟩ := h
    exact decodeRdata_of_read (readRdata_text hsizes)
  | other rtype bytes =>
    obtain ⟨rfl, hunread⟩ := h
    unfold decodeRdata RecordData.rtype RecordData.printed
    dsimp only
    rw [readRdata_unread hunread, ← hex_take]

/-! ## Messages -/

/-- Typed records laid back to back are read one by one. -/
theorem parseAnswers_of_typed {off after : Nat} {rs : List TypedRecord}
    (h : BackToBack (TypedAt buf) off rs after) :
    parseAnswers buf rs.length off = .ok (rs.map TypedRecord.read) := by
  induction h with
  | nil => rfl
  | @cons off mid after r rest h hrest ih =>
    obtain ⟨mid', hname, hlen, hat, hdata, rfl⟩ := h
    have hlong : mid' + 10 ≤ buf.length := hat.left.le_length (by simp [packed, toBig])
    have htype := r.data.rtype.toNat_lt
    have hclass := r.rclass.toNat_lt
    have httl := r.ttl.toNat_lt
    have hunpack : structUnpack [2, 2, 4, 2] (buf.slice mid' (mid' + 10))
        = .ok [r.data.rtype.toNat, r.rclass.toNat, r.ttl.toNat, r.rdata.length] :=
      hat.left.structUnpack rfl (by simp; omega)
    have hrdata : buf.slice (mid' + 10) (mid' + 10 + r.rdata.length) = r.rdata :=
      hat.right.slice_eq
    have hread := decodeRdata_of_dataAt hdata
    rw [← hrdata] at hread
    exact parseAnswers_succ (decodeName_of_nameAt hname) hname.lt_length hlong hunpack hread ih

/-- A record as `RecordAt` looks at it, which is into the data of a PTR record only. -/
def TypedRecord.wire (r : TypedRecord) : WireRecord where
  labels := r.labels
  rtype := r.data.rtype
  rclass := r.rclass
  ttl := r.ttl
  rdata := r.rdata
  target := match r.data with
    | .pointer target => target
    | _ => []

theorem TypedAt.recordAt {off after : Nat} {r : TypedRecord} (h : TypedAt buf off r after) :
    RecordAt buf off r.wire after := by
  obtain ⟨mid, hname, hlen, hat, hdata, hafter⟩ := h
  refine ⟨mid, hname, hlen, hat, fun h12 => ?_, hafter⟩
  obtain ⟨labels, rclass, ttl, rdata, data⟩ := r
  cases data with
  | pointer target => exact hdata
  | other rtype bytes => exact absurd h12 hdata.2.1
  | _ => exact absurd h12 (by simp [TypedRecord.wire, RecordData.rtype])

/-- What lies back to back does so under any other description of it. -/
theorem BackToBack.map {α β : Type} {item : Nat → α → Nat → Prop} {item' : Nat → β → Nat → Prop}
    {f : α → β} (hf : ∀ off a after, item off a after → item' off (f a) after) {off after : Nat}
    {xs : List α} (h : BackToBack item off xs after) : BackToBack item' off (xs.map f) after := by
  induction h with
  | nil => exact .nil
  | cons h hrest ih => exact .cons (hf _ _ _ h) ih

/-- A message of typed records is a well-formed message. -/
theorem TypedMessage.wellFormed {questions : List WireQuestion} {an ns ar : List TypedRecord}
    (h : TypedMessage buf questions an ns ar) :
    WellFormed buf questions (an.map TypedRecord.wire) (ns.map TypedRecord.wire)
      (ar.map TypedRecord.wire) where
  header := by
    simp only [List.length_map]
    exact h.header
  counts := by
    simp only [List.length_map]
    exact h.counts
  body := by
    obtain ⟨mid, after, hqs, hrs⟩ := h.body
    rw [← List.map_append, ← List.map_append]
    exact ⟨mid, after, hqs, hrs.map fun _ _ _ h => h.recordAt⟩

/-- **Every record is read to its last field.** A message laid out as the format says,
whatever the types of its records and however its names are compressed, comes back as
its questions and its records in order, each with the text its data stands for. -/
theorem typed_message_read {questions : List WireQuestion} {an ns ar : List TypedRecord}
    (h : TypedMessage buf questions an ns ar) :
    parseMessage buf = .ok (questions.map fun q => ⟨dotted q.labels, q.qtype.toNat, ""⟩,
      (an ++ ns ++ ar).map TypedRecord.read) := by
  obtain ⟨hlong, h4, h6, h8, h10⟩ := h.wellFormed.counts_eq
  obtain ⟨mid, after, hqs, hrs⟩ := h.body
  have hquestions := parseQuestions_of_backToBack hqs
  have hanswers := parseAnswers_of_typed hrs
  simp only [List.length_map] at h6 h8 h10
  rw [← h4] at hquestions
  rw [List.length_append, List.length_append, ← h6, ← h8, ← h10] at hanswers
  exact parseMessage_some hlong hquestions hanswers

/-- A service at port 3000 of `a`, what it says about itself, and its address. -/
def serviceReply : Bytes :=
  [0, 0, 0x84, 0, 0, 0, 0, 1, 0, 0, 0, 2,
    1, 97, 0, 0, 33, 0, 1, 0, 0, 0, 120, 0, 8, 0, 0, 0, 0, 0x0B, 0xB8, 0xC0, 12,
    0xC0, 12, 0, 16, 0, 1, 0, 0, 0, 120, 0, 5, 1, 120, 0, 1, 121,
    0xC0, 12, 0, 1, 0, 1, 0, 0, 0, 120, 0, 4, 10, 0, 0, 7]

/-- Its records. -/
def serviceRecords : List TypedRecord :=
  [⟨[[97]], 1, 120, [0, 0, 0, 0, 0x0B, 0xB8, 0xC0, 12], .service 0 0 3000 [[97]]⟩,
    ⟨[[97]], 1, 120, [1, 120, 0, 1, 121], .text [[120], [], [121]]⟩,
    ⟨[[97]], 1, 120, [10, 0, 0, 7], .address 10 0 0 7⟩]

/-- A service, its text and its address, the latter two under a pointer to the name of
the first. -/
theorem serviceReply_read :
    parseMessage serviceReply =
      .ok ([], [⟨"a", 33, "a:3000"⟩, ⟨"a", 16, "x y"⟩, ⟨"a", 1, "10.0.0.7"⟩]) := by
  -- the name is spelled out once; the later records point back to it
  have hname : Encodes serviceReply 12 [[97]] 0 15 :=
    @Encodes.label serviceReply 12 0 15 [97] [] 1 rfl (by decide) (by decide) (by decide)
      (.root (by decide))
  have hpointer : ∀ off, At serviceReply off [0xC0, 12] →
      NameAt serviceReply off [[97]] (off + 2) := fun off hat =>
    ⟨1, by decide, @Encodes.pointer serviceReply off 0 15 [[97]] 0xC0 12 (by decide) hat hname⟩
  have hmessage : TypedMessage serviceReply [] (serviceRecords.take 1) []
      (serviceRecords.drop 1) :=
    { header := ⟨0, 0x8400, by decide⟩
      counts := by decide
      body := ⟨12, 66, .nil,
        .cons ⟨15, ⟨0, by decide, hname⟩, by decide, by decide, ⟨[0xC0, 12], 33, by decide,
          hpointer 31 (by decide)⟩, rfl⟩ <|
        .cons ⟨35, hpointer 33 (by decide), by decide, by decide, ⟨by decide, by decide⟩, rfl⟩ <|
        .cons ⟨52, hpointer 50 (by decide), by decide, by decide, rfl, rfl⟩ .nil⟩ }
  have htexts : serviceRecords.map TypedRecord.read =
      [⟨"a", 33, "a:3000"⟩, ⟨"a", 16, "x y"⟩, ⟨"a", 1, "10.0.0.7"⟩] := by decide +kernel
  rw [← htexts]
  exact typed_message_read hmessage

end Gc3.Tools.MdnsProbe
