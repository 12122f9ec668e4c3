import Gc3.Tools.MdnsMessage

/-!
# What the encoder writes

The encoder's names are names of the format as long as no label of theirs is empty: an
empty label is written as a zero byte, which is how a name ends. So a query comes back
from the decoder question by question (`query_roundtrip`), and a name comes back exactly
when none of its labels is empty (`name_roundtrip_iff`, for every name the encoder
accepts and whatever bytes stand before and behind it); the root name is the plainest
that does not (`root_misread`).

What the encoder writes is `wireLabels`, each label behind its length, and a zero byte.
That this is a name of the format is one induction over the labels
(`encodes_wireLabels`), and from there on reading it back is no matter of this module:
`decodeName_of_nameAt` and `wellFormed_parsed` read whatever is laid out like this. For
the converse, a name with an empty label in it is shown to be cut at that label.
-/

namespace Gc3.Tools.MdnsProbe

open Gc3.Py

/-! ## Names -/

/-- Labels as they are sent, each behind its length. -/
def wireLabels (raws : List Bytes) : Bytes :=
  raws.flatMap fun raw => UInt8.ofNat raw.length :: raw

theorem wireLabels_cons (raw : Bytes) (raws : List Bytes) :
    wireLabels (raw :: raws) = UInt8.ofNat raw.length :: raw ++ wireLabels raws := by
  unfold wireLabels
  rw [List.flatMap_cons]

theorem wireLabels_append (raws raws' : List Bytes) :
    wireLabels (raws ++ raws') = wireLabels raws ++ wireLabels raws' := List.flatMap_append

/-- The labels of a name, in bytes. -/
def rawLabels (name : String) : List Bytes := (labelsOf name).map encodeUtf8

/-- Labels are accepted when none is too long, and are then written one after another.
-/
theorem encodeLabels_eq_ok {labels : List String} {out : Bytes} :
    encodeLabels labels = .ok out ↔ (∀ label ∈ labels, (encodeUtf8 label).length ≤ 63) ∧
      out = wireLabels (labels.map encodeUtf8) := by
  induction labels generalizing out with
  | nil =>
    rw [encodeLabels, Except.ok.injEq]
    simp [wireLabels, eq_comm]
  | cons label rest ih =>
    rw [encodeLabels]
    by_cases hlong : 63 < (encodeUtf8 label).length
    · rw [if_pos hlong]
      simp only [reduceCtorEq, List.forall_mem_cons, false_iff]
      omega
    · rw [if_neg hlong, Fallible.bind_eq_ok]
      simp only [ih, Fallible.pure_eq_ok, List.forall_mem_cons, List.map_cons, wireLabels_cons]
      constructor
      · rintro ⟨out', ⟨hrest, rfl⟩, rfl⟩
        exact ⟨⟨by omega, hrest⟩, rfl⟩
      · rintro ⟨⟨-, hrest⟩, rfl⟩
        exact ⟨_, ⟨hrest, rfl⟩, rfl⟩

/-- A name is accepted when none of its labels is too long, and is then its labels and
a zero byte. -/
theorem encodeName_eq_ok {name : String} {out : Bytes} :
    encodeName name = .ok out ↔ (∀ raw ∈ rawLabels name, raw.length ≤ 63) ∧
      out = wireLabels (rawLabels name) ++ [0] := by
  unfold encodeName rawLabels
  rw [Fallible.bind_eq_ok]
  simp only [encodeLabels_eq_ok, Fallible.pure_eq_ok, List.forall_mem_map]
  constructor
  · intro ⟨labels, ⟨hmax, hlabels⟩, hout⟩
    rw [← hout, hlabels]
    exact ⟨hmax, rfl⟩
  · intro ⟨hmax, hout⟩
    exact ⟨_, ⟨hmax, rfl⟩, hout.symm⟩

/-- Labels that are not empty, with a zero byte behind them, are a name of the format. -/
theorem encodes_wireLabels {buf : Bytes} {off : Nat} {raws : List Bytes}
    (hraws : ∀ raw ∈ raws, 1 ≤ raw.length ∧ raw.length ≤ 63)
    (h : At buf off (wireLabels raws ++ [0])) :
    Encodes buf off raws 0 (off + (wireLabels raws).length + 1) := by
  induction raws generalizing off with
  | nil => exact .root h
  | cons raw raws ih =>
    obtain ⟨hpos, hmax⟩ := hraws raw (List.mem_cons_self ..)
    rw [wireLabels_cons, List.append_assoc] at h
    have hlen : (UInt8.ofNat raw.length).toNat = raw.length := Utf8.toNat_byte (by omega)
    have hrest := ih (fun raw' hmem => hraws raw' (List.mem_cons_of_mem _ hmem)) h.right
    rw [List.length_cons] at hrest
    have hoff : off + (raw.length + 1) = off + 1 + raw.length := by omega
    have hafter : off + 1 + raw.length + (wireLabels raws).length + 1
        = off + (wireLabels (raw :: raws)).length + 1 := by
      rw [wireLabels_cons, List.length_append, List.length_cons]
      omega
    rw [hoff, hafter] at hrest
    exact .label hlen hpos hmax h.left hrest

/-- Decoding the labels of a name gives the name without its trailing dots. -/
theorem dotted_rawLabels (name : String) : dotted (rawLabels name) = rstripChar '.' name := by
  have hlabels : (rawLabels name).map Bytes.decodeReplace = labelsOf name := by
    unfold rawLabels
    rw [List.map_map]
    refine (List.map_congr_left fun label _ => ?_).trans (List.map_id _)
    exact decodeReplace_encodeUtf8 label
  unfold dotted
  rw [hlabels]
  exact intercalate_split '.' (rstripChar '.' name)

theorem length_encodeUtf8_pos {label : String} (h : label ≠ "") :
    1 ≤ (encodeUtf8 label).length := by
  rcases Nat.eq_zero_or_pos (encodeUtf8 label).length with hzero | hpos
  · have hback := decodeReplace_encodeUtf8 label
    rw [List.eq_nil_of_length_eq_zero hzero] at hback
    exact absurd hback.symm h
  · exact hpos

/-- Labels that are not empty and not too long have a length byte of the format. -/
theorem length_of_labels {labels : List String}
    (h : ∀ label ∈ labels, label ≠ "" ∧ (encodeUtf8 label).length ≤ 63) :
    ∀ raw ∈ labels.map encodeUtf8, 1 ≤ raw.length ∧ raw.length ≤ 63 := by
  intro raw hraw
  obtain ⟨label, hlabel, rfl⟩ := List.mem_map.mp hraw
  obtain ⟨hne, hmax⟩ := h label hlabel
  exact ⟨length_encodeUtf8_pos hne, hmax⟩

/-- **A name decodes back to itself exactly when none of its labels is empty.** For
every name `encode_name` accepts and whatever surrounds it: `decode_name` returns the
name without its trailing dots and the offset behind it if and only if the name,
without them, splits into labels none of which is empty. -/
theorem name_roundtrip_iff {name : String} {out : Bytes} (h : encodeName name = .ok out)
    (pre post : Bytes) :
    decodeName (pre ++ out ++ post) pre.length
        = .ok (rstripChar '.' name, pre.length + out.length) ↔
      "" ∉ labelsOf name := by
  obtain ⟨hmax, hout⟩ := encodeName_eq_ok.mp h
  have hat : At (pre ++ out ++ post) pre.length out := At.of_append pre out post
  constructor
  · intro hdecode hempty
    -- the first empty label ends the name
    obtain ⟨before, after, hsplit, hbefore⟩ := List.eq_append_cons_of_mem hempty
    have hraw : rawLabels name = before.map encodeUtf8 ++ [] :: after.map encodeUtf8 := by
      unfold rawLabels
      rw [hsplit, List.map_append, List.map_cons]
      rfl
    have hpieces : out = (wireLabels (before.map encodeUtf8) ++ [0]) ++
        (wireLabels (after.map encodeUtf8) ++ [0]) := by
      rw [hout, hraw, wireLabels_append, wireLabels_cons]
      simp
    rw [hpieces] at hat
    have hlengths := length_of_labels fun label (hlabel : label ∈ before) =>
      ⟨fun heq => hbefore (heq ▸ hlabel), hmax (encodeUtf8 label) (by
        rw [hraw]
        exact List.mem_append_left _ (List.mem_map_of_mem hlabel))⟩
    have hname := decodeName_of_nameAt ⟨0, Nat.zero_le 20, encodes_wireLabels hlengths hat.left⟩
    rw [← hpieces, hdecode] at hname
    have hoff := congrArg Prod.snd (Except.ok.inj hname)
    have hlen := congrArg List.length hpieces
    simp only [List.length_append, List.length_cons, List.length_nil] at hoff hlen
    omega
  · intro hempty
    rw [hout] at hat ⊢
    have hlengths : ∀ raw ∈ rawLabels name, 1 ≤ raw.length ∧ raw.length ≤ 63 :=
      length_of_labels fun label hlabel =>
        ⟨fun heq => hempty (heq ▸ hlabel), hmax (encodeUtf8 label) (List.mem_map_of_mem hlabel)⟩
    have henc := encodes_wireLabels hlengths hat
    rw [decodeName_of_nameAt ⟨0, Nat.zero_le 20, henc⟩, dotted_rawLabels, List.length_append,
      List.length_singleton, Nat.add_assoc]

/-- A name with a trailing dot, between other bytes, comes back without the dot. -/
theorem local_decoded :
    decodeName ([7] ++ [1, 97, 5, 108, 111, 99, 97, 108, 0] ++ []) 1
      = .ok (rstripChar '.' "a.local.", 10) := by
  have hname : encodeName "a.local." = .ok [1, 97, 5, 108, 111, 99, 97, 108, 0] := by
    decide +kernel
  exact (name_roundtrip_iff hname [7] []).mpr (by decide +kernel)

/-- The root name is written as two zero bytes, of which one is read. -/
theorem root_misread :
    ¬ ∀ name out, encodeName name = .ok out → ∀ pre post,
      decodeName (pre ++ out ++ post) pre.length
        = .ok (rstripChar '.' name, pre.length + out.length) := by
  intro h
  have hroot : encodeName "" = .ok [0, 0] := by decide +kernel
  have hread : decodeName ([] ++ [0, 0] ++ []) 0 = .ok ("", 1) := by decide +kernel
  have hclaim := hread.symm.trans (h "" [0, 0] hroot [] [])
  exact absurd (congrArg Prod.snd (Except.ok.inj hclaim)) (by decide)

/-! ## Queries -/

/-- The class of a question: IN, with the QU bit for a unicast reply. -/
def questionClass (unicast : Bool) : Nat := 0x0001 ||| (if unicast then 0x8000 else 0)

/-- A question as it is sent. -/
def wireQuestion (unicast : Bool) (q : String × Int) : WireQuestion where
  labels := rawLabels q.1
  qtype := UInt16.ofNat q.2.toNat
  qclass := UInt16.ofNat (questionClass unicast)

/-- A question that can be sent: its type fits, and so do its labels. -/
def Sendable (q : String × Int) : Prop :=
  (0 ≤ q.2 ∧ q.2 < 65536) ∧ ∀ label ∈ labelsOf q.1, label ≠ "" ∧ (encodeUtf8 label).length ≤ 63

/-- The labels of a question that may be sent have a length byte. -/
theorem Sendable.rawLabels {q : String × Int} (h : Sendable q) :
    ∀ raw ∈ rawLabels q.1, 1 ≤ raw.length ∧ raw.length ≤ 63 := length_of_labels h.2

/-- The class fits in 16 bits, with the unicast bit or without. -/
theorem questionClass_lt (unicast : Bool) : questionClass unicast < 65536 := by
  cases unicast <;> decide

theorem toNat_ofNat16 {n : Nat} (h : n < 65536) : (UInt16.ofNat n).toNat = n := by
  rw [UInt16.toNat_ofNat']
  exact Nat.mod_eq_of_lt h

/-- The bytes of one question. -/
def questionBytes (unicast : Bool) (q : String × Int) : Bytes :=
  wireLabels (rawLabels q.1) ++ [0] ++ packed [(2, q.2.toNat), (2, questionClass unicast)]

/-- One more question that may be sent, in front of the others. -/
theorem encodeQuestions_cons {unicast : Bool} {q : String × Int} (h : Sendable q)
    {rest : List (String × Int)} {body : Bytes} (hbody : encodeQuestions unicast rest = .ok body) :
    encodeQuestions unicast (q :: rest) = .ok (questionBytes unicast q ++ body) := by
  obtain ⟨name, qtype⟩ := q
  obtain ⟨hpos, hlt⟩ := h.1
  dsimp only at hpos hlt
  have hname : encodeName name = .ok (wireLabels (rawLabels name) ++ [0]) :=
    encodeName_eq_ok.mpr ⟨fun raw hraw => (h.rawLabels raw hraw).2, rfl⟩
  have hclass := questionClass_lt unicast
  have hfits : ∀ x ∈ [(2, qtype.toNat), (2, questionClass unicast)], x.2 < 256 ^ x.1 := by
    simp
    omega
  have hpack : structPack [2, 2] [(qtype.toNat : Int), (questionClass unicast : Int)]
      = .ok (packed [(2, qtype.toNat), (2, questionClass unicast)]) := structPack_eq hfits
  rw [Int.toNat_of_nonneg hpos] at hpack
  rw [encodeQuestions]
  unfold questionClass at hpack
  rw [hname, hpack, hbody]
  rfl

/-- The bytes of a question are a question of the format. -/
theorem questionAt {buf : Bytes} {off : Nat} {unicast : Bool} {q : String × Int} (h : Sendable q)
    (hat : At buf off (questionBytes unicast q)) :
    QuestionAt buf off (wireQuestion unicast q)
      (off + (questionBytes unicast q).length) := by
  have hnonneg := h.1.1
  have hlt := h.1.2
  have htype : (UInt16.ofNat q.2.toNat).toNat = q.2.toNat := toNat_ofNat16 (by omega)
  have hclass : (UInt16.ofNat (questionClass unicast)).toNat = questionClass unicast :=
    toNat_ofNat16 (questionClass_lt unicast)
  have hname : NameAt buf off (rawLabels q.1) (off + (wireLabels (rawLabels q.1)).length + 1) :=
    ⟨0, Nat.zero_le 20, encodes_wireLabels h.rawLabels hat.left⟩
  have hnumbers := hat.right
  rw [List.length_append, List.length_singleton, ← Nat.add_assoc] at hnumbers
  unfold wireQuestion QuestionAt
  dsimp only
  rw [htype, hclass]
  refine ⟨_, hname, hnumbers, ?_⟩
  unfold questionBytes
  rw [List.length_append, List.length_append, length_packed]
  simp only [List.length_singleton, List.map_cons, List.map_nil, List.sum_cons, List.sum_nil]
  omega

/-- The questions are written back to back. -/
theorem encodeQuestions_layout (unicast : Bool) {questions : List (String × Int)}
    (hq : ∀ q ∈ questions, Sendable q) :
    ∃ body, encodeQuestions unicast questions = .ok body ∧ ∀ buf off, At buf off body →
      ∃ after, BackToBack (QuestionAt buf) off (questions.map (wireQuestion unicast)) after := by
  induction questions with
  | nil => exact ⟨[], rfl, fun buf off _ => ⟨off, .nil⟩⟩
  | cons q rest ih =>
    obtain ⟨body, hbody, hlayout⟩ := ih fun q' hmem => hq q' (List.mem_cons_of_mem _ hmem)
    have hsend := hq q (List.mem_cons_self ..)
    refine ⟨_, encodeQuestions_cons hsend hbody, fun buf off hat => ?_⟩
    obtain ⟨after, hrest⟩ := hlayout buf _ hat.right
    exact ⟨after, .cons (questionAt hsend hat.left) hrest⟩

/-- What the decoder makes of a question that was sent. -/
theorem dotted_wireQuestion {unicast : Bool} {q : String × Int} (h : Sendable q) :
    (⟨dotted (wireQuestion unicast q).labels, (wireQuestion unicast q).qtype.toNat, ""⟩ : Record)
      = ⟨rstripChar '.' q.1, q.2.toNat, ""⟩ := by
  have hnonneg := h.1.1
  have hlt := h.1.2
  have htype : (UInt16.ofNat q.2.toNat).toNat = q.2.toNat := toNat_ofNat16 (by omega)
  unfold wireQuestion
  dsimp only
  rw [dotted_rawLabels, htype]

/-- **Queries round-trip**: for at most 65535 questions whose types fit in 16 bits and
whose names have labels of 1 to 63 bytes, the query is built, and parsing it returns
one record a question, in order, and no answers. -/
theorem query_roundtrip (questions : List (String × Int)) (unicast : Bool)
    (hlen : questions.length ≤ 65535) (hq : ∀ q ∈ questions, Sendable q) :
    ∃ pkt, buildQuery questions unicast = .ok pkt ∧
      parseMessage pkt
        = .ok (questions.map fun q => ⟨rstripChar '.' q.1, q.2.toNat, ""⟩, []) := by
  obtain ⟨body, hbody, hlayout⟩ := encodeQuestions_layout unicast hq
  have hfits : ∀ x ∈ [(2, 0), (2, 0), (2, questions.length), (2, 0), (2, 0), (2, 0)],
      x.2 < 256 ^ x.1 := by
    simp
    omega
  have hheader : structPack [2, 2, 2, 2, 2, 2] [0, 0, (questions.length : Int), 0, 0, 0]
      = .ok (packed [(2, 0), (2, 0), (2, questions.length), (2, 0), (2, 0), (2, 0)]) :=
    structPack_eq hfits
  generalize hpacked : packed [(2, 0), (2, 0), (2, questions.length), (2, 0), (2, 0), (2, 0)]
    = header at hheader
  have hpkt : buildQuery questions unicast = .ok (header ++ body) := by
    unfold buildQuery
    rw [hheader, hbody]
    rfl
  have hat : At (header ++ body) 0 (header ++ body) := by
    unfold At
    exact List.prefix_refl _
  have hlength : header.length = 12 := by
    rw [← hpacked, length_packed]
    rfl
  have hbodyAt : At (header ++ body) 12 body := by
    have hright := hat.right
    rw [hlength] at hright
    exact hright
  obtain ⟨after, hback⟩ := hlayout _ _ hbodyAt
  have hwell : WellFormed (header ++ body) (questions.map (wireQuestion unicast)) [] [] [] :=
    { header := ⟨0, 0, by
        rw [List.length_map]
        exact hpacked ▸ hat.left⟩
      counts := by
        rw [List.length_map]
        exact ⟨by omega, by decide, by decide, by decide⟩
      body := ⟨after, after, hback, .nil⟩ }
  obtain ⟨hlong, h4, h6, h8, h10⟩ := hwell.counts_eq
  have hparsed := parseQuestions_of_backToBack hback
  rw [← h4, List.map_map] at hparsed
  refine ⟨header ++ body, hpkt, ?_⟩
  rw [parseMessage_some hlong hparsed (by rw [h6, h8, h10]; rfl)]
  refine congrArg (fun rs => Except.ok (rs, [])) (List.map_congr_left fun q hmem => ?_)
  exact dotted_wireQuestion (hq q hmem)

/-- The service enumeration query, as the probe sends it. -/
theorem enumeration_roundtrip :
    ∃ pkt, buildQuery [("_services._dns-sd._udp.local", 12)] true = .ok pkt ∧
      parseMessage pkt = .ok
        ([("_services._dns-sd._udp.local", 12)].map fun q : String × Int =>
          ⟨rstripChar '.' q.1, q.2.toNat, ""⟩, []) :=
  query_roundtrip [("_services._dns-sd._udp.local", 12)] true (by decide) (by
    intro q hq
    rw [List.mem_singleton.mp hq]
    exact ⟨by decide, by decide +kernel⟩)

end Gc3.Tools.MdnsProbe
