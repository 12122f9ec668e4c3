import Gc3.Lib.Runs
import Gc3.Py.Latin1
import Gc3.Tools.SseProbe

/-!
# How the bytes arrive does not show

The reader is followed through its chunks by what it has received: the frames it has
handed on and its buffer are those of the whole stream cut at once (`Lib.Framing`), and
its counters are what the same frames leave whatever they are marked as. Only the
preamble mark, and with it the count of events, depends on the chunks.

`chunks_do_not_show` puts this as a statement about two ways of cutting one stream, in
any of the three framing modes and to the end of the reading: the same frames are handed
to `_record_frame` in the same order, they and the residue with the separators in
between are the stream again, and the results differ in the preamble mark alone.

`Received` is the invariant of the loop, kept chunk by chunk (`received_readChunk`): the
bytes so far are cut as a whole. That a separator may be split between two chunks is
dealt with in the library, by the rule for cutting in two steps. `Alike` is the relation
of two results that differ in events at most, which recording a frame keeps however it
is marked.
-/

namespace Gc3.Tools.SseProbe

open Gc3.Py

variable [Runtime]

omit [Runtime] in
theorem separator_ne_nil (mode : FramingMode) : separator mode ≠ [] := by
  unfold separator
  split <;> simp

/-! ## What a frame leaves, whatever it is marked as -/

/-- Two results agree on everything counted by frame. -/
structure Alike (res res' : StreamResult) : Prop where
  frames_eq : res.frames = res'.frames
  sseFields_eq : res.sseFields = res'.sseFields
  samples_eq : res.samples = res'.samples

omit [Runtime] in
/-- What differs in events at most does so the other way round. -/
theorem Alike.symm {res res' : StreamResult} (h : Alike res res') : Alike res' res :=
  ⟨h.frames_eq.symm, h.sseFields_eq.symm, h.samples_eq.symm⟩

omit [Runtime] in
theorem Alike.trans {res res' res'' : StreamResult} (h : Alike res res')
    (h' : Alike res' res'') : Alike res res'' :=
  ⟨h.frames_eq.trans h'.frames_eq, h.sseFields_eq.trans h'.sseFields_eq,
    h.samples_eq.trans h'.samples_eq⟩

theorem recordFrame_blank {raw : Bytes} (h : frameText raw = "") (p : Bool)
    (res : StreamResult) : recordFrame p res raw = res := by
  unfold recordFrame
  exact if_pos h

theorem recordFrame_text {raw : Bytes} (h : frameText raw ≠ "") (p : Bool)
    (res : StreamResult) : recordFrame p res raw =
      { res with
        frames := res.frames + 1
        preamble := if p then clip 200 (frameText raw) else res.preamble
        events := if p then res.events else res.events + 1
        sseFields := res.sseFields ∪ ((splitlines (frameText raw)).filterMap fieldOf).toFinset
        samples := if res.samples.length < 8 then res.samples ++ [clip 1500 (frameText raw)]
          else res.samples } := by
  unfold recordFrame
  exact if_neg h

theorem Alike.recordFrame {res res' : StreamResult} (h : Alike res res') (p q : Bool)
    (raw : Bytes) : Alike (recordFrame p res raw) (SseProbe.recordFrame q res' raw) := by
  by_cases htext : frameText raw = ""
  · rw [recordFrame_blank htext, recordFrame_blank htext]
    exact h
  · rw [recordFrame_text htext, recordFrame_text htext]
    exact ⟨by dsimp only; rw [h.frames_eq], by dsimp only; rw [h.sseFields_eq],
      by dsimp only; rw [h.samples_eq]⟩

theorem Alike.foldl {res res' : StreamResult} (h : Alike res res') (p q : Bool)
    (raws : List Bytes) :
    Alike (raws.foldl (SseProbe.recordFrame p) res)
      (raws.foldl (SseProbe.recordFrame q) res') := by
  induction raws generalizing res res' with
  | nil => exact h
  | cons raw raws ih =>
    rw [List.foldl_cons, List.foldl_cons]
    exact ih (h.recordFrame p q raw)

/-- Recording frames touches none of the other counters. -/
theorem recordFrame_counters (p : Bool) (res : StreamResult) (raw : Bytes) :
    (recordFrame p res raw).chunks = res.chunks ∧
      (recordFrame p res raw).bytesRead = res.bytesRead ∧
      (recordFrame p res raw).residue = res.residue ∧
      (recordFrame p res raw).connected = res.connected := by
  by_cases htext : frameText raw = ""
  · rw [recordFrame_blank htext]
    exact ⟨rfl, rfl, rfl, rfl⟩
  · rw [recordFrame_text htext]
    exact ⟨rfl, rfl, rfl, rfl⟩

theorem foldl_counters (p : Bool) (raws : List Bytes) (res : StreamResult) :
    (raws.foldl (recordFrame p) res).chunks = res.chunks ∧
      (raws.foldl (recordFrame p) res).bytesRead = res.bytesRead ∧
      (raws.foldl (recordFrame p) res).residue = res.residue ∧
      (raws.foldl (recordFrame p) res).connected = res.connected := by
  induction raws generalizing res with
  | nil => exact ⟨rfl, rfl, rfl, rfl⟩
  | cons raw raws ih =>
    obtain ⟨hchunks, hbytes, hresidue, hconnected⟩ := ih (recordFrame p res raw)
    rw [List.foldl_cons, hchunks, hbytes, hresidue, hconnected]
    exact recordFrame_counters p res raw

/-! ## The read loop -/

/-- What the reader is after the chunks `chunks`, from a fresh result. -/
structure Received (mode : FramingMode) (res : StreamResult) (chunks : List Bytes)
    (s : Reader) : Prop where
  cut_eq : (s.handed, s.buf) = Framing.cutAll (separator mode) chunks.flatten
  chunks_eq : s.res.chunks = res.chunks + chunks.length
  bytes_eq : s.res.bytesRead = res.bytesRead + chunks.flatten.length
  residue_eq : s.res.residue = res.residue
  alike : Alike s.res (s.handed.foldl (recordFrame false) res)

/-- A chunk is appended to the buffer, and what is complete of it handed on. -/
theorem readChunk_eq (mode : FramingMode) (s : Reader) (chunk : Bytes) :
    readChunk mode s chunk =
      let cut := Framing.cutAll (separator mode) (s.buf ++ chunk)
      let res := { s.res with
        chunks := s.res.chunks + 1
        bytesRead := s.res.bytesRead + chunk.length }
      ⟨cut.1.foldl (recordFrame (res.chunks == 1)) res, cut.2, s.handed ++ cut.1⟩ := rfl

/-- A chunk more, cut in two steps or in one. -/
theorem received_readChunk {mode : FramingMode} {res : StreamResult} {chunks : List Bytes}
    {s : Reader} (h : Received mode res chunks s) (chunk : Bytes) :
    Received mode res (chunks ++ [chunk]) (readChunk mode s chunk) := by
  have hcut := Framing.cutAll_append (separator_ne_nil mode) chunks.flatten chunk
  rw [← h.cut_eq] at hcut
  unfold Framing.feed at hcut
  rw [readChunk_eq]
  generalize Framing.cutAll (separator mode) (s.buf ++ chunk) = cut at hcut ⊢
  obtain ⟨frames, buf⟩ := cut
  dsimp only at hcut ⊢
  obtain ⟨hchunks, hbytes, hresidue, -⟩ := foldl_counters (s.res.chunks + 1 == 1) frames
    { s.res with
      chunks := s.res.chunks + 1
      bytesRead := s.res.bytesRead + chunk.length }
  have halike : Alike { s.res with
      chunks := s.res.chunks + 1
      bytesRead := s.res.bytesRead + chunk.length } (s.handed.foldl (recordFrame false) res) :=
    ⟨h.alike.frames_eq, h.alike.sseFields_eq, h.alike.samples_eq⟩
  refine ⟨?_, ?_, ?_, ?_, ?_⟩
  · rw [List.flatten_append, List.flatten_singleton]
    exact hcut.symm
  · rw [hchunks]
    dsimp only
    rw [h.chunks_eq, List.length_append, List.length_singleton, Nat.add_assoc]
  · rw [hbytes]
    dsimp only
    rw [h.bytes_eq, List.flatten_append, List.flatten_singleton, List.length_append, Nat.add_assoc]
  · rw [hresidue]
    exact h.residue_eq
  · dsimp only
    rw [List.foldl_append]
    exact halike.foldl _ false frames

/-- After any chunks, what has been received is cut as a whole. -/
theorem received_readLoop (mode : FramingMode) (res : StreamResult) (chunks : List Bytes) :
    Received mode res chunks (readLoop mode res chunks) :=
  Runs.run_history (R := Received mode res) ⟨rfl, rfl, rfl, rfl, ⟨rfl, rfl, rfl⟩⟩
    (fun _ _ chunk h => received_readChunk h chunk) chunks

/-! ## Two ways of cutting one stream -/

/-- Two readers hold the same, but for what is marked as preamble. -/
structure Same (s s' : Reader) : Prop where
  handed_eq : s.handed = s'.handed
  buf_eq : s.buf = s'.buf
  bytes_eq : s.res.bytesRead = s'.res.bytesRead
  residue_eq : s.res.residue = s'.res.residue
  alike : Alike s.res s'.res

/-- Two ways of cutting leave the same frames, the same buffer and alike results. -/
theorem same_readLoop (mode : FramingMode) (res : StreamResult) {cs cs' : List Bytes}
    (h : cs.flatten = cs'.flatten) : Same (readLoop mode res cs) (readLoop mode res cs') := by
  have hs := received_readLoop mode res cs
  have hs' := received_readLoop mode res cs'
  generalize readLoop mode res cs = s at hs ⊢
  generalize readLoop mode res cs' = s' at hs' ⊢
  have hcut : (s.handed, s.buf) = (s'.handed, s'.buf) := by rw [hs.cut_eq, hs'.cut_eq, h]
  obtain ⟨hhanded, hbuf⟩ := Prod.mk.inj hcut
  have halike := hs.alike
  rw [hhanded] at halike
  exact ⟨hhanded, hbuf, by rw [hs.bytes_eq, hs'.bytes_eq, h],
    by rw [hs.residue_eq, hs'.residue_eq], halike.trans hs'.alike.symm⟩

/-- The residue is the same, so it is framed the same. -/
theorem Same.frameResidue {s s' : Reader} (h : Same s s') (mode : FramingMode) :
    Same (frameResidue mode s) (SseProbe.frameResidue mode s') := by
  unfold SseProbe.frameResidue
  rw [h.buf_eq]
  split
  · exact h
  · split
    · -- the lines are the same, only their mark may not be
      obtain ⟨-, hbytes, hresidue, -⟩ :=
        foldl_counters (decide (s.res.chunks ≤ 1)) (residueLines s'.buf) s.res
      obtain ⟨-, hbytes', hresidue', -⟩ :=
        foldl_counters (decide (s'.res.chunks ≤ 1)) (residueLines s'.buf) s'.res
      refine ⟨?_, rfl, ?_, ?_, h.alike.foldl _ _ _⟩
      · exact congrArg (· ++ residueLines s'.buf) h.handed_eq
      · exact hbytes.trans (h.bytes_eq.trans hbytes'.symm)
      · exact hresidue.trans (h.residue_eq.trans hresidue'.symm)
    · exact ⟨h.handed_eq, rfl, h.bytes_eq, rfl,
        ⟨h.alike.frames_eq, h.alike.sseFields_eq, h.alike.samples_eq⟩⟩

omit [Runtime] in
/-- Marking what no frame counts keeps two readers the same. -/
theorem Same.mark {s s' : Reader} (h : Same s s') (mark : StreamResult → StreamResult)
    (hkeeps : ∀ res, Alike (mark res) res ∧ (mark res).bytesRead = res.bytesRead ∧
      (mark res).residue = res.residue) :
    Same { s with res := mark s.res } { s' with res := mark s'.res } := by
  obtain ⟨halike, hbytes, hresidue⟩ := hkeeps s.res
  obtain ⟨halike', hbytes', hresidue'⟩ := hkeeps s'.res
  exact ⟨h.handed_eq, h.buf_eq, hbytes.trans (h.bytes_eq.trans hbytes'.symm),
    hresidue.trans (h.residue_eq.trans hresidue'.symm),
    halike.trans (h.alike.trans halike'.symm)⟩

/-- And so to the end, however the reading ends. -/
theorem Same.stopReading {s s' : Reader} (h : Same s s') (mode : FramingMode)
    (ending : Ending) : Same (stopReading mode s ending) (SseProbe.stopReading mode s' ending) := by
  unfold SseProbe.stopReading
  cases ending with
  | deadline => exact h.frameResidue mode
  | closed =>
    have hmarked := h.mark (fun res => { res with closedByServer := true })
      fun res => ⟨⟨rfl, rfl, rfl⟩, rfl, rfl⟩
    exact hmarked.frameResidue mode
  | readTimeout =>
    have hmarked := h.mark (fun res => { res with readTimedOut := true })
      fun res => ⟨⟨rfl, rfl, rfl⟩, rfl, rfl⟩
    exact hmarked.frameResidue mode
  | failed error =>
    exact h.mark (fun res => { res with error := error })
      fun res => ⟨⟨rfl, rfl, rfl⟩, rfl, rfl⟩

/-- **Framing does not depend on how the bytes are cut, and loses none of them.** Two
ways of cutting one stream: the same frames are handed to `_record_frame`, while
reading and in all; the residue and the counters are the same; and the frames cut off
while reading, each with its separator, and the buffer left are the stream. -/
theorem chunks_do_not_show (label : String) (mode : FramingMode) (status : Nat)
    (contentType : String) (headers : List (String × String)) (ending : Ending)
    {cs cs' : List Bytes} (h : cs.flatten = cs'.flatten) :
    let res := connected label status contentType headers
    let s := readLoop mode res cs
    let r := stream label mode (.opened status contentType headers cs ending)
    let r' := stream label mode (.opened status contentType headers cs' ending)
    s.handed = (readLoop mode res cs').handed ∧
      (readStream mode res cs ending).handed = (readStream mode res cs' ending).handed ∧
      (r.residue = r'.residue ∧ r.frames = r'.frames ∧ r.bytesRead = r'.bytesRead ∧
        r.sseFields = r'.sseFields ∧ r.samples = r'.samples) ∧
      (s.handed.map (· ++ separator mode)).flatten ++ s.buf = cs.flatten := by
  intro res s r r'
  have hloop : Same s (readLoop mode res cs') := same_readLoop mode res h
  have hread : Same (readStream mode res cs ending) (readStream mode res cs' ending) :=
    hloop.stopReading mode ending
  refine ⟨hloop.handed_eq, hread.handed_eq, ⟨hread.residue_eq, hread.alike.frames_eq,
    hread.bytes_eq, hread.alike.sseFields_eq, hread.alike.samples_eq⟩, ?_⟩
  have hglue := Framing.glue_cutAll (separator_ne_nil mode) cs.flatten
  rw [← (received_readLoop mode res cs).cut_eq] at hglue
  exact hglue

omit [Runtime] in
/-- Two events, one of them split in the middle of the blank line behind it. -/
theorem split_separator_framed :
    let whole := [[100, 97, 116, 97, 58, 49, 10, 10, 100, 97, 116, 97, 58, 50, 10, 10]]
    let split := [[100, 97, 116, 97, 58, 49, 10], [10, 100, 97, 116, 97, 58, 50, 10, 10]]
    let res := connected "bare" 200 "text/event-stream" []
    let s := @readLoop latin1 .auto res whole
    let r := @stream latin1 "bare" .auto (.opened 200 "text/event-stream" [] whole .closed)
    let r' := @stream latin1 "bare" .auto (.opened 200 "text/event-stream" [] split .closed)
    s.handed = (@readLoop latin1 .auto res split).handed ∧
      (@readStream latin1 .auto res whole .closed).handed
        = (@readStream latin1 .auto res split .closed).handed ∧
      (r.residue = r'.residue ∧ r.frames = r'.frames ∧ r.bytesRead = r'.bytesRead ∧
        r.sseFields = r'.sseFields ∧ r.samples = r'.samples) ∧
      (s.handed.map (· ++ separator .auto)).flatten ++ s.buf = whole.flatten :=
  @chunks_do_not_show latin1 "bare" .auto 200 "text/event-stream" [] .closed _ _ (by decide)

end Gc3.Tools.SseProbe
