import Gc3.Tools.SseGreeting

/-!
# What counts as an event

Over any stream and any way of cutting it: a frame is an event when the blank line
behind it comes in after the first chunk, or when it is a line of the residue of more
than one chunk. Which frames these are can be read off the bytes of the stream and of
its first chunk (`lateFrames`), and on them alone rests what `verdict` and
`run_variants` recommend.

`stream_counts` is the result on one stream: its frames that say something are all
counted once, and as events those of them that are late. `push_iff_late` draws the
conclusion for the probe as a whole: a push transport is recommended exactly when the
connections did not fail and a late frame says something, and the talkers among several
variants are those of which that is so.

The frames themselves come from `Gc3.Tools.SseFraming`, where they are those of the
whole stream however it is cut. What is added here is the preamble mark, which does
depend on the cutting: `Counted` is the invariant of the read loop from its second chunk
on, and `stopReading_counts` what the residue adds to it at the end.
-/

namespace Gc3.Tools.SseProbe

open Gc3.Py

section

variable [Runtime]

/-! ## Frames by their place in the stream -/

/-- The frames of a stream that were complete with its first chunk. -/
def earlyFrames (mode : FramingMode) (chunks : List Bytes) : List Bytes :=
  (Framing.cutAll (separator mode) (chunks.head?.getD [])).1

/-- The lines that are framed only when reading has stopped. -/
def tailFrames (mode : FramingMode) (chunks : List Bytes) : Ending → List Bytes
  | .failed _ => []
  | _ =>
    let rest := (Framing.cutAll (separator mode) chunks.flatten).2
    if blankFramed mode && rest.contains 10 then residueLines rest else []

/-- All frames of a stream. -/
def allFrames (mode : FramingMode) (chunks : List Bytes) (ending : Ending) : List Bytes :=
  (Framing.cutAll (separator mode) chunks.flatten).1 ++ tailFrames mode chunks ending

/-- Those that did not come with the greeting. -/
def lateFrames (mode : FramingMode) (chunks : List Bytes) (ending : Ending) : List Bytes :=
  (Framing.cutAll (separator mode) chunks.flatten).1.drop (earlyFrames mode chunks).length ++
    if chunks.length ≤ 1 then [] else tailFrames mode chunks ending

/-- How many frames say something. -/
def texts (frames : List Bytes) : Nat := frames.countP (frameText · ≠ "")

theorem texts_append (fs gs : List Bytes) : texts (fs ++ gs) = texts fs + texts gs :=
  List.countP_append

/-! ## The read loop -/

/-- From the first chunk on, `early` of the frames handed on are no events. -/
structure Counted (early : Nat) (s : Reader) : Prop where
  chunks_pos : 1 ≤ s.res.chunks
  early_le : early ≤ s.handed.length
  events_eq : s.res.events = texts (s.handed.drop early)

/-- Recording frames counts those that say something, whatever they are marked as. -/
theorem foldl_frames (p : Bool) (raws : List Bytes) (res : StreamResult) :
    (raws.foldl (recordFrame p) res).frames = res.frames + texts raws := by
  unfold texts
  induction raws generalizing res with
  | nil => simp
  | cons raw raws ih =>
    rw [List.foldl_cons, ih, List.countP_cons]
    by_cases htext : frameText raw = ""
    · rw [recordFrame_blank htext]
      simp [htext]
    · rw [recordFrame_text htext]
      simp [htext, Nat.add_assoc, Nat.add_comm]

/-- The first chunk brings no events. -/
theorem counted_first (mode : FramingMode) (res : StreamResult) (hchunks : res.chunks = 0)
    (hevents : res.events = 0) (chunk : Bytes) :
    Counted (earlyFrames mode [chunk]).length (readChunk mode ⟨res, [], []⟩ chunk) := by
  rw [readChunk_eq]
  dsimp only
  rw [List.nil_append]
  obtain ⟨hcounter, -, -, -⟩ := foldl_counters (res.chunks + 1 == 1)
    (Framing.cutAll (separator mode) chunk).1
    { res with
      chunks := res.chunks + 1
      bytesRead := res.bytesRead + chunk.length }
  refine ⟨?_, ?_, ?_⟩
  · rw [hcounter]
    exact Nat.le_add_left 1 _
  · exact Nat.le_refl _
  · rw [foldl_events]
    simp [hchunks, hevents, earlyFrames, texts]

/-- Every frame of a later chunk that says something is one. -/
theorem counted_readChunk {mode : FramingMode} {early : Nat} {s : Reader} (h : Counted early s)
    (chunk : Bytes) : Counted early (readChunk mode s chunk) := by
  rw [readChunk_eq]
  dsimp only
  -- past the first chunk nothing is taken for a greeting
  have hlate : (s.res.chunks + 1 == 1) = false := by
    have hpos := h.chunks_pos
    simp
    omega
  rw [hlate]
  obtain ⟨hcounter, -, -, -⟩ := foldl_counters false
    (Framing.cutAll (separator mode) (s.buf ++ chunk)).1
    { s.res with
      chunks := s.res.chunks + 1
      bytesRead := s.res.bytesRead + chunk.length }
  refine ⟨?_, ?_, ?_⟩
  · rw [hcounter]
    exact Nat.le_add_left 1 _
  · rw [List.length_append]
    exact Nat.le_trans h.early_le (Nat.le_add_right _ _)
  · rw [foldl_events, List.drop_append_of_le_length h.early_le, texts_append, ← h.events_eq]
    simp [texts]

/-- After the loop: the first chunk's frames are no events, all later ones are. -/
theorem counted_readLoop (mode : FramingMode) (res : StreamResult) (hchunks : res.chunks = 0)
    (hevents : res.events = 0) (chunk : Bytes) (chunks : List Bytes) :
    Counted (earlyFrames mode (chunk :: chunks)).length (readLoop mode res (chunk :: chunks)) :=
  Runs.run_invariant (I := Counted (earlyFrames mode [chunk]).length)
    (counted_first mode res hchunks hevents chunk) (fun _ c h => counted_readChunk h c) chunks

/-! ## The end of a stream -/

/-- The lines a residue is framed into, if it is. -/
def framedLines (mode : FramingMode) (rest : Bytes) : List Bytes :=
  if blankFramed mode && rest.contains 10 then residueLines rest else []

/-- The residue is framed by line, and its lines are events after more than one chunk.
-/
theorem frameResidue_counts (mode : FramingMode) (s : Reader) :
    (frameResidue mode s).res.events = s.res.events +
        (if s.res.chunks ≤ 1 then 0 else texts (framedLines mode s.buf)) ∧
      (frameResidue mode s).res.frames = s.res.frames + texts (framedLines mode s.buf) ∧
      (frameResidue mode s).res.bytesRead = s.res.bytesRead ∧
      (frameResidue mode s).res.connected = s.res.connected := by
  unfold frameResidue framedLines
  by_cases hbuf : s.buf = []
  · rw [if_pos hbuf]
    simp [hbuf, texts]
  rw [if_neg hbuf]
  by_cases hlines : (blankFramed mode && s.buf.contains 10) = true
  · obtain ⟨-, hbytes, -, hconnected⟩ :=
      foldl_counters (decide (s.res.chunks ≤ 1)) (residueLines s.buf) s.res
    rw [if_pos hlines, if_pos hlines]
    dsimp only
    refine ⟨?_, foldl_frames _ _ _, hbytes, hconnected⟩
    rw [foldl_events]
    simp [texts]
  · rw [if_neg hlines, if_neg hlines]
    simp [texts]

/-- So much for a stream that ends; one that breaks off leaves its residue unframed. -/
theorem stopReading_counts (mode : FramingMode) (s : Reader) {chunks : List Bytes}
    (hbuf : s.buf = (Framing.cutAll (separator mode) chunks.flatten).2) (ending : Ending) :
    (stopReading mode s ending).res.events = s.res.events +
        (if s.res.chunks ≤ 1 then 0 else texts (tailFrames mode chunks ending)) ∧
      (stopReading mode s ending).res.frames =
        s.res.frames + texts (tailFrames mode chunks ending) ∧
      (stopReading mode s ending).res.bytesRead = s.res.bytesRead ∧
      (stopReading mode s ending).res.connected = s.res.connected := by
  have hlines : ∀ ending, (∀ error, ending ≠ .failed error) →
      tailFrames mode chunks ending = framedLines mode s.buf := by
    intro ending hending
    unfold tailFrames framedLines
    rw [hbuf]
    cases ending with
    | failed error => exact absurd rfl (hending error)
    | _ => rfl
  cases ending with
  | failed error => simp [stopReading, tailFrames, texts]
  | closed =>
    rw [hlines _ (by simp)]
    exact frameResidue_counts mode { s with res := { s.res with closedByServer := true } }
  | deadline =>
    rw [hlines _ (by simp)]
    exact frameResidue_counts mode s
  | readTimeout =>
    rw [hlines _ (by simp)]
    exact frameResidue_counts mode { s with res := { s.res with readTimedOut := true } }

theorem readLoop_connected (mode : FramingMode) (res : StreamResult) (chunks : List Bytes) :
    (readLoop mode res chunks).res.connected = res.connected :=
  Runs.run_invariant (I := fun s : Reader => s.res.connected = res.connected) rfl
    (fun s chunk h => by
      rw [readChunk_eq]
      dsimp only
      rw [(foldl_counters _ _ _).2.2.2]
      exact h) chunks

/-- **What a stream counts**: its frames that say something, and as events those of
them that did not come with the greeting. -/
theorem stream_counts (label : String) (mode : FramingMode) (status : Nat)
    (contentType : String) (headers : List (String × String)) (chunks : List Bytes)
    (ending : Ending) :
    let r := stream label mode (.opened status contentType headers chunks ending)
    r.connected = true ∧ r.bytesRead = chunks.flatten.length ∧
      r.frames = texts (allFrames mode chunks ending) ∧
      r.events = texts (lateFrames mode chunks ending) := by
  intro r
  have hloop := received_readLoop mode (connected label status contentType headers) chunks
  have hconn := readLoop_connected mode (connected label status contentType headers) chunks
  -- the early frames are those cut off the first chunk alone
  have hevents : (readLoop mode (connected label status contentType headers) chunks).res.events =
      texts ((Framing.cutAll (separator mode) chunks.flatten).1.drop
        (earlyFrames mode chunks).length) := by
    cases chunks with
    | nil => rfl
    | cons chunk chunks =>
      have hcounted := counted_readLoop mode (connected label status contentType headers) rfl rfl
        chunk chunks
      rw [hcounted.events_eq]
      exact congrArg (fun cut => texts
        (cut.1.drop (earlyFrames mode (chunk :: chunks)).length)) hloop.cut_eq
  have hframes : (readLoop mode (connected label status contentType headers) chunks).res.frames =
      texts (Framing.cutAll (separator mode) chunks.flatten).1 := by
    rw [hloop.alike.frames_eq, foldl_frames]
    exact (Nat.zero_add _).trans (congrArg (fun cut => texts cut.1) hloop.cut_eq)
  have hchunks := hloop.chunks_eq
  have hbytes := hloop.bytes_eq
  obtain ⟨hevents', hframes', hbytes', hconn'⟩ := stopReading_counts mode _
    (congrArg Prod.snd hloop.cut_eq) ending
  rw [hevents, hchunks] at hevents'
  rw [hframes] at hframes'
  refine ⟨hconn'.trans hconn, ?_, ?_, ?_⟩
  · exact hbytes'.trans (hbytes.trans (Nat.zero_add _))
  · unfold allFrames
    rw [texts_append]
    exact hframes'
  · unfold lateFrames
    rw [texts_append]
    refine hevents'.trans ?_
    have hzero : (connected label status contentType headers).chunks = 0 := rfl
    rw [hzero, Nat.zero_add]
    by_cases hone : chunks.length ≤ 1
    · rw [if_pos hone, if_pos hone]
      rfl
    · rw [if_neg hone, if_neg hone]

/-! ## What is recommended -/

omit [Runtime] in
/-- Early frames first, late frames last, none left out. -/
theorem lateFrames_suffix (mode : FramingMode) (chunks : List Bytes) (ending : Ending) :
    lateFrames mode chunks ending <:+ allFrames mode chunks ending := by
  unfold lateFrames allFrames
  by_cases hone : chunks.length ≤ 1
  · have hearly : earlyFrames mode chunks = (Framing.cutAll (separator mode) chunks.flatten).1 := by
      match chunks, hone with
      | [], _ => rfl
      | [c], _ => simp [earlyFrames]
    rw [if_pos hone, hearly, List.drop_length, List.append_nil]
    exact List.nil_suffix
  · rw [if_neg hone]
    obtain ⟨early, hearly⟩ := List.drop_suffix (earlyFrames mode chunks).length
      (Framing.cutAll (separator mode) chunks.flatten).1
    refine ⟨early, ?_⟩
    rw [← List.append_assoc, hearly]

/-- A count that is not zero has a frame that says something. -/
theorem texts_ne_zero_iff (frames : List Bytes) :
    texts frames ≠ 0 ↔ ∃ frame ∈ frames, frameText frame ≠ "" := by
  unfold texts
  rw [← Nat.pos_iff_ne_zero, List.countP_pos_iff]
  simp

omit [Runtime] in
/-- A push is recommended over a connection with events, when none has failed. -/
theorem push_mem_verdict {res : StreamResult} (h : res.connected = true) (fail : Nat) :
    .push ∈ verdict res fail ↔ fail = 0 ∧ res.events ≠ 0 := by
  unfold verdict
  rw [h]
  by_cases hfail : fail = 0 <;> by_cases hevents : res.events = 0 <;>
    by_cases hbytes : res.bytesRead = 0 <;> simp [hfail, hevents, hbytes]

/-- **A push transport is recommended exactly when the stream says more than its
greeting.** For every stream, cut into chunks in whatever way, in every framing mode and
to every ending: each frame with a text is counted once, and as an event exactly when it
did not come with the greeting; `verdict` puts `local_push` on the table if and only if
there was such a frame and no status poll failed, and `run_variants` names the variant if
and only if there was one. -/
theorem push_iff_late (label : String) (mode : FramingMode) (status : Nat)
    (contentType : String) (headers : List (String × String)) (chunks : List Bytes)
    (ending : Ending) :
    let r := stream label mode (.opened status contentType headers chunks ending)
    let late := lateFrames mode chunks ending
    late <:+ allFrames mode chunks ending ∧
      r.frames = texts (allFrames mode chunks ending) ∧ r.events = texts late ∧
      (∀ fail, .push ∈ verdict r fail ↔ fail = 0 ∧ ∃ frame ∈ late, frameText frame ≠ "") ∧
      ∀ results, r ∈ talkers results ↔
        r ∈ results ∧ ∃ frame ∈ late, frameText frame ≠ "" := by
  intro r late
  obtain ⟨hconnected, -, hframes, hevents⟩ :=
    stream_counts label mode status contentType headers chunks ending
  have hsays : r.events ≠ 0 ↔ ∃ frame ∈ late, frameText frame ≠ "" := by
    rw [hevents]
    exact texts_ne_zero_iff late
  refine ⟨lateFrames_suffix mode chunks ending, hframes, hevents, fun fail => ?_, fun results => ?_⟩
  · rw [push_mem_verdict hconnected, hsays]
  · unfold talkers
    rw [List.mem_filter, ← hsays]
    simp

end

end Gc3.Tools.SseProbe
