import Gc3.Tools.SseFraming

/-!
# A greeting and nothing else

What becomes of a stream without a blank line: the read loop frames nothing, so it is
the residue that is framed, by line, and marked by how many chunks there have been by
then. One chunk, and the lines are the preamble they are; two, and every line that says
something is an event.

A server that greets and then falls silent is what the probe calls a stub, and a
greeting is not to be counted as an event. `greeting_not_counted_iff` says when it is
not, for every greeting without a blank line and every way of cutting it: when it came
in one chunk, when it has no newline, or when it is blank. `banner_cut_in_two` is the
panel's own banner in two pieces.

The steps are `readLoop_of_not_infix` (no separator, nothing framed),
`frameResidue_counters` (the residue's lines, by the number of chunks) and
`residueLines_blank_iff`, which asks whether there is a line that says something and so
needs what stripping, decoding and splitting have to do with each other: that a text is
blank when each of its lines is, with white space in any encoding.
-/

namespace Gc3.Tools.SseProbe

open Gc3.Py

section

variable [Runtime]

/-! ## Blank text -/

omit [Runtime] in
/-- Stripping leaves nothing exactly where there is nothing but what it strips. -/
theorem rdropWhile_dropWhile_eq_nil_iff {α : Type} (p : α → Bool) (l : List α) :
    (l.dropWhile p).rdropWhile p = [] ↔ ∀ x ∈ l, p x = true := by
  rw [List.rdropWhile_eq_nil_iff]
  constructor
  · intro h x hx
    rw [← List.takeWhile_append_dropWhile (p := p) (l := l)] at hx
    rcases List.mem_append.mp hx with htake | hdrop
    · exact List.mem_takeWhile_imp htake
    · exact h x hdrop
  · intro h x hx
    exact h x ((List.dropWhile_sublist p).subset hx)

/-- A frame says nothing when it decodes to white space. -/
theorem frameText_eq_empty_iff (raw : Bytes) :
    frameText raw = "" ↔ ∀ c ∈ Utf8.decode raw, Runtime.isSpace c = true := by
  unfold frameText Bytes.decodeReplace Py.strip
  rw [← String.toList_inj, String.toList_ofList, String.toList_empty, String.toList_ofList]
  exact rdropWhile_dropWhile_eq_nil_iff _ _

omit [Runtime] in
theorem toNat_ofNat_ascii : ∀ n < 0x80, (Char.ofNat n).toNat = n := by decide

theorem isSpace_newline : Runtime.isSpace (Char.ofNat (10 : UInt8).toNat) = true :=
  (Runtime.isSpace_ascii _ (by decide)).mpr (by decide)

/-- A line feed in front of a text does not change whether it is blank. -/
theorem frameText_append_newline (line rest : Bytes) :
    frameText (line ++ 10 :: rest) = "" ↔ frameText line = "" ∧ frameText rest = "" := by
  simp only [frameText_eq_empty_iff]
  have hascii : (10 : UInt8).toNat < 0x80 := by decide
  rw [Utf8.decode_append_ascii line hascii rest, List.forall_mem_append, List.forall_mem_cons]
  simp only [isSpace_newline, true_and]

/-- A text is blank when each of its lines is. -/
theorem frameText_intercalate {lines : List Bytes} (h : lines ≠ []) :
    frameText ([10].intercalate lines) = "" ↔ ∀ line ∈ lines, frameText line = "" := by
  induction lines with
  | nil => contradiction
  | cons line rest ih =>
    cases rest with
    | nil => simp
    | cons next rest =>
      have hih := ih (by simp)
      rw [List.intercalate_cons_cons, List.append_assoc, List.singleton_append,
        frameText_append_newline, hih]
      exact (List.forall_mem_cons (p := fun line => frameText line = "")).symm

/-- A line of ASCII white space has no text. -/
theorem frameText_of_strip {line : Bytes} (h : line.strip = []) : frameText line = "" := by
  have hblank := (rdropWhile_dropWhile_eq_nil_iff _ line).mp h
  have hcodes : ∀ x ∈ [(9 : UInt8), 10, 11, 12, 13, 32], x.toNat < 0x80 ∧
      (9 ≤ x.toNat ∧ x.toNat ≤ 13 ∨ 28 ≤ x.toNat ∧ x.toNat ≤ 32) := by
    decide +kernel
  have hline : ∀ x ∈ line, x.toNat < 0x80 ∧
      (9 ≤ x.toNat ∧ x.toNat ≤ 13 ∨ 28 ≤ x.toNat ∧ x.toNat ≤ 32) := fun x hx =>
    hcodes x (List.contains_iff_mem.mp (hblank x hx))
  rw [frameText_eq_empty_iff, Utf8.decode_of_ascii fun x hx => (hline x hx).1]
  intro c hc
  obtain ⟨x, hx, rfl⟩ := List.mem_map.mp hc
  obtain ⟨hascii, hspace⟩ := hline x hx
  have hcode : (Char.ofNat x.toNat).toNat = x.toNat := toNat_ofNat_ascii _ hascii
  rw [Runtime.isSpace_ascii _ (by omega), hcode]
  exact hspace

/-- The lines the residue is framed into say something unless the residue is blank. -/
theorem residueLines_blank_iff (buf : Bytes) :
    (∀ line ∈ residueLines buf, frameText line = "") ↔ frameText buf = "" := by
  have hall : (∀ line ∈ residueLines buf, frameText line = "") ↔
      ∀ line ∈ buf.splitOn 10, frameText line = "" := by
    unfold residueLines
    constructor
    · intro h line hline
      by_cases hstrip : Bytes.strip line = []
      · exact frameText_of_strip hstrip
      · exact h line (List.mem_filter.mpr ⟨hline, by simpa using hstrip⟩)
    · intro h line hline
      exact h line (List.mem_filter.mp hline).1
  rw [hall, ← frameText_intercalate (List.splitOn_ne_nil 10 buf), List.intercalate_splitOn]

/-! ## The stream of a greeting -/

/-- Without a separator the read loop hands on nothing and keeps everything. -/
theorem readLoop_of_not_infix {mode : FramingMode} (res : StreamResult) {chunks : List Bytes}
    (h : ¬ separator mode <:+: chunks.flatten) :
    readLoop mode res chunks = ⟨{ res with
      chunks := res.chunks + chunks.length
      bytesRead := res.bytesRead + chunks.flatten.length }, chunks.flatten, []⟩ := by
  induction chunks using List.reverseRecOn with
  | nil => rfl
  | append_singleton chunks chunk ih =>
    rw [List.flatten_append, List.flatten_singleton] at h ⊢
    have hbefore := ih fun hin => h (hin.trans (List.prefix_append _ _).isInfix)
    have hcut : Framing.cutAll (separator mode) (chunks.flatten ++ chunk)
        = ([], chunks.flatten ++ chunk) :=
      Framing.cutAll_of_none (Framing.cutAt_eq_none_iff.mpr h)
    unfold readLoop at hbefore ⊢
    rw [List.foldl_append, hbefore, List.foldl_cons, List.foldl_nil, readChunk_eq]
    dsimp only
    rw [hcut]
    simp only [List.foldl_nil, List.length_append, List.length_singleton, List.append_nil,
      Nat.add_assoc]

/-- Frames with a text are events, unless they are marked as preamble. -/
theorem foldl_events (p : Bool) (raws : List Bytes) (res : StreamResult) :
    (raws.foldl (recordFrame p) res).events
      = res.events + if p then 0 else raws.countP (frameText · ≠ "") := by
  induction raws generalizing res with
  | nil => simp
  | cons raw raws ih =>
    rw [List.foldl_cons, ih, List.countP_cons]
    by_cases htext : frameText raw = ""
    · rw [recordFrame_blank htext]
      simp [htext]
    · rw [recordFrame_text htext]
      cases p <;> simp [htext, Nat.add_assoc, Nat.add_comm]

/-- The residue as it is framed when reading ends without an exception. -/
theorem stopReading_eq (mode : FramingMode) (s : Reader) {ending : Ending}
    (hending : ∀ error, ending ≠ .failed error) :
    ∃ t : Reader, stopReading mode s ending = frameResidue mode t ∧ t.buf = s.buf ∧
      t.res.chunks = s.res.chunks ∧ t.res.events = s.res.events ∧
      t.res.bytesRead = s.res.bytesRead ∧ t.res.connected = s.res.connected := by
  cases ending with
  | closed => exact ⟨_, rfl, rfl, rfl, rfl, rfl, rfl⟩
  | deadline => exact ⟨s, rfl, rfl, rfl, rfl, rfl, rfl⟩
  | readTimeout => exact ⟨_, rfl, rfl, rfl, rfl, rfl, rfl⟩
  | failed error => exact absurd rfl (hending error)

/-- Framed by line, the residue's lines are events from the second chunk on. -/
theorem frameResidue_counters (s : Reader) :
    (frameResidue .auto s).res.events = s.res.events +
        (if s.res.chunks ≤ 1 ∨ 10 ∉ s.buf then 0
          else (residueLines s.buf).countP (frameText · ≠ "")) ∧
      (frameResidue .auto s).res.bytesRead = s.res.bytesRead ∧
      (frameResidue .auto s).res.connected = s.res.connected := by
  unfold frameResidue
  by_cases hbuf : s.buf = []
  · rw [if_pos hbuf]
    simp [hbuf]
  rw [if_neg hbuf]
  by_cases hnewline : 10 ∈ s.buf
  · have hline : (blankFramed .auto && s.buf.contains 10) = true := by
      rw [List.contains_iff_mem.mpr hnewline]
      rfl
    rw [if_pos hline]
    dsimp only
    obtain ⟨-, hbytes, -, hconnected⟩ :=
      foldl_counters (decide (s.res.chunks ≤ 1)) (residueLines s.buf) s.res
    rw [foldl_events]
    refine ⟨?_, hbytes, hconnected⟩
    by_cases hone : s.res.chunks ≤ 1 <;> simp [hone, hnewline]
  · have hline : ¬ (blankFramed .auto && s.buf.contains 10) = true := by
      simp [hnewline]
    rw [if_neg hline]
    simp [hnewline]

/-- What a greeting without a blank line comes to. -/
theorem stream_greeting (label : String) (status : Nat) (contentType : String)
    (headers : List (String × String)) {chunks : List Bytes}
    (hblank : ¬ [10, 10] <:+: chunks.flatten) {ending : Ending}
    (hending : ∀ error, ending ≠ .failed error) :
    let r := stream label .auto (.opened status contentType headers chunks ending)
    r.events = (if chunks.length ≤ 1 ∨ 10 ∉ chunks.flatten then 0
        else (residueLines chunks.flatten).countP (frameText · ≠ "")) ∧
      r.bytesRead = chunks.flatten.length ∧ r.connected = true := by
  intro r
  have hseparator : ¬ separator .auto <:+: chunks.flatten := hblank
  have hloop := readLoop_of_not_infix (connected label status contentType headers) hseparator
  obtain ⟨t, ht, hbuf, hchunks, hevents, hbytes, hconnected⟩ := stopReading_eq .auto
    (readLoop .auto (connected label status contentType headers) chunks) hending
  obtain ⟨hevents', hbytes', hconnected'⟩ := frameResidue_counters t
  rw [hbuf, hchunks, hevents, hloop] at hevents'
  rw [hbytes, hloop] at hbytes'
  rw [hconnected, hloop] at hconnected'
  have hr : r = (frameResidue .auto t).res := congrArg Reader.res ht
  rw [hr, hevents', hbytes', hconnected']
  simp [connected, StreamResult.new]

/-! ## The report -/

end

/-- `verdict` finds a greeting and no push, and `run_variants` does not recommend it. -/
def ReportsStub (res : StreamResult) : Prop :=
  (∀ fail, .greeted ∈ verdict res fail ∧ .push ∉ verdict res fail) ∧
    ∀ results, res ∉ talkers results

/-- A connection that brought bytes and no events is reported as a stub. -/
theorem reportsStub_of_events {res : StreamResult} (hconnected : res.connected = true)
    (hbytes : res.bytesRead ≠ 0) (hevents : res.events = 0) : ReportsStub res := by
  refine ⟨fun fail => ?_, fun results hmem => ?_⟩
  · unfold verdict
    by_cases hfail : fail = 0 <;> simp [hconnected, hbytes, hevents, hfail]
  · have htalks := (List.mem_filter.mp hmem).2
    simp [hevents] at htalks

/-- **A greeting is not counted as an event exactly when** it came in one chunk, has
no newline, or is blank. For every greeting without a blank line, every way of
cutting it and every ending but an exception: the stream counts no event, and a stub
is reported, if and only if one of the three holds. -/
theorem greeting_not_counted_iff [Runtime] (label : String) (status : Nat) (contentType : String)
    (headers : List (String × String)) {greeting : Bytes} (hne : greeting ≠ [])
    (hblank : ¬ [10, 10] <:+: greeting) {chunks : List Bytes} (hcut : chunks.flatten = greeting)
    {ending : Ending} (hending : ∀ error, ending ≠ .failed error) :
    let r := stream label .auto (.opened status contentType headers chunks ending)
    (r.events = 0 ∧ ReportsStub r) ↔
      chunks = [greeting] ∨ 10 ∉ greeting ∨ frameText greeting = "" := by
  intro r
  subst hcut
  obtain ⟨hevents, hbytes, hconnected⟩ :=
    stream_greeting label status contentType headers hblank hending
  have hreports : (r.events = 0 ∧ ReportsStub r) ↔ r.events = 0 := by
    refine and_iff_left_of_imp (reportsStub_of_events hconnected ?_)
    rw [hbytes]
    exact fun h => hne (List.eq_nil_of_length_eq_zero h)
  have hone : chunks = [chunks.flatten] ↔ chunks.length ≤ 1 := by
    refine ⟨fun h => by rw [h]; exact Nat.le_refl 1, fun h => ?_⟩
    match chunks, h with
    | [], _ => exact absurd rfl hne
    | [c], _ => simp
  rw [hreports, hevents, hone, ← or_assoc, ← residueLines_blank_iff]
  by_cases hearly : chunks.length ≤ 1 ∨ 10 ∉ chunks.flatten
  · rw [if_pos hearly]
    exact iff_of_true rfl (Or.inl hearly)
  · rw [if_neg hearly, or_iff_right hearly, List.countP_eq_zero]
    simp

/-- The panel's own banner in one piece, and one without a newline in two. -/
theorem banner_at_once :
    let banner : Bytes := [69, 118, 101, 110, 116, 32, 115, 116, 114, 101, 97, 109, 58, 10]
    let atOnce := @stream latin1 "bare" .auto
      (.opened 200 "text/event-stream" [] [banner] .readTimeout)
    let inTwo := @stream latin1 "bare" .auto
      (.opened 200 "text/event-stream" [] [banner.take 5, (banner.drop 5).take 8] .readTimeout)
    (atOnce.events = 0 ∧ ReportsStub atOnce) ∧ inTwo.events = 0 ∧ ReportsStub inTwo :=
  ⟨(@greeting_not_counted_iff latin1 "bare" 200 "text/event-stream" [] _ (by decide) (by decide) _
      (by decide) .readTimeout (by simp)).mpr (Or.inl rfl),
    (@greeting_not_counted_iff latin1 "bare" 200 "text/event-stream" []
      [69, 118, 101, 110, 116, 32, 115, 116, 114, 101, 97, 109, 58] (by decide) (by decide) _
      (by decide) .readTimeout (by simp)).mpr (Or.inr (Or.inl (by decide)))⟩

/-- The same banner, cut in two: it is counted as an event. -/
theorem banner_cut_in_two :
    ¬ ∀ (greeting : Bytes) (chunks : List Bytes) (ending : Ending), greeting ≠ [] →
      ¬ [10, 10] <:+: greeting → chunks.flatten = greeting → (∀ chunk ∈ chunks, chunk ≠ []) →
      (∀ error, ending ≠ .failed error) →
      (@stream latin1 "bare" .auto
        (.opened 200 "text/event-stream" [] chunks ending)).events = 0 := by
  intro h
  have hclaim := h [69, 118, 101, 110, 116, 32, 115, 116, 114, 101, 97, 109, 58, 10]
    [[69, 118, 101, 110, 116], [32, 115, 116, 114, 101, 97, 109, 58, 10]] .readTimeout
    (by decide) (by decide) (by decide) (by decide) (by simp)
  have hcounted : (@stream latin1 "bare" .auto (.opened 200 "text/event-stream" []
      [[69, 118, 101, 110, 116], [32, 115, 116, 114, 101, 97, 109, 58, 10]]
      .readTimeout)).events = 1 := by
    decide +kernel
  rw [hcounted] at hclaim
  contradiction

end Gc3.Tools.SseProbe
