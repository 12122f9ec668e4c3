import Gc3.Lib.Framing
import Gc3.Py.Bytes
import Mathlib.Data.Finset.Insert

/-!
# `sse_probe.py`: one subscriber

`stream()` holds a connection open and counts what it says; `verdict` and `run_variants`
read a transport's fate off that. The network is an `Attempt`: what came of the request
and, once it was answered, the chunks that were read and why reading stopped. Clocks and
the log have no counterpart, and neither has an attempt that was refused and tried
again, since nothing of it is kept.

The reader keeps what the source keeps between chunks, a buffer and the counters of its
`StreamResult`, and one thing more: the frames it has handed to `_record_frame`, each
with its mark, so that a result can name them. `readChunk` is one pass of the loop over
the chunks, `stopReading` what is done with the buffer when there are no more, by why
there are none: the stream may have ended, a read timed out, or broken off in an
exception.

A frame is bytes here until `_record_frame` decodes it, with replacement characters for
what is no UTF-8: a character may be split between two chunks, and it is the frame that
is decoded and not the chunk.
-/

namespace Gc3.Tools.SseProbe

open Gc3.Py

/-- What one subscriber saw, but for when it saw it. -/
structure StreamResult where
  label : String
  connected : Bool
  status : Option Nat
  contentType : String
  headers : List (String × String)
  frames : Nat
  bytesRead : Nat
  sseFields : Finset String
  samples : List String
  error : String
  closedByServer : Bool
  residue : String
  events : Nat
  preamble : String
  chunks : Nat
  readTimedOut : Bool

/-- `StreamResult(label=label)` -/
def StreamResult.new (label : String) : StreamResult where
  label := label
  connected := false
  status := none
  contentType := ""
  headers := []
  frames := 0
  bytesRead := 0
  sseFields := ∅
  samples := []
  error := ""
  closedByServer := false
  residue := ""
  events := 0
  preamble := ""
  chunks := 0
  readTimedOut := false

/-- `text[:n]` -/
def clip (n : Nat) (text : String) : String := String.ofList (text.toList.take n)

section

variable [Runtime]

/-- The text of a frame. -/
def frameText (raw : Bytes) : String := strip raw.decodeReplace

/-- The field a line of a frame names. -/
def fieldOf (line : String) : Option String :=
  let name := strip (String.ofList (line.toList.takeWhile (· ≠ ':')))
  if name ∈ ["event", "data", "id", "retry"] then some name
  else if line.toList.head? = some ':' then some "comment(keepalive)"
  else none

/-- `_record_frame` -/
def recordFrame (preamble : Bool) (res : StreamResult) (raw : Bytes) : StreamResult :=
  let text := frameText raw
  if text = "" then res
  else
    { res with
      frames := res.frames + 1
      preamble := if preamble then clip 200 text else res.preamble
      events := if preamble then res.events else res.events + 1
      sseFields := res.sseFields ∪ ((splitlines text).filterMap fieldOf).toFinset
      samples := if res.samples.length < 8 then res.samples ++ [clip 1500 text] else res.samples }

/-! ## Reading -/

/-- `--framing` -/
inductive FramingMode
  | auto
  | blank
  | line
  deriving DecidableEq, Repr

def blankFramed (mode : FramingMode) : Bool := mode == .auto || mode == .blank

/-- A newline, or two of them. -/
def separator (mode : FramingMode) : Bytes := if blankFramed mode then [10, 10] else [10]

/-- The reader: its result and its buffer, and the frames it has handed to
`_record_frame` so far. -/
structure Reader where
  res : StreamResult
  buf : Bytes
  handed : List Bytes

/-- One chunk: count it, then cut off frames while there is a separator. -/
def readChunk (mode : FramingMode) (s : Reader) (chunk : Bytes) : Reader :=
  let res := { s.res with
    chunks := s.res.chunks + 1
    bytesRead := s.res.bytesRead + chunk.length }
  let (frames, buf) := Framing.cutAll (separator mode) (s.buf ++ chunk)
  ⟨frames.foldl (recordFrame (res.chunks == 1)) res, buf, s.handed ++ frames⟩

def readLoop (mode : FramingMode) (res : StreamResult) (chunks : List Bytes) : Reader :=
  chunks.foldl (readChunk mode) ⟨res, [], []⟩

/-- The lines of a residue that are not blank. -/
def residueLines (buf : Bytes) : List Bytes := (buf.splitOn 10).filter (·.strip ≠ [])

/-- What never satisfied the framing is framed by line, or else kept as it is. -/
def frameResidue (mode : FramingMode) (s : Reader) : Reader :=
  if s.buf = [] then s
  else if blankFramed mode && s.buf.contains 10 then
    let lines := residueLines s.buf
    ⟨lines.foldl (recordFrame (s.res.chunks ≤ 1)) s.res, [], s.handed ++ lines⟩
  else { s with res := { s.res with residue := s.buf.decodeReplace } }

/-- Why reading stopped. -/
inductive Ending
  | closed
  | deadline
  | readTimeout
  /-- An exception, which skips the residue. -/
  | failed (error : String)

/-- What came of the request. -/
inductive Attempt
  | noAnswer (error : String)
  | refused (status : Nat) (contentType : String) (headers : List (String × String))
      (body : String)
  | opened (status : Nat) (contentType : String) (headers : List (String × String))
      (chunks : List Bytes) (ending : Ending)

/-- The reader once reading has stopped. -/
def stopReading (mode : FramingMode) (s : Reader) : Ending → Reader
  | .closed => frameResidue mode { s with res := { s.res with closedByServer := true } }
  | .deadline => frameResidue mode s
  | .readTimeout => frameResidue mode { s with res := { s.res with readTimedOut := true } }
  | .failed error => { s with res := { s.res with error := error } }

/-- The result of a connection, before anything is read. -/
def connected (label : String) (status : Nat) (contentType : String)
    (headers : List (String × String)) : StreamResult :=
  { StreamResult.new label with
    connected := true
    status := some status
    contentType := contentType
    headers := headers }

/-- The reader of an open connection, from its first chunk to its end. -/
def readStream (mode : FramingMode) (res : StreamResult) (chunks : List Bytes)
    (ending : Ending) : Reader :=
  stopReading mode (readLoop mode res chunks) ending

def stream (label : String) (mode : FramingMode) : Attempt → StreamResult
  | .noAnswer error => { StreamResult.new label with error := error }
  | .refused status contentType headers body =>
    { StreamResult.new label with
      status := some status
      contentType := contentType
      headers := headers
      error := clip 300 body }
  | .opened status contentType headers chunks ending =>
    (readStream mode (connected label status contentType headers) chunks ending).res

end

/-! ## What is concluded -/

/-- The findings `verdict` prints under "Reading". -/
inductive Finding
  /-- The stream was refused. -/
  | notUsable
  /-- "Greeted us …, then said nothing …: a stub" -/
  | greeted
  /-- "Connected but not a single byte." -/
  | silent
  /-- "push would starve arm/disarm" -/
  | starved
  /-- "Real events arrived …: local_push is on the table." -/
  | push
  deriving DecidableEq, Repr

/-- `verdict`, given how many status polls failed while the stream was held. -/
def verdict (primary : StreamResult) (fail : Nat) : List Finding :=
  if !primary.connected then [.notUsable]
  else
    (if primary.events = 0 ∧ primary.bytesRead ≠ 0 then [.greeted]
      else if primary.events = 0 then [.silent] else []) ++
    (if fail ≠ 0 then [.starved] else if primary.events ≠ 0 then [.push] else [])

/-- The variants `run_variants` recommends a transport from; a stub if there are none. -/
def talkers (results : List StreamResult) : List StreamResult := results.filter (·.events ≠ 0)

end Gc3.Tools.SseProbe
