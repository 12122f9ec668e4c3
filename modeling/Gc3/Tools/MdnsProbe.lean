import Gc3.Lib.Loop
import Gc3.Py.Bytes

/-!
# `mdns_probe.py`: the DNS wire codec

The codec the probe carries instead of a library: names, queries, and whole messages.
Every loop of the decoder is driven by what it reads, and every read is one that may
raise; a decoder's result is therefore an answer, an exception, or a loop cut off by its
budget (`Loop.Stop`). Sockets and logging stay outside.

`decode_name` is a `while True` whose state is `NameState`: the offset, where the name
ends for the caller, whether there has been a jump, how many, and the labels so far.
`nameStep` is one pass of it, with every index of the source a read that may raise
`IndexError`. The source has no budget for the loop, and a budget used up would stand
for one that never ends; it is never used up (`Gc3.Tools.MdnsDecode`).

Of the standard library, `struct`, `socket.inet_ntoa` and `inet_ntop`, `bytes.decode`
with `errors="replace"` and the slices of a `bytes` behave here as documented: slices
past the end are short, `struct.unpack` of a wrong size raises, and an IPv6 address is
shown with its longest run of zeros elided.
-/

namespace Gc3.Tools.MdnsProbe

open Gc3.Py

/-- What a decoding function comes to. -/
abbrev Decoded (α : Type) := Except (Loop.Stop Exc) α

/-- A single expression, which may raise. -/
def orRaise {α : Type} (r : Except Exc α) : Decoded α := r.mapError .raised

@[simp] theorem orRaise_ok {α : Type} (a : α) : orRaise (.ok a) = .ok a := rfl

/-! ## Names -/

/-- `name.rstrip(".").split(".")` -/
def labelsOf (name : String) : List String := split '.' (rstripChar '.' name)

/-- The loop of `encode_name`, over the labels it has left. -/
def encodeLabels : List String → Except Exc Bytes
  | [] => .ok []
  | label :: rest => do
    let raw := encodeUtf8 label
    if 63 < raw.length then .error ⟨.valueError, "label too long: " ++ label⟩
    else return UInt8.ofNat raw.length :: raw ++ (← encodeLabels rest)

def encodeName (name : String) : Except Exc Bytes := do
  return (← encodeLabels (labelsOf name)) ++ [0]

/-- The variables of `decode_name`. -/
structure NameState where
  labels : List String
  jumped : Bool
  end_ : Nat
  off : Nat
  hops : Nat

/-- What `decode_name` returns on leaving its loop. -/
def NameState.result (s : NameState) : String × Nat := (".".intercalate s.labels, s.end_)

/-- One pass of the loop of `decode_name`. -/
def nameStep (buf : Bytes) (s : NameState) : Except Exc (NameState ⊕ String × Nat) := do
  if buf.length ≤ s.off then return .inr s.result
  let ln ← buf.byteAt s.off
  if ln = 0 then
    let off := s.off + 1
    return .inr { s with off := off, end_ := if s.jumped then s.end_ else off }.result
  -- compression pointer
  if ln &&& 0xC0 = 0xC0 then
    if buf.length ≤ s.off + 1 then return .inr s.result
    let ptr := ((ln &&& 0x3F) <<< 8) ||| (← buf.byteAt (s.off + 1))
    let s : NameState :=
      { s with
        end_ := if s.jumped then s.end_ else s.off + 2
        off := ptr
        jumped := true
        hops := s.hops + 1 }
    -- malformed / hostile packet
    if 20 < s.hops then return .inr s.result
    return .inl s
  let off := s.off + 1
  let label := (buf.slice off (off + ln)).decodeReplace
  return .inl
    { s with
      labels := s.labels ++ [label]
      off := off + ln
      end_ := if s.jumped then s.end_ else off + ln }

/-- More passes than the loop can make: at most 21 jumps, and between two of them no
more labels than there are bytes. -/
def nameBudget (buf : Bytes) : Nat := 22 * (buf.length + 2)

def decodeName (buf : Bytes) (off : Nat) : Decoded (String × Nat) :=
  Loop.run (nameStep buf) (nameBudget buf) ⟨[], false, off, off, 0⟩

/-! ## Queries -/

/-- The body of `build_query`. -/
def encodeQuestions (unicast : Bool) : List (String × Int) → Except Exc Bytes
  | [] => .ok []
  | (name, qtype) :: rest => do
    let qclass : Nat := 0x0001 ||| (if unicast then 0x8000 else 0)
    let question := (← encodeName name) ++ (← structPack [2, 2] [qtype, qclass])
    return question ++ (← encodeQuestions unicast rest)

def buildQuery (questions : List (String × Int)) (unicast : Bool) : Except Exc Bytes := do
  let header ← structPack [2, 2, 2, 2, 2, 2] [0, 0, questions.length, 0, 0, 0]
  return header ++ (← encodeQuestions unicast questions)

/-! ## Record data -/

structure Record where
  name : String
  rtype : Nat
  data : String
  deriving DecidableEq, Repr

/-- `socket.inet_ntoa` -/
def inetNtoa (b : Bytes) : String := ".".intercalate (b.map fun x => toString x.toNat)

/-- The eight groups of an IPv6 address. -/
def groups : Bytes → List Nat
  | hi :: lo :: rest => (hi.toNat * 256 + lo.toNat) :: groups rest
  | _ => []

/-- The first longest run of zero groups, as its start and its length. -/
def zeroRun (words : List Nat) : Nat × Nat :=
  (List.range words.length).foldl (fun best i =>
    let len := ((words.drop i).takeWhile (· = 0)).length
    if best.2 < len then (i, len) else best) (0, 0)

/-- `socket.inet_ntop(socket.AF_INET6, …)`: the longest run of zeros is left out, and
an embedded IPv4 address is written as one. -/
def inetNtop (b : Bytes) : String :=
  let words := groups b
  let text := fun ws : List Nat =>
    ":".intercalate (ws.map fun w => String.ofList (Nat.toDigits 16 w))
  let (start, len) := zeroRun words
  if len < 2 then text words
  else if start = 0 ∧ (len = 6 ∨ len = 5 ∧ words[5]? = some 0xffff) then
    "::" ++ (if len = 5 then "ffff:" else "") ++ inetNtoa (b.drop 12)
  else text (words.take start) ++ "::" ++ text (words.drop (start + len))

/-- One pass of the loop over a TXT record's strings. -/
def txtStep (rdata : Bytes) (s : List String × Nat) :
    Except Exc ((List String × Nat) ⊕ List String) := do
  let (parts, i) := s
  if rdata.length ≤ i then return .inr parts
  let ln ← rdata.byteAt i
  return .inl (parts ++ [(rdata.slice (i + 1) (i + 1 + ln)).decodeReplace], i + (1 + ln))

/-- The `try` of `decode_rdata`; `none` where it falls through. -/
def readRdata (buf : Bytes) (off rtype : Nat) (rdata : Bytes) : Decoded (Option String) := do
  if rtype = 1 ∧ rdata.length = 4 then return some (inetNtoa rdata)
  if rtype = 28 ∧ rdata.length = 16 then return some (inetNtop rdata)
  if rtype = 12 then return some (← decodeName buf off).1
  if rtype = 33 ∧ 6 ≤ rdata.length then
    match ← orRaise (structUnpack [2, 2, 2] (rdata.slice 0 6)) with
    | [_pri, _w, port] =>
      let target := (← decodeName buf (off + 6)).1
      return some (target ++ ":" ++ toString port)
    | _ => orRaise (.error unpackError)
  else if rtype = 16 then
    let parts ← Loop.run (txtStep rdata) (rdata.length + 1) ([], 0)
    return some (" ".intercalate (parts.filter (· ≠ "")))
  else return none

/-- `decode_rdata`: a malformed record must not kill the probe. -/
def decodeRdata (buf : Bytes) (off rtype : Nat) (rdata : Bytes) : Decoded String :=
  let fallback := String.ofList (rdata.hex.toList.take 48)
  match readRdata buf off rtype rdata with
  | .ok (some text) => .ok text
  | .ok none => .ok fallback
  | .error (.raised err) => if err.isException then .ok fallback else .error (.raised err)
  | .error .outOfFuel => .error .outOfFuel

/-! ## Messages -/

/-- The question loop: the questions read, and where the next section begins unless
the buffer ended first. -/
def parseQuestions (buf : Bytes) : Nat → Nat → Decoded (List Record × Option Nat)
  | 0, off => .ok ([], some off)
  | n + 1, off => do
    let (name, off) ← decodeName buf off
    if buf.length < off + 4 then return ([], none)
    match ← orRaise (structUnpack [2, 2] (buf.slice off (off + 4))) with
    | [qtype, _qclass] =>
      let (rest, next) ← parseQuestions buf n (off + 4)
      return (⟨name, qtype, ""⟩ :: rest, next)
    | _ => orRaise (.error unpackError)

/-- The answer loop. -/
def parseAnswers (buf : Bytes) : Nat → Nat → Decoded (List Record)
  | 0, _ => .ok []
  | n + 1, off => do
    if buf.length ≤ off then return []
    let (name, off) ← decodeName buf off
    if buf.length < off + 10 then return []
    match ← orRaise (structUnpack [2, 2, 4, 2] (buf.slice off (off + 10))) with
    | [rtype, _rclass, _ttl, rdlen] =>
      let off := off + 10
      let rdata := buf.slice off (off + rdlen)
      let data ← decodeRdata buf off rtype rdata
      return ⟨name, rtype, data⟩ :: (← parseAnswers buf n (off + rdlen))
    | _ => orRaise (.error unpackError)

/-- `parse_message`: the questions, and the answers of all three sections. -/
def parseMessage (buf : Bytes) : Decoded (List Record × List Record) := do
  if buf.length < 12 then return ([], [])
  match ← orRaise (structUnpack [2, 2, 2, 2, 2, 2] (buf.slice 0 12)) with
  | [_id, _flags, qd, an, ns, ar] =>
    let (questions, next) ← parseQuestions buf qd 12
    match next with
    | none => return (questions, [])
    | some off => return (questions, ← parseAnswers buf (an + ns + ar) off)
  | _ => orRaise (.error unpackError)

end Gc3.Tools.MdnsProbe
