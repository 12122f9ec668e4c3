import Gc3.Lib.Fallible
import Gc3.Py.Latin1
import Gc3.Tools.MdnsRdata
import Mathlib.Data.Multiset.Count

/-!
# `mdns_probe.py`: what the probe hears and concludes

The three phases and the exit code of `main`. A socket is what opening it comes to and the
list of what its `recvfrom` calls come to before the deadline; what python-zeroconf finds
is given. Whatever is received is counted once, under its source, and the packets of the
panel are read into lines; the exit code tells a panel that spoke from one that did not,
and from a capture that heard nobody.

Two results. `sniff_accounts` is about the first phase: the packets of a socket are
accounted for one by one. `probe_verdict` is about the whole of `main`, from its parsed
arguments on: which exit code it ends with, and, exactly, in which exception. A missing
address is a usage error, of which the exit code is that of a broken capture. Of the
exceptions the phases catch some (an `OSError` of the first socket or of a query that is
sent, and whatever the meta-query raises) and let the others through: a name with a label
too long to be asked for, a query or a socket that fails otherwise, a zeroconf that cannot
be started. These are the probe's *causes* to stop, listed in the order in which they come
up; that it stops for the first of them that applies, and for none if none does, is put
together phase by phase with the sequencing rule of `Gc3.Lib.Fallible`.
-/

namespace Gc3.Tools.MdnsProbe

open Gc3.Py Fallible

/-! ## Phase 1 -/

section

variable [Runtime]

/-- The record types the log has a name for. -/
def TYPES : List (Nat × String) :=
  [(1, "A"), (12, "PTR"), (16, "TXT"), (28, "AAAA"), (33, "SRV"), (47, "NSEC")]

/-- `TYPES.get(rtype, rtype)`, as it is printed -/
def typeName (rtype : Nat) : String := (TYPES.lookup rtype).getD (toString rtype)

/-- `Record.__str__` -/
def Record.str (r : Record) : String :=
  rstrip (r.name ++ " " ++ typeName r.rtype ++ " " ++ r.data)

omit [Runtime] in
def questionLine (q : Record) : String := "question " ++ q.name ++ " " ++ typeName q.rtype

/-- What a call of `recvfrom` comes to. -/
inductive Heard
  | packet (data : Bytes) (src : String)
  | timeout
  | osError

structure SniffResult where
  panelPackets : Nat
  totalPackets : Nat
  /-- A `Counter`. -/
  sources : Multiset String
  panelRecords : List String
  deriving DecidableEq

/-- `SniffResult()` -/
def SniffResult.new : SniffResult := ⟨0, 0, 0, []⟩

/-- One packet. -/
def hearPacket (panelIp : String) (res : SniffResult) (data : Bytes) (src : String) :
    Decoded SniffResult := do
  let res := { res with totalPackets := res.totalPackets + 1, sources := src ::ₘ res.sources }
  if src ≠ panelIp then return res
  let (questions, answers) ← parseMessage data
  return { res with
    panelPackets := res.panelPackets + 1
    panelRecords := res.panelRecords ++ questions.map questionLine ++ answers.map Record.str }

/-- The loop of `phase_sniff`. -/
def sniffLoop (panelIp : String) (res : SniffResult) : List Heard → Decoded SniffResult
  | [] => .ok res
  | .timeout :: rest => sniffLoop panelIp res rest
  | .osError :: _ => .ok res
  | .packet data src :: rest => do
    let res ← hearPacket panelIp res data src
    sniffLoop panelIp res rest

/-- `phase_sniff`, over what opening the socket and reckoning the deadline come to, and
then the calls of `recvfrom` before it. -/
def phaseSniff (panelIp : String) : Except Exc (List Heard) → Decoded SniffResult
  | .error err => if err.isOSError then .ok .new else .error (.raised err)
  | .ok heard => sniffLoop panelIp .new heard

end

/-! ## Phase 2 -/

def reverseName (ip : String) : String :=
  ".".intercalate (split '.' ip).reverse ++ ".in-addr.arpa"

def unicastQuestions (panelIp : String) (extraNames : List String) : List (String × Int) :=
  ("_services._dns-sd._udp.local", 12) :: (reverseName panelIp, 12) ::
    extraNames.map fun n => (n, 1)

/-- The loop that waits for replies. -/
def collectReplies (panelIp : String) : List Heard → Decoded (List Record)
  | .packet data src :: rest =>
    if src ≠ panelIp then collectReplies panelIp rest
    else do
      let (_questions, answers) ← parseMessage data
      return answers ++ (← collectReplies panelIp rest)
  | _ => .ok []

/-- What comes of a query: `sendto` raises, or this is heard after it. -/
def awaitReplies (panelIp : String) : Except Exc (List Heard) → Decoded (List Record)
  | .error err => if err.isOSError then .ok [] else .error (.raised err)
  | .ok heard => collectReplies panelIp heard

/-- The loop of `phase_unicast`, from its `i`th question on. -/
def askPanel (panelIp : String) (replies : Nat → Except Exc (List Heard)) : Nat →
    List (String × Int) → Decoded (List Record)
  | _, [] => .ok []
  | i, question :: rest => do
    let _pkt ← orRaise (buildQuery [question] true)
    let found ← awaitReplies panelIp (replies i)
    return found ++ (← askPanel panelIp replies (i + 1) rest)

def phaseUnicast (panelIp : String) (extraNames : List String) (socket : Except Exc Unit)
    (replies : Nat → Except Exc (List Heard)) : Decoded (List Record) := do
  orRaise socket
  askPanel panelIp replies 0 (unicastQuestions panelIp extraNames)

/-! ## Phase 3 -/

/-- What `get_service_info` knows of a service. -/
structure ServiceInfo where
  addresses : List String
  port : Option Nat

/-- A service that was added or updated. -/
structure Advertised where
  name : String
  type_ : String
  info : Option ServiceInfo

/-- `Listener._check`: the lines it adds to the hits. -/
def checkService (panelIp : String) (service : Advertised) : List String :=
  match service.info with
  | none => []
  | some info => (info.addresses.filter (· = panelIp)).map fun addr =>
    service.name ++ " [" ++ service.type_ ++ "] " ++ addr ++ ":" ++
      (info.port.map toString).getD "None"

/-- `phase_enumerate`. There is nothing to browse (`none`) where zeroconf is missing or its
meta-query fails; what a `Zeroconf` or a `ServiceBrowser` raises after it is not caught. -/
def phaseEnumerate (panelIp : String) : Except Exc (Option (List Advertised)) →
    Decoded (List String)
  | .error err => .error (.raised err)
  | .ok none => .ok []
  | .ok (some services) => .ok (services.flatMap (checkService panelIp))

/-! ## The verdict -/

structure Args where
  /-- `--panel-ip`, or else `$PANEL_IP`. -/
  panelIp : Option String
  skipSniff : Bool
  skipUnicast : Bool
  skipEnumerate : Bool
  names : List String

/-- An address that counts as one. -/
def Args.address (args : Args) : Option String := args.panelIp.filter (· ≠ "")

/-- `args.names`, or the obvious ones -/
def Args.askedNames (args : Args) : List String :=
  if args.names = [] then ["gc3.local", "2gig.local", "panel.local", "gc3panel.local"]
  else args.names

/-- What the network and the host hold for the three phases. -/
structure World where
  sniffed : Except Exc (List Heard)
  socket : Except Exc Unit
  replies : Nat → Except Exc (List Heard)
  browsed : Except Exc (Option (List Advertised))

/-- The exit code: 0 for a panel that speaks mDNS, 2 for a broken capture. -/
def exitCode (skipSniff : Bool) (sniff : SniffResult) (unicast : List Record)
    (enumerated : List String) : Nat :=
  let captureOk := 0 < sniff.totalPackets ∨ skipSniff
  let positive := sniff.panelPackets ≠ 0 ∨ unicast ≠ [] ∨ enumerated ≠ []
  if positive then 0 else if ¬ captureOk then 2 else 1

/-- Phase 1, unless it is skipped. -/
def sniffPart [Runtime] (args : Args) (panelIp : String) (world : World) : Decoded SniffResult :=
  if args.skipSniff then .ok .new else phaseSniff panelIp world.sniffed

/-- Phase 2, unless it is skipped. -/
def unicastPart (args : Args) (panelIp : String) (world : World) : Decoded (List Record) :=
  if args.skipUnicast then .ok []
  else phaseUnicast panelIp args.askedNames world.socket world.replies

/-- Phase 3, unless it is skipped. -/
def enumeratePart (args : Args) (panelIp : String) (world : World) : Decoded (List String) :=
  if args.skipEnumerate then .ok [] else phaseEnumerate panelIp world.browsed

/-- `main`, from its parsed arguments on: the exit code. -/
def main [Runtime] (args : Args) (world : World) : Decoded Nat :=
  match args.address with
  -- `p.error`
  | none => .ok 2
  | some panelIp => do
    let sniff ← sniffPart args panelIp world
    let unicast ← unicastPart args panelIp world
    let enumerated ← enumeratePart args panelIp world
    return exitCode args.skipSniff sniff unicast enumerated

/-! ## What was heard -/

/-- The packets the sniffer gets to see: all of them up to an error of the socket. -/
def packets : List Heard → List (Bytes × String)
  | [] => []
  | .timeout :: rest => packets rest
  | .osError :: _ => []
  | .packet data src :: rest => (data, src) :: packets rest

/-- The packets that are there before nothing comes for a while. -/
def untilQuiet : List Heard → List (Bytes × String)
  | .packet data src :: rest => (data, src) :: untilQuiet rest
  | _ => []

/-- Those of one source. -/
def sentBy (ip : String) (ps : List (Bytes × String)) : List Bytes :=
  (ps.filter (·.2 = ip)).map (·.1)

/-- Read as a message, it holds an answer. -/
def HasAnswer (data : Bytes) : Prop :=
  ∃ questions answers, parseMessage data = .ok (questions, answers) ∧ answers ≠ []

theorem sentBy_cons (ip : String) (data : Bytes) (src : String) (ps : List (Bytes × String)) :
    sentBy ip ((data, src) :: ps) = if src = ip then data :: sentBy ip ps else sentBy ip ps := by
  unfold sentBy
  by_cases h : src = ip <;> simp [h]

/-- Every packet can be read. -/
theorem parseMessage_returns (buf : Bytes) : ∃ questions answers,
    parseMessage buf = .ok (questions, answers) := by
  rcases Nat.lt_or_ge buf.length 12 with hshort | hlong
  · refine ⟨[], [], ?_⟩
    unfold parseMessage
    rw [if_pos hshort]
    rfl
  · obtain ⟨questions, next, hq, -⟩ := parseQuestions_total buf (count buf 4) 12
    cases next with
    | none => exact ⟨questions, [], parseMessage_none hlong hq⟩
    | some off =>
      obtain ⟨answers, ha, -⟩ :=
        parseAnswers_total buf (count buf 6 + count buf 8 + count buf 10) off
      exact ⟨questions, answers, parseMessage_some hlong hq ha⟩

section

variable [Runtime]

/-- The lines of the log that a packet of the panel gives. -/
def packetLines (data : Bytes) : List String :=
  match parseMessage data with
  | .ok (questions, answers) => questions.map questionLine ++ answers.map Record.str
  | .error _ => []

/-- A packet of the panel is counted twice over, and read into lines. -/
theorem hearPacket_panel (panelIp : String) (res : SniffResult) (data : Bytes) :
    hearPacket panelIp res data panelIp = .ok
      ⟨res.panelPackets + 1, res.totalPackets + 1, panelIp ::ₘ res.sources,
        res.panelRecords ++ packetLines data⟩ := by
  obtain ⟨questions, answers, hread⟩ := parseMessage_returns data
  unfold hearPacket packetLines
  rw [if_neg (by simp), hread]
  dsimp only [bind, Except.bind, pure, Except.pure]
  rw [List.append_assoc]

theorem hearPacket_other {panelIp src : String} (h : src ≠ panelIp) (res : SniffResult)
    (data : Bytes) : hearPacket panelIp res data src = .ok
      ⟨res.panelPackets, res.totalPackets + 1, src ::ₘ res.sources, res.panelRecords⟩ := by
  unfold hearPacket
  rw [if_pos h]
  rfl

/-- What the loop makes of the packets it sees. -/
def SniffResult.after (panelIp : String) (res : SniffResult) (ps : List (Bytes × String)) :
    SniffResult where
  panelPackets := res.panelPackets + (sentBy panelIp ps).length
  totalPackets := res.totalPackets + ps.length
  sources := (ps.map (·.2) : Multiset String) + res.sources
  panelRecords := res.panelRecords ++ (sentBy panelIp ps).flatMap packetLines

theorem SniffResult.after_nil (panelIp : String) (res : SniffResult) :
    res.after panelIp [] = res := by
  simp [SniffResult.after, sentBy]

/-- The loop counts the packets one by one, past time-outs and up to the error that ends
it. -/
theorem sniffLoop_eq (panelIp : String) (res : SniffResult) (heard : List Heard) :
    sniffLoop panelIp res heard = .ok (res.after panelIp (packets heard)) := by
  induction heard generalizing res with
  | nil =>
    unfold packets
    rw [SniffResult.after_nil]
    rfl
  | cons h rest ih =>
    cases h with
    | timeout => exact ih res
    | osError =>
      unfold packets
      rw [SniffResult.after_nil]
      rfl
    | packet data src =>
      unfold sniffLoop packets
      by_cases hsrc : src = panelIp
      · subst hsrc
        rw [hearPacket_panel]
        dsimp only [bind, Except.bind]
        rw [ih]
        simp [SniffResult.after, sentBy_cons, ← Multiset.cons_coe, Nat.add_assoc, Nat.add_comm 1]
      · rw [hearPacket_other hsrc]
        dsimp only [bind, Except.bind]
        rw [ih]
        simp [SniffResult.after, sentBy_cons, hsrc, ← Multiset.cons_coe, Nat.add_assoc,
          Nat.add_comm 1]

/-- **Every packet is counted once, under its source.** Whatever the socket yields,
hostile packets included, the sniff comes to an end; it has counted each packet it got
to see, once in all and once under its source, those of the panel also among the panel's;
and its records are the lines of the panel's packets, in the order they came. -/
theorem sniff_accounts (panelIp : String) (heard : List Heard) :
    ∃ res, phaseSniff panelIp (.ok heard) = .ok res ∧
      res.totalPackets = (packets heard).length ∧
      (∀ ip, res.sources.count ip = (sentBy ip (packets heard)).length) ∧
      res.panelPackets = res.sources.count panelIp ∧
      res.panelRecords = (sentBy panelIp (packets heard)).flatMap packetLines := by
  -- counting a source is filtering its packets
  have hcount : ∀ ip, Multiset.count ip ((packets heard).map (·.2) : Multiset String) =
      (sentBy ip (packets heard)).length := by
    intro ip
    unfold sentBy
    rw [Multiset.coe_count, List.count, List.countP_map, List.length_map,
      ← List.countP_eq_length_filter]
    refine List.countP_congr fun x _ => ?_
    simp
  refine ⟨_, sniffLoop_eq panelIp .new heard, ?_, fun ip => ?_, ?_, ?_⟩
  · simp [SniffResult.after, SniffResult.new]
  · simp [SniffResult.after, SniffResult.new, hcount]
  · simp [SniffResult.after, SniffResult.new, hcount]
  · simp [SniffResult.after, SniffResult.new]

end

/-! ## Replies -/

/-- Replies are collected until the socket is quiet, and there are some exactly when a
packet of the panel has an answer in it. -/
theorem collectReplies_eq (panelIp : String) (heard : List Heard) :
    ∃ found, collectReplies panelIp heard = .ok found ∧
      (found ≠ [] ↔ ∃ data ∈ sentBy panelIp (untilQuiet heard), HasAnswer data) := by
  induction heard with
  | nil => exact ⟨[], rfl, by simp [untilQuiet, sentBy]⟩
  | cons h rest ih =>
    cases h with
    | timeout => exact ⟨[], rfl, by simp [untilQuiet, sentBy]⟩
    | osError => exact ⟨[], rfl, by simp [untilQuiet, sentBy]⟩
    | packet data src =>
      obtain ⟨found, hfound, hiff⟩ := ih
      unfold collectReplies untilQuiet
      rw [sentBy_cons]
      by_cases hsrc : src = panelIp
      · obtain ⟨questions, answers, hread⟩ := parseMessage_returns data
        have hanswer : HasAnswer data ↔ answers ≠ [] := by
          unfold HasAnswer
          rw [hread]
          simp [and_comm]
        rw [if_neg (by simpa using hsrc), if_pos hsrc, hread]
        dsimp only [bind, Except.bind]
        rw [hfound]
        refine ⟨answers ++ found, rfl, ?_⟩
        rw [List.exists_mem_cons_iff, hanswer, ← hiff, ← not_and_or, ne_eq,
          List.append_eq_nil_iff]
      · rw [if_pos hsrc, if_neg hsrc]
        exact ⟨found, hfound, hiff⟩

/-- The panel answered this query. -/
def Answered (panelIp : String) (sent : Except Exc (List Heard)) : Prop :=
  ∃ heard, sent = .ok heard ∧ ∃ data ∈ sentBy panelIp (untilQuiet heard), HasAnswer data

/-! ## Causes to stop -/

/-- A call has raised what the `except OSError` around it does not catch. -/
def Uncaught {α : Type} (called : Except Exc α) (err : Exc) : Prop :=
  called = .error err ∧ err.isOSError = false

/-- A label of the name is too long to be encoded, and this the first. -/
def TooLong (name : String) (err : Exc) : Prop :=
  ∃ label, (labelsOf name).find? (fun label => 63 < (encodeUtf8 label).length) = some label ∧
    err = ⟨.valueError, "label too long: " ++ label⟩

def sniffCauses (args : Args) (world : World) : List (Exc → Prop) :=
  if args.skipSniff then [] else [Uncaught world.sniffed]

/-- The query is built before it is sent. -/
def queryCauses (name : String) (sent : Except Exc (List Heard)) : List (Exc → Prop) :=
  [TooLong name, Uncaught sent]

/-- Query by query, behind the socket of the phase. -/
def unicastCauses (args : Args) (panelIp : String) (world : World) : List (Exc → Prop) :=
  if args.skipUnicast then []
  else (fun err => world.socket = .error err) ::
    ((unicastQuestions panelIp args.askedNames).mapIdx fun i q =>
      queryCauses q.1 (world.replies i)).flatten

def enumerateCauses (args : Args) (world : World) : List (Exc → Prop) :=
  if args.skipEnumerate then [] else [fun err => world.browsed = .error err]

/-- All that can stop the probe, in the order in which it comes up. -/
def causes (args : Args) (panelIp : String) (world : World) : List (Exc → Prop) :=
  sniffCauses args world ++ (unicastCauses args panelIp world ++ enumerateCauses args world)

/-- An exception is not confused with another by being the one that stopped the probe.
-/
theorem raised_injective : Function.Injective (Loop.Stop.raised : Exc → Loop.Stop Exc) :=
  fun _ _ h => Loop.Stop.raised.inj h

/-- A call whose exceptions are let through. -/
theorem comesTo_orRaise {α : Type} (called : Except Exc α) :
    ComesTo .raised [fun err => called = .error err] (fun a => called = .ok a)
      (orRaise called) := by
  cases called with
  | ok a => exact .returned (by simp [NoneOf]) rfl
  | error err => exact .raised err fun err' => by simp [FirstAmong, eq_comm]

/-- Waiting for replies fails only as the query did, in being sent. -/
theorem awaitReplies_comesTo (panelIp : String) (sent : Except Exc (List Heard)) :
    ComesTo .raised [Uncaught sent] (fun found => found ≠ [] ↔ Answered panelIp sent)
      (awaitReplies panelIp sent) := by
  cases sent with
  | ok heard =>
    obtain ⟨found, hfound, hiff⟩ := collectReplies_eq panelIp heard
    simp only [awaitReplies, hfound]
    exact .returned (by simp [NoneOf, Uncaught]) (by simp [Answered, hiff])
  | error err =>
    simp only [awaitReplies]
    cases hcaught : err.isOSError with
    | true => exact .returned (by simp [NoneOf, Uncaught, hcaught]) (by simp [Answered])
    | false =>
      refine .raised err fun err' => ?_
      simp only [FirstAmong, Uncaught, Except.error.injEq, and_false, or_false]
      exact ⟨fun h => h.1.symm, fun h => ⟨h.symm, h ▸ hcaught⟩⟩

/-- The first label that is too long is the one complained of. -/
theorem encodeLabels_error {labels : List String} {label : String}
    (h : labels.find? (fun label => 63 < (encodeUtf8 label).length) = some label) :
    encodeLabels labels = .error ⟨.valueError, "label too long: " ++ label⟩ := by
  induction labels with
  | nil => contradiction
  | cons first rest ih =>
    rw [encodeLabels]
    by_cases hlong : 63 < (encodeUtf8 first).length
    · rw [List.find?_cons_of_pos (by simpa using hlong), Option.some.injEq] at h
      rw [← h]
      exact if_pos hlong
    · rw [List.find?_cons_of_neg (by simpa using hlong)] at h
      rw [if_neg hlong, ih h]
      rfl

/-- A query about one name, of a type that fits, is built unless the name is too long. -/
theorem buildQuery_comesTo (name : String) (qtype : Int) (hpos : 0 ≤ qtype)
    (hfits : qtype < 65536) :
    ComesTo .raised [TooLong name] (fun _ => True)
      (orRaise (buildQuery [(name, qtype)] true)) := by
  have hheader : structPack [2, 2, 2, 2, 2, 2] [0, 0, ([(name, qtype)].length : Int), 0, 0, 0] =
      .ok (packed [(2, 0), (2, 0), (2, 1), (2, 0), (2, 0), (2, 0)]) := rfl
  cases hfind : (labelsOf name).find? fun label => 63 < (encodeUtf8 label).length with
  | none =>
    have hshort : ∀ raw ∈ rawLabels name, raw.length ≤ 63 := by
      refine List.forall_mem_map.mpr fun label hlabel => ?_
      simpa using List.find?_eq_none.mp hfind label hlabel
    have hname : encodeName name = .ok (wireLabels (rawLabels name) ++ [0]) :=
      encodeName_eq_ok.mpr ⟨hshort, rfl⟩
    have hall : ∀ x ∈ [(2, qtype.toNat), (2, questionClass true)], x.2 < 256 ^ x.1 := by
      have hclass := questionClass_lt true
      simp
      omega
    have hpack : structPack [2, 2] [(qtype.toNat : Int), (questionClass true : Int)] =
        .ok (packed [(2, qtype.toNat), (2, questionClass true)]) := structPack_eq hall
    rw [Int.toNat_of_nonneg hpos] at hpack
    unfold questionClass at hpack
    unfold buildQuery encodeQuestions
    dsimp only
    rw [hheader, hname, hpack]
    exact .returned (by simp [NoneOf, TooLong, hfind]) trivial
  | some label =>
    unfold buildQuery encodeQuestions encodeName
    rw [hheader, encodeLabels_error hfind]
    exact .raised _ fun err => by simp [FirstAmong, TooLong, hfind]

/-- The queries from the `i`th on: all of them are put and the answers collected, unless
one of them cannot be built or sent. -/
theorem askPanel_comesTo (panelIp : String) (replies : Nat → Except Exc (List Heard)) (i : Nat)
    {questions : List (String × Int)} (hq : ∀ q ∈ questions, 0 ≤ q.2 ∧ q.2 < 65536) :
    ComesTo .raised (questions.mapIdx fun j q => queryCauses q.1 (replies (i + j))).flatten
      (fun found => found ≠ [] ↔ ∃ j < questions.length, Answered panelIp (replies (i + j)))
      (askPanel panelIp replies i questions) := by
  induction questions generalizing i with
  | nil => exact .pure (by simp)
  | cons q rest ih =>
    obtain ⟨name, qtype⟩ := q
    obtain ⟨⟨hpos, hfits⟩, hrest⟩ := List.forall_mem_cons.mp hq
    have hindex : ∀ j, replies (i + (j + 1)) = replies (i + 1 + j) :=
      fun j => congrArg replies (by omega)
    have hcauses : queryCauses name (replies i) = [TooLong name] ++ [Uncaught (replies i)] := rfl
    unfold askPanel
    rw [List.mapIdx_cons, List.flatten_cons]
    simp only [hindex, Nat.add_zero, hcauses, List.append_assoc]
    -- the query is built, sent and answered, and then come the others
    refine (buildQuery_comesTo name qtype hpos hfits).bind fun _ _ => ?_
    refine (awaitReplies_comesTo panelIp (replies i)).bind fun found hfound => ?_
    rw [← List.append_nil (List.flatten _)]
    refine (ih (i + 1) hrest).bind fun more hmore => .pure ?_
    rw [ne_eq, List.append_eq_nil_iff, not_and_or, ← ne_eq, ← ne_eq, hfound, hmore,
      List.length_cons, Nat.exists_lt_succ_left]
    simp only [hindex, Nat.add_zero]

/-! ## The exit code -/

/-- The panel was noticed: a packet of its own, an answer, or an advertised service. -/
def Spoke (args : Args) (panelIp : String) (world : World) : Prop :=
  (args.skipSniff = false ∧
    ∃ heard, world.sniffed = .ok heard ∧ sentBy panelIp (packets heard) ≠ []) ∨
  (args.skipUnicast = false ∧
    ∃ j < (unicastQuestions panelIp args.askedNames).length,
      Answered panelIp (world.replies j)) ∨
  (args.skipEnumerate = false ∧
    ∃ services, world.browsed = .ok (some services) ∧ ∃ service ∈ services,
      ∃ info, service.info = some info ∧ panelIp ∈ info.addresses)

/-- The sniff heard nobody at all. -/
def Deaf (args : Args) (world : World) : Prop :=
  args.skipSniff = false ∧ ∀ heard, world.sniffed = .ok heard → packets heard = []

/-- Phase 1: it stops for one of its causes, and else has heard the panel, others or
nobody. -/
theorem sniff_comesTo [Runtime] (args : Args) (panelIp : String) (world : World) :
    ComesTo .raised (sniffCauses args world)
      (fun sniff => (sniff.panelPackets ≠ 0 ↔ args.skipSniff = false ∧
          ∃ heard, world.sniffed = .ok heard ∧ sentBy panelIp (packets heard) ≠ []) ∧
        (¬ (0 < sniff.totalPackets ∨ args.skipSniff) ↔ Deaf args world))
      (sniffPart args panelIp world) := by
  unfold sniffPart sniffCauses Deaf
  cases hskip : args.skipSniff with
  | true => exact .pure ⟨by simp [SniffResult.new], by simp⟩
  | false =>
    cases hsniffed : world.sniffed with
    | error err =>
      simp only [Bool.false_eq_true, if_false, phaseSniff]
      cases hcaught : err.isOSError with
      | true =>
        exact .returned (by simp [NoneOf, Uncaught, hcaught])
          ⟨by simp [SniffResult.new], by simp [SniffResult.new]⟩
      | false =>
        refine .raised err fun err' => ?_
        simp only [FirstAmong, Uncaught, Except.error.injEq, and_false, or_false]
        exact ⟨fun h => h.1.symm, fun h => ⟨h.symm, h ▸ hcaught⟩⟩
    | ok heard =>
      simp only [Bool.false_eq_true, if_false, phaseSniff, sniffLoop_eq]
      exact .returned (by simp [NoneOf, Uncaught])
        ⟨by simp [SniffResult.after, SniffResult.new], by simp [SniffResult.after, SniffResult.new]⟩

/-- Phase 2: it stops for one of its causes, and else has found answers if one of its
queries was answered. -/
theorem unicast_comesTo (args : Args) (panelIp : String) (world : World) :
    ComesTo .raised (unicastCauses args panelIp world)
      (fun unicast => unicast ≠ [] ↔ args.skipUnicast = false ∧
        ∃ j < (unicastQuestions panelIp args.askedNames).length,
          Answered panelIp (world.replies j))
      (unicastPart args panelIp world) := by
  have htypes : ∀ q ∈ unicastQuestions panelIp args.askedNames, 0 ≤ q.2 ∧ q.2 < 65536 := by
    unfold unicastQuestions
    simp
  unfold unicastPart unicastCauses phaseUnicast
  cases hskip : args.skipUnicast with
  | true => exact .pure (by simp)
  | false =>
    have hask := askPanel_comesTo panelIp world.replies 0 htypes
    simp only [Nat.zero_add] at hask
    simp only [Bool.false_eq_true, if_false, true_and]
    exact (comesTo_orRaise world.socket).bind fun _ _ => hask

/-- Phase 3: it stops for one of its causes, and else has found the panel if an
advertised service has its address. -/
theorem enumerate_comesTo (args : Args) (panelIp : String) (world : World) :
    ComesTo .raised (enumerateCauses args world)
      (fun enumerated => enumerated ≠ [] ↔ args.skipEnumerate = false ∧
        ∃ services, world.browsed = .ok (some services) ∧ ∃ service ∈ services,
          ∃ info, service.info = some info ∧ panelIp ∈ info.addresses)
      (enumeratePart args panelIp world) := by
  have hcheck : ∀ service, checkService panelIp service ≠ [] ↔
      ∃ info, service.info = some info ∧ panelIp ∈ info.addresses := by
    intro service
    unfold checkService
    cases service.info with
    | none => simp
    | some info => simp
  unfold enumeratePart enumerateCauses
  cases args.skipEnumerate with
  | true => exact .pure (by simp)
  | false =>
    cases world.browsed with
    | error err => exact .raised err fun err' => by simp [FirstAmong, eq_comm]
    | ok found =>
      cases found with
      | none => exact .returned (by simp [NoneOf]) (by simp)
      | some services =>
        exact .returned (by simp [NoneOf]) (by simp [List.flatMap_eq_nil_iff, ← hcheck])

/-- With an address the three phases are gone through, and then the exit code is given. -/
theorem main_comesTo [Runtime] {args : Args} {panelIp : String}
    (haddress : args.address = some panelIp) (world : World) :
    ComesTo .raised (causes args panelIp world)
      (fun code => code = 0 ∧ Spoke args panelIp world ∨
        code = 2 ∧ ¬ Spoke args panelIp world ∧ Deaf args world ∨
        code = 1 ∧ ¬ Spoke args panelIp world ∧ ¬ Deaf args world)
      (main args world) := by
  unfold main causes
  rw [haddress, ← List.append_nil (enumerateCauses args world)]
  refine (sniff_comesTo args panelIp world).bind fun sniff ⟨hpanel, hdeaf⟩ => ?_
  refine (unicast_comesTo args panelIp world).bind fun unicast hunicast => ?_
  refine (enumerate_comesTo args panelIp world).bind fun enumerated henumerated => .pure ?_
  unfold exitCode Spoke
  rw [← hpanel, ← hunicast, ← henumerated, ← hdeaf]
  dsimp only
  split
  · next hpositive => exact Or.inl ⟨rfl, hpositive⟩
  · next hpositive =>
    split
    · next hbroken => exact Or.inr (Or.inl ⟨rfl, hpositive, hbroken⟩)
    · next hbroken => exact Or.inr (Or.inr ⟨rfl, hpositive, hbroken⟩)

/-- **The verdict says what was heard.** Without an address the probe exits with 2, a usage
error. With one, and whatever reaches it in the phases that are not skipped, it exits with
0 exactly when nothing stops it and the panel was noticed in one of them, with 2 exactly
when nothing stops it, it was not and the sniff heard nobody at all, and with 1, the
negative, exactly when nothing stops it, it was not and the capture worked or was skipped;
it ends in an exception exactly when a cause to stop applies, and in the first that does. -/
theorem probe_verdict [Runtime] (args : Args) (world : World) :
    (args.address = none → main args world = .ok 2) ∧
      ∀ panelIp, args.address = some panelIp →
        let fine := NoneOf (causes args panelIp world)
        (main args world = .ok 0 ↔ fine ∧ Spoke args panelIp world) ∧
        (main args world = .ok 2 ↔ fine ∧ ¬ Spoke args panelIp world ∧ Deaf args world) ∧
        (main args world = .ok 1 ↔ fine ∧ ¬ Spoke args panelIp world ∧ ¬ Deaf args world) ∧
        (∀ err, main args world = .error (.raised err) ↔
          FirstAmong (causes args panelIp world) err) ∧
        ((∃ code ≤ 2, main args world = .ok code) ∨
          ∃ err, main args world = .error (.raised err)) := by
  refine ⟨fun hnone => ?_, fun panelIp haddress => ?_⟩
  · unfold main
    rw [hnone]
  intro fine
  have hmain := main_comesTo haddress world
  have herror := hmain.error_iff raised_injective
  rcases hmain.ok_or_error with ⟨hfine, code, hcode, hverdict⟩ | ⟨hstopped, err, herr⟩
  · refine ⟨?_, ?_, ?_, herror, Or.inl ⟨code, by omega, hcode⟩⟩
    all_goals rcases hverdict with ⟨rfl, h⟩ | ⟨rfl, h⟩ | ⟨rfl, h⟩ <;> simp [hcode, fine, hfine, h]
  · refine ⟨?_, ?_, ?_, herror, Or.inr ⟨err, herr⟩⟩ <;> simp [herr, fine, hstopped]

end Gc3.Tools.MdnsProbe
