import Gc3.Lib.Ask
import Gc3.Pygc3.Client

/-!
# What the client puts on the wire

Each call of the client is one request, and goes by the answer to that request alone. The
calls are given here as programs that ask (`Talk`): a network that may answer the same
request differently each time is asked the request spelled out below, once, and what the
call comes to is what `Gc3.Pygc3.Client` makes of that one answer. A poll, a command, a
validation and an enrolment are put together from these.

The requests are written out beside `GC3Client.request`, which builds them inside each
call, so that a statement about what goes over the wire can name them; that they are the
ones the calls make is how `statusTalk` and its kin are defined, the answer being handed to
the call as a network that answers everything alike. A call that names a partition puts its
request only if the partition can stand in a URL (`askFor`).
-/

namespace Gc3.Pygc3

open Gc3.Py

/-- A program that talks to the network. -/
abbrev Talk (α : Type) := Ask Request Exchange α

namespace GC3Client

/-! ## Requests -/

def statusRequest (c : GC3Client) : Request :=
  ⟨"GET", c.base ++ "/api/v1/status", none, none, c.headers⟩

def zonesRequest (c : GC3Client) : Request :=
  ⟨"GET", c.base ++ "/api/v1/zones", none, none, c.headers⟩

/-- The body of an arm request. -/
def armBody (c : GC3Client) (stay noEntryDelay noExitDelay bypassNotReady silent : Json)
    (partition : Option Int) : List (String × Json) :=
  [("partition", (c.partitionOr partition).json), ("armStay", stay), ("noExitDelay", noExitDelay),
    ("noEntryDelay", noEntryDelay), ("bypassNotReadyZones", bypassNotReady),
    ("silentEntryExit", silent)]

def armRequest (c : GC3Client) (stay noEntryDelay noExitDelay bypassNotReady silent : Json)
    (partition : Option Int) : Request :=
  ⟨"POST", c.base ++ "/api/v1/actions/panel/arm",
    some (.obj (c.armBody stay noEntryDelay noExitDelay bypassNotReady silent partition)),
    some [("partition", (c.partitionOr partition).json)], c.headers⟩

def disarmRequest (c : GC3Client) (pin : Json) (partition : Option Int) : Request :=
  ⟨"POST", c.base ++ "/api/v1/actions/panel/disarm",
    some (.obj [("userPIN", pin), ("partition", (c.partitionOr partition).json)]),
    some [("partition", (c.partitionOr partition).json)], c.headers⟩

def pairRequest (c : GC3Client) (deviceName : String)
    (allPartitionAccess isSecurityDevice : Bool) (partition : Option Int) : Request :=
  ⟨"POST", c.base ++ "/api/v1/pair",
    some (.obj [("deviceName", .str deviceName), ("allPartitionAccess", .bool allPartitionAccess),
      ("isSecurityDevice", .bool isSecurityDevice),
      ("memberOfPartition", .str (c.partitionOr partition).text)]), none, c.headers⟩

/-! ## Calls as programs -/

/-- A request that names this partition: put if its URL can be written, else not. -/
def askFor (part : Partition) (request : Request) (call : Panel → Except Raised Json) :
    Talk (Except Raised Json) :=
  match part.query with
  | .ok _ => .ask request fun answer => .done (call fun _ => answer)
  | .error err => .done (.error (.py err))

/-- A number is written, and the request is put. -/
theorem askFor_number {part : Partition} {n : Int} (h : part = .number n) (request : Request)
    (call : Panel → Except Raised Json) :
    askFor part request call = .ask request fun answer => .done (call fun _ => answer) := by
  rw [h]
  rfl

/-- A boolean is refused, and nothing is asked. -/
theorem askFor_flag {part : Partition} {b : Bool} (h : part = .flag b) (request : Request)
    (call : Panel → Except Raised Json) :
    ∃ err, askFor part request call = .done (.error (.py err)) := by
  rw [h]
  exact ⟨_, rfl⟩

section

variable [Runtime]

def statusTalk (c : GC3Client) : Talk (Except Raised PanelStatus) :=
  .ask c.statusRequest fun answer => .done (c.status fun _ => answer)

def zonesTalk (c : GC3Client) (includeConsole : Bool) : Talk (Except Raised (List (Zone Json))) :=
  .ask c.zonesRequest fun answer => .done (c.zones (fun _ => answer) includeConsole)

def armTalk (c : GC3Client) (stay noEntryDelay noExitDelay bypassNotReady silent : Json)
    (partition : Option Int) : Talk (Except Raised Json) :=
  askFor (c.partitionOr partition)
    (c.armRequest stay noEntryDelay noExitDelay bypassNotReady silent partition) fun panel =>
      c.arm panel stay noEntryDelay noExitDelay bypassNotReady silent partition

def disarmTalk (c : GC3Client) (pin : Json) (partition : Option Int) : Talk (Except Raised Json) :=
  askFor (c.partitionOr partition) (c.disarmRequest pin partition) fun panel =>
    c.disarm panel pin partition

def pairTalk (c : GC3Client) (deviceName : String) (allPartitionAccess isSecurityDevice : Bool)
    (partition : Option Int) : Talk (Except Raised Json) :=
  .ask (c.pairRequest deviceName allPartitionAccess isSecurityDevice partition) fun answer =>
    .done (c.pair (fun _ => answer) deviceName allPartitionAccess isSecurityDevice partition)

end

end GC3Client

end Gc3.Pygc3
