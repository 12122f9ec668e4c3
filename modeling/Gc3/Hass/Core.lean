import Gc3.Py.Json
import Mathlib.Data.List.AList

/-!
# What the integration sees of Home Assistant

Config entries, and the issue registry with the calls that change it. The registry is
modelled for the one domain the integration writes to; it outlives every coordinator,
and nothing but the two calls below changes it.

A dict of Python is an `AList` where nothing reads its order (`Dict`) and an association
list where something might, as for the data of an entry, which the diagnostics print.
The registry keeps the calls it has received next to the issues they left: what is
asked about repairs is not only which issues stand but how often each was raised and
cleared, and `callsAbout` is that history for one issue, `true` for a creation.

The simp lemmas after the two calls give the issues and the history after each of them,
so that no proof above unfolds either.
-/

namespace Gc3.Hass

open Gc3.Py

/-- A dict whose order nothing reads. -/
abbrev Dict (κ α : Type) : Type := AList fun _ : κ => α

/-! ## Config entries -/

/-- A config entry: its id, its data and its options. -/
structure ConfigEntry where
  entryId : String
  data : List (String × Json)
  options : List (String × Json)

/-- An entry with nothing stored but its id. -/
def bareEntry : ConfigEntry := ⟨"01JGC3TESTENTRYID0000000", [], []⟩

/-- `d.get(key, default)` -/
def getOr (d : List (String × Json)) (key : String) (default : Json) : Json :=
  (d.lookup key).getD default

def CONF_DISARM_PIN : String := "disarm_pin"
def CONF_NO_ENTRY_DELAY : String := "no_entry_delay"
def CONF_NIGHT_NO_ENTRY_DELAY : String := "night_no_entry_delay"
def CONF_BYPASS_NOT_READY : String := "bypass_not_ready"

/-! ## The issue registry -/

inductive IssueSeverity
  | critical
  | error
  | warning
  deriving DecidableEq, Repr

/-- What an issue of the integration carries; its one placeholder is a zone's name. -/
structure Issue (ν : Type) where
  isFixable : Bool
  severity : IssueSeverity
  translationKey : String
  zone : ν

/-- The calls that change the registry. -/
inductive IssueCall (ν : Type)
  | create (issueId : String) (issue : Issue ν)
  | delete (issueId : String)

/-- The issue registry, and the calls it has received, oldest first. -/
structure IssueRegistry (ν : Type) where
  issues : Dict String (Issue ν)
  calls : List (IssueCall ν)

namespace IssueRegistry

variable {ν : Type}

def empty : IssueRegistry ν := ⟨∅, []⟩

/-- `ir.async_create_issue` -/
def asyncCreateIssue (r : IssueRegistry ν) (issueId : String) (issue : Issue ν) :
    IssueRegistry ν :=
  ⟨r.issues.insert issueId issue, r.calls ++ [.create issueId issue]⟩

/-- `ir.async_delete_issue` -/
def asyncDeleteIssue (r : IssueRegistry ν) (issueId : String) : IssueRegistry ν :=
  ⟨r.issues.erase issueId, r.calls ++ [.delete issueId]⟩

/-- The calls about one issue: `true` for a create, `false` for a delete. -/
def callsAbout (r : IssueRegistry ν) (issueId : String) : List Bool :=
  r.calls.filterMap fun
    | .create other _ => if other = issueId then some true else none
    | .delete other => if other = issueId then some false else none

@[simp] theorem issues_empty : (empty : IssueRegistry ν).issues = ∅ := rfl

@[simp] theorem mem_create (r : IssueRegistry ν) (i j : String) (issue : Issue ν) :
    j ∈ (r.asyncCreateIssue i issue).issues ↔ j = i ∨ j ∈ r.issues := AList.mem_insert _

@[simp] theorem mem_delete (r : IssueRegistry ν) (i j : String) :
    j ∈ (r.asyncDeleteIssue i).issues ↔ j ≠ i ∧ j ∈ r.issues := AList.mem_erase

theorem callsAbout_create (r : IssueRegistry ν) (i j : String) (issue : Issue ν) :
    (r.asyncCreateIssue i issue).callsAbout j
      = r.callsAbout j ++ (if i = j then [true] else []) := by
  unfold callsAbout asyncCreateIssue
  rw [List.filterMap_append]
  by_cases h : i = j <;> simp [h]

theorem callsAbout_delete (r : IssueRegistry ν) (i j : String) :
    (r.asyncDeleteIssue i).callsAbout j
      = r.callsAbout j ++ (if i = j then [false] else []) := by
  unfold callsAbout asyncDeleteIssue
  rw [List.filterMap_append]
  by_cases h : i = j <;> simp [h]

end IssueRegistry

end Gc3.Hass
