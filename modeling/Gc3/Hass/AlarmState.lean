import Gc3.Hass.Coordinator
import Gc3.Lib.Fallible
import Gc3.Lib.Pointwise
import Gc3.Pygc3.Parsing

/-!
# From the panel's answers to the alarm state

A poll over the two JSON answers, and when the state it leads to is *triggered*, said of
the objects the panel sent. `zones()` leaves the console zone out, so a console in alarm
does not count: `alarmState_triggered_iff` has the zone objects the filter lets through,
and `silent_console` is the one it does not.

`ZoneInAlarm` and `ConsoleObject` are written on JSON, without a parser: whoever reads
them has the panel's documentation in hand and not the models. The proof connects them
to the code in three steps. `mapAlarmState_triggered_iff` reads the state map at its one
value; `isConsole_eq_false_iff` and `zoneStatus_inAlarm` say that the console filter and
the alarm flag of one zone see what the object says; and `exists_inAlarm_iff` carries
both over the list, element by element, through `Pointwise.exists_mem_iff`.
-/

namespace Gc3.Hass

open Gc3.Py Gc3.Pygc3 Fallible

/-! ## What the objects say -/

section

variable [Runtime]

/-- The zone object reports `inAlarm`, in any encoding `_as_bool` takes as true. -/
def ZoneInAlarm (v : Json) : Prop :=
  ∃ fields status, v = .obj fields ∧ statusObject fields = .obj status ∧
    asBool (Json.field status "inAlarm") = true

/-- The zone object is the panel's own console, by its id or by its name. -/
def ConsoleObject (v : Json) : Prop :=
  ∃ fields, v = .obj fields ∧
    ((Json.field fields "id").pyStr = "0" ∨
      ∃ name, (Json.field fields "voiceDescriptor").or
          (.str ("Zone " ++ (Json.field fields "id").pyStr)) = .str name ∧
        isConsoleName name = true)

/-- The arm state the status object gives, lower-cased. -/
def armStateOf (fields : List (String × Json)) : String :=
  lower ((Json.field fields "armState").or (.str "")).pyStr

/-- An arm state that is taken for a sounding alarm. -/
def AlarmedArmState (state : String) : Prop :=
  state ≠ "armed" ∧ state ≠ "arming" ∧ inStr "alarm" state = true

/-- A poll that reads `/status` and `/zones` off these two answers. -/
def pollOver (client : GC3Client) (statusAnswer zonesAnswer : Exchange)
    (order : SetOrder String) : Poll Json :=
  ⟨client.status fun _ => statusAnswer, client.zones (fun _ => zonesAnswer) false, order⟩

end

/-! ## From the objects to the state -/

/-- The state map comes to *triggered* over a zone in alarm, or an arm state that speaks
of one and is none of the two it knows. -/
theorem mapAlarmState_triggered_iff {ν : Type} (status : PanelStatus) (zones : List (Zone ν))
    (armedNight : Bool) :
    mapAlarmState status zones armedNight = .triggered ↔
      (∃ z ∈ zones, z.status.inAlarm = true) ∨ AlarmedArmState status.armState := by
  unfold mapAlarmState AlarmedArmState
  by_cases hany : zones.any (·.status.inAlarm) = true
  · rw [if_pos hany]
    exact iff_of_true rfl (Or.inl (List.any_eq_true.mp hany))
  · have hnone : ¬ ∃ z ∈ zones, z.status.inAlarm = true := fun h => hany (List.any_eq_true.mpr h)
    rw [if_neg hany]
    dsimp only
    by_cases harmed : status.armState = "armed"
    · -- both armed branches end in a state of their own
      rw [if_pos harmed]
      refine iff_of_false ?_ ?_
      · split
        · simp
        · split <;> simp
      · simp [hnone, harmed]
    · rw [if_neg harmed]
      by_cases harming : status.armState = "arming"
      · simp [hnone, harming]
      · by_cases halarm : inStr "alarm" status.armState = true
        · simp [harmed, harming, halarm]
        · simp [hnone, harmed, harming, halarm]

section

variable [Runtime]

/-- A zone the filter could test is kept when its object is not the console. -/
theorem isConsole_eq_false_iff {fields : List (String × Json)} {z : Zone Json}
    (hz : Zone.fromJson (.obj fields) = .ok z) (hok : ∃ console, z.isConsole = .ok console) :
    z.isConsole = .ok false ↔ ¬ ConsoleObject (.obj fields) := by
  obtain ⟨hid, hname, -⟩ := zone_fromJson_fields hz
  have hobj : ConsoleObject (.obj fields) ↔
      z.id = "0" ∨ ∃ name, z.name = .str name ∧ isConsoleName name = true := by
    unfold ConsoleObject
    rw [hid, hname]
    constructor
    · intro ⟨fields', hfields, h⟩
      rw [Json.obj.inj hfields]
      exact h
    · exact fun h => ⟨fields, rfl, h⟩
  rw [hobj]
  obtain ⟨console, hconsole⟩ := hok
  unfold Zone.isConsole at hconsole ⊢
  by_cases h0 : z.id = "0"
  · simp [h0]
  · rw [if_neg h0] at hconsole ⊢
    cases hn : z.name with
    | str name => simp [h0]
    | _ =>
      rw [hn] at hconsole
      exact absurd hconsole (by simp)

/-- Among the zones a poll ends up with, one is in alarm exactly when an object
of the array is that is not the console. -/
theorem exists_inAlarm_iff {data : List Json} {parsed kept : List (Zone Json)}
    (hparsed : GC3Client.parseZones data = .ok parsed)
    (hkept : GC3Client.dropConsole parsed = .ok kept) :
    (∃ z ∈ kept, z.status.inAlarm = true) ↔ ∃ v ∈ data, ZoneInAlarm v ∧ ¬ ConsoleObject v := by
  have hconsole := (dropConsole_ok_iff parsed).mp ⟨kept, hkept⟩
  -- one object and its zone: the flag and the filter agree
  have hone : ∀ v, ∀ z ∈ parsed, Zone.fromJson v = .ok z →
      (z.isConsole = .ok false ∧ z.status.inAlarm = true ↔ ZoneInAlarm v ∧ ¬ ConsoleObject v) := by
    intro v z hz hvz
    obtain ⟨fields, rfl, -⟩ := (zone_fromJson_ok_iff v).mp ⟨z, hvz⟩
    obtain ⟨status, hobj, halarm⟩ := zoneStatus_inAlarm (zone_fromJson_fields hvz).2.2
    rw [isConsole_eq_false_iff hvz ((isConsole_ok_iff z).mpr (hconsole z hz)), and_comm, halarm]
    refine and_congr_left fun _ => ?_
    unfold ZoneInAlarm
    constructor
    · exact fun h => ⟨fields, status, rfl, hobj, h⟩
    · intro ⟨fields', status', hfields, hstatus', h⟩
      rw [← Json.obj.inj hfields, hobj] at hstatus'
      rw [Json.obj.inj hstatus']
      exact h
  have hkeep : (∃ z ∈ kept, z.status.inAlarm = true) ↔
      ∃ z ∈ parsed, z.isConsole = .ok false ∧ z.status.inAlarm = true := by
    simp only [mem_of_dropConsole hkept, and_assoc]
  rw [hkeep]
  exact Pointwise.exists_mem_iff (parseZones_ok_iff.mp hparsed) hone

/-- Over an object `status()` returns, with the arm state it gives. -/
theorem status_ofJson_obj (client : GC3Client) {code : Nat} (hcode : code < 400)
    (fields : List (String × Json)) :
    ∃ status, client.status (fun _ => .ofJson code (.obj fields)) = .ok status ∧
      status.armState = armStateOf fields := by
  rw [status_ofJson client hcode, panelStatus_fromJson_obj]
  exact ⟨_, rfl, rfl⟩

/-- **When the alarm state is triggered**, over the objects the panel sent: after
a poll that parses, exactly when an object that is not the console reports
`inAlarm`, or the arm state itself is an alarm. -/
theorem alarmState_triggered_iff (client : GC3Client) (c : GC3Coordinator Json)
    (order : SetOrder String) {code code' : Nat} (hcode : code < 400) (hcode' : code' < 400)
    (status : List (String × Json)) (data : List Json)
    (hparse : ∃ zones, client.zones (fun _ => .ofJson code' (.arr data)) false = .ok zones) :
    (c.asyncRefresh (pollOver client (.ofJson code (.obj status)) (.ofJson code' (.arr data))
        order)).alarmState = some .triggered ↔
      (∃ v ∈ data, ZoneInAlarm v ∧ ¬ ConsoleObject v) ∨ AlarmedArmState (armStateOf status) := by
  obtain ⟨st, hst, harm⟩ := status_ofJson_obj client hcode status
  obtain ⟨kept, hkept⟩ := hparse
  have hsnap : (pollOver client (.ofJson code (.obj status)) (.ofJson code' (.arr data))
      order).snapshot = some ⟨st, kept⟩ := by
    unfold Poll.snapshot pollOver
    dsimp only
    rw [hst, hkept]
  -- the array went through the parser and then through the filter
  rw [zones_ofJson_arr client hcode', escape_eq_ok] at hkept
  obtain ⟨parsed, hparsed, hdrop⟩ := bind_eq_ok.mp hkept
  rw [← exists_inAlarm_iff hparsed hdrop, ← harm]
  unfold GC3Coordinator.alarmState
  rw [GC3Coordinator.asyncRefresh_data, hsnap]
  simp only [Option.some_or, Option.map_some, Option.some.injEq]
  exact mapAlarmState_triggered_iff st kept _

end

/-- A zone object with this id, in alarm. -/
def alarmObject (id : String) : Json :=
  .obj [("id", .str id), ("status", .obj [("inAlarm", .bool true)])]

/-- A coordinator before its first poll. -/
def freshCoordinator : GC3Coordinator Json := .init bareEntry .empty

/-- The alarm state after one poll of an armed panel with these zone objects. -/
def stateOver (data : List Json) : Option AlarmControlPanelState :=
  (freshCoordinator.asyncRefresh (@pollOver latin1 sampleClient
    (.ofJson 200 (.obj [("armState", .str "armed")])) (.ofJson 200 (.arr data))
    (.ascending String))).alarmState

/-- A front door in alarm reaches Home Assistant past a quiet console. -/
theorem frontDoor_triggers :
    stateOver [.obj [("id", .str "0")], alarmObject "1"] = some .triggered := by
  refine (@alarmState_triggered_iff latin1 sampleClient freshCoordinator _ 200 200 (by decide)
    (by decide) [("armState", .str "armed")] [.obj [("id", .str "0")], alarmObject "1"]
    ⟨_, rfl⟩).mpr (Or.inl ⟨alarmObject "1", by simp, ?_, ?_⟩)
  · exact ⟨_, _, rfl, rfl, rfl⟩
  · intro ⟨fields, hfields, hconsole⟩
    rw [← Json.obj.inj hfields] at hconsole
    rcases hconsole with hid | ⟨name, hname, hconsole⟩
    · exact absurd hid (by decide)
    · rw [@isConsoleName_iff latin1, ← Json.str.inj hname] at hconsole
      exact absurd hconsole (by decide)

/-- A console in alarm does not: the zone filter drops it. -/
theorem silent_console :
    ¬ (stateOver [alarmObject "0"] = some .triggered ↔
      (∃ v ∈ [alarmObject "0"], @ZoneInAlarm latin1 v) ∨
        AlarmedArmState (@armStateOf latin1 [("armState", .str "armed")])) := by
  intro h
  have halarm : ∃ v ∈ [alarmObject "0"], @ZoneInAlarm latin1 v :=
    ⟨_, List.mem_singleton_self _, _, _, rfl, rfl, rfl⟩
  have hstate : stateOver [alarmObject "0"] = some .armedAway := rfl
  have htriggered := h.mpr (Or.inl halarm)
  rw [hstate] at htriggered
  exact absurd htriggered (by decide)

end Gc3.Hass
