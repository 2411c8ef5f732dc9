/-
  HardwareMonitor.SystemInfo.SensorStore — the sensors of a device over its life
  (`A_HardwareDevice`): what `addSensor` writes and `snapshot` shows, in any order of calls.

  The vector of sensors is a map that keeps the order of insertion. A snapshot lists the
  sensors added before it, each once, in the order they were first added, with the value
  added last (`snapshots_list_added`). So what a list of snapshots names only ever grows
  at its end.
-/

import HardwareMonitor.SystemInfo.CpuMetrics

namespace HardwareMonitor.SystemInfo.SensorStore

open HardwareMonitor.Lib.Upsert

/-- A call on a device. -/
inductive Call (F : Type) where
  | addSensor (type : SensorType) (name : String) (initVal : F)
  | snapshot
  deriving DecidableEq, Repr

variable {F : Type}

/-- What a call answers, and the sensors it leaves. -/
def Call.exec (devSensors : List (DeviceSensor F)) :
    Call F → Option (List (SensorReading F)) × List (DeviceSensor F)
  | .addSensor type name initVal => (none, SystemInfo.addSensor type name initVal devSensors)
  | .snapshot => (some (SystemInfo.snapshot devSensors), devSensors)

/-- What each of the calls answers. -/
def answers : List (Call F) → List (DeviceSensor F) → List (Option (List (SensorReading F)))
  | [], _ => []
  | call :: calls, devSensors => (call.exec devSensors).1 :: answers calls (call.exec devSensors).2

/-- The sensor a call writes. -/
def Call.added : Call F → Option (DeviceSensor F)
  | .addSensor type name initVal => some ⟨name, type, initVal⟩
  | .snapshot => none

/-- The sensors the calls write, as often as they are written. -/
def allAdded (calls : List (Call F)) : List (DeviceSensor F) := calls.filterMap Call.added

/-- The value of the last of the calls that is an `addSensor` of this name and type. -/
def latestValue (calls : List (Call F)) (k : String × SensorType) : Option F :=
  (latest DeviceSensor.key (allAdded calls) k).map (·.value)

theorem exec_sensors (call : Call F) (devSensors : List (DeviceSensor F)) :
    (call.exec devSensors).2 = upsertAll DeviceSensor.key call.added.toList devSensors := by
  cases call with
  | addSensor type name initVal => exact addSensor_eq type name initVal devSensors
  | snapshot => rfl

/-- The sensors there are when a call is made: those the calls before it have written. -/
theorem answers_getElem? (calls : List (Call F)) (devSensors : List (DeviceSensor F)) (i : Nat) :
    (answers calls devSensors)[i]? =
      calls[i]?.map fun call => (call.exec (upsertAll DeviceSensor.key (allAdded (calls.take i)) devSensors)).1 := by
  induction calls generalizing devSensors i with
  | nil => rfl
  | cons call calls ih =>
    cases i with
    | zero => rfl
    | succ i =>
      have hadded : allAdded ((call :: calls).take (i + 1)) = call.added.toList ++ allAdded (calls.take i) := by
        rw [List.take_succ_cons, allAdded, List.filterMap_cons]
        cases call.added <;> rfl
      rw [answers, List.getElem?_cons_succ, List.getElem?_cons_succ, ih, exec_sensors, hadded, upsertAll, upsertAll,
        upsertAll, List.foldl_append]

/-- The snapshot lists what the calls have added: every name and type once, in the order
    of first addition, with the last value and the unit of the type. -/
def Lists (calls : List (Call F)) (shown : List (SensorReading F)) : Prop :=
  List.Forall₂ (fun k r => r.name = k.1 ∧ latestValue calls k = some r.value ∧ r.unit = k.2.unit)
    ((allAdded calls).map DeviceSensor.key).eraseDups shown

theorem lists_snapshot (calls : List (Call F)) :
    Lists calls (snapshot (upsertAll DeviceSensor.key (allAdded calls) [])) := by
  have hnodup : ((upsertAll DeviceSensor.key (allAdded calls) []).map DeviceSensor.key).Nodup :=
    nodup_upsertAll DeviceSensor.key _ List.nodup_nil
  rw [Lists, ← keys_upsertAll_nil, snapshot, List.forall₂_map_left_iff, List.forall₂_map_right_iff, List.forall₂_same]
  intro sensor hsensor
  refine ⟨rfl, ?_, rfl⟩
  have hfind := find_upsertAll DeviceSensor.key (allAdded calls) [] sensor.key
  rw [find_of_mem _ hnodup hsensor, find, List.find?_nil, Option.or_none] at hfind
  rw [latestValue, ← hfind]
  rfl

/-- A snapshot shows the sensors the calls before it have written. -/
theorem shown_of_answers {calls : List (Call F)} {devSensors : List (DeviceSensor F)} {i : Nat}
    {shown : List (SensorReading F)} (h : (answers calls devSensors)[i]? = some (some shown)) :
    shown = snapshot (upsertAll DeviceSensor.key (allAdded (calls.take i)) devSensors) := by
  rw [answers_getElem?] at h
  cases hcall : calls[i]? with
  | none => rw [hcall] at h; cases h
  | some call =>
    rw [hcall] at h
    cases call with
    | addSensor => cases h
    | snapshot => exact (Option.some.inj (Option.some.inj h)).symm

theorem names_snapshot (devSensors : List (DeviceSensor F)) :
    (snapshot devSensors).map (·.name) = (devSensors.map DeviceSensor.key).map Prod.fst := by
  rw [snapshot, List.map_map, List.map_map]
  rfl

/-- Calls behind the ones made only add names at the end. -/
theorem names_prefix {calls more : List (Call F)} (h : calls <+: more) :
    (snapshot (upsertAll DeviceSensor.key (allAdded calls) [])).map (·.name) <+:
      (snapshot (upsertAll DeviceSensor.key (allAdded more) [])).map (·.name) := by
  obtain ⟨rest, rfl⟩ := h
  have hafter : upsertAll DeviceSensor.key (allAdded (calls ++ rest)) [] =
      upsertAll DeviceSensor.key (allAdded rest) (upsertAll DeviceSensor.key (allAdded calls) []) := by
    rw [allAdded, List.filterMap_append, upsertAll, List.foldl_append]
    rfl
  rw [hafter, names_snapshot, names_snapshot]
  exact (keys_prefix_upsertAll DeviceSensor.key (allAdded rest) _).map Prod.fst

/-- Each snapshot lists what has been added before it, and what one names the later ones
    name in the same places. -/
theorem snapshots_list_added (calls : List (Call F)) :
    (∀ i, calls[i]? = some .snapshot →
      ∃ shown, (answers calls [])[i]? = some (some shown) ∧ Lists (calls.take i) shown) ∧
    ∀ (i j : Nat) (shown later : List (SensorReading F)), i ≤ j → (answers calls [])[i]? = some (some shown) →
      (answers calls [])[j]? = some (some later) → shown.map (·.name) <+: later.map (·.name) := by
  constructor
  · intro i hi
    refine ⟨snapshot (upsertAll DeviceSensor.key (allAdded (calls.take i)) []), ?_, lists_snapshot _⟩
    rw [answers_getElem?, hi]
    rfl
  · intro i j shown later hij hi hj
    rw [shown_of_answers hi, shown_of_answers hj]
    exact names_prefix (List.take_prefix_take_left hij)

/-- A sensor added again keeps its place, and the snapshot taken before has the old value. -/
example : answers [.addSensor .clock "Core" 1, .addSensor .power "Core" 2, .snapshot, .addSensor .clock "Core" 3, .snapshot]
    ([] : List (DeviceSensor Nat)) =
      [none, none, some [⟨"Core", 1, "MHz"⟩, ⟨"Core", 2, "W"⟩], none, some [⟨"Core", 3, "MHz"⟩, ⟨"Core", 2, "W"⟩]] := by
  decide

end HardwareMonitor.SystemInfo.SensorStore
