/-
  HardwareMonitor.SystemInfo.CpuMetrics — the sensors of the CPU (`DeviceSensor.h`,
  `A_HardwareDevice::addSensor`), the metrics they are read from
  (`CPULiveMetrics::fetchMetrics`) and the worker that polls them (`CPUPipelineWorker`).

  A sensor is found again by its name and type and never removed, so a sensor that a
  reply does not name keeps its reading, and the next snapshot has it again. Proved of
  every run, whatever `runDriver` returns: every reading pushed comes from the reply of
  the same call exactly if each reply names all that the ones before it did
  (`fresh_iff`). An empty reply after one that is not empty is what fails.
-/

import HardwareMonitor.Drivers.SharedInfo
import HardwareMonitor.Lib.Upsert

namespace HardwareMonitor.SystemInfo

open HardwareMonitor.Drivers (CpuData MetricType MetricUnit)
open HardwareMonitor.Lib.Upsert

/-! ## Sensors -/

/-- `Sensors::SensorType` -/
inductive SensorType where
  | clock
  | usage
  | temperature
  | power
  | memory
  | voltage
  | fanSpeed
  deriving DecidableEq, Repr

/-- `SensorTraits<T>::unit` -/
def SensorType.unit : SensorType → String
  | .clock => "MHz"
  | .usage => "%"
  | .temperature => "°C"
  | .power => "W"
  | .memory => "MB"
  | .voltage => "V"
  | .fanSpeed => "RPM"

theorem SensorType.unit_injective : Function.Injective SensorType.unit := by
  intro t u
  cases t <;> cases u <;> decide

/-- What the code does with a `float`: `static_cast` from a ULONG, and `/= 1000.0f`. -/
structure FloatOps (F : Type) where
  ofULong : UInt32 → F
  perThousand : F → F

variable {F : Type} (ops : FloatOps F)

/-- `Sensors::DeviceSensor<T>` -/
structure DeviceSensor (F : Type) where
  name : String
  type : SensorType
  value : F
  deriving DecidableEq, Repr

/-- An element of `TelemetrySnapshot::sensors`. -/
structure SensorReading (F : Type) where
  name : String
  value : F
  unit : String
  deriving DecidableEq, Repr

def DeviceSensor.reading (sensor : DeviceSensor F) : SensorReading F := ⟨sensor.name, sensor.value, sensor.type.unit⟩

/-- What `addSensor` looks for. -/
def DeviceSensor.key (sensor : DeviceSensor F) : String × SensorType := (sensor.name, sensor.type)

/-- `addSensor<T>`: the loop over `dev_sensors`, and `push_back` behind it. -/
def addSensor (type : SensorType) (name : String) (initVal : F) : List (DeviceSensor F) → List (DeviceSensor F)
  | [] => [⟨name, type, initVal⟩]
  | sensor :: rest =>
    if sensor.name = name ∧ sensor.type = type then { sensor with value := initVal } :: rest
    else sensor :: addSensor type name initVal rest

/-- The sensors of `A_HardwareDevice::snapshot`. -/
def snapshot (devSensors : List (DeviceSensor F)) : List (SensorReading F) := devSensors.map DeviceSensor.reading

/-! ## Metrics -/

/-- The cases of `switch (entry.type)`. -/
def sensorType (type : UInt16) : Option SensorType :=
  if type = MetricType.temp.code then some .temperature
  else if type = MetricType.voltage.code then some .voltage
  else if type = MetricType.clockSpeed.code then some .clock
  else if type = MetricType.load.code then some .usage
  else if type = MetricType.power.code then some .power
  else none

/-- `value`, scaled by the unit. -/
def scaledValue (entry : CpuData) : F :=
  let value := ops.ofULong entry.value
  if entry.unit = MetricUnit.milliwatts.code then ops.perThousand value
  else if entry.unit = MetricUnit.millivolts.code then ops.perThousand value
  else value

/-- The body of the loop of `fetchMetrics`. -/
def fetchEntry (devSensors : List (DeviceSensor F)) (entry : CpuData) : List (DeviceSensor F) :=
  match sensorType entry.type with
  | some type => addSensor type entry.name (scaledValue ops entry) devSensors
  | none => devSensors

/-- `CPULiveMetrics::fetchMetrics`, with the entries `runDriver` returned. -/
def fetchMetrics (reply : List CpuData) (devSensors : List (DeviceSensor F)) : List (DeviceSensor F) :=
  reply.foldl (fetchEntry ops) devSensors

/-! ## The worker -/

/-- `CPUPipelineWorker`: the sensors of `device_`, if there is one. -/
structure CPUPipelineWorker (F : Type) where
  device : Option (List (DeviceSensor F))
  deriving DecidableEq, Repr

namespace CPUPipelineWorker

/-- `initialize`, which fetches once itself. -/
def initialized (driverValid : Bool) (reply : List CpuData) : CPUPipelineWorker F :=
  if driverValid then ⟨some (fetchMetrics ops reply [])⟩ else ⟨none⟩

/-- `execute`, with the sensors of the snapshot it pushes. -/
def execute (reply : List CpuData) (w : CPUPipelineWorker F) : Option (List (SensorReading F)) × CPUPipelineWorker F :=
  match w.device with
  | none => (none, w)
  | some devSensors =>
    let devSensors := fetchMetrics ops reply devSensors
    (some (snapshot devSensors), ⟨some devSensors⟩)

end CPUPipelineWorker

/-- A call of `execute`: what `runDriver` returned in it, and what it pushed. -/
structure Poll (F : Type) where
  reply : List CpuData
  pushed : Option (List (SensorReading F))
  deriving DecidableEq, Repr

/-- The loop of the worker's thread. -/
def polls : List (List CpuData) → CPUPipelineWorker F → List (Poll F)
  | [], _ => []
  | reply :: replies, w => ⟨reply, (w.execute ops reply).1⟩ :: polls replies (w.execute ops reply).2

/-! ## What a reply names -/

/-- The sensor an entry is shown as. -/
def sensorOf (entry : CpuData) : Option (DeviceSensor F) :=
  (sensorType entry.type).map fun type => ⟨entry.name, type, scaledValue ops entry⟩

/-- The sensors a reply has a reading for, by name and type. -/
def named (reply : List CpuData) : List (String × SensorType) :=
  reply.filterMap fun entry => (sensorType entry.type).map fun type => (entry.name, type)

theorem addSensor_eq (type : SensorType) (name : String) (initVal : F) (devSensors : List (DeviceSensor F)) :
    addSensor type name initVal devSensors = upsert DeviceSensor.key ⟨name, type, initVal⟩ devSensors := by
  induction devSensors with
  | nil => rfl
  | cons sensor rest ih =>
    obtain ⟨oldName, oldType, value⟩ := sensor
    rw [addSensor, upsert, ih]
    simp only [DeviceSensor.key, Prod.mk.injEq]
    split
    · rename_i h
      rw [h.1, h.2]
    · rfl

/-- Fetching writes the sensors of the reply, by name and type. -/
theorem fetchMetrics_eq (reply : List CpuData) (devSensors : List (DeviceSensor F)) :
    fetchMetrics ops reply devSensors = upsertAll DeviceSensor.key (reply.filterMap (sensorOf ops)) devSensors := by
  induction reply generalizing devSensors with
  | nil => rfl
  | cons entry reply ih =>
    show fetchMetrics ops reply (fetchEntry ops devSensors entry) = _
    rw [ih, List.filterMap_cons, fetchEntry, sensorOf]
    cases sensorType entry.type with
    | none => rfl
    | some type => exact congrArg (upsertAll DeviceSensor.key _) (addSensor_eq type entry.name _ devSensors)

theorem keys_sensorOf (reply : List CpuData) :
    (reply.filterMap (sensorOf ops)).map DeviceSensor.key = named reply := by
  rw [named, List.map_filterMap]
  refine List.filterMap_congr fun entry _ => ?_
  rw [sensorOf]
  cases sensorType entry.type <;> rfl

/-- No two types have one unit, so a reading tells which sensor it is of. -/
theorem reading_injective : Function.Injective (DeviceSensor.reading : DeviceSensor F → SensorReading F) := by
  intro shown shown' h
  obtain ⟨name, type, value⟩ := shown
  obtain ⟨name', type', value'⟩ := shown'
  obtain ⟨hname, hvalue, hunit⟩ := SensorReading.mk.inj h
  exact DeviceSensor.mk.injEq .. ▸ ⟨hname, SensorType.unit_injective hunit, hvalue⟩

/-! ## Freshness -/

/-- Every reading a call pushes is that of an entry of its own reply. -/
def Poll.Fresh (p : Poll F) : Prop :=
  ∀ readings ∈ p.pushed, ∀ r ∈ readings, ∃ entry ∈ p.reply, ∃ sensor, sensorOf ops entry = some sensor ∧ r = sensor.reading

variable {ops} {w : CPUPipelineWorker F} {devSensors : List (DeviceSensor F)}

/-- One call: what it pushes is fresh if the reply has all the sensors the device has. -/
theorem execute_fresh_iff (reply : List CpuData) (hdev : w.device = some devSensors)
    (hkeys : (devSensors.map DeviceSensor.key).Nodup) :
    Poll.Fresh ops ⟨reply, (w.execute ops reply).1⟩ ↔ devSensors.map DeviceSensor.key ⊆ named reply := by
  rw [← keys_sensorOf ops reply, ← all_written_iff DeviceSensor.key hkeys, ← fetchMetrics_eq]
  simp only [Poll.Fresh, CPUPipelineWorker.execute, hdev, Option.mem_def, Option.some.injEq, forall_eq', snapshot,
    List.forall_mem_map, List.mem_filterMap]
  refine forall₂_congr fun sensor _ => exists_congr fun entry => and_congr_right fun _ => ?_
  constructor
  · intro hfound
    obtain ⟨shown, hshown, hreading⟩ := hfound
    rwa [reading_injective hreading]
  · intro hshown
    exact ⟨sensor, hshown, rfl⟩

/-- The device after a call: it has the sensors it had, and those the reply names. -/
theorem execute_device (ops : FloatOps F) (reply : List CpuData) (hdev : w.device = some devSensors)
    (hkeys : (devSensors.map DeviceSensor.key).Nodup) :
    ∃ devSensors', (w.execute ops reply).2.device = some devSensors' ∧ (devSensors'.map DeviceSensor.key).Nodup ∧
      ∀ k, k ∈ devSensors'.map DeviceSensor.key ↔ k ∈ devSensors.map DeviceSensor.key ∨ k ∈ named reply := by
  refine ⟨fetchMetrics ops reply devSensors, by simp only [CPUPipelineWorker.execute, hdev], ?_, fun k => ?_⟩
  · rw [fetchMetrics_eq]
    exact nodup_upsertAll DeviceSensor.key _ hkeys
  · rw [fetchMetrics_eq, mem_keys_upsertAll, keys_sensorOf]

/-- A run from a device that has sensors already. -/
theorem polls_fresh_iff (replies : List (List CpuData)) (hdev : w.device = some devSensors)
    (hkeys : (devSensors.map DeviceSensor.key).Nodup) :
    (∀ p ∈ polls ops replies w, p.Fresh ops) ↔
      (∀ reply ∈ replies, devSensors.map DeviceSensor.key ⊆ named reply) ∧
        replies.Pairwise fun earlier later => named earlier ⊆ named later := by
  induction replies generalizing w devSensors with
  | nil => simp [polls]
  | cons reply replies ih =>
    obtain ⟨devSensors', hdev', hkeys', hmem⟩ := execute_device ops reply hdev hkeys
    have hlater : ∀ later : List CpuData, devSensors'.map DeviceSensor.key ⊆ named later ↔
        devSensors.map DeviceSensor.key ⊆ named later ∧ named reply ⊆ named later := by
      intro later
      simp only [List.subset_def, hmem, or_imp, forall_and]
    rw [polls, List.forall_mem_cons, execute_fresh_iff reply hdev hkeys, ih hdev' hkeys', List.forall_mem_cons,
      List.pairwise_cons]
    simp only [hlater, forall_and]
    tauto

/-- A worker without a device pushes nothing. -/
theorem polls_without_device (replies : List (List CpuData)) (hdev : w.device = none) :
    ∀ p ∈ polls ops replies w, p.pushed = none := by
  induction replies with
  | nil => exact fun _ hp => nomatch hp
  | cons reply replies ih =>
    have hexecute : w.execute ops reply = (none, w) := by simp only [CPUPipelineWorker.execute, hdev]
    simp only [polls, hexecute, List.forall_mem_cons]
    exact ⟨trivial, ih⟩

/-- A run of the worker pushes nothing but fresh readings exactly if every reply names what
    any reply before it named, the one of `initialize` among them. Without a driver
    nothing is pushed at all. -/
theorem fresh_iff (ops : FloatOps F) (driverValid : Bool) (first : List CpuData) (replies : List (List CpuData)) :
    (∀ p ∈ polls ops replies (.initialized ops driverValid first), p.Fresh ops) ↔
      (driverValid = true → (first :: replies).Pairwise fun earlier later => named earlier ⊆ named later) := by
  cases driverValid with
  | false =>
    refine ⟨fun _ h => (nomatch h), fun _ p hp readings hr => ?_⟩
    rw [polls_without_device replies rfl p hp] at hr
    cases hr
  | true =>
    have hempty : (⟨some []⟩ : CPUPipelineWorker F).device = some [] := rfl
    obtain ⟨devSensors, hdev, hkeys, hmem⟩ := execute_device ops first hempty List.nodup_nil
    have hfirst : ∀ later : List CpuData, devSensors.map DeviceSensor.key ⊆ named later ↔ named first ⊆ named later := by
      intro later
      simp only [List.subset_def, hmem, List.map_nil, List.not_mem_nil, false_or]
    rw [polls_fresh_iff (w := .initialized ops true first) replies hdev hkeys, List.pairwise_cons]
    simp only [hfirst, forall_const]

/-- Whole numbers for the `float`s of an example. -/
def wholeOps : FloatOps Nat := ⟨UInt32.toNat, (· / 1000)⟩

def packageTemp : CpuData := ⟨61, "Package Temp", MetricType.temp.code, MetricUnit.degreesC.code, 0xFFFF⟩

/-- The driver answers once, and never again: the temperature it gave then is pushed as
    the current one. -/
theorem old_reading_pushed :
    (polls wholeOps [[], []] (.initialized wholeOps true [packageTemp])).map Poll.pushed =
        [some [⟨"Package Temp", 61, "°C"⟩], some [⟨"Package Temp", 61, "°C"⟩]] ∧
      ¬ ∀ p ∈ polls wholeOps [[], []] (.initialized wholeOps true [packageTemp]), p.Fresh wholeOps := by
  refine ⟨by decide, fun h => ?_⟩
  obtain ⟨entry, hentry, -⟩ := h _ List.mem_cons_self _ rfl _ List.mem_cons_self
  cases hentry

end HardwareMonitor.SystemInfo
