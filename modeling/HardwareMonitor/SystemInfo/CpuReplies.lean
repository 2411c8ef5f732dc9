/-
  HardwareMonitor.SystemInfo.CpuReplies — the sensors made of a driver's reply.

  `fetchMetrics` scales a value by the entry's `unit`, and the sensor displays the unit
  of the entry's `type`. With both turned into a quantity, the reply of either driver
  becomes its sensors one by one (`reply_shown`): each under its entry's name, with its
  entry's quantity, none lost and none merged.

  Values are exact here: rationals for the `float`s.
-/

import HardwareMonitor.Drivers.EnergyRuns
import HardwareMonitor.Drivers.ReplyLabels
import HardwareMonitor.SystemInfo.CpuMetrics

namespace HardwareMonitor.SystemInfo

open HardwareMonitor.Drivers
open HardwareMonitor.Lib.Upsert

/-! ## Quantities -/

inductive Dimension where
  | temperature
  | voltage
  | frequency
  | ratio
  | power
  deriving DecidableEq, Repr

/-- An amount in °C, V, Hz, parts of one or W. -/
structure Quantity where
  dimension : Dimension
  amount : ℚ
  deriving DecidableEq

def exactOps : FloatOps ℚ := ⟨fun value => value.toNat, fun value => value / 1000⟩

/-- What an entry says, by its `unit`. -/
def entryQuantity (e : CpuData) : Option Quantity :=
  let value : ℚ := e.value.toNat
  if e.unit = MetricUnit.degreesC.code then some ⟨.temperature, value⟩
  else if e.unit = MetricUnit.millivolts.code then some ⟨.voltage, value / 1000⟩
  else if e.unit = MetricUnit.mhz.code then some ⟨.frequency, value * 1000000⟩
  else if e.unit = MetricUnit.percent.code then some ⟨.ratio, value / 100⟩
  else if e.unit = MetricUnit.milliwatts.code then some ⟨.power, value / 1000⟩
  else none

/-- What a reading says, by the unit that is displayed. -/
def readingQuantity (r : SensorReading ℚ) : Option Quantity :=
  if r.unit = "°C" then some ⟨.temperature, r.value⟩
  else if r.unit = "V" then some ⟨.voltage, r.value⟩
  else if r.unit = "MHz" then some ⟨.frequency, r.value * 1000000⟩
  else if r.unit = "%" then some ⟨.ratio, r.value / 100⟩
  else if r.unit = "W" then some ⟨.power, r.value⟩
  else none

/-- The reading is of the entry's metric, and says the same. -/
def Shows (e : CpuData) (r : SensorReading ℚ) : Prop :=
  r.name = e.name ∧ ∃ q, entryQuantity e = some q ∧ readingQuantity r = some q

/-! ## One entry -/

/-- The type of a metric's sensor. -/
def metricSensor : MetricType → SensorType
  | .temp => .temperature
  | .voltage => .voltage
  | .clockSpeed => .clock
  | .load => .usage
  | .power => .power

theorem sensorType_code (t : MetricType) : sensorType t.code = some (metricSensor t) := by
  cases t <;> rfl

theorem metricSensor_injective : Function.Injective metricSensor := by
  intro t u
  cases t <;> cases u <;> decide

/-- The switch has a case for each metric, and no other. -/
theorem sensorType_some {type : UInt16} {sensor : SensorType} (h : sensorType type = some sensor) :
    ∃ t : MetricType, type = t.code ∧ metricSensor t = sensor := by
  unfold sensorType at h
  split at h
  · exact ⟨.temp, ‹_›, Option.some.inj h⟩
  split at h
  · exact ⟨.voltage, ‹_›, Option.some.inj h⟩
  split at h
  · exact ⟨.clockSpeed, ‹_›, Option.some.inj h⟩
  split at h
  · exact ⟨.load, ‹_›, Option.some.inj h⟩
  split at h
  · exact ⟨.power, ‹_›, Option.some.inj h⟩
  · cases h

theorem sensorOf_tagged {e : CpuData} (h : e.Tagged) : ∃ sensor, sensorOf exactOps e = some sensor ∧ Shows e sensor.reading := by
  obtain ⟨t, htype, hunit⟩ := h
  refine ⟨⟨e.name, metricSensor t, scaledValue exactOps e⟩, ?_, rfl, ?_⟩
  · rw [sensorOf, htype, sensorType_code]
    rfl
  · simp only [entryQuantity, readingQuantity, DeviceSensor.reading, scaledValue, hunit]
    cases t <;> exact ⟨_, rfl, rfl⟩

/-! ## A reply -/

variable {reply : List CpuData}

/-- Different metrics are different sensors. -/
theorem named_nodup (hnodup : (reply.map CpuData.metric).Nodup) : (named reply).Nodup := by
  have hmetrics : named reply = (reply.map CpuData.metric).filterMap fun m => (sensorType m.2).map fun type => (m.1, type) := by
    rw [named, List.filterMap_map]
    rfl
  rw [hmetrics]
  refine hnodup.filterMap ?_
  intro listed listed' key hkey hkey'
  obtain ⟨name, type⟩ := listed
  obtain ⟨name', type'⟩ := listed'
  obtain ⟨sensor, hsensor, rfl⟩ := Option.map_eq_some_iff.mp hkey
  obtain ⟨sensor', hsensor', heq⟩ := Option.map_eq_some_iff.mp hkey'
  obtain ⟨rfl, rfl⟩ := Prod.mk.inj heq
  obtain ⟨t, rfl, ht⟩ := sensorType_some hsensor
  obtain ⟨t', rfl, ht'⟩ := sensorType_some hsensor'
  rw [metricSensor_injective (ht.trans ht'.symm)]

/-- On a device without sensors, a reply's sensors are appended one after the other. -/
theorem fetchMetrics_new (hnodup : (reply.map CpuData.metric).Nodup) :
    fetchMetrics exactOps reply [] = reply.filterMap (sensorOf exactOps) := by
  have hkeys : (([] ++ reply.filterMap (sensorOf exactOps)).map DeviceSensor.key).Nodup := by
    rw [List.nil_append, keys_sensorOf]
    exact named_nodup hnodup
  rw [fetchMetrics_eq]
  exact upsertAll_new DeviceSensor.key hkeys

theorem shows_all (htags : ∀ e ∈ reply, e.Tagged) : List.Forall₂ Shows reply (snapshot (reply.filterMap (sensorOf exactOps))) := by
  induction reply with
  | nil => exact .nil
  | cons e reply ih =>
    obtain ⟨sensor, hsensor, hshows⟩ := sensorOf_tagged (htags e List.mem_cons_self)
    rw [List.filterMap_cons_some hsensor]
    exact .cons hshows (ih fun e he => htags e (List.mem_cons_of_mem _ he))

/-- The reply of a request that succeeds, on a machine whose processors' indexes have four
    digits at most: its entries are of pairwise different metrics, and a device without
    sensors gets one sensor for each, in order, that says the same as the entry. -/
theorem reply_shown (d : CpuDriver) (m : Drivers.Machine) (io : Ioctl) (s : Clocked d.Globals)
    (hprocs : io.activeProcessorCount.toNat ≤ 10000) (hok : (io.serve d m s).succeeded = true) :
    let reply := (io.serve d m s).out.entries
    (reply.map CpuData.metric).Nodup ∧ List.Forall₂ Shows reply (snapshot (fetchMetrics exactOps reply [])) := by
  intro reply
  have hidx : d.driver.maxEntries io.activeProcessorCount ≤ 65535 := by
    cases d with
    | intel => show 4 * _ + 3 ≤ _; omega
    | amd => show 3 * _ + 4 ≤ _; omega
  have hreply : reply = d.helpers.collected (io.kernel m) (s.cpuid m 0).2 := (serve_collected hidx hok).1
  have hnodup : (reply.map CpuData.metric).Nodup := by
    rw [hreply]
    exact collected_nodup d hprocs _
  have htags : ∀ e ∈ reply, e.Tagged := by
    rw [hreply]
    exact collected_tagged d (io.kernel m) _
  refine ⟨hnodup, ?_⟩
  rw [fetchMetrics_new hnodup]
  exact shows_all htags

/-- An AMD machine with two processors: ten entries, ten sensors. -/
theorem reply_shown_two :
    let reply := ((amdIoctl ioctlGetData).serve .amd (amdKernel 2).machine ⟨0, amdGlobals⟩).out.entries
    (snapshot (fetchMetrics exactOps reply [])).length = 10 := by
  intro reply
  have hlength : reply.length = 10 := by decide +kernel
  rw [← hlength]
  exact (reply_shown .amd (amdKernel 2).machine (amdIoctl ioctlGetData) ⟨0, amdGlobals⟩ (by decide)
    (by decide +kernel)).2.length_eq.symm

end HardwareMonitor.SystemInfo
