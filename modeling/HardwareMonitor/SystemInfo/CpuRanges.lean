/-
  HardwareMonitor.SystemInfo.CpuRanges — how large the CPU's readings can be, from the
  registers to the snapshots.

  A driver's entries are within the range of their metric (`Drivers.ReplyRanges`), and
  the worker scales each by its unit. A cast and a division by a constant round, but never
  past each other, so a sensor lies between the scaled ends of its metric's range
  (`Within`). Sensors are only ever written with such readings, and keep them while a reply
  does not name them, so every snapshot of every run shows readings within their ranges
  (`readings_in_range`).
-/

import HardwareMonitor.Drivers.ReplyRanges
import HardwareMonitor.SystemInfo.CpuReplies

namespace HardwareMonitor.SystemInfo

open HardwareMonitor.Drivers

/-- What `runDriver` may return: nothing, or the entries of a request that has succeeded, of
    the driver as its loads, requests and unloads so far have left it. -/
inductive Answered (d : CpuDriver) : List CpuData → Prop where
  | none : Answered d []
  | reply (events : List LifeEvent) (l : Loaded d) (hloaded : (DriverHost.after d events).loaded = some l)
      (m : Drivers.Machine) (io : Ioctl) (hok : (io.serve d m l.drv).succeeded = true) :
      Answered d (io.serve d m l.drv).out.entries

theorem Answered.inRange {d : CpuDriver} {reply : List CpuData} (h : Answered d reply) : ∀ e ∈ reply, e.InRange d := by
  cases h with
  | none => exact fun _ he => nomatch he
  | reply events l hloaded m io hok =>
    intro e he
    obtain ⟨_, _, _, _, hkept⟩ := (sound_after d events).setUp l hloaded
    exact (plausible_serve d m io hkept hok e he).1

section

variable {F : Type} (ops : FloatOps F)

/-- A metric's value as it is shown. -/
def shownValue (t : MetricType) (value : UInt32) : F := scaledValue ops ⟨value, "", t.code, t.unit.code, 0⟩

variable {ops}

theorem scaledValue_of_unit {e : CpuData} {t : MetricType} (hunit : e.unit = t.unit.code) :
    scaledValue ops e = shownValue ops t e.value := by
  simp only [scaledValue, shownValue, hunit]

theorem maxValue_lt (d : CpuDriver) (t : MetricType) : d.maxValue t < 2 ^ 32 := by
  cases d <;> cases t <;> decide

/-- The loop that looks for the sensor writes the new reading or leaves things alone. -/
theorem forall_addSensor {P : DeviceSensor F → Prop} {type : SensorType} {name : String} {initVal : F}
    (hnew : P ⟨name, type, initVal⟩) {devSensors : List (DeviceSensor F)} (h : ∀ sensor ∈ devSensors, P sensor) :
    ∀ sensor ∈ addSensor type name initVal devSensors, P sensor := by
  induction devSensors with
  | nil =>
    rw [addSensor, List.forall_mem_singleton]
    exact hnew
  | cons sensor rest ih =>
    rw [List.forall_mem_cons] at h
    obtain ⟨hsensor, hrest⟩ := h
    rw [addSensor]
    split
    · rename_i hkey
      obtain ⟨rfl, rfl⟩ := hkey
      exact List.forall_mem_cons.mpr ⟨hnew, hrest⟩
    · exact List.forall_mem_cons.mpr ⟨hsensor, ih hrest⟩

/-! ## Ranges -/

variable [Preorder F] (ops)

/-- Rounding keeps the order. -/
structure FloatOps.Ordered : Prop where
  ofULong : ∀ a b : UInt32, a ≤ b → ops.ofULong a ≤ ops.ofULong b
  perThousand : ∀ x y : F, x ≤ y → ops.perThousand x ≤ ops.perThousand y

/-- A sensor of a metric, between the ends of the metric's range. -/
def Within (d : CpuDriver) (sensor : DeviceSensor F) : Prop :=
  ∃ t, sensor.type = metricSensor t ∧ shownValue ops t 0 ≤ sensor.value ∧
    sensor.value ≤ shownValue ops t (.ofNat (d.maxValue t))

variable {ops}

theorem shownValue_mono (hops : ops.Ordered) (t : MetricType) {a b : UInt32} (hab : a ≤ b) :
    shownValue ops t a ≤ shownValue ops t b := by
  have hcast := hops.ofULong a b hab
  simp only [shownValue, scaledValue]
  split
  · exact hops.perThousand _ _ hcast
  split
  · exact hops.perThousand _ _ hcast
  · exact hcast

/-- An entry in range is shown within its metric's range. -/
theorem sensorOf_within {d : CpuDriver} (hops : ops.Ordered) {e : CpuData} (he : e.InRange d) {sensor : DeviceSensor F}
    (hsensor : sensorOf ops e = some sensor) : Within ops d sensor := by
  obtain ⟨t, htype, hunit, hmax⟩ := he
  rw [sensorOf, htype, sensorType_code, Option.map_some, Option.some.injEq] at hsensor
  subst hsensor
  have hle : e.value ≤ .ofNat (d.maxValue t) := by
    rw [UInt32.le_iff_toNat_le, UInt32.toNat_ofNat_of_lt' (maxValue_lt d t)]
    exact hmax
  refine ⟨t, rfl, ?_, ?_⟩
  · rw [scaledValue_of_unit hunit]
    exact shownValue_mono hops t (UInt32.zero_le)
  · rw [scaledValue_of_unit hunit]
    exact shownValue_mono hops t hle

/-! ## Runs -/

theorem fetchMetrics_within {d : CpuDriver} (hops : ops.Ordered) {reply : List CpuData} (hreply : ∀ e ∈ reply, e.InRange d)
    {devSensors : List (DeviceSensor F)} (h : ∀ sensor ∈ devSensors, Within ops d sensor) :
    ∀ sensor ∈ fetchMetrics ops reply devSensors, Within ops d sensor := by
  induction reply generalizing devSensors with
  | nil => exact h
  | cons e reply ih =>
    rw [List.forall_mem_cons] at hreply
    show ∀ sensor ∈ fetchMetrics ops reply (fetchEntry ops devSensors e), _
    apply ih hreply.2
    have hentry : ∀ sensor, sensorOf ops e = some sensor → Within ops d sensor :=
      fun _ hsensor => sensorOf_within hops hreply.1 hsensor
    rw [fetchEntry]
    unfold sensorOf at hentry
    cases htype : sensorType e.type with
    | none => exact h
    | some type =>
      rw [htype] at hentry
      exact forall_addSensor (hentry _ rfl) h

/-- The sensors of a worker's device are within their ranges. -/
def CPUPipelineWorker.Within (ops : FloatOps F) (d : CpuDriver) (w : CPUPipelineWorker F) : Prop :=
  ∀ devSensors, w.device = some devSensors → ∀ sensor ∈ devSensors, SystemInfo.Within ops d sensor

theorem initialized_within {d : CpuDriver} (hops : ops.Ordered) (driverValid : Bool) {reply : List CpuData}
    (hreply : Answered d reply) : (CPUPipelineWorker.initialized ops driverValid reply).Within ops d := by
  intro devSensors hdev
  cases driverValid with
  | false => cases hdev
  | true =>
    obtain rfl := Option.some.inj hdev
    exact fetchMetrics_within hops hreply.inRange fun _ h => nomatch h

/-- One call: what is pushed is within, and so is what is kept. -/
theorem execute_within {d : CpuDriver} (hops : ops.Ordered) {reply : List CpuData} (hreply : Answered d reply)
    {w : CPUPipelineWorker F} (hw : w.Within ops d) :
    (∀ readings ∈ (w.execute ops reply).1, ∀ r ∈ readings, ∃ sensor, Within ops d sensor ∧ r = sensor.reading) ∧
      (w.execute ops reply).2.Within ops d := by
  unfold CPUPipelineWorker.execute
  cases hdev : w.device with
  | none => exact ⟨fun _ h => (nomatch h), fun devSensors h => hw devSensors h⟩
  | some devSensors =>
    have hfetched := fetchMetrics_within hops hreply.inRange (hw devSensors hdev)
    constructor
    · intro readings hreadings r hr
      obtain rfl := Option.some.inj hreadings
      obtain ⟨sensor, hsensor, rfl⟩ := List.mem_map.mp hr
      exact ⟨sensor, hfetched sensor hsensor, rfl⟩
    · intro devSensors' hdev'
      obtain rfl := Option.some.inj hdev'
      exact hfetched

theorem polls_within {d : CpuDriver} (hops : ops.Ordered) {replies : List (List CpuData)}
    (hreplies : ∀ reply ∈ replies, Answered d reply) {w : CPUPipelineWorker F} (hw : w.Within ops d) :
    ∀ p ∈ polls ops replies w, ∀ readings ∈ p.pushed, ∀ r ∈ readings, ∃ sensor, Within ops d sensor ∧ r = sensor.reading := by
  induction replies generalizing w with
  | nil => exact fun _ h => nomatch h
  | cons reply replies ih =>
    rw [List.forall_mem_cons] at hreplies
    obtain ⟨hpushed, hkept⟩ := execute_within hops hreplies.1 hw
    rw [polls, List.forall_mem_cons]
    exact ⟨hpushed, ih hreplies.2 hkept⟩

end

/-- Whatever a worker of either driver is answered in its life (nothing at times, and
    otherwise what the driver replies, with any register contents, between any loads and
    unloads): each reading of each snapshot it pushes is of one of the driver's metrics, in
    that metric's unit, and no larger than the metric's largest value scaled to it. -/
theorem readings_in_range {F : Type} [Preorder F] (ops : FloatOps F)
    (hcast : ∀ a b : UInt32, a ≤ b → ops.ofULong a ≤ ops.ofULong b)
    (hdivide : ∀ x y : F, x ≤ y → ops.perThousand x ≤ ops.perThousand y) (d : CpuDriver) (driverValid : Bool)
    (first : List CpuData) (replies : List (List CpuData)) (hreplies : ∀ reply ∈ first :: replies, Answered d reply) :
    ∀ p ∈ polls ops replies (.initialized ops driverValid first), ∀ readings ∈ p.pushed, ∀ r ∈ readings,
      ∃ t : MetricType, r.unit = (metricSensor t).unit ∧ shownValue ops t 0 ≤ r.value ∧
        r.value ≤ shownValue ops t (.ofNat (d.maxValue t)) := by
  intro p hp readings hreadings r hr
  have hops : ops.Ordered := ⟨hcast, hdivide⟩
  rw [List.forall_mem_cons] at hreplies
  obtain ⟨sensor, ⟨t, htype, hlow, hhigh⟩, rfl⟩ :=
    polls_within hops hreplies.2 (initialized_within hops driverValid hreplies.1) p hp readings hreadings r hr
  refine ⟨t, ?_, hlow, hhigh⟩
  rw [← htype]
  rfl

/-- The machine of `Drivers.addedLater`, polled twice, the second time in vain. -/
theorem readings_in_range_added :
    let reply := ((amdIoctl ioctlGetData).serve .amd zenMachine addedLater.drv).out.entries
    reply ≠ [] ∧ ∀ p ∈ polls exactOps [reply, []] (.initialized exactOps true reply), ∀ readings ∈ p.pushed, ∀ r ∈ readings,
      ∃ t : MetricType, r.unit = (metricSensor t).unit ∧ shownValue exactOps t 0 ≤ r.value ∧
        r.value ≤ shownValue exactOps t (.ofNat (CpuDriver.maxValue .amd t)) := by
  intro reply
  have hanswered : Answered .amd reply :=
    .reply [.load zenMachine { granted with activeProcessorCount := 1 }] addedLater rfl zenMachine (amdIoctl ioctlGetData)
      (by decide +kernel)
  refine ⟨by decide +kernel, readings_in_range exactOps ?_ ?_ .amd true reply [reply, []] ?_⟩
  · intro a b hab
    show (a.toNat : ℚ) ≤ b.toNat
    exact_mod_cast UInt32.le_iff_toNat_le.mp hab
  · intro x y hxy
    show x / 1000 ≤ y / 1000
    exact div_le_div_of_nonneg_right hxy (by norm_num)
  · simp only [List.forall_mem_cons, hanswered, Answered.none, true_and]
    exact fun _ h => nomatch h

end HardwareMonitor.SystemInfo
