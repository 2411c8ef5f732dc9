/-
  HardwareMonitor.SystemInfo.AdlxMetrics — `AMDLiveGPUMetrics::fetchADLXMetrics`: a poll of
  an AMD card through ADLX. A call that fails leaves its out-parameter as it was.

  Each metric asks first whether it is supported, all seven into one variable, and no
  result of these calls is looked at. So a query that fails answers with what the query
  before it said. Of the used VRAM too the result is not looked at, and a failed read
  counts as 0. Proved of every combination of answers: a poll stores only what its own
  query and reads have earned exactly if neither of the two happens where it shows
  (`gated_iff`).
-/

import HardwareMonitor.SystemInfo.CpuMetrics

namespace HardwareMonitor.SystemInfo.AdlxMetrics

open HardwareMonitor.Lib.Upsert

/-! ## What the library answers -/

/-- What is polled, each with a support query and a read. -/
inductive Metric where
  | gpuTemperature
  | gpuHotspotTemperature
  | gpuClockSpeed
  | gpuVramClockSpeed
  | gpuUsage
  | gpuVram
  | gpuFanSpeed
  deriving DecidableEq, Repr

/-- The answers to one poll: nothing where the call fails. -/
structure Answers where
  /-- `GetSupportedGPUMetrics`, `GetCurrentAllMetrics` and `GetGPUMetrics` succeed and give
      an interface. -/
  metricsSupport : Bool
  allMetrics : Bool
  gpuMetrics : Bool
  isSupported : Metric → Option Bool
  /-- The reads of `gpu_metrics`; for the VRAM the megabytes used. -/
  read : Metric → Option Rat
  /-- `GetGPUVRAMRange` -/
  gpuVramRange : Option (Rat × Rat)

/-- The interfaces the poll needs are there. -/
def Answers.interfaces (a : Answers) : Bool := a.metricsSupport && a.allMetrics && a.gpuMetrics

/-! ## The poll -/

/-- `supported`, the sensors, and the `addSensor` calls made so far. -/
structure Poll where
  supported : Bool
  devSensors : List (DeviceSensor Rat)
  added : List (DeviceSensor Rat)

def Poll.addSensor (type : SensorType) (name : String) (value : Rat) (s : Poll) : Poll :=
  { s with
    devSensors := SystemInfo.addSensor type name value s.devSensors
    added := s.added ++ [⟨name, type, value⟩] }

/-- `metrics_support->IsSupported...(&supported)` -/
def Poll.query (answer : Option Bool) (s : Poll) : Poll := { s with supported := answer.getD s.supported }

/-- A metric with one read, whose result is looked at. -/
def fetchMetric (type : SensorType) (name : String) (answer : Option Bool) (read : Option Rat) (s : Poll) : Poll :=
  let s := s.query answer
  if s.supported then
    match read with
    | some value => s.addSensor type name value
    | none => s
  else s

def fetchTemperature (a : Answers) : Poll → Poll :=
  fetchMetric .temperature "GPU Edge Temperature" (a.isSupported .gpuTemperature) (a.read .gpuTemperature)

def fetchHotspotTemperature (a : Answers) : Poll → Poll :=
  fetchMetric .temperature "GPU Hotspot Temperature" (a.isSupported .gpuHotspotTemperature) (a.read .gpuHotspotTemperature)

def fetchClockSpeed (a : Answers) : Poll → Poll :=
  fetchMetric .clock "Core Clock Speed" (a.isSupported .gpuClockSpeed) (a.read .gpuClockSpeed)

def fetchVramClockSpeed (a : Answers) : Poll → Poll :=
  fetchMetric .clock "Memory Clock Speed" (a.isSupported .gpuVramClockSpeed) (a.read .gpuVramClockSpeed)

def fetchUsage (a : Answers) : Poll → Poll :=
  fetchMetric .usage "GPU Utilization" (a.isSupported .gpuUsage) (a.read .gpuUsage)

/-- The VRAM has two reads, and neither result is looked at. -/
def fetchVram (a : Answers) (s : Poll) : Poll :=
  let s := s.query (a.isSupported .gpuVram)
  if s.supported then
    let vramUsedMb := (a.read .gpuVram).getD 0
    let vramMax := (a.gpuVramRange.getD (0, 0)).2
    if vramMax > 0 then s.addSensor .usage "Frame Buffer Utilization" (vramUsedMb / vramMax * 100)
    else s
  else s

def fetchFanSpeed (a : Answers) : Poll → Poll :=
  fetchMetric .fanSpeed "Fan Speed" (a.isSupported .gpuFanSpeed) (a.read .gpuFanSpeed)

def fetchADLXMetrics (a : Answers) (devSensors : List (DeviceSensor Rat)) : Poll :=
  let s : Poll := ⟨false, devSensors, []⟩
  if !a.metricsSupport then s
  else if !a.allMetrics then s
  else if !a.gpuMetrics then s
  else
    fetchFanSpeed a <| fetchVram a <| fetchUsage a <| fetchVramClockSpeed a <| fetchClockSpeed a <|
      fetchHotspotTemperature a <| fetchTemperature a s

/-! ## What a poll adds -/

/-- The metrics, in the order they are polled. -/
def Metric.order : List Metric :=
  [.gpuTemperature, .gpuHotspotTemperature, .gpuClockSpeed, .gpuVramClockSpeed, .gpuUsage, .gpuVram, .gpuFanSpeed]

/-- The sensor a metric is shown as. -/
def Metric.key : Metric → String × SensorType
  | .gpuTemperature => ("GPU Edge Temperature", .temperature)
  | .gpuHotspotTemperature => ("GPU Hotspot Temperature", .temperature)
  | .gpuClockSpeed => ("Core Clock Speed", .clock)
  | .gpuVramClockSpeed => ("Memory Clock Speed", .clock)
  | .gpuUsage => ("GPU Utilization", .usage)
  | .gpuVram => ("Frame Buffer Utilization", .usage)
  | .gpuFanSpeed => ("Fan Speed", .fanSpeed)

theorem Metric.key_injective : Function.Injective Metric.key := by
  intro m m'
  cases m <;> cases m' <;> decide

theorem Metric.mem_order (m : Metric) : m ∈ Metric.order := by cases m <;> decide

/-- What the last query that succeeded before the metric's own said; false if none did. -/
def Answers.saidBefore (a : Answers) (m : Metric) : Bool :=
  (Metric.order.takeWhile (· ≠ m)).foldl (fun said m => (a.isSupported m).getD said) false

/-- `supported`, when the metric is decided on. -/
def Answers.supported (a : Answers) (m : Metric) : Bool := (a.isSupported m).getD (a.saidBefore m)

/-- The value the poll has for a supported metric. -/
def Answers.value (a : Answers) : Metric → Option Rat
  | .gpuVram =>
    let vramMax := (a.gpuVramRange.getD (0, 0)).2
    if vramMax > 0 then some ((a.read .gpuVram).getD 0 / vramMax * 100) else none
  | m => a.read m

/-- What the poll adds for a metric, with `supported` as it is. -/
def written (a : Answers) (supported : Bool) (m : Metric) : List (DeviceSensor Rat) :=
  if supported then (a.value m).toList.map fun value => ⟨m.key.1, m.key.2, value⟩ else []

/-- A step of the poll: the query, and what is added. -/
def step (a : Answers) (m : Metric) (s : Poll) : Poll :=
  let s := s.query (a.isSupported m)
  { s with
    devSensors := upsertAll DeviceSensor.key (written a s.supported m) s.devSensors
    added := s.added ++ written a s.supported m }

theorem fetchMetric_eq {a : Answers} {m : Metric} {type : SensorType} {name : String} (hkey : m.key = (name, type))
    (hvalue : a.value m = a.read m) (s : Poll) :
    fetchMetric type name (a.isSupported m) (a.read m) s = step a m s := by
  simp only [fetchMetric, step, written, hvalue, hkey]
  by_cases hsupported : (s.query (a.isSupported m)).supported = true
  · rw [if_pos hsupported, if_pos hsupported]
    cases a.read m with
    | none => simp
    | some value => simp [Poll.addSensor, addSensor_eq, upsertAll]
  · rw [if_neg hsupported, if_neg hsupported]
    simp

theorem fetchVram_eq (a : Answers) (s : Poll) : fetchVram a s = step a .gpuVram s := by
  simp only [fetchVram, step, written, Answers.value]
  by_cases hsupported : (s.query (a.isSupported .gpuVram)).supported = true
  · rw [if_pos hsupported, if_pos hsupported]
    split
    · simp [Poll.addSensor, addSensor_eq, upsertAll, Metric.key]
    · simp
  · rw [if_neg hsupported, if_neg hsupported]
    simp

/-- A poll that gets the interfaces takes the seven steps. -/
theorem fetchADLXMetrics_eq {a : Answers} (h : a.interfaces = true) (devSensors : List (DeviceSensor Rat)) :
    fetchADLXMetrics a devSensors = Metric.order.foldl (fun s m => step a m s) ⟨false, devSensors, []⟩ := by
  simp only [Answers.interfaces, Bool.and_eq_true] at h
  obtain ⟨⟨hsupport, hall⟩, hgpu⟩ := h
  simp only [fetchADLXMetrics, hsupport, hall, hgpu, Bool.not_true, Bool.false_eq_true, if_false, fetchTemperature,
    fetchHotspotTemperature, fetchClockSpeed, fetchVramClockSpeed, fetchUsage, fetchFanSpeed, fetchVram_eq]
  simp only [Metric.order, List.foldl_cons, List.foldl_nil]
  rw [fetchMetric_eq (m := .gpuTemperature) rfl rfl, fetchMetric_eq (m := .gpuHotspotTemperature) rfl rfl,
    fetchMetric_eq (m := .gpuClockSpeed) rfl rfl, fetchMetric_eq (m := .gpuVramClockSpeed) rfl rfl,
    fetchMetric_eq (m := .gpuUsage) rfl rfl, fetchMetric_eq (m := .gpuFanSpeed) rfl rfl]

theorem fetchADLXMetrics_of_missing {a : Answers} (h : a.interfaces = false) (devSensors : List (DeviceSensor Rat)) :
    fetchADLXMetrics a devSensors = ⟨false, devSensors, []⟩ := by
  rw [fetchADLXMetrics]
  split
  · rfl
  · split
    · rfl
    · split
      · rfl
      · rename_i hsupport hall hgpu
        simp [Answers.interfaces] at h hsupport hall hgpu
        simp [h hsupport hall] at hgpu

/-- What the poll adds is what its metrics write, each with `supported` as it is then. -/
theorem added_eq {a : Answers} (h : a.interfaces = true) (devSensors : List (DeviceSensor Rat)) :
    (fetchADLXMetrics a devSensors).added = Metric.order.flatMap fun m => written a (a.supported m) m := by
  rw [fetchADLXMetrics_eq h]
  simp only [Metric.order, List.foldl_cons, List.foldl_nil, List.flatMap_cons, List.flatMap_nil, List.append_nil, step,
    Poll.query, List.nil_append, List.append_assoc]
  rfl

/-- The sensors after a poll are those before it with the `addSensor` calls made. -/
theorem devSensors_eq (a : Answers) (devSensors : List (DeviceSensor Rat)) :
    (fetchADLXMetrics a devSensors).devSensors =
      upsertAll DeviceSensor.key (fetchADLXMetrics a devSensors).added devSensors := by
  have hsteps : ∀ (ms : List Metric) (s : Poll), s.devSensors = upsertAll DeviceSensor.key s.added devSensors →
      (ms.foldl (fun s m => step a m s) s).devSensors =
        upsertAll DeviceSensor.key (ms.foldl (fun s m => step a m s) s).added devSensors := by
    intro ms
    induction ms with
    | nil => exact fun s hs => hs
    | cons m ms ih =>
      intro s hs
      refine ih (step a m s) ?_
      simp only [step, Poll.query, hs, upsertAll, List.foldl_append]
  cases h : a.interfaces with
  | true =>
    rw [fetchADLXMetrics_eq h]
    exact hsteps Metric.order _ rfl
  | false =>
    rw [fetchADLXMetrics_of_missing h]
    rfl

/-! ## Gating -/

/-- The metric's own query said that it is supported, and all that its value is computed
    from was read. -/
def Earned (a : Answers) (m : Metric) : Prop :=
  a.isSupported m = some true ∧ (a.read m).isSome ∧ (m = .gpuVram → a.gpuVramRange.isSome)

/-- Whatever the poll adds or updates is the sensor of a metric that has earned it. -/
def Gated (a : Answers) (devSensors : List (DeviceSensor Rat)) : Prop :=
  ∀ sensor ∈ (fetchADLXMetrics a devSensors).added, ∃ m : Metric, sensor.key = m.key ∧ Earned a m

/-- The code stores a value for the metric where it takes it for supported. -/
def Readable (a : Answers) (m : Metric) : Prop :=
  if m = .gpuVram then 0 < (a.gpuVramRange.getD (0, 0)).2 else (a.read m).isSome

instance (a : Answers) (m : Metric) : Decidable (Readable a m) :=
  inferInstanceAs (Decidable (if m = .gpuVram then 0 < (a.gpuVramRange.getD (0, 0)).2 else (a.read m).isSome))

/-- No query fails where the last one before it that succeeded said true and the metric
    has a value, and the used VRAM does not fail where the VRAM is supported and its range
    has a maximum. -/
def Answers.Consistent (a : Answers) : Prop :=
  (∀ m, a.isSupported m = none → a.saidBefore m = true → ¬ Readable a m) ∧
    (a.isSupported .gpuVram = some true → a.read .gpuVram = none → ¬ Readable a .gpuVram)

theorem value_isSome (a : Answers) (m : Metric) : (a.value m).isSome ↔ Readable a m := by
  by_cases hm : m = .gpuVram
  · obtain rfl := hm
    simp only [Answers.value, Readable, if_true]
    split <;> simp_all
  · rw [Readable, if_neg hm]
    cases m <;> first | exact Iff.rfl | exact absurd rfl hm

theorem range_of_readable {a : Answers} (h : Readable a .gpuVram) : a.gpuVramRange.isSome := by
  rw [Readable, if_pos rfl] at h
  cases hrange : a.gpuVramRange with
  | none => rw [hrange] at h; exact absurd h (by decide)
  | some range => rfl

/-- A metric that is written is written under its own key. -/
theorem written_nonempty (a : Answers) (m : Metric) :
    (∃ sensor, sensor ∈ written a (a.supported m) m) ↔ a.supported m = true ∧ Readable a m := by
  rw [← value_isSome, written]
  by_cases hsupported : a.supported m = true
  · rw [if_pos hsupported]
    cases a.value m <;> simp [hsupported]
  · rw [if_neg hsupported]
    simp [hsupported]

theorem key_of_written {a : Answers} {supported : Bool} {m : Metric} {sensor : DeviceSensor Rat}
    (h : sensor ∈ written a supported m) : sensor.key = m.key := by
  rw [written] at h
  split at h
  · obtain ⟨value, -, rfl⟩ := List.mem_map.mp h
    rfl
  · exact absurd h List.not_mem_nil

/-- A poll with its interfaces is gated exactly if each metric it writes has earned it. -/
theorem gated_iff_earned {a : Answers} (h : a.interfaces = true) (devSensors : List (DeviceSensor Rat)) :
    Gated a devSensors ↔ ∀ m, a.supported m = true → Readable a m → Earned a m := by
  rw [Gated, added_eq h]
  constructor
  · intro hgated m hsupported hreadable
    obtain ⟨sensor, hsensor⟩ := (written_nonempty a m).mpr ⟨hsupported, hreadable⟩
    obtain ⟨m', hkey, hearned⟩ := hgated sensor (List.mem_flatMap.mpr ⟨m, m.mem_order, hsensor⟩)
    rwa [Metric.key_injective ((key_of_written hsensor).symm.trans hkey)]
  · intro hearned sensor hsensor
    obtain ⟨m, -, hsensor⟩ := List.mem_flatMap.mp hsensor
    obtain ⟨hsupported, hreadable⟩ := (written_nonempty a m).mp ⟨sensor, hsensor⟩
    exact ⟨m, key_of_written hsensor, hearned m hsupported hreadable⟩

theorem earned_iff_consistent (a : Answers) :
    (∀ m, a.supported m = true → Readable a m → Earned a m) ↔ a.Consistent := by
  constructor
  · intro hearned
    refine ⟨fun m hquery hsaid hreadable => ?_, fun hquery hread hreadable => ?_⟩
    · have hown := (hearned m (by rw [Answers.supported, hquery]; exact hsaid) hreadable).1
      rw [hquery] at hown
      cases hown
    · have hused := (hearned .gpuVram (by rw [Answers.supported, hquery]; rfl) hreadable).2.1
      rw [hread] at hused
      cases hused
  · intro hconsistent m hsupported hreadable
    -- A failed query passes on what was said before, which must then be false.
    have hquery : a.isSupported m = some true := by
      rw [Answers.supported] at hsupported
      cases hown : a.isSupported m with
      | none =>
        rw [hown] at hsupported
        exact absurd hreadable (hconsistent.1 m hown hsupported)
      | some said =>
        rw [hown] at hsupported
        exact congrArg some hsupported
    refine ⟨hquery, ?_, fun hm => range_of_readable (hm ▸ hreadable)⟩
    by_cases hm : m = .gpuVram
    · obtain rfl := hm
      cases hread : a.read .gpuVram with
      | none => exact absurd hreadable (hconsistent.2 hquery hread)
      | some used => rfl
    · rwa [Readable, if_neg hm] at hreadable

/-- Exactly when a poll stores only what has been earned. -/
theorem gated_iff (a : Answers) (devSensors : List (DeviceSensor Rat)) :
    Gated a devSensors ↔ (a.interfaces = true → a.Consistent) := by
  cases h : a.interfaces with
  | true =>
    rw [gated_iff_earned h, earned_iff_consistent]
    exact ⟨fun hconsistent _ => hconsistent, fun hconsistent => hconsistent rfl⟩
  | false => simp [Gated, fetchADLXMetrics_of_missing h]

/-- The temperature is supported, and the query for the hotspot fails. -/
def failingQuery : Answers where
  metricsSupport := true
  allMetrics := true
  gpuMetrics := true
  isSupported
    | .gpuTemperature => some true
    | .gpuHotspotTemperature => none
    | _ => some false
  read _ := some 70
  gpuVramRange := none

/-- The hotspot is stored, on the word of the temperature. -/
theorem stale_support_stored :
    (fetchADLXMetrics failingQuery []).added =
        [⟨"GPU Edge Temperature", .temperature, 70⟩, ⟨"GPU Hotspot Temperature", .temperature, 70⟩] ∧
      ¬ ∀ a devSensors, Gated a devSensors := by
  refine ⟨by decide, fun hgated => ?_⟩
  have hconsistent := (earned_iff_consistent failingQuery).mp
    ((gated_iff_earned rfl []).mp (hgated failingQuery []))
  exact hconsistent.1 .gpuHotspotTemperature rfl (by decide) (by decide)

end HardwareMonitor.SystemInfo.AdlxMetrics
