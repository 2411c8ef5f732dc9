/-
  HardwareMonitor.SystemInfo.NvidiaMetrics — `NvidiaLiveGPUMetrics::fetchMetrics`: what a
  poll of an NVIDIA card publishes, whatever the SDK answers.

  An error of the SDK is only logged, and what the code then reads is the structure as it
  was initialised. The average is a truncating division by the number of sensors, the
  hotspot a maximum that starts at 0. Proved of every answer: the poll is defined and
  publishes minimum ≤ average ≤ hotspot = maximum exactly if there is a sensor, the array
  holds the sensors counted, their sums are ints, and one of them is not below zero
  (`thermal_published_iff`).
-/

import Mathlib.Algebra.Order.BigOperators.Group.List
import Mathlib.Algebra.Order.Ring.Int
import Mathlib.Data.List.Induction
import HardwareMonitor.SystemInfo.CpuMetrics

namespace HardwareMonitor.SystemInfo.NvidiaLiveGPUMetrics

/-! ## What the SDK answers -/

/-- `NV_GPU_THERMAL_SETTINGS`: how many sensors, and the `currentTemp` of each element of
    the array, which is as long as the SDK has it. -/
structure ThermalSettings where
  count : UInt32
  sensor : List Int32
  short : sensor.length < 2 ^ 31

/-- `NV_GPU_THERMAL_SETTINGS ts = {}` -/
def ThermalSettings.zero (length : Nat) (short : length < 2 ^ 31) : ThermalSettings :=
  ⟨0, List.replicate length 0, by rwa [List.length_replicate]⟩

/-- `NV_GPU_PUBLIC_CLOCK_ID`, by the cases of the code. -/
inductive ClockId where
  | graphics
  | memory
  | processor
  | video
  | other (id : UInt32)
  deriving DecidableEq, Repr

/-- What is read for an index, inside the array or not: no thermal sensor depends on it. -/
structure PstatesInfo where
  numClocks : UInt32
  domainId : Nat → ClockId

structure ClockFrequency where
  isPresent : Bool
  frequency : UInt32

structure Utilization where
  isPresent : Bool
  percentage : UInt32

/-- `utilization`, at the three domains the code reads. -/
structure DynamicPstates where
  graphics : Utilization
  frameBuffer : Utilization
  video : Utilization

/-- The answers to one poll: nothing where the call fails. -/
structure Answers where
  thermalLength : Nat
  thermalShort : thermalLength < 2 ^ 31
  thermalSettings : Option ThermalSettings
  pstates : Option PstatesInfo
  clockFrequencies : Option (ClockId → ClockFrequency)
  dynamicPstates : Option DynamicPstates
  tachReading : Option UInt32

/-- The thermal settings `fetchMetrics` reads. -/
def Answers.ts (answers : Answers) : ThermalSettings :=
  answers.thermalSettings.getD (.zero answers.thermalLength answers.thermalShort)

/-- What the code does with a `float`. A cast from int rounds: it keeps the order, and a
    number below zero stays below zero. -/
structure FloatOps (F : Type) [LinearOrder F] where
  ofInt : Int → F
  ofNvU32 : UInt32 → F
  /-- `* 0.001f` -/
  thousandth : F → F
  zero : F
  ofInt_mono : ∀ a b, a ≤ b → ofInt a ≤ ofInt b
  ofInt_neg : ∀ n < 0, ofInt n < ofInt 0

/-! ## The two loops -/

inductive Fault where
  | outOfBounds
  | overflow
  | divisionByZero
  deriving DecidableEq, Repr

def InRange (n : Int) : Prop := -2 ^ 31 ≤ n ∧ n < 2 ^ 31

instance (n : Int) : Decidable (InRange n) := inferInstanceAs (Decidable (_ ∧ _))

/-- `a + b` of two ints. -/
def addInt (a b : Int) : Except Fault Int := if InRange (a + b) then .ok (a + b) else .error .overflow

/-- `ts.sensor[i].currentTemp` -/
def ThermalSettings.currentTemp (ts : ThermalSettings) (i : Nat) : Except Fault Int :=
  match ts.sensor[i]? with
  | some temp => .ok temp.toInt
  | none => .error .outOfBounds

def avgTemp (ts : ThermalSettings) : Except Fault Int := do
  let sum ← (List.range ts.count.toNat).foldlM (fun sum i => do addInt sum (← ts.currentTemp i)) 0
  let count := ts.count.toInt32.toInt
  if count = 0 then .error .divisionByZero
  else .ok (sum.tdiv count)

def hotspotTemp (ts : ThermalSettings) : Except Fault Int :=
  (List.range ts.count.toNat).foldlM (fun max i => do
    let temp ← ts.currentTemp i
    return if temp > max then temp else max) 0

/-! ## The poll -/

section

variable {F : Type} [LinearOrder F] (ops : FloatOps F)

/-- The loop over the clocks of the first performance state. -/
def fetchClocks (answers : Answers) (devSensors : List (DeviceSensor F)) : List (DeviceSensor F) :=
  match answers.pstates with
  | none => devSensors
  | some pstateInfo =>
    (List.range pstateInfo.numClocks.toNat).foldl (fun devSensors c =>
      let clkId := pstateInfo.domainId c
      -- a failed call leaves every domain absent
      match answers.clockFrequencies.map (· clkId) with
      | none => devSensors
      | some domain =>
        if domain.isPresent then
          let mhz := ops.thousandth (ops.ofNvU32 domain.frequency)
          match clkId with
          | .graphics => addSensor .clock "GPU Graphics Clock" mhz devSensors
          | .memory => addSensor .clock "GPU Memory Clock" mhz devSensors
          | .processor => addSensor .clock "GPU Processor Clock" mhz devSensors
          | .video => addSensor .clock "GPU Video Clock" mhz devSensors
          | .other _ => devSensors
        else devSensors) devSensors

def addUtilization (name : String) (util : Utilization) (devSensors : List (DeviceSensor F)) : List (DeviceSensor F) :=
  if util.isPresent then addSensor .usage name (ops.ofNvU32 util.percentage) devSensors else devSensors

def fetchUtilization (answers : Answers) (devSensors : List (DeviceSensor F)) : List (DeviceSensor F) :=
  match answers.dynamicPstates with
  | none => devSensors
  | some util =>
    addUtilization ops "GPU Video Engine Utilization" util.video
      (addUtilization ops "GPU Frame Buffer Utilization" util.frameBuffer
        (addUtilization ops "GPU Graphics Utilization" util.graphics devSensors))

def fetchFan (answers : Answers) (devSensors : List (DeviceSensor F)) : List (DeviceSensor F) :=
  match answers.tachReading with
  | some fanSpd => addSensor .fanSpeed "GPU Fan Speed" (ops.ofNvU32 fanSpd) devSensors
  | none => addSensor .fanSpeed "GPU Fan Speed" ops.zero devSensors

/-- `fetchMetrics`: a device without a handle polls nothing. -/
def fetchMetrics (handle : Bool) (answers : Answers) (devSensors : List (DeviceSensor F)) :
    Except Fault (List (DeviceSensor F)) := do
  if !handle then return devSensors
  let average ← avgTemp answers.ts
  let devSensors := addSensor .temperature "GPU Avg Temp" (ops.ofInt average) devSensors
  let hotspot ← hotspotTemp answers.ts
  let devSensors := addSensor .temperature "GPU Hotspot Temp" (ops.ofInt hotspot) devSensors
  return fetchFan ops answers (fetchUtilization ops answers (fetchClocks ops answers devSensors))

end

/-! ## Loops over the sensors counted -/

/-- The temperatures of the sensors counted. -/
def ThermalSettings.temps (ts : ThermalSettings) : List Int := (ts.sensor.take ts.count.toNat).map Int32.toInt

theorem except_bind_ok {ε α β : Type} {x : Except ε α} {f : α → Except ε β} {b : β} :
    x >>= f = .ok b ↔ ∃ a, x = .ok a ∧ f a = .ok b := by
  cases x with
  | error e => simp [bind, Except.bind]
  | ok a => simp [bind, Except.bind]

/-- A loop that reads sensor after sensor gets through exactly if the array has them, and
    then it is a loop over their temperatures. -/
theorem forSensors_ok {β : Type} (ts : ThermalSettings) (f : β → Int → Except Fault β) (init final : β) (n : Nat) :
    (List.range n).foldlM (fun acc i => do f acc (← ts.currentTemp i)) init = .ok final ↔
      n ≤ ts.sensor.length ∧ ((ts.sensor.take n).map Int32.toInt).foldlM f init = .ok final := by
  induction n generalizing final with
  | zero => simp
  | succ n ih =>
    rw [List.range_succ, List.foldlM_append, except_bind_ok]
    simp only [ih, List.foldlM_cons, List.foldlM_nil, bind_pure, except_bind_ok]
    by_cases hn : n < ts.sensor.length
    · have hread : ts.currentTemp n = .ok ts.sensor[n].toInt := by
        rw [ThermalSettings.currentTemp, List.getElem?_eq_getElem hn]
      rw [List.take_succ_eq_append_getElem hn, List.map_append, List.foldlM_append, except_bind_ok]
      simp only [hread, List.map_cons, List.map_nil, List.foldlM_cons, List.foldlM_nil, bind_pure, Except.ok.injEq,
        exists_eq_left']
      exact ⟨fun ⟨a, h, hf⟩ => ⟨hn, a, h.2, hf⟩, fun ⟨_, a, h, hf⟩ => ⟨a, ⟨Nat.le_of_lt hn, h⟩, hf⟩⟩
    · have hread : ts.currentTemp n = .error .outOfBounds := by
        rw [ThermalSettings.currentTemp, List.getElem?_eq_none (by omega)]
      simp only [hread, reduceCtorEq, false_and, exists_false, and_false, false_iff, not_and]
      omega

/-- The sums an accumulating loop goes through. -/
def SumsFit (temps : List Int) : Prop := ∀ k ≤ temps.length, InRange (temps.take k).sum

theorem sum_ok_iff (temps : List Int) (sum : Int) :
    temps.foldlM addInt 0 = .ok sum ↔ sum = temps.sum ∧ SumsFit temps := by
  induction temps using List.reverseRecOn generalizing sum with
  | nil =>
    have hzero : SumsFit [] := fun k _ => by simp [InRange]
    simp only [List.foldlM_nil, List.sum_nil, hzero, and_true]
    exact ⟨fun h => (Except.ok.inj h).symm, fun h => h ▸ rfl⟩
  | append_singleton temps temp ih =>
    rw [List.foldlM_append, except_bind_ok]
    simp only [ih, List.foldlM_cons, List.foldlM_nil, bind_pure, List.sum_append, List.sum_cons, List.sum_nil, Int.add_zero]
    have hfit : SumsFit (temps ++ [temp]) ↔ SumsFit temps ∧ InRange (temps.sum + temp) := by
      constructor
      · intro h
        refine ⟨fun k hk => ?_, ?_⟩
        · have hk' := h k (by rw [List.length_append]; omega)
          rwa [List.take_append_of_le_length hk] at hk'
        · have hall := h (temps ++ [temp]).length (Nat.le_refl _)
          rwa [List.take_length, List.sum_append, List.sum_singleton] at hall
      · intro ⟨h, hlast⟩ k hk
        by_cases hk' : k ≤ temps.length
        · rw [List.take_append_of_le_length hk']
          exact h k hk'
        · rw [List.take_of_length_le (by rw [List.length_append, List.length_singleton]; omega), List.sum_append,
            List.sum_singleton]
          exact hlast
    rw [hfit]
    constructor
    · intro ⟨a, ⟨ha, hsums⟩, hadd⟩
      unfold addInt at hadd
      rw [ha] at hadd
      split at hadd
      · rename_i hrange
        exact ⟨(Except.ok.inj hadd).symm, hsums, hrange⟩
      · cases hadd
    · intro ⟨hsum, hsums, hrange⟩
      refine ⟨temps.sum, ⟨rfl, hsums⟩, ?_⟩
      rw [addInt, if_pos hrange, hsum]

/-! ## Average and hotspot -/

section

variable {ts : ThermalSettings}

theorem length_temps (h : ts.count.toNat ≤ ts.sensor.length) : ts.temps.length = ts.count.toNat := by
  rw [ThermalSettings.temps, List.length_map, List.length_take, Nat.min_eq_left h]

/-- `static_cast<int>(ts.count)` of a number of sensors there are. -/
theorem count_toInt (h : ts.count.toNat ≤ ts.sensor.length) : ts.count.toInt32.toInt = ts.count.toNat := by
  have hshort := ts.short
  rw [← Int32.toInt_toBitVec, UInt32.toBitVec_toInt32, BitVec.toInt_eq_toNat_of_lt, UInt32.toNat_toBitVec]
  rw [UInt32.toNat_toBitVec]
  omega

theorem avgTemp_ok_iff (average : Int) :
    avgTemp ts = .ok average ↔ (0 < ts.count.toNat ∧ ts.count.toNat ≤ ts.sensor.length ∧ SumsFit ts.temps) ∧
      average = ts.temps.sum.tdiv ts.temps.length := by
  rw [avgTemp, except_bind_ok]
  simp only [forSensors_ok ts addInt]
  rw [← ThermalSettings.temps]
  simp only [sum_ok_iff]
  constructor
  · intro ⟨sum, ⟨hlength, hsum, hfit⟩, hdiv⟩
    rw [count_toInt hlength] at hdiv
    split at hdiv
    · cases hdiv
    · rename_i hcount
      refine ⟨⟨by omega, hlength, hfit⟩, ?_⟩
      rw [length_temps hlength, ← hsum]
      exact (Except.ok.inj hdiv).symm
  · intro ⟨⟨hcount, hlength, hfit⟩, haverage⟩
    refine ⟨_, ⟨hlength, rfl, hfit⟩, ?_⟩
    rw [count_toInt hlength, if_neg (by omega), haverage, length_temps hlength]

theorem hotspotTemp_ok_iff (hotspot : Int) :
    hotspotTemp ts = .ok hotspot ↔ ts.count.toNat ≤ ts.sensor.length ∧
      hotspot = ts.temps.foldl (fun max temp => if temp > max then temp else max) 0 := by
  rw [hotspotTemp, forSensors_ok ts (fun max temp => pure (if temp > max then temp else max)), ← ThermalSettings.temps,
    List.foldlM_pure]
  exact and_congr_right fun _ => ⟨fun h => (Except.ok.inj h).symm, fun h => h ▸ rfl⟩

end

/-- Truncation keeps an average between the least and the greatest. -/
theorem average_between {temps : List Int} {lo hi : Int} (hne : temps ≠ []) (hlo : ∀ t ∈ temps, lo ≤ t)
    (hhi : ∀ t ∈ temps, t ≤ hi) : lo ≤ temps.sum.tdiv temps.length ∧ temps.sum.tdiv temps.length ≤ hi := by
  have hpos : (0 : Int) < temps.length := by
    have := List.length_pos_iff.mpr hne
    omega
  have hlow : lo * temps.length ≤ temps.sum := by
    have h := List.card_nsmul_le_sum temps lo hlo
    rwa [nsmul_eq_mul, Int.mul_comm] at h
  have hhigh : temps.sum ≤ hi * temps.length := by
    have h := List.sum_le_card_nsmul temps hi hhi
    rwa [nsmul_eq_mul, Int.mul_comm] at h
  constructor
  · calc lo = (lo * temps.length).tdiv temps.length := (Int.mul_tdiv_cancel lo (Int.ne_of_gt hpos)).symm
      _ ≤ temps.sum.tdiv temps.length := Int.tdiv_le_tdiv hpos hlow
  · calc temps.sum.tdiv temps.length ≤ (hi * temps.length).tdiv temps.length := Int.tdiv_le_tdiv hpos hhigh
      _ = hi := Int.mul_tdiv_cancel hi (Int.ne_of_gt hpos)

/-- The loop for the hotspot is a maximum. -/
theorem hotspot_eq_max (temps : List Int) (start : Int) :
    temps.foldl (fun max temp => if temp > max then temp else max) start = temps.foldl max start := by
  refine List.foldl_ext _ _ _ fun acc temp _ => ?_
  split <;> omega

/-! ## What is published -/

section

variable {F : Type}

/-- The reading of the sensor of that name and type. -/
def published (type : SensorType) (name : String) (devSensors : List (DeviceSensor F)) : Option F :=
  (devSensors.find? fun sensor => sensor.key = (name, type)).map (·.value)

theorem published_cons (type : SensorType) (name : String) (sensor : DeviceSensor F) (devSensors : List (DeviceSensor F)) :
    published type name (sensor :: devSensors) =
      if sensor.key = (name, type) then some sensor.value else published type name devSensors := by
  unfold published
  rw [List.find?_cons]
  by_cases hkey : sensor.key = (name, type)
  · simp only [hkey, decide_true, if_true, Option.map_some]
  · simp only [hkey, decide_false, if_false]

theorem published_addSensor (type type' : SensorType) (name name' : String) (value : F) (devSensors : List (DeviceSensor F)) :
    published type name (addSensor type' name' value devSensors) =
      if (name', type') = (name, type) then some value else published type name devSensors := by
  induction devSensors with
  | nil => exact published_cons type name ⟨name', type', value⟩ []
  | cons sensor devSensors ih =>
    rw [addSensor]
    by_cases hfound : sensor.name = name' ∧ sensor.type = type'
    · obtain ⟨rfl, rfl⟩ := hfound
      rw [if_pos ⟨rfl, rfl⟩, published_cons, published_cons]
      by_cases hkey : (sensor.name, sensor.type) = (name, type)
      · simp only [DeviceSensor.key, hkey, if_true]
      · simp only [DeviceSensor.key, hkey, if_false]
    · rw [if_neg hfound, published_cons, published_cons, ih]
      by_cases hkey : sensor.key = (name, type)
      · have hother : (name', type') ≠ (name, type) := fun heq => hfound (Prod.mk.inj (hkey.trans heq.symm))
        rw [if_pos hkey, if_neg hother, if_pos hkey]
      · rw [if_neg hkey, if_neg hkey]

/-- A sensor of another type is not in the way. -/
theorem published_addSensor_other {type type' : SensorType} (h : type' ≠ type) (name name' : String) (value : F)
    (devSensors : List (DeviceSensor F)) :
    published type name (addSensor type' name' value devSensors) = published type name devSensors := by
  rw [published_addSensor, if_neg fun heq => h (Prod.mk.inj heq).2]

variable [LinearOrder F] (ops : FloatOps F) (answers : Answers) (name : String) (devSensors : List (DeviceSensor F))

theorem published_fetchClocks :
    published .temperature name (fetchClocks ops answers devSensors) = published .temperature name devSensors := by
  unfold fetchClocks
  cases answers.pstates with
  | none => rfl
  | some pstateInfo =>
    simp only
    generalize List.range pstateInfo.numClocks.toNat = indexes
    induction indexes generalizing devSensors with
    | nil => rfl
    | cons c indexes ih =>
      rw [List.foldl_cons, ih]
      cases answers.clockFrequencies with
      | none => rfl
      | some domain =>
        simp only [Option.map_some]
        split
        · split <;> first | rfl | exact published_addSensor_other (by decide) _ _ _ _
        · rfl

theorem published_addUtilization (domain : String) (util : Utilization) :
    published .temperature name (addUtilization ops domain util devSensors) = published .temperature name devSensors := by
  unfold addUtilization
  split
  · exact published_addSensor_other (by decide) _ _ _ _
  · rfl

theorem published_fetchUtilization :
    published .temperature name (fetchUtilization ops answers devSensors) = published .temperature name devSensors := by
  unfold fetchUtilization
  cases answers.dynamicPstates with
  | none => rfl
  | some util => simp only [published_addUtilization]

theorem published_fetchFan :
    published .temperature name (fetchFan ops answers devSensors) = published .temperature name devSensors := by
  unfold fetchFan
  split <;> exact published_addSensor_other (by decide) _ _ _ _

/-- A poll that is defined publishes both casts. -/
theorem fetchMetrics_publishes {sensors : List (DeviceSensor F)} (h : fetchMetrics ops true answers devSensors = .ok sensors) :
    ∃ average hotspot, avgTemp answers.ts = .ok average ∧ hotspotTemp answers.ts = .ok hotspot ∧
      published .temperature "GPU Avg Temp" sensors = some (ops.ofInt average) ∧
      published .temperature "GPU Hotspot Temp" sensors = some (ops.ofInt hotspot) := by
  simp only [fetchMetrics, Bool.not_true, Bool.false_eq_true, if_false, except_bind_ok] at h
  obtain ⟨average, haverage, hotspot, hhotspot, hsensors⟩ := h
  obtain rfl := Except.ok.inj hsensors
  refine ⟨average, hotspot, haverage, hhotspot, ?_, ?_⟩
  · rw [published_fetchFan, published_fetchUtilization, published_fetchClocks, published_addSensor, if_neg (by decide),
      published_addSensor, if_pos rfl]
  · rw [published_fetchFan, published_fetchUtilization, published_fetchClocks, published_addSensor, if_pos rfl]

/-- A poll is defined when both loops are. -/
theorem fetchMetrics_ok {average hotspot : Int} (haverage : avgTemp answers.ts = .ok average)
    (hhotspot : hotspotTemp answers.ts = .ok hotspot) : ∃ sensors, fetchMetrics ops true answers devSensors = .ok sensors := by
  simp only [fetchMetrics, Bool.not_true, Bool.false_eq_true, if_false, except_bind_ok]
  exact ⟨_, average, haverage, hotspot, hhotspot, rfl⟩

end

/-- Whatever the SDK answers and the device had before, a poll divides by no zero and
    publishes minimum ≤ average ≤ hotspot = maximum exactly if a sensor is counted, the
    array holds the sensors counted, every sum of their temperatures is an int, and one
    temperature is not below zero. -/
theorem thermal_published_iff {F : Type} [LinearOrder F] (ops : FloatOps F) (answers : Answers)
    (devSensors : List (DeviceSensor F)) :
    (∃ sensors lo hi average hotspot, fetchMetrics ops true answers devSensors = .ok sensors ∧
      answers.ts.temps.min? = some lo ∧ answers.ts.temps.max? = some hi ∧
      published .temperature "GPU Avg Temp" sensors = some average ∧
      published .temperature "GPU Hotspot Temp" sensors = some hotspot ∧
      ops.ofInt lo ≤ average ∧ average ≤ hotspot ∧ hotspot = ops.ofInt hi) ↔
    0 < answers.ts.count.toNat ∧ answers.ts.count.toNat ≤ answers.ts.sensor.length ∧ SumsFit answers.ts.temps ∧
      ∃ temp ∈ answers.ts.temps, 0 ≤ temp := by
  constructor
  · intro ⟨sensors, lo, hi, average, hotspot, hfetch, hlo, hhi, haverage, hhotspot, hmin, hmax, heq⟩
    obtain ⟨avg, hot, havg, hhot, hpublished, hpublished'⟩ := fetchMetrics_publishes ops answers devSensors hfetch
    obtain ⟨⟨hcount, hlength, hfit⟩, -⟩ := (avgTemp_ok_iff avg).mp havg
    refine ⟨hcount, hlength, hfit, hi, (List.max?_eq_some_iff.mp hhi).1, ?_⟩
    -- from below zero the loop leaves 0, which is above the maximum
    by_contra hneg
    have hhot0 : hot = 0 := by
      rw [((hotspotTemp_ok_iff hot).mp hhot).2, hotspot_eq_max, List.foldl_max, hhi, Option.getD_some]
      omega
    rw [hhotspot, Option.some.injEq, hhot0] at hpublished'
    exact absurd (ops.ofInt_neg hi (by omega)) (by rw [← heq, hpublished']; exact lt_irrefl _)
  · intro ⟨hcount, hlength, hfit, temp, htemp, hnonneg⟩
    have hne : answers.ts.temps ≠ [] := List.ne_nil_of_mem htemp
    obtain ⟨lo, hlo⟩ := Option.isSome_iff_exists.mp (List.isSome_min?_of_ne_nil hne)
    obtain ⟨hi, hhi⟩ := Option.isSome_iff_exists.mp (List.isSome_max?_of_ne_nil hne)
    obtain ⟨-, hlow⟩ := List.min?_eq_some_iff.mp hlo
    obtain ⟨-, hhigh⟩ := List.max?_eq_some_iff.mp hhi
    obtain ⟨hloavg, havghi⟩ := average_between hne hlow hhigh
    have havg : avgTemp answers.ts = .ok (answers.ts.temps.sum.tdiv answers.ts.temps.length) :=
      (avgTemp_ok_iff _).mpr ⟨⟨hcount, hlength, hfit⟩, rfl⟩
    have hhot : hotspotTemp answers.ts = .ok hi := by
      have hpos := hhigh temp htemp
      rw [hotspotTemp_ok_iff, hotspot_eq_max, List.foldl_max, hhi, Option.getD_some]
      exact ⟨hlength, by omega⟩
    obtain ⟨sensors, hfetch⟩ := fetchMetrics_ok ops answers devSensors havg hhot
    obtain ⟨avg', hot', havg', hhot', hpublished, hpublished'⟩ := fetchMetrics_publishes ops answers devSensors hfetch
    obtain rfl := Except.ok.inj (havg.symm.trans havg')
    obtain rfl := Except.ok.inj (hhot.symm.trans hhot')
    exact ⟨sensors, lo, hi, _, _, hfetch, hlo, hhi, hpublished, hpublished', ops.ofInt_mono _ _ hloavg,
      ops.ofInt_mono _ _ havghi, rfl⟩

/-- Casts that lose nothing. -/
def wholeOps : FloatOps Int where
  ofInt n := n
  ofNvU32 n := n.toNat
  thousandth n := n / 1000
  zero := 0
  ofInt_mono _ _ h := h
  ofInt_neg _ h := h

/-- `NvAPI_GPU_GetThermalSettings` fails: an SDK with room for three sensors. -/
def thermalFails : Answers := ⟨3, by decide, none, none, none, none, none⟩

theorem failed_settings_divide_by_zero :
    fetchMetrics wholeOps true thermalFails [] = .error .divisionByZero ∧
      ¬ ∃ sensors lo hi average hotspot, fetchMetrics wholeOps true thermalFails [] = .ok sensors ∧
        thermalFails.ts.temps.min? = some lo ∧ thermalFails.ts.temps.max? = some hi ∧
        published .temperature "GPU Avg Temp" sensors = some average ∧
        published .temperature "GPU Hotspot Temp" sensors = some hotspot ∧
        wholeOps.ofInt lo ≤ average ∧ average ≤ hotspot ∧ hotspot = wholeOps.ofInt hi := by
  have hfails : fetchMetrics wholeOps true thermalFails [] = .error .divisionByZero := by decide +kernel
  refine ⟨hfails, fun ⟨sensors, _, _, _, _, hok, _⟩ => ?_⟩
  rw [hfails] at hok
  cases hok

end HardwareMonitor.SystemInfo.NvidiaLiveGPUMetrics
