/-
  HardwareMonitor.Drivers.EnergyMeter — an energy counter as its readers use it, apart
  from any driver: a meter keeps the last sample, reports the power since then, and
  stands at the new one.

  A package or core-domain counter is a register of 32 bits that wraps. The difference
  both drivers write out undoes one wrap (`energyDelta_toNat`), so over a run of samples
  no energy is lost or counted twice (`add_sum_energyDeltas`).
-/

import HardwareMonitor.Drivers.Metric
import HardwareMonitor.Lib.WrappingCounter

namespace HardwareMonitor.Drivers

open HardwareMonitor.Lib.WrappingCounter

/-! ## Samples -/

/-- One reading of an energy counter and of the clock. -/
structure Sample where
  energy : UInt32
  qpc : Int64
  deriving DecidableEq

/-- The sample a helper takes of the counter in register `addr` when the next hardware
    read is the one of `date`: the register, then the clock. -/
def sampleAt (m : Machine) (addr : UInt32) (date : Nat) : Sample :=
  ⟨(m.readmsr date addr &&& genmask 31 0).toUInt32, m.queryPerformanceCounter (date + 1)⟩

/-- The helper keeps the register's lower 32 bits. -/
theorem sampleAt_energy (m : Machine) (addr : UInt32) (date : Nat) :
    (sampleAt m addr date).energy.toNat = (m.readmsr date addr).toNat % UInt32.size := by
  have hmask : genmask 31 0 = 0xFFFFFFFF := by decide
  unfold sampleAt
  rw [hmask, UInt64.toNat_toUInt32, UInt64.toNat_and, show (0xFFFFFFFF : UInt64).toNat = 2 ^ 32 - 1 from rfl,
    Nat.and_two_pow_sub_one_eq_mod]
  exact Nat.mod_mod _ _

/-! ## Meters -/

/-- What a driver keeps for one counter. -/
structure EnergyMeter where
  supported : Bool
  energyUnitDivisor : UInt32
  qpcFreq : Int64
  /-- The last sample, once one has been taken. -/
  last : Option Sample

namespace EnergyMeter

/-- The counter exists, and its unit and the clock's are known. -/
structure Ready (e : EnergyMeter) : Prop where
  supported : e.supported = true
  divisor : e.energyUnitDivisor ≠ 0
  freq : 0 < e.qpcFreq

/-- The average power between two samples, in mW. -/
def power (e : EnergyMeter) (prev curr : Sample) : UInt32 :=
  let energyDelta := energyDelta curr.energy prev.energy
  let qpcDelta := (curr.qpc - prev.qpc).toUInt64
  let timeMs := (qpcDelta * 1000) / e.qpcFreq.toUInt64
  if timeMs = 0 then 0
  else
    let energyMj := (energyDelta.toUInt64 * 1000) / e.energyUnitDivisor.toUInt64
    ((energyMj * 1000) / timeMs).toUInt32

/-- What is reported with a new sample: 0 if it is the first. -/
def report (e : EnergyMeter) (curr : Sample) : UInt32 :=
  match e.last with
  | none => 0
  | some prev => e.power prev curr

/-- The meter stands at the new sample. -/
def advanceTo (e : EnergyMeter) (curr : Sample) : EnergyMeter := { e with last := some curr }

theorem Ready.advanceTo {e : EnergyMeter} (h : e.Ready) (curr : Sample) : (e.advanceTo curr).Ready :=
  ⟨h.supported, h.divisor, h.freq⟩

/-- What is reported with sample after sample. -/
def reports (e : EnergyMeter) : List Sample → List UInt32
  | [] => []
  | curr :: later => e.report curr :: (e.advanceTo curr).reports later

/-- Nothing for the first sample, then the power between every two neighbours. -/
def powers (e : EnergyMeter) : List Sample → List UInt32
  | [] => []
  | first :: later => 0 :: List.zipWith e.power (first :: later) later

theorem reports_since {e : EnergyMeter} {prev : Sample} (h : e.last = some prev) (samples : List Sample) :
    e.reports samples = List.zipWith e.power (prev :: samples) samples := by
  induction samples generalizing e prev with
  | nil => rfl
  | cons curr later ih =>
    rw [reports, ih rfl, report, h]
    rfl

/-- What a meter without a sample reports. -/
theorem reports_fresh {e : EnergyMeter} (h : e.last = none) (samples : List Sample) : e.reports samples = e.powers samples := by
  cases samples with
  | nil => rfl
  | cons first later =>
    rw [reports, reports_since rfl, report, h]
    rfl

end EnergyMeter

/-! ## The energy between samples -/

/-- The `energy_delta` of every two neighbouring samples. -/
def energyDeltas : List Sample → List UInt32
  | prev :: curr :: later => energyDelta curr.energy prev.energy :: energyDeltas (curr :: later)
  | _ => []

/-- The wrap branch is exact: 32-bit arithmetic loses nothing on either side of it. -/
theorem energyDelta_toNat (curr prev : UInt32) :
    (energyDelta curr prev).toNat = advance UInt32.size prev.toNat curr.toNat := by
  have hc : curr.toNat < 4294967296 := curr.toNat_lt
  have hp : prev.toNat < 4294967296 := prev.toNat_lt
  have hmax : (0xFFFFFFFF : UInt32).toNat = 4294967295 := rfl
  have hone : (1 : UInt32).toNat = 1 := rfl
  unfold energyDelta advance
  by_cases h : prev ≤ curr
  · rw [if_pos h, if_pos (UInt32.le_iff_toNat_le.mp h), UInt32.toNat_sub_of_le _ _ h]
  · have hwrap : curr.toNat < prev.toNat := UInt32.lt_iff_toNat_lt.mp (UInt32.not_le.mp h)
    rw [if_neg h, if_neg (Nat.not_le.mpr hwrap), UInt32.toNat_add, UInt32.toNat_add,
      UInt32.toNat_sub_of_le _ _ (UInt32.le_iff_toNat_le.mpr (by rw [hmax]; omega)), hmax, hone,
      show UInt32.size = 4294967296 from rfl]
    omega

theorem energyDeltas_advances (samples : List Sample) :
    (energyDeltas samples).map UInt32.toNat = advances UInt32.size (samples.map (·.energy.toNat)) := by
  induction samples with
  | nil => rfl
  | cons prev later ih =>
    cases later with
    | nil => rfl
    | cons curr later =>
      rw [energyDeltas, List.map_cons, energyDelta_toNat, ih]
      rfl

/-- The samples of a counter that never falls, and that advances by less than 2³² from
    each to the next: their deltas add up to the whole advance. -/
theorem add_sum_energyDeltas {m : Machine} {addr : UInt32} {count : Nat → Nat}
    (hsampled : ∀ date, (m.readmsr date addr).toNat % UInt32.size = count date % UInt32.size) {dates : List Nat}
    (h : dates.IsChain fun prev curr => Within UInt32.size (count prev) (count curr)) :
    ∀ first ∈ dates.head?, ∀ last ∈ dates.getLast?,
      count first + ((energyDeltas (dates.map (sampleAt m addr))).map UInt32.toNat).sum = count last := by
  intro first hfirst last hlast
  have hreadings : ((dates.map (sampleAt m addr)).map (·.energy.toNat)) = (dates.map count).map (· % UInt32.size) := by
    simp only [List.map_map]
    exact List.map_congr_left fun date _ => (sampleAt_energy m addr date).trans (hsampled date)
  rw [energyDeltas_advances, hreadings]
  refine add_sum_advances (List.isChain_map_of_isChain count (fun _ _ hstep => hstep) h) (count first) ?_ (count last) ?_
  · rw [List.head?_map]
    exact Option.mem_map_of_mem count hfirst
  · rw [List.getLast?_map]
    exact Option.mem_map_of_mem count hlast

end HardwareMonitor.Drivers
