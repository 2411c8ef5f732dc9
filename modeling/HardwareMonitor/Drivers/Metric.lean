/-
  HardwareMonitor.Drivers.Metric — what the metric helpers of the two drivers share: how
  a helper tags its entry, and the arithmetic that is written out in both.
-/

import HardwareMonitor.Drivers.CoreName
import HardwareMonitor.Drivers.Kernel

namespace HardwareMonitor.Drivers

/-- A zeroed `CPU_DATA` with the tags of a per-core helper. -/
def coreData (cpuIdx : UInt32) (type : MetricType) (unit : MetricUnit) (suffix : String) : CpuData :=
  { value := 0, name := coreName cpuIdx suffix, type := type.code, unit := unit.code, cpuId := cpuIdx.toUInt16 }

/-- A zeroed `CPU_DATA` with the tags of an aggregate helper. -/
def packageData (type : MetricType) (unit : MetricUnit) (name : String) : CpuData :=
  { value := 0, name := name, type := type.code, unit := unit.code, cpuId := 0xFFFF }

/-- `retCoreLoad`: C0 residency between two samples, in percent. -/
def loadPercent (mperfDelta tscDelta : UInt64) : UInt32 :=
  if tscDelta > 0 then
    let load := ((mperfDelta * 100) / tscDelta).toUInt32
    if load > 100 then 100 else load
  else 0

/-- An energy counter's advance between two readings, one wrap of its 32 bits undone. -/
def energyDelta (currEnergy prevEnergy : UInt32) : UInt32 :=
  if currEnergy ≥ prevEnergy then currEnergy - prevEnergy else (0xFFFFFFFF - prevEnergy) + currEnergy + 1

/-- `DriverEntry`: the exponent in bits 12 to 8 of MSR_RAPL_POWER_UNIT. -/
def energyUnitShift (raplUnit : UInt64) : UInt32 := ((raplUnit &&& genmask 12 8) >>> 8).toUInt32

/-- `DriverEntry`: `g_pkg_state.energy_unit_divisor = 1U << energy_unit_shift`. -/
def energyUnitDivisor (energyUnitShift : UInt32) : UInt32 := 1 <<< energyUnitShift

end HardwareMonitor.Drivers
