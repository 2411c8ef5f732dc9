/-
  HardwareMonitor.Drivers.Ioctl — `EvtIoDeviceControl` and its collectors.

  The two drivers repeat the handler word for word: they differ in the vendor they
  expect, in `METRICS_PER_CORE` and `METRICS_AGGREGATE`, and in the helpers their
  collectors call. `Driver` holds the differences, `CpuDriver` names the two drivers.
-/

import HardwareMonitor.Drivers.Intel
import HardwareMonitor.Drivers.Amd

namespace HardwareMonitor.Drivers

variable {σ : Type}

/-! ## Buffer management -/

/-- `tryAddTelemetryData` -/
def tryAddTelemetryData (bufferCapacity : UInt32) (data : CpuData) (bufferIdx : UInt16) (w : World σ) :
    Bool × World σ :=
  let needed := (sizeofCpuDataHeader + (bufferIdx.toUInt64 + 1) * sizeofCpuData).toUInt32
  if needed > bufferCapacity then (false, w.writeHeader { w.out.header with requiredSize := needed })
  else (true, w.writeData bufferIdx data)

/-! ## Metric collection -/

/-- The world and the caller's `buf_idx`, which a collector receives by address. -/
structure Fill (σ : Type) where
  world : World σ
  bufferIdx : UInt16

/-- The three lines a collector repeats for each helper: call it, try to add what it
    returned, count it. -/
def addMetric (outputBufferLen : UInt32) (helper : Reader σ) (f : Fill σ) : Bool × Fill σ :=
  let (data, drv) := helper f.world.drv
  let (added, w) := tryAddTelemetryData outputBufferLen data f.bufferIdx { f.world with drv := drv }
  if added then (true, ⟨w, f.bufferIdx + 1⟩) else (false, ⟨w, f.bufferIdx⟩)

/-- These lines for one helper after another; the first that does not fit returns FALSE. -/
def addMetrics (outputBufferLen : UInt32) : List (Reader σ) → Fill σ → Bool × Fill σ
  | [], f => (true, f)
  | helper :: helpers, f =>
    let (added, f) := addMetric outputBufferLen helper f
    if added then addMetrics outputBufferLen helpers f else (false, f)

namespace Intel

def perCoreHelpers (m : Machine) (cpuIdx : UInt32) : List (Reader Globals) :=
  [retCoreTemp m cpuIdx, retCoreVID m cpuIdx, retCoreClockSpeed m cpuIdx, retCoreLoad m cpuIdx]

/-- `ReadPerCoreIntelMetrics` -/
def readPerCoreIntelMetrics (m : Machine) (outputBufferLen cpuIdx : UInt32) (f : Fill Globals) : Bool × Fill Globals :=
  addMetrics outputBufferLen (perCoreHelpers m cpuIdx) f

/-- `ReadIntelAggregateMetrics` -/
def readIntelAggregateMetrics (m : Machine) (outputBufferLen : UInt32) (f : Fill Globals) : Bool × Fill Globals :=
  let (added, f) := if f.world.drv.vars.hasPkgTherm then addMetrics outputBufferLen [retTDieTemp m] f else (true, f)
  if added then
    if f.world.drv.vars.hasRapl then addMetrics outputBufferLen [retPackagePower m, retCoreDomainPower m] f
    else (true, f)
  else (false, f)

end Intel

namespace Amd

def perCoreHelpers (m : Machine) (cpuIdx : UInt32) : List (Reader Globals) :=
  [retCoreClockSpeed m cpuIdx, retCoreLoad m cpuIdx, retCorePower m cpuIdx]

/-- `ReadPerCoreAmdMetrics` -/
def readPerCoreAmdMetrics (m : Machine) (outputBufferLen cpuIdx : UInt32) (f : Fill Globals) : Bool × Fill Globals :=
  addMetrics outputBufferLen (perCoreHelpers m cpuIdx) f

/-- `ReadAmdAggregateMetrics` -/
def readAmdAggregateMetrics (m : Machine) (outputBufferLen : UInt32) (f : Fill Globals) : Bool × Fill Globals :=
  addMetrics outputBufferLen [retTDieTemp m, retCoreVoltage m, retSoCVoltage m, retPackagePower m] f

end Amd

/-! ## The two drivers -/

/-- What sets one driver's handler apart from the other's. -/
structure Driver (σ : Type) where
  vendor : CpuVendor
  metricsPerCore : UInt32
  metricsAggregate : UInt32
  readPerCoreMetrics : Machine → UInt32 → UInt32 → Fill σ → Bool × Fill σ
  readAggregateMetrics : Machine → UInt32 → Fill σ → Bool × Fill σ

def intelDriver : Driver Intel.Globals where
  vendor := .intel
  metricsPerCore := Intel.metricsPerCore
  metricsAggregate := Intel.metricsAggregate
  readPerCoreMetrics := Intel.readPerCoreIntelMetrics
  readAggregateMetrics := Intel.readIntelAggregateMetrics

def amdDriver : Driver Amd.Globals where
  vendor := .amd
  metricsPerCore := Amd.metricsPerCore
  metricsAggregate := Amd.metricsAggregate
  readPerCoreMetrics := Amd.readPerCoreAmdMetrics
  readAggregateMetrics := Amd.readAmdAggregateMetrics

inductive CpuDriver where
  | intel
  | amd
  deriving DecidableEq, Repr

/-- The static variables of each driver. -/
abbrev CpuDriver.Globals : CpuDriver → Type
  | .intel => Intel.Globals
  | .amd => Amd.Globals

def CpuDriver.driver : (d : CpuDriver) → Driver d.Globals
  | .intel => intelDriver
  | .amd => amdDriver

/-! ## IOCTL handler -/

/-- `required_size` for `total_procs` processors, with `total_entries` as a ULONG. -/
def Driver.requiredSize (D : Driver σ) (totalProcs : UInt32) : UInt32 :=
  let totalEntries := D.metricsPerCore * totalProcs + D.metricsAggregate
  (sizeofCpuDataHeader + totalEntries.toUInt64 * sizeofCpuData).toUInt32

/-- The locals of the loop over the processors. -/
structure Visit (σ : Type) where
  fill : Fill σ
  bufOk : Bool
  affinitySaved : Bool
  oldAffinity : GroupAffinity

def Visit.start (w : World σ) : Visit σ :=
  { fill := ⟨w, 0⟩, bufOk := true, affinitySaved := false, oldAffinity := .zero }

/-- After the loop: back to the caller's affinity if it was ever left. -/
def Visit.revert (v : Visit σ) : Fill σ :=
  if v.affinitySaved then { v.fill with world := v.fill.world.revertAffinity v.oldAffinity } else v.fill

/-- The loop's body past the `continue`: move to the processor and collect there. -/
def visitProcessor (D : Driver σ) (k : Kernel) (outputBufferLen i : UInt32) (procNum : ProcessorNumber)
    (v : Visit σ) : Visit σ :=
  let newAffinity : GroupAffinity := ⟨procNum.group, 1 <<< procNum.number.toUInt64⟩
  let (previous, w) := v.fill.world.setAffinity newAffinity
  let (bufOk, f) := D.readPerCoreMetrics k.machine outputBufferLen i { v.fill with world := w }
  { fill := f
    bufOk := bufOk
    affinitySaved := true
    oldAffinity := if v.affinitySaved then v.oldAffinity else previous }

/-- `for (ULONG i = 0; i < total_procs && buf_ok; i++)`, over the indexes still to come. -/
def visitProcessors (D : Driver σ) (k : Kernel) (outputBufferLen : UInt32) : List UInt32 → Visit σ → Visit σ
  | [], v => v
  | i :: is, v =>
    if v.bufOk then
      match k.processorNumber i with
      | none => visitProcessors D k outputBufferLen is v
      | some procNum => visitProcessors D k outputBufferLen is (visitProcessor D k outputBufferLen i procNum v)
    else v

/-- The indexes the loop counts through. -/
def processorIndexes (totalProcs : UInt32) : List UInt32 := (List.range totalProcs.toNat).map UInt32.ofNat

/-- The loop, the return to the caller's affinity, and the aggregate metrics. -/
def collectMetrics (D : Driver σ) (k : Kernel) (outputBufferLen : UInt32) (w : World σ) : Bool × Fill σ :=
  let v := visitProcessors D k outputBufferLen (processorIndexes k.activeProcessorCount) (.start w)
  if v.bufOk then D.readAggregateMetrics k.machine outputBufferLen v.revert else (false, v.revert)

/-- The end of the handler: overflow where a metric did not fit, the reply otherwise. -/
def completeReply (D : Driver σ) : Bool × Fill σ → World σ
  | (false, f) =>
    let needed := (sizeofCpuDataHeader +
      (f.bufferIdx.toUInt64 + D.metricsPerCore.toUInt64 + D.metricsAggregate.toUInt64) * sizeofCpuData).toUInt32
    (f.world.writeHeader { f.world.out.header with requiredSize := needed }).complete statusBufferOverflow
      sizeofCpuDataHeader
  | (true, f) =>
    let w := f.world.writeHeader { f.world.out.header with entryCount := f.bufferIdx.toUInt32 }
    let bytesWritten := (sizeofCpuDataHeader + f.bufferIdx.toUInt64 * sizeofCpuData).toUInt32
    w.complete statusSuccess bytesWritten.toUInt64

/-- `EvtIoDeviceControl` -/
def evtIoDeviceControl (D : Driver σ) (k : Kernel) (req : Request) (w : World σ) : World σ :=
  if req.ioControlCode ≠ ioctlGetData then w.complete statusInvalidDeviceRequest 0
  else
    let totalProcs := k.activeProcessorCount
    let requiredSize := D.requiredSize totalProcs
    if req.outputBufferLength < sizeofCpuDataHeader then w.complete statusBufferTooSmall 0
    else
      let status := k.retrieveOutputBuffer req sizeofCpuDataHeader
      if ntSuccess status = false then w.complete status 0
      else
        let w := w.writeHeader { requiredSize := requiredSize, processorCount := totalProcs, entryCount := 0 }
        if req.outputBufferLength < requiredSize.toUInt64 then w.complete statusBufferOverflow sizeofCpuDataHeader
        else
          let (cpuInfo, drv) := w.drv.cpuid k.machine 0
          let w := { w with drv := drv }
          if detectCpuVendor cpuInfo ≠ D.vendor then w.complete statusInvalidDeviceRequest 0
          else completeReply D (collectMetrics D k req.outputBufferLength.toUInt32 w)

end HardwareMonitor.Drivers
