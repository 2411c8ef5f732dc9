/-
  HardwareMonitor.Drivers.Amd — the metric helpers of `amd_cpudriver.c`: what each
  reads, what it reports and what it stashes for the next request.
-/

import HardwareMonitor.Drivers.Metric

namespace HardwareMonitor.Drivers.Amd

/-! ## Registers, masks and constants -/

def amdThmTconCurTempAddr : UInt32 := 0x00059800

def amdMsrPstateStatus : UInt32 := 0xC0010063
def amdMsrPstateDefBase : UInt32 := 0xC0010064
def amdMsrCoreEnergyStatus : UInt32 := 0xC001029A
def amdMsrPkgEnergyStatus : UInt32 := 0xC001029B
def ia32Mperf : UInt32 := 0xE7

def thmCurTempRaw : UInt64 := genmask 31 21
def thmCurTempRangeSel : UInt64 := genmask 19 19
def thmCurTempTjSel : UInt64 := genmask 17 16
def svi2VidField : UInt64 := genmask 23 16
def pstateDefCpuFid : UInt64 := genmask 7 0
def pstateDefCpuDfsId : UInt64 := genmask 13 8
def pstateStatusCur : UInt64 := genmask 2 0

def svi2BaseMvX4 : UInt32 := 6200
def svi2StepMvX4 : UInt32 := 25
def svi2Rounding : UInt32 := 2
def amdPstateFreqBase : UInt32 := 200
def amdFamilyZen : UInt32 := 0x17
def amdTempOffsetMdeg : Int32 := 49000
def amdTempUnitMdeg : UInt32 := 125
def metricsPerCore : UInt32 := 3
def metricsAggregate : UInt32 := 4

/-! ## Static variables -/

structure AmdCoreDeltaState where
  prevMperf : UInt64
  prevTsc : UInt64
  prevCoreEnergy : UInt32
  prevCoreQpc : Int64
  valid : Bool
  deriving DecidableEq

structure AmdPkgDeltaState where
  prevPkgEnergy : UInt32
  prevPkgQpc : Int64
  valid : Bool
  energyUnitDivisor : UInt32
  deriving DecidableEq

/-- The driver's file-scope variables. `family` is `g_amd_info.family`; `coreState` is
    `g_core_state`: `none` is a null pointer, and only indexes below `maxProcs` lie in
    the allocation. -/
structure Globals where
  hasMperf : Bool
  family : UInt32
  svi2CoreAddr : UInt32
  svi2SocAddr : UInt32
  coreState : Option (UInt32 → AmdCoreDeltaState)
  pkgState : AmdPkgDeltaState
  maxProcs : UInt32
  qpcFreq : Int64

/-! ## SMN bus access -/

/-- `ReadSmn`, run alone: `none` is FALSE, `some` the data stored in `*result`. -/
def readSmn (m : Machine) (address : UInt32) (s : Clocked Globals) : Option UInt32 × Clocked Globals :=
  let (written, s) := s.halSetBusData m
  if written ≠ 4 then (none, s)
  else
    let ((read, result), s) := s.halGetBusData m address
    if read ≠ 4 then (none, s) else (some result, s)

/-! ## Per-core helpers -/

def retCoreClockSpeed (m : Machine) (cpuIdx : UInt32) : Reader Globals := fun s =>
  let data := coreData cpuIdx .clockSpeed .mhz "Clock"
  let (pstateStatus, s) := s.readmsr m amdMsrPstateStatus
  let curPstate := (pstateStatus &&& pstateStatusCur).toUInt32
  let (pstateDef, s) := s.readmsr m (amdMsrPstateDefBase + curPstate)
  let fid := (pstateDef &&& pstateDefCpuFid).toUInt32
  let dfsId := ((pstateDef &&& pstateDefCpuDfsId) >>> 8).toUInt32
  if dfsId > 0 then ({ data with value := (amdPstateFreqBase * fid) / dfsId }, s) else (data, s)

def retCoreLoad (m : Machine) (cpuIdx : UInt32) : Reader Globals := fun s =>
  let data := coreData cpuIdx .load .percent "Load"
  match s.vars.coreState with
  | none => (data, s)
  | some coreState =>
    if s.vars.hasMperf = false ∨ s.vars.maxProcs ≤ cpuIdx then (data, s)
    else
      let (currMperf, s) := s.readmsr m ia32Mperf
      let (currTsc, s) := s.rdtsc m
      let state := coreState cpuIdx
      let value := if state.valid then loadPercent (currMperf - state.prevMperf) (currTsc - state.prevTsc) else 0
      let state := { state with prevMperf := currMperf, prevTsc := currTsc, valid := true }
      let coreState := fun i => if i = cpuIdx then state else coreState i
      ({ data with value := value }, s.set { s.vars with coreState := some coreState })

/-- The power computation, written out in `retCorePower` and in `retPackagePower`. -/
def powerMilliwatts (g : Globals) (currEnergy prevEnergy : UInt32) (currQpc prevQpc : Int64) (valid : Bool) : UInt32 :=
  if valid = true ∧ g.pkgState.energyUnitDivisor > 0 ∧ g.qpcFreq > 0 then
    let energyDelta := energyDelta currEnergy prevEnergy
    let qpcDelta := (currQpc - prevQpc).toUInt64
    let timeMs := (qpcDelta * 1000) / g.qpcFreq.toUInt64
    if timeMs > 0 then
      let energyMj := (energyDelta.toUInt64 * 1000) / g.pkgState.energyUnitDivisor.toUInt64
      ((energyMj * 1000) / timeMs).toUInt32
    else 0
  else 0

def retCorePower (m : Machine) (cpuIdx : UInt32) : Reader Globals := fun s =>
  let data := coreData cpuIdx .power .milliwatts "Power"
  match s.vars.coreState with
  | none => (data, s)
  | some coreState =>
    if s.vars.family < amdFamilyZen ∨ s.vars.maxProcs ≤ cpuIdx then (data, s)
    else
      let (msr, s) := s.readmsr m amdMsrCoreEnergyStatus
      let currEnergy := (msr &&& genmask 31 0).toUInt32
      let (currQpc, s) := s.queryPerformanceCounter m
      let state := coreState cpuIdx
      let value := powerMilliwatts s.vars currEnergy state.prevCoreEnergy currQpc state.prevCoreQpc state.valid
      -- `valid` is left alone here: only `retCoreLoad` sets it
      let state := { state with prevCoreEnergy := currEnergy, prevCoreQpc := currQpc }
      let coreState := fun i => if i = cpuIdx then state else coreState i
      ({ data with value := value }, s.set { s.vars with coreState := some coreState })

/-! ## Aggregate helpers -/

def retTDieTemp (m : Machine) : Reader Globals := fun s =>
  let data := packageData .temp .degreesC "Tdie Temp"
  match readSmn m amdThmTconCurTempAddr s with
  | (none, s) => (data, s)
  | (some raw, s) =>
    let raw := raw.toUInt64
    let offsetFlag := raw &&& thmCurTempRangeSel ≠ 0 ∨ raw &&& thmCurTempTjSel = thmCurTempTjSel
    let rawTemp := ((raw &&& thmCurTempRaw) >>> 21).toUInt32
    let tempMdeg := (rawTemp * amdTempUnitMdeg).toInt32
    let tempMdeg := if offsetFlag then tempMdeg - amdTempOffsetMdeg else tempMdeg
    if tempMdeg ≥ 0 ∧ tempMdeg ≤ 150000 then ({ data with value := (tempMdeg / 1000).toUInt32 }, s) else (data, s)

/-- The body shared by `retCoreVoltage` and `retSoCVoltage`: mV = (6200 - VID * 25 + 2) / 4. -/
def retVoltage (m : Machine) (name : String) (addr : UInt32) : Reader Globals := fun s =>
  let data := packageData .voltage .millivolts name
  match readSmn m addr s with
  | (none, s) => (data, s)
  | (some raw, s) =>
    let vid := ((raw.toUInt64 &&& svi2VidField) >>> 16).toUInt32
    let mv := (svi2BaseMvX4 - vid * svi2StepMvX4 + svi2Rounding).toInt32 / 4
    ({ data with value := if mv > 0 then mv.toUInt32 else 0 }, s)

def retCoreVoltage (m : Machine) : Reader Globals := fun s => retVoltage m "Core Voltage" s.vars.svi2CoreAddr s

def retSoCVoltage (m : Machine) : Reader Globals := fun s => retVoltage m "SoC Voltage" s.vars.svi2SocAddr s

def retPackagePower (m : Machine) : Reader Globals := fun s =>
  let data := packageData .power .milliwatts "Package Power"
  if s.vars.family < amdFamilyZen then (data, s)
  else
    let (msr, s) := s.readmsr m amdMsrPkgEnergyStatus
    let currEnergy := (msr &&& genmask 31 0).toUInt32
    let (currQpc, s) := s.queryPerformanceCounter m
    let p := s.vars.pkgState
    let value := powerMilliwatts s.vars currEnergy p.prevPkgEnergy currQpc p.prevPkgQpc p.valid
    let p := { p with prevPkgEnergy := currEnergy, prevPkgQpc := currQpc, valid := true }
    ({ data with value := value }, s.set { s.vars with pkgState := p })

end HardwareMonitor.Drivers.Amd
