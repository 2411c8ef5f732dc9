/-
  HardwareMonitor.Drivers.Intel — the metric helpers of `intel_cpudriver.c`: what each
  reads, what it reports and what it stashes for the next request.
-/

import HardwareMonitor.Drivers.Metric

namespace HardwareMonitor.Drivers.Intel

/-! ## Registers, masks and constants -/

def ia32ThermStatus : UInt32 := 0x19C
def ia32ThermTarget : UInt32 := 0x1A2
def ia32PackageThermStatus : UInt32 := 0x1B1
def msrPerfStatus : UInt32 := 0x198
def ia32Mperf : UInt32 := 0xE7
def msrPkgEnergyStatus : UInt32 := 0x611
def msrPp0EnergyStatus : UInt32 := 0x639

def thermStatusValidBit : UInt64 := (1 : UInt64) <<< 31
def thermStatusOffset : UInt64 := genmask 22 16
def thermTargetTjmax : UInt64 := genmask 23 16
def perfStatusVid : UInt64 := genmask 47 32
def perfStatusPstateRatio : UInt64 := genmask 15 8

def cpuidThermPowerLeaf : UInt32 := 0x06
def cpuid06hEaxDtsBit : UInt32 := (1 : UInt32) <<< 0

def intelBusClockMhz : UInt32 := 100
def metricsPerCore : UInt32 := 4
def metricsAggregate : UInt32 := 3

/-! ## Static variables -/

structure CoreDeltaState where
  prevMperf : UInt64
  prevTsc : UInt64
  valid : Bool
  deriving DecidableEq, Repr

structure PkgDeltaState where
  prevPkgEnergy : UInt32
  prevPkgQpc : Int64
  pkgValid : Bool
  prevPp0Energy : UInt32
  prevPp0Qpc : Int64
  pp0Valid : Bool
  energyUnitDivisor : UInt32
  deriving DecidableEq

/-- The driver's file-scope variables. `coreState` is `g_core_state`: `none` is a null
    pointer, and only indexes below `maxProcs` lie in the allocation. -/
structure Globals where
  hasMperf : Bool
  hasPkgTherm : Bool
  hasRapl : Bool
  coreState : Option (UInt32 → CoreDeltaState)
  pkgState : PkgDeltaState
  maxProcs : UInt32
  qpcFreq : Int64

/-! ## Per-core helpers -/

def retCoreTemp (m : Machine) (cpuIdx : UInt32) : Reader Globals := fun s =>
  let data := coreData cpuIdx .temp .degreesC "Temp"
  let (cpuInfo, s) := s.cpuid m cpuidThermPowerLeaf
  if cpuInfo.eax &&& cpuid06hEaxDtsBit = 0 then (data, s)
  else
    let (thermStatus, s) := s.readmsr m ia32ThermStatus
    if thermStatus &&& thermStatusValidBit = 0 then (data, s)
    else
      let (thermTarget, s) := s.readmsr m ia32ThermTarget
      let tempMax := ((thermTarget &&& thermTargetTjmax) >>> 16).toUInt32
      let tempOffset := ((thermStatus &&& thermStatusOffset) >>> 16).toUInt32
      if tempOffset ≤ tempMax then ({ data with value := tempMax - tempOffset }, s) else (data, s)

def retCoreVID (m : Machine) (cpuIdx : UInt32) : Reader Globals := fun s =>
  let data := coreData cpuIdx .voltage .millivolts "VID"
  let (perfStatus, s) := s.readmsr m msrPerfStatus
  let vidBits := ((perfStatus &&& perfStatusVid) >>> 32).toUInt32
  -- VID / 8192 volts, in millivolts, rounded
  let scaled : UInt32 := vidBits * 1000 + (1 : UInt32) <<< (12 : UInt32)
  ({ data with value := scaled >>> 13 }, s)

def retCoreClockSpeed (m : Machine) (cpuIdx : UInt32) : Reader Globals := fun s =>
  let data := coreData cpuIdx .clockSpeed .mhz "Clock"
  let (perfStatus, s) := s.readmsr m msrPerfStatus
  let pstateRatio := ((perfStatus &&& perfStatusPstateRatio) >>> 8).toUInt32
  ({ data with value := pstateRatio * intelBusClockMhz }, s)

def retCoreLoad (m : Machine) (cpuIdx : UInt32) : Reader Globals := fun s =>
  let data := coreData cpuIdx .load .percent "Load"
  match s.vars.coreState with
  | none => (data, s)
  | some coreState =>
    if s.vars.hasMperf = false ∨ s.vars.maxProcs ≤ cpuIdx then (data, s)
    else
      let (currMperf, s) := s.readmsr m ia32Mperf
      let (currTsc, s) := s.rdtsc m
      let state := coreState cpuIdx
      let value := if state.valid then loadPercent (currMperf - state.prevMperf) (currTsc - state.prevTsc) else 0
      let coreState := fun i => if i = cpuIdx then ⟨currMperf, currTsc, true⟩ else coreState i
      ({ data with value := value }, s.set { s.vars with coreState := some coreState })

/-! ## Aggregate helpers -/

def retTDieTemp (m : Machine) : Reader Globals := fun s =>
  let data := packageData .temp .degreesC "Package Temp"
  let (pkgTherm, s) := s.readmsr m ia32PackageThermStatus
  if pkgTherm &&& thermStatusValidBit = 0 then (data, s)
  else
    let (thermTarget, s) := s.readmsr m ia32ThermTarget
    let tempMax := ((thermTarget &&& thermTargetTjmax) >>> 16).toUInt32
    let tempOffset := ((pkgTherm &&& thermStatusOffset) >>> 16).toUInt32
    if tempOffset ≤ tempMax then ({ data with value := tempMax - tempOffset }, s) else (data, s)

def computePowerMilliwatts (g : Globals) (currEnergy prevEnergy : UInt32) (currQpc prevQpc : Int64)
    (hasPrev : Bool) : UInt32 :=
  if hasPrev = false ∨ g.pkgState.energyUnitDivisor = 0 ∨ g.qpcFreq = 0 then 0
  else
    let energyDelta := energyDelta currEnergy prevEnergy
    let qpcDelta := (currQpc - prevQpc).toUInt64
    let timeMs := (qpcDelta * 1000) / g.qpcFreq.toUInt64
    if timeMs = 0 then 0
    else
      let energyMj := (energyDelta.toUInt64 * 1000) / g.pkgState.energyUnitDivisor.toUInt64
      ((energyMj * 1000) / timeMs).toUInt32

def retPackagePower (m : Machine) : Reader Globals := fun s =>
  let data := packageData .power .milliwatts "Package Power"
  let (msr, s) := s.readmsr m msrPkgEnergyStatus
  let currEnergy := (msr &&& genmask 31 0).toUInt32
  let (currQpc, s) := s.queryPerformanceCounter m
  let p := s.vars.pkgState
  let value := computePowerMilliwatts s.vars currEnergy p.prevPkgEnergy currQpc p.prevPkgQpc p.pkgValid
  let p := { p with prevPkgEnergy := currEnergy, prevPkgQpc := currQpc, pkgValid := true }
  ({ data with value := value }, s.set { s.vars with pkgState := p })

def retCoreDomainPower (m : Machine) : Reader Globals := fun s =>
  let data := packageData .power .milliwatts "Core Domain Power"
  let (msr, s) := s.readmsr m msrPp0EnergyStatus
  let currEnergy := (msr &&& genmask 31 0).toUInt32
  let (currQpc, s) := s.queryPerformanceCounter m
  let p := s.vars.pkgState
  let value := computePowerMilliwatts s.vars currEnergy p.prevPp0Energy currQpc p.prevPp0Qpc p.pp0Valid
  let p := { p with prevPp0Energy := currEnergy, prevPp0Qpc := currQpc, pp0Valid := true }
  ({ data with value := value }, s.set { s.vars with pkgState := p })

end HardwareMonitor.Drivers.Intel
