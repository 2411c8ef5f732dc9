/-
  HardwareMonitor.Drivers.Lifecycle — a driver from its load to its unload: what
  `DriverEntry` detects and sets up, the requests that are served over it, and
  `EvtDriverUnload`.

  What `DriverEntry` sets stays: the feature flags, the energy unit, the clock's frequency
  and the number of processors are the same in every state of every run, the cells of
  `g_core_state` past its end are never touched, and every block taken from the pool is
  given back but for those of loads that fail (`lifecycle_kept`). So the conditions under
  which the power readings are accounted for are those of the load (`loaded_power_accurate`).

  A request is served whatever it asks for; the framework's answers are parameters, and so
  is what becomes of a driver object whose `DriverEntry` fails, which is not unloaded.
-/

import HardwareMonitor.Drivers.EnergyRuns
import HardwareMonitor.Drivers.PowerAccuracy

namespace HardwareMonitor.Drivers

/-! ## Feature detection -/

def cpuid06hEaxPkgThermBit : UInt32 := (1 : UInt32) <<< 6
def cpuid06hEcxMperfBit : UInt32 := (1 : UInt32) <<< 0

/-- The field of a register behind a mask and a shift. -/
def cpuidField (register : UInt32) (mask shift : UInt64) : UInt32 := ((register.toUInt64 &&& mask) >>> shift).toUInt32

namespace Intel

def ia32PlatformInfo : UInt32 := 0xCE
def msrRaplPowerUnit : UInt32 := 0x606
def raplMinModel : UInt32 := 0x2A

/-- The static variables of an image that has just been mapped. -/
def statics : Globals where
  hasMperf := false
  hasPkgTherm := false
  hasRapl := false
  coreState := none
  pkgState := ⟨0, 0, false, 0, 0, false, 0⟩
  maxProcs := 0
  qpcFreq := 0

/-- `DetectFeatures`; nothing reads `g_base_freq_mhz`. -/
def detectFeatures (m : Machine) (s : Clocked Globals) : Clocked Globals :=
  let (info, s) := s.cpuid m cpuidThermPowerLeaf
  let hasMperf := info.ecx &&& cpuid06hEcxMperfBit ≠ 0
  let hasPkgTherm := info.eax &&& cpuid06hEaxPkgThermBit ≠ 0
  let (info, s) := s.cpuid m 0x01
  let family := cpuidField info.eax (genmask 11 8) 8
  let extModel := cpuidField info.eax (genmask 19 16) 16
  let baseModel := cpuidField info.eax (genmask 7 4) 4
  let model := (extModel <<< 4) ||| baseModel
  let hasRapl := family = 6 ∧ raplMinModel ≤ model
  let (_, s) := s.readmsr m ia32PlatformInfo
  s.set { s.vars with hasMperf := hasMperf, hasPkgTherm := hasPkgTherm, hasRapl := hasRapl }

end Intel

namespace Amd

def amdMsrRaplPowerUnit : UInt32 := 0xC0010299
def amdFamilyZen3 : UInt32 := 0x19
def amdSvi2Plane0Addr : UInt32 := 0x0005A00C
def amdSvi2Plane1Addr : UInt32 := 0x0005A010

def statics : Globals where
  hasMperf := false
  family := 0
  svi2CoreAddr := 0
  svi2SocAddr := 0
  coreState := none
  pkgState := ⟨0, 0, false, 0⟩
  maxProcs := 0
  qpcFreq := 0

/-- `DetectAMDModelAndFamily`: the family; nothing reads the model. -/
def detectAMDModelAndFamily (info : CpuidInfo) : UInt32 :=
  let baseFamily := cpuidField info.eax (genmask 11 8) 8
  let extFamily := cpuidField info.eax (genmask 27 20) 20
  baseFamily + extFamily

def detectFeatures (m : Machine) (s : Clocked Globals) : Clocked Globals :=
  let (info, s) := s.cpuid m 0x01
  let family := detectAMDModelAndFamily info
  let (info, s) := s.cpuid m 0x06
  let hasMperf := info.ecx &&& cpuid06hEcxMperfBit ≠ 0
  let (core, soc) :=
    if amdFamilyZen3 ≤ family then (amdSvi2Plane1Addr, amdSvi2Plane0Addr) else (amdSvi2Plane0Addr, amdSvi2Plane1Addr)
  s.set { s.vars with family := family, hasMperf := hasMperf, svi2CoreAddr := core, svi2SocAddr := soc }

end Amd

/-! ## Load -/

/-- What the kernel and the framework answer while a driver is loaded. -/
structure LoadAnswers where
  /-- `KeQueryPerformanceCounter(&g_qpc_freq)` -/
  qpcFrequency : Int64
  activeProcessorCount : UInt32
  /-- `ExAllocatePool2` gives the block. -/
  poolAllocated : Bool
  driverCreate : NtStatus
  /-- `WdfControlDeviceInitAllocate` gives an initializer. -/
  deviceInitAllocated : Bool
  assignSDDLString : NtStatus
  assignName : NtStatus
  deviceCreate : NtStatus
  createSymbolicLink : NtStatus
  ioQueueCreate : NtStatus
  deriving DecidableEq, Repr

def statusInsufficientResources : NtStatus := 0xC000009A

/-- `NonPnpDeviceAdd`: the steps up to the first that fails. -/
def nonPnpDeviceAdd (a : LoadAnswers) : NtStatus :=
  if !ntSuccess a.assignSDDLString then a.assignSDDLString
  else if !ntSuccess a.assignName then a.assignName
  else if !ntSuccess a.deviceCreate then a.deviceCreate
  else if !ntSuccess a.createSymbolicLink then a.createSymbolicLink
  else a.ioQueueCreate

/-- The end of `DriverEntry`, once the static variables are set. -/
def createDriver (a : LoadAnswers) : NtStatus :=
  if !ntSuccess a.driverCreate then a.driverCreate
  else if !a.deviceInitAllocated then statusInsufficientResources
  else nonPnpDeviceAdd a

/-- The static variables as `DriverEntry` leaves them. -/
def Intel.initialState (m : Machine) (a : LoadAnswers) : Clocked Intel.Globals :=
  let s := Intel.detectFeatures m ⟨0, Intel.statics⟩
  let s := s.set { s.vars with qpcFreq := a.qpcFrequency }
  let s :=
    if s.vars.hasRapl then
      let (raplUnit, s) := s.readmsr m Intel.msrRaplPowerUnit
      s.set { s.vars with
        pkgState := { s.vars.pkgState with energyUnitDivisor := energyUnitDivisor (energyUnitShift raplUnit) } }
    else s
  let s := s.set { s.vars with maxProcs := a.activeProcessorCount }
  if s.vars.hasMperf && a.poolAllocated then s.set { s.vars with coreState := some fun _ => ⟨0, 0, false⟩ } else s

def Amd.initialState (m : Machine) (a : LoadAnswers) : Clocked Amd.Globals :=
  let s := Amd.detectFeatures m ⟨0, Amd.statics⟩
  let s := s.set { s.vars with qpcFreq := a.qpcFrequency }
  let s :=
    if Amd.amdFamilyZen ≤ s.vars.family then
      let (raplUnit, s) := s.readmsr m Amd.amdMsrRaplPowerUnit
      s.set { s.vars with
        pkgState := { s.vars.pkgState with energyUnitDivisor := energyUnitDivisor (energyUnitShift raplUnit) } }
    else s
  let s := s.set { s.vars with maxProcs := a.activeProcessorCount }
  if a.poolAllocated then s.set { s.vars with coreState := some fun _ => ⟨0, 0, 0, 0, false⟩ } else s

def CpuDriver.initialState : (d : CpuDriver) → Machine → LoadAnswers → Clocked d.Globals
  | .intel => Intel.initialState
  | .amd => Amd.initialState

/-- `DriverEntry` -/
def CpuDriver.driverEntry (d : CpuDriver) (m : Machine) (a : LoadAnswers) : NtStatus × Clocked d.Globals :=
  (createDriver a, d.initialState m a)

/-! ## What a request keeps -/

section

variable {σ : Type} {D : Driver σ} {P : σ → Prop}

theorem addMetrics_keeps {rs : List (Reader σ)} (h : ∀ r ∈ rs, ∀ s, P s.vars → P (r s).2.vars) (len : UInt32)
    {f : Fill σ} (hf : P f.world.drv.vars) : P (addMetrics len rs f).2.world.drv.vars := by
  induction rs generalizing f with
  | nil => exact hf
  | cons r rs ih =>
    have hone : P (addMetric len r f).2.world.drv.vars := by
      simp only [addMetric, tryAddTelemetryData]
      split
      all_goals
        split
        all_goals exact h r List.mem_cons_self _ hf
    simp only [addMetrics]
    split
    · exact ih (fun r hr => h r (List.mem_cons_of_mem _ hr)) hone
    · exact hone

/-- The variables keep what every metric helper keeps. -/
structure HelpersKeep (H : D.Helpers) (P : σ → Prop) : Prop where
  perCore : ∀ m i, ∀ r ∈ H.perCore m i, ∀ s, P s.vars → P (r s).2.vars
  aggregate : ∀ m g, ∀ r ∈ H.aggregate m g, ∀ s, P s.vars → P (r s).2.vars

variable {H : D.Helpers} (hkeep : HelpersKeep H P) (k : Kernel)

include hkeep

theorem visitProcessors_keeps (len : UInt32) (is : List UInt32) {v : Visit σ} (hv : P v.fill.world.drv.vars) :
    P (visitProcessors D k len is v).fill.world.drv.vars := by
  induction is generalizing v with
  | nil => exact hv
  | cons i is ih =>
    rw [visitProcessors]
    split
    · split
      · exact ih hv
      · apply ih
        rw [visitProcessor]
        simp only [H.perCore_eq]
        exact addMetrics_keeps (hkeep.perCore k.machine i) len hv
    · exact hv

theorem collectMetrics_keeps (len : UInt32) {w : World σ} (hw : P w.drv.vars) :
    P (collectMetrics D k len w).2.world.drv.vars := by
  have hloop := visitProcessors_keeps hkeep k len (processorIndexes k.activeProcessorCount) (v := .start w) hw
  have hrevert : P (visitProcessors D k len (processorIndexes k.activeProcessorCount) (.start w)).revert.world.drv.vars := by
    rw [Visit.revert]
    split
    · exact hloop
    · exact hloop
  simp only [collectMetrics]
  split
  · rw [H.aggregate_eq]
    exact addMetrics_keeps (hkeep.aggregate k.machine _) len hrevert
  · exact hrevert

omit hkeep in
theorem completeReply_drv (r : Bool × Fill σ) : (completeReply D r).drv = r.2.world.drv := by
  obtain ⟨added, f⟩ := r
  cases added with
  | false => rfl
  | true => rfl

/-- A request of any kind, on any number of processors, whatever the kernel answers. -/
theorem evtIoDeviceControl_keeps (req : Request) {w : World σ} (hw : P w.drv.vars) :
    P (evtIoDeviceControl D k req w).drv.vars := by
  simp only [evtIoDeviceControl]
  split
  · exact hw
  · split
    · exact hw
    · split
      · exact hw
      · split
        · exact hw
        · split
          · exact hw
          · rw [completeReply_drv]
            exact collectMetrics_keeps hkeep k _ hw

end

/-! ## What `DriverEntry` sets up -/

namespace Intel

/-- The variables are still as the load has set them up, and no cell past the end of
    `g_core_state` has been touched. -/
structure SetUp (entry g : Globals) : Prop where
  hasMperf : g.hasMperf = entry.hasMperf
  hasPkgTherm : g.hasPkgTherm = entry.hasPkgTherm
  hasRapl : g.hasRapl = entry.hasRapl
  unit : g.pkgState.energyUnitDivisor = entry.pkgState.energyUnitDivisor
  maxProcs : g.maxProcs = entry.maxProcs
  qpcFreq : g.qpcFreq = entry.qpcFreq
  block : g.coreState.isSome = entry.coreState.isSome
  pastEnd : ∀ i, entry.maxProcs ≤ i → g.coreState.map (· i) = entry.coreState.map (· i)

theorem SetUp.refl (g : Globals) : SetUp g g := ⟨rfl, rfl, rfl, rfl, rfl, rfl, rfl, fun _ _ => rfl⟩

variable {entry : Globals} {m : Machine} {i : UInt32} {s : Clocked Globals}

theorem retCoreLoad_setUp (h : SetUp entry s.vars) : SetUp entry (retCoreLoad m i s).2.vars := by
  simp only [retCoreLoad]
  cases hcore : s.vars.coreState with
  | none => exact h
  | some coreState =>
    simp only
    split
    · exact h
    · rename_i hin
      refine ⟨h.hasMperf, h.hasPkgTherm, h.hasRapl, h.unit, h.maxProcs, h.qpcFreq, ?_, fun j hj => ?_⟩
      · rw [← h.block, hcore]
        rfl
      · -- only a cell below the end is written
        have hne : j ≠ i := by
          rintro rfl
          exact hin (Or.inr (h.maxProcs ▸ hj))
        rw [← h.pastEnd j hj, hcore]
        exact congrArg some (if_neg hne)

/-- Whatever the flags, the aggregate helpers are among these. -/
theorem mem_aggregateHelpers {g : Globals} {r : Reader Globals} (h : r ∈ aggregateHelpers m g) :
    r = retTDieTemp m ∨ r = retPackagePower m ∨ r = retCoreDomainPower m := by
  rcases List.mem_append.mp h with h | h
  · split at h
    · exact Or.inl (List.mem_singleton.mp h)
    · cases h
  · split at h
    · simp only [List.mem_cons, List.not_mem_nil, or_false] at h
      exact Or.inr h
    · cases h

theorem setUp_kept (entry : Globals) : HelpersKeep helpers (SetUp entry) where
  perCore := by
    intro m i r hr s h
    change r ∈ perCoreHelpers m i at hr
    simp only [perCoreHelpers, List.mem_cons, List.not_mem_nil, or_false] at hr
    rcases hr with rfl | rfl | rfl | rfl
    · rw [retCoreTemp_vars]
      exact h
    · exact h
    · exact h
    · exact retCoreLoad_setUp h
  aggregate := by
    intro m g r hr s h
    rcases mem_aggregateHelpers (show r ∈ aggregateHelpers m g from hr) with rfl | rfl | rfl
    · rw [retTDieTemp_vars]
      exact h
    · exact ⟨h.hasMperf, h.hasPkgTherm, h.hasRapl, h.unit, h.maxProcs, h.qpcFreq, h.block, h.pastEnd⟩
    · exact ⟨h.hasMperf, h.hasPkgTherm, h.hasRapl, h.unit, h.maxProcs, h.qpcFreq, h.block, h.pastEnd⟩

end Intel

namespace Amd

structure SetUp (entry g : Globals) : Prop where
  hasMperf : g.hasMperf = entry.hasMperf
  family : g.family = entry.family
  svi2 : g.svi2CoreAddr = entry.svi2CoreAddr ∧ g.svi2SocAddr = entry.svi2SocAddr
  unit : g.pkgState.energyUnitDivisor = entry.pkgState.energyUnitDivisor
  maxProcs : g.maxProcs = entry.maxProcs
  qpcFreq : g.qpcFreq = entry.qpcFreq
  block : g.coreState.isSome = entry.coreState.isSome
  pastEnd : ∀ i, entry.maxProcs ≤ i → g.coreState.map (· i) = entry.coreState.map (· i)

theorem SetUp.refl (g : Globals) : SetUp g g := ⟨rfl, rfl, ⟨rfl, rfl⟩, rfl, rfl, rfl, rfl, fun _ _ => rfl⟩

variable {entry : Globals} {m : Machine} {i : UInt32} {s : Clocked Globals}

/-- A cell below the end is replaced. -/
theorem SetUp.setCell (h : SetUp entry s.vars) {coreState : UInt32 → AmdCoreDeltaState} (hcore : s.vars.coreState = some coreState)
    (hi : ¬ s.vars.maxProcs ≤ i) (state : AmdCoreDeltaState) :
    SetUp entry { s.vars with coreState := some fun j => if j = i then state else coreState j } := by
  refine ⟨h.hasMperf, h.family, h.svi2, h.unit, h.maxProcs, h.qpcFreq, ?_, fun j hj => ?_⟩
  · rw [← h.block, hcore]
    rfl
  · have hne : j ≠ i := by
      rintro rfl
      exact hi (h.maxProcs ▸ hj)
    rw [← h.pastEnd j hj, hcore]
    exact congrArg some (if_neg hne)

theorem retCoreLoad_setUp (h : SetUp entry s.vars) : SetUp entry (retCoreLoad m i s).2.vars := by
  simp only [retCoreLoad]
  cases hcore : s.vars.coreState with
  | none => exact h
  | some coreState =>
    simp only
    split
    · exact h
    · rename_i hin
      exact h.setCell hcore (fun hi => hin (Or.inr hi)) _

theorem retCorePower_setUp (h : SetUp entry s.vars) : SetUp entry (retCorePower m i s).2.vars := by
  simp only [retCorePower]
  cases hcore : s.vars.coreState with
  | none => exact h
  | some coreState =>
    simp only
    split
    · exact h
    · rename_i hin
      exact h.setCell hcore (fun hi => hin (Or.inr hi)) _

theorem retPackagePower_setUp (h : SetUp entry s.vars) : SetUp entry (retPackagePower m s).2.vars := by
  simp only [retPackagePower]
  split
  · exact h
  · exact ⟨h.hasMperf, h.family, h.svi2, h.unit, h.maxProcs, h.qpcFreq, h.block, h.pastEnd⟩

theorem setUp_kept (entry : Globals) : HelpersKeep helpers (SetUp entry) where
  perCore := by
    intro m i r hr s h
    change r ∈ perCoreHelpers m i at hr
    simp only [perCoreHelpers, List.mem_cons, List.not_mem_nil, or_false] at hr
    rcases hr with rfl | rfl | rfl
    · rw [retCoreClockSpeed_vars]
      exact h
    · exact retCoreLoad_setUp h
    · exact retCorePower_setUp h
  aggregate := by
    intro m g r hr s h
    change r ∈ [retTDieTemp m, retCoreVoltage m, retSoCVoltage m, retPackagePower m] at hr
    simp only [List.mem_cons, List.not_mem_nil, or_false] at hr
    rcases hr with rfl | rfl | rfl | rfl
    · rw [retTDieTemp_snd, (readSmn_reads m _ s).1]
      exact h
    · rw [retCoreVoltage, retVoltage_snd, (readSmn_reads m _ s).1]
      exact h
    · rw [retSoCVoltage, retVoltage_snd, (readSmn_reads m _ s).1]
      exact h
    · exact retPackagePower_setUp h

end Amd

def CpuDriver.SetUp : (d : CpuDriver) → d.Globals → d.Globals → Prop
  | .intel => Intel.SetUp
  | .amd => Amd.SetUp

theorem CpuDriver.SetUp.refl (d : CpuDriver) (g : d.Globals) : d.SetUp g g := by
  cases d with
  | intel => exact Intel.SetUp.refl g
  | amd => exact Amd.SetUp.refl g

theorem serve_setUp (d : CpuDriver) (m : Machine) (io : Ioctl) {entry : d.Globals} {s : Clocked d.Globals}
    (h : d.SetUp entry s.vars) : d.SetUp entry (io.serve d m s).drv.vars := by
  cases d with
  | intel => exact evtIoDeviceControl_keeps (Intel.setUp_kept entry) (io.kernel m) io.request h
  | amd => exact evtIoDeviceControl_keeps (Amd.setUp_kept entry) (io.kernel m) io.request h

/-! ## Lifecycles -/

/-- Whether `g_core_state` has its block. -/
def CpuDriver.holdsBlock : (d : CpuDriver) → d.Globals → Bool
  | .intel, g => g.coreState.isSome
  | .amd, g => g.coreState.isSome

theorem CpuDriver.SetUp.holdsBlock {d : CpuDriver} {entry g : d.Globals} (h : d.SetUp entry g) :
    d.holdsBlock g = d.holdsBlock entry := by
  cases d with
  | intel => exact Intel.SetUp.block h
  | amd => exact Amd.SetUp.block h

/-- A loaded driver; `entry`, its variables as `DriverEntry` left them, is not in the source. -/
structure Loaded (d : CpuDriver) where
  entry : d.Globals
  drv : Clocked d.Globals

/-- The driver on its host, and the blocks of its pool tag. -/
structure DriverHost (d : CpuDriver) where
  loaded : Option (Loaded d)
  allocated : Nat
  freed : Nat
  /-- Blocks of loads that have failed. -/
  lost : Nat

def DriverHost.start (d : CpuDriver) : DriverHost d := ⟨none, 0, 0, 0⟩

inductive LifeEvent where
  | load (m : Machine) (a : LoadAnswers)
  | ioctl (m : Machine) (io : Ioctl)
  | unload

def blocks (held : Bool) : Nat := if held then 1 else 0

def DriverHost.step {d : CpuDriver} (h : DriverHost d) : LifeEvent → DriverHost d
  | .load m a =>
    match h.loaded with
    -- the driver is loaded already
    | some _ => h
    | none =>
      let (status, drv) := d.driverEntry m a
      let h := { h with allocated := h.allocated + blocks (d.holdsBlock drv.vars) }
      if ntSuccess status then { h with loaded := some ⟨drv.vars, drv⟩ }
      -- the image goes, and `EvtDriverUnload` is not called
      else { h with lost := h.lost + blocks (d.holdsBlock drv.vars) }
  | .ioctl m io =>
    match h.loaded with
    | none => h
    | some l => { h with loaded := some { l with drv := (io.serve d m l.drv).drv } }
  | .unload =>
    match h.loaded with
    | none => h
    -- `EvtDriverUnload`
    | some l => { h with loaded := none, freed := h.freed + blocks (d.holdsBlock l.drv.vars) }

def DriverHost.after (d : CpuDriver) (events : List LifeEvent) : DriverHost d := events.foldl DriverHost.step (.start d)

/-- The divisor of the energy unit, as a load sets it. -/
def CpuDriver.divisor : (d : CpuDriver) → d.Globals → UInt32
  | .intel, g => g.pkgState.energyUnitDivisor
  | .amd, g => g.pkgState.energyUnitDivisor

/-- The energy registers are there. -/
def CpuDriver.metersEnergy : (d : CpuDriver) → d.Globals → Bool
  | .intel, g => g.hasRapl
  | .amd, g => Amd.amdFamilyZen ≤ g.family

namespace Intel

/-- What is detected. -/
def detected (m : Machine) : Globals := (detectFeatures m ⟨0, statics⟩).vars

theorem initialState_vars (m : Machine) (a : LoadAnswers) :
    (Intel.initialState m a).vars =
      { detected m with
        qpcFreq := a.qpcFrequency
        pkgState := { statics.pkgState with
          energyUnitDivisor :=
            if (detected m).hasRapl then energyUnitDivisor (energyUnitShift (m.readmsr 3 msrRaplPowerUnit)) else 0 }
        maxProcs := a.activeProcessorCount
        coreState := if (detected m).hasMperf && a.poolAllocated then some fun _ => ⟨0, 0, false⟩ else none } := by
  have hvars : (detectFeatures m ⟨0, statics⟩).vars = detected m := rfl
  simp only [Intel.initialState, Clocked.set_vars, hvars]
  cases hrapl : (detected m).hasRapl with
  | false =>
    simp only [Bool.false_eq_true, if_false, Clocked.set_vars]
    split
    · rfl
    · rfl
  | true =>
    simp only [if_true, Clocked.set_vars, Clocked.readmsr_vars]
    split
    · rfl
    · rfl

end Intel

namespace Amd

def detected (m : Machine) : Globals := (detectFeatures m ⟨0, statics⟩).vars

theorem initialState_vars (m : Machine) (a : LoadAnswers) :
    (Amd.initialState m a).vars =
      { detected m with
        qpcFreq := a.qpcFrequency
        pkgState := { statics.pkgState with
          energyUnitDivisor :=
            if amdFamilyZen ≤ (detected m).family then energyUnitDivisor (energyUnitShift (m.readmsr 2 amdMsrRaplPowerUnit))
            else 0 }
        maxProcs := a.activeProcessorCount
        coreState := if a.poolAllocated then some fun _ => ⟨0, 0, 0, 0, false⟩ else none } := by
  have hvars : (detectFeatures m ⟨0, statics⟩).vars = detected m := rfl
  simp only [Amd.initialState, Clocked.set_vars, hvars]
  by_cases hfamily : amdFamilyZen ≤ (detected m).family
  · simp only [hfamily, if_true, Clocked.set_vars, Clocked.readmsr_vars]
    split
    · rfl
    · rfl
  · simp only [hfamily, if_false, Clocked.set_vars]
    split
    · rfl
    · rfl

end Amd

/-- The divisor is a power of two, as far as a ULONG goes, where there are energy registers. -/
theorem initialState_divisor (d : CpuDriver) (m : Machine) (a : LoadAnswers) :
    (d.metersEnergy (d.initialState m a).vars = true →
      ∃ esu, esu ≤ 31 ∧ d.divisor (d.initialState m a).vars = energyUnitDivisor esu) ∧
    (d.metersEnergy (d.initialState m a).vars = false → d.divisor (d.initialState m a).vars = 0) := by
  cases d with
  | intel =>
    simp only [CpuDriver.metersEnergy, CpuDriver.divisor, CpuDriver.initialState, Intel.initialState_vars]
    cases (Intel.detected m).hasRapl with
    | false => simp
    | true => exact ⟨fun _ => ⟨_, energyUnitShift_le _, rfl⟩, by simp⟩
  | amd =>
    simp only [CpuDriver.metersEnergy, CpuDriver.divisor, CpuDriver.initialState, Amd.initialState_vars, decide_eq_true_eq,
      decide_eq_false_iff_not]
    by_cases hfamily : Amd.amdFamilyZen ≤ (Amd.detected m).family
    · simp only [hfamily, if_true]
      exact ⟨fun _ => ⟨_, energyUnitShift_le _, rfl⟩, by simp⟩
    · simp [hfamily]

/-- What holds of a host at any time. -/
structure DriverHost.Sound {d : CpuDriver} (h : DriverHost d) : Prop where
  setUp : ∀ l, h.loaded = some l → ∃ m a, ntSuccess (createDriver a) = true ∧ l.entry = (d.initialState m a).vars ∧
    d.SetUp l.entry l.drv.vars
  balance : h.allocated = h.freed + h.lost + (h.loaded.elim 0 fun l => blocks (d.holdsBlock l.drv.vars))

theorem sound_step {d : CpuDriver} {h : DriverHost d} (hs : h.Sound) (e : LifeEvent) : (h.step e).Sound := by
  obtain ⟨hsetUp, hbalance⟩ := hs
  obtain ⟨loaded, allocated, freed, lost⟩ := h
  cases loaded with
  | none =>
    change allocated = freed + lost + 0 at hbalance
    cases e with
    | load m a =>
      simp only [DriverHost.step, CpuDriver.driverEntry]
      by_cases hstatus : ntSuccess (createDriver a) = true
      · simp only [hstatus, if_true]
        refine ⟨fun l hl => ?_, ?_⟩
        · obtain rfl := Option.some.inj hl
          exact ⟨m, a, hstatus, rfl, .refl d _⟩
        · show allocated + blocks (d.holdsBlock (d.initialState m a).vars) =
            freed + lost + blocks (d.holdsBlock (d.initialState m a).vars)
          omega
      · simp only [hstatus, Bool.false_eq_true, if_false]
        refine ⟨fun l hl => (by cases hl), ?_⟩
        show allocated + blocks _ = freed + (lost + blocks _) + 0
        omega
    | ioctl m io => exact ⟨hsetUp, hbalance⟩
    | unload => exact ⟨hsetUp, hbalance⟩
  | some l =>
    obtain ⟨m₀, a₀, hstatus, hentry, hkept⟩ := hsetUp l rfl
    change allocated = freed + lost + blocks (d.holdsBlock l.drv.vars) at hbalance
    cases e with
    | load m a => exact ⟨hsetUp, hbalance⟩
    | ioctl m io =>
      have hnow := serve_setUp d m io hkept
      refine ⟨fun l' hl' => ?_, ?_⟩
      · obtain rfl := Option.some.inj hl'
        exact ⟨m₀, a₀, hstatus, hentry, hnow⟩
      · show allocated = freed + lost + blocks (d.holdsBlock (io.serve d m l.drv).drv.vars)
        rw [hnow.holdsBlock, ← hkept.holdsBlock]
        exact hbalance
    | unload =>
      refine ⟨fun l' hl' => (by cases hl'), ?_⟩
      show allocated = freed + blocks (d.holdsBlock l.drv.vars) + lost + 0
      omega

theorem sound_after (d : CpuDriver) (events : List LifeEvent) : (DriverHost.after d events).Sound := by
  rw [DriverHost.after]
  induction events using List.reverseRecOn with
  | nil => exact ⟨fun l hl => (by cases hl), rfl⟩
  | append_singleton events e ih =>
    rw [List.foldl_append]
    exact sound_step ih e

/-- In every run of loads, requests of any kind and unloads: a driver that is loaded has
    the variables its `DriverEntry` has set, which no request has changed, has touched no
    cell of `g_core_state` past its end, and divides by a power of two; and the blocks
    taken from the pool are those freed, the one of the driver that is loaded, and those
    of the loads that failed behind the allocation. -/
theorem lifecycle_kept (d : CpuDriver) (events : List LifeEvent) :
    (∀ l, (DriverHost.after d events).loaded = some l →
      (∃ m a, ntSuccess (createDriver a) = true ∧ l.entry = (d.initialState m a).vars) ∧ d.SetUp l.entry l.drv.vars ∧
        (d.metersEnergy l.entry = true → ∃ esu, esu ≤ 31 ∧ d.divisor l.entry = energyUnitDivisor esu)) ∧
    (DriverHost.after d events).allocated = (DriverHost.after d events).freed + (DriverHost.after d events).lost +
      ((DriverHost.after d events).loaded.elim 0 fun l => blocks (d.holdsBlock l.drv.vars)) := by
  have hsound := sound_after d events
  refine ⟨fun l hl => ?_, hsound.balance⟩
  obtain ⟨m, a, hstatus, hentry, hkept⟩ := hsound.setUp l hl
  exact ⟨⟨m, a, hstatus, hentry⟩, hkept, hentry ▸ (initialState_divisor d m a).1⟩

/-! ## Power since the load -/

/-- A meter after a load: no sample yet, and the unit and the clock of the load. -/
theorem initialState_meter (c : EnergyCounter) (m : Machine) (a : LoadAnswers)
    (hsupported : (c.domain.meter (c.driver.initialState m a).vars).supported = true) :
    (c.domain.meter (c.driver.initialState m a).vars).last = none ∧
      (c.domain.meter (c.driver.initialState m a).vars).qpcFreq = a.qpcFrequency ∧
      ∃ esu, esu ≤ 31 ∧ (c.domain.meter (c.driver.initialState m a).vars).energyUnitDivisor = energyUnitDivisor esu := by
  have hdivisor := initialState_divisor c.driver m a
  cases c with
  | intelPackage =>
    refine ⟨?_, ?_, hdivisor.1 hsupported⟩
    · simp only [EnergyCounter.domain, CpuDriver.initialState, Intel.initialState_vars]
      rfl
    · simp only [EnergyCounter.domain, CpuDriver.initialState, Intel.initialState_vars]
      rfl
  | intelCoreDomain =>
    refine ⟨?_, ?_, hdivisor.1 hsupported⟩
    · simp only [EnergyCounter.domain, CpuDriver.initialState, Intel.initialState_vars]
      rfl
    · simp only [EnergyCounter.domain, CpuDriver.initialState, Intel.initialState_vars]
      rfl
  | amdPackage =>
    refine ⟨?_, ?_, hdivisor.1 hsupported⟩
    · simp only [EnergyCounter.domain, CpuDriver.initialState, Amd.initialState_vars]
      rfl
    · simp only [EnergyCounter.domain, CpuDriver.initialState, Amd.initialState_vars]
      rfl

/-- Over the run of requests that follows a load, on hardware that has the energy register
    and a clock that runs, each made with no more processors than 65535 entries are enough
    for: the first success reports no power, and every later one the average power since
    the success before it, as closely as the truncations allow (`Accurate`), wherever the
    performance counter has not gone back between them and 1000 times its difference fits
    into 64 bits. -/
theorem loaded_power_accurate (c : EnergyCounter) (m : Machine) (a : LoadAnswers) (ios : List Ioctl)
    (hsupported : (c.domain.meter (c.driver.initialState m a).vars).supported = true) (hfreq : 0 < a.qpcFrequency)
    (hprocs : ∀ io ∈ ios, c.driver.driver.metricsPerCore.toNat * io.activeProcessorCount.toNat +
      c.driver.driver.metricsAggregate.toNat ≤ 65535) :
    ∃ (esu : UInt32) (dates : List Nat), esu ≤ 31 ∧
      (c.domain.meter (c.driver.initialState m a).vars).energyUnitDivisor = energyUnitDivisor esu ∧
      List.Forall₂ (fun r date => r.start.reads ≤ date ∧ date + 1 < r.world.drv.reads)
        (successes c.driver m ios (c.driver.initialState m a)) dates ∧
      (successes c.driver m ios (c.driver.initialState m a)).map (fun r => c.domain.reported r.world.out.entries) =
        ((c.domain.meter (c.driver.initialState m a).vars).powers (dates.map (sampleAt m c.domain.addr))).map ([·]) ∧
      ∀ (prev curr : Sample) (q : Nat), curr.qpc.toInt - prev.qpc.toInt = q → q * 1000 < UInt64.size →
        Accurate (energyDelta curr.energy prev.energy).toNat (2 ^ esu.toNat) a.qpcFrequency.toInt.toNat q
          ((c.domain.meter (c.driver.initialState m a).vars).power prev curr) := by
  obtain ⟨hlast, hclock, esu, hesu, hunit⟩ := initialState_meter c m a hsupported
  have hready : (c.domain.meter (c.driver.initialState m a).vars).Ready := by
    refine ⟨hsupported, ?_, by rw [hclock]; exact hfreq⟩
    rw [hunit]
    intro hzero
    have hpow := energyUnitDivisor_toNat hesu
    rw [hzero] at hpow
    exact absurd hpow (Nat.two_pow_pos esu.toNat).ne
  obtain ⟨dates, hdates, hreported, -, -⟩ := successes_report (m := m) c.domain hprocs hready
  refine ⟨esu, dates, hesu, hunit, hdates, ?_, ?_⟩
  · rw [hreported, EnergyMeter.reports_fresh hlast]
  · intro prev curr q hq hwide
    have hpos : 0 < a.qpcFrequency.toInt := by
      rw [Int64.lt_iff_toInt_lt] at hfreq
      exact hfreq
    exact power_accurate hesu (by omega) hunit hclock (Int.toNat_of_nonneg (by omega)).symm hq hwide

/-- A processor of family 0x17 that counts in 1/65536 J. -/
def zenMachine : Machine :=
  { wrappingMachine with
    cpuid date leaf := if leaf = 0x01 then ⟨0x00800F11, 0, 0, 0⟩ else wrappingMachine.cpuid date leaf
    readmsr date addr := if addr = Amd.amdMsrRaplPowerUnit then 0xA1003 else wrappingMachine.readmsr date addr }

def granted : LoadAnswers where
  qpcFrequency := 10000000
  activeProcessorCount := 2
  poolAllocated := true
  driverCreate := statusSuccess
  deviceInitAllocated := true
  assignSDDLString := statusSuccess
  assignName := statusSuccess
  deviceCreate := statusSuccess
  createSymbolicLink := statusSuccess
  ioQueueCreate := statusSuccess

/-- 840 counts in 2.1 s are 6.1 mW, of which 5 are reported. -/
theorem loaded_power_accurate_zen :
    (∃ dates : List Nat, dates.length = 2 ∧
      (successes .amd zenMachine wrappingRun (Amd.initialState zenMachine granted)).map
          (fun r => Amd.package.reported r.world.out.entries) =
        ((Amd.packageMeter (Amd.initialState zenMachine granted).vars).powers
          (dates.map (sampleAt zenMachine Amd.amdMsrPkgEnergyStatus))).map ([·])) ∧
    (successes .amd zenMachine wrappingRun (Amd.initialState zenMachine granted)).map
      (fun r => Amd.package.reported r.world.out.entries) = [[0], [5]] ∧
    Accurate 840 65536 10000000 21000000 5 := by
  obtain ⟨esu, dates, hesu, hunit, hdates, hreported, haccurate⟩ :=
    loaded_power_accurate .amdPackage zenMachine granted wrappingRun (by decide) (by decide) (by decide)
  have htwo : (successes .amd zenMachine wrappingRun (Amd.initialState zenMachine granted)).length = 2 := by decide +kernel
  refine ⟨⟨dates, hdates.length_eq.symm.trans htwo, hreported⟩, by decide +kernel, ?_⟩
  -- the samples of the two replies
  have hsamples := haccurate (sampleAt zenMachine Amd.amdMsrPkgEnergyStatus 22) (sampleAt zenMachine Amd.amdMsrPkgEnergyStatus 43)
    21000000 (by decide) (by decide)
  have hunits : 2 ^ esu.toNat = 65536 := by
    rw [← energyUnitDivisor_toNat hesu, ← hunit]
    decide +kernel
  rw [hunits] at hsamples
  exact hsamples

end HardwareMonitor.Drivers
