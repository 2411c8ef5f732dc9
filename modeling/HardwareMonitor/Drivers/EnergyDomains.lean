/-
  HardwareMonitor.Drivers.EnergyDomains — the three energy counters the drivers report
  as power: Intel's package and core domain (PP0), and AMD's package.

  An `EnergyDomain` says where a counter's meter lies among a driver's variables and
  which aggregate helper reads it. The two Intel domains share one struct, so each has
  to stand beside the other (`Beside`), as every other helper does.
-/

import HardwareMonitor.Drivers.EnergyMeter
import HardwareMonitor.Drivers.Helpers

namespace HardwareMonitor.Drivers

open HardwareMonitor.Lib.Batch (runAll runAll_cons)

variable {σ : Type} {D : Driver σ}

/-- The tags of a power entry, which say what domain it is about. -/
def powerLabel (name : String) : CpuData := packageData .power .milliwatts name

/-- A helper that leaves a meter alone and reports under another label. -/
structure Beside (meter : σ → EnergyMeter) (label : CpuData) (r : Reader σ) : Prop where
  meter : ∀ s, meter (r s).2.vars = meter s.vars
  reads : ∀ s, s.reads ≤ (r s).2.reads
  label : ∀ s, (r s).1.label ≠ label

/-- A counter, its meter and the aggregate helper that reads it. -/
structure EnergyDomain (H : D.Helpers) where
  addr : UInt32
  name : String
  meter : σ → EnergyMeter
  helper : Machine → Reader σ
  before : Machine → σ → List (Reader σ)
  after : Machine → List (Reader σ)
  aggregate_eq : ∀ m g, (meter g).supported = true → H.aggregate m g = before m g ++ helper m :: after m
  value : ∀ m s, (meter s.vars).Ready →
    (helper m s).1 = { powerLabel name with value := (meter s.vars).report (sampleAt m addr s.reads) }
  stash : ∀ m s, (meter s.vars).Ready → meter (helper m s).2.vars = (meter s.vars).advanceTo (sampleAt m addr s.reads)
  reads : ∀ m s, (meter s.vars).Ready → (helper m s).2.reads = s.reads + 2
  perCore_beside : ∀ m i, ∀ r ∈ H.perCore m i, Beside meter (powerLabel name) r
  before_beside : ∀ m g, ∀ r ∈ before m g, Beside meter (powerLabel name) r
  after_beside : ∀ m, ∀ r ∈ after m, Beside meter (powerLabel name) r

theorem coreData_ne_power (i : UInt32) (type : MetricType) (unit : MetricUnit) (suffix name : String) (h : type ≠ .power) :
    coreData i type unit suffix ≠ powerLabel name := by
  intro e
  have hcode : type.code = MetricType.power.code := congrArg CpuData.type e
  cases type <;> first | exact h rfl | exact absurd hcode (by decide)

theorem packageData_ne_power (type : MetricType) (unit : MetricUnit) (text name : String) (h : type ≠ .power) :
    packageData type unit text ≠ powerLabel name := by
  intro e
  have hcode : type.code = MetricType.power.code := congrArg CpuData.type e
  cases type <;> first | exact h rfl | exact absurd hcode (by decide)

/-! ## Intel -/

namespace Intel

/-- Both domains have the driver's unit and clock; each has its own three fields. -/
def meterOf (g : Globals) (valid : Bool) (energy : UInt32) (qpc : Int64) : EnergyMeter where
  supported := g.hasRapl
  energyUnitDivisor := g.pkgState.energyUnitDivisor
  qpcFreq := g.qpcFreq
  last := if valid then some ⟨energy, qpc⟩ else none

def packageMeter (g : Globals) : EnergyMeter :=
  meterOf g g.pkgState.pkgValid g.pkgState.prevPkgEnergy g.pkgState.prevPkgQpc

def coreDomainMeter (g : Globals) : EnergyMeter :=
  meterOf g g.pkgState.pp0Valid g.pkgState.prevPp0Energy g.pkgState.prevPp0Qpc

theorem computePowerMilliwatts_eq (g : Globals) (prevEnergy : UInt32) (prevQpc : Int64) (valid : Bool) (curr : Sample)
    (h : (meterOf g valid prevEnergy prevQpc).Ready) :
    computePowerMilliwatts g curr.energy prevEnergy curr.qpc prevQpc valid =
      (meterOf g valid prevEnergy prevQpc).report curr := by
  have hdivisor : g.pkgState.energyUnitDivisor ≠ 0 := h.divisor
  have hfreq : g.qpcFreq ≠ 0 := fun e => absurd (e ▸ h.freq : (0 : Int64) < 0) (by decide)
  unfold computePowerMilliwatts
  cases valid with
  | false => rfl
  | true =>
    rw [if_neg (by simp [hdivisor, hfreq])]
    rfl

theorem retCoreLoad_vars (m : Machine) (i : UInt32) (s : Clocked Globals) :
    ∃ coreState, (retCoreLoad m i s).2.vars = { s.vars with coreState := coreState } := by
  simp only [retCoreLoad]
  repeat' split
  all_goals exact ⟨_, rfl⟩

theorem retCoreLoad_reads (m : Machine) (i : UInt32) (s : Clocked Globals) : s.reads ≤ (retCoreLoad m i s).2.reads := by
  simp only [retCoreLoad]
  repeat' split
  all_goals simp only [Clocked.set_reads, Clocked.rdtsc_reads, Clocked.readmsr_reads]
  all_goals omega

theorem retCoreTemp_reads (m : Machine) (i : UInt32) (s : Clocked Globals) : s.reads ≤ (retCoreTemp m i s).2.reads := by
  simp only [retCoreTemp]
  repeat' split
  all_goals simp only [Clocked.cpuid_reads, Clocked.readmsr_reads]
  all_goals omega

theorem retTDieTemp_reads (m : Machine) (s : Clocked Globals) : s.reads ≤ (retTDieTemp m s).2.reads := by
  simp only [retTDieTemp]
  repeat' split
  all_goals simp only [Clocked.readmsr_reads]
  all_goals omega

/-- The per-core helpers write nothing but `g_core_state`, and report no power. -/
theorem perCore_beside {meter : Globals → EnergyMeter} (hcore : ∀ g coreState, meter { g with coreState } = meter g)
    (name : String) (m : Machine) (i : UInt32) : ∀ r ∈ perCoreHelpers m i, Beside meter (powerLabel name) r := by
  intro r hr
  simp only [perCoreHelpers, List.mem_cons, List.not_mem_nil, or_false] at hr
  rcases hr with rfl | rfl | rfl | rfl
  · refine ⟨fun s => by rw [retCoreTemp_vars], retCoreTemp_reads m i, fun s => ?_⟩
    rw [retCoreTemp_label]
    exact coreData_ne_power i .temp _ _ name (by decide)
  · exact ⟨fun _ => rfl, fun _ => Nat.le_succ _, fun _ => coreData_ne_power i .voltage .millivolts "VID" name (by decide)⟩
  · exact ⟨fun _ => rfl, fun _ => Nat.le_succ _, fun _ => coreData_ne_power i .clockSpeed .mhz "Clock" name (by decide)⟩
  · refine ⟨fun s => ?_, retCoreLoad_reads m i, fun s => ?_⟩
    · obtain ⟨coreState, hvars⟩ := retCoreLoad_vars m i s
      rw [hvars, hcore]
    · rw [retCoreLoad_label]
      exact coreData_ne_power i .load _ _ name (by decide)

/-- The package temperature, where it is read. -/
def temperature (m : Machine) (g : Globals) : List (Reader Globals) := if g.hasPkgTherm then [retTDieTemp m] else []

theorem temperature_beside (meter : Globals → EnergyMeter) (name : String) (m : Machine) (g : Globals) :
    ∀ r ∈ temperature m g, Beside meter (powerLabel name) r := by
  intro r hr
  obtain rfl : r = retTDieTemp m := by
    unfold temperature at hr
    split at hr
    · exact List.mem_singleton.mp hr
    · cases hr
  refine ⟨fun s => by rw [retTDieTemp_vars], retTDieTemp_reads m, fun s => ?_⟩
  rw [retTDieTemp_label]
  exact packageData_ne_power .temp _ _ name (by decide)

theorem aggregate_supported (m : Machine) {g : Globals} (h : g.hasRapl = true) :
    aggregateHelpers m g = temperature m g ++ [retPackagePower m, retCoreDomainPower m] := by
  rw [aggregateHelpers, h]
  rfl

theorem package_ne_coreDomain : powerLabel "Package Power" ≠ powerLabel "Core Domain Power" :=
  fun e => absurd (congrArg CpuData.name e) (by decide)

def package : EnergyDomain helpers where
  addr := msrPkgEnergyStatus
  name := "Package Power"
  meter := packageMeter
  helper := retPackagePower
  before := temperature
  after m := [retCoreDomainPower m]
  aggregate_eq m _ h := aggregate_supported m h
  value m s h := by
    simp only [retPackagePower]
    exact congrArg (fun value => { powerLabel "Package Power" with value }) (computePowerMilliwatts_eq s.vars _ _ _ (sampleAt m _ s.reads) h)
  stash _ _ _ := rfl
  reads _ _ _ := rfl
  perCore_beside := perCore_beside (fun _ _ => rfl) _
  before_beside := temperature_beside _ _
  after_beside m r hr := by
    obtain rfl := List.mem_singleton.mp hr
    exact ⟨fun _ => rfl, fun _ => Nat.le_add_right _ 2, fun _ => package_ne_coreDomain.symm⟩

def coreDomain : EnergyDomain helpers where
  addr := msrPp0EnergyStatus
  name := "Core Domain Power"
  meter := coreDomainMeter
  helper := retCoreDomainPower
  before m g := temperature m g ++ [retPackagePower m]
  after _ := []
  aggregate_eq m g h := by
    rw [List.append_assoc]
    exact aggregate_supported m h
  value m s h := by
    simp only [retCoreDomainPower]
    exact congrArg (fun value => { powerLabel "Core Domain Power" with value }) (computePowerMilliwatts_eq s.vars _ _ _ (sampleAt m _ s.reads) h)
  stash _ _ _ := rfl
  reads _ _ _ := rfl
  perCore_beside := perCore_beside (fun _ _ => rfl) _
  before_beside m g r hr := by
    rcases List.mem_append.mp hr with hr | hr
    · exact temperature_beside _ _ m g r hr
    · obtain rfl := List.mem_singleton.mp hr
      exact ⟨fun _ => rfl, fun _ => Nat.le_add_right _ 2, fun _ => package_ne_coreDomain⟩
  after_beside _ _ hr := nomatch hr

end Intel

/-! ## AMD -/

namespace Amd

def packageMeter (g : Globals) : EnergyMeter where
  supported := amdFamilyZen ≤ g.family
  energyUnitDivisor := g.pkgState.energyUnitDivisor
  qpcFreq := g.qpcFreq
  last := if g.pkgState.valid then some ⟨g.pkgState.prevPkgEnergy, g.pkgState.prevPkgQpc⟩ else none

theorem packageMeter_supported {g : Globals} (h : (packageMeter g).supported = true) : ¬ g.family < amdFamilyZen :=
  UInt32.not_lt.mpr (of_decide_eq_true h)

/-- Without a unit or a clock nothing is computed, which is what the formula gives. -/
theorem powerMilliwatts_power {g : Globals} {e : EnergyMeter} (hunit : e.energyUnitDivisor = g.pkgState.energyUnitDivisor)
    (hfreq : e.qpcFreq = g.qpcFreq) (hclock : 0 ≤ g.qpcFreq) (prev curr : Sample) (valid : Bool) :
    powerMilliwatts g curr.energy prev.energy curr.qpc prev.qpc valid = if valid then e.power prev curr else 0 := by
  unfold powerMilliwatts EnergyMeter.power
  rw [hunit, hfreq]
  cases valid with
  | false => rfl
  | true =>
    by_cases hnoUnit : g.pkgState.energyUnitDivisor = 0
    · simp [hnoUnit]
    by_cases hnoClock : g.qpcFreq = 0
    · have hzero : (0 : Int64).toUInt64 = 0 := rfl
      simp [hnoClock, hzero]
    rw [if_pos ⟨rfl, UInt32.pos_iff_ne_zero.mpr hnoUnit, Int64.lt_of_le_of_ne hclock (Ne.symm hnoClock)⟩]
    simp only [if_true, gt_iff_lt, UInt64.pos_iff_ne_zero, ne_eq, ite_not]

theorem powerMilliwatts_eq (g : Globals) (curr : Sample) (h : (packageMeter g).Ready) :
    powerMilliwatts g curr.energy g.pkgState.prevPkgEnergy curr.qpc g.pkgState.prevPkgQpc g.pkgState.valid =
      (packageMeter g).report curr := by
  have hclock : 0 ≤ g.qpcFreq := Int64.le_of_lt h.freq
  have hpower := powerMilliwatts_power (e := packageMeter g) rfl rfl hclock
    ⟨g.pkgState.prevPkgEnergy, g.pkgState.prevPkgQpc⟩ curr g.pkgState.valid
  refine hpower.trans ?_
  unfold EnergyMeter.report packageMeter
  cases g.pkgState.valid <;> rfl

theorem retPackagePower_eq (m : Machine) (s : Clocked Globals) (h : (packageMeter s.vars).Ready) :
    retPackagePower m s =
      ({ powerLabel "Package Power" with value := (packageMeter s.vars).report (sampleAt m amdMsrPkgEnergyStatus s.reads) },
        ⟨s.reads + 2, { s.vars with
          pkgState := { s.vars.pkgState with
            prevPkgEnergy := (sampleAt m amdMsrPkgEnergyStatus s.reads).energy
            prevPkgQpc := (sampleAt m amdMsrPkgEnergyStatus s.reads).qpc
            valid := true } }⟩) := by
  rw [← powerMilliwatts_eq _ _ h]
  simp only [retPackagePower, if_neg (packageMeter_supported h.supported)]
  rfl

theorem retCoreLoad_vars (m : Machine) (i : UInt32) (s : Clocked Globals) :
    ∃ coreState, (retCoreLoad m i s).2.vars = { s.vars with coreState := coreState } := by
  simp only [retCoreLoad]
  repeat' split
  all_goals exact ⟨_, rfl⟩

theorem retCorePower_vars (m : Machine) (i : UInt32) (s : Clocked Globals) :
    ∃ coreState, (retCorePower m i s).2.vars = { s.vars with coreState := coreState } := by
  simp only [retCorePower]
  repeat' split
  all_goals exact ⟨_, rfl⟩

theorem retCoreLoad_reads (m : Machine) (i : UInt32) (s : Clocked Globals) : s.reads ≤ (retCoreLoad m i s).2.reads := by
  simp only [retCoreLoad]
  repeat' split
  all_goals simp only [Clocked.set_reads, Clocked.rdtsc_reads, Clocked.readmsr_reads]
  all_goals omega

theorem retCorePower_reads (m : Machine) (i : UInt32) (s : Clocked Globals) : s.reads ≤ (retCorePower m i s).2.reads := by
  simp only [retCorePower]
  repeat' split
  all_goals simp only [Clocked.set_reads, Clocked.queryPerformanceCounter_reads, Clocked.readmsr_reads]
  all_goals omega

theorem retCoreClockSpeed_vars (m : Machine) (i : UInt32) (s : Clocked Globals) :
    (retCoreClockSpeed m i s).2.vars = s.vars := by
  simp only [retCoreClockSpeed]
  split <;> rfl

theorem retCoreClockSpeed_reads (m : Machine) (i : UInt32) (s : Clocked Globals) :
    s.reads ≤ (retCoreClockSpeed m i s).2.reads := by
  simp only [retCoreClockSpeed]
  split
  all_goals simp only [Clocked.readmsr_reads]
  all_goals omega

/-- A core's power is reported under a name that starts otherwise than the package's. -/
theorem corePower_ne_package (i : UInt32) : coreData i .power .milliwatts "Power" ≠ powerLabel "Package Power" := by
  intro e
  simp only [coreData, powerLabel, packageData, CpuData.mk.injEq] at e
  have hname : coreName i "Power" = "Package Power" := e.2.1
  obtain ⟨rest, hstarts⟩ := coreName_starts i "Power"
  rw [hstarts] at hname
  have hchars := congrArg String.toList hname
  rw [String.toList_ofList] at hchars
  exact absurd (List.cons.inj hchars).1 (by decide)

theorem perCore_beside (m : Machine) (i : UInt32) :
    ∀ r ∈ perCoreHelpers m i, Beside packageMeter (powerLabel "Package Power") r := by
  intro r hr
  simp only [perCoreHelpers, List.mem_cons, List.not_mem_nil, or_false] at hr
  rcases hr with rfl | rfl | rfl
  · refine ⟨fun s => by rw [retCoreClockSpeed_vars], retCoreClockSpeed_reads m i, fun s => ?_⟩
    rw [retCoreClockSpeed_label]
    exact coreData_ne_power i .clockSpeed _ _ _ (by decide)
  · refine ⟨fun s => ?_, retCoreLoad_reads m i, fun s => ?_⟩
    · obtain ⟨coreState, hvars⟩ := retCoreLoad_vars m i s
      rw [hvars]
      rfl
    · rw [retCoreLoad_label]
      exact coreData_ne_power i .load _ _ _ (by decide)
  · refine ⟨fun s => ?_, retCorePower_reads m i, fun s => ?_⟩
    · obtain ⟨coreState, hvars⟩ := retCorePower_vars m i s
      rw [hvars]
      rfl
    · rw [retCorePower_label]
      exact corePower_ne_package i

theorem readSmn_reads (m : Machine) (address : UInt32) (s : Clocked Globals) :
    (readSmn m address s).2.vars = s.vars ∧ s.reads ≤ (readSmn m address s).2.reads := by
  simp only [readSmn]
  repeat' split
  all_goals simp only [Clocked.halSetBusData_vars, Clocked.halGetBusData_vars, Clocked.halSetBusData_reads,
    Clocked.halGetBusData_reads, true_and]
  all_goals omega

theorem retTDieTemp_snd (m : Machine) (s : Clocked Globals) :
    (retTDieTemp m s).2 = (readSmn m amdThmTconCurTempAddr s).2 := by
  unfold retTDieTemp
  split
  · rename_i s' hread
    rw [hread]
  · rename_i raw s' hread
    rw [hread]
    dsimp only
    repeat' split
    all_goals rfl

theorem retVoltage_snd (m : Machine) (name : String) (addr : UInt32) (s : Clocked Globals) :
    (retVoltage m name addr s).2 = (readSmn m addr s).2 := by
  unfold retVoltage
  split
  · rename_i s' hread
    rw [hread]
  · rename_i raw s' hread
    rw [hread]

/-- A helper that reads the SMN bus and nothing else. -/
theorem beside_of_smn {r : Reader Globals} {type : MetricType} {unit : MetricUnit} {text : String} (m : Machine)
    (haddr : ∀ s, ∃ addr, (r s).2 = (readSmn m addr s).2) (hlabel : ∀ s, (r s).1.label = packageData type unit text)
    (htype : type ≠ .power) : Beside packageMeter (powerLabel "Package Power") r where
  meter s := by
    obtain ⟨addr, h⟩ := haddr s
    rw [h, (readSmn_reads m addr s).1]
  reads s := by
    obtain ⟨addr, h⟩ := haddr s
    rw [h]
    exact (readSmn_reads m addr s).2
  label s := by
    rw [hlabel]
    exact packageData_ne_power type unit text _ htype

def package : EnergyDomain helpers where
  addr := amdMsrPkgEnergyStatus
  name := "Package Power"
  meter := packageMeter
  helper := retPackagePower
  before m _ := [retTDieTemp m, retCoreVoltage m, retSoCVoltage m]
  after _ := []
  aggregate_eq _ _ _ := rfl
  value m s h := by rw [retPackagePower_eq m s h]
  stash m s h := by
    rw [retPackagePower_eq m s h]
    rfl
  reads m s h := by rw [retPackagePower_eq m s h]
  perCore_beside := perCore_beside
  before_beside m _ r hr := by
    simp only [List.mem_cons, List.not_mem_nil, or_false] at hr
    rcases hr with rfl | rfl | rfl
    · exact beside_of_smn m (fun s => ⟨_, retTDieTemp_snd m s⟩) (retTDieTemp_label m) (by decide)
    · exact beside_of_smn m (fun s => ⟨_, retVoltage_snd m _ _ s⟩) (fun _ => retVoltage_label m _ _ _) (by decide)
    · exact beside_of_smn m (fun s => ⟨_, retVoltage_snd m _ _ s⟩) (fun _ => retVoltage_label m _ _ _) (by decide)
  after_beside _ _ hr := nomatch hr

end Amd

end HardwareMonitor.Drivers
