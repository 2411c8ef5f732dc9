/-
  HardwareMonitor.Drivers.PackagePower — the two drivers' `retPackagePower`, side by side.

  AMD's nests its guards and Intel's leaves a helper early, and they keep their last sample
  in different structs. On the same samples they report the same (`package_power_agrees`):
  one sample takes states that agree to the same value and to states that agree
  (`retPackagePower_lockstep`). The guards differ on a negative frequency only, which
  Intel's takes for a clock.
-/

import HardwareMonitor.Drivers.EnergyDomains
import HardwareMonitor.Drivers.IoctlProofs

namespace HardwareMonitor.Drivers

open HardwareMonitor.Lib.Batch (trace Lockstep trace_lockstep)

variable {σ : Type}

/-- The last package sample as a driver keeps it. -/
structure PackageState where
  prevEnergy : UInt32
  prevQpc : Int64
  valid : Bool
  deriving DecidableEq

def PackageState.zero : PackageState := ⟨0, 0, false⟩

def Intel.packageState (g : Intel.Globals) : PackageState :=
  ⟨g.pkgState.prevPkgEnergy, g.pkgState.prevPkgQpc, g.pkgState.pkgValid⟩

def Amd.packageState (g : Amd.Globals) : PackageState :=
  ⟨g.pkgState.prevPkgEnergy, g.pkgState.prevPkgQpc, g.pkgState.valid⟩

/-- A helper called when the next hardware read is the one of `date`. -/
def callAt (helper : Machine → Reader σ) (m : Machine) (date : Nat) (g : σ) : CpuData × σ :=
  ((helper m ⟨date, g⟩).1, (helper m ⟨date, g⟩).2.vars)

/-- What can be seen of a call: the value it reports, and the sample it leaves stored. -/
def seen (state : σ → PackageState) (call : CpuData × σ) : UInt32 × PackageState := (call.1.value, state call.2)

/-- What can be seen of the calls at these dates. -/
def packageRun (helper : Machine → Reader σ) (state : σ → PackageState) (m : Machine) (dates : List Nat) (g : σ) :
    List (UInt32 × PackageState) :=
  (trace (dates.map (callAt helper m)) g).map (seen state)

/-- The drivers agree on the unit, the clock and the last sample, and AMD's reports at all. -/
structure PackagesAgree (g : Intel.Globals) (g' : Amd.Globals) : Prop where
  family : Amd.amdFamilyZen ≤ g'.family
  divisor : g.pkgState.energyUnitDivisor = g'.pkgState.energyUnitDivisor
  clock : g.qpcFreq = g'.qpcFreq
  freq : 0 ≤ g.qpcFreq
  last : Intel.packageState g = Amd.packageState g'

/-- Negated guards with early returns against nested positive ones. -/
theorem computePowerMilliwatts_agrees {g : Intel.Globals} {g' : Amd.Globals} (h : PackagesAgree g g')
    (currEnergy prevEnergy : UInt32) (currQpc prevQpc : Int64) (valid : Bool) :
    Intel.computePowerMilliwatts g currEnergy prevEnergy currQpc prevQpc valid =
      Amd.powerMilliwatts g' currEnergy prevEnergy currQpc prevQpc valid := by
  have hfreq : ¬ g'.qpcFreq = 0 ↔ 0 < g'.qpcFreq := by
    have hnonneg := h.clock ▸ h.freq
    exact ⟨fun hne => Int64.lt_of_le_of_ne hnonneg (Ne.symm hne), fun hpos => (Int64.ne_of_lt hpos).symm⟩
  have hguard : (valid = false ∨ g.pkgState.energyUnitDivisor = 0 ∨ g.qpcFreq = 0) ↔
      ¬ (valid = true ∧ g'.pkgState.energyUnitDivisor > 0 ∧ g'.qpcFreq > 0) := by
    rw [h.divisor, h.clock, gt_iff_lt, gt_iff_lt, UInt32.pos_iff_ne_zero, ← hfreq]
    cases valid <;> simp only [Bool.false_eq_true, true_or, false_and, not_false_eq_true, false_or, true_and,
      Bool.true_eq_false]
    tauto
  unfold Intel.computePowerMilliwatts Amd.powerMilliwatts
  by_cases hskip : valid = false ∨ g.pkgState.energyUnitDivisor = 0 ∨ g.qpcFreq = 0
  · rw [if_pos hskip, if_neg (hguard.mp hskip)]
  · rw [if_neg hskip, if_pos (not_not.mp fun hn => hskip (hguard.mpr hn)), h.divisor, h.clock]
    simp only [gt_iff_lt, UInt64.pos_iff_ne_zero, ne_eq, ite_not]

/-- A call of Intel's helper, by the sample it takes. -/
theorem Intel.callAt_retPackagePower (m : Machine) (date : Nat) (g : Intel.Globals) :
    let x := sampleAt m Intel.msrPkgEnergyStatus date
    let last := Intel.packageState g
    (callAt Intel.retPackagePower m date g).1.value =
        Intel.computePowerMilliwatts g x.energy last.prevEnergy x.qpc last.prevQpc last.valid ∧
      (callAt Intel.retPackagePower m date g).2 =
        { g with pkgState := { g.pkgState with prevPkgEnergy := x.energy, prevPkgQpc := x.qpc, pkgValid := true } } :=
  ⟨rfl, rfl⟩

/-- A call of AMD's. -/
theorem Amd.callAt_retPackagePower (m : Machine) (date : Nat) {g : Amd.Globals} (h : Amd.amdFamilyZen ≤ g.family) :
    let x := sampleAt m Amd.amdMsrPkgEnergyStatus date
    let last := Amd.packageState g
    (callAt Amd.retPackagePower m date g).1.value =
        Amd.powerMilliwatts g x.energy last.prevEnergy x.qpc last.prevQpc last.valid ∧
      (callAt Amd.retPackagePower m date g).2 =
        { g with pkgState := { g.pkgState with prevPkgEnergy := x.energy, prevPkgQpc := x.qpc, valid := true } } := by
  have hold : ¬ g.family < Amd.amdFamilyZen := UInt32.not_lt.mpr h
  constructor
  · simp only [callAt, Amd.retPackagePower, if_neg hold]
    rfl
  · simp only [callAt, Amd.retPackagePower, if_neg hold]
    rfl

/-- The same sample takes drivers that agree to the same value, and they agree again. -/
theorem retPackagePower_lockstep {m m' : Machine} {date date' : Nat}
    (hsample : sampleAt m Intel.msrPkgEnergyStatus date = sampleAt m' Amd.amdMsrPkgEnergyStatus date') :
    Lockstep PackagesAgree (seen Intel.packageState) (seen Amd.packageState)
      (callAt Intel.retPackagePower m date) (callAt Amd.retPackagePower m' date') := by
  intro g g' h
  obtain ⟨hvalue, hnext⟩ := Intel.callAt_retPackagePower m date g
  obtain ⟨hvalue', hnext'⟩ := Amd.callAt_retPackagePower m' date' h.family
  have hsame : (callAt Intel.retPackagePower m date g).1.value = (callAt Amd.retPackagePower m' date' g').1.value := by
    rw [hvalue, hvalue', ← hsample, ← h.last]
    exact computePowerMilliwatts_agrees h ..
  have hlast : Intel.packageState (callAt Intel.retPackagePower m date g).2 =
      Amd.packageState (callAt Amd.retPackagePower m' date' g').2 := by
    rw [hnext, hnext', ← hsample]
    rfl
  refine ⟨by rw [seen, seen, hsame, hlast], ?_⟩
  rw [hnext, hnext'] at hlast ⊢
  exact ⟨h.family, h.divisor, h.clock, h.freq, hlast⟩

/-- From zeroed state, on every sequence of samples: with one unit and one clock that is
    not negative, the two drivers report the same values, and store the same after each. -/
theorem package_power_agrees (m m' : Machine) (samples : List Sample) (dates dates' : List Nat)
    (hsampled : dates.map (sampleAt m Intel.msrPkgEnergyStatus) = samples)
    (hsampled' : dates'.map (sampleAt m' Amd.amdMsrPkgEnergyStatus) = samples)
    (g : Intel.Globals) (g' : Amd.Globals) (hfamily : Amd.amdFamilyZen ≤ g'.family)
    (hdivisor : g.pkgState.energyUnitDivisor = g'.pkgState.energyUnitDivisor) (hclock : g.qpcFreq = g'.qpcFreq)
    (hfreq : 0 ≤ g.qpcFreq) (hzero : Intel.packageState g = .zero) (hzero' : Amd.packageState g' = .zero) :
    packageRun Intel.retPackagePower Intel.packageState m dates g =
      packageRun Amd.retPackagePower Amd.packageState m' dates' g' := by
  have hsame : List.Forall₂ Eq (dates.map (sampleAt m Intel.msrPkgEnergyStatus)) (dates'.map (sampleAt m' Amd.amdMsrPkgEnergyStatus)) := by
    rw [List.forall₂_eq_eq_eq, hsampled, hsampled']
  rw [List.forall₂_map_left_iff, List.forall₂_map_right_iff] at hsame
  refine trace_lockstep ?_ (R := PackagesAgree) ⟨hfamily, hdivisor, hclock, hfreq, hzero.trans hzero'.symm⟩
  rw [List.forall₂_map_left_iff, List.forall₂_map_right_iff]
  exact hsame.imp fun _ _ h => retPackagePower_lockstep h

/-- An Intel part, freshly loaded, with the unit and the clock of `amdGlobals`. -/
def intelGlobals : Intel.Globals where
  hasMperf := false
  hasPkgTherm := true
  hasRapl := true
  coreState := none
  pkgState := ⟨0, 0, false, 0, 0, false, 65536⟩
  maxProcs := 2
  qpcFreq := 10000000

/-- A machine on which every counter and the clock go up with every read. -/
def risingMachine : Machine :=
  { (amdKernel 2).machine with
    readmsr := fun date _ => (4294960000 + 4000 * date).toUInt64
    queryPerformanceCounter := fun date => Int64.ofNat (1000000 * date) }

/-- Three samples, of which the last two have the counter's wrap between them. -/
theorem package_power_agrees_three :
    packageRun Intel.retPackagePower Intel.packageState risingMachine [0, 1, 3] intelGlobals =
      packageRun Amd.retPackagePower Amd.packageState risingMachine [0, 1, 3] amdGlobals :=
  package_power_agrees risingMachine risingMachine _ [0, 1, 3] [0, 1, 3] rfl rfl intelGlobals amdGlobals (by decide) rfl rfl
    (by decide) rfl rfl

end HardwareMonitor.Drivers
