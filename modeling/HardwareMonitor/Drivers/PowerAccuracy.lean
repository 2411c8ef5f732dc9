/-
  HardwareMonitor.Drivers.PowerAccuracy — how far the reported power may be from the exact
  average power between two samples.

  Three divisions truncate: the time to whole milliseconds, the energy to whole
  millijoules, and their quotient. The time is never too long, so the quotient may come
  out too high by the factor (T + 1) / T; the energy may be too low by a millijoule, which
  is 1000 / T milliwatts, and the last division loses less than one more
  (`truncated_power`). The products before the divisions fit into 64 bits
  (`power_toNat`), so the numbers are those of the code.
-/

import Mathlib.Algebra.Order.Field.Rat
import Mathlib.Algebra.Order.Field.Basic
import Mathlib.Tactic.Linarith
import Mathlib.Tactic.Ring
import Mathlib.Tactic.GCongr
import HardwareMonitor.Drivers.EnergyDomains
import HardwareMonitor.Drivers.IoctlProofs

namespace HardwareMonitor.Drivers

open HardwareMonitor.Lib.WrappingCounter

/-! ## Numbers -/

/-- The exact average power in mW: `D` counts of 1/`U` J in `q` ticks of a clock of `f` Hz. -/
def averagePower (D U f q : Nat) : ℚ := 1000 * D * f / (U * q)

section

variable {D U f q T e P : Nat}

/-- The time is cut down, so the power over it is not too low. -/
theorem averagePower_mul_le (hU : 0 < U) (hq : 0 < q) (hT : f * T ≤ 1000 * q) :
    averagePower D U f q * T ≤ 1000 * (1000 * D) / U := by
  have hU' : (0 : ℚ) < U := Nat.cast_pos.mpr hU
  have hq' : (0 : ℚ) < q := Nat.cast_pos.mpr hq
  have hT' : (f * T : ℚ) ≤ 1000 * q := by exact_mod_cast hT
  rw [averagePower, div_mul_eq_mul_div, div_le_div_iff₀ (mul_pos hU' hq') hU']
  calc (1000 * D * f * T * U : ℚ) = 1000 * D * U * (f * T) := by ring
    _ ≤ 1000 * D * U * (1000 * q) := by gcongr
    _ = 1000 * (1000 * D) * (U * q) := by ring

/-- It is cut by less than a millisecond. -/
theorem le_averagePower_mul (hU : 0 < U) (hq : 0 < q) (hT : 1000 * q ≤ f * (T + 1)) :
    1000 * (1000 * D) / U ≤ averagePower D U f q * (T + 1) := by
  have hU' : (0 : ℚ) < U := Nat.cast_pos.mpr hU
  have hq' : (0 : ℚ) < q := Nat.cast_pos.mpr hq
  have hT' : (1000 * q : ℚ) ≤ f * (T + 1) := by exact_mod_cast hT
  rw [averagePower, div_mul_eq_mul_div, div_le_div_iff₀ hU' (mul_pos hU' hq')]
  calc (1000 * (1000 * D) * (U * q) : ℚ) = 1000 * D * U * (1000 * q) := by ring
    _ ≤ 1000 * D * U * (f * (T + 1)) := by gcongr
    _ = 1000 * D * f * (T + 1) * U := by ring

/-- Energy and quotient are cut down. -/
theorem le_energy (hU : 0 < U) (he : U * e ≤ 1000 * D) (hP : T * P ≤ 1000 * e) :
    (P * T : ℚ) ≤ 1000 * (1000 * D) / U := by
  have hU' : (0 : ℚ) < U := Nat.cast_pos.mpr hU
  have he' : (U * e : ℚ) ≤ 1000 * D := by exact_mod_cast he
  have hP' : (T * P : ℚ) ≤ 1000 * e := by exact_mod_cast hP
  rw [le_div_iff₀ hU']
  calc (P * T * U : ℚ) = U * (T * P) := by ring
    _ ≤ U * (1000 * e) := by gcongr
    _ = 1000 * (U * e) := by ring
    _ ≤ 1000 * (1000 * D) := by gcongr

/-- The energy is cut by less than a millijoule, the quotient by less than a milliwatt. -/
theorem energy_lt (hU : 0 < U) (he : 1000 * D < U * (e + 1)) (hP : 1000 * e < T * (P + 1)) :
    (1000 * (1000 * D) / U - 1000 : ℚ) < (P + 1) * T := by
  have hU' : (0 : ℚ) < U := Nat.cast_pos.mpr hU
  have he' : (1000 * D : ℚ) < U * (e + 1) := by exact_mod_cast he
  have hP' : (1000 * e : ℚ) < T * (P + 1) := by exact_mod_cast hP
  rw [sub_lt_iff_lt_add, div_lt_iff₀ hU']
  calc (1000 * (1000 * D) : ℚ) < 1000 * (U * (e + 1)) := by gcongr
    _ = U * (1000 * e) + 1000 * U := by ring
    _ < U * (T * (P + 1)) + 1000 * U := by gcongr
    _ = ((P + 1) * T + 1000) * U := by ring

/-- The three divisions together. -/
theorem truncated_power (hU : 0 < U) (hf : 0 < f) (hq : 0 < q) (hT : T = 1000 * q / f) (hpos : 1 ≤ T)
    (he : e = 1000 * D / U) (hP : P = 1000 * e / T) :
    averagePower D U f q - 1000 / T - 1 < P ∧ (P : ℚ) ≤ averagePower D U f q * (T + 1) / T := by
  have hT' : (0 : ℚ) < T := Nat.cast_pos.mpr hpos
  have hlow := averagePower_mul_le (D := D) hU hq (hT ▸ Nat.mul_div_le (1000 * q) f)
  have hhigh := le_averagePower_mul (D := D) hU hq (hT ▸ Nat.le_of_lt (Nat.lt_mul_div_succ (1000 * q) hf))
  have hle := le_energy hU (he ▸ Nat.mul_div_le (1000 * D) U) (hP ▸ Nat.mul_div_le (1000 * e) T)
  have hlt := energy_lt hU (he ▸ Nat.lt_mul_div_succ (1000 * D) hU) (hP ▸ Nat.lt_mul_div_succ (1000 * e) hpos)
  constructor
  · have hstep : averagePower D U f q * T - 1000 < (P + 1) * T := by linarith
    have hdiv : averagePower D U f q - 1000 / T < P + 1 := by
      rw [← mul_lt_mul_iff_left₀ hT', sub_mul, div_mul_cancel₀ _ hT'.ne']
      exact hstep
    linarith
  · rw [le_div_iff₀ hT']
    exact hle.trans hhigh

end

/-! ## Words -/

/-- A non-negative LARGE_INTEGER is the same number as a ULONGLONG. -/
theorem toUInt64_toNat_of_toInt {x : Int64} {n : Nat} (h : x.toInt = n) : x.toUInt64.toNat = n := by
  have hx := x.toBitVec.isLt
  rw [show x.toInt = x.toBitVec.toInt from rfl, BitVec.toInt_eq_toNat_cond] at h
  rw [← Int64.toNat_toBitVec]
  split at h <;> omega

/-- `qpc_delta` is the true difference, even where the subtraction wraps. -/
theorem qpcDelta_toNat {curr prev : Int64} {q : Nat} (h : curr.toInt - prev.toInt = q) (hq : q < UInt64.size) :
    (curr - prev).toUInt64.toNat = q := by
  have hc := curr.toBitVec.isLt
  have hp := prev.toBitVec.isLt
  have hsize : UInt64.size = 2 ^ 64 := rfl
  rw [show curr.toInt = curr.toBitVec.toInt from rfl, show prev.toInt = prev.toBitVec.toInt from rfl,
    BitVec.toInt_eq_toNat_cond, BitVec.toInt_eq_toNat_cond] at h
  rw [← Int64.toNat_toBitVec, Int64.toBitVec_sub, BitVec.toNat_sub]
  split at h <;> split at h <;> omega

/-- `energy_delta` is the difference modulo the size of the register. -/
theorem energyDelta_emod (curr prev : UInt32) :
    ((energyDelta curr prev).toNat : Int) = ((curr.toNat : Int) - prev.toNat) % UInt32.size := by
  have hc := curr.toNat_lt
  have hp := prev.toNat_lt
  rw [energyDelta_toNat, advance, show UInt32.size = 4294967296 from rfl]
  split <;> omega

theorem energyUnitShift_le (raplUnit : UInt64) : energyUnitShift raplUnit ≤ 31 := by
  have hmask : genmask 12 8 = 0x1F00 := by decide
  have hand : (raplUnit &&& 0x1F00).toNat ≤ 0x1F00 := by
    rw [UInt64.toNat_and]
    exact Nat.and_le_right
  rw [energyUnitShift, hmask, UInt32.le_iff_toNat_le, UInt64.toNat_toUInt32, UInt64.toNat_shiftRight,
    Nat.shiftRight_eq_div_pow]
  show (raplUnit &&& 0x1F00).toNat / 2 ^ 8 % 2 ^ 32 ≤ 31
  omega

theorem energyUnitDivisor_toNat {esu : UInt32} (h : esu ≤ 31) : (energyUnitDivisor esu).toNat = 2 ^ esu.toNat := by
  have hesu : esu.toNat ≤ 31 := UInt32.le_iff_toNat_le.mp h
  have hone : (1 : UInt32).toNat = 1 := rfl
  rw [energyUnitDivisor, UInt32.toNat_shiftLeft, hone, Nat.mod_eq_of_lt (by omega : esu.toNat < 32), Nat.one_shiftLeft]
  exact Nat.mod_eq_of_lt (Nat.pow_lt_pow_right (by decide) (by omega))

/-! ## Meters -/

namespace EnergyMeter

/-- The time between two samples, in whole milliseconds. -/
def elapsedMs (e : EnergyMeter) (prev curr : Sample) : Nat :=
  (curr.qpc - prev.qpc).toUInt64.toNat * 1000 % UInt64.size / e.qpcFreq.toUInt64.toNat

/-- The energy between two samples, in whole millijoules. -/
def energyMj (e : EnergyMeter) (prev curr : Sample) : Nat :=
  (energyDelta curr.energy prev.energy).toNat * 1000 / e.energyUnitDivisor.toNat

variable (e : EnergyMeter) (prev curr : Sample)

theorem energyMj_lt : e.energyMj prev curr < 4294967296 * 1000 := by
  have hlt := (energyDelta curr.energy prev.energy).toNat_lt
  have hle := Nat.div_le_self ((energyDelta curr.energy prev.energy).toNat * 1000) e.energyUnitDivisor.toNat
  unfold energyMj
  omega

/-- The products of the energy do not overflow. -/
theorem energy_product : ((energyDelta curr.energy prev.energy).toUInt64 * 1000).toNat =
    (energyDelta curr.energy prev.energy).toNat * 1000 := by
  have hlt := (energyDelta curr.energy prev.energy).toNat_lt
  rw [UInt64.toNat_mul, UInt32.toNat_toUInt64]
  exact Nat.mod_eq_of_lt (by show _ * 1000 < _; omega)

theorem power_product : ((energyDelta curr.energy prev.energy).toUInt64 * 1000 / e.energyUnitDivisor.toUInt64 * 1000).toNat =
    e.energyMj prev curr * 1000 := by
  have hlt := e.energyMj_lt prev curr
  rw [UInt64.toNat_mul, UInt64.toNat_div, energy_product, UInt32.toNat_toUInt64]
  exact Nat.mod_eq_of_lt (by show e.energyMj prev curr * 1000 < _; omega)

/-- The reported power in numbers; a division by a time of 0 gives 0, as the code has it. -/
theorem power_toNat : (e.power prev curr).toNat = e.energyMj prev curr * 1000 / e.elapsedMs prev curr % UInt32.size := by
  have htime : ((curr.qpc - prev.qpc).toUInt64 * 1000 / e.qpcFreq.toUInt64).toNat = e.elapsedMs prev curr := by
    rw [UInt64.toNat_div, UInt64.toNat_mul]
    rfl
  simp only [power]
  split
  · rename_i hzero
    rw [← htime, hzero]
    simp
  · rw [UInt64.toNat_toUInt32, UInt64.toNat_div, htime, power_product]

end EnergyMeter

/-! ## The reported power -/

/-- How close `P` is to the average power of `D` counts of 1/`U` J in `q` ticks of `f` Hz. -/
structure Accurate (D U f q : Nat) (P : UInt32) : Prop where
  short : 1000 * q / f = 0 → P = 0
  close : 1 ≤ 1000 * q / f → averagePower D U f q * ((1000 * q / f : Nat) + 1) / (1000 * q / f : Nat) < UInt32.size →
    averagePower D U f q - 1000 / (1000 * q / f : Nat) - 1 < P.toNat ∧
      (P.toNat : ℚ) ≤ averagePower D U f q * ((1000 * q / f : Nat) + 1) / (1000 * q / f : Nat)

theorem power_accurate {e : EnergyMeter} {prev curr : Sample} {esu : UInt32} {freq : Int64} {f q : Nat} (hesu : esu ≤ 31)
    (hf : 0 < f) (hunit : e.energyUnitDivisor = energyUnitDivisor esu) (hclock : e.qpcFreq = freq) (hfreq : freq.toInt = f)
    (hq : curr.qpc.toInt - prev.qpc.toInt = q) (hwide : q * 1000 < UInt64.size) :
    Accurate (energyDelta curr.energy prev.energy).toNat (2 ^ esu.toNat) f q (e.power prev curr) := by
  have hT : e.elapsedMs prev curr = 1000 * q / f := by
    rw [EnergyMeter.elapsedMs, hclock, toUInt64_toNat_of_toInt hfreq, qpcDelta_toNat hq (by omega), Nat.mod_eq_of_lt hwide,
      Nat.mul_comm]
  have hmj : e.energyMj prev curr = 1000 * (energyDelta curr.energy prev.energy).toNat / 2 ^ esu.toNat := by
    rw [EnergyMeter.energyMj, hunit, energyUnitDivisor_toNat hesu, Nat.mul_comm]
  have hP := e.power_toNat prev curr
  rw [hT, hmj, Nat.mul_comm _ 1000] at hP
  constructor
  · intro hshort
    rw [hshort, Nat.div_zero] at hP
    exact UInt32.toNat_inj.mp hP
  · intro hlong hnarrow
    have hqpos : 0 < q := Nat.pos_of_ne_zero fun h => by simp [h] at hlong
    obtain ⟨hlow, hhigh⟩ := truncated_power (D := (energyDelta curr.energy prev.energy).toNat)
      (Nat.two_pow_pos esu.toNat) hf hqpos rfl hlong rfl rfl
    have hfits : 1000 * (1000 * (energyDelta curr.energy prev.energy).toNat / 2 ^ esu.toNat) / (1000 * q / f) < UInt32.size := by
      exact_mod_cast hhigh.trans_lt hnarrow
    rw [hP, Nat.mod_eq_of_lt hfits]
    exact ⟨hlow, hhigh⟩

/-- For every two samples of a package's energy, every energy unit, every frequency and
    every QPC difference: no product on the way to the reported power overflows; under a
    millisecond apart 0 is reported, and from a millisecond on what either driver reports
    is as close to the average power as the truncations allow. -/
theorem reported_power_accurate (prev curr : Sample) (esu : UInt32) (hesu : esu ≤ 31) (freq : Int64) (f q : Nat)
    (hfreq : freq.toInt = f) (hf : 0 < f) (hq : curr.qpc.toInt - prev.qpc.toInt = q) (hwide : q * 1000 < UInt64.size) :
    let D := (((curr.energy.toNat : Int) - prev.energy.toNat) % UInt32.size).toNat
    let U := 2 ^ esu.toNat
    ((curr.qpc - prev.qpc).toUInt64 * 1000).toNat = q * 1000 ∧
    ((energyDelta curr.energy prev.energy).toUInt64 * 1000).toNat = D * 1000 ∧
    ((energyDelta curr.energy prev.energy).toUInt64 * 1000 / (energyUnitDivisor esu).toUInt64 * 1000).toNat =
      D * 1000 / U * 1000 ∧
    (∀ g : Intel.Globals, g.pkgState.energyUnitDivisor = energyUnitDivisor esu → g.qpcFreq = freq →
      Accurate D U f q (Intel.computePowerMilliwatts g curr.energy prev.energy curr.qpc prev.qpc true)) ∧
    ∀ (m : Machine) (s : Clocked Amd.Globals), Amd.amdFamilyZen ≤ s.vars.family → s.vars.qpcFreq = freq →
      s.vars.pkgState = ⟨prev.energy, prev.qpc, true, energyUnitDivisor esu⟩ →
      sampleAt m Amd.amdMsrPkgEnergyStatus s.reads = curr → Accurate D U f q (Amd.retPackagePower m s).1.value := by
  intro D U
  have hD : (energyDelta curr.energy prev.energy).toNat = D := by
    rw [← Int.toNat_natCast (energyDelta curr.energy prev.energy).toNat, energyDelta_emod]
  have hU : (energyUnitDivisor esu).toNat = U := energyUnitDivisor_toNat hesu
  have hdivisor : energyUnitDivisor esu ≠ 0 := fun h => by
    rw [h] at hU
    exact absurd hU (Nat.two_pow_pos esu.toNat).ne
  have hticks : 0 < freq := by
    rw [Int64.lt_iff_toInt_lt, hfreq]
    exact Int.natCast_pos.mpr hf
  refine ⟨?_, ?_, ?_, fun g hunit hclock => ?_, fun m s hfamily hclock hstate hcurr => ?_⟩
  · rw [UInt64.toNat_mul, qpcDelta_toNat hq (by omega)]
    exact Nat.mod_eq_of_lt hwide
  · rw [EnergyMeter.energy_product, hD]
  · rw [EnergyMeter.power_product ⟨true, energyUnitDivisor esu, freq, none⟩, EnergyMeter.energyMj, hD, hU]
  · -- the function does not look at `hasRapl`, which its callers have checked
    have hready : (Intel.meterOf { g with hasRapl := true } true prev.energy prev.qpc).Ready :=
      ⟨rfl, fun h => hdivisor (hunit ▸ h), hclock ▸ hticks⟩
    have hreport := Intel.computePowerMilliwatts_eq { g with hasRapl := true } prev.energy prev.qpc true curr hready
    rw [show Intel.computePowerMilliwatts g curr.energy prev.energy curr.qpc prev.qpc true = _ from hreport, ← hD]
    exact power_accurate hesu hf hunit hclock hfreq hq hwide
  · have hunit : (Amd.packageMeter s.vars).energyUnitDivisor = energyUnitDivisor esu := by
      rw [Amd.packageMeter, hstate]
    have hlast : (Amd.packageMeter s.vars).last = some prev := by
      rw [Amd.packageMeter, hstate]
      rfl
    have hready : (Amd.packageMeter s.vars).Ready :=
      ⟨decide_eq_true hfamily, hunit ▸ hdivisor, (show (Amd.packageMeter s.vars).qpcFreq = freq from hclock) ▸ hticks⟩
    rw [Amd.retPackagePower_eq m s hready, ← hD]
    simp only [EnergyMeter.report, hlast, hcurr]
    exact power_accurate hesu hf hunit hclock hfreq hq hwide

/-- A machine whose registers read `msr`, with its clock at `qpc`. -/
def sampledMachine (msr : UInt64) (qpc : Int64) : Machine :=
  { (amdKernel 2).machine with readmsr := fun _ _ => msr, queryPerformanceCounter := fun _ => qpc }

/-- The package was sampled shortly before its counter wraps. -/
def sampledGlobals : Amd.Globals :=
  { amdGlobals with pkgState := ⟨4294967000, 0, true, energyUnitDivisor (energyUnitShift 0xA1003)⟩ }

/-- A second later the counter has wrapped: 1296 counts of 1/65536 J. -/
theorem reported_power_accurate_wrap :
    Accurate 1296 65536 10000000 10000000 (Amd.retPackagePower (sampledMachine 1000 10000000) ⟨0, sampledGlobals⟩).1.value :=
  (reported_power_accurate ⟨4294967000, 0⟩ ⟨1000, 10000000⟩ (energyUnitShift 0xA1003) (energyUnitShift_le _) 10000000
    10000000 10000000 (by decide) (by decide) (by decide) (by decide)).2.2.2.2 (sampledMachine 1000 10000000)
    ⟨0, sampledGlobals⟩ (by decide) rfl rfl (by decide)

end HardwareMonitor.Drivers
