/-
  HardwareMonitor.Drivers.CoreLoad — when the reported core load is the exact one.

  `retCoreLoad` multiplies the MPERF difference by 100 in 64 bits, divides, cuts the
  quotient to 32 bits and only then clamps it to 100 (`loadPercent_toNat`). A core that
  was not busier than the clock is reported exactly if the product fits; one that was
  gets its 100 exactly if the quotient, cut twice, is still 100 or more
  (`cut_load_iff`). Counters that restart make such differences: the load of a core that
  resumes may come out as 0 (`restarted_reads_idle`).
-/

import HardwareMonitor.Drivers.IoctlProofs

namespace HardwareMonitor.Drivers

/-! ## Numbers -/

/-- The load in whole percent, at most 100. -/
def exactLoad (dm dt : Nat) : Nat := min 100 (100 * dm / dt)

/-- Where neither the 64 bits of the product nor the 32 bits of the quotient cut the load.
    Below full load the product fits; from full load on, what is left of it by the two
    cuts is 100 times the clock's difference or more. -/
def LoadFits (dm dt : Nat) : Prop :=
  if dm < dt then 100 * dm < 2 ^ 64 else 100 * dt ≤ 100 * dm % 2 ^ 64 % (2 ^ 32 * dt)

instance (dm dt : Nat) : Decidable (LoadFits dm dt) := inferInstanceAs (Decidable (ite _ _ _))

section

variable {dm dt : Nat}

/-- A product that is cut loses a whole `2 ^ 64`, which is more than one percent. -/
theorem cut_lt (hdt : 0 < dt) (hsize : dt < 2 ^ 64) (hcut : 2 ^ 64 ≤ 100 * dm) :
    100 * dm % 2 ^ 64 / dt < 100 * dm / dt := by
  have hmod : 100 * dm % 2 ^ 64 ≤ 100 * dm - dt := by
    have hsub := Nat.mod_eq_sub_mod hcut
    have hle := Nat.mod_le (100 * dm - 2 ^ 64) (2 ^ 64)
    omega
  have hone : 100 * dm / dt = (100 * dm - dt) / dt + 1 := Nat.div_eq_sub_div hdt (by omega)
  have hdiv : 100 * dm % 2 ^ 64 / dt ≤ (100 * dm - dt) / dt := Nat.div_le_div_right hmod
  omega

theorem cut_load_iff (hdt : 0 < dt) (hsize : dt < 2 ^ 64) :
    min 100 (100 * dm % 2 ^ 64 / dt % 2 ^ 32) = exactLoad dm dt ↔ LoadFits dm dt := by
  unfold exactLoad LoadFits
  by_cases hbusy : dm < dt
  · rw [if_pos hbusy]
    have hlt : 100 * dm / dt < 100 := Nat.div_lt_of_lt_mul (by omega)
    by_cases hfits : 100 * dm < 2 ^ 64
    · have hquotient : 100 * dm / dt % 2 ^ 32 = 100 * dm / dt := Nat.mod_eq_of_lt (by omega)
      rw [Nat.mod_eq_of_lt hfits, hquotient]
      exact ⟨fun _ => hfits, fun _ => rfl⟩
    · have hcut := cut_lt hdt hsize (Nat.le_of_not_lt hfits)
      have hle := Nat.mod_le (100 * dm % 2 ^ 64 / dt) (2 ^ 32)
      constructor
      · intro h
        omega
      · intro h
        exact absurd h hfits
  · rw [if_neg hbusy]
    have hfull : 100 ≤ 100 * dm / dt := by
      rw [Nat.le_div_iff_mul_le hdt]
      omega
    have hclamp : ∀ load, min 100 load = 100 ↔ 100 ≤ load := by omega
    rw [Nat.min_eq_left hfull, hclamp, Nat.mul_comm (2 ^ 32) dt, ← Nat.mod_mul_right_div_self,
      Nat.le_div_iff_mul_le hdt]

end

theorem loadPercent_toNat {dm dt : UInt64} (hdt : 0 < dt.toNat) :
    (loadPercent dm dt).toNat = min 100 (100 * dm.toNat % 2 ^ 64 / dt.toNat % 2 ^ 32) := by
  have hpos : dt > 0 := UInt64.lt_iff_toNat_lt.mpr hdt
  have hload : (dm * 100 / dt).toUInt32.toNat = 100 * dm.toNat % 2 ^ 64 / dt.toNat % 2 ^ 32 := by
    rw [UInt64.toNat_toUInt32, UInt64.toNat_div, UInt64.toNat_mul, Nat.mul_comm]
    rfl
  simp only [loadPercent, if_pos hpos]
  split
  · rename_i hover
    have hover' : 100 < (dm * 100 / dt).toUInt32.toNat := UInt32.lt_iff_toNat_lt.mp hover
    rw [hload] at hover'
    rw [Nat.min_eq_left (by omega)]
    rfl
  · rename_i hunder
    have hunder' : (dm * 100 / dt).toUInt32.toNat ≤ 100 := UInt32.le_iff_toNat_le.mp (UInt32.not_lt.mp hunder)
    rw [hload] at hunder' ⊢
    rw [Nat.min_eq_right hunder']

/-! ## Samples -/

/-- MPERF and TSC, as `retCoreLoad` reads them. -/
structure LoadSample where
  mperf : UInt64
  tsc : UInt64
  deriving DecidableEq, Repr

/-- The two reads of `retCoreLoad`, the first of them at `date`. -/
def loadSampleAt (m : Machine) (date : Nat) : LoadSample := ⟨m.readmsr date Intel.ia32Mperf, m.rdtsc (date + 1)⟩

/-- The difference of two readings of a 64-bit counter, modulo its size. -/
def counterDelta (prev curr : UInt64) : Nat := (((curr.toNat : Int) - prev.toNat) % 2 ^ 64).toNat

theorem toNat_sub_eq_counterDelta (prev curr : UInt64) : (curr - prev).toNat = counterDelta prev curr := by
  have hprev := prev.toNat_lt
  have hcurr := curr.toNat_lt
  rw [UInt64.toNat_sub, counterDelta]
  omega

def CpuDriver.retCoreLoad : (d : CpuDriver) → Machine → UInt32 → Reader d.Globals
  | .intel => Intel.retCoreLoad
  | .amd => Amd.retCoreLoad

/-- The previous sample of a core, where `retCoreLoad` finds a valid one. -/
def CpuDriver.prevLoad : (d : CpuDriver) → d.Globals → UInt32 → Option LoadSample
  | .intel, g, i =>
    if g.hasMperf = false ∨ g.maxProcs ≤ i then none
    else g.coreState.bind fun coreState =>
      if (coreState i).valid then some ⟨(coreState i).prevMperf, (coreState i).prevTsc⟩ else none
  | .amd, g, i =>
    if g.hasMperf = false ∨ g.maxProcs ≤ i then none
    else g.coreState.bind fun coreState =>
      if (coreState i).valid then some ⟨(coreState i).prevMperf, (coreState i).prevTsc⟩ else none

/-- What `retCoreLoad` does for a core with a previous sample: it compares the two, and
    the new one is the previous sample of the next call. -/
theorem retCoreLoad_sampled (d : CpuDriver) (m : Machine) (i : UInt32) (s : Clocked d.Globals) {prev : LoadSample}
    (hprev : d.prevLoad s.vars i = some prev) :
    let curr := loadSampleAt m s.reads
    (d.retCoreLoad m i s).1.value = loadPercent (curr.mperf - prev.mperf) (curr.tsc - prev.tsc) ∧
      d.prevLoad (d.retCoreLoad m i s).2.vars i = some curr := by
  cases d with
  | intel =>
    simp only [CpuDriver.prevLoad, Option.ite_none_left_eq_some, Option.bind_eq_some_iff,
      Option.ite_none_right_eq_some, Option.some.injEq] at hprev
    obtain ⟨hrange, coreState, hstate, hvalid, rfl⟩ := hprev
    simp only [CpuDriver.retCoreLoad, CpuDriver.prevLoad, Intel.retCoreLoad, hstate, hrange, if_false, hvalid, if_true,
      Clocked.rdtsc_vars, Clocked.readmsr_vars, Clocked.set_vars, Option.bind_some, Option.some.injEq]
    exact ⟨rfl, rfl⟩
  | amd =>
    simp only [CpuDriver.prevLoad, Option.ite_none_left_eq_some, Option.bind_eq_some_iff,
      Option.ite_none_right_eq_some, Option.some.injEq] at hprev
    obtain ⟨hrange, coreState, hstate, hvalid, rfl⟩ := hprev
    simp only [CpuDriver.retCoreLoad, CpuDriver.prevLoad, Amd.retCoreLoad, hstate, hrange, if_false, hvalid, if_true,
      Clocked.rdtsc_vars, Clocked.readmsr_vars, Clocked.set_vars, Option.bind_some, Option.some.injEq]
    exact ⟨rfl, rfl⟩

/-- Whatever the two samples, as long as the clock has moved: the reported load is the
    exact one exactly if nothing of it is cut. -/
theorem core_load_exact_iff (d : CpuDriver) (m : Machine) (i : UInt32) (s : Clocked d.Globals) (prev : LoadSample)
    (hprev : d.prevLoad s.vars i = some prev) (hdt : 0 < counterDelta prev.tsc (loadSampleAt m s.reads).tsc) :
    let curr := loadSampleAt m s.reads
    let dm := counterDelta prev.mperf curr.mperf
    let dt := counterDelta prev.tsc curr.tsc
    (d.retCoreLoad m i s).1.value.toNat = exactLoad dm dt ↔ LoadFits dm dt := by
  intro curr dm dt
  have hsize : dt < 2 ^ 64 := by
    rw [show dt = (curr.tsc - prev.tsc).toNat from (toNat_sub_eq_counterDelta _ _).symm]
    exact UInt64.toNat_lt _
  rw [(retCoreLoad_sampled d m i s hprev).1, loadPercent_toNat (by rwa [toNat_sub_eq_counterDelta]),
    toNat_sub_eq_counterDelta, toNat_sub_eq_counterDelta]
  exact cut_load_iff hdt hsize

/-- A machine on which MPERF and TSC read `sample`. -/
def loadMachine (sample : LoadSample) : Machine :=
  { (amdKernel 2).machine with readmsr := fun _ _ => sample.mperf, rdtsc := fun _ => sample.tsc }

/-- Every core was last sampled at `prev`. -/
def loadGlobals (prev : LoadSample) : Amd.Globals :=
  { amdGlobals with hasMperf := true, coreState := some fun _ => ⟨prev.mperf, prev.tsc, 0, 0, true⟩ }

/-- Half a second of work in one second. -/
theorem core_load_exact_half :
    (Amd.retCoreLoad (loadMachine ⟨1500000100, 3000000000⟩) 0 ⟨0, loadGlobals ⟨100, 0⟩⟩).1.value.toNat =
      exactLoad 1500000000 3000000000 :=
  (core_load_exact_iff .amd (loadMachine ⟨1500000100, 3000000000⟩) 0 ⟨0, loadGlobals ⟨100, 0⟩⟩ ⟨100, 0⟩ rfl
    (by decide)).mpr (by decide)

/-- The counters have restarted: the differences give 100 percent, and 0 is reported. -/
theorem restarted_reads_idle :
    let prev : LoadSample := ⟨5000000000000, 6000000000000⟩
    let curr : LoadSample := ⟨100, 1000⟩
    CpuDriver.amd.prevLoad (loadGlobals prev) 0 = some prev ∧ 0 < counterDelta prev.tsc curr.tsc ∧
      (Amd.retCoreLoad (loadMachine curr) 0 ⟨0, loadGlobals prev⟩).1.value = 0 ∧
      exactLoad (counterDelta prev.mperf curr.mperf) (counterDelta prev.tsc curr.tsc) = 100 := by
  decide

end HardwareMonitor.Drivers
