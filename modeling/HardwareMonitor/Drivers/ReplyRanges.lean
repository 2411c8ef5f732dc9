/-
  HardwareMonitor.Drivers.ReplyRanges — what a reader may rely on in the entries of a reply.

  Every helper cuts its value out of a register field, and clamps or checks some of them,
  so each metric has a largest value that no register content exceeds. A core's load and
  power need its cell of `g_core_state`; a core without one reports zero. Both hold of
  every entry of every reply of a driver that has been loaded, whatever was served before
  (`replies_in_range`): the cells up to `buf_idx` hold what helpers have reported
  (`Reported`, kept by every metric that is added), also where the index wraps.
-/

import HardwareMonitor.Drivers.Lifecycle
import HardwareMonitor.Drivers.ReplyLabels
import HardwareMonitor.Drivers.RequestSafety

namespace HardwareMonitor.Drivers

/-! ## Entries of a filling -/

section

variable {σ : Type} {D : Driver σ} {P : σ → Prop} {Q : CpuData → Prop}

/-- From variables that `P` holds of, the helper reports what `Q` holds of. -/
def Reports (P : σ → Prop) (Q : CpuData → Prop) (r : Reader σ) : Prop := ∀ s, P s.vars → Q (r s).1

/-- Every metric helper reports what `Q` holds of. -/
structure HelpersReport (H : D.Helpers) (P : σ → Prop) (Q : CpuData → Prop) : Prop where
  perCore : ∀ m i, ∀ r ∈ H.perCore m i, Reports P Q r
  aggregate : ∀ m g, ∀ r ∈ H.aggregate m g, Reports P Q r

/-- The variables are as `P` says, and so are the entries the index counts as `Q` says. -/
structure Reported (P : σ → Prop) (Q : CpuData → Prop) (f : Fill σ) : Prop where
  vars : P f.world.drv.vars
  entries : ∀ i, i < f.bufferIdx.toNat → Q (f.world.out.data i)

/-- An index that wraps counts fewer entries. -/
theorem addMetric_reported {f : Fill σ} (hf : Reported P Q f) (len : UInt32) {r : Reader σ} (hr : Reports P Q r)
    (hkeep : ∀ s, P s.vars → P (r s).2.vars) : Reported P Q (addMetric len r f).2 := by
  obtain ⟨-, hadd⟩ | ⟨-, header, hadd⟩ := addMetric_cases len r f
  · rw [hadd]
    refine ⟨hkeep _ hf.vars, fun i hi => ?_⟩
    have hnext : i < f.bufferIdx.toNat + 1 := by
      apply Nat.lt_of_lt_of_le hi
      rw [UInt16.toNat_add]
      exact Nat.mod_le _ _
    show Q (if i = f.bufferIdx.toNat then (r f.world.drv).1 else f.world.out.data i)
    by_cases hlast : i = f.bufferIdx.toNat
    · rw [if_pos hlast]
      exact hr _ hf.vars
    · rw [if_neg hlast]
      exact hf.entries i (by omega)
  · rw [hadd]
    exact ⟨hkeep _ hf.vars, hf.entries⟩

theorem addMetrics_reported {rs : List (Reader σ)} (hreport : ∀ r ∈ rs, Reports P Q r)
    (hkeep : ∀ r ∈ rs, ∀ s, P s.vars → P (r s).2.vars) (len : UInt32) {f : Fill σ} (hf : Reported P Q f) :
    Reported P Q (addMetrics len rs f).2 := by
  induction rs generalizing f with
  | nil => exact hf
  | cons r rs ih =>
    have hone := addMetric_reported hf len (hreport r List.mem_cons_self) (hkeep r List.mem_cons_self)
    simp only [addMetrics]
    split
    · apply ih
      · intro t ht
        exact hreport t (List.mem_cons_of_mem _ ht)
      · intro t ht
        exact hkeep t (List.mem_cons_of_mem _ ht)
      · exact hone
    · exact hone

variable {H : D.Helpers} (hkeep : HelpersKeep H P) (hreport : HelpersReport H P Q) (k : Kernel) (len : UInt32)

include hkeep hreport

theorem visitProcessors_reported (is : List UInt32) {v : Visit σ} (hv : Reported P Q v.fill) :
    Reported P Q (visitProcessors D k len is v).fill := by
  induction is generalizing v with
  | nil => exact hv
  | cons i is ih =>
    rw [visitProcessors]
    split
    · split
      · exact ih hv
      · apply ih
        rw [visitProcessor]
        simp only [H.perCore_eq]
        exact addMetrics_reported (hreport.perCore k.machine i) (hkeep.perCore k.machine i) len ⟨hv.vars, hv.entries⟩
    · exact hv

theorem collectMetrics_reported {w : World σ} (hw : P w.drv.vars) : Reported P Q (collectMetrics D k len w).2 := by
  have hstart : Reported P Q (Visit.start w).fill := ⟨hw, fun i hi => absurd hi (Nat.not_lt_zero i)⟩
  have hloop := visitProcessors_reported hkeep hreport k len (processorIndexes k.activeProcessorCount) hstart
  have hrevert : Reported P Q (visitProcessors D k len (processorIndexes k.activeProcessorCount) (.start w)).revert := by
    rw [Visit.revert]
    split
    · exact ⟨hloop.vars, hloop.entries⟩
    · exact hloop
  simp only [collectMetrics]
  split
  · rw [H.aggregate_eq]
    exact addMetrics_reported (hreport.aggregate k.machine _) (hkeep.aggregate k.machine _) len hrevert
  · exact hrevert

omit hkeep hreport in
/-- The entries of a reply are those the index counts. -/
theorem completeReply_entries {f : Fill σ} (h : ∀ i, i < f.bufferIdx.toNat → Q (f.world.out.data i)) :
    ∀ e ∈ (completeReply D (true, f)).out.entries, Q e := by
  intro e he
  obtain ⟨i, hi, rfl⟩ := List.mem_map.mp he
  apply h i
  have hcount : (completeReply D (true, f)).out.header.entryCount.toNat = f.bufferIdx.toNat := by
    simp only [completeReply, World.complete, World.writeHeader, UInt16.toNat_toUInt32]
  rw [← hcount]
  exact List.mem_range.mp hi

/-- A request of any kind that succeeds has replied with reported entries only. -/
theorem evtIoDeviceControl_reported (req : Request) {w : World σ} (hw : P w.drv.vars) (hfresh : w.completions = [])
    (hok : (evtIoDeviceControl D k req w).succeeded = true) : ∀ e ∈ (evtIoDeviceControl D k req w).out.entries, Q e := by
  obtain hearly | ⟨hheader, -, hw'⟩ := evtIoDeviceControl_ends k D req w
  · obtain ⟨c, hc, -, hcompletions⟩ := hearly.completed
    rw [World.succeeded, hcompletions, hfresh] at hok
    simp [hc] at hok
  · have hsafe := collectMetrics_safe k H (collecting_safe D k w hheader)
    have hcollected := collectMetrics_reported hkeep hreport k req.outputBufferLength.toUInt32 (w := collecting D k w) hw
    rw [hw'] at hok ⊢
    generalize collectMetrics D k req.outputBufferLength.toUInt32 (collecting D k w) = collected at *
    obtain ⟨added, f⟩ := collected
    cases added with
    | true => exact completeReply_entries hcollected.entries
    | false =>
      -- overflow is no success
      have hcompletions : (completeReply D (false, f)).completions = [⟨statusBufferOverflow, sizeofCpuDataHeader⟩] := by
        show f.world.completions ++ _ = _
        rw [hsafe.completions, hfresh]
        rfl
      rw [World.succeeded, hcompletions] at hok
      exact absurd hok (by decide)

end

/-! ## Ranges -/

/-- The largest value of a metric. Power is as long as a ULONG. -/
def CpuDriver.maxValue : CpuDriver → MetricType → Nat
  | .intel, .temp => 255
  | .intel, .voltage => 8000
  | .intel, .clockSpeed => 25500
  | .amd, .temp => 150
  | .amd, .voltage => 1550
  | .amd, .clockSpeed => 51000
  | _, .load => 100
  | _, .power => 4294967295

/-- The entry's type and unit agree, and its value is in the metric's range. -/
def CpuData.InRange (d : CpuDriver) (e : CpuData) : Prop :=
  ∃ t : MetricType, e.type = t.code ∧ e.unit = t.unit.code ∧ e.value.toNat ≤ d.maxValue t

def CpuDriver.maxProcs : (d : CpuDriver) → d.Globals → UInt32
  | .intel, g => g.maxProcs
  | .amd, g => g.maxProcs

/-- A processor has a cell of `g_core_state`: the block was allocated, and reaches there. -/
def CpuDriver.HasCell (d : CpuDriver) (entry : d.Globals) (cpuId : UInt16) : Prop :=
  d.holdsBlock entry = true ∧ cpuId.toNat < (d.maxProcs entry).toNat

/-- A core's load and power are zero where the core has no cell. -/
def CpuData.ZeroWithoutCell (d : CpuDriver) (entry : d.Globals) (e : CpuData) : Prop :=
  e.cpuId ≠ 0xFFFF → ¬ d.HasCell entry e.cpuId → e.type = MetricType.load.code ∨ e.type = MetricType.power.code → e.value = 0

def CpuData.Plausible (d : CpuDriver) (entry : d.Globals) (e : CpuData) : Prop :=
  e.InRange d ∧ e.ZeroWithoutCell d entry

theorem toNat_and_le (register mask : UInt64) : (register &&& mask).toNat ≤ mask.toNat := by
  rw [UInt64.toNat_and]
  exact Nat.and_le_right

/-- A field behind a mask and a shift is at most the mask, shifted. -/
theorem field_le (register mask shift : UInt64) :
    ((register &&& mask) >>> shift).toUInt32.toNat ≤ mask.toNat / 2 ^ (shift.toNat % 64) := by
  rw [UInt64.toNat_toUInt32, UInt64.toNat_shiftRight, Nat.shiftRight_eq_div_pow]
  exact Nat.le_trans (Nat.mod_le _ _) (Nat.div_le_div_right (toNat_and_le register mask))

theorem loadPercent_le (mperfDelta tscDelta : UInt64) : (loadPercent mperfDelta tscDelta).toNat ≤ 100 := by
  simp only [loadPercent]
  split
  · split
    · decide
    · rename_i hload
      exact UInt32.le_iff_toNat_le.mp (UInt32.not_lt.mp hload)
  · decide

section

variable {d : CpuDriver} {entry : d.Globals} {i : UInt32} {t : MetricType} {name : String} {value : UInt32}

/-- A core's cell is known by its index, which the entry has 16 bits of. -/
theorem coreData_plausible (hvalue : value.toNat ≤ d.maxValue t)
    (hzero : t = .load ∨ t = .power → d.holdsBlock entry = false ∨ d.maxProcs entry ≤ i → value = 0) :
    CpuData.Plausible d entry { coreData i t t.unit name with value } := by
  refine ⟨⟨t, rfl, rfl, hvalue⟩, fun _ hcell hmetric => ?_⟩
  have hmetric' : t = .load ∨ t = .power := by
    change t.code = MetricType.load.code ∨ t.code = MetricType.power.code at hmetric
    revert hmetric
    cases t <;> decide
  apply hzero hmetric'
  by_cases hblock : d.holdsBlock entry = true
  · right
    have hid : (i.toUInt16).toNat ≤ i.toNat := by
      rw [UInt32.toNat_toUInt16]
      exact Nat.mod_le _ _
    have hpast : ¬ (i.toUInt16).toNat < (d.maxProcs entry).toNat := fun hlt => hcell ⟨hblock, hlt⟩
    rw [UInt32.le_iff_toNat_le]
    omega
  · left
    exact Bool.eq_false_iff.mpr hblock

theorem packageData_plausible (hvalue : value.toNat ≤ d.maxValue t) :
    CpuData.Plausible d entry { packageData t t.unit name with value } :=
  ⟨⟨t, rfl, rfl, hvalue⟩, fun hcore => absurd rfl hcore⟩

theorem value_le (value : UInt32) : value.toNat ≤ d.maxValue .power := by
  have hsize : value.toNat < 4294967296 := value.toNat_lt
  cases d with
  | intel =>
    show value.toNat ≤ 4294967295
    omega
  | amd =>
    show value.toNat ≤ 4294967295
    omega

end

namespace Intel

variable {entry : Globals} {m : Machine} {i : UInt32}

/-- TjMax less an offset that does not exceed it. -/
theorem tempMax_sub_le (thermTarget : UInt64) {tempOffset : UInt32}
    (h : tempOffset ≤ ((thermTarget &&& thermTargetTjmax) >>> 16).toUInt32) :
    (((thermTarget &&& thermTargetTjmax) >>> 16).toUInt32 - tempOffset).toNat ≤ 255 := by
  have hmax : ((thermTarget &&& thermTargetTjmax) >>> 16).toUInt32.toNat ≤ 255 := field_le thermTarget thermTargetTjmax 16
  rw [UInt32.toNat_sub_of_le _ _ h]
  omega

theorem retCoreTemp_reports : Reports (SetUp entry) (CpuData.Plausible .intel entry) (retCoreTemp m i) := by
  intro s _
  have hzero : CpuData.Plausible .intel entry (coreData i .temp .degreesC "Temp") :=
    coreData_plausible (d := .intel) (t := .temp) (Nat.zero_le _) (fun _ _ => rfl)
  simp only [retCoreTemp]
  split
  · exact hzero
  · split
    · exact hzero
    · split
      · rename_i hoffset
        exact coreData_plausible (d := .intel) (t := .temp) (tempMax_sub_le _ hoffset) (fun h => by simp at h)
      · exact hzero

/-- VID counts 1/8192 V, and is rounded to millivolts. -/
theorem vid_le {vid : UInt32} (h : vid.toNat ≤ 65535) :
    ((vid * 1000 + (1 : UInt32) <<< (12 : UInt32)) >>> 13).toNat ≤ 8000 := by
  have hshift : ((1 : UInt32) <<< (12 : UInt32)).toNat = 4096 := by decide
  have hscaled : (vid * 1000 + (1 : UInt32) <<< (12 : UInt32)).toNat = vid.toNat * 1000 + 4096 := by
    rw [UInt32.toNat_add, UInt32.toNat_mul, hshift, Nat.mod_add_mod]
    exact Nat.mod_eq_of_lt (show vid.toNat * 1000 + 4096 < 4294967296 by omega)
  rw [UInt32.toNat_shiftRight, Nat.shiftRight_eq_div_pow, hscaled]
  show (vid.toNat * 1000 + 4096) / 8192 ≤ 8000
  omega

theorem retCoreVID_reports : Reports (SetUp entry) (CpuData.Plausible .intel entry) (retCoreVID m i) := by
  intro s _
  have hfield := field_le (m.readmsr s.reads msrPerfStatus) perfStatusVid 32
  exact coreData_plausible (d := .intel) (t := .voltage) (vid_le hfield) (fun h => by simp at h)

theorem retCoreClockSpeed_reports : Reports (SetUp entry) (CpuData.Plausible .intel entry) (retCoreClockSpeed m i) := by
  intro s _
  have hfield : ((m.readmsr s.reads msrPerfStatus &&& perfStatusPstateRatio) >>> 8).toUInt32.toNat ≤ 255 :=
    field_le _ perfStatusPstateRatio 8
  refine coreData_plausible (d := .intel) (t := .clockSpeed) ?_ (fun h => by simp at h)
  rw [UInt32.toNat_mul]
  exact Nat.le_trans (Nat.mod_le _ _) (Nat.mul_le_mul_right 100 hfield)

theorem retCoreLoad_reports : Reports (SetUp entry) (CpuData.Plausible .intel entry) (retCoreLoad m i) := by
  intro s hs
  have hzero : CpuData.Plausible .intel entry (coreData i .load .percent "Load") :=
    coreData_plausible (d := .intel) (t := .load) (Nat.zero_le _) (fun _ _ => rfl)
  simp only [retCoreLoad]
  split
  · exact hzero
  · rename_i coreState hcore
    split
    · exact hzero
    · rename_i hin
      refine coreData_plausible (d := .intel) (t := .load) ?_ ?_
      · split
        · exact loadPercent_le _ _
        · exact Nat.zero_le _
      · rintro - (hblock | hpast)
        · have hsome : entry.coreState.isSome = true := by
            rw [← hs.block, hcore]
            rfl
          exact absurd hsome (Bool.eq_false_iff.mp hblock)
        · exact absurd (hs.maxProcs ▸ hpast) (fun h => hin (Or.inr h))

theorem retTDieTemp_reports : Reports (SetUp entry) (CpuData.Plausible .intel entry) (retTDieTemp m) := by
  intro s _
  have hzero : CpuData.Plausible .intel entry (packageData .temp .degreesC "Package Temp") :=
    packageData_plausible (d := .intel) (t := .temp) (Nat.zero_le _)
  simp only [retTDieTemp]
  split
  · exact hzero
  · split
    · rename_i hoffset
      exact packageData_plausible (d := .intel) (t := .temp) (tempMax_sub_le _ hoffset)
    · exact hzero

theorem helpers_report (entry : Globals) : HelpersReport helpers (SetUp entry) (CpuData.Plausible .intel entry) where
  perCore := by
    intro m i r hr
    change r ∈ perCoreHelpers m i at hr
    simp only [perCoreHelpers, List.mem_cons, List.not_mem_nil, or_false] at hr
    rcases hr with rfl | rfl | rfl | rfl
    · exact retCoreTemp_reports
    · exact retCoreVID_reports
    · exact retCoreClockSpeed_reports
    · exact retCoreLoad_reports
  aggregate := by
    intro m g r hr
    change r ∈ aggregateHelpers m g at hr
    rcases mem_aggregateHelpers hr with rfl | rfl | rfl
    · exact retTDieTemp_reports
    · exact fun s _ => packageData_plausible (d := .intel) (t := .power) (value_le _)
    · exact fun s _ => packageData_plausible (d := .intel) (t := .power) (value_le _)

end Intel

namespace Amd

/-! Signed quotients -/

theorem toUInt32_le {x : Int32} {n : Nat} (hx : 0 ≤ x) (hn : x.toInt ≤ n) : x.toUInt32.toNat ≤ n := by
  rw [Int32.toNat_toUInt32_of_le hx, Int32.toNatClampNeg]
  omega

/-- A quotient by a literal, in whole numbers. -/
theorem toInt_div_pos {x n : Int32} (hx : 0 ≤ x) (hn : 0 < n) : (x / n).toInt = x.toInt / n.toInt := by
  have hx' : 0 ≤ x.toInt := Int32.le_iff_toInt_le.mp hx
  have hne : n ≠ -1 := by
    rintro rfl
    exact absurd hn (by decide)
  rw [Int32.toInt_div_of_ne_right x n hne, Int.tdiv_eq_ediv_of_nonneg hx']

theorem degrees_le {tempMdeg : Int32} (h : tempMdeg ≥ 0 ∧ tempMdeg ≤ 150000) : (tempMdeg / 1000).toUInt32.toNat ≤ 150 := by
  have hlow : 0 ≤ tempMdeg.toInt := Int32.le_iff_toInt_le.mp h.1
  have hhigh : tempMdeg.toInt ≤ 150000 := Int32.le_iff_toInt_le.mp h.2
  have hdiv : (tempMdeg / 1000).toInt = tempMdeg.toInt / 1000 := toInt_div_pos h.1 (by decide)
  apply toUInt32_le
  · rw [Int32.le_iff_toInt_le, hdiv]
    show 0 ≤ tempMdeg.toInt / 1000
    omega
  · rw [hdiv]
    omega

theorem millivolts_toInt {vid : UInt32} (h : vid.toNat ≤ 255) :
    (svi2BaseMvX4 - vid * svi2StepMvX4 + svi2Rounding).toInt32.toInt = 6202 - 25 * vid.toNat := by
  have hmul : (vid * svi2StepMvX4).toNat = vid.toNat * 25 := by
    rw [UInt32.toNat_mul]
    exact Nat.mod_eq_of_lt (show vid.toNat * 25 < 4294967296 by omega)
  have hsum : (svi2BaseMvX4 - vid * svi2StepMvX4 + svi2Rounding).toNat =
      (4294967296 - vid.toNat * 25 + 6200 + 2) % 4294967296 := by
    rw [UInt32.toNat_add, UInt32.toNat_sub, hmul, Nat.mod_add_mod]
    rfl
  show (svi2BaseMvX4 - vid * svi2StepMvX4 + svi2Rounding).toBitVec.toInt = _
  rw [BitVec.toInt_eq_toNat_bmod, UInt32.toNat_toBitVec, hsum, Int.bmod_eq_iff (by decide)]
  omega

theorem millivolts_le {vid : UInt32} (h : vid.toNat ≤ 255)
    (hpos : (svi2BaseMvX4 - vid * svi2StepMvX4 + svi2Rounding).toInt32 / 4 > 0) :
    ((svi2BaseMvX4 - vid * svi2StepMvX4 + svi2Rounding).toInt32 / 4).toUInt32.toNat ≤ 1550 := by
  have hmv := millivolts_toInt h
  generalize (svi2BaseMvX4 - vid * svi2StepMvX4 + svi2Rounding).toInt32 = x at *
  have hdiv : (x / 4).toInt = x.toInt.tdiv 4 := Int32.toInt_div_of_ne_right x 4 (by decide)
  have hpos' : 0 < (x / 4).toInt := Int32.lt_iff_toInt_lt.mp hpos
  apply toUInt32_le
  · rw [Int32.le_iff_toInt_le]
    exact Int.le_of_lt hpos'
  · -- a quotient that is positive is that of a positive number
    rw [hdiv, Int.tdiv_eq_ediv] at hpos' ⊢
    split
    · omega
    · rename_i hneg
      rw [if_neg hneg, show Int.sign 4 = 1 from rfl] at hpos'
      omega

variable {entry : Globals} {m : Machine} {i : UInt32}

/-- A cell that is read is one the load has set up. -/
theorem cell_of_setUp {s : Clocked Globals} (hs : SetUp entry s.vars) {coreState : UInt32 → AmdCoreDeltaState}
    (hcore : s.vars.coreState = some coreState) (hin : ¬ s.vars.maxProcs ≤ i) :
    ¬ (CpuDriver.holdsBlock .amd entry = false ∨ CpuDriver.maxProcs .amd entry ≤ i) := by
  rintro (hblock | hpast)
  · have hsome : entry.coreState.isSome = true := by
      rw [← hs.block, hcore]
      rfl
    exact absurd hsome (Bool.eq_false_iff.mp hblock)
  · exact hin (hs.maxProcs ▸ hpast)

theorem retCoreClockSpeed_reports : Reports (SetUp entry) (CpuData.Plausible .amd entry) (retCoreClockSpeed m i) := by
  intro s _
  simp only [retCoreClockSpeed]
  split
  · refine coreData_plausible (d := .amd) (t := .clockSpeed) ?_ (fun h => by simp at h)
    rw [UInt32.toNat_div, UInt32.toNat_mul]
    refine Nat.le_trans (Nat.div_le_self _ _) (Nat.le_trans (Nat.mod_le _ _) ?_)
    exact Nat.mul_le_mul_left 200 (Nat.le_trans (Nat.mod_le _ _) (toNat_and_le _ pstateDefCpuFid))
  · exact coreData_plausible (d := .amd) (t := .clockSpeed) (Nat.zero_le _) (fun _ _ => rfl)

theorem retCoreLoad_reports : Reports (SetUp entry) (CpuData.Plausible .amd entry) (retCoreLoad m i) := by
  intro s hs
  have hzero : CpuData.Plausible .amd entry (coreData i .load .percent "Load") :=
    coreData_plausible (d := .amd) (t := .load) (Nat.zero_le _) (fun _ _ => rfl)
  simp only [retCoreLoad]
  split
  · exact hzero
  · rename_i coreState hcore
    split
    · exact hzero
    · rename_i hin
      refine coreData_plausible (d := .amd) (t := .load) ?_ ?_
      · split
        · exact loadPercent_le _ _
        · exact Nat.zero_le _
      · intro _ hnone
        exact absurd hnone (cell_of_setUp hs hcore fun h => hin (Or.inr h))

theorem retCorePower_reports : Reports (SetUp entry) (CpuData.Plausible .amd entry) (retCorePower m i) := by
  intro s hs
  have hzero : CpuData.Plausible .amd entry (coreData i .power .milliwatts "Power") :=
    coreData_plausible (d := .amd) (t := .power) (Nat.zero_le _) (fun _ _ => rfl)
  simp only [retCorePower]
  split
  · exact hzero
  · rename_i coreState hcore
    split
    · exact hzero
    · rename_i hin
      refine coreData_plausible (d := .amd) (t := .power) (value_le _) ?_
      intro _ hnone
      exact absurd hnone (cell_of_setUp hs hcore fun h => hin (Or.inr h))

theorem retTDieTemp_reports : Reports (SetUp entry) (CpuData.Plausible .amd entry) (retTDieTemp m) := by
  intro s _
  have hzero : CpuData.Plausible .amd entry (packageData .temp .degreesC "Tdie Temp") :=
    packageData_plausible (d := .amd) (t := .temp) (Nat.zero_le _)
  unfold retTDieTemp
  split
  · exact hzero
  · -- whether the offset applies or not, only what is in range is reported
    have hchecked : ∀ (tempMdeg : Int32) (s' : Clocked Globals), CpuData.Plausible .amd entry
        (if tempMdeg ≥ 0 ∧ tempMdeg ≤ 150000 then
          ({ packageData .temp .degreesC "Tdie Temp" with value := (tempMdeg / 1000).toUInt32 }, s')
        else (packageData .temp .degreesC "Tdie Temp", s')).1 := by
      intro tempMdeg s'
      split
      · rename_i hrange
        exact packageData_plausible (d := .amd) (t := .temp) (degrees_le hrange)
      · exact hzero
    exact hchecked _ _

theorem retVoltage_reports (name : String) (addr : UInt32) :
    Reports (SetUp entry) (CpuData.Plausible .amd entry) (retVoltage m name addr) := by
  intro s _
  unfold retVoltage
  split
  · exact packageData_plausible (d := .amd) (t := .voltage) (Nat.zero_le _)
  · rename_i raw s' _
    have hvid : ((raw.toUInt64 &&& svi2VidField) >>> 16).toUInt32.toNat ≤ 255 := field_le _ svi2VidField 16
    refine packageData_plausible (d := .amd) (t := .voltage) ?_
    split
    · rename_i hpos
      exact millivolts_le hvid hpos
    · exact Nat.zero_le _

theorem retPackagePower_reports : Reports (SetUp entry) (CpuData.Plausible .amd entry) (retPackagePower m) := by
  intro s _
  simp only [retPackagePower]
  split
  · exact packageData_plausible (d := .amd) (t := .power) (Nat.zero_le _)
  · exact packageData_plausible (d := .amd) (t := .power) (value_le _)

theorem helpers_report (entry : Globals) : HelpersReport helpers (SetUp entry) (CpuData.Plausible .amd entry) where
  perCore := by
    intro m i r hr
    change r ∈ perCoreHelpers m i at hr
    simp only [perCoreHelpers, List.mem_cons, List.not_mem_nil, or_false] at hr
    rcases hr with rfl | rfl | rfl
    · exact retCoreClockSpeed_reports
    · exact retCoreLoad_reports
    · exact retCorePower_reports
  aggregate := by
    intro m g r hr
    change r ∈ [retTDieTemp m, retCoreVoltage m, retSoCVoltage m, retPackagePower m] at hr
    simp only [List.mem_cons, List.not_mem_nil, or_false] at hr
    rcases hr with rfl | rfl | rfl | rfl
    · exact retTDieTemp_reports
    · exact fun s hs => retVoltage_reports "Core Voltage" s.vars.svi2CoreAddr s hs
    · exact fun s hs => retVoltage_reports "SoC Voltage" s.vars.svi2SocAddr s hs
    · exact retPackagePower_reports

end Amd

/-! ## Replies -/

/-- A request served by a driver whose variables are as its load has set them up. -/
theorem plausible_serve (d : CpuDriver) (m : Machine) (io : Ioctl) {entry : d.Globals} {s : Clocked d.Globals}
    (hs : d.SetUp entry s.vars) (hok : (io.serve d m s).succeeded = true) :
    ∀ e ∈ (io.serve d m s).out.entries, e.Plausible d entry := by
  cases d with
  | intel =>
    exact evtIoDeviceControl_reported (Intel.setUp_kept entry) (Intel.helpers_report entry) (io.kernel m) io.request hs rfl hok
  | amd =>
    exact evtIoDeviceControl_reported (Amd.setUp_kept entry) (Amd.helpers_report entry) (io.kernel m) io.request hs rfl hok

/-- After any loads, requests and unloads: a request that succeeds, whatever its buffer and
    however many processors there are by now, replies with entries whose type and unit
    agree and whose values are in their ranges; and the load and power of a core that the
    load had no cell for are zero. -/
theorem replies_in_range (d : CpuDriver) (events : List LifeEvent) (l : Loaded d)
    (hloaded : (DriverHost.after d events).loaded = some l) (m : Machine) (io : Ioctl)
    (hok : (io.serve d m l.drv).succeeded = true) :
    ∀ e ∈ (io.serve d m l.drv).out.entries,
      (∃ t : MetricType, e.type = t.code ∧ e.unit = t.unit.code ∧ e.value.toNat ≤ d.maxValue t) ∧
      (e.cpuId ≠ 0xFFFF → ¬ (d.holdsBlock l.entry = true ∧ e.cpuId.toNat < (d.maxProcs l.entry).toNat) →
        e.type = MetricType.load.code ∨ e.type = MetricType.power.code → e.value = 0) := by
  obtain ⟨_, _, _, _, hkept⟩ := (sound_after d events).setUp l hloaded
  intro e he
  obtain ⟨hrange, hzero⟩ := plausible_serve d m io hkept hok e he
  exact ⟨hrange, hzero⟩

/-- The second processor has come after the load, which has seen one. -/
def addedLater : Loaded .amd where
  entry := (Amd.initialState zenMachine { granted with activeProcessorCount := 1 }).vars
  drv := Amd.initialState zenMachine { granted with activeProcessorCount := 1 }

theorem replies_in_range_added :
    (((amdIoctl ioctlGetData).serve .amd zenMachine addedLater.drv).out.entries.filter fun e =>
        e.cpuId = 1 ∧ (e.type = MetricType.load.code ∨ e.type = MetricType.power.code)).all (·.value = 0) = true := by
  have hok : ((amdIoctl ioctlGetData).serve .amd zenMachine addedLater.drv).succeeded = true := by decide +kernel
  rw [List.all_eq_true]
  intro e he
  obtain ⟨he, hadded⟩ := List.mem_filter.mp he
  obtain ⟨hid, hmetric⟩ := of_decide_eq_true hadded
  apply decide_eq_true
  apply (replies_in_range .amd [.load zenMachine { granted with activeProcessorCount := 1 }] addedLater rfl zenMachine
    (amdIoctl ioctlGetData) hok e he).2
  · rw [hid]
    decide
  · rw [hid]
    decide +kernel
  · exact hmetric

end HardwareMonitor.Drivers
