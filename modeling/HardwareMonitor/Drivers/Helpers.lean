/-
  HardwareMonitor.Drivers.Helpers — the metric helpers a driver's collectors call, as
  lists, and what holds of every one of them whatever the hardware answers: it reports
  under its own name, type, unit and processor (`perCore_labels`, `aggregate_labels`),
  and it leaves the feature flags alone (`aggregate_kept`).
-/

import Mathlib.Data.List.Nodup
import HardwareMonitor.Drivers.Ioctl
import HardwareMonitor.Lib.Batch

namespace HardwareMonitor.Drivers

open HardwareMonitor.Lib.Batch (runAll runAll_append length_runAll runAll_keeps runAll_map)

variable {σ : Type}

/-- An entry without its value: what it is a reading of. -/
def CpuData.label (e : CpuData) : CpuData := { e with value := 0 }

/-- The readings' labels, in order, are `ls`. -/
def Labelled (rs : List (Reader σ)) (ls : List CpuData) : Prop :=
  List.Forall₂ (fun r l => ∀ s, (r s).1.label = l) rs ls

@[simp] theorem addMetrics_nil (len : UInt32) (f : Fill σ) : addMetrics len [] f = (true, f) := rfl

theorem addMetrics_append (len : UInt32) (rs ts : List (Reader σ)) (f : Fill σ) :
    addMetrics len (rs ++ ts) f =
      if (addMetrics len rs f).1 then addMetrics len ts (addMetrics len rs f).2 else (false, (addMetrics len rs f).2) := by
  induction rs generalizing f with
  | nil => rfl
  | cons r rs ih =>
    simp only [List.cons_append, addMetrics]
    by_cases h : (addMetric len r f).1 = true
    · simp only [h, if_true]; exact ih _
    · simp [h]

/-- A driver's collectors as lists of helpers: those of one processor, and those the
    feature flags enable after the loop. -/
structure Driver.Helpers (D : Driver σ) where
  perCore : Machine → UInt32 → List (Reader σ)
  aggregate : Machine → σ → List (Reader σ)
  perCoreLabels : UInt32 → List CpuData
  aggregateLabels : σ → List CpuData
  perCore_eq : ∀ m len i f, D.readPerCoreMetrics m len i f = addMetrics len (perCore m i) f
  aggregate_eq : ∀ m len f, D.readAggregateMetrics m len f = addMetrics len (aggregate m f.world.drv.vars) f
  perCore_labels : ∀ m i, Labelled (perCore m i) (perCoreLabels i)
  aggregate_labels : ∀ m g, Labelled (aggregate m g) (aggregateLabels g)
  perCore_length : ∀ i, (perCoreLabels i).length = D.metricsPerCore.toNat
  aggregate_length : ∀ g, (aggregateLabels g).length ≤ D.metricsAggregate.toNat
  /-- The flags are read-only after `DetectFeatures`. -/
  aggregate_kept : ∀ m i, ∀ r ∈ perCore m i, ∀ s, aggregate m (r s).2.vars = aggregate m s.vars

/-! ## Intel -/

namespace Intel

theorem retCoreTemp_label (m : Machine) (i : UInt32) (s : Clocked Globals) :
    (retCoreTemp m i s).1.label = coreData i .temp .degreesC "Temp" := by
  simp only [retCoreTemp]
  repeat' split
  all_goals rfl

theorem retCoreLoad_label (m : Machine) (i : UInt32) (s : Clocked Globals) :
    (retCoreLoad m i s).1.label = coreData i .load .percent "Load" := by
  simp only [retCoreLoad]
  repeat' split
  all_goals rfl

theorem retTDieTemp_label (m : Machine) (s : Clocked Globals) :
    (retTDieTemp m s).1.label = packageData .temp .degreesC "Package Temp" := by
  simp only [retTDieTemp]
  repeat' split
  all_goals rfl

/-- The flags `ReadIntelAggregateMetrics` branches on. -/
def flags (g : Globals) : Bool × Bool := (g.hasPkgTherm, g.hasRapl)

theorem retCoreTemp_vars (m : Machine) (i : UInt32) (s : Clocked Globals) : (retCoreTemp m i s).2.vars = s.vars := by
  simp only [retCoreTemp]
  repeat' split
  all_goals rfl

theorem retCoreLoad_flags (m : Machine) (i : UInt32) (s : Clocked Globals) :
    flags (retCoreLoad m i s).2.vars = flags s.vars := by
  simp only [retCoreLoad]
  repeat' split
  all_goals rfl

theorem perCore_flags (m : Machine) (i : UInt32) : ∀ r ∈ perCoreHelpers m i, ∀ s, flags (r s).2.vars = flags s.vars := by
  intro r hr s
  simp only [perCoreHelpers, List.mem_cons, List.not_mem_nil, or_false] at hr
  rcases hr with rfl | rfl | rfl | rfl
  · rw [retCoreTemp_vars]
  · rfl
  · rfl
  · exact retCoreLoad_flags m i s

theorem retTDieTemp_vars (m : Machine) (s : Clocked Globals) : (retTDieTemp m s).2.vars = s.vars := by
  simp only [retTDieTemp]
  repeat' split
  all_goals rfl

/-- The aggregate helpers, by the flags that guard them. -/
def aggregateHelpers (m : Machine) (g : Globals) : List (Reader Globals) :=
  (if g.hasPkgTherm then [retTDieTemp m] else []) ++
    if g.hasRapl then [retPackagePower m, retCoreDomainPower m] else []

def aggregateLabels (g : Globals) : List CpuData :=
  (if g.hasPkgTherm then [packageData .temp .degreesC "Package Temp"] else []) ++
    if g.hasRapl then [packageData .power .milliwatts "Package Power", packageData .power .milliwatts "Core Domain Power"]
    else []

/-- `tryAddTelemetryData` never touches the driver's variables. -/
theorem addMetric_drv (len : UInt32) (r : Reader Globals) (f : Fill Globals) :
    (addMetric len r f).2.world.drv = (r f.world.drv).2 := by
  simp only [addMetric, tryAddTelemetryData]
  repeat' split
  all_goals rfl

theorem readIntelAggregateMetrics_eq (m : Machine) (len : UInt32) (f : Fill Globals) :
    readIntelAggregateMetrics m len f = addMetrics len (aggregateHelpers m f.world.drv.vars) f := by
  have hv : (addMetrics len [retTDieTemp m] f).2.world.drv.vars = f.world.drv.vars := by
    rw [← retTDieTemp_vars m f.world.drv, ← addMetric_drv len (retTDieTemp m) f]
    simp only [addMetrics]
    split <;> rfl
  unfold readIntelAggregateMetrics aggregateHelpers
  rw [addMetrics_append]
  cases f.world.drv.vars.hasPkgTherm <;> cases hr : f.world.drv.vars.hasRapl <;>
    simp only [Bool.false_eq_true, if_false, if_true, hr, hv, addMetrics_nil]

def helpers : intelDriver.Helpers where
  perCore := perCoreHelpers
  aggregate := aggregateHelpers
  perCoreLabels i := [coreData i .temp .degreesC "Temp", coreData i .voltage .millivolts "VID",
    coreData i .clockSpeed .mhz "Clock", coreData i .load .percent "Load"]
  aggregateLabels := aggregateLabels
  perCore_eq _ _ _ _ := rfl
  aggregate_eq := readIntelAggregateMetrics_eq
  perCore_labels m i := .cons (retCoreTemp_label m i) <| .cons (fun _ => rfl) <| .cons (fun _ => rfl) <|
    .cons (retCoreLoad_label m i) .nil
  aggregate_labels m g := by
    unfold aggregateHelpers aggregateLabels
    refine List.rel_append ?_ ?_
    · split
      · exact .cons (retTDieTemp_label m) .nil
      · exact .nil
    · split
      · exact .cons (fun _ => rfl) <| .cons (fun _ => rfl) .nil
      · exact .nil
  perCore_length _ := rfl
  aggregate_length g := by
    unfold aggregateLabels
    split <;> split <;> decide
  aggregate_kept m i r hr s := by
    have h := perCore_flags m i r hr s
    simp only [flags, Prod.mk.injEq] at h
    simp only [aggregateHelpers, h.1, h.2]

end Intel

/-! ## AMD -/

namespace Amd

theorem retCoreClockSpeed_label (m : Machine) (i : UInt32) (s : Clocked Globals) :
    (retCoreClockSpeed m i s).1.label = coreData i .clockSpeed .mhz "Clock" := by
  simp only [retCoreClockSpeed]
  split <;> rfl

theorem retCoreLoad_label (m : Machine) (i : UInt32) (s : Clocked Globals) :
    (retCoreLoad m i s).1.label = coreData i .load .percent "Load" := by
  simp only [retCoreLoad]
  repeat' split
  all_goals rfl

theorem retCorePower_label (m : Machine) (i : UInt32) (s : Clocked Globals) :
    (retCorePower m i s).1.label = coreData i .power .milliwatts "Power" := by
  simp only [retCorePower]
  repeat' split
  all_goals rfl

theorem retTDieTemp_label (m : Machine) (s : Clocked Globals) :
    (retTDieTemp m s).1.label = packageData .temp .degreesC "Tdie Temp" := by
  unfold retTDieTemp
  split
  · rfl
  · simp only []
    repeat' split
    all_goals rfl

theorem retVoltage_label (m : Machine) (name : String) (addr : UInt32) (s : Clocked Globals) :
    (retVoltage m name addr s).1.label = packageData .voltage .millivolts name := by
  unfold retVoltage
  split <;> rfl

theorem retPackagePower_label (m : Machine) (s : Clocked Globals) :
    (retPackagePower m s).1.label = packageData .power .milliwatts "Package Power" := by
  simp only [retPackagePower]
  split <;> rfl

def helpers : amdDriver.Helpers where
  perCore := perCoreHelpers
  aggregate m _ := [retTDieTemp m, retCoreVoltage m, retSoCVoltage m, retPackagePower m]
  perCoreLabels i := [coreData i .clockSpeed .mhz "Clock", coreData i .load .percent "Load",
    coreData i .power .milliwatts "Power"]
  aggregateLabels _ := [packageData .temp .degreesC "Tdie Temp", packageData .voltage .millivolts "Core Voltage",
    packageData .voltage .millivolts "SoC Voltage", packageData .power .milliwatts "Package Power"]
  perCore_eq _ _ _ _ := rfl
  aggregate_eq _ _ _ := rfl
  perCore_labels m i := .cons (retCoreClockSpeed_label m i) <| .cons (retCoreLoad_label m i) <|
    .cons (retCorePower_label m i) .nil
  aggregate_labels m _ := .cons (retTDieTemp_label m) <| .cons (fun _ => retVoltage_label m _ _ _) <|
    .cons (fun _ => retVoltage_label m _ _ _) <| .cons (retPackagePower_label m) .nil
  perCore_length _ := rfl
  aggregate_length _ := by decide
  aggregate_kept _ _ _ _ _ := rfl

end Amd

def CpuDriver.helpers : (d : CpuDriver) → d.driver.Helpers
  | .intel => Intel.helpers
  | .amd => Amd.helpers

/-- The aggregate metrics the feature flags enable. -/
def CpuDriver.aggregatesEnabled : (d : CpuDriver) → d.Globals → Nat
  | .intel, g => (if g.hasPkgTherm then 1 else 0) + if g.hasRapl then 2 else 0
  | .amd, _ => 4

theorem aggregatesEnabled_eq (d : CpuDriver) (g : d.Globals) :
    (d.helpers.aggregateLabels g).length = d.aggregatesEnabled g := by
  cases d with
  | intel =>
    simp only [CpuDriver.helpers, Intel.helpers, Intel.aggregateLabels, CpuDriver.aggregatesEnabled, List.length_append]
    split <;> split <;> rfl
  | amd => rfl

/-! ## The batch of one reply -/

/-- The processors the loop visits: those whose number can be looked up. -/
def visited (k : Kernel) : List UInt32 :=
  (processorIndexes k.activeProcessorCount).filter fun i => (k.processorNumber i).isSome

theorem visited_nodup (k : Kernel) : (visited k).Nodup := by
  refine List.Nodup.filter _ (List.Nodup.map_on ?_ List.nodup_range)
  intro a ha b hb heq
  have hP := k.activeProcessorCount.toNat_lt
  have ha := List.mem_range.mp ha
  have hb := List.mem_range.mp hb
  have h := congrArg UInt32.toNat heq
  rwa [UInt32.toNat_ofNat_of_lt' (Nat.lt_trans ha hP), UInt32.toNat_ofNat_of_lt' (Nat.lt_trans hb hP)] at h

namespace Driver.Helpers

variable {D : Driver σ} (H : D.Helpers)

/-- The helpers called for a reply, in order, where every metric fits. -/
def batch (k : Kernel) (g : σ) : List (Reader σ) := (visited k).flatMap (H.perCore k.machine) ++ H.aggregate k.machine g

/-- Every visited processor's metrics in the order of the processors, then the aggregate
    metrics: what a reply should hold. -/
def collected (k : Kernel) (s : Clocked σ) : List CpuData :=
  (runAll ((visited k).flatMap (H.perCore k.machine) ++ H.aggregate k.machine s.vars) s).1

theorem perCore_size (m : Machine) (i : UInt32) : (H.perCore m i).length = D.metricsPerCore.toNat :=
  (H.perCore_labels m i).length_eq.trans (H.perCore_length i)

theorem perCore_sizes (m : Machine) (is : List UInt32) :
    (is.flatMap (H.perCore m)).length = D.metricsPerCore.toNat * is.length := by
  induction is with
  | nil => rfl
  | cons i is ih => rw [List.flatMap_cons, List.length_append, ih, perCore_size, List.length_cons, Nat.mul_succ]; omega

theorem aggregate_size (m : Machine) (g : σ) : (H.aggregate m g).length = (H.aggregateLabels g).length :=
  (H.aggregate_labels m g).length_eq

/-- The helpers of any processors leave the aggregate helpers to call as they are. -/
theorem aggregate_kept_all (m : Machine) (is : List UInt32) (s : Clocked σ) :
    H.aggregate m (runAll (is.flatMap (H.perCore m)) s).2.vars = H.aggregate m s.vars := by
  refine runAll_keeps (fun s => H.aggregate m s.vars) _ s fun r hr s => ?_
  obtain ⟨i, -, hr⟩ := List.mem_flatMap.mp hr
  exact H.aggregate_kept m i r hr s

theorem length_collected (k : Kernel) (s : Clocked σ) :
    (H.collected k s).length = D.metricsPerCore.toNat * (visited k).length + (H.aggregateLabels s.vars).length := by
  rw [collected, length_runAll, List.length_append, perCore_sizes, aggregate_size]

/-- Whatever the hardware answers, the entries are labelled processor by processor. -/
theorem collected_labels (k : Kernel) (s : Clocked σ) :
    (H.collected k s).map CpuData.label = (visited k).flatMap H.perCoreLabels ++ H.aggregateLabels s.vars := by
  refine runAll_map CpuData.label (List.rel_append ?_ (H.aggregate_labels k.machine s.vars)) s
  exact List.rel_flatMap (List.forall₂_same.mpr fun _ _ => rfl) fun i j h => h ▸ H.perCore_labels k.machine i

end Driver.Helpers

end HardwareMonitor.Drivers
