/-
  HardwareMonitor.Drivers.ReplyLabels — what the entries of one reply have in common, in
  either driver.

  An entry says twice what it is: `type` names the metric, `unit` the unit of its value.
  The two agree in every entry (`collected_tagged`). As long as the four digits of
  `BuildCoreName` hold every processor's index, no two entries of a reply have one name
  and type (`collected_nodup`).
-/

import HardwareMonitor.Drivers.IoctlProofs

namespace HardwareMonitor.Drivers

/-! ## The entries of a reply -/

/-- What the sensors are told apart by. -/
def CpuData.metric (e : CpuData) : String × UInt16 := (e.name, e.type)

/-- The unit that goes with a metric. -/
def MetricType.unit : MetricType → MetricUnit
  | .temp => .degreesC
  | .voltage => .millivolts
  | .clockSpeed => .mhz
  | .load => .percent
  | .power => .milliwatts

/-- `type` and `unit` say the same. -/
def CpuData.Tagged (e : CpuData) : Prop := ∃ t : MetricType, e.type = t.code ∧ e.unit = t.unit.code

theorem coreData_tagged (i : UInt32) (t : MetricType) (suffix : String) : (coreData i t t.unit suffix).Tagged :=
  ⟨t, rfl, rfl⟩

theorem packageData_tagged (t : MetricType) (name : String) : (packageData t t.unit name).Tagged := ⟨t, rfl, rfl⟩

variable (d : CpuDriver)

theorem perCoreLabels_tagged (i : UInt32) : ∀ l ∈ d.helpers.perCoreLabels i, l.Tagged := by
  cases d with
  | intel =>
    simp only [CpuDriver.helpers, Intel.helpers, List.forall_mem_cons]
    exact ⟨coreData_tagged i .temp _, coreData_tagged i .voltage _, coreData_tagged i .clockSpeed _,
      coreData_tagged i .load _, List.forall_mem_nil _⟩
  | amd =>
    simp only [CpuDriver.helpers, Amd.helpers, List.forall_mem_cons]
    exact ⟨coreData_tagged i .clockSpeed _, coreData_tagged i .load _, coreData_tagged i .power _, List.forall_mem_nil _⟩

/-- The aggregate labels with every feature there is. -/
def aggregateLabelsAll : CpuDriver → List CpuData
  | .intel => [packageData .temp .degreesC "Package Temp", packageData .power .milliwatts "Package Power",
      packageData .power .milliwatts "Core Domain Power"]
  | .amd => [packageData .temp .degreesC "Tdie Temp", packageData .voltage .millivolts "Core Voltage",
      packageData .voltage .millivolts "SoC Voltage", packageData .power .milliwatts "Package Power"]

theorem aggregateLabels_sublist (g : d.Globals) : List.Sublist (d.helpers.aggregateLabels g) (aggregateLabelsAll d) := by
  cases d with
  | intel =>
    simp only [CpuDriver.helpers, Intel.helpers, Intel.aggregateLabels, aggregateLabelsAll]
    split <;> split <;> decide
  | amd => exact List.Sublist.refl _

theorem aggregateLabels_tagged (g : d.Globals) : ∀ l ∈ d.helpers.aggregateLabels g, l.Tagged := by
  have hall : ∀ l ∈ aggregateLabelsAll d, l.Tagged := by
    cases d <;> simp only [aggregateLabelsAll, List.forall_mem_cons]
    · exact ⟨packageData_tagged .temp _, packageData_tagged .power _, packageData_tagged .power _, List.forall_mem_nil _⟩
    · exact ⟨packageData_tagged .temp _, packageData_tagged .voltage _, packageData_tagged .voltage _,
        packageData_tagged .power _, List.forall_mem_nil _⟩
  exact fun l hl => hall l ((aggregateLabels_sublist d g).subset hl)

/-! ## No two alike -/

theorem perCoreLabels_nodup (i : UInt32) : ((d.helpers.perCoreLabels i).map CpuData.metric).Nodup := by
  have htypes : ((d.helpers.perCoreLabels i).map CpuData.type).Nodup := by
    cases d with
    | intel =>
      show [MetricType.temp.code, MetricType.voltage.code, MetricType.clockSpeed.code, MetricType.load.code].Nodup
      decide
    | amd =>
      show [MetricType.clockSpeed.code, MetricType.load.code, MetricType.power.code].Nodup
      decide
  exact List.Nodup.of_map Prod.snd (by rwa [List.map_map])

theorem aggregateLabels_nodup (g : d.Globals) : ((d.helpers.aggregateLabels g).map CpuData.metric).Nodup := by
  refine ((aggregateLabels_sublist d g).map _).nodup ?_
  cases d <;> decide

/-- A processor's entries are named after it. -/
theorem perCoreLabels_named {i : UInt32} {l : CpuData} (h : l ∈ d.helpers.perCoreLabels i) :
    ∃ suffix, IsSuffix suffix ∧ l.name = coreName i suffix := by
  cases d with
  | intel =>
    simp only [CpuDriver.helpers, Intel.helpers, List.mem_cons, List.not_mem_nil, or_false] at h
    rcases h with rfl | rfl | rfl | rfl
    all_goals exact ⟨_, by decide, rfl⟩
  | amd =>
    simp only [CpuDriver.helpers, Amd.helpers, List.mem_cons, List.not_mem_nil, or_false] at h
    rcases h with rfl | rfl | rfl
    all_goals exact ⟨_, by decide, rfl⟩

/-- No aggregate entry has a digit where a processor's name has one. -/
theorem aggregateLabels_named {g : d.Globals} {l : CpuData} (h : l ∈ d.helpers.aggregateLabels g) :
    ∀ c, l.name.toList[5]? = some c → c.isDigit = false := by
  have hall : ∀ l ∈ aggregateLabelsAll d, (l.name.toList[5]?).any Char.isDigit = false := by
    cases d <;> decide
  intro c hc
  have hl := hall l ((aggregateLabels_sublist d g).subset h)
  rwa [hc] at hl

theorem mem_visited_lt {k : Kernel} {i : UInt32} (h : i ∈ visited k) : i.toNat < k.activeProcessorCount.toNat := by
  obtain ⟨n, hn, rfl⟩ := List.mem_map.mp (List.mem_of_mem_filter h)
  rw [UInt32.toNat_ofNat_of_lt' (Nat.lt_trans (List.mem_range.mp hn) k.activeProcessorCount.toNat_lt)]
  exact List.mem_range.mp hn

theorem perCoreLabels_disjoint {i j : UInt32} (hi : i.toNat < 10000) (hj : j.toNat < 10000) (hne : i ≠ j) :
    List.Disjoint ((d.helpers.perCoreLabels i).map CpuData.metric) ((d.helpers.perCoreLabels j).map CpuData.metric) := by
  intro key hki hkj
  obtain ⟨l, hl, rfl⟩ := List.mem_map.mp hki
  obtain ⟨l', hl', hkey⟩ := List.mem_map.mp hkj
  obtain ⟨suffix, hsuffix, hname⟩ := perCoreLabels_named d hl
  obtain ⟨suffix', hsuffix', hname'⟩ := perCoreLabels_named d hl'
  refine hne (coreName_index hi hj hsuffix hsuffix' ?_)
  rw [← hname, ← hname']
  exact (congrArg Prod.fst hkey).symm

theorem labels_nodup {k : Kernel} (hprocs : k.activeProcessorCount.toNat ≤ 10000) (g : d.Globals) :
    (((visited k).flatMap d.helpers.perCoreLabels ++ d.helpers.aggregateLabels g).map CpuData.metric).Nodup := by
  have hindex : ∀ i ∈ visited k, i.toNat < 10000 := fun i hi => Nat.lt_of_lt_of_le (mem_visited_lt hi) hprocs
  rw [List.map_append, List.map_flatMap, List.nodup_append']
  refine ⟨List.nodup_flatMap.mpr ⟨fun i _ => perCoreLabels_nodup d i, ?_⟩, aggregateLabels_nodup d g, ?_⟩
  · refine (visited_nodup k).imp_of_mem ?_
    intro i j hi hj hne
    exact perCoreLabels_disjoint d (hindex i hi) (hindex j hj) hne
  · intro key hcore hagg
    obtain ⟨i, -, hcore⟩ := List.mem_flatMap.mp hcore
    obtain ⟨l, hl, rfl⟩ := List.mem_map.mp hcore
    obtain ⟨l', hl', hkey⟩ := List.mem_map.mp hagg
    obtain ⟨suffix, hsuffix, hname⟩ := perCoreLabels_named d hl
    obtain ⟨c, hc, hdigit⟩ := coreName_digit i hsuffix
    rw [← hname, ← show l'.name = l.name from congrArg Prod.fst hkey] at hc
    exact absurd hdigit (by rw [aggregateLabels_named d hl' c hc]; exact Bool.false_ne_true)

/-! ## Replies -/

theorem collected_metrics (k : Kernel) (s : Clocked d.Globals) :
    (d.helpers.collected k s).map CpuData.metric =
      ((visited k).flatMap d.helpers.perCoreLabels ++ d.helpers.aggregateLabels s.vars).map CpuData.metric := by
  rw [← d.helpers.collected_labels k s, List.map_map]
  rfl

theorem collected_nodup {k : Kernel} (hprocs : k.activeProcessorCount.toNat ≤ 10000) (s : Clocked d.Globals) :
    ((d.helpers.collected k s).map CpuData.metric).Nodup := by
  rw [collected_metrics]
  exact labels_nodup d hprocs s.vars

theorem collected_tagged (k : Kernel) (s : Clocked d.Globals) : ∀ e ∈ d.helpers.collected k s, e.Tagged := by
  intro e he
  have hlabel : e.label ∈ (d.helpers.collected k s).map CpuData.label := List.mem_map_of_mem he
  rw [d.helpers.collected_labels, List.mem_append, List.mem_flatMap] at hlabel
  show e.label.Tagged
  rcases hlabel with ⟨i, -, hl⟩ | hl
  · exact perCoreLabels_tagged d i _ hl
  · exact aggregateLabels_tagged d _ _ hl

end HardwareMonitor.Drivers
