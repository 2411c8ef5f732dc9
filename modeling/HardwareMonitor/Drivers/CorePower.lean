/-
  HardwareMonitor.Drivers.CorePower — AMD's power of one core, over runs of requests.

  `retCoreLoad` and `retCorePower` share the flag `valid` of a core's state, and only
  `retCoreLoad` sets it: with load tracking it is set before the core's energy has been
  sampled at all, and without it never is. So the power is not 0 on the first sample, but
  taken against energy 0 at QPC 0, or it is 0 for ever (`corePowers_eq`). It is what the
  core's own samples give only where that makes no difference (`core_power_iff`).

  `Tracked` is what the driver keeps of a core: the stored sample and the flag. Every
  helper but the core's own two leaves it alone.
-/

import Mathlib.Data.List.Nodup
import HardwareMonitor.Drivers.EnergyRuns
import HardwareMonitor.Drivers.PowerAccuracy
import HardwareMonitor.Drivers.RequestSafety

namespace HardwareMonitor.Drivers.Amd

open HardwareMonitor.Lib.Batch (runAll runAll_append runAll_cons runAll_nil runAll_invariant)

/-! ## What is reported -/

/-- The helpers a reply calls before the power of core `i`. -/
def beforePower (k : Kernel) (i : UInt32) : List (Reader Globals) :=
  ((visited k).takeWhile (· ≠ i)).flatMap (perCoreHelpers k.machine) ++
    [retCoreClockSpeed k.machine i, retCoreLoad k.machine i]

/-- Where the driver stands when a reply that starts at `s` calls `retCorePower(i)`. -/
def powerCall (k : Kernel) (i : UInt32) (s : Clocked Globals) : Clocked Globals := (runAll (beforePower k i) s).2

/-- The replies of a run that visit core `i`: the sample its power is computed from, and
    the power reported. -/
def corePowers (m : Machine) (i : UInt32) : List Ioctl → Clocked Globals → List (Sample × UInt32)
  | [], _ => []
  | io :: ios, s =>
    let later := corePowers m i ios (io.serve .amd m s).drv
    if i ∈ visited (io.kernel m) then
      let call := powerCall (io.kernel m) i (s.cpuid m 0).2
      (sampleAt m amdMsrCoreEnergyStatus call.reads, (retCorePower m i call).1.value) :: later
    else later

/-- A core's energy counter, by the unit and the clock of the driver. -/
def coreMeter (g : Globals) : EnergyMeter where
  supported := amdFamilyZen ≤ g.family
  energyUnitDivisor := g.pkgState.energyUnitDivisor
  qpcFreq := g.qpcFreq
  last := none

/-- A core as it is when the driver has been loaded. -/
def AmdCoreDeltaState.zero : AmdCoreDeltaState := ⟨0, 0, 0, 0, false⟩

/-- A sample of a counter that stood still since the clock began. -/
def Sample.zero : Sample := ⟨0, 0⟩

/-! ## One helper -/

/-- The driver's variables, as far as the power of core `i` depends on them: `stored` is
    its last sample, and `valid` the flag. -/
structure Tracked (e : EnergyMeter) (hasMperf : Bool) (i : UInt32) (stored : Sample) (valid : Bool) (g : Globals) : Prop where
  meter : coreMeter g = e
  supported : amdFamilyZen ≤ g.family
  hasMperf : g.hasMperf = hasMperf
  inRange : i < g.maxProcs
  core : ∃ coreState, g.coreState = some coreState ∧ (coreState i).prevCoreEnergy = stored.energy ∧
    (coreState i).prevCoreQpc = stored.qpc ∧ (coreState i).valid = valid

variable {e : EnergyMeter} {mperf valid : Bool} {i : UInt32} {stored : Sample} {g : Globals}

theorem Tracked.setCore (h : Tracked e mperf i stored valid g) {coreState : UInt32 → AmdCoreDeltaState} {stored' : Sample}
    {valid' : Bool} (henergy : (coreState i).prevCoreEnergy = stored'.energy) (hqpc : (coreState i).prevCoreQpc = stored'.qpc)
    (hvalid : (coreState i).valid = valid') :
    Tracked e mperf i stored' valid' { g with coreState := some coreState } :=
  ⟨h.meter, h.supported, h.hasMperf, h.inRange, coreState, rfl, henergy, hqpc, hvalid⟩

theorem retCorePower_tracked (m : Machine) {s : Clocked Globals} (h : Tracked e mperf i stored valid s.vars)
    (hclock : 0 ≤ e.qpcFreq) :
    let x := sampleAt m amdMsrCoreEnergyStatus s.reads
    (retCorePower m i s).1.value = (if valid then e.power stored x else 0) ∧
      Tracked e mperf i x valid (retCorePower m i s).2.vars := by
  intro x
  obtain ⟨coreState, hstate, henergy, hqpc, hvalid⟩ := h.core
  have hserved : ¬ (s.vars.family < amdFamilyZen ∨ s.vars.maxProcs ≤ i) := by
    intro hcase
    rcases hcase with hold | hout
    · exact absurd h.supported (UInt32.not_le.mpr hold)
    · exact absurd h.inRange (UInt32.not_lt.mpr hout)
  obtain rfl := h.meter
  simp only [retCorePower, hstate, if_neg hserved]
  constructor
  · rw [← powerMilliwatts_power (g := s.vars) rfl rfl hclock stored x valid, henergy, hqpc, hvalid]
    rfl
  · exact h.setCore (by rw [if_pos rfl]; rfl) (by rw [if_pos rfl]; rfl) (by rw [if_pos rfl]; exact hvalid)

theorem retCoreLoad_tracked (m : Machine) {s : Clocked Globals} (h : Tracked e mperf i stored valid s.vars) :
    Tracked e mperf i stored (valid || mperf) (retCoreLoad m i s).2.vars := by
  obtain ⟨coreState, hstate, henergy, hqpc, hvalid⟩ := h.core
  have hin : ¬ s.vars.maxProcs ≤ i := UInt32.not_le.mpr h.inRange
  cases mperf with
  | false =>
    rw [Bool.or_false]
    simp only [retCoreLoad, hstate, h.hasMperf, true_or, if_true]
    exact h
  | true =>
    rw [Bool.or_true]
    simp only [retCoreLoad, hstate, h.hasMperf, Bool.true_eq_false, hin, or_self, if_false]
    exact h.setCore (by rw [if_pos rfl]; exact henergy) (by rw [if_pos rfl]; exact hqpc) (by rw [if_pos rfl])

/-- A helper that leaves what the driver keeps of core `i` as it is. -/
def LeavesAlone (i : UInt32) (r : Reader Globals) : Prop :=
  ∀ {e : EnergyMeter} {mperf valid : Bool} {stored : Sample} (s : Clocked Globals),
    Tracked e mperf i stored valid s.vars → Tracked e mperf i stored valid (r s).2.vars

theorem leavesAlone_of_vars {r : Reader Globals} (hvars : ∀ s, (r s).2.vars = s.vars) (i : UInt32) : LeavesAlone i r := by
  intro _ _ _ _ s h
  rw [hvars]
  exact h

theorem retCoreLoad_leavesAlone (m : Machine) {i j : UInt32} (hne : i ≠ j) : LeavesAlone i (retCoreLoad m j) := by
  intro _ _ _ _ s h
  obtain ⟨coreState, hstate, hcore⟩ := h.core
  simp only [retCoreLoad, hstate]
  split
  · exact h
  · exact h.setCore (by rw [if_neg hne]; exact hcore.1) (by rw [if_neg hne]; exact hcore.2.1) (by rw [if_neg hne]; exact hcore.2.2)

theorem retCorePower_leavesAlone (m : Machine) {i j : UInt32} (hne : i ≠ j) : LeavesAlone i (retCorePower m j) := by
  intro _ _ _ _ s h
  obtain ⟨coreState, hstate, hcore⟩ := h.core
  simp only [retCorePower, hstate]
  split
  · exact h
  · exact h.setCore (by rw [if_neg hne]; exact hcore.1) (by rw [if_neg hne]; exact hcore.2.1) (by rw [if_neg hne]; exact hcore.2.2)

theorem perCore_leavesAlone (m : Machine) {i j : UInt32} (hne : i ≠ j) : ∀ r ∈ perCoreHelpers m j, LeavesAlone i r := by
  intro r hr
  simp only [perCoreHelpers, List.mem_cons, List.not_mem_nil, or_false] at hr
  rcases hr with rfl | rfl | rfl
  · exact leavesAlone_of_vars (retCoreClockSpeed_vars m j) i
  · exact retCoreLoad_leavesAlone m hne
  · exact retCorePower_leavesAlone m hne

/-- The package's helper writes its own sample only. -/
theorem retPackagePower_leavesAlone (m : Machine) (i : UInt32) : LeavesAlone i (retPackagePower m) := by
  intro _ _ _ _ s h
  simp only [retPackagePower, if_neg (UInt32.not_lt.mpr h.supported)]
  exact ⟨h.meter, h.supported, h.hasMperf, h.inRange, h.core⟩

theorem aggregate_leavesAlone (m : Machine) (g : Globals) (i : UInt32) : ∀ r ∈ helpers.aggregate m g, LeavesAlone i r := by
  intro r hr
  simp only [helpers, List.mem_cons, List.not_mem_nil, or_false] at hr
  rcases hr with rfl | rfl | rfl | rfl
  · exact leavesAlone_of_vars (fun s => by rw [retTDieTemp_snd, (readSmn_reads m _ s).1]) i
  · exact leavesAlone_of_vars (fun s => by rw [retCoreVoltage, retVoltage_snd, (readSmn_reads m _ s).1]) i
  · exact leavesAlone_of_vars (fun s => by rw [retSoCVoltage, retVoltage_snd, (readSmn_reads m _ s).1]) i
  · exact retPackagePower_leavesAlone m i

theorem runAll_leavesAlone {rs : List (Reader Globals)} (hrs : ∀ r ∈ rs, LeavesAlone i r) {s : Clocked Globals}
    (h : Tracked e mperf i stored valid s.vars) : Tracked e mperf i stored valid (runAll rs s).2.vars :=
  runAll_invariant (fun s => Tracked e mperf i stored valid s.vars) (fun r hr s => hrs r hr s) h

/-! ## One reply -/

/-- A reply that visits core `i`: other helpers, the core's clock and load, its power, and
    other helpers again. -/
theorem batch_split {k : Kernel} (g : Globals) (hi : i ∈ visited k) :
    ∃ earlier rest : List (Reader Globals), beforePower k i = earlier ++ [retCoreClockSpeed k.machine i, retCoreLoad k.machine i] ∧
      helpers.batch k g = beforePower k i ++ retCorePower k.machine i :: rest ∧
      (∀ r ∈ earlier, LeavesAlone i r) ∧ ∀ r ∈ rest, LeavesAlone i r := by
  obtain ⟨before, after, hsplit, hbefore⟩ := List.eq_append_cons_of_mem hi
  have hnodup := visited_nodup k
  rw [hsplit] at hnodup
  have hafter : i ∉ after := (List.nodup_cons.mp hnodup.of_append_right).1
  have htake : (visited k).takeWhile (· ≠ i) = before := by
    rw [hsplit, List.takeWhile_append_of_pos fun j hj => by simpa using ne_of_mem_of_not_mem hj hbefore]
    simp
  refine ⟨before.flatMap (perCoreHelpers k.machine), after.flatMap (perCoreHelpers k.machine) ++ helpers.aggregate k.machine g,
    ?_, ?_, ?_, ?_⟩
  · rw [beforePower, htake]
  · rw [beforePower, htake, Driver.Helpers.batch, hsplit, List.flatMap_append, List.flatMap_cons]
    simp only [List.append_assoc]
    rfl
  · intro r hr
    obtain ⟨j, hj, hr⟩ := List.mem_flatMap.mp hr
    exact perCore_leavesAlone k.machine (ne_of_mem_of_not_mem hj hbefore).symm r hr
  · intro r hr
    rcases List.mem_append.mp hr with hr | hr
    · obtain ⟨j, hj, hr⟩ := List.mem_flatMap.mp hr
      exact perCore_leavesAlone k.machine (ne_of_mem_of_not_mem hj hafter).symm r hr
    · exact aggregate_leavesAlone k.machine g i r hr

/-- The power computed at `powerCall` is the entry of the reply behind the entries of the
    earlier cores and the core's own clock and load. -/
theorem collected_corePower {k : Kernel} (s : Clocked Globals) (hi : i ∈ visited k) :
    (helpers.collected k s)[(beforePower k i).length]? = some (retCorePower k.machine i (powerCall k i s)).1 := by
  obtain ⟨earlier, rest, -, hbatch, -, -⟩ := batch_split s.vars hi
  have hrun : helpers.collected k s = (runAll (helpers.batch k s.vars) s).1 := rfl
  rw [hrun, hbatch, runAll_append, runAll_cons, List.getElem?_append_right (by rw [Lib.Batch.length_runAll]),
    Lib.Batch.length_runAll, Nat.sub_self]
  rfl

/-- So the reply has it, under the core's name. -/
theorem reply_corePower {m : Machine} {io : Ioctl} {s : Clocked Globals}
    (hidx : CpuDriver.amd.driver.maxEntries io.activeProcessorCount ≤ 65535) (hok : (io.serve .amd m s).succeeded = true)
    (hi : i ∈ visited (io.kernel m)) :
    ∃ entry ∈ (io.serve .amd m s).out.entries, entry.label = coreData i .power .milliwatts "Power" ∧
      entry.value = (retCorePower m i (powerCall (io.kernel m) i (s.cpuid m 0).2)).1.value := by
  have hentries : (io.serve .amd m s).out.entries = helpers.collected (io.kernel m) (s.cpuid m 0).2 :=
    (serve_collected hidx hok).1
  rw [hentries]
  exact ⟨_, List.mem_of_getElem? (collected_corePower _ hi), retCorePower_label m i _, rfl⟩

theorem batch_visited {k : Kernel} {s : Clocked Globals} (hclock : 0 ≤ e.qpcFreq)
    (h : Tracked e mperf i stored valid s.vars) (hi : i ∈ visited k) :
    let call := powerCall k i s
    let x := sampleAt k.machine amdMsrCoreEnergyStatus call.reads
    (retCorePower k.machine i call).1.value = (if valid || mperf then e.power stored x else 0) ∧
      Tracked e mperf i x (valid || mperf) (runAll (helpers.batch k s.vars) s).2.vars := by
  intro call x
  obtain ⟨earlier, rest, hbefore, hbatch, hearlier, hrest⟩ := batch_split s.vars hi
  have hcall : Tracked e mperf i stored (valid || mperf) call.vars := by
    have hclockSpeed := leavesAlone_of_vars (retCoreClockSpeed_vars k.machine i) i _ (runAll_leavesAlone hearlier h)
    have hload := retCoreLoad_tracked k.machine hclockSpeed
    have hend : call = (retCoreLoad k.machine i (retCoreClockSpeed k.machine i (runAll earlier s).2).2).2 := by
      show (runAll (beforePower k i) s).2 = _
      rw [hbefore, runAll_append, runAll_cons, runAll_cons, runAll_nil]
    rw [hend]
    exact hload
  obtain ⟨hvalue, hpower⟩ := retCorePower_tracked k.machine hcall hclock
  refine ⟨hvalue, ?_⟩
  rw [hbatch, runAll_append, runAll_cons]
  exact runAll_leavesAlone hrest hpower

theorem batch_unvisited {k : Kernel} {s : Clocked Globals} (h : Tracked e mperf i stored valid s.vars) (hi : i ∉ visited k) :
    Tracked e mperf i stored valid (runAll (helpers.batch k s.vars) s).2.vars := by
  refine runAll_leavesAlone (fun r hr => ?_) h
  rcases List.mem_append.mp hr with hr | hr
  · obtain ⟨j, hj, hr⟩ := List.mem_flatMap.mp hr
    exact perCore_leavesAlone k.machine (ne_of_mem_of_not_mem hj hi).symm r hr
  · exact aggregate_leavesAlone k.machine s.vars i r hr

/-! ## Runs -/

theorem serve_ran {m : Machine} {io : Ioctl} {s : Clocked Globals} (hok : (io.serve .amd m s).succeeded = true) :
    (io.serve .amd m s).drv = (runAll (helpers.batch (io.kernel m) (s.cpuid m 0).2.vars) (s.cpuid m 0).2).2 := by
  obtain ⟨c, hc, hcompletions⟩ | ⟨-, hdrv⟩ := evtIoDeviceControl_ran (io.kernel m) helpers io.request
    ⟨s, io.outputBuffer, [], io.affinity, []⟩
  · have hcompl : (io.serve .amd m s).completions = [c] := hcompletions
    rw [World.succeeded, hcompl] at hok
    simp [hc] at hok
  · exact hdrv

/-- What comes out of the flag. With load tracking: the power between every two neighbouring
    samples, the first taken against `stored`. Without: 0 for each. -/
def reportedFrom (e : EnergyMeter) (hasMperf : Bool) (stored : Sample) (samples : List Sample) : List UInt32 :=
  if hasMperf then List.zipWith e.power (stored :: samples) samples else samples.map fun _ => 0

theorem corePowers_eq {m : Machine} {ios : List Ioctl} {s : Clocked Globals} (hclock : 0 ≤ e.qpcFreq)
    (h : Tracked e mperf i stored valid s.vars) (hvalid : (valid || mperf) = mperf)
    (hok : ∀ r ∈ serveAll .amd m ios s, r.world.succeeded = true) :
    (corePowers m i ios s).map (·.2) = reportedFrom e mperf stored ((corePowers m i ios s).map (·.1)) := by
  induction ios generalizing s stored valid with
  | nil => cases mperf <;> rfl
  | cons io ios ih =>
    have hserved : (io.serve .amd m s).succeeded = true := hok _ List.mem_cons_self
    have hrest : ∀ r ∈ serveAll .amd m ios (io.serve .amd m s).drv, r.world.succeeded = true :=
      fun r hr => hok r (List.mem_cons_of_mem _ hr)
    have hdrv := serve_ran hserved
    have hstart : Tracked e mperf i stored valid (s.cpuid m 0).2.vars := h
    simp only [corePowers]
    split
    · rename_i hi
      obtain ⟨hvalue, hnext⟩ := batch_visited (k := io.kernel m) hclock hstart hi
      rw [hvalid] at hvalue hnext
      rw [← hdrv] at hnext
      have hlater := ih hnext (Bool.or_self mperf) hrest
      simp only [List.map_cons] at hlater ⊢
      rw [show (retCorePower m i (powerCall (io.kernel m) i (s.cpuid m 0).2)).1.value = _ from hvalue, hlater]
      cases mperf <;> rfl
    · rename_i hi
      have hnext := batch_unvisited (k := io.kernel m) hstart hi
      rw [← hdrv] at hnext
      exact ih hnext hvalid hrest

/-- The rate between two samples is no whole milliwatt: no millisecond has passed, or too
    little energy for one. (The reported number has 32 bits, so 2³² mW are none either.) -/
def NoMilliwatt (e : EnergyMeter) (prev curr : Sample) : Prop :=
  e.energyMj prev curr * 1000 / e.elapsedMs prev curr % UInt32.size = 0

theorem power_eq_zero_iff (e : EnergyMeter) (prev curr : Sample) : e.power prev curr = 0 ↔ NoMilliwatt e prev curr := by
  rw [NoMilliwatt, ← EnergyMeter.power_toNat, ← UInt32.toNat_inj]
  rfl

/-- The samples of a core on which the shared flag makes no difference. -/
def Unnoticed (e : EnergyMeter) (hasMperf : Bool) (samples : List Sample) : Prop :=
  if hasMperf then ∀ first ∈ samples.head?, NoMilliwatt e Sample.zero first else samples.IsChain (NoMilliwatt e)

theorem zeros_iff (e : EnergyMeter) (first : Sample) (later : List Sample) :
    (later.map fun _ => (0 : UInt32)) = List.zipWith e.power (first :: later) later ↔ (first :: later).IsChain (NoMilliwatt e) := by
  induction later generalizing first with
  | nil => simp
  | cons next later ih =>
    rw [List.map_cons, List.zipWith_cons_cons, List.cons.injEq, ih, List.isChain_cons_cons, ← power_eq_zero_iff, eq_comm]

theorem reportedFrom_iff (e : EnergyMeter) (hasMperf : Bool) (samples : List Sample) :
    reportedFrom e hasMperf Sample.zero samples = e.powers samples ↔ Unnoticed e hasMperf samples := by
  cases samples with
  | nil => cases hasMperf <;> simp [reportedFrom, Unnoticed, EnergyMeter.powers]
  | cons first later =>
    cases hasMperf with
    | false =>
      simp only [reportedFrom, Unnoticed, EnergyMeter.powers, Bool.false_eq_true, if_false, List.map_cons, List.cons.injEq,
        true_and]
      exact zeros_iff e first later
    | true =>
      simp only [reportedFrom, Unnoticed, EnergyMeter.powers, if_true, List.zipWith_cons_cons, List.cons.injEq, and_true,
        List.head?_cons, Option.mem_def, Option.some.injEq, forall_eq']
      exact power_eq_zero_iff e Sample.zero first

/-- The power reported for core `i` in a run of successful requests is what its own samples
    give: 0 for the first, then the power between every two neighbours. -/
def FromOwnSamples (m : Machine) (i : UInt32) (ios : List Ioctl) (s : Clocked Globals) : Prop :=
  (corePowers m i ios s).map (·.2) = (coreMeter s.vars).powers ((corePowers m i ios s).map (·.1))

/-- In a run of a loaded driver, all of whose requests succeed, the power of a core is what
    its own samples give exactly if the flag makes no difference on them: with load
    tracking, if its first sample makes no milliwatt since energy 0 at QPC 0; without, if
    no two neighbouring samples make one. -/
theorem core_power_iff (m : Machine) (i : UInt32) (ios : List Ioctl) (s : Clocked Globals)
    (coreState : UInt32 → AmdCoreDeltaState) (hstate : s.vars.coreState = some coreState)
    (hloaded : coreState i = .zero) (hi : i < s.vars.maxProcs) (hfamily : amdFamilyZen ≤ s.vars.family)
    (hclock : 0 ≤ s.vars.qpcFreq) (hok : ∀ r ∈ serveAll .amd m ios s, r.world.succeeded = true) :
    FromOwnSamples m i ios s ↔
      Unnoticed (coreMeter s.vars) s.vars.hasMperf ((corePowers m i ios s).map (·.1)) := by
  have htracked : Tracked (coreMeter s.vars) s.vars.hasMperf i Sample.zero false s.vars :=
    ⟨rfl, hfamily, rfl, hi, coreState, hstate, by rw [hloaded]; rfl, by rw [hloaded]; rfl, by rw [hloaded]; rfl⟩
  rw [FromOwnSamples, corePowers_eq (e := coreMeter s.vars) hclock htracked (Bool.false_or _) hok]
  exact reportedFrom_iff _ _ _

/-- A family 17h part, freshly loaded, with per-core state. -/
def coreGlobals (hasMperf : Bool) : Globals := { amdGlobals with hasMperf := hasMperf, coreState := some fun _ => .zero }

/-- A machine whose energy counters stand at `energy` up to the read `wake`, and at 10 J from
    then on; its clock has run for a second when it is loaded. -/
def wakingMachine (energy : UInt64) (wake : Nat) : Machine :=
  { (amdKernel 2).machine with
    readmsr := fun date _ => if date < wake then energy else 655360
    queryPerformanceCounter := fun date => Int64.ofNat (10000000 + 1000000 * date) }

def twoRequests : List Ioctl := [amdIoctl ioctlGetData, amdIoctl ioctlGetData]

/-- A core that has used 10 J before the first request, and nothing since: the first reply
    has 6250 mW for it, where there is no earlier sample. -/
theorem first_power_since_zero :
    (∀ r ∈ serveAll .amd (wakingMachine 655360 0) twoRequests ⟨0, coreGlobals true⟩, r.world.succeeded = true) ∧
      (corePowers (wakingMachine 655360 0) 0 twoRequests ⟨0, coreGlobals true⟩).map (·.2) = [6250, 0] ∧
      ¬ FromOwnSamples (wakingMachine 655360 0) 0 twoRequests ⟨0, coreGlobals true⟩ := by
  unfold FromOwnSamples
  decide +kernel

/-- Without load tracking the 10 J between two replies are not reported. -/
example : (corePowers (wakingMachine 0 18) 0 twoRequests ⟨0, coreGlobals false⟩).map (·.2) = [0, 0] := by decide +kernel

/-- With it they are, and a counter at 0 gives 0 at first. -/
theorem core_power_waking : FromOwnSamples (wakingMachine 0 18) 0 twoRequests ⟨0, coreGlobals true⟩ := by
  have hsamples : (corePowers (wakingMachine 0 18) 0 twoRequests ⟨0, coreGlobals true⟩).map (·.1) =
      [⟨0, 16000000⟩, ⟨655360, 37000000⟩] := by decide +kernel
  refine (core_power_iff (wakingMachine 0 18) 0 twoRequests ⟨0, coreGlobals true⟩ (fun _ => .zero) rfl rfl (by decide)
    (by decide) (by decide) (by decide +kernel)).mpr ?_
  rw [hsamples]
  show ∀ first ∈ some _, NoMilliwatt _ Sample.zero first
  intro first heq
  cases heq
  show _ = 0
  decide

end HardwareMonitor.Drivers.Amd
