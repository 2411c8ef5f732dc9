/-
  HardwareMonitor.Drivers.EnergyRuns — what a driver's power readings add up to over a
  run of requests.

  A driver's variables live as long as it is loaded. A request that does not end with
  success leaves them alone (`serve_kept`); one that does moves each domain's meter by
  one sample (`serve_advances`). So the replies of a run report what the meter reports
  with sample after sample, and the energy between them adds up
  (`energy_accounted`).
-/

import Mathlib.Order.Monotone.Defs
import HardwareMonitor.Drivers.EnergyDomains
import HardwareMonitor.Drivers.IoctlProofs

namespace HardwareMonitor.Drivers

open HardwareMonitor.Lib.Batch (runAll runAll_cons runAll_append)
open HardwareMonitor.Lib.WrappingCounter

/-! ## One batch -/

section

variable {σ : Type} {D : Driver σ} {H : D.Helpers}

theorem beside_all {meter : σ → EnergyMeter} {label : CpuData} {rs : List (Reader σ)}
    (h : ∀ r ∈ rs, Beside meter label r) (s : Clocked σ) :
    meter (runAll rs s).2.vars = meter s.vars ∧ s.reads ≤ (runAll rs s).2.reads ∧
      ∀ e ∈ (runAll rs s).1, e.label ≠ label := by
  induction rs generalizing s with
  | nil => exact ⟨rfl, Nat.le_refl _, fun _ h => nomatch h⟩
  | cons r rs ih =>
    have hr := h r List.mem_cons_self
    obtain ⟨hmeter, hreads, hlabel⟩ := ih (fun r hr => h r (List.mem_cons_of_mem _ hr)) (r s).2
    refine ⟨hmeter.trans (hr.meter s), Nat.le_trans (hr.reads s) hreads, fun e he => ?_⟩
    rcases List.mem_cons.mp he with rfl | he
    · exact hr.label s
    · exact hlabel e he

namespace EnergyDomain

/-- The values a reply reports for the domain. -/
def reported (E : EnergyDomain H) (entries : List CpuData) : List UInt32 :=
  (entries.filter fun e => e.label = powerLabel E.name).map (·.value)

theorem reported_append (E : EnergyDomain H) (es fs : List CpuData) :
    E.reported (es ++ fs) = E.reported es ++ E.reported fs := by
  rw [reported, List.filter_append, List.map_append]
  rfl

theorem reported_none {E : EnergyDomain H} {es : List CpuData} (h : ∀ e ∈ es, e.label ≠ powerLabel E.name) :
    E.reported es = [] := by
  rw [reported, List.filter_eq_nil_iff.mpr fun e he => by simpa using h e he, List.map_nil]

theorem reported_single (E : EnergyDomain H) (value : UInt32) :
    E.reported [{ powerLabel E.name with value }] = [value] := by
  rw [reported, List.filter_cons_of_pos (by exact decide_eq_true rfl)]
  rfl

/-- A batch takes one sample of the domain, reports it once, and leaves the meter there. -/
theorem batch_advances (E : EnergyDomain H) (k : Kernel) (s : Clocked σ) (h : (E.meter s.vars).Ready) :
    ∃ date, s.reads ≤ date ∧ date + 1 < (runAll (H.batch k s.vars) s).2.reads ∧
      E.reported (H.collected k s) = [(E.meter s.vars).report (sampleAt k.machine E.addr date)] ∧
      E.meter (runAll (H.batch k s.vars) s).2.vars = (E.meter s.vars).advanceTo (sampleAt k.machine E.addr date) := by
  let first := (visited k).flatMap (H.perCore k.machine) ++ E.before k.machine s.vars
  have hbatch : H.batch k s.vars = first ++ E.helper k.machine :: E.after k.machine := by
    rw [Driver.Helpers.batch, E.aggregate_eq _ _ h.supported, ← List.append_assoc]
  have hfirst : ∀ r ∈ first, Beside E.meter (powerLabel E.name) r := by
    intro r hr
    rcases List.mem_append.mp hr with hr | hr
    · obtain ⟨i, -, hr⟩ := List.mem_flatMap.mp hr
      exact E.perCore_beside k.machine i r hr
    · exact E.before_beside k.machine s.vars r hr
  let mid := (runAll first s).2
  obtain ⟨hmeter, hreads, hlabel⟩ := beside_all hfirst s
  have hready : (E.meter mid.vars).Ready := hmeter ▸ h
  obtain ⟨hmeter', hreads', hlabel'⟩ := beside_all (E.after_beside k.machine) (E.helper k.machine mid).2
  have hrun : H.collected k s = (runAll first s).1 ++ [(E.helper k.machine mid).1] ++
      (runAll (E.after k.machine) (E.helper k.machine mid).2).1 := by
    show (runAll (H.batch k s.vars) s).1 = _
    rw [hbatch, runAll_append, runAll_cons, List.append_assoc]
    rfl
  have hend : (runAll (H.batch k s.vars) s).2 = (runAll (E.after k.machine) (E.helper k.machine mid).2).2 := by
    rw [hbatch, runAll_append, runAll_cons]
  rw [hrun, hend]
  refine ⟨mid.reads, hreads, ?_, ?_, ?_⟩
  · rw [E.reads _ _ hready] at hreads'
    exact hreads'
  · rw [reported_append, reported_append, reported_none hlabel, reported_none hlabel', E.value _ _ hready, reported_single,
      hmeter, List.nil_append, List.append_nil]
  · rw [hmeter', E.stash _ _ hready, hmeter]

end EnergyDomain

end

/-! ## Requests -/

/-- One request as it comes to the handler: what its caller asks for, and what the kernel
    answers while it is served. The length is a ULONG, as in `DeviceIoControl` and in the
    I/O stack location. -/
structure Ioctl where
  ioControlCode : UInt32
  outputBufferLength : UInt32
  outputBuffer : CpuDataBuffer
  activeProcessorCount : UInt32
  processorNumber : UInt32 → Option ProcessorNumber
  retrieveOutputBuffer : Request → UInt64 → NtStatus
  affinity : GroupAffinity

def Ioctl.request (io : Ioctl) : Request := ⟨io.ioControlCode, io.outputBufferLength.toUInt64⟩

def Ioctl.kernel (io : Ioctl) (m : Machine) : Kernel :=
  ⟨m, io.activeProcessorCount, io.processorNumber, io.retrieveOutputBuffer⟩

/-- The request served by a driver whose variables are at `s`. -/
def Ioctl.serve (io : Ioctl) (d : CpuDriver) (m : Machine) (s : Clocked d.Globals) : World d.Globals :=
  evtIoDeviceControl d.driver (io.kernel m) io.request ⟨s, io.outputBuffer, [], io.affinity, []⟩

def World.succeeded {σ : Type} (w : World σ) : Bool := w.completions.any fun c => c.status = statusSuccess

/-- A request of a run: where the driver's variables were, and the world it left. -/
structure Served (σ : Type) where
  start : Clocked σ
  world : World σ

/-- The queue is sequential: the requests are served one after the other. -/
def serveAll (d : CpuDriver) (m : Machine) : List Ioctl → Clocked d.Globals → List (Served d.Globals)
  | [], _ => []
  | io :: ios, s => ⟨s, io.serve d m s⟩ :: serveAll d m ios (io.serve d m s).drv

/-- The requests of a run that completed with STATUS_SUCCESS. -/
def successes (d : CpuDriver) (m : Machine) (ios : List Ioctl) (s : Clocked d.Globals) : List (Served d.Globals) :=
  (serveAll d m ios s).filter fun r => r.world.succeeded

section

variable {d : CpuDriver} {m : Machine} {io : Ioctl} {s : Clocked d.Globals}

/-- A request that does not succeed leaves the driver's variables as they are. -/
theorem serve_kept (hidx : d.driver.maxEntries io.activeProcessorCount ≤ 65535) (h : (io.serve d m s).succeeded = false) :
    (io.serve d m s).drv.vars = s.vars ∧ s.reads ≤ (io.serve d m s).drv.reads := by
  obtain ⟨c, -, -, hdrv | hdrv⟩ | ⟨information, hcompletions, -⟩ := evtIoDeviceControl_cases d.helpers (io.kernel m) io.request
    ⟨s, io.outputBuffer, [], io.affinity, []⟩ hidx (UInt32.toNat_toUInt64 _ ▸ io.outputBufferLength.toNat_lt)
  · have hsame : (io.serve d m s).drv = s := hdrv
    rw [hsame]
    exact ⟨rfl, Nat.le_refl _⟩
  · have hread : (io.serve d m s).drv = (s.cpuid m 0).2 := hdrv
    rw [hread]
    exact ⟨rfl, Nat.le_succ _⟩
  · have hcompl : (io.serve d m s).completions = [⟨statusSuccess, information⟩] := hcompletions
    rw [World.succeeded, hcompl] at h
    cases h

/-- One that succeeds has run the whole batch, and replies with all of it. -/
theorem serve_collected (hidx : d.driver.maxEntries io.activeProcessorCount ≤ 65535)
    (h : (io.serve d m s).succeeded = true) :
    (io.serve d m s).out.entries = d.helpers.collected (io.kernel m) (s.cpuid m 0).2 ∧
      (io.serve d m s).drv = (runAll (d.helpers.batch (io.kernel m) s.vars) (s.cpuid m 0).2).2 := by
  obtain ⟨c, hc, hcompletions, -⟩ | ⟨-, -, hserved⟩ := evtIoDeviceControl_cases d.helpers (io.kernel m) io.request
    ⟨s, io.outputBuffer, [], io.affinity, []⟩ hidx (UInt32.toNat_toUInt64 _ ▸ io.outputBufferLength.toNat_lt)
  · have hcompl : (io.serve d m s).completions = [c] := hcompletions
    rw [World.succeeded, hcompl] at h
    simp [hc] at h
  · exact hserved

/-- One that succeeds takes one sample of every domain. -/
theorem serve_advances (E : EnergyDomain d.helpers) (hidx : d.driver.maxEntries io.activeProcessorCount ≤ 65535)
    (hready : (E.meter s.vars).Ready) (h : (io.serve d m s).succeeded = true) :
    ∃ date, s.reads ≤ date ∧ date + 1 < (io.serve d m s).drv.reads ∧
      E.reported (io.serve d m s).out.entries = [(E.meter s.vars).report (sampleAt m E.addr date)] ∧
      E.meter (io.serve d m s).drv.vars = (E.meter s.vars).advanceTo (sampleAt m E.addr date) := by
  obtain ⟨hentries, hdrv⟩ := serve_collected hidx h
  obtain ⟨date, hle, hlt, hreported, hmeter⟩ := E.batch_advances (io.kernel m) (s.cpuid m 0).2 hready
  refine ⟨date, Nat.le_of_succ_le hle, ?_, ?_, ?_⟩
  · exact Nat.lt_of_lt_of_eq hlt (congrArg Clocked.reads hdrv).symm
  · exact (congrArg E.reported hentries).trans hreported
  · exact (congrArg (E.meter ·.vars) hdrv).trans hmeter

/-! ## Runs -/

theorem serveAll_kept {ios : List Ioctl} (hidx : ∀ io ∈ ios, d.driver.maxEntries io.activeProcessorCount ≤ 65535) :
    ∀ r ∈ serveAll d m ios s, r.world.succeeded = false → r.world.drv.vars = r.start.vars := by
  induction ios generalizing s with
  | nil => exact fun _ h => nomatch h
  | cons io ios ih =>
    intro r hr hfailed
    rcases List.mem_cons.mp hr with rfl | hr
    · exact (serve_kept (hidx io List.mem_cons_self) hfailed).1
    · exact ih (fun io h => hidx io (List.mem_cons_of_mem _ h)) r hr hfailed

/-- The samples of a run's successful requests are taken one after the other, each while
    its request is served, and reported as the meter reports them. -/
theorem successes_report (E : EnergyDomain d.helpers) {ios : List Ioctl}
    (hidx : ∀ io ∈ ios, d.driver.maxEntries io.activeProcessorCount ≤ 65535) (hready : (E.meter s.vars).Ready) :
    ∃ dates : List Nat,
      List.Forall₂ (fun r date => r.start.reads ≤ date ∧ date + 1 < r.world.drv.reads) (successes d m ios s) dates ∧
      (successes d m ios s).map (fun r => E.reported r.world.out.entries) =
        ((E.meter s.vars).reports (dates.map (sampleAt m E.addr))).map ([·]) ∧
      (∀ date ∈ dates, s.reads ≤ date) ∧ dates.IsChain (· < ·) := by
  induction ios generalizing s with
  | nil => exact ⟨[], .nil, rfl, List.forall_mem_nil _, .nil⟩
  | cons io ios ih =>
    have hio := hidx io List.mem_cons_self
    have hios : ∀ io ∈ ios, d.driver.maxEntries io.activeProcessorCount ≤ 65535 :=
      fun io h => hidx io (List.mem_cons_of_mem _ h)
    cases hok : (io.serve d m s).succeeded with
    | false =>
      have hskip : successes d m (io :: ios) s = successes d m ios (io.serve d m s).drv :=
        List.filter_cons_of_neg (by simp [hok])
      obtain ⟨hvars, hle⟩ := serve_kept hio hok
      obtain ⟨dates, hdates, hreported, hlater, hchain⟩ := ih hios (hvars ▸ hready)
      rw [hvars] at hreported
      rw [hskip]
      exact ⟨dates, hdates, hreported, fun date h => Nat.le_trans hle (hlater date h), hchain⟩
    | true =>
      have hcons : successes d m (io :: ios) s = ⟨s, io.serve d m s⟩ :: successes d m ios (io.serve d m s).drv :=
        List.filter_cons_of_pos hok
      obtain ⟨date, hle, hlt, hreported, hmeter⟩ := serve_advances E hio hready hok
      obtain ⟨dates, hdates, hrest, hlater, hchain⟩ := ih hios (hmeter ▸ hready.advanceTo _)
      rw [hmeter] at hrest
      rw [hcons]
      refine ⟨date :: dates, .cons ⟨hle, hlt⟩ hdates, ?_, fun later h => ?_, ?_⟩
      · rw [List.map_cons, hreported, hrest]
        rfl
      · rcases List.mem_cons.mp h with rfl | h
        · exact hle
        · have hnext := hlater later h
          omega
      · refine hchain.cons fun next hnext => ?_
        have := hlater next (List.mem_of_mem_head? hnext)
        omega

end

/-! ## The three counters -/

inductive EnergyCounter where
  | intelPackage
  | intelCoreDomain
  | amdPackage
  deriving DecidableEq, Repr

abbrev EnergyCounter.driver : EnergyCounter → CpuDriver
  | .intelPackage => .intel
  | .intelCoreDomain => .intel
  | .amdPackage => .amd

def EnergyCounter.domain : (c : EnergyCounter) → EnergyDomain c.driver.helpers
  | .intelPackage => Intel.package
  | .intelCoreDomain => Intel.coreDomain
  | .amdPackage => Amd.package

/-- Over any run of a loaded driver: a request that does not succeed changes none of its
    variables; the first success reports 0, and each later one the power between the
    samples of the one before and its own; and where the count behind the register
    advances by less than 2³² from success to success, the energy deltas add up to its
    advance from the first to the last. -/
theorem energy_accounted (c : EnergyCounter) (m : Machine) (s : Clocked c.driver.Globals) (ios : List Ioctl)
    (hready : (c.domain.meter s.vars).Ready) (hloaded : (c.domain.meter s.vars).last = none)
    (hprocs : ∀ io ∈ ios, c.driver.driver.metricsPerCore.toNat * io.activeProcessorCount.toNat +
      c.driver.driver.metricsAggregate.toNat ≤ 65535)
    (count : Nat → Nat) (hcount : Monotone count)
    (hsampled : ∀ date, (m.readmsr date c.domain.addr).toNat % UInt32.size = count date % UInt32.size) :
    (∀ r ∈ serveAll c.driver m ios s, r.world.succeeded = false → r.world.drv.vars = r.start.vars) ∧
    ∃ dates : List Nat,
      List.Forall₂ (fun r date => r.start.reads ≤ date ∧ date + 1 < r.world.drv.reads) (successes c.driver m ios s) dates ∧
      (successes c.driver m ios s).map (fun r => c.domain.reported r.world.out.entries) =
        ((c.domain.meter s.vars).powers (dates.map (sampleAt m c.domain.addr))).map ([·]) ∧
      (dates.IsChain (fun prev curr => count curr < count prev + UInt32.size) →
        ∀ first ∈ dates.head?, ∀ last ∈ dates.getLast?,
          count first + ((energyDeltas (dates.map (sampleAt m c.domain.addr))).map UInt32.toNat).sum = count last) := by
  refine ⟨serveAll_kept hprocs, ?_⟩
  obtain ⟨dates, hdates, hreported, -, hchain⟩ := successes_report (m := m) c.domain hprocs hready
  refine ⟨dates, hdates, ?_, fun hsteady => ?_⟩
  · rw [hreported, EnergyMeter.reports_fresh hloaded]
  · refine add_sum_energyDeltas hsampled ?_
    rw [List.isChain_iff_getElem] at hchain hsteady ⊢
    exact fun i hi => ⟨hcount (Nat.le_of_lt (hchain i hi)), hsteady i hi⟩

/-- A package counter close to its wrap, which advances with every read. -/
def wrappingCount (date : Nat) : Nat := 4294966800 + 40 * date

def wrappingMachine : Machine :=
  { (amdKernel 2).machine with
    readmsr date _ := (wrappingCount date).toUInt64
    queryPerformanceCounter date := Int64.ofNat (1000000 * date) }

def amdIoctl (ioControlCode : UInt32) : Ioctl where
  ioControlCode := ioControlCode
  outputBufferLength := 452
  outputBuffer := emptyBuffer
  activeProcessorCount := 2
  processorNumber i := some ⟨0, i.toUInt8⟩
  retrieveOutputBuffer _ _ := statusSuccess
  affinity := .zero

/-- Two requests that are served, and one between them that is refused. -/
def wrappingRun : List Ioctl := [amdIoctl ioctlGetData, amdIoctl 0, amdIoctl ioctlGetData]

/-- The counter wraps between the two replies, and its advance is accounted for. -/
theorem energy_accounted_wrap :
    ∃ first last : Nat, wrappingCount first < UInt32.size ∧ UInt32.size ≤ wrappingCount last ∧
      (successes .amd wrappingMachine wrappingRun ⟨0, amdGlobals⟩).map (fun r => Amd.package.reported r.world.out.entries) =
        [[0], [(Amd.packageMeter amdGlobals).power (sampleAt wrappingMachine Amd.amdMsrPkgEnergyStatus first)
          (sampleAt wrappingMachine Amd.amdMsrPkgEnergyStatus last)]] ∧
      wrappingCount first + (energyDelta (sampleAt wrappingMachine Amd.amdMsrPkgEnergyStatus last).energy
        (sampleAt wrappingMachine Amd.amdMsrPkgEnergyStatus first).energy).toNat = wrappingCount last := by
  have hsampled : ∀ date, (wrappingMachine.readmsr date Amd.amdMsrPkgEnergyStatus).toNat % UInt32.size =
      wrappingCount date % UInt32.size := by
    intro date
    show (wrappingCount date % 18446744073709551616) % 4294967296 = wrappingCount date % 4294967296
    exact Nat.mod_mod_of_dvd _ (by decide)
  obtain ⟨-, dates, hdates, hreported, hsum⟩ := energy_accounted .amdPackage wrappingMachine ⟨0, amdGlobals⟩ wrappingRun
    ⟨rfl, by decide, by decide⟩ rfl (by decide) wrappingCount (fun _ _ h => by unfold wrappingCount; omega) hsampled
  have hreads : (successes .amd wrappingMachine wrappingRun ⟨0, amdGlobals⟩).map (fun r => (r.start.reads, r.world.drv.reads)) =
      [(0, 13), (13, 26)] := by decide +kernel
  have hspans : List.Forall₂ (fun (span : Nat × Nat) date => span.1 ≤ date ∧ date + 1 < span.2) [(0, 13), (13, 26)] dates :=
    hreads ▸ List.forall₂_map_left_iff.mpr hdates
  obtain ⟨first, last, rfl⟩ := List.length_eq_two.mp hspans.length_eq.symm
  simp only [List.forall₂_cons, List.Forall₂.nil, and_true] at hspans
  obtain ⟨⟨-, hfirst⟩, hlast, hlast'⟩ := hspans
  have hcounts : wrappingCount first < 4294967296 ∧ 4294967296 ≤ wrappingCount last ∧
      wrappingCount last < wrappingCount first + 4294967296 := by
    unfold wrappingCount
    omega
  exact ⟨first, last, hcounts.1, hcounts.2.1, hreported,
    hsum (.cons_cons hcounts.2.2 (.singleton last)) first rfl last rfl⟩

end HardwareMonitor.Drivers
