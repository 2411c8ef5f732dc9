/-
  HardwareMonitor.Drivers.IoctlProofs — what a served IOCTL_GET_DATA leaves in the
  output buffer.

  A collector is `addMetrics` over its list of helpers, and the whole reply is one
  batch: the per-core helpers of the processors the loop visits, then the aggregate
  helpers the feature flags enable (`Helpers.collected`). `Filled` is the invariant of
  the filling: `buf_idx` cells hold exactly the batch run so far. One metric keeps it
  (`addMetric_filled`), so a list of them does (`addMetrics_filled`), so the loop does
  (`visitProcessors_filled`), as long as the cells still to come fit into the buffer
  and into the USHORT index; that they do is `requiredSize_toNat` and the size check.
-/

import HardwareMonitor.Drivers.Helpers

namespace HardwareMonitor.Drivers

open HardwareMonitor.Lib.Batch (runAll runAll_append length_runAll)

variable {σ : Type}

/-! ## Sizes -/

/-- The bytes of a header and `n` entries. -/
def replySize (n : Nat) : Nat := 12 + n * 44

theorem neededSize_toNat (i : UInt16) :
    ((sizeofCpuDataHeader + (i.toUInt64 + 1) * sizeofCpuData).toUInt32).toNat = replySize (i.toNat + 1) := by
  have hi := i.toNat_lt
  simp only [sizeofCpuDataHeader, sizeofCpuData, replySize, UInt64.toNat_toUInt32, UInt64.toNat_add, UInt64.toNat_mul,
    UInt16.toNat_toUInt64, UInt64.reduceToNat]
  omega

theorem bytesWritten_toNat (i : UInt16) :
    ((sizeofCpuDataHeader + i.toUInt64 * sizeofCpuData).toUInt32).toNat = replySize i.toNat := by
  have hi := i.toNat_lt
  simp only [sizeofCpuDataHeader, sizeofCpuData, replySize, UInt64.toNat_toUInt32, UInt64.toNat_add, UInt64.toNat_mul,
    UInt16.toNat_toUInt64, UInt64.reduceToNat]
  omega

/-- The entries the size check of the handler makes room for. -/
def Driver.maxEntries (D : Driver σ) (totalProcs : UInt32) : Nat :=
  D.metricsPerCore.toNat * totalProcs.toNat + D.metricsAggregate.toNat

/-- Where the entries can be counted in a USHORT, `required_size` does not wrap. -/
theorem requiredSize_toNat (D : Driver σ) (P : UInt32) (h : D.maxEntries P ≤ 65535) :
    (D.requiredSize P).toNat = replySize (D.maxEntries P) := by
  have he : (D.metricsPerCore * P + D.metricsAggregate).toNat = D.maxEntries P := by
    unfold Driver.maxEntries at h ⊢
    rw [UInt32.toNat_add, UInt32.toNat_mul, Nat.mod_add_mod, Nat.mod_eq_of_lt (by omega)]
  simp only [Driver.requiredSize, sizeofCpuDataHeader, sizeofCpuData, replySize, UInt64.toNat_toUInt32,
    UInt64.toNat_add, UInt64.toNat_mul, UInt32.toNat_toUInt64, he, UInt64.reduceToNat]
  omega

/-! ## Filling the buffer -/

/-- One metric is added at `buf_idx` if it fits, and asked room for if not. -/
theorem addMetric_cases (len : UInt32) (r : Reader σ) (f : Fill σ) :
    (replySize (f.bufferIdx.toNat + 1) ≤ len.toNat ∧
      addMetric len r f =
        (true, ⟨{ f.world with drv := (r f.world.drv).2 }.writeData f.bufferIdx (r f.world.drv).1, f.bufferIdx + 1⟩)) ∨
    (len.toNat < replySize (f.bufferIdx.toNat + 1) ∧
      ∃ h, addMetric len r f = (false, ⟨{ f.world with drv := (r f.world.drv).2 }.writeHeader h, f.bufferIdx⟩)) := by
  by_cases hn : (sizeofCpuDataHeader + (f.bufferIdx.toUInt64 + 1) * sizeofCpuData).toUInt32 > len
  · refine Or.inr ⟨?_, ?_⟩
    · rwa [gt_iff_lt, UInt32.lt_iff_toNat_lt, neededSize_toNat] at hn
    · simp only [addMetric, tryAddTelemetryData, hn, if_true, Bool.false_eq_true, if_false]
      exact ⟨_, rfl⟩
  · refine Or.inl ⟨?_, ?_⟩
    · rwa [gt_iff_lt, UInt32.lt_iff_toNat_lt, neededSize_toNat, Nat.not_lt] at hn
    · simp only [addMetric, tryAddTelemetryData, hn, if_false, if_true]

/-- Starting from `w`, the entries `es` have been added and nothing else was touched;
    the helpers left the driver's variables at `s`. -/
structure Filled (w : World σ) (s : Clocked σ) (es : List CpuData) (f : Fill σ) : Prop where
  idx : f.bufferIdx.toNat = es.length
  drv : f.world.drv = s
  cells : ∀ i (h : i < es.length), f.world.out.data i = es[i]
  rest : ∀ i, es.length ≤ i → f.world.out.data i = w.out.data i
  header : f.world.out.header = w.out.header
  completions : f.world.completions = w.completions

theorem filled_nil (w : World σ) : Filled w w.drv [] ⟨w, 0⟩ :=
  ⟨rfl, rfl, fun _ h => absurd h (Nat.not_lt_zero _), fun _ _ => rfl, rfl, rfl⟩

/-- A metric that fits is added behind the others. -/
theorem addMetric_filled {w : World σ} {s : Clocked σ} {es : List CpuData} {f : Fill σ} (hf : Filled w s es f)
    (len : UInt32) (r : Reader σ) (hlen : replySize (es.length + 1) ≤ len.toNat) (hidx : es.length + 1 ≤ 65535) :
    (addMetric len r f).1 = true ∧ Filled w (r s).2 (es ++ [(r s).1]) (addMetric len r f).2 := by
  obtain ⟨-, hadd⟩ | ⟨hfull, -⟩ := addMetric_cases len r f
  case inr => rw [hf.idx] at hfull; omega
  rw [hadd, hf.drv]
  refine ⟨rfl, ?_, rfl, ?_, ?_, hf.header, hf.completions⟩
  · rw [UInt16.toNat_add, hf.idx, List.length_append]
    simp only [UInt16.reduceToNat, List.length_singleton]
    omega
  · intro i hi
    simp only [World.writeData, hf.idx]
    rw [List.length_append, List.length_singleton] at hi
    by_cases e : i = es.length
    · subst e; simp
    · rw [if_neg e, List.getElem_append_left (by omega)]
      exact hf.cells i (by omega)
  · intro i hi
    rw [List.length_append, List.length_singleton] at hi
    simp only [World.writeData, hf.idx, show i ≠ es.length by omega, if_false]
    exact hf.rest i (by omega)

/-- Helpers whose metrics all fit add exactly their batch. -/
theorem addMetrics_filled {w : World σ} (len : UInt32) (rs : List (Reader σ)) :
    ∀ {s : Clocked σ} {es : List CpuData} {f : Fill σ}, Filled w s es f →
      replySize (es.length + rs.length) ≤ len.toNat → es.length + rs.length ≤ 65535 →
      (addMetrics len rs f).1 = true ∧
        Filled w (runAll rs s).2 (es ++ (runAll rs s).1) (addMetrics len rs f).2 := by
  induction rs with
  | nil => intro s es f hf _ _; simpa [addMetrics] using hf
  | cons r rs ih =>
    intro s es f hf hlen hidx
    rw [List.length_cons] at hlen hidx
    have hle : replySize (es.length + 1) ≤ len.toNat := by unfold replySize at hlen ⊢; omega
    obtain ⟨h1, h2⟩ := addMetric_filled hf len r hle (by omega)
    have hl : (es ++ [(r s).1]).length = es.length + 1 := by simp
    have := ih h2 (by rw [hl]; convert hlen using 2; omega) (by rw [hl]; omega)
    simpa [addMetrics, h1] using this

/-! ## The loop over the processors -/

theorem filled_affinity {w : World σ} {s : Clocked σ} {es : List CpuData} {f : Fill σ} (hf : Filled w s es f)
    (a : GroupAffinity) : Filled w s es { f with world := { f.world with affinity := a } } :=
  ⟨hf.idx, hf.drv, hf.cells, hf.rest, hf.header, hf.completions⟩

variable {D : Driver σ} (H : D.Helpers) (k : Kernel)

theorem visitProcessor_filled {w : World σ} {s : Clocked σ} {es : List CpuData} {v : Visit σ}
    (hf : Filled w s es v.fill) (len i : UInt32) (pn : ProcessorNumber)
    (hlen : replySize (es.length + D.metricsPerCore.toNat) ≤ len.toNat)
    (hidx : es.length + D.metricsPerCore.toNat ≤ 65535) :
    (visitProcessor D k len i pn v).bufOk = true ∧
      Filled w (runAll (H.perCore k.machine i) s).2 (es ++ (runAll (H.perCore k.machine i) s).1)
        (visitProcessor D k len i pn v).fill := by
  rw [← H.perCore_size k.machine i] at hlen hidx
  simp only [visitProcessor, H.perCore_eq]
  exact addMetrics_filled len _ (filled_affinity hf _) hlen hidx

/-- The loop over `is` adds the batch of the processors among `is` it can visit. -/
theorem visitProcessors_filled {w : World σ} (len : UInt32) (is : List UInt32) :
    ∀ {s : Clocked σ} {es : List CpuData} {v : Visit σ}, Filled w s es v.fill → v.bufOk = true →
      replySize (es.length + D.metricsPerCore.toNat * is.length) ≤ len.toNat →
      es.length + D.metricsPerCore.toNat * is.length ≤ 65535 →
      let rs := (is.filter fun i => (k.processorNumber i).isSome).flatMap (H.perCore k.machine)
      (visitProcessors D k len is v).bufOk = true ∧
        Filled w (runAll rs s).2 (es ++ (runAll rs s).1) (visitProcessors D k len is v).fill := by
  induction is with
  | nil => intro s es v hf hok _ _; simpa [visitProcessors, hok] using hf
  | cons i is ih =>
    intro s es v hf hok hlen hidx
    rw [List.length_cons, Nat.mul_succ] at hlen hidx
    cases hp : k.processorNumber i with
    | none =>
      simp only [visitProcessors, hok, if_true, hp, List.filter_cons, Option.isSome_none, Bool.false_eq_true, if_false]
      exact ih hf hok (by unfold replySize at hlen ⊢; omega) (by omega)
    | some pn =>
      simp only [visitProcessors, hok, if_true, hp, List.filter_cons, Option.isSome_some, List.flatMap_cons,
        runAll_append, ← List.append_assoc]
      obtain ⟨h1, h2⟩ := visitProcessor_filled H k hf len i pn (by unfold replySize at hlen ⊢; omega) (by omega)
      have hl : (es ++ (runAll (H.perCore k.machine i) s).1).length = es.length + D.metricsPerCore.toNat := by
        rw [List.length_append, length_runAll, H.perCore_size]
      exact ih h2 h1 (by rw [hl]; unfold replySize at hlen ⊢; omega) (by rw [hl]; omega)

theorem length_processorIndexes (P : UInt32) : (processorIndexes P).length = P.toNat := by
  rw [processorIndexes, List.length_map, List.length_range]

theorem revert_filled {w : World σ} {s : Clocked σ} {es : List CpuData} {v : Visit σ} (hf : Filled w s es v.fill) :
    Filled w s es v.revert := by
  unfold Visit.revert
  split
  · exact filled_affinity hf _
  · exact hf

theorem visited_le : (visited k).length ≤ k.activeProcessorCount.toNat := by
  rw [← length_processorIndexes]
  exact List.length_filter_le _ _

/-- With room for `required_size` bytes everything fits: the buffer holds the batch, and
    the driver's variables are those it leaves. -/
theorem collectMetrics_filled (w : World σ) (len : UInt32) (hidx : D.maxEntries k.activeProcessorCount ≤ 65535)
    (hlen : replySize (D.maxEntries k.activeProcessorCount) ≤ len.toNat) :
    (collectMetrics D k len w).1 = true ∧
      Filled w (runAll (H.batch k w.drv.vars) w.drv).2 (H.collected k w.drv) (collectMetrics D k len w).2 := by
  unfold Driver.maxEntries at hidx hlen
  unfold replySize at hlen
  have hn := length_processorIndexes k.activeProcessorCount
  obtain ⟨hok, hf⟩ := visitProcessors_filled H k len (processorIndexes k.activeProcessorCount)
    (v := .start w) (filled_nil w) rfl (by rw [hn, List.length_nil, replySize]; omega) (by rw [hn, List.length_nil]; omega)
  rw [List.nil_append] at hf
  change Filled w (runAll ((visited k).flatMap (H.perCore k.machine)) w.drv).2
    (runAll ((visited k).flatMap (H.perCore k.machine)) w.drv).1 _ at hf
  have hvis := Nat.mul_le_mul_left D.metricsPerCore.toNat (visited_le k)
  have hagg := H.aggregate_length w.drv.vars
  have hl : (runAll ((visited k).flatMap (H.perCore k.machine)) w.drv).1.length =
      D.metricsPerCore.toNat * (visited k).length := (length_runAll _ _).trans (H.perCore_sizes _ _)
  obtain ⟨h1, h2⟩ := addMetrics_filled len (H.aggregate k.machine w.drv.vars) (revert_filled hf)
    (by rw [hl, H.aggregate_size, replySize]; omega) (by rw [hl, H.aggregate_size]; omega)
  have hc : collectMetrics D k len w = addMetrics len (H.aggregate k.machine w.drv.vars)
      (visitProcessors D k len (processorIndexes k.activeProcessorCount) (.start w)).revert := by
    simp only [collectMetrics, hok, if_true, H.aggregate_eq, (revert_filled hf).drv, H.aggregate_kept_all]
  rw [hc, Driver.Helpers.collected, Driver.Helpers.batch, runAll_append]
  exact ⟨h1, h2⟩

/-! ## The reply -/

/-- A successful completion, and the buffer behind it. -/
theorem completeReply_filled {w : World σ} {s : Clocked σ} {es : List CpuData} {f : Fill σ} (hf : Filled w s es f) :
    (∃ info : UInt64, info.toNat = replySize es.length ∧
      (completeReply D (true, f)).completions = w.completions ++ [⟨statusSuccess, info⟩]) ∧
      (completeReply D (true, f)).out.entries = es ∧
      ∀ i, es.length ≤ i → (completeReply D (true, f)).out.data i = w.out.data i := by
  refine ⟨⟨((sizeofCpuDataHeader + f.bufferIdx.toUInt64 * sizeofCpuData).toUInt32).toUInt64, ?_, ?_⟩, ?_, hf.rest⟩
  · rw [UInt32.toNat_toUInt64, bytesWritten_toNat, hf.idx]
  · simp only [completeReply, World.complete, World.writeHeader, hf.completions]
  · have hn : (completeReply D (true, f)).out.header.entryCount.toNat = es.length := by
      simp only [completeReply, World.complete, World.writeHeader, UInt16.toNat_toUInt32, hf.idx]
    unfold CpuDataBuffer.entries
    rw [hn]
    refine List.ext_getElem (by rw [List.length_map, List.length_range]) fun i _ h => ?_
    rw [List.getElem_map, List.getElem_range]
    exact hf.cells i h

/-- The handler's size check makes room for every metric. -/
theorem room_of_required (req : Request) (hidx : D.maxEntries k.activeProcessorCount ≤ 65535)
    (hlong : req.outputBufferLength.toNat < UInt32.size)
    (hlen : (D.requiredSize k.activeProcessorCount).toUInt64 ≤ req.outputBufferLength) :
    replySize (D.maxEntries k.activeProcessorCount) ≤ req.outputBufferLength.toUInt32.toNat := by
  rw [← requiredSize_toNat D _ hidx, UInt64.toNat_toUInt32, Nat.mod_eq_of_lt hlong, ← UInt32.toNat_toUInt64]
  exact UInt64.le_iff_toNat_le.mp hlen

/-- The reply with room for every metric. -/
theorem reply_collected (w : World σ) (len : UInt32) (hidx : D.maxEntries k.activeProcessorCount ≤ 65535)
    (hlen : replySize (D.maxEntries k.activeProcessorCount) ≤ len.toNat) :
    let w' := completeReply D (collectMetrics D k len w)
    (∃ information : UInt64, information.toNat = replySize (H.collected k w.drv).length ∧
        w'.completions = w.completions ++ [⟨statusSuccess, information⟩]) ∧
      w'.out.entries = H.collected k w.drv ∧
      (∀ i, (H.collected k w.drv).length ≤ i → w'.out.data i = w.out.data i) ∧
      w'.drv = (runAll (H.batch k w.drv.vars) w.drv).2 := by
  intro w'
  obtain ⟨hok, hf⟩ := collectMetrics_filled H k w len hidx hlen
  have hw' : w' = completeReply D (true, (collectMetrics D k len w).2) := by
    rw [← hok]
  obtain ⟨hcompletions, hentries, hrest⟩ := completeReply_filled (D := D) hf
  rw [hw']
  exact ⟨hcompletions, hentries, hrest, hf.drv⟩

/-- The world in which the handler starts to collect: the header has been written and
    the vendor read. -/
def collecting (D : Driver σ) (k : Kernel) (w : World σ) : World σ :=
  { w.writeHeader ⟨D.requiredSize k.activeProcessorCount, k.activeProcessorCount, 0⟩ with
    drv := (w.drv.cpuid k.machine 0).2 }

/-- The handler, past its early exits. -/
theorem evtIoDeviceControl_served (req : Request) (w : World σ) (hcode : req.ioControlCode = ioctlGetData)
    (hbuf : k.RetrievesBuffers) (hhdr : sizeofCpuDataHeader ≤ req.outputBufferLength)
    (hlen : (D.requiredSize k.activeProcessorCount).toUInt64 ≤ req.outputBufferLength)
    (hvendor : detectCpuVendor (w.drv.cpuid k.machine 0).1 = D.vendor) :
    evtIoDeviceControl D k req w =
      completeReply D (collectMetrics D k req.outputBufferLength.toUInt32 (collecting D k w)) := by
  have h1 : ¬ req.outputBufferLength < sizeofCpuDataHeader := UInt64.not_lt.mpr hhdr
  have h2 : ¬ req.outputBufferLength < (D.requiredSize k.activeProcessorCount).toUInt64 := UInt64.not_lt.mpr hlen
  have h3 := hbuf req sizeofCpuDataHeader hhdr
  unfold evtIoDeviceControl
  simp only [hcode, ne_eq, not_true_eq_false, if_false, h1, h3, Bool.true_eq_false, h2]
  rw [if_neg (by simpa [World.writeHeader] using hvendor)]
  rfl

/-- A handler that exits before it collects: one completion, which is no success; the
    header written and the vendor read at most. -/
structure EndedEarly (k : Kernel) (len : UInt64) (w w' : World σ) : Prop where
  completed : ∃ c : Completion, c.status ≠ statusSuccess ∧ c.information ≤ len ∧ w'.completions = w.completions ++ [c]
  accesses : w'.accesses = w.accesses ∨ sizeofCpuDataHeader ≤ len ∧ w'.accesses = w.accesses ++ [.header]
  affinity : w'.affinity = w.affinity
  drv : w'.drv = w.drv ∨ w'.drv = (w.drv.cpuid k.machine 0).2

/-- What the handler can do: exit early, or collect with both size checks passed. -/
theorem evtIoDeviceControl_ends (D : Driver σ) (req : Request) (w : World σ) :
    EndedEarly k req.outputBufferLength w (evtIoDeviceControl D k req w) ∨
      sizeofCpuDataHeader ≤ req.outputBufferLength ∧
        (D.requiredSize k.activeProcessorCount).toUInt64 ≤ req.outputBufferLength ∧
        evtIoDeviceControl D k req w =
          completeReply D (collectMetrics D k req.outputBufferLength.toUInt32 (collecting D k w)) := by
  simp only [evtIoDeviceControl]
  split
  · exact Or.inl ⟨⟨⟨statusInvalidDeviceRequest, 0⟩, by decide, UInt64.zero_le, rfl⟩, Or.inl rfl, rfl, Or.inl rfl⟩
  split
  · exact Or.inl ⟨⟨⟨statusBufferTooSmall, 0⟩, by decide, UInt64.zero_le, rfl⟩, Or.inl rfl, rfl, Or.inl rfl⟩
  rename_i hlen
  have hheader : sizeofCpuDataHeader ≤ req.outputBufferLength := UInt64.not_lt.mp hlen
  split
  · rename_i hstatus
    refine Or.inl ⟨⟨⟨k.retrieveOutputBuffer req sizeofCpuDataHeader, 0⟩, fun h => ?_, UInt64.zero_le, rfl⟩,
      Or.inl rfl, rfl, Or.inl rfl⟩
    rw [show k.retrieveOutputBuffer req sizeofCpuDataHeader = statusSuccess from h] at hstatus
    exact absurd hstatus (by decide)
  split
  · exact Or.inl ⟨⟨⟨statusBufferOverflow, sizeofCpuDataHeader⟩, by decide, hheader, rfl⟩,
      Or.inr ⟨hheader, rfl⟩, rfl, Or.inl rfl⟩
  rename_i hroom
  split
  · exact Or.inl ⟨⟨⟨statusInvalidDeviceRequest, 0⟩, by decide, UInt64.zero_le, rfl⟩,
      Or.inr ⟨hheader, rfl⟩, rfl, Or.inr rfl⟩
  · exact Or.inr ⟨hheader, UInt64.not_lt.mp hroom, rfl⟩

/-- The handler as a whole: it ends early, having read the vendor at most, or it completes
    with success, having run the whole batch. The branch in which a metric does not fit
    is never taken. -/
theorem evtIoDeviceControl_cases (req : Request) (w : World σ) (hidx : D.maxEntries k.activeProcessorCount ≤ 65535)
    (hlong : req.outputBufferLength.toNat < UInt32.size) :
    let w' := evtIoDeviceControl D k req w
    (∃ c : Completion, c.status ≠ statusSuccess ∧ w'.completions = w.completions ++ [c] ∧
        (w'.drv = w.drv ∨ w'.drv = (w.drv.cpuid k.machine 0).2)) ∨
      ∃ information, w'.completions = w.completions ++ [⟨statusSuccess, information⟩] ∧
        w'.out.entries = H.collected k (w.drv.cpuid k.machine 0).2 ∧
        w'.drv = (runAll (H.batch k w.drv.vars) (w.drv.cpuid k.machine 0).2).2 := by
  intro w'
  obtain hearly | ⟨-, hroom, hw'⟩ := evtIoDeviceControl_ends k D req w
  · obtain ⟨c, hc, -, hcompletions⟩ := hearly.completed
    exact Or.inl ⟨c, hc, hcompletions, hearly.drv⟩
  · obtain ⟨⟨information, -, hcompletions⟩, hentries, -, hdrv⟩ := reply_collected H k (collecting D k w)
      req.outputBufferLength.toUInt32 hidx (room_of_required k req hidx hlong hroom)
    rw [← hw'] at hcompletions hentries hdrv
    exact Or.inr ⟨information, hcompletions, hentries, hdrv⟩

/-- Every IOCTL_GET_DATA with room for `required_size` bytes is served in full: whatever
    processors cannot be looked up and whatever the hardware answers, the reply is the
    visited processors' metrics in order followed by the enabled aggregate metrics. -/
theorem getData_served (d : CpuDriver) (k : Kernel) (hbuf : k.RetrievesBuffers) (req : Request) (w : World d.Globals)
    (hcode : req.ioControlCode = ioctlGetData)
    (hprocs : d.driver.metricsPerCore.toNat * k.activeProcessorCount.toNat + d.driver.metricsAggregate.toNat ≤ 65535)
    (hlong : req.outputBufferLength.toNat < UInt32.size)
    (hlen : (d.driver.requiredSize k.activeProcessorCount).toUInt64 ≤ req.outputBufferLength)
    (hvendor : detectCpuVendor (w.drv.cpuid k.machine 0).1 = d.driver.vendor) :
    let w' := evtIoDeviceControl d.driver k req w
    let entries := d.helpers.collected k (w.drv.cpuid k.machine 0).2
    (∃ info : UInt64, w'.completions = w.completions ++ [⟨statusSuccess, info⟩] ∧
      info.toNat = sizeofCpuDataHeader.toNat + w'.out.header.entryCount.toNat * sizeofCpuData.toNat ∧
      info ≤ req.outputBufferLength) ∧
    w'.out.header.entryCount.toNat =
      d.driver.metricsPerCore.toNat * (visited k).length + d.aggregatesEnabled w.drv.vars ∧
    w'.out.entries = entries ∧
    entries.map CpuData.label =
      (visited k).flatMap d.helpers.perCoreLabels ++ d.helpers.aggregateLabels w.drv.vars ∧
    ∀ i, entries.length ≤ i → w'.out.data i = w.out.data i := by
  intro w' entries
  have hroom := room_of_required (D := d.driver) k req hprocs hlong hlen
  have hreq : replySize (d.driver.maxEntries k.activeProcessorCount) ≤ req.outputBufferLength.toNat := by
    rwa [UInt64.toNat_toUInt32, Nat.mod_eq_of_lt hlong] at hroom
  have hhdr : sizeofCpuDataHeader ≤ req.outputBufferLength := by
    rw [UInt64.le_iff_toNat_le]
    show 12 ≤ _
    unfold replySize at hreq
    omega
  obtain ⟨⟨info, hinfo, hcompl⟩, hentries, hrest, -⟩ := reply_collected d.helpers k (collecting d.driver k w)
    req.outputBufferLength.toUInt32 hprocs hroom
  have hw' : w' = completeReply d.driver (collectMetrics d.driver k req.outputBufferLength.toUInt32 (collecting d.driver k w)) :=
    evtIoDeviceControl_served k req w hcode hbuf hhdr hlen hvendor
  rw [← hw'] at hcompl hentries hrest
  have hcount : w'.out.header.entryCount.toNat = entries.length := by
    have := congrArg List.length hentries
    rwa [CpuDataBuffer.entries, List.length_map, List.length_range] at this
  have hlength : entries.length =
      d.driver.metricsPerCore.toNat * (visited k).length + d.aggregatesEnabled w.drv.vars := by
    rw [← aggregatesEnabled_eq]
    exact d.helpers.length_collected k _
  refine ⟨⟨info, hcompl, ?_, ?_⟩, hcount.trans hlength, hentries, d.helpers.collected_labels k _, hrest⟩
  · rw [hinfo, hcount]
    rfl
  · change info.toNat = replySize entries.length at hinfo
    have hagg := d.helpers.aggregate_length w.drv.vars
    rw [aggregatesEnabled_eq] at hagg
    have hvis := Nat.mul_le_mul_left d.driver.metricsPerCore.toNat (visited_le k)
    rw [UInt64.le_iff_toNat_le, hinfo, hlength]
    unfold replySize Driver.maxEntries at hreq
    unfold replySize
    omega

/-- A machine whose registers all read 0, on which `__cpuid` always answers `id`. -/
def quietMachine (id : CpuidInfo) : Machine where
  cpuid _ _ := id
  readmsr _ _ := 0
  rdtsc _ := 0
  queryPerformanceCounter _ := 0
  halSetBusData _ := 4
  halGetBusData _ _ := (4, 0)

/-- `procs` processors in one group on an AMD machine, the second of which cannot be
    looked up. -/
def amdKernel (procs : UInt32) : Kernel where
  machine := quietMachine ⟨0x0D, 0x68747541, 0x444D4163, 0x69746E65⟩
  activeProcessorCount := procs
  processorNumber i := if i < procs ∧ i ≠ 1 then some ⟨0, i.toUInt8⟩ else none
  retrieveOutputBuffer req min := if req.outputBufferLength < min then statusBufferTooSmall else statusSuccess

theorem amdKernel_retrieves (procs : UInt32) : (amdKernel procs).RetrievesBuffers := by
  intro req min h
  simp only [amdKernel, UInt64.not_lt.mpr h, if_false]
  decide

/-- A family 17h part, freshly loaded, with no per-core state. -/
def amdGlobals : Amd.Globals where
  hasMperf := false
  family := 0x17
  svi2CoreAddr := 0x0005A00C
  svi2SocAddr := 0x0005A010
  coreState := none
  pkgState := ⟨0, 0, false, 65536⟩
  maxProcs := 2
  qpcFreq := 10000000

def emptyBuffer : CpuDataBuffer := ⟨⟨0, 0, 0⟩, fun _ => ⟨0, "", 0, 0, 0⟩⟩

def amdWorld : World Amd.Globals := ⟨⟨0, amdGlobals⟩, emptyBuffer, [], .zero, []⟩

/-- Two processors, one of them skipped: 3 + 4 entries, 320 bytes. -/
theorem getData_served_two :
    (evtIoDeviceControl amdDriver (amdKernel 2) ⟨ioctlGetData, 452⟩ amdWorld).out.header.entryCount.toNat = 7 :=
  (getData_served .amd (amdKernel 2) (amdKernel_retrieves 2) ⟨ioctlGetData, 452⟩ amdWorld rfl (by decide) (by decide)
    (by decide) (by decide)).2.1

end HardwareMonitor.Drivers
