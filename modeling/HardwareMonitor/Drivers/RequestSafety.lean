/-
  HardwareMonitor.Drivers.RequestSafety — what every request keeps, whatever it asks for
  and whatever the kernel answers: the output buffer's bounds, the one completion, and
  the thread's affinity.

  The widths differ: OutputBufferLength is a `size_t`, which the collectors get as a
  ULONG; `required_size` and `needed` are ULONGs; `buf_idx` is a USHORT. So the size
  check before the loop may pass by a wrap, and nothing here relies on it. `Safe` is the
  invariant of the filling: what `buf_idx` counts lies in the buffer. A metric that is
  added has been checked against the length itself, and an index that wraps only gets
  smaller (`addMetric_safe`). Nor does a wrap skip a metric: a request that succeeds has
  run the whole batch (`evtIoDeviceControl_ran`).
-/

import HardwareMonitor.Drivers.IoctlProofs

namespace HardwareMonitor.Drivers

open HardwareMonitor.Lib.Batch (runAll runAll_append)

variable {σ : Type}

/-- The bytes written lie in a buffer of `len` bytes. -/
def Access.InBounds (len : UInt64) : Access → Prop
  | .header => sizeofCpuDataHeader.toNat ≤ len.toNat
  | .data i => sizeofCpuDataHeader.toNat + (i.toNat + 1) * sizeofCpuData.toNat ≤ len.toNat

/-- The accesses logged since `before` lie in the buffer. -/
def InBoundsSince (len : UInt64) (before after : List Access) : Prop :=
  ∃ accesses, after = before ++ accesses ∧ ∀ a ∈ accesses, a.InBounds len

theorem InBoundsSince.refl (len : UInt64) (before : List Access) : InBoundsSince len before before :=
  ⟨[], (List.append_nil _).symm, List.forall_mem_nil _⟩

theorem InBoundsSince.snoc {len : UInt64} {before after : List Access} {a : Access} (h : InBoundsSince len before after)
    (ha : a.InBounds len) : InBoundsSince len before (after ++ [a]) := by
  obtain ⟨accesses, rfl, hall⟩ := h
  refine ⟨accesses ++ [a], List.append_assoc .., fun b hb => ?_⟩
  rcases List.mem_append.mp hb with hb | hb
  · exact hall b hb
  · rw [List.mem_singleton.mp hb]
    exact ha

/-! ## Filling the buffer -/

/-- A filling of a buffer of `len` bytes that began at `w`, with the thread's affinity at `a`. -/
structure Safe (len : UInt64) (w : World σ) (a : GroupAffinity) (f : Fill σ) : Prop where
  room : replySize f.bufferIdx.toNat ≤ len.toNat
  bounds : InBoundsSince len w.accesses f.world.accesses
  completions : f.world.completions = w.completions
  affinity : f.world.affinity = a

variable {len : UInt64} {w : World σ} {a : GroupAffinity} {f : Fill σ}

theorem Safe.header (h : Safe len w a f) : Access.InBounds len .header := by
  have hroom := h.room
  show 12 ≤ len.toNat
  unfold replySize at hroom
  omega

/-- The affinity is moved, and nothing else. -/
theorem Safe.move (h : Safe len w a f) (b : GroupAffinity) :
    Safe len w b { f with world := { f.world with affinity := b } } :=
  ⟨h.room, h.bounds, h.completions, rfl⟩

theorem addMetric_safe (h : Safe len w a f) (r : Reader σ) : Safe len w a (addMetric len.toUInt32 r f).2 := by
  obtain ⟨hfits, hadd⟩ | ⟨-, header, hadd⟩ := addMetric_cases len.toUInt32 r f
  · -- `needed` does not wrap, and the ULONG length is at most the real one
    have hlen : len.toUInt32.toNat ≤ len.toNat := by
      rw [UInt64.toNat_toUInt32]
      exact Nat.mod_le _ _
    have hroom := Nat.le_trans hfits hlen
    rw [hadd]
    refine ⟨Nat.le_trans ?_ hroom, h.bounds.snoc (a := .data f.bufferIdx) ?_, h.completions, h.affinity⟩
    · show replySize (f.bufferIdx + 1).toNat ≤ _
      have hwrap : (f.bufferIdx + 1).toNat ≤ f.bufferIdx.toNat + 1 := by
        rw [UInt16.toNat_add]
        exact Nat.mod_le _ _
      unfold replySize
      omega
    · exact hroom
  · rw [hadd]
    exact ⟨h.room, h.bounds.snoc h.header, h.completions, h.affinity⟩

theorem addMetrics_safe (rs : List (Reader σ)) (h : Safe len w a f) : Safe len w a (addMetrics len.toUInt32 rs f).2 := by
  induction rs generalizing f with
  | nil => exact h
  | cons r rs ih =>
    simp only [addMetrics]
    split
    · exact ih (addMetric_safe h r)
    · exact addMetric_safe h r

/-! ## The loop over the processors -/

/-- The caller's affinity is where the loop can find it: saved, or not yet left. -/
structure VisitSafe (len : UInt64) (w : World σ) (v : Visit σ) : Prop where
  fill : Safe len w v.fill.world.affinity v.fill
  caller : (if v.affinitySaved then v.oldAffinity else v.fill.world.affinity) = w.affinity

variable {D : Driver σ} (k : Kernel)

theorem visitProcessor_safe (H : D.Helpers) {v : Visit σ} (h : VisitSafe len w v) (i : UInt32) (pn : ProcessorNumber) :
    VisitSafe len w (visitProcessor D k len.toUInt32 i pn v) := by
  have hfill := addMetrics_safe (H.perCore k.machine i) (h.fill.move ⟨pn.group, 1 <<< pn.number.toUInt64⟩)
  refine ⟨?_, h.caller⟩
  simp only [visitProcessor, World.setAffinity, H.perCore_eq]
  rw [hfill.affinity]
  exact hfill

theorem visitProcessors_safe (H : D.Helpers) (is : List UInt32) {v : Visit σ} (h : VisitSafe len w v) :
    VisitSafe len w (visitProcessors D k len.toUInt32 is v) := by
  induction is generalizing v with
  | nil => exact h
  | cons i is ih =>
    simp only [visitProcessors]
    split
    · split
      · exact ih h
      · exact ih (visitProcessor_safe k H h i _)
    · exact h

theorem revert_safe {v : Visit σ} (h : VisitSafe len w v) : Safe len w w.affinity v.revert := by
  have hcaller := h.caller
  unfold Visit.revert
  split
  · rename_i hsaved
    rw [if_pos hsaved] at hcaller
    rw [← hcaller]
    exact h.fill.move v.oldAffinity
  · rename_i hleft
    rw [if_neg hleft] at hcaller
    rw [← hcaller]
    exact h.fill

theorem collectMetrics_safe (H : D.Helpers) {w₀ : World σ} (h : Safe len w w.affinity ⟨w₀, 0⟩) :
    Safe len w w.affinity (collectMetrics D k len.toUInt32 w₀).2 := by
  have hstart : VisitSafe len w (.start w₀) := by
    refine ⟨?_, h.affinity⟩
    rw [show (Visit.start w₀).fill.world.affinity = w.affinity from h.affinity]
    exact h
  have hloop := revert_safe (visitProcessors_safe k H (processorIndexes k.activeProcessorCount) hstart)
  simp only [collectMetrics]
  split
  · rw [H.aggregate_eq]
    exact addMetrics_safe _ hloop
  · exact hloop

/-! ## The handler -/

/-- A request that ended as it should: one completion, whose Information lies within the
    buffer, no write outside it, and the affinity it came with. -/
structure Ended (len : UInt64) (w w' : World σ) : Prop where
  completed : ∃ c : Completion, w'.completions = w.completions ++ [c] ∧ c.information ≤ len
  bounds : InBoundsSince len w.accesses w'.accesses
  affinity : w'.affinity = w.affinity

theorem completeReply_ended (ok : Bool) (h : Safe len w w.affinity f) : Ended len w (completeReply D (ok, f)) := by
  have hbounds := h.bounds.snoc h.header
  cases ok with
  | false =>
    refine ⟨⟨⟨statusBufferOverflow, sizeofCpuDataHeader⟩, ?_, UInt64.le_iff_toNat_le.mpr h.header⟩, hbounds, h.affinity⟩
    rw [← h.completions]
    rfl
  | true =>
    refine ⟨⟨⟨statusSuccess, ((sizeofCpuDataHeader + f.bufferIdx.toUInt64 * sizeofCpuData).toUInt32).toUInt64⟩, ?_, ?_⟩,
      hbounds, h.affinity⟩
    · rw [← h.completions]
      rfl
    · rw [UInt64.le_iff_toNat_le, UInt32.toNat_toUInt64, bytesWritten_toNat]
      exact h.room

theorem EndedEarly.ended {k : Kernel} {w' : World σ} (h : EndedEarly k len w w') : Ended len w w' := by
  obtain ⟨c, -, hc, hcompletions⟩ := h.completed
  refine ⟨⟨c, hcompletions, hc⟩, ?_, h.affinity⟩
  rcases h.accesses with haccesses | ⟨hheader, haccesses⟩ <;> rw [haccesses]
  · exact .refl len _
  · exact (InBoundsSince.refl len _).snoc (UInt64.le_iff_toNat_le.mp hheader)

/-- The invariant where the collecting starts. -/
theorem collecting_safe (D : Driver σ) (k : Kernel) (w : World σ) (hheader : sizeofCpuDataHeader ≤ len) :
    Safe len w w.affinity ⟨collecting D k w, 0⟩ := by
  have hlen : Access.InBounds len .header := UInt64.le_iff_toNat_le.mp hheader
  exact ⟨hlen, (InBoundsSince.refl len _).snoc hlen, rfl, rfl⟩

theorem evtIoDeviceControl_ended (H : D.Helpers) (req : Request) (w : World σ) :
    Ended req.outputBufferLength w (evtIoDeviceControl D k req w) := by
  obtain hearly | ⟨hheader, -, hw'⟩ := evtIoDeviceControl_ends k D req w
  · exact hearly.ended
  · rw [hw']
    exact completeReply_ended _ (collectMetrics_safe k H (collecting_safe D k w hheader))

/-! ## What a success has run -/

theorem addMetrics_ran (cap : UInt32) (rs : List (Reader σ)) (hok : (addMetrics cap rs f).1 = true) :
    (addMetrics cap rs f).2.world.drv = (runAll rs f.world.drv).2 := by
  induction rs generalizing f with
  | nil => rfl
  | cons r rs ih =>
    obtain ⟨-, hadd⟩ | ⟨-, header, hadd⟩ := addMetric_cases cap r f
    · simp only [addMetrics, hadd, if_true] at hok ⊢
      exact ih hok
    · simp only [addMetrics, hadd, Bool.false_eq_true, if_false] at hok

/-- Once a metric did not fit, the loop stops there. -/
theorem visitProcessors_ok (cap : UInt32) (is : List UInt32) {v : Visit σ} (hok : (visitProcessors D k cap is v).bufOk = true) :
    v.bufOk = true := by
  cases hv : v.bufOk with
  | true => rfl
  | false =>
    cases is with
    | nil => exact hv ▸ hok
    | cons i is =>
      simp only [visitProcessors, hv, Bool.false_eq_true, if_false] at hok

theorem visitProcessors_ran (H : D.Helpers) (cap : UInt32) (is : List UInt32) {v : Visit σ}
    (hok : (visitProcessors D k cap is v).bufOk = true) :
    (visitProcessors D k cap is v).fill.world.drv =
      (runAll ((is.filter fun i => (k.processorNumber i).isSome).flatMap (H.perCore k.machine)) v.fill.world.drv).2 := by
  induction is generalizing v with
  | nil => rfl
  | cons i is ih =>
    have hv := visitProcessors_ok k cap (i :: is) hok
    cases hp : k.processorNumber i with
    | none =>
      simp only [visitProcessors, hv, hp, if_true] at hok ⊢
      rw [List.filter_cons_of_neg (by simp [hp])]
      exact ih hok
    | some pn =>
      simp only [visitProcessors, hv, hp, if_true] at hok ⊢
      have hvisit := visitProcessors_ok k cap is hok
      rw [List.filter_cons_of_pos (by simp [hp]), List.flatMap_cons, runAll_append, ih hok]
      simp only [visitProcessor, H.perCore_eq] at hvisit ⊢
      rw [addMetrics_ran cap _ hvisit]
      rfl

/-- Whatever wraps on the way, a filling that succeeds has run the whole batch. -/
theorem collectMetrics_ran (H : D.Helpers) (cap : UInt32) (w : World σ) (hok : (collectMetrics D k cap w).1 = true) :
    (collectMetrics D k cap w).2.world.drv = (runAll (H.batch k w.drv.vars) w.drv).2 := by
  simp only [collectMetrics] at hok ⊢
  split at hok
  · rename_i hloop
    have hran := visitProcessors_ran k H cap _ hloop
    have hdrv : (visitProcessors D k cap (processorIndexes k.activeProcessorCount) (.start w)).revert.world.drv =
        (runAll ((visited k).flatMap (H.perCore k.machine)) w.drv).2 := by
      rw [← show _ = (runAll ((visited k).flatMap (H.perCore k.machine)) w.drv).2 from hran, Visit.revert]
      split <;> rfl
    rw [if_pos hloop]
    rw [H.aggregate_eq] at hok ⊢
    rw [addMetrics_ran cap _ hok, hdrv, H.aggregate_kept_all, Driver.Helpers.batch, runAll_append]
  · cases hok

/-- The end of the handler succeeds where the filling has. -/
theorem completeReply_ran {w : World σ} {s : Clocked σ} (r : Bool × Fill σ) (hcompletions : r.2.world.completions = w.completions)
    (hran : r.1 = true → r.2.world.drv = s) :
    (∃ c : Completion, c.status ≠ statusSuccess ∧ (completeReply D r).completions = w.completions ++ [c]) ∨
      (∃ information, (completeReply D r).completions = w.completions ++ [⟨statusSuccess, information⟩]) ∧
        (completeReply D r).drv = s := by
  obtain ⟨ok, f⟩ := r
  rw [← hcompletions]
  cases ok with
  | false => exact Or.inl ⟨⟨statusBufferOverflow, sizeofCpuDataHeader⟩, by decide, rfl⟩
  | true => exact Or.inr ⟨⟨_, rfl⟩, hran rfl⟩

/-- The handler as a whole, whatever wraps: it does not succeed, or it has read the vendor
    and run the whole batch. -/
theorem evtIoDeviceControl_ran (H : D.Helpers) (req : Request) (w : World σ) :
    let w' := evtIoDeviceControl D k req w
    (∃ c : Completion, c.status ≠ statusSuccess ∧ w'.completions = w.completions ++ [c]) ∨
      (∃ information, w'.completions = w.completions ++ [⟨statusSuccess, information⟩]) ∧
        w'.drv = (runAll (H.batch k w.drv.vars) (w.drv.cpuid k.machine 0).2).2 := by
  obtain hearly | ⟨hheader, -, hw'⟩ := evtIoDeviceControl_ends k D req w
  · obtain ⟨c, hc, -, hcompletions⟩ := hearly.completed
    exact Or.inl ⟨c, hc, hcompletions⟩
  · have hsafe := collectMetrics_safe k H (collecting_safe D k w hheader)
    dsimp only
    rw [hw']
    exact completeReply_ran _ hsafe.completions (collectMetrics_ran k H _ (collecting D k w))

/-- Whatever the request, the processor count and the processors that cannot be looked up:
    the header is written only where the buffer holds it, and `data[i]` only where the
    buffer holds that cell whole. -/
theorem accesses_in_bounds (d : CpuDriver) (k : Kernel) (req : Request) (w : World d.Globals) :
    ∃ accesses, (evtIoDeviceControl d.driver k req w).accesses = w.accesses ++ accesses ∧
      ∀ a ∈ accesses, a.InBounds req.outputBufferLength :=
  (evtIoDeviceControl_ended k d.helpers req w).bounds

/-- Whatever the request and whatever the kernel answers: it is completed exactly once,
    with an Information that its buffer holds, and the thread is back at the affinity it
    came with. -/
theorem completed_once (d : CpuDriver) (k : Kernel) (req : Request) (w : World d.Globals) :
    let w' := evtIoDeviceControl d.driver k req w
    (∃ c : Completion, w'.completions = w.completions ++ [c] ∧ c.information ≤ req.outputBufferLength) ∧
      w'.affinity = w.affinity :=
  ⟨(evtIoDeviceControl_ended k d.helpers req w).completed, (evtIoDeviceControl_ended k d.helpers req w).affinity⟩

/-- Here the number of entries wraps to 2, and a buffer of 100 bytes passes the size check.
    The third metric does not fit, which ends the request. -/
example : amdDriver.requiredSize 0xAAAAAAAA = 100 := by decide

end HardwareMonitor.Drivers
