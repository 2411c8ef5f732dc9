/-
  HardwareMonitor.Drivers.Handshake — `DriverClient::runDriver` against a driver's
  `EvtIoDeviceControl`, with the number of processors free to change between IOCTLs.

  The two programs meet in the I/O manager (`Host`): a METHOD_BUFFERED request is served
  in a system buffer, a completion becomes the outcome of `DeviceIoControl`, and the
  bytes its Information counts are copied back. The handshake is the retry of
  `Lib.Resize` (`run_offers`: what turn `n` offers is `offer 12 need n`), so it settles,
  on a reply that is the last IOCTL's own (`served_turn`).
-/

import HardwareMonitor.Lib.Resize
import HardwareMonitor.Drivers.DriverClient
import HardwareMonitor.Drivers.IoctlProofs

namespace HardwareMonitor.Drivers

open HardwareMonitor.Lib.Resize (offer SettlesAt settles_of_bounded settles_by_third)

variable {σ : Type}

/-! ## The I/O manager -/

/-- What IOCTL number `n` meets: the kernel, the contents of the system buffer it is
    given, the calling thread's affinity; and the Win32 error of a failed status. -/
structure Host where
  kernel : Nat → Kernel
  systemBuffer : Nat → CpuDataBuffer
  affinity : Nat → GroupAffinity
  dosError : NtStatus → UInt32

/-- The first `information` bytes of the system buffer, copied over the caller's.
    (Every Information the handlers report is a whole number of cells.) -/
def copyBack (information : UInt64) (system user : CpuDataBuffer) : CpuDataBuffer where
  header := if sizeofCpuDataHeader ≤ information then system.header else user.header
  data i := if replySize (i + 1) ≤ information.toNat then system.data i else user.data i

/-- What a completion is to the caller of `DeviceIoControl`. -/
def Host.outcome (host : Host) (c : Completion) (system user : CpuDataBuffer) : Outcome :=
  if c.status = statusSuccess then .success c.information.toUInt32 (copyBack c.information system user)
  else if c.status = statusBufferOverflow then .failure errorMoreData (copyBack c.information system user)
  else .failure (host.dosError c.status) user

/-- IOCTL number `n`, with the client's locals `l`, inside the driver. -/
def Host.serve (host : Host) (D : Driver σ) (n : Nat) (l : Loop) (drv : Clocked σ) : World σ :=
  evtIoDeviceControl D (host.kernel n) ⟨ioctlGetData, l.bufferSize.toUInt64⟩
    ⟨drv, host.systemBuffer n, [], host.affinity n, []⟩

/-- The driver as the client meets it; a request never completed never comes back. -/
def Host.device (host : Host) (D : Driver σ) : Device (Clocked σ) := fun n l drv =>
  let w := host.serve D n l drv
  match w.completions with
  | [] => none
  | c :: _ => some (host.outcome c w.out l.buffer, w.drv)

/-! ## One IOCTL -/

/-- A buffer too small for the reply but not for its header is answered with the size. -/
theorem getData_overflow (D : Driver σ) (k : Kernel) (req : Request) (w : World σ) (hcode : req.ioControlCode = ioctlGetData)
    (hbuf : k.RetrievesBuffers) (hhdr : sizeofCpuDataHeader ≤ req.outputBufferLength)
    (hshort : req.outputBufferLength < (D.requiredSize k.activeProcessorCount).toUInt64) :
    evtIoDeviceControl D k req w =
      (w.writeHeader ⟨D.requiredSize k.activeProcessorCount, k.activeProcessorCount, 0⟩).complete statusBufferOverflow
        sizeofCpuDataHeader := by
  have h1 : ¬ req.outputBufferLength < sizeofCpuDataHeader := UInt64.not_lt.mpr hhdr
  have h3 := hbuf req sizeofCpuDataHeader hhdr
  unfold evtIoDeviceControl
  simp only [hcode, ne_eq, not_true_eq_false, if_false, h1, h3, Bool.true_eq_false, hshort, if_true]

/-- A reply of whole entries is read back whole. -/
theorem decodeReply_copyBack (information : UInt64) (system user : CpuDataBuffer)
    (h : information.toNat = replySize system.header.entryCount.toNat) (hlong : information.toNat < UInt32.size) :
    decodeReply information.toUInt32 (copyBack information system user) = system.entries := by
  have hhdr : sizeofCpuDataHeader ≤ information := by
    rw [UInt64.le_iff_toNat_le, h, replySize]
    show 12 ≤ _
    omega
  have hcopy : (copyBack information system user).header = system.header := if_pos hhdr
  have hbytes : ¬ information.toUInt32.toUInt64 <
      sizeofCpuDataHeader + system.header.entryCount.toUInt64 * sizeofCpuData := by
    unfold replySize at h
    rw [UInt64.lt_iff_toNat_lt]
    simp only [UInt32.toNat_toUInt64, UInt64.toNat_toUInt32, UInt64.toNat_add, UInt64.toNat_mul, sizeofCpuDataHeader,
      sizeofCpuData, UInt64.reduceToNat]
    simp (disch := omega) only [Nat.mod_eq_of_lt]
    omega
  have hcells : ∀ i < system.header.entryCount.toNat, (copyBack information system user).data i = system.data i := by
    intro i hi
    refine if_pos ?_
    rw [h]
    unfold replySize
    omega
  simp only [decodeReply, CpuDataBuffer.entries, hcopy, hbytes, if_false]
  refine List.map_congr_left fun i hi => hcells i ?_
  exact List.mem_range.mp hi

/-! ## One turn of the loop -/

/-- The bytes the driver asks for at IOCTL number `n`. -/
def Host.need (host : Host) (D : Driver σ) (n : Nat) : Nat :=
  replySize (D.maxEntries (host.kernel n).activeProcessorCount)

/-- The machines the handshake is about: the driver's own vendor, a framework that hands
    out buffers, and few enough processors for a USHORT to count the entries. -/
structure Host.Supports (host : Host) (D : Driver σ) : Prop where
  buffers : ∀ n, (host.kernel n).RetrievesBuffers
  vendor : ∀ n date, detectCpuVendor ((host.kernel n).machine.cpuid date 0) = D.vendor
  processors : ∀ n,
    D.metricsPerCore.toNat * (host.kernel n).activeProcessorCount.toNat + D.metricsAggregate.toNat ≤ 65535

variable {host : Host} {D : Driver σ}

theorem need_le (h : host.Supports D) (n : Nat) : host.need D n ≤ replySize 65535 := by
  have := h.processors n
  unfold Host.need replySize Driver.maxEntries
  omega

theorem requiredSize_need (h : host.Supports D) (n : Nat) :
    (D.requiredSize (host.kernel n).activeProcessorCount).toNat = host.need D n :=
  requiredSize_toNat D _ (h.processors n)

/-- Turn `n` with too small a buffer: the client comes out of it with exactly the size
    the driver asked for, or twice that, and no DWORD wraps. -/
theorem refused_turn (h : host.Supports D) {heap : Heap} (hheap : heap.Succeeds) (n : Nat) (l : Loop) (s : Clocked σ)
    (hhdr : 12 ≤ l.bufferSize.toNat) (hshort : l.bufferSize.toNat < host.need D n) :
    ∃ l', runTurn heap (host.device D) n (.calling l, s) = (.calling l', s) ∧ l'.firstPass = false ∧
      l'.bufferSize.toNat = (if l.firstPass then 1 else 2) * host.need D n := by
  set R := D.requiredSize (host.kernel n).activeProcessorCount with hR
  have hneed : R.toNat = host.need D n := requiredSize_need h n
  have hle : R.toNat ≤ 2883552 := hneed.trans_le (need_le h n)
  have hserve : host.serve D n l s =
      (World.writeHeader ⟨s, host.systemBuffer n, [], host.affinity n, []⟩
        ⟨R, (host.kernel n).activeProcessorCount, 0⟩).complete statusBufferOverflow sizeofCpuDataHeader := by
    refine getData_overflow D (host.kernel n) _ _ rfl (h.buffers n) ?_ ?_
    · rw [UInt64.le_iff_toNat_le, UInt32.toNat_toUInt64]
      exact hhdr
    · rw [UInt64.lt_iff_toNat_lt, UInt32.toNat_toUInt64, UInt32.toNat_toUInt64, ← hR, hneed]
      exact hshort
  obtain ⟨b, hb, hbhdr⟩ : ∃ b, host.device D n l s = some (.failure errorMoreData b, s) ∧ b.header.requiredSize = R := by
    refine ⟨_, by rw [Host.device, hserve]; rfl, rfl⟩
  rw [runTurn_calling heap hb, handleOutcome, hbhdr]
  cases hf : l.firstPass with
  | true =>
    obtain ⟨b', hb'⟩ := resize_calling hheap n b R
    exact ⟨⟨false, R, b'⟩, by simp only [if_true, show bufferTooSmall errorMoreData = true from rfl, hb'], rfl,
      by simp [hneed]⟩
  | false =>
    obtain ⟨b', hb'⟩ := resize_calling hheap n b (R * 2)
    refine ⟨⟨false, R * 2, b'⟩, ?_, rfl, ?_⟩
    · simp only [Bool.false_eq_true, if_false, show bufferTooSmall errorMoreData = true from rfl, if_true, hb']
    · simp only [UInt32.toNat_mul, UInt32.reduceToNat, Bool.false_eq_true, if_false]
      omega

/-- Turn `n` with room enough: the client returns what this IOCTL wrote, all of it. -/
theorem served_turn (d : CpuDriver) {host : Host} (h : host.Supports d.driver) (heap : Heap) (n : Nat) (l : Loop)
    (s : Clocked d.Globals) (hlen : host.need d.driver n ≤ l.bufferSize.toNat) :
    let w := host.serve d.driver n l s
    runTurn heap (host.device d.driver) n (.calling l, s) = (.returned w.out.entries, w.drv) ∧
      w.out.entries = d.helpers.collected (host.kernel n) (s.cpuid (host.kernel n).machine 0).2 := by
  intro w
  have hneed := requiredSize_need h n
  obtain ⟨⟨info, hcompl, hinfo, hfits⟩, -, hentries, -⟩ :=
    getData_served d (host.kernel n) (h.buffers n) ⟨ioctlGetData, l.bufferSize.toUInt64⟩
      ⟨s, host.systemBuffer n, [], host.affinity n, []⟩ rfl (h.processors n)
      (by rw [UInt32.toNat_toUInt64]; exact l.bufferSize.toNat_lt)
      (by rw [UInt64.le_iff_toNat_le, UInt32.toNat_toUInt64, UInt32.toNat_toUInt64, hneed]; exact hlen)
      (h.vendor n s.reads)
  have hlong : info.toNat < UInt32.size := by
    rw [UInt64.le_iff_toNat_le, UInt32.toNat_toUInt64] at hfits
    exact hfits.trans_lt l.bufferSize.toNat_lt
  have hdev : host.device d.driver n l s = some (.success info.toUInt32 (copyBack info w.out l.buffer), w.drv) := by
    have hw : w.completions = [⟨statusSuccess, info⟩] := hcompl
    simp only [Host.device]
    rw [show host.serve d.driver n l s = w from rfl, hw]
    simp only [Host.outcome, if_true]
  refine ⟨?_, hentries⟩
  rw [runTurn_calling heap hdev, handleOutcome, decodeReply_copyBack info w.out l.buffer hinfo hlong]

/-! ## The whole handshake -/

theorem header_le_need (host : Host) (D : Driver σ) (n : Nat) : 12 ≤ host.need D n := Nat.le_add_right 12 _

theorem header_le_offer (n : Nat) : 12 ≤ offer 12 (host.need D) n := by
  match n with
  | 0 => exact Nat.le_refl 12
  | 1 => exact header_le_need host D 0
  | n + 2 =>
    have := header_le_need host D (n + 1)
    show 12 ≤ 2 * host.need D (n + 1)
    omega

/-- As long as the driver refuses, turn `n` offers what the retry rule says, and the
    driver's variables have not moved. -/
theorem run_offers (h : host.Supports D) {heap : Heap} (hheap : heap.Succeeds) (drv : Clocked σ) (n : Nat)
    (hrefused : ∀ m < n, offer 12 (host.need D) m < host.need D m) :
    ∃ l, runDriver heap (host.device D) true drv n = (.calling l, drv) ∧ (l.firstPass = true ↔ n = 0) ∧
      l.bufferSize.toNat = offer 12 (host.need D) n := by
  induction n with
  | zero =>
    obtain ⟨b, hb⟩ := enterLoop_calling hheap
    exact ⟨_, by rw [runDriver, hb], by simp, rfl⟩
  | succ n ih =>
    obtain ⟨l, hl, hfirst, hsize⟩ := ih fun m hm => hrefused m (by omega)
    obtain ⟨l', hl', hf, hsize'⟩ := refused_turn h hheap n l drv (by rw [hsize]; exact header_le_offer n)
      (by rw [hsize]; exact hrefused n (Nat.lt_succ_self n))
    refine ⟨l', by rw [runDriver, hl, hl'], by simp [hf], ?_⟩
    rw [hsize']
    cases n with
    | zero => rw [if_pos (hfirst.mpr rfl), Nat.one_mul]; rfl
    | succ n => rw [if_neg (fun e => absurd (hfirst.mp e) (Nat.succ_ne_zero n))]; rfl

/-- At most twice the processors need at most twice the bytes. -/
theorem need_doubles (n : Nat)
    (h : (host.kernel (n + 1)).activeProcessorCount.toNat ≤ 2 * (host.kernel n).activeProcessorCount.toNat) :
    host.need D (n + 1) ≤ 2 * host.need D n := by
  have hmul := Nat.mul_le_mul_left D.metricsPerCore.toNat h
  rw [Nat.mul_left_comm] at hmul
  unfold Host.need replySize Driver.maxEntries
  omega

/-- The handshake converges, whatever the processor counts do within their bound: it
    returns exactly what its last IOCTL wrote, every size it computes is exact, and where
    the count never more than doubles the third IOCTL is the last. -/
theorem runDriver_converges (d : CpuDriver) (host : Host) (h : host.Supports d.driver) (heap : Heap)
    (hheap : heap.Succeeds) (drv : Clocked d.Globals) :
    let run := runDriver heap (host.device d.driver) true drv
    (∃ n l, run n = (.calling l, drv) ∧
      (let w := host.serve d.driver n l drv
       (∀ m, n < m → run m = (.returned w.out.entries, w.drv)) ∧
         w.out.entries = d.helpers.collected (host.kernel n) (drv.cpuid (host.kernel n).machine 0).2) ∧
      ((∀ k, (host.kernel (k + 1)).activeProcessorCount.toNat ≤ 2 * (host.kernel k).activeProcessorCount.toNat) →
        n ≤ 2)) ∧
    ∀ i l l' s s', run i = (.calling l, s) → run (i + 1) = (.calling l', s') →
      l'.bufferSize.toNat = (if l.firstPass then 1 else 2) * host.need d.driver i := by
  intro run
  obtain ⟨n, hn⟩ := settles_of_bounded 12 (host.need d.driver) (replySize 65535) (need_le h)
  obtain ⟨l, hl, -, hsize⟩ := run_offers h hheap drv n hn.refused
  obtain ⟨hret, hentries⟩ := served_turn d h heap n l drv (by rw [hsize]; exact hn.met)
  have hstays : ∀ m, n < m → run m = (.returned (host.serve d.driver n l drv).out.entries,
      (host.serve d.driver n l drv).drv) := by
    intro m hm
    refine returned_stays (n := n + 1) ?_ hm
    rw [runDriver, hl, hret]
  refine ⟨⟨n, l, hl, ⟨hstays, hentries⟩, fun hP => ?_⟩, fun i l₁ l₂ s₁ s₂ h₁ h₂ => ?_⟩
  · exact settles_by_third 12 (host.need d.driver) (fun k => need_doubles k (hP k)) hn
  · -- a turn that goes on to call again comes before turn `n`, so it was refused
    have hi : i < n := by
      by_contra hge
      rw [hstays (i + 1) (by omega)] at h₂
      cases h₂
    obtain ⟨l₀, hl₀, -, hsize₀⟩ := run_offers h hheap drv i fun m hm => hn.refused m (by omega)
    obtain ⟨l₀', hl₀', -, hsize₀'⟩ := refused_turn h hheap i l₀ drv (by rw [hsize₀]; exact header_le_offer i)
      (by rw [hsize₀]; exact hn.refused i hi)
    have e₁ : (Progress.calling l₁, s₁) = (.calling l₀, drv) := h₁.symm.trans hl₀
    have e₂ : (Progress.calling l₂, s₂) = (.calling l₀', drv) := by
      rw [← h₂, ← hl₀']
      show runDriver heap (host.device d.driver) true drv (i + 1) = _
      rw [runDriver, hl₀]
    obtain ⟨rfl, -⟩ := by simpa using e₁
    obtain ⟨rfl, -⟩ := by simpa using e₂
    exact hsize₀'

/-- An AMD machine with one processor, to which a second is added after the first IOCTL. -/
def hotAddHost : Host where
  kernel n := amdKernel (if n = 0 then 1 else 2)
  systemBuffer _ := emptyBuffer
  affinity _ := .zero
  dosError _ := 1

theorem hotAddHost_supports : hotAddHost.Supports amdDriver where
  buffers _ := amdKernel_retrieves _
  vendor _ _ := by
    show detectCpuVendor ⟨0x0D, 0x68747541, 0x444D4163, 0x69746E65⟩ = .amd
    decide
  processors n := by
    show 3 * (if n = 0 then 1 else 2 : UInt32).toNat + 4 ≤ 65535
    split <;> decide

/-- The added processor costs a second resize, and the third IOCTL is the last. -/
theorem runDriver_converges_hotAdd :
    ∃ n ≤ 2, ∃ es, ∀ m, n < m →
      (runDriver (ampleHeap emptyBuffer) (hotAddHost.device amdDriver) true ⟨0, amdGlobals⟩ m).1 = .returned es := by
  obtain ⟨⟨n, l, -, ⟨hstays, -⟩, hthird⟩, -⟩ := runDriver_converges .amd hotAddHost hotAddHost_supports
    (ampleHeap emptyBuffer) (ampleHeap_succeeds _) ⟨0, amdGlobals⟩
  refine ⟨n, hthird fun k => ?_, _, fun m hm => congrArg Prod.fst (hstays m hm)⟩
  show (if k + 1 = 0 then 1 else 2 : UInt32).toNat ≤ 2 * (if k = 0 then 1 else 2 : UInt32).toNat
  split <;> split <;> decide

end HardwareMonitor.Drivers
