/-
  HardwareMonitor.Drivers.DriverClient — `DriverClient::runDriver`, the user-space side
  of the handshake: ask for the metrics with a buffer the size of a header, then again
  with the size the driver reports.

  The loop is `while (true)`, so the model counts turns: `runDriver … n` is where the
  call stands after `n` turns. What answers the IOCTLs is a parameter (`Device`), and
  so is the heap. Proved for every sequence of outcomes: the loop stops on the first
  definitive one exactly if that is a success or the very first outcome
  (`stops_iff`); a permanent error that arrives later is retried (`spins_on_failures`).
-/

import Mathlib.Order.Nat
import HardwareMonitor.Drivers.SharedInfo

namespace HardwareMonitor.Drivers

/-! ## The model -/

def errorInsufficientBuffer : UInt32 := 122
def errorMoreData : UInt32 := 234

/-- How one `DeviceIoControl` ended, with the client's buffer as the call left it. -/
inductive Outcome where
  | success (bytesRet : UInt32) (buffer : CpuDataBuffer)
  | failure (err : UInt32) (buffer : CpuDataBuffer)

/-- `malloc`, and `realloc` turn by turn: the new buffer, whose cells past the old one
    hold anything, or NULL. -/
structure Heap where
  malloc : UInt32 → Option CpuDataBuffer
  realloc : Nat → CpuDataBuffer → UInt32 → Option CpuDataBuffer

/-- The locals of the loop. -/
structure Loop where
  firstPass : Bool
  bufferSize : UInt32
  buffer : CpuDataBuffer

/-- Where `runDriver` stands: about to issue an IOCTL, inside one that never comes back,
    or done. -/
inductive Progress where
  | calling (l : Loop)
  | blocked
  | returned (entries : List CpuData)

/-- What stands behind the handle, with a state of its own: the outcome of the IOCTL
    issued in turn `n` with these locals, or `none` if the call never comes back. -/
abbrev Device (δ : Type) := Nat → Loop → δ → Option (Outcome × δ)

/-- The `success` branch. -/
def decodeReply (bytesRet : UInt32) (result : CpuDataBuffer) : List CpuData :=
  let requiredSize := sizeofCpuDataHeader + result.header.entryCount.toUInt64 * sizeofCpuData
  if bytesRet.toUInt64 < requiredSize then [] else result.entries

def bufferTooSmall (err : UInt32) : Bool := err == errorMoreData || err == errorInsufficientBuffer

/-- `realloc` to `bufferSize` bytes and go round again, or give up. -/
def resize (heap : Heap) (turn : Nat) (buffer : CpuDataBuffer) (bufferSize : UInt32) : Progress :=
  match heap.realloc turn buffer bufferSize with
  | none => .returned []
  | some newBuffer => .calling { firstPass := false, bufferSize := bufferSize, buffer := newBuffer }

/-- The body of the loop, past the call. -/
def handleOutcome (heap : Heap) (turn : Nat) (l : Loop) : Outcome → Progress
  | .success bytesRet buffer => .returned (decodeReply bytesRet buffer)
  | .failure err buffer =>
    if l.firstPass then
      if bufferTooSmall err then resize heap turn buffer buffer.header.requiredSize else .returned []
    else if bufferTooSmall err then resize heap turn buffer (buffer.header.requiredSize * 2)
    -- no branch takes any other error here: the loop goes round with the locals it has
    else .calling { l with buffer := buffer }

variable {δ : Type}

/-- One turn of the loop. -/
def runTurn (heap : Heap) (device : Device δ) (turn : Nat) : Progress × δ → Progress × δ
  | (.calling l, s) =>
    match device turn l s with
    | none => (.blocked, s)
    | some (o, s) => (handleOutcome heap turn l o, s)
  | (p, s) => (p, s)

/-- Up to the loop: the checks of the handle and of the first allocation. -/
def enterLoop (heap : Heap) (isValid : Bool) : Progress :=
  if isValid then
    match heap.malloc sizeofCpuDataHeader.toUInt32 with
    | none => .returned []
    | some buffer => .calling { firstPass := true, bufferSize := sizeofCpuDataHeader.toUInt32, buffer := buffer }
  else .returned []

/-- `DriverClient::runDriver` after `n` turns of its loop. -/
def runDriver (heap : Heap) (device : Device δ) (isValid : Bool) (s : δ) : Nat → Progress × δ
  | 0 => (enterLoop heap isValid, s)
  | n + 1 => runTurn heap device n (runDriver heap device isValid s n)

/-- Every allocation succeeds. -/
def Heap.Succeeds (heap : Heap) : Prop :=
  (∀ size, (heap.malloc size).isSome) ∧ ∀ turn buffer size, (heap.realloc turn buffer size).isSome

/-! ## Turns -/

theorem resize_calling {heap : Heap} (h : heap.Succeeds) (turn : Nat) (buffer : CpuDataBuffer) (size : UInt32) :
    ∃ b, resize heap turn buffer size = .calling ⟨false, size, b⟩ := by
  obtain ⟨b, hb⟩ := Option.isSome_iff_exists.mp (h.2 turn buffer size)
  exact ⟨b, by simp only [resize, hb]⟩

theorem enterLoop_calling {heap : Heap} (h : heap.Succeeds) :
    ∃ b, enterLoop heap true = .calling ⟨true, sizeofCpuDataHeader.toUInt32, b⟩ := by
  obtain ⟨b, hb⟩ := Option.isSome_iff_exists.mp (h.1 sizeofCpuDataHeader.toUInt32)
  exact ⟨b, by simp only [enterLoop, if_true, hb]⟩

/-- A turn in which the call comes back. -/
theorem runTurn_calling (heap : Heap) {device : Device δ} {turn : Nat} {l : Loop} {s s' : δ} {o : Outcome}
    (h : device turn l s = some (o, s')) :
    runTurn heap device turn (.calling l, s) = (handleOutcome heap turn l o, s') := by
  simp only [runTurn, h]

/-- Once it has returned, no further IOCTL is issued. -/
theorem returned_stays {heap : Heap} {device : Device δ} {isValid : Bool} {s t : δ} {n : Nat} {es : List CpuData}
    (h : runDriver heap device isValid s n = (.returned es, t)) {m : Nat} (hm : n ≤ m) :
    runDriver heap device isValid s m = (.returned es, t) := by
  induction m, hm using Nat.le_induction with
  | base => exact h
  | succ m _ ih =>
    rw [runDriver, ih]
    rfl

/-! ## Every sequence of outcomes -/

/-- The device that answers with the outcomes `os`, one after the other. -/
def script (os : Nat → Option Outcome) : Device Unit := fun n _ _ => (os n).map fun o => (o, ())

/-- Not an error that asks for a larger buffer. -/
def Outcome.definitive : Outcome → Bool
  | .success _ _ => true
  | .failure err _ => !bufferTooSmall err

def Outcome.isSuccess : Outcome → Bool
  | .success _ _ => true
  | .failure _ _ => false

/-- What a caller should get for a definitive outcome. -/
def Outcome.answer : Outcome → List CpuData
  | .success bytesRet buffer => decodeReply bytesRet buffer
  | .failure _ _ => []

/-- Outcome number `k` is `o`, and the first definitive one. -/
structure FirstDefinitive (os : Nat → Option Outcome) (k : Nat) (o : Outcome) : Prop where
  here : os k = some o
  definitive : o.definitive = true
  before : ∀ j < k, ∃ p, os j = some p ∧ p.definitive = false

/-- `runDriver` issues IOCTL number `k`, returns on its outcome `o`, and issues no more. -/
def StopsAt (heap : Heap) (os : Nat → Option Outcome) (k : Nat) (o : Outcome) : Prop :=
  (∃ l, (runDriver heap (script os) true () k).1 = .calling l) ∧
    ∀ m, k < m → (runDriver heap (script os) true () m).1 = .returned o.answer

variable {heap : Heap} {os : Nat → Option Outcome}

/-- An outcome that asks for more room takes the loop round once more, past its first pass. -/
theorem handleOutcome_retry (h : heap.Succeeds) (turn : Nat) (l : Loop) {o : Outcome} (ho : o.definitive = false) :
    ∃ l', handleOutcome heap turn l o = .calling l' ∧ l'.firstPass = false := by
  cases o with
  | success => simp [Outcome.definitive] at ho
  | failure err buffer =>
    have herr : bufferTooSmall err = true := by simpa [Outcome.definitive] using ho
    simp only [handleOutcome, herr, if_true]
    split
    · obtain ⟨b, hb⟩ := resize_calling h turn buffer buffer.header.requiredSize
      exact ⟨_, hb, rfl⟩
    · obtain ⟨b, hb⟩ := resize_calling h turn buffer (buffer.header.requiredSize * 2)
      exact ⟨_, hb, rfl⟩

/-- Until a definitive outcome the loop keeps calling; only turn 0 is a first pass. -/
theorem calling_before (h : heap.Succeeds) (k : Nat) (hos : ∀ j < k, ∃ p, os j = some p ∧ p.definitive = false) :
    ∃ l, runDriver heap (script os) true () k = (.calling l, ()) ∧ (l.firstPass = true ↔ k = 0) := by
  induction k with
  | zero =>
    obtain ⟨b, hb⟩ := enterLoop_calling h
    exact ⟨_, by rw [runDriver, hb], by simp⟩
  | succ k ih =>
    obtain ⟨l, hl, -⟩ := ih fun j hj => hos j (by omega)
    obtain ⟨p, hp, hd⟩ := hos k (by omega)
    obtain ⟨l', hl', hf⟩ := handleOutcome_retry h k l hd
    refine ⟨l', ?_, by simp [hf]⟩
    rw [runDriver, hl, runTurn_calling heap (show script os k l () = some (p, ()) by simp [script, hp]), hl']

/-- A success ends the loop, and so does any definitive outcome of the first pass. -/
theorem handleOutcome_ends (turn : Nat) (l : Loop) {o : Outcome} (ho : o.definitive = true)
    (h : o.isSuccess = true ∨ l.firstPass = true) : handleOutcome heap turn l o = .returned o.answer := by
  cases o with
  | success => rfl
  | failure err buffer =>
    have herr : bufferTooSmall err = false := by simpa [Outcome.definitive] using ho
    have hf : l.firstPass = true := by simpa [Outcome.isSuccess] using h
    simp only [handleOutcome, hf, herr, if_true, Bool.false_eq_true, if_false, Outcome.answer]

/-- Past the first pass a permanent error goes unhandled: the loop calls again. -/
theorem handleOutcome_late_failure (heap : Heap) (turn : Nat) (l : Loop) {o : Outcome} (ho : o.definitive = true)
    (h : o.isSuccess = false) (hl : l.firstPass = false) :
    ∃ l', handleOutcome heap turn l o = .calling l' ∧ l'.firstPass = false := by
  cases o with
  | success => simp [Outcome.isSuccess] at h
  | failure err buffer =>
    have herr : bufferTooSmall err = false := by simpa [Outcome.definitive] using ho
    exact ⟨{ l with buffer := buffer }, by simp only [handleOutcome, hl, herr, Bool.false_eq_true, if_false], hl⟩

/-- The turn that handles outcome `k`. -/
theorem run_at {k : Nat} {l : Loop} {o : Outcome} (hl : runDriver heap (script os) true () k = (.calling l, ()))
    (ho : os k = some o) : runDriver heap (script os) true () (k + 1) = (handleOutcome heap k l o, ()) := by
  rw [runDriver, hl, runTurn_calling heap (show script os k l () = some (o, ()) by simp [script, ho])]

/-- `runDriver` stops on the first definitive outcome exactly if that is a success or
    comes before any resize. -/
theorem stops_iff (hheap : heap.Succeeds) (k : Nat) (o : Outcome) (h : FirstDefinitive os k o) :
    StopsAt heap os k o ↔ o.isSuccess = true ∨ k = 0 := by
  obtain ⟨l, hl, hfirst⟩ := calling_before hheap k h.before
  have hnext := run_at hl h.here
  constructor
  · intro hstop
    by_contra hno
    have hs : o.isSuccess = false := Bool.eq_false_iff.mpr fun e => hno (.inl e)
    have hf : l.firstPass = false := Bool.eq_false_iff.mpr fun e => hno (.inr (hfirst.mp e))
    obtain ⟨l', hl', -⟩ := handleOutcome_late_failure heap k l h.definitive hs hf
    have hret := hstop.2 (k + 1) (Nat.lt_succ_self k)
    rw [hnext, hl'] at hret
    cases hret
  · intro hor
    rw [handleOutcome_ends k l h.definitive (hor.imp_right hfirst.mpr)] at hnext
    exact ⟨⟨l, by rw [hl]⟩, fun m hm => by rw [returned_stays hnext hm]⟩

/-- After a resize, a device that only fails keeps the caller in the loop for good. -/
theorem spins_on_failures (hheap : heap.Succeeds) (k : Nat) (hk : 0 < k)
    (hos : ∀ j < k, ∃ p, os j = some p ∧ p.definitive = false)
    (hfail : ∀ j, k ≤ j → ∃ p, os j = some p ∧ p.isSuccess = false) (m : Nat) :
    ∃ l, runDriver heap (script os) true () m = (.calling l, ()) := by
  rcases Nat.le_total m k with hm | hm
  · obtain ⟨l, hl, -⟩ := calling_before hheap m fun j hj => hos j (by omega)
    exact ⟨l, hl⟩
  suffices ∃ l, runDriver heap (script os) true () m = (.calling l, ()) ∧ l.firstPass = false by
    obtain ⟨l, hl, -⟩ := this
    exact ⟨l, hl⟩
  induction m, hm using Nat.le_induction with
  | base =>
    obtain ⟨l, hl, hfirst⟩ := calling_before hheap k hos
    exact ⟨l, hl, Bool.eq_false_iff.mpr fun e => absurd (hfirst.mp e) (by omega)⟩
  | succ m hm ih =>
    obtain ⟨l, hl, hf⟩ := ih
    obtain ⟨p, hp, hs⟩ := hfail m hm
    rw [run_at hl hp]
    by_cases hd : p.definitive = true
    · obtain ⟨l', hl', hf'⟩ := handleOutcome_late_failure heap m l hd hs hf
      exact ⟨l', by rw [hl'], hf'⟩
    · obtain ⟨l', hl', hf'⟩ := handleOutcome_retry hheap m l (Bool.eq_false_iff.mpr hd)
      exact ⟨l', by rw [hl'], hf'⟩

/-- A heap that never runs out. -/
def ampleHeap (fresh : CpuDataBuffer) : Heap := ⟨fun _ => some fresh, fun _ buffer _ => some buffer⟩

theorem ampleHeap_succeeds (fresh : CpuDataBuffer) : (ampleHeap fresh).Succeeds := ⟨fun _ => rfl, fun _ _ _ => rfl⟩

/-- A reply of a header and no entries. -/
def headerOnly (requiredSize : UInt32) : CpuDataBuffer := ⟨⟨requiredSize, 4, 0⟩, fun _ => ⟨0, "", 0, 0, 0⟩⟩

/-- One resize, then `ERROR_INVALID_FUNCTION` (what the driver's late vendor check
    completes with) for good. -/
def refusedLate (n : Nat) : Option Outcome :=
  some (.failure (if n = 0 then errorMoreData else 1) (headerOnly 716))

/-- One resize, then a success. -/
def servedSecond (n : Nat) : Option Outcome :=
  if n = 0 then some (.failure errorMoreData (headerOnly 188)) else some (.success 12 (headerOnly 188))

theorem stops_on_second_success :
    StopsAt (ampleHeap (headerOnly 0)) servedSecond 1 (.success 12 (headerOnly 188)) :=
  (stops_iff (ampleHeap_succeeds _) 1 _ ⟨rfl, rfl, fun j hj => ⟨_, if_pos (by omega), rfl⟩⟩).mpr (.inl rfl)

/-- The permanent error of outcome 1 is definitive, and the loop does not stop on it. -/
theorem refused_late_goes_on :
    (ampleHeap (headerOnly 0)).Succeeds ∧ FirstDefinitive refusedLate 1 (.failure 1 (headerOnly 716)) ∧
      ¬ StopsAt (ampleHeap (headerOnly 0)) refusedLate 1 (.failure 1 (headerOnly 716)) := by
  refine ⟨ampleHeap_succeeds _, ⟨rfl, rfl, fun j hj => ?_⟩, fun hstop => ?_⟩
  · obtain rfl : j = 0 := by omega
    exact ⟨_, rfl, rfl⟩
  · have h2 : (runDriver (ampleHeap (headerOnly 0)) (script refusedLate) true () 2).1 = .returned [] :=
      hstop.2 2 (by omega)
    simp [runDriver, enterLoop, runTurn, script, refusedLate, ampleHeap, handleOutcome, resize, bufferTooSmall,
      errorMoreData, errorInsufficientBuffer] at h2

end HardwareMonitor.Drivers
