/-
  HardwareMonitor.Drivers.Kernel — the kernel a driver runs on: the hardware it reads,
  the request it serves and the calls it makes (`KeQueryActiveProcessorCountEx`,
  `KeGetProcessorNumberFromIndex`, `KeSetSystemGroupAffinityThread`,
  `WdfRequestRetrieveOutputBuffer`, `WdfRequestCompleteWithInformation`, …).

  None of it is in the repository, so every answer is a parameter. A hardware read may
  answer anything each time it is made: reads are dated by a counter, and `Machine` gives
  an answer for every date. What a request does to the world around it (the buffer
  writes, the thread's affinity, the completions) is kept, so that it can be spoken of.
-/

import HardwareMonitor.Drivers.SharedInfo

namespace HardwareMonitor.Drivers

/-! ## Hardware -/

/-- What each hardware read answers, by its date. -/
structure Machine where
  cpuid : Nat → UInt32 → CpuidInfo
  readmsr : Nat → UInt32 → UInt64
  rdtsc : Nat → UInt64
  /-- `KeQueryPerformanceCounter(NULL).QuadPart` -/
  queryPerformanceCounter : Nat → Int64
  /-- `HalSetBusDataByOffset`: the bytes it wrote. -/
  halSetBusData : Nat → UInt32
  /-- `HalGetBusDataByOffset`: the bytes it read and the data behind an index. -/
  halGetBusData : Nat → UInt32 → UInt32 × UInt32

/-- A driver's static variables, and the number of hardware reads made so far. -/
structure Clocked (σ : Type) where
  reads : Nat
  vars : σ

namespace Clocked

variable {σ : Type}

def cpuid (m : Machine) (leaf : UInt32) (s : Clocked σ) : CpuidInfo × Clocked σ :=
  (m.cpuid s.reads leaf, { s with reads := s.reads + 1 })

def readmsr (m : Machine) (addr : UInt32) (s : Clocked σ) : UInt64 × Clocked σ :=
  (m.readmsr s.reads addr, { s with reads := s.reads + 1 })

def rdtsc (m : Machine) (s : Clocked σ) : UInt64 × Clocked σ := (m.rdtsc s.reads, { s with reads := s.reads + 1 })

def queryPerformanceCounter (m : Machine) (s : Clocked σ) : Int64 × Clocked σ :=
  (m.queryPerformanceCounter s.reads, { s with reads := s.reads + 1 })

def halSetBusData (m : Machine) (s : Clocked σ) : UInt32 × Clocked σ :=
  (m.halSetBusData s.reads, { s with reads := s.reads + 1 })

def halGetBusData (m : Machine) (index : UInt32) (s : Clocked σ) : (UInt32 × UInt32) × Clocked σ :=
  (m.halGetBusData s.reads index, { s with reads := s.reads + 1 })

def set (s : Clocked σ) (vars : σ) : Clocked σ := { s with vars := vars }

@[simp] theorem cpuid_vars (m : Machine) (leaf : UInt32) (s : Clocked σ) : (s.cpuid m leaf).2.vars = s.vars := rfl
@[simp] theorem readmsr_vars (m : Machine) (addr : UInt32) (s : Clocked σ) : (s.readmsr m addr).2.vars = s.vars := rfl
@[simp] theorem rdtsc_vars (m : Machine) (s : Clocked σ) : (s.rdtsc m).2.vars = s.vars := rfl
@[simp] theorem queryPerformanceCounter_vars (m : Machine) (s : Clocked σ) :
    (s.queryPerformanceCounter m).2.vars = s.vars := rfl
@[simp] theorem halSetBusData_vars (m : Machine) (s : Clocked σ) : (s.halSetBusData m).2.vars = s.vars := rfl
@[simp] theorem halGetBusData_vars (m : Machine) (index : UInt32) (s : Clocked σ) :
    (s.halGetBusData m index).2.vars = s.vars := rfl
@[simp] theorem set_vars (s : Clocked σ) (v : σ) : (s.set v).vars = v := rfl

@[simp] theorem cpuid_reads (m : Machine) (leaf : UInt32) (s : Clocked σ) : (s.cpuid m leaf).2.reads = s.reads + 1 := rfl
@[simp] theorem readmsr_reads (m : Machine) (addr : UInt32) (s : Clocked σ) :
    (s.readmsr m addr).2.reads = s.reads + 1 := rfl
@[simp] theorem rdtsc_reads (m : Machine) (s : Clocked σ) : (s.rdtsc m).2.reads = s.reads + 1 := rfl
@[simp] theorem queryPerformanceCounter_reads (m : Machine) (s : Clocked σ) :
    (s.queryPerformanceCounter m).2.reads = s.reads + 1 := rfl
@[simp] theorem halSetBusData_reads (m : Machine) (s : Clocked σ) : (s.halSetBusData m).2.reads = s.reads + 1 := rfl
@[simp] theorem halGetBusData_reads (m : Machine) (index : UInt32) (s : Clocked σ) :
    (s.halGetBusData m index).2.reads = s.reads + 1 := rfl
@[simp] theorem set_reads (s : Clocked σ) (v : σ) : (s.set v).reads = s.reads := rfl

end Clocked

/-- One metric helper of a driver (`retCoreTemp`, `retPackagePower`, …) on a machine. -/
abbrev Reader (σ : Type) := Clocked σ → CpuData × Clocked σ

/-- `GENMASK(h, l)`: bits `h` down to `l`. -/
def genmask (h l : UInt64) : UInt64 := (~~~0 >>> (64 - 1 - h)) &&& (~~~0 <<< l)

/-! ## Processors and affinity -/

structure ProcessorNumber where
  group : UInt16
  number : UInt8
  deriving DecidableEq, Repr

/-- A thread's system affinity; a zero mask is the thread's own user affinity. -/
structure GroupAffinity where
  group : UInt16
  mask : UInt64
  deriving DecidableEq, Repr

def GroupAffinity.zero : GroupAffinity := ⟨0, 0⟩

/-! ## Status codes -/

abbrev NtStatus := UInt32

def statusSuccess : NtStatus := 0
def statusBufferOverflow : NtStatus := 0x80000005
def statusInvalidDeviceRequest : NtStatus := 0xC0000010
def statusBufferTooSmall : NtStatus := 0xC0000023

/-- `NT_SUCCESS`: the status is not negative as a signed 32-bit number. -/
def ntSuccess (status : NtStatus) : Bool := status < 0x80000000

/-! ## One request -/

structure Request where
  ioControlCode : UInt32
  outputBufferLength : UInt64
  deriving DecidableEq, Repr

/-- The kernel's answers during one request. -/
structure Kernel where
  machine : Machine
  /-- `KeQueryActiveProcessorCountEx(ALL_PROCESSOR_GROUPS)` -/
  activeProcessorCount : UInt32
  /-- `KeGetProcessorNumberFromIndex`; `none` where it fails. -/
  processorNumber : UInt32 → Option ProcessorNumber
  /-- `WdfRequestRetrieveOutputBuffer`, by the request and the minimum size asked for. -/
  retrieveOutputBuffer : Request → UInt64 → NtStatus

/-- What the framework documents of `WdfRequestRetrieveOutputBuffer`: a buffer at least
    as long as the minimum asked for is handed out. -/
def Kernel.RetrievesBuffers (k : Kernel) : Prop :=
  ∀ req min, min ≤ req.outputBufferLength → ntSuccess (k.retrieveOutputBuffer req min) = true

/-- One write of the handler to the output buffer: the header, or a cell of `data`. -/
inductive Access where
  | header
  | data (i : UInt16)
  deriving DecidableEq, Repr

/-- One completion: `WdfRequestCompleteWithInformation(Request, status, information)`. -/
structure Completion where
  status : NtStatus
  information : UInt64
  deriving DecidableEq, Repr

/-- Everything a request can change. -/
structure World (σ : Type) where
  drv : Clocked σ
  out : CpuDataBuffer
  accesses : List Access
  affinity : GroupAffinity
  completions : List Completion

namespace World

variable {σ : Type} (w : World σ)

/-- `WdfRequestComplete` is the case without information. -/
def complete (status : NtStatus) (information : UInt64) : World σ :=
  { w with completions := w.completions ++ [⟨status, information⟩] }

def writeHeader (h : CpuDataHeader) : World σ :=
  { w with out := { w.out with header := h }, accesses := w.accesses ++ [.header] }

def writeData (i : UInt16) (d : CpuData) : World σ :=
  { w with
    out := { w.out with data := fun j => if j = i.toNat then d else w.out.data j }
    accesses := w.accesses ++ [.data i] }

/-- `KeSetSystemGroupAffinityThread`, whose second argument receives the old affinity. -/
def setAffinity (a : GroupAffinity) : GroupAffinity × World σ := (w.affinity, { w with affinity := a })

/-- `KeRevertToUserGroupAffinityThread` -/
def revertAffinity (old : GroupAffinity) : World σ := { w with affinity := old }

end World

end HardwareMonitor.Drivers
