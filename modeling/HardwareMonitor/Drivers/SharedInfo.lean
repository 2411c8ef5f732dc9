/-
  HardwareMonitor.Drivers.SharedInfo — what the kernel drivers and the user-space client
  share (`kernel_common/cpu_shared_info.h`): the vendor check, the tags of an entry and
  the layout of a reply.

  The C types are the fixed-width ones of Lean (`ULONG` is `UInt32`, `USHORT` is
  `UInt16`, `SIZE_T` and `ULONGLONG` are `UInt64`), so every sum and product below
  wraps as it does in C.
-/

namespace HardwareMonitor.Drivers

/-! ## The vendor check -/

inductive CpuVendor where
  | unknown
  | intel
  | amd
  deriving DecidableEq, Repr

/-- The four registers of one `__cpuid`. -/
structure CpuidInfo where
  eax : UInt32
  ebx : UInt32
  ecx : UInt32
  edx : UInt32
  deriving DecidableEq, Repr

/-- The bytes of a register as they lie in memory. -/
def memoryOf (r : UInt32) : List UInt8 := [r.toUInt8, (r >>> 8).toUInt8, (r >>> 16).toUInt8, (r >>> 24).toUInt8]

def bytesOf (s : String) : List UInt8 := s.toList.map fun c => c.toNat.toUInt8

/-- `DetectCpuVendor`, given the answer to `__cpuid(cpu_info, 0)`. -/
def detectCpuVendor (cpuInfo : CpuidInfo) : CpuVendor :=
  let vendor := memoryOf cpuInfo.ebx ++ memoryOf cpuInfo.edx ++ memoryOf cpuInfo.ecx
  if vendor = bytesOf "GenuineIntel" then .intel
  else if vendor = bytesOf "AuthenticAMD" then .amd
  else .unknown

example : detectCpuVendor ⟨0x16, 0x756e6547, 0x6c65746e, 0x49656e69⟩ = .intel := by decide

/-! ## Entries -/

inductive MetricType where
  | temp
  | voltage
  | clockSpeed
  | load
  | power
  deriving DecidableEq, Repr

inductive MetricUnit where
  | none
  | degreesC
  | millivolts
  | mhz
  | percent
  | milliwatts
  deriving DecidableEq, Repr

/-- `(USHORT)` of a metric type: the enumerators count from 0. -/
def MetricType.code : MetricType → UInt16
  | .temp => 0
  | .voltage => 1
  | .clockSpeed => 2
  | .load => 3
  | .power => 4

def MetricUnit.code : MetricUnit → UInt16
  | .none => 0
  | .degreesC => 1
  | .millivolts => 2
  | .mhz => 3
  | .percent => 4
  | .milliwatts => 5

/-- `CPU_DATA`. `name` is the text in `char name[32]` up to its NUL; `type` and `unit`
    are the USHORT codes of a `METRIC_TYPE` and a `METRIC_UNIT`. -/
structure CpuData where
  value : UInt32
  name : String
  type : UInt16
  unit : UInt16
  cpuId : UInt16
  deriving DecidableEq, Repr

/-! ## The reply -/

structure CpuDataHeader where
  requiredSize : UInt32
  processorCount : UInt32
  entryCount : UInt32
  deriving DecidableEq, Repr

/-- `CPU_DATA_BUFFER`: `data` is the memory behind the header, cell by cell. -/
structure CpuDataBuffer where
  header : CpuDataHeader
  data : Nat → CpuData

/-- `sizeof(CPU_DATA)`: 4 + 32 + 3 · 2 bytes, rounded up to the alignment of `ULONG`. -/
def sizeofCpuData : UInt64 := 44

/-- `sizeof(CPU_DATA_HEADER)`, which is also `offsetof(CPU_DATA_BUFFER, data)`. -/
def sizeofCpuDataHeader : UInt64 := 12

/-- The entries a header's `entry_count` speaks of. -/
def CpuDataBuffer.entries (b : CpuDataBuffer) : List CpuData := (List.range b.header.entryCount.toNat).map b.data

/-- `CTL_CODE` -/
def ctlCode (deviceType function method access : UInt32) : UInt32 :=
  (deviceType <<< 16) ||| (access <<< 14) ||| (function <<< 2) ||| method

/-- `CTL_CODE(FILE_DEVICE_UNKNOWN, 0x800, METHOD_BUFFERED, FILE_ANY_ACCESS)` -/
def ioctlGetData : UInt32 := ctlCode 0x22 0x800 0 0

end HardwareMonitor.Drivers
