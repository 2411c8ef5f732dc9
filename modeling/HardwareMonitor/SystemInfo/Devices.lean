/-
  HardwareMonitor.SystemInfo.Devices — the device objects of a machine and the snapshots
  their workers push (`hardware/`).

  The vendor libraries are what they answer: `Machine` holds the answers, and the pools
  turn them into device objects. A snapshot carries the object's name only, and the
  client keeps one node set for each name. So two objects get node sets without a common
  variable exactly if their names differ (`node_sets_separate`); equal cards of one maker
  share theirs (`equal_cards_share`).
-/

import HardwareMonitor.SystemInfo.HonestRuns

namespace HardwareMonitor.SystemInfo

open HardwareMonitor.OpcUa
open HardwareMonitor.ControlCenter (SnapshotNodeIds)

/-! ## Device objects -/

/-- `A_HardwareDevice::Vendor` -/
inductive Vendor where
  | nvidia
  | amd
  | intel
  deriving DecidableEq, Repr

/-- `A_HardwareDevice::HardwareType` -/
inductive HardwareType where
  | motherboard
  | cpu
  | gpu
  | psu
  | network
  | storage
  deriving DecidableEq, Repr

def vendorName : Vendor → String
  | .nvidia => "NVIDIA"
  | .amd => "AMD"
  | .intel => "INTEL"

def hardwareTypeName : HardwareType → String
  | .motherboard => "Motherboard"
  | .cpu => "CPU"
  | .gpu => "GPU"
  | .psu => "PSU"
  | .network => "Network"
  | .storage => "Storage"

/-- `A_HardwareDevice`, without its sensors; `object` tells the objects apart. -/
structure Device where
  object : Nat
  vendor : Vendor
  hwType : HardwareType
  name : String
  deriving DecidableEq, Repr

/-- `snapshot`; `devSensors` is what the sensors read after `fetchMetrics`. -/
def Device.snapshot (device : Device) (devSensors : List SensorSnapshot) : TelemetrySnapshot where
  name := device.name
  vendor := vendorName device.vendor
  hardwareType := hardwareTypeName device.hwType
  sensors := devSensors
  source := device.object

/-! ## The pools -/

/-- `AdapterInfo`, with the answer of `ADL2_Adapter_Active_Get`. -/
structure AdapterInfo where
  active : Bool
  busNumber : Int
  adapterName : String
  deriving DecidableEq, Repr

/-- `DxgiHandler::Vendor` -/
inductive DxgiVendor where
  | nvidia
  | amd
  | intel
  | unknown
  deriving DecidableEq, Repr

/-- What the libraries answer on a machine. -/
structure Machine where
  /-- `detected_vendors`, in the order of the set. -/
  detectedVendors : List DxgiVendor
  /-- For each handle of `NvAPI_EnumPhysicalGPUs`, its full name if there is one. -/
  nvidia : List (Option String)
  /-- The ADL adapters; none where `ADL::init` throws. -/
  adl : Option (List AdapterInfo)
  /-- For each entry of the ADLX list the GPU, if it can be had, with its name, if it has
      one; none where `ADLX::init` throws. -/
  adlx : Option (List (Option (Option String)))
  /-- `driver_client_.isValid()` -/
  driverValid : Bool
  deriving DecidableEq, Repr

/-- The names `NvidiaPool::enumerateDevices` gives. -/
def nvidiaNames (handles : List (Option String)) : List String :=
  handles.map fun gpuName =>
    match gpuName with
    | some gpuName => "NVIDIA " ++ gpuName
    | none => "NVIDIA GPU"

/-- The loop of `AMDPool::enumerateADL`: one device for each bus number. -/
def enumerateADL (seenBusNumbers : List Int) : List AdapterInfo → List String
  | [] => []
  | adapter :: rest =>
    if !adapter.active then enumerateADL seenBusNumbers rest
    else if adapter.busNumber ∈ seenBusNumbers then enumerateADL seenBusNumbers rest
    else adapter.adapterName :: enumerateADL (seenBusNumbers ++ [adapter.busNumber]) rest

/-- `AMDPool::enumerateADLX`, with the name `AMDLiveGPUMetrics` resolves. -/
def enumerateADLX (gpuList : List (Option (Option String))) : List String :=
  gpuList.filterMap fun gpu => gpu.map fun gpuName => gpuName.getD "AMD GPU"

/-- `AMDPool::enumerateDevices` -/
def amdNames (machine : Machine) : List String :=
  match machine.adl with
  | some adapters => enumerateADL [] adapters
  | none =>
    match machine.adlx with
    | some gpuList => enumerateADLX gpuList
    | none => []

/-- `DxgiHandler::createGPUDevices`, one pool after the other. -/
def gpuNames (machine : Machine) : List (Vendor × String) :=
  machine.detectedVendors.flatMap fun ven =>
    match ven with
    | .amd => (amdNames machine).map fun name => (Vendor.amd, name)
    | .nvidia => (nvidiaNames machine.nvidia).map fun name => (Vendor.nvidia, name)
    | _ => []

/-! ## The workers -/

/-- `devices_` of `GPUPipelineWorker` -/
def Machine.gpuDevices (machine : Machine) : List Device :=
  (gpuNames machine).zipIdx.map fun e => ⟨e.2, e.1.1, .gpu, e.1.2⟩

/-- `device_` of `CPUPipelineWorker` -/
def Machine.cpuDevice (machine : Machine) : Option Device :=
  if machine.driverValid then some ⟨machine.gpuDevices.length, .intel, .cpu, "CPU"⟩ else none

def Machine.devices (machine : Machine) : List Device := machine.gpuDevices ++ machine.cpuDevice.toList

/-- The pushes of one `GPUPipelineWorker::execute`; `readings` are what the sensors read. -/
def Machine.gpuExecute (machine : Machine) (readings : Device → List SensorSnapshot) : List TelemetrySnapshot :=
  machine.gpuDevices.map fun device => device.snapshot (readings device)

/-- The pushes of one `CPUPipelineWorker::execute`. -/
def Machine.cpuExecute (machine : Machine) (readings : Device → List SensorSnapshot) : List TelemetrySnapshot :=
  machine.cpuDevice.toList.map fun device => device.snapshot (readings device)

/-- Some execution of a worker pushes it. -/
def Machine.Produces (machine : Machine) (snapshot : TelemetrySnapshot) : Prop :=
  ∃ readings, snapshot ∈ machine.gpuExecute readings ∨ snapshot ∈ machine.cpuExecute readings

theorem produces_iff (machine : Machine) (snapshot : TelemetrySnapshot) :
    machine.Produces snapshot ↔ ∃ device ∈ machine.devices, ∃ devSensors, snapshot = device.snapshot devSensors := by
  simp only [Machine.Produces, Machine.gpuExecute, Machine.cpuExecute, Machine.devices, List.mem_map, List.mem_append]
  constructor
  · intro hfound
    rcases hfound with ⟨readings, ⟨device, hd, rfl⟩ | ⟨device, hd, rfl⟩⟩
    · exact ⟨device, Or.inl hd, readings device, rfl⟩
    · exact ⟨device, Or.inr hd, readings device, rfl⟩
  · intro hfound
    rcases hfound with ⟨device, hd | hd, devSensors, rfl⟩
    · exact ⟨fun _ => devSensors, Or.inl ⟨device, hd, rfl⟩⟩
    · exact ⟨fun _ => devSensors, Or.inr ⟨device, hd, rfl⟩⟩

/-! ## Node sets -/

/-- Snapshots of different device objects have been written to different node sets, with
    no variable in common. -/
def Separate (b : Backend) : Prop :=
  ∀ w ∈ writes b, ∀ w' ∈ writes b, w.2.source ≠ w'.2.source →
    w.1 ≠ w'.1 ∧ ∀ id ∈ variableIds w.1, id ∉ variableIds w'.1

/-- In every run, two snapshots are written to one node set if their names are equal, and
    to node sets without a common variable if not. So the device objects of a machine
    are kept apart if no two of them have one name, and any two of one name that get
    written are not. -/
theorem node_sets_separate (machine : Machine) (launch : Nat → Launch) (p : Nat) (es : List Event)
    (hes : ∀ snapshot, .push p snapshot ∈ es → machine.Produces snapshot) :
    ((machine.devices.map (·.name)).Nodup → Separate ((after launch es).shared.backend p)) ∧
      ∀ w ∈ writes ((after launch es).shared.backend p), ∀ w' ∈ writes ((after launch es).shared.backend p),
        (w.2.name = w'.2.name → w.1 = w'.1) ∧ (w.2.name ≠ w'.2.name → ∀ id ∈ variableIds w.1, id ∉ variableIds w'.1) := by
  have hinv := (sound_after launch (fun q snapshot => q = p → machine.Produces snapshot) es
    fun q snapshot h hq => hes snapshot (hq ▸ h)).inv
  have htrace := (hinv.backends p).trace
  have hpair : ∀ w ∈ writes ((after launch es).shared.backend p), ∀ w' ∈ writes ((after launch es).shared.backend p),
      (w.2.name = w'.2.name → w.1 = w'.1) ∧ (w.2.name ≠ w'.2.name → ∀ id ∈ variableIds w.1, id ∉ variableIds w'.1) := by
    intro w hw w' hw'
    obtain ⟨hids, -, hfilled⟩ := htrace _ (mem_writes.mp hw)
    obtain ⟨hids', -, hfilled'⟩ := htrace _ (mem_writes.mp hw')
    rw [hids, hids']
    exact ⟨fun e => by rw [e], variableIds_disjoint hinv.tree.grounded hfilled hfilled'⟩
  refine ⟨fun hnames w hw w' hw' hne => ?_, hpair⟩
  obtain ⟨-, hok, -⟩ := htrace _ (mem_writes.mp hw)
  obtain ⟨-, hok', -⟩ := htrace _ (mem_writes.mp hw')
  obtain ⟨device, hd, devSensors, hs⟩ := (produces_iff _ _).mp (hok rfl)
  obtain ⟨device', hd', devSensors', hs'⟩ := (produces_iff _ _).mp (hok' rfl)
  have hname : w.2.name ≠ w'.2.name := by
    intro e
    rw [hs, hs'] at e hne
    exact hne (congrArg Device.object (List.inj_on_of_nodup_map hnames hd hd' e))
  have hdisj := (hpair w hw w' hw').2 hname
  refine ⟨fun e => ?_, hdisj⟩
  rw [e] at hdisj
  exact hdisj w'.1.name List.mem_cons_self List.mem_cons_self

/-- A machine with these NVIDIA cards, and no driver for its processor. -/
def nvidiaMachine (names : List String) : Machine := ⟨[.nvidia], names.map some, none, none, false⟩

/-- The machine's devices push once each, and the first `calls` calls of the send are served. -/
def machineRun (machine : Machine) (calls : Nat) : List Event :=
  soloRun "plc" (machine.gpuExecute (fun _ => []) ++ machine.cpuExecute fun _ => []) calls

theorem machineRun_pushes {machine : Machine} {calls : Nat} {q : Nat} {snapshot : TelemetrySnapshot}
    (h : .push q snapshot ∈ machineRun machine calls) : machine.Produces snapshot := by
  rcases List.mem_append.mp (soloRun_pushes h) with h | h
  · exact ⟨fun _ => [], Or.inl h⟩
  · exact ⟨fun _ => [], Or.inr h⟩

/-- Two different cards. -/
theorem different_cards_separate :
    Separate ((after (solo "plc") (machineRun (nvidiaMachine ["RTX 4090", "RTX 3060"]) 41)).shared.backend 0) :=
  (node_sets_separate (nvidiaMachine ["RTX 4090", "RTX 3060"]) (solo "plc") 0 _ fun _ => machineRun_pushes).1 (by decide)

/-- Two cards of one model are two devices, written to one node set. -/
theorem equal_cards_share :
    (nvidiaMachine ["RTX 4090", "RTX 4090"]).gpuDevices.length = 2 ∧
      ¬ Separate ((after (solo "plc") (machineRun (nvidiaMachine ["RTX 4090", "RTX 4090"]) 25)).shared.backend 0) := by
  refine ⟨by decide, fun h => ?_⟩
  have hw : ∀ k < 2, (snapshotNodes "plc" "NVIDIA RTX 4090", (⟨"NVIDIA RTX 4090", "NVIDIA", "GPU", [], k⟩ : TelemetrySnapshot)) ∈
      writes ((after (solo "plc") (machineRun (nvidiaMachine ["RTX 4090", "RTX 4090"]) 25)).shared.backend 0) := by
    decide +kernel
  exact (h _ (hw 0 (by decide)) _ (hw 1 (by decide)) (by decide)).1 rfl

end HardwareMonitor.SystemInfo
