/-
  HardwareMonitor.SystemInfo.Publishing — a backend's client code: `ensureClientFolder`,
  `ensureSnapshotNode` and `writeSnapshot` of `OPC_UA/utils.cpp`, and the member
  functions of `SystemInfoClient` that call them.

  Each is a program of calls (`Lib.Interaction`): requests to the server, a drain of the
  queue, and the accesses to the object's own members. Between two calls anything may
  happen elsewhere, and any request may throw; nothing here catches an exception but
  `tryBrowseChild`, and that only a status of Bad_NoMatch.
-/

import HardwareMonitor.Lib.Interaction
import HardwareMonitor.OpcUa.ClientQueue
import HardwareMonitor.ControlCenter.Discovery

namespace HardwareMonitor.SystemInfo

open HardwareMonitor.OpcUa
open HardwareMonitor.ControlCenter (Variant ExtensionObject SensorDto SnapshotNodeIds)
open HardwareMonitor.Lib.Interaction

/-! ## Stores -/

/-- `TelemetryStore`; `devSensors` is the array of `dev_sensors_size` elements. -/
structure TelemetryStore where
  name : String
  vendor : String
  hardwareType : String
  devSensors : List ExtensionObject
  deriving DecidableEq, Repr

/-- The body of the loop of `buildTelemetryStore`; `sensor_type` stays empty. -/
def buildSensor (sensor : SensorSnapshot) : ExtensionObject :=
  .decoded (some { name := sensor.name, value := sensor.value, unit := sensor.unit, sensorType := "" })

def buildTelemetryStore (snapshot : TelemetrySnapshot) : TelemetryStore where
  name := snapshot.name
  vendor := snapshot.vendor
  hardwareType := snapshot.hardwareType
  devSensors := snapshot.sensors.map buildSensor

/-- `buildTelemetryPayload` -/
def buildTelemetryPayload (drained : List TelemetrySnapshot) : List TelemetryStore := drained.map buildTelemetryStore

/-- `drained[i]` goes with `stores[i]`: each snapshot with its own store. -/
theorem zip_payload (drained : List TelemetrySnapshot) :
    drained.zip (buildTelemetryPayload drained) = drained.map fun snapshot => (snapshot, buildTelemetryStore snapshot) := by
  induction drained with
  | nil => rfl
  | cons snapshot drained ih => exact congrArg ((snapshot, buildTelemetryStore snapshot) :: ·) ih

/-! ## Calls -/

/-- What a run can be asked about afterwards: `ensureSnapshotNode` is entered for a key;
    the write of a snapshot begins and ends (where the performance logger is started and
    stopped); `sendTelemetryPayload` returns true. The queue has been drained, a value
    written, and an exception has left the program. -/
inductive Mark where
  | ensures (deviceKey : String)
  | writes (ids : SnapshotNodeIds) (snapshot : TelemetrySnapshot)
  | wrote (ids : SnapshotNodeIds) (snapshot : TelemetrySnapshot)
  | returned
  | drained (snapshots : List TelemetrySnapshot)
  | put (id : NodeId) (value : Variant)
  | threw
  deriving DecidableEq, Repr

inductive Call where
  /-- `browseChild` behind `tryBrowseChild`: Bad_NoMatch is an answer. -/
  | browseChild (parent : NodeId) (name : QualifiedName)
  /-- The BrowseName is only printed. -/
  | readBrowseName (id : NodeId)
  | addNode (item : AddNodesItem)
  | writeValue (id : NodeId) (value : Variant)
  /-- `queue_->drain()` -/
  | drain
  /-- `client_folder_`, read and assigned. -/
  | clientFolder
  | setClientFolder (id : NodeId)
  /-- `device_nodes_.find` and `device_nodes_.emplace`. -/
  | findDevice (deviceKey : String)
  | emplaceDevice (deviceKey : String) (ids : SnapshotNodeIds)
  | mark (m : Mark)
  deriving DecidableEq, Repr

abbrev Call.Answer : Call → Type
  | .browseChild _ _ => Option NodeId
  | .addNode _ => NodeId
  | .drain => List TelemetrySnapshot
  | .clientFolder => Option NodeId
  | .findDevice _ => Option SnapshotNodeIds
  | _ => Unit

/-- The code of a backend. -/
abbrev Code (α : Type) := Prog Call Call.Answer α

/-- The calls that go to the server. -/
def Call.remote : Call → Bool
  | .browseChild _ _ => true
  | .readBrowseName _ => true
  | .addNode _ => true
  | .writeValue _ _ => true
  | _ => false

/-- The code of one call. -/
def perform (c : Call) : Code c.Answer := ask c

/-! ## `OPC_UA/utils.cpp` -/

/-- `tryBrowseChild` -/
def tryBrowseChild (parent : NodeId) (ns : UInt16) (name : String) : Code (Option NodeId) :=
  perform (.browseChild parent ⟨ns, name⟩)

/-- `Node::addFolder`, `addObject` and `addVariable`: an AddNodes request below `parent`,
    whose BrowseName takes its namespace from the new id. -/
def addNode (parent id : NodeId) (browseName : String) : Code NodeId :=
  perform (.addNode ⟨parent.expanded, id.expanded, ⟨id.namespaceIndex, browseName⟩⟩)

def ensureClientFolder (telemetryClientsFolder : NodeId) (deviceName : String) (ns : UInt16) : Code NodeId := do
  let existing ← tryBrowseChild telemetryClientsFolder ns deviceName
  match existing with
  | some existing => return existing
  | none => addNode telemetryClientsFolder ⟨ns, .string (clientFolderId deviceName)⟩ deviceName

def ensureStringVar (parent : NodeId) (deviceName deviceKey field : String) (ns : UInt16) : Code NodeId := do
  let existing ← tryBrowseChild parent ns field
  match existing with
  | some existing => return existing
  | none => addNode parent ⟨ns, .string (snapshotFieldId deviceName deviceKey field)⟩ field

/-- The first part of `ensureSnapshotNode`: the device's object. -/
def ensureObject (clientFolder : NodeId) (deviceName deviceKey : String) (ns : UInt16) : Code NodeId := do
  let obj ← tryBrowseChild clientFolder ns deviceKey
  match obj with
  | some obj => return obj
  | none => addNode clientFolder ⟨ns, .string (snapshotObjectId deviceName deviceKey)⟩ deviceKey

/-- The sensors array is ensured as the string variables are, with other attributes. -/
def ensureSensors (obj : NodeId) (deviceName deviceKey : String) (ns : UInt16) : Code NodeId :=
  ensureStringVar obj deviceName deviceKey "sensors" ns

def ensureSnapshotNode (clientFolder : NodeId) (deviceName deviceKey : String) (ns : UInt16) : Code SnapshotNodeIds := do
  let obj ← ensureObject clientFolder deviceName deviceKey ns
  let name ← ensureStringVar obj deviceName deviceKey "name" ns
  let vendor ← ensureStringVar obj deviceName deviceKey "vendor" ns
  let hardwareType ← ensureStringVar obj deviceName deviceKey "hardware_type" ns
  let sensors ← ensureSensors obj deviceName deviceKey ns
  return { object := obj, name := name, vendor := vendor, hardwareType := hardwareType, sensors := sensors }

def writeSnapshot (ids : SnapshotNodeIds) (store : TelemetryStore) : Code Unit := do
  perform (.writeValue ids.name (.string store.name))
  perform (.writeValue ids.vendor (.string store.vendor))
  perform (.writeValue ids.hardwareType (.string store.hardwareType))
  perform (.writeValue ids.sensors (.extensionObjects store.devSensors))

/-! ## `SystemInfoClient` -/

/-- `addNodes`; an unmatched TelemetryClients folder is an exception here. -/
def addNodes (clientName : String) : Code Unit := do
  let clientsFolder ← tryBrowseChild objectsFolder telemetryNamespaceIndex telemetryClientsFolderName
  match clientsFolder with
  | none => .throw
  | some clientsFolder =>
    perform (.readBrowseName clientsFolder)
    let folder ← ensureClientFolder clientsFolder clientName telemetryNamespaceIndex
    perform (.setClientFolder folder)

/-- The node set of a key, from `device_nodes_` or by `ensureSnapshotNode`. -/
def deviceNodes (clientName : String) (clientFolder : NodeId) (deviceKey : String) : Code SnapshotNodeIds := do
  let it ← perform (.findDevice deviceKey)
  match it with
  | some ids => return ids
  | none =>
    perform (.mark (.ensures deviceKey))
    let ids ← ensureSnapshotNode clientFolder clientName deviceKey telemetryNamespaceIndex
    perform (.emplaceDevice deviceKey ids)
    return ids

/-- The body of the loop of `sendTelemetryPayload`, for `drained[i]` and `stores[i]`. -/
def sendSnapshot (clientName : String) (clientFolder : NodeId) (e : TelemetrySnapshot × TelemetryStore) : Code PUnit := do
  let ids ← deviceNodes clientName clientFolder e.1.name
  perform (.mark (.writes ids e.1))
  writeSnapshot ids e.2
  perform (.mark (.wrote ids e.1))

/-- `sendTelemetryPayload` -/
def sendTelemetryPayload (clientName : String) : Code Bool := do
  let clientFolder ← perform .clientFolder
  match clientFolder with
  | none => return false
  | some clientFolder =>
    let drained ← perform .drain
    if drained.isEmpty then
      perform (.mark .returned)
      return true
    else
      let stores := buildTelemetryPayload drained
      (drained.zip stores).forM (sendSnapshot clientName clientFolder)
      perform (.mark .returned)
      return true

end HardwareMonitor.SystemInfo
