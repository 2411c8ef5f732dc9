/-
  HardwareMonitor.ControlCenter.Discovery — `ControlCenterClient`: finding the devices
  in the server's tree, subscribing to their sensors, and turning updates into rows.

  Every request to the server may throw, and the tree may change between two requests,
  so `Remote` answers requests by their date: the number of requests made before. What
  the client has stored when a request throws stays stored.
-/

import HardwareMonitor.OpcUa.Types

namespace HardwareMonitor.ControlCenter

open HardwareMonitor.OpcUa

/-! ## Values -/

/-- `SensorDto`; `value` is the bit pattern of the `float`. -/
structure SensorDto where
  name : String
  value : UInt32
  unit : String
  sensorType : String
  deriving DecidableEq, Repr

/-- `UA_ExtensionObject`, by its encoding; a decoded one may have no data. -/
inductive ExtensionObject where
  | decoded (data : Option SensorDto)
  | decodedNoDelete (data : Option SensorDto)
  | encodedByteString (body : ByteString)
  | otherwise
  deriving DecidableEq, Repr

/-- The value of a variable node, as far as the client tells values apart. -/
inductive Variant where
  | empty
  | string (s : String)
  | sensorDtos (array : List SensorDto)
  | extensionObjects (array : List ExtensionObject)
  deriving DecidableEq, Repr

structure DecodedSensor where
  name : String
  value : UInt32
  unit : String
  sensorType : String
  deriving DecidableEq, Repr

/-- `DecodedDevice`, whose `sensors` nothing fills or reads. -/
structure DecodedDevice where
  name : String
  vendor : String
  hardwareType : String
  deriving DecidableEq, Repr

def extractSensor (raw : SensorDto) : DecodedSensor := ⟨raw.name, raw.value, raw.unit, raw.sensorType⟩

/-- `decodeSensorDtos`; `decodeBinary` is `UA_decodeBinary` at the type of `SensorDto`. A
    string is a scalar, whose array length is 0. -/
def decodeSensorDtos (decodeBinary : ByteString → Option SensorDto) : Variant → List DecodedSensor
  | .empty => []
  | .string _ => []
  | .sensorDtos array => array.map extractSensor
  | .extensionObjects array => array.filterMap fun ext =>
      match ext with
      | .decoded data => data.map extractSensor
      | .decodedNoDelete data => data.map extractSensor
      | .encodedByteString body => (decodeBinary body).map extractSensor
      | .otherwise => none

/-- The string `readStringNode` makes of a value. (The memory of an array is not that of
    a `UA_String`; the model reads nothing there.) -/
def stringOfValue : Variant → String
  | .string s => s
  | _ => ""

/-! ## The client -/

structure SnapshotNodeIds where
  object : NodeId
  name : NodeId
  vendor : NodeId
  hardwareType : NodeId
  sensors : NodeId
  deriving DecidableEq, Repr

structure DeviceCache where
  clientFolderName : String
  info : DecodedDevice
  deriving DecidableEq, Repr

/-- A monitored item: the variable, and the key its callback captured. -/
structure MonitoredItem where
  nodeId : NodeId
  deviceNodeId : String
  deriving DecidableEq, Repr

structure Client where
  /-- The requests made to the server so far. -/
  requests : Nat
  /-- `device_cache_` -/
  deviceCache : String → Option DeviceCache
  /-- The items of `subscription_`, the newest last. -/
  monitoredItems : List MonitoredItem

def Client.start : Client := ⟨0, fun _ => none, []⟩

/-- The server as the client's requests meet it; `none` where a request throws. -/
structure Remote where
  browseChild : Nat → NodeId → QualifiedName → Option NodeId
  browseChildren : Nat → NodeId → Option (List NodeId)
  readBrowseName : Nat → NodeId → Option QualifiedName
  readValue : Nat → NodeId → Option Variant
  createMonitoredItem : Nat → NodeId → Option Unit

/-- The client's code: it changes the client, and throws where a request does. -/
abbrev Task (α : Type) := EStateM Unit Client α

/-- One request. -/
def request {α : Type} (answer : Nat → Option α) : Task α := fun cc =>
  match answer cc.requests with
  | some a => .ok a { cc with requests := cc.requests + 1 }
  | none => .error () { cc with requests := cc.requests + 1 }

variable (remote : Remote) (nodeIdToString : NodeId → String)

/-- `readStringNode` -/
def readStringNode (id : NodeId) : Task String := do
  let val ← request fun date => remote.readValue date id
  return stringOfValue val

/-- `readDeviceInfo` -/
def readDeviceInfo (ids : SnapshotNodeIds) : Task DecodedDevice := do
  let name ← readStringNode remote ids.name
  let vendor ← readStringNode remote ids.vendor
  let hardwareType ← readStringNode remote ids.hardwareType
  return { name := name, vendor := vendor, hardwareType := hardwareType }

/-- The locals of the loop over a device's children. -/
structure Found where
  ids : SnapshotNodeIds
  sensorsNode : NodeId
  foundSensors : Bool

/-- Before the loop: `ids.object` set, everything else null. -/
def Found.start (deviceNode : NodeId) : Found :=
  { ids := ⟨deviceNode, NodeId.null, NodeId.null, NodeId.null, NodeId.null⟩
    sensorsNode := ⟨0, .numeric 0⟩
    foundSensors := false }

/-- The chain of `if`s over a child's BrowseName. -/
def Found.note (found : Found) (child : NodeId) (childName : String) : Found :=
  if childName = "name" then { found with ids := { found.ids with name := child } }
  else if childName = "vendor" then { found with ids := { found.ids with vendor := child } }
  else if childName = "hardware_type" then { found with ids := { found.ids with hardwareType := child } }
  else if childName = "sensors" then
    { ids := { found.ids with sensors := child }, sensorsNode := child, foundSensors := true }
  else found

/-- One turn of the loop over a device's children. -/
def noteChild (found : Found) (child : NodeId) : Task Found := do
  let childName ← request fun date => remote.readBrowseName date child
  return found.note child childName.name

/-- `device_cache_[device_node_id] = cache` -/
def Client.setCache (cc : Client) (deviceNodeId : String) (cache : DeviceCache) : Client :=
  { cc with deviceCache := fun key => if key = deviceNodeId then some cache else cc.deviceCache key }

/-- A key that is not cached is nobody else's, so caching it changes no entry. -/
theorem setCache_keeps {cc : Client} {deviceNodeId key : String} {entry : DeviceCache}
    (hnew : cc.deviceCache deviceNodeId = none) (cache : DeviceCache) (h : cc.deviceCache key = some entry) :
    (cc.setCache deviceNodeId cache).deviceCache key = some entry := by
  have hne : key ≠ deviceNodeId := by
    intro e
    rw [e, hnew] at h
    cases h
  simp only [Client.setCache, if_neg hne, h]

/-- `subscribeDataChange`, with a callback for `deviceNodeId`. -/
def subscribeDataChange (nodeId : NodeId) (deviceNodeId : String) : Task Unit := do
  request fun date => remote.createMonitoredItem date nodeId
  modify fun cc => { cc with monitoredItems := cc.monitoredItems ++ [⟨nodeId, deviceNodeId⟩] }

/-- The body of the loop over the device nodes of a client folder. -/
def visitDevice (clientFolderName : String) (deviceNode : NodeId) : Task Unit := do
  let deviceNodeId := nodeIdToString deviceNode
  let cc ← get
  if (cc.deviceCache deviceNodeId).isSome then
    return ()
  else
    let children ← request fun date => remote.browseChildren date deviceNode
    let found ← children.foldlM (noteChild remote) (Found.start deviceNode)
    if !found.foundSensors then
      return ()
    else
      let info ← readDeviceInfo remote found.ids
      modify fun cc => cc.setCache deviceNodeId { clientFolderName := clientFolderName, info := info }
      subscribeDataChange remote found.sensorsNode deviceNodeId

/-- The body of the loop over the client folders. -/
def visitClientFolder (clientFolder : NodeId) : Task Unit := do
  let clientFolderName ← request fun date => remote.readBrowseName date clientFolder
  let deviceNodes ← request fun date => remote.browseChildren date clientFolder
  deviceNodes.forM (visitDevice remote nodeIdToString clientFolderName.name)

/-- `discoverAndSubscribe` -/
def discoverAndSubscribe : Task Unit := do
  let clientsFolder ← request fun date =>
    remote.browseChild date objectsFolder ⟨telemetryNamespaceIndex, telemetryClientsFolderName⟩
  if clientsFolder.isNull then
    return ()
  else
    let clientFolders ← request fun date => remote.browseChildren date clientsFolder
    clientFolders.forM (visitClientFolder remote nodeIdToString)

/-- The client after one more discovery, whether it returned or threw. -/
def poll (cc : Client) : Client :=
  match discoverAndSubscribe remote nodeIdToString cc with
  | .ok _ cc' => cc'
  | .error _ cc' => cc'

/-- The client after `n` discoveries. -/
def afterPolls : Nat → Client
  | 0 => .start
  | n + 1 => poll remote nodeIdToString (afterPolls n)

/-! ## Updates -/

structure ClientRow where
  fields : List (String × String)
  deriving DecidableEq, Repr

/-- One call of the sink: `sink_(client_folder_name, device_key, row)`. -/
structure SinkCall where
  clientFolderName : String
  deviceKey : String
  row : ClientRow
  deriving DecidableEq, Repr

/-- `handleSensorUpdate`: the sink call it makes, if it makes one. `formatValue` is
    `snprintf(buf, sizeof(buf), "%.1f", value)`. -/
def handleSensorUpdate (decodeBinary : ByteString → Option SensorDto) (formatValue : UInt32 → String) (cc : Client)
    (deviceNodeId : String) (value : Variant) : Option SinkCall :=
  match cc.deviceCache deviceNodeId with
  | none => none
  | some cache =>
    let sensors := decodeSensorDtos decodeBinary value
    let heading := (cache.info.name ++ " (" ++ cache.info.hardwareType ++ ")", "")
    let fields := sensors.map fun sensor =>
      ("  " ++ sensor.name,
        if sensor.unit ≠ "" then formatValue sensor.value ++ " " ++ sensor.unit else formatValue sensor.value)
    some { clientFolderName := cache.clientFolderName, deviceKey := cache.info.hardwareType, row := ⟨heading :: fields⟩ }

end HardwareMonitor.ControlCenter
