/-
  HardwareMonitor.OpcUa.Types — the OPC UA values the server, its clients and the
  control center exchange, and the layout of the published tree
  (`shared_opc_ua_layout.h`).

  A `std::string` is a Lean `String`, one character for each `char`; a `ByteString` is
  the list of its bytes. A request item has the fields the repository reads.
-/

namespace HardwareMonitor.OpcUa

abbrev ByteString := List UInt8

/-! ## Node ids -/

inductive Identifier where
  | numeric (n : UInt32)
  | string (s : String)
  | guid (g : BitVec 128)
  | byteString (b : ByteString)
  deriving DecidableEq, Repr

structure NodeId where
  namespaceIndex : UInt16
  identifier : Identifier
  deriving DecidableEq, Repr

/-- `opcua::NodeId{}` -/
def NodeId.null : NodeId := ⟨0, .numeric 0⟩

/-- `NodeId::isNull`: namespace 0 and an identifier that is zero or empty. -/
def NodeId.isNull (id : NodeId) : Bool :=
  id.namespaceIndex == 0 &&
    match id.identifier with
    | .numeric n => n == 0
    | .string s => s == ""
    | .guid g => g == 0
    | .byteString b => b.isEmpty

/-- `NodeId::identifierIf<opcua::String>` -/
def NodeId.identifierIfString (id : NodeId) : Option String :=
  match id.identifier with
  | .string s => some s
  | _ => none

structure ExpandedNodeId where
  nodeId : NodeId
  namespaceUri : String
  serverIndex : UInt32
  deriving DecidableEq, Repr

/-- A node of the server itself. -/
def NodeId.expanded (id : NodeId) : ExpandedNodeId := ⟨id, "", 0⟩

structure QualifiedName where
  namespaceIndex : UInt16
  name : String
  deriving DecidableEq, Repr

/-- `NodeId(ReferenceTypeId::HasTypeDefinition)` -/
def hasTypeDefinition : NodeId := ⟨0, .numeric 40⟩

/-- `NodeId(ObjectId::ObjectsFolder)` -/
def objectsFolder : NodeId := ⟨0, .numeric 85⟩

/-! ## Request items -/

structure AddNodesItem where
  parentNodeId : ExpandedNodeId
  requestedNewNodeId : ExpandedNodeId
  browseName : QualifiedName
  deriving DecidableEq, Repr

structure AddReferencesItem where
  sourceNodeId : NodeId
  referenceTypeId : NodeId
  targetNodeId : ExpandedNodeId
  deriving DecidableEq, Repr

/-! ## Masks and status codes -/

/-- `Bitmask<AccessLevel>` -/
abbrev AccessLevel := UInt8

def AccessLevel.none : AccessLevel := 0
def AccessLevel.currentRead : AccessLevel := 1
def AccessLevel.currentWrite : AccessLevel := 2

/-- `CurrentRead | CurrentWrite` -/
def AccessLevel.readWrite : AccessLevel := AccessLevel.currentRead ||| AccessLevel.currentWrite

/-- `Bitmask<WriteMask>` -/
abbrev WriteMask := UInt32

def WriteMask.none : WriteMask := 0
def WriteMask.valueForVariableType : WriteMask := (1 : UInt32) <<< 21

abbrev StatusCode := UInt32

def statusGood : StatusCode := 0
def statusBadCertificateUntrusted : StatusCode := 0x801A0000
def statusBadIdentityTokenInvalid : StatusCode := 0x80200000
def statusBadIdentityTokenRejected : StatusCode := 0x80210000

/-! ## The layout of the published tree -/

def telemetryNamespaceIndex : UInt16 := 1

def telemetryClientsFolderName : String := "TelemetryClients"

/-- `ObjectsFolder/TelemetryClients/<device_name>` -/
def clientFolderId (deviceName : String) : String := deviceName

/-- `…/<device_name>/<device_key>` -/
def snapshotObjectId (deviceName deviceKey : String) : String := deviceName ++ "." ++ deviceKey

/-- `…/<device_name>/<device_key>/<field>` -/
def snapshotFieldId (deviceName deviceKey field : String) : String := deviceName ++ "." ++ deviceKey ++ "." ++ field

/-- The folder the server creates at start (`createTelemetryClientsFolder`). -/
def telemetryClientsFolderId : NodeId := ⟨telemetryNamespaceIndex, .string telemetryClientsFolderName⟩

end HardwareMonitor.OpcUa
