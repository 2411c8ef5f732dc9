/-
  HardwareMonitor.OpcUa.AccessControl — `AccessControlCustom`: who may do what on the
  server.

  The plug-in keeps one table, `session_attributes_`, from session ids to attributes.
  Every member function is a function on that table here; `session` is `session.id()`,
  and the folder given to the constructor, which never changes, is a parameter. The
  certificate directory is an argument of each activation: it is read from disk every
  time. (`getUserExecutable` and the other stubs that return `false` outright, and the
  console output, are left out.)
-/

import HardwareMonitor.OpcUa.Types

namespace HardwareMonitor.OpcUa

/-! ## State -/

/-- `_ClientAttributes` -/
structure ClientAttributes where
  deviceName : String
  accessLvl : AccessLevel
  canBrowse : Bool
  canExecuteMethods : Bool
  canWriteHistory : Bool
  deviceFolderId : NodeId
  deriving DecidableEq, Repr

/-- The value-initialised entry `session_attributes_[id]` inserts where there is none. -/
def ClientAttributes.default : ClientAttributes :=
  { deviceName := "", accessLvl := AccessLevel.none, canBrowse := false, canExecuteMethods := false
    canWriteHistory := false, deviceFolderId := NodeId.null }

/-- `session_attributes_` -/
abbrev SessionAttributes := NodeId → Option ClientAttributes

namespace SessionAttributes

def empty : SessionAttributes := fun _ => none

/-- `session_attributes_[session] = attrs` -/
def set (t : SessionAttributes) (session : NodeId) (attrs : ClientAttributes) : SessionAttributes :=
  fun id => if id = session then some attrs else t id

/-- `session_attributes_[session]`, read: the entry, inserted if it was missing. -/
def subscript (t : SessionAttributes) (session : NodeId) : ClientAttributes × SessionAttributes :=
  match t session with
  | some attrs => (attrs, t)
  | none => (.default, t.set session .default)

@[simp] theorem set_same (t : SessionAttributes) (s : NodeId) (a : ClientAttributes) : t.set s a s = some a := if_pos rfl

theorem set_other (t : SessionAttributes) {s s' : NodeId} (a : ClientAttributes) (h : s' ≠ s) : t.set s a s' = t s' :=
  if_neg h

theorem subscript_fst (t : SessionAttributes) (s : NodeId) : (t.subscript s).1 = (t s).getD .default := by
  unfold subscript
  split <;> simp_all

theorem subscript_same (t : SessionAttributes) (s : NodeId) : (t.subscript s).2 s = some ((t s).getD .default) := by
  unfold subscript
  split <;> simp_all

theorem subscript_other (t : SessionAttributes) {s s' : NodeId} (h : s' ≠ s) : (t.subscript s).2 s' = t s' := by
  unfold subscript
  split
  · rfl
  · exact set_other t _ h

end SessionAttributes

/-! ## Activation -/

/-- One entry of `pki/devices`, and the file `<name>/<name>.crt` in it: whether that is
    a regular file, and its bytes if it can be opened. -/
structure DeviceEntry where
  filename : String
  isDirectory : Bool
  certIsRegularFile : Bool
  cert : Option ByteString
  deriving DecidableEq, Repr

/-- `pki/devices` at the time of an activation; an iteration that fails to start has no
    entries. -/
structure DevicesDir where
  isDirectory : Bool
  entries : List DeviceEntry
  deriving DecidableEq, Repr

/-- `X509IdentityToken` -/
structure X509IdentityToken where
  policyId : String
  certificateData : ByteString
  deriving DecidableEq, Repr

/-- What an `activateSession` call is given: the token is `none` where
    `decodedData<X509IdentityToken>()` is null. -/
structure Activation where
  devicesDir : DevicesDir
  secureChannelRemoteCertificate : ByteString
  userIdentityToken : Option X509IdentityToken
  deriving DecidableEq, Repr

def x509TokenPolicyId : String := "open62541-certificate-policy#Basic256Sha256"

/-- `parsePki`: the file's bytes, none of them if it cannot be opened. -/
def parsePki (file : Option ByteString) : ByteString := file.getD []

/-- The loop of `findTrustedDevice`, over the entries still to come. -/
def findTrustedEntry (usrTknCert secureChannelRemoteCertificate : ByteString) : List DeviceEntry → Option String
  | [] => none
  | deviceEntry :: entries =>
    let next := findTrustedEntry usrTknCert secureChannelRemoteCertificate entries
    if !deviceEntry.isDirectory then next
    else
      let deviceName := deviceEntry.filename
      if deviceName = "server" then next
      else if !deviceEntry.certIsRegularFile then next
      else
        let parsed := parsePki deviceEntry.cert
        if parsed.isEmpty then next
        else if usrTknCert = parsed ∧ parsed = secureChannelRemoteCertificate then some deviceName
        else next

/-- `findTrustedDevice` -/
def findTrustedDevice (devicesDir : DevicesDir) (usrTknCert secureChannelRemoteCertificate : ByteString) :
    Option String :=
  if !devicesDir.isDirectory then none
  else findTrustedEntry usrTknCert secureChannelRemoteCertificate devicesDir.entries

/-- `rejectSession` -/
def rejectSession (session : NodeId) (code : StatusCode) (t : SessionAttributes) : StatusCode × SessionAttributes :=
  (code, t.set session
    { deviceName := "Unsupported Device", accessLvl := AccessLevel.none, canBrowse := false, canExecuteMethods := false
      canWriteHistory := false, deviceFolderId := NodeId.null })

/-- The attributes of a session activated as `deviceName`. -/
def ClientAttributes.trusted (deviceName : String) : ClientAttributes :=
  { deviceName := deviceName, accessLvl := AccessLevel.readWrite, canBrowse := true, canExecuteMethods := true
    canWriteHistory := false, deviceFolderId := NodeId.null }

/-- `activateSession` -/
def activateSession (session : NodeId) (a : Activation) (t : SessionAttributes) : StatusCode × SessionAttributes :=
  match a.userIdentityToken with
  | none => rejectSession session statusBadIdentityTokenInvalid t
  | some decodedData =>
    if decodedData.policyId ≠ x509TokenPolicyId then rejectSession session statusBadIdentityTokenRejected t
    else
      match findTrustedDevice a.devicesDir decodedData.certificateData a.secureChannelRemoteCertificate with
      | none => rejectSession session statusBadCertificateUntrusted t
      | some matchedDevice => (statusGood, t.set session (.trusted matchedDevice))

/-- `closeSession`: "only needed if allocating per-session context somewhere". -/
def closeSession (_session : NodeId) (t : SessionAttributes) : SessionAttributes := t

/-! ## Queries -/

/-- `getUserRightsMask` -/
def getUserRightsMask (session : NodeId) (_nodeId : NodeId) (t : SessionAttributes) : WriteMask × SessionAttributes :=
  let (attrs, t) := t.subscript session
  if attrs.accessLvl = AccessLevel.readWrite then (WriteMask.valueForVariableType, t) else (WriteMask.none, t)

/-- `getUserAccessLevel` -/
def getUserAccessLevel (session : NodeId) (_nodeId : NodeId) (t : SessionAttributes) : AccessLevel × SessionAttributes :=
  let (attrs, t) := t.subscript session
  (attrs.accessLvl, t)

/-- `nodeIdBelongsToDevice` -/
def nodeIdBelongsToDevice (id : NodeId) (deviceName : String) : Bool :=
  match id.identifierIfString with
  | none => false
  | some idStr =>
    if idStr = deviceName then true
    else
      let dotted := deviceName ++ "."
      decide (idStr.length > dotted.length) && (idStr.toList.take dotted.length == dotted.toList)

/-- `allowAddNode` -/
def allowAddNode (telemetryClientsFolder session : NodeId) (item : AddNodesItem) (t : SessionAttributes) :
    Bool × SessionAttributes :=
  match t session with
  | none => (false, t)
  | some attrs =>
    if ¬ attrs.accessLvl = AccessLevel.readWrite then (false, t)
    else
      let parent := item.parentNodeId.nodeId
      let requested := item.requestedNewNodeId.nodeId
      if parent = telemetryClientsFolder then
        if !nodeIdBelongsToDevice requested attrs.deviceName then (false, t)
        else (true, t.set session { attrs with deviceFolderId := requested })
      else if parent = attrs.deviceFolderId ∨ nodeIdBelongsToDevice parent attrs.deviceName then
        (nodeIdBelongsToDevice requested attrs.deviceName, t)
      else (false, t)

/-- `allowAddReference` -/
def allowAddReference (telemetryClientsFolder session : NodeId) (item : AddReferencesItem) (t : SessionAttributes) : Bool :=
  match t session with
  | none => false
  | some attrs =>
    if ¬ attrs.accessLvl = AccessLevel.readWrite then false
    else
      let source := item.sourceNodeId
      let target := item.targetNodeId.nodeId
      let sourceOk := decide (source = attrs.deviceFolderId) || nodeIdBelongsToDevice source attrs.deviceName
      if item.referenceTypeId = hasTypeDefinition then sourceOk && decide (target.namespaceIndex = 0)
      else if !sourceOk then false
      -- the parent link: TelemetryClients itself, or the device's own subtree
      else if target = telemetryClientsFolder ∨ target = attrs.deviceFolderId ∨
          nodeIdBelongsToDevice target attrs.deviceName then true
      else if target.namespaceIndex = 0 then true
      else false

/-- `allowBrowseNode` -/
def allowBrowseNode (session : NodeId) (_nodeId : NodeId) (t : SessionAttributes) : Bool :=
  match t session with
  | none => false
  | some attrs => attrs.canBrowse

/-! ## Operations -/

/-- One call into the plug-in, without the session it is about. -/
inductive Operation where
  | activateSession (a : Activation)
  | closeSession
  | getUserRightsMask (nodeId : NodeId)
  | getUserAccessLevel (nodeId : NodeId)
  | allowAddNode (item : AddNodesItem)
  | allowAddReference (item : AddReferencesItem)
  | allowBrowseNode (nodeId : NodeId)
  deriving DecidableEq, Repr

inductive Reply where
  | status (code : StatusCode)
  | closed
  | rights (mask : WriteMask)
  | level (mask : AccessLevel)
  | verdict (allowed : Bool)
  deriving DecidableEq, Repr

/-- One call for one session: its reply, and the table after it. -/
def step (telemetryClientsFolder session : NodeId) : Operation → SessionAttributes → Reply × SessionAttributes
  | .activateSession a, t =>
    let (code, t) := activateSession session a t
    (.status code, t)
  | .closeSession, t => (.closed, closeSession session t)
  | .getUserRightsMask nodeId, t =>
    let (mask, t) := getUserRightsMask session nodeId t
    (.rights mask, t)
  | .getUserAccessLevel nodeId, t =>
    let (mask, t) := getUserAccessLevel session nodeId t
    (.level mask, t)
  | .allowAddNode item, t =>
    let (allowed, t) := allowAddNode telemetryClientsFolder session item t
    (.verdict allowed, t)
  | .allowAddReference item, t => (.verdict (allowAddReference telemetryClientsFolder session item t), t)
  | .allowBrowseNode nodeId, t => (.verdict (allowBrowseNode session nodeId t), t)

end HardwareMonitor.OpcUa
