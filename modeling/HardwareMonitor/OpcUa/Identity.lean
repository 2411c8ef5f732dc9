/-
  HardwareMonitor.OpcUa.Identity — what the server and its clients read of `pki/` when they
  start (`getServerConfigAttributes`, `getClientConfigAttributes`), and what their
  constructors make of it.

  The server goes through the devices directory twice in its life: once here, for the
  certificates the channel trusts, and once in every activation, for the device a session
  acts as. Both passes skip the same entries, so on one directory they agree: a certificate
  is trusted exactly if it is some device's (`trust_list_agrees`).

  The security library is a parameter: what it parses.
-/

import HardwareMonitor.OpcUa.TrustedDevices

namespace HardwareMonitor.OpcUa

/-! ## Files -/

/-- The files of `pki/` that are read: `ca/ca.crt`, `devices/<name>/<name>.crt` and
    `devices/<name>/<name>.key`. -/
inductive PkiFile where
  | caCert
  | deviceCert (name : String)
  | deviceKey (name : String)
  deriving DecidableEq, Repr

/-- `pki/`, with the bytes of every file that can be opened. -/
structure PkiDisk where
  bytes : PkiFile → Option ByteString
  devicesDir : DevicesDir
  /-- An entry's certificate is the file of that name. -/
  entryCert : ∀ e ∈ devicesDir.entries, e.cert = bytes (.deviceCert e.filename)
  noEntries : devicesDir.isDirectory = false → devicesDir.entries = []

inductive PkiError where
  /-- "Failed to open PKI file: ..." -/
  | cannotOpen (file : PkiFile)
  /-- "PKI file is empty or unreadable: ..." -/
  | empty (file : PkiFile)
  deriving DecidableEq, Repr

def PkiDisk.readBytesFromFile (disk : PkiDisk) (file : PkiFile) : Except PkiError ByteString :=
  match disk.bytes file with
  | none => .error (.cannotOpen file)
  | some bytes => if bytes = [] then .error (.empty file) else .ok bytes

/-! ## Attributes -/

/-- `ServerConfigAttributes`; the revocation list is always empty. -/
structure ServerConfigAttributes where
  certificate : ByteString
  privateKey : ByteString
  trustList : List ByteString
  issuerList : List ByteString
  deriving DecidableEq, Repr

/-- The body of the loop over the devices directory: what it adds to the trust list. -/
def PkiDisk.trustListEntry (disk : PkiDisk) (deviceEntry : DeviceEntry) : Option ByteString :=
  if !deviceEntry.isDirectory then none
  else if deviceEntry.filename = "server" then none
  else if !deviceEntry.certIsRegularFile then none
  else
    match disk.readBytesFromFile (.deviceCert deviceEntry.filename) with
    | .ok cert => some cert
    -- one bad device certificate is logged and skipped
    | .error _ => none

def PkiDisk.getServerConfigAttributes (disk : PkiDisk) : Except PkiError ServerConfigAttributes := do
  let certificate ← disk.readBytesFromFile (.deviceCert "server")
  let privateKey ← disk.readBytesFromFile (.deviceKey "server")
  let caCert ← disk.readBytesFromFile .caCert
  return {
    certificate := certificate
    privateKey := privateKey
    trustList := disk.devicesDir.entries.filterMap disk.trustListEntry
    issuerList := [caCert] }

structure ClientConfigAttributes where
  certificate : ByteString
  privateKey : ByteString
  trustList : List ByteString
  issuerList : List ByteString
  deriving DecidableEq, Repr

/-- A certificate that cannot be read is skipped. -/
def PkiDisk.readOrSkip (disk : PkiDisk) (file : PkiFile) : List ByteString :=
  match disk.readBytesFromFile file with
  | .ok bytes => [bytes]
  | .error _ => []

def PkiDisk.getClientConfigAttributes (disk : PkiDisk) (clientName : String) : Except PkiError ClientConfigAttributes := do
  let certificate ← disk.readBytesFromFile (.deviceCert clientName)
  let privateKey ← disk.readBytesFromFile (.deviceKey clientName)
  return {
    certificate := certificate
    privateKey := privateKey
    trustList := disk.readOrSkip (.deviceCert "server")
    issuerList := disk.readOrSkip .caCert }

/-! ## Constructors -/

/-- What the security library takes: a list of certificates if it parses each of them, and
    an identity if it parses both its parts. -/
structure SecurityLibrary where
  parsesCertificate : ByteString → Bool
  parsesKey : ByteString → Bool

/-- `UA_CertificateVerification_Trustlist` -/
def SecurityLibrary.takesTrustList (lib : SecurityLibrary) (trustList issuerList : List ByteString) : Bool :=
  (trustList ++ issuerList).all lib.parsesCertificate

/-- The security policy, made of the process's own certificate and key. -/
def SecurityLibrary.takesIdentity (lib : SecurityLibrary) (certificate privateKey : ByteString) : Bool :=
  lib.parsesCertificate certificate && lib.parsesKey privateKey

inductive StartError where
  | pki (e : PkiError)
  | badStatus
  /-- "SERVER_IP is not set" -/
  | serverIpNotSet
  deriving DecidableEq, Repr

inductive Started (α : Type) where
  | running (a : α)
  | threw (e : StartError)
  | undefined
  deriving DecidableEq, Repr

def endpointUrl (serverIp : String) : String := "opc.tcp://" ++ serverIp ++ ":4840"

/-- `configureApplicationDescription`: the ApplicationUri. -/
def applicationUri (name : String) : String := "urn:myorg:telemetry:" ++ name

/-- What `SystemInfoServer` has configured. -/
structure ServerConfig where
  attrs : ServerConfigAttributes
  endpointUrl : String
  applicationUri : String
  deriving DecidableEq, Repr

/-- `SystemInfoServer::SystemInfoServer`, up to the address space; `serverIp` is the
    environment's SERVER_IP. -/
def systemInfoServer (lib : SecurityLibrary) (disk : PkiDisk) (serverIp : Option String) : Started ServerConfig :=
  match disk.getServerConfigAttributes with
  | .error e => .threw (.pki e)
  | .ok attrs =>
    if !lib.takesTrustList attrs.trustList attrs.issuerList then .threw .badStatus
    else if !lib.takesIdentity attrs.certificate attrs.privateKey then .threw .badStatus
    else
      match serverIp with
      -- a `std::string` of a null pointer
      | none => .undefined
      | some ip => .running ⟨attrs, endpointUrl ip, applicationUri "server"⟩

/-- What `CustomClient` has configured: the endpoint pins the server's certificate. -/
structure ClientConfig where
  attrs : ClientConfigAttributes
  endpointUrl : String
  serverCertificate : ByteString
  applicationUri : String
  deriving DecidableEq, Repr

/-- `CustomClient::CustomClient` -/
def customClient (lib : SecurityLibrary) (disk : PkiDisk) (clientName : String) (serverIp : Option String) :
    Started ClientConfig :=
  match disk.getClientConfigAttributes clientName with
  | .error e => .threw (.pki e)
  | .ok attrs =>
    if !lib.takesTrustList attrs.trustList attrs.issuerList then .threw .badStatus
    else if !lib.takesIdentity attrs.certificate attrs.privateKey then .threw .badStatus
    else
      match serverIp with
      | none => .threw .serverIpNotSet
      | some ip =>
        match attrs.trustList with
        -- `trust_list[0]` of an empty array
        | [] => .undefined
        | serverCertificate :: _ => .running ⟨attrs, endpointUrl ip, serverCertificate, applicationUri clientName⟩

/-- The activation of the client's session: the certificate of its channel is also the one
    of its token, whose policy id is taken from the server's endpoint. -/
def ClientConfig.activation (config : ClientConfig) (devicesDir : DevicesDir) : Activation where
  devicesDir := devicesDir
  secureChannelRemoteCertificate := config.attrs.certificate
  userIdentityToken := some ⟨x509TokenPolicyId, config.attrs.certificate⟩

/-! ## Reading -/

variable {disk : PkiDisk}

theorem readBytesFromFile_ok {file : PkiFile} {bytes : ByteString} :
    disk.readBytesFromFile file = .ok bytes ↔ disk.bytes file = some bytes ∧ bytes ≠ [] := by
  unfold PkiDisk.readBytesFromFile
  cases disk.bytes file with
  | none => simp
  | some found =>
    by_cases hempty : found = []
    · simp only [hempty, if_true, Option.some.injEq, reduceCtorEq, false_iff, not_and, not_not]
      exact fun h => h.symm
    · simp only [hempty, if_false, Except.ok.injEq, Option.some.injEq]
      constructor
      · intro h
        subst h
        exact ⟨rfl, hempty⟩
      · exact fun h => h.1

/-- The server is configured exactly if its three files can be read. -/
theorem getServerConfigAttributes_ok {attrs : ServerConfigAttributes} :
    disk.getServerConfigAttributes = .ok attrs ↔
      disk.readBytesFromFile (.deviceCert "server") = .ok attrs.certificate ∧
        disk.readBytesFromFile (.deviceKey "server") = .ok attrs.privateKey ∧
        (∃ caCert, disk.readBytesFromFile .caCert = .ok caCert ∧ attrs.issuerList = [caCert]) ∧
        attrs.trustList = disk.devicesDir.entries.filterMap disk.trustListEntry := by
  obtain ⟨certificate, privateKey, trustList, issuerList⟩ := attrs
  unfold PkiDisk.getServerConfigAttributes
  cases disk.readBytesFromFile (.deviceCert "server") with
  | error e => simp [bind, Except.bind]
  | ok cert =>
    cases disk.readBytesFromFile (.deviceKey "server") with
    | error e => simp [bind, Except.bind]
    | ok key =>
      cases disk.readBytesFromFile .caCert with
      | error e => simp [bind, Except.bind]
      | ok ca =>
        simp only [bind, Except.bind, pure, Except.pure, Except.ok.injEq, ServerConfigAttributes.mk.injEq, exists_eq_left']
        constructor
        · rintro ⟨rfl, rfl, rfl, rfl⟩
          exact ⟨rfl, rfl, rfl, rfl⟩
        · rintro ⟨rfl, rfl, rfl, rfl⟩
          exact ⟨rfl, rfl, rfl, rfl⟩

theorem getClientConfigAttributes_ok {clientName : String} {attrs : ClientConfigAttributes} :
    disk.getClientConfigAttributes clientName = .ok attrs ↔
      disk.readBytesFromFile (.deviceCert clientName) = .ok attrs.certificate ∧
        disk.readBytesFromFile (.deviceKey clientName) = .ok attrs.privateKey ∧
        attrs.trustList = disk.readOrSkip (.deviceCert "server") ∧ attrs.issuerList = disk.readOrSkip .caCert := by
  obtain ⟨certificate, privateKey, trustList, issuerList⟩ := attrs
  unfold PkiDisk.getClientConfigAttributes
  cases disk.readBytesFromFile (.deviceCert clientName) with
  | error e => simp [bind, Except.bind]
  | ok cert =>
    cases disk.readBytesFromFile (.deviceKey clientName) with
    | error e => simp [bind, Except.bind]
    | ok key =>
      simp only [bind, Except.bind, pure, Except.pure, Except.ok.injEq, ClientConfigAttributes.mk.injEq]
      constructor
      · rintro ⟨rfl, rfl, rfl, rfl⟩
        exact ⟨rfl, rfl, rfl, rfl⟩
      · rintro ⟨rfl, rfl, rfl, rfl⟩
        exact ⟨rfl, rfl, rfl, rfl⟩

/-! ## The two passes over the devices directory -/

/-- An entry goes into the trust list as the certificate it stands for in an activation. -/
theorem trustListEntry_eq {e : DeviceEntry} (he : e ∈ disk.devicesDir.entries) : disk.trustListEntry e = e.stored := by
  unfold PkiDisk.trustListEntry DeviceEntry.stored
  by_cases hdir : e.isDirectory = true
  case neg => simp [hdir]
  by_cases hserver : e.filename = "server"
  case pos => simp [hserver]
  by_cases hregular : e.certIsRegularFile = true
  case neg => simp [hregular]
  simp only [hdir, hserver, hregular, Bool.not_true, Bool.false_eq_true, if_false, ne_eq, not_false_eq_true, and_self, if_true]
  rw [disk.entryCert e he, PkiDisk.readBytesFromFile]
  cases disk.bytes (.deviceCert e.filename) with
  | none => rfl
  | some bytes =>
    by_cases hempty : bytes = []
    · simp [Option.filter, hempty]
    · simp [Option.filter, hempty]

theorem trustList_eq (disk : PkiDisk) :
    disk.devicesDir.entries.filterMap disk.trustListEntry = disk.devicesDir.entries.filterMap DeviceEntry.stored := by
  apply List.filterMap_congr
  intro e he
  exact trustListEntry_eq he

/-- A certificate some device stores is one that the search finds a device for. -/
theorem mem_stored_iff (disk : PkiDisk) (cert : ByteString) :
    cert ∈ disk.devicesDir.entries.filterMap DeviceEntry.stored ↔ ∃ d, findTrustedDevice disk.devicesDir cert cert = some d := by
  rw [(found_iff_stored disk.devicesDir cert cert).1, List.mem_filterMap]
  constructor
  · intro h
    obtain ⟨e, he, hs⟩ := h
    refine ⟨?_, e, he, hs, rfl⟩
    cases hdir : disk.devicesDir.isDirectory with
    | true => rfl
    | false =>
      rw [disk.noEntries hdir] at he
      cases he
  · intro h
    obtain ⟨-, e, he, hs, -⟩ := h
    exact ⟨e, he, hs⟩

/-- Whatever the directory holds: a server that can read its own certificate and key and
    the CA's has a trust list, and otherwise there is none; and a certificate is in it
    exactly if an activation that presents it on the same directory is some device's. -/
theorem trust_list_agrees (disk : PkiDisk) :
    ((∃ attrs, disk.getServerConfigAttributes = .ok attrs) ↔
      ∀ file ∈ [PkiFile.deviceCert "server", .deviceKey "server", .caCert], ∃ bytes, disk.bytes file = some bytes ∧ bytes ≠ []) ∧
    ∀ attrs, disk.getServerConfigAttributes = .ok attrs → ∀ cert, cert ∈ attrs.trustList ↔
      ∃ d, Activation.device ⟨disk.devicesDir, cert, some ⟨x509TokenPolicyId, cert⟩⟩ = some d := by
  constructor
  · simp only [List.forall_mem_cons, List.not_mem_nil, false_imp_iff, implies_true, and_true, ← readBytesFromFile_ok]
    constructor
    · intro h
      obtain ⟨attrs, hattrs⟩ := h
      obtain ⟨hcert, hkey, ⟨ca, hca, -⟩, -⟩ := getServerConfigAttributes_ok.mp hattrs
      exact ⟨⟨_, hcert⟩, ⟨_, hkey⟩, ⟨ca, hca⟩⟩
    · intro h
      obtain ⟨⟨cert, hcert⟩, ⟨key, hkey⟩, ⟨ca, hca⟩⟩ := h
      exact ⟨⟨cert, key, _, [ca]⟩, getServerConfigAttributes_ok.mpr ⟨hcert, hkey, ⟨ca, hca, rfl⟩, rfl⟩⟩
  · intro attrs hattrs cert
    have htrust : attrs.trustList = _ := (getServerConfigAttributes_ok.mp hattrs).2.2.2
    rw [htrust, trustList_eq, mem_stored_iff]
    simp only [Activation.device, ne_eq, not_true_eq_false, if_false]

end HardwareMonitor.OpcUa
