/-
  HardwareMonitor.OpcUa.Provisioning — what the parties make of a `pki/` that `gen_pki.py`
  has made: the runs of its commands, with the bytes of the files behind them, and over
  those the server, its clients and the activations of their sessions.

  Proved of every run of commands, whatever openssl does in them and however the directory
  is listed:
  - `trust_lags_acceptance`: the server trusts the certificates that were there when it
    started, and an activation accepts those that are there now. What is trusted stays
    accepted, under one name.
  - `provisioned_parties_agree`: once the server and a device are created, the client of
    the device is configured, and the server is unless another device's creation left a
    certificate that is none. They agree on each other, and the activation is accepted.
-/

import HardwareMonitor.OpcUa.Identity
import HardwareMonitor.OpcUa.Sessions
import HardwareMonitor.Scripts.GenPki

namespace HardwareMonitor.Scripts.GenPki

/-! ## What a run of commands keeps -/

variable {ipOk : String → Bool}

/-- The certificate of the device is there. -/
def Certified (ipOk : String → Bool) (events : List Event) (name : String) : Prop :=
  ∃ dir, (after ipOk events).devices name = some dir ∧ dir.crt = .whole

/-- One of the commands has created the device. -/
def Created (ipOk : String → Bool) (events : List Event) (name : String) : Prop :=
  ∃ before ipAddrs openssl rest, events = before ++ ⟨.addDevice name ipAddrs, openssl⟩ :: rest ∧
    (addDevice ipOk name ipAddrs openssl (after ipOk before)).1 = .created

/-- What every command keeps, a run keeps. -/
theorem after_keeps {P : Pki → Prop} (hexec : ∀ (e : Event) pki, P pki → P (e.exec ipOk pki).2) {before : List Event}
    (h : P (after ipOk before)) (later : List Event) : P (after ipOk (before ++ later)) := by
  induction later using List.reverseRecOn with
  | nil => rwa [List.append_nil]
  | append_singleton later e ih =>
    rw [← List.append_assoc, after_concat]
    exact hexec e _ ih

/-- No command touches a device directory that is there. -/
theorem exec_keeps_device (e : Event) {pki : Pki} {name : String} {dir : DeviceDir} (h : pki.devices name = some dir) :
    (e.exec ipOk pki).2.devices name = some dir := by
  obtain ⟨command, openssl⟩ := e
  cases command with
  | initCa =>
    by_cases hkey : pki.caKey = .absent
    · show (initCa false openssl pki).2.devices name = _
      rw [initCa_proceeds hkey]
      split <;> exact h
    · show (initCa false openssl pki).2.devices name = _
      rw [initCa_exists hkey]
      exact h
  | addDevice other ipAddrs =>
    show (addDevice ipOk other ipAddrs openssl pki).2.devices name = _
    by_cases hproceeds : (Command.addDevice other ipAddrs).Proceeds ipOk pki
    · have hother : name ≠ other := by
        intro heq
        rw [heq, hproceeds.2.2.1] at h
        cases h
      rw [addDevice_proceeds hproceeds]
      exact (Function.update_of_ne hother _ _).trans h
    · rw [(addDevice_refused hproceeds).2]
      exact h

/-- No command touches a CA that has its key. -/
theorem exec_keeps_ca (e : Event) {pki : Pki} (h : pki.caKey ≠ .absent) :
    (e.exec ipOk pki).2.caKey = pki.caKey ∧ (e.exec ipOk pki).2.caCert = pki.caCert := by
  obtain ⟨command, openssl⟩ := e
  cases command with
  | initCa =>
    show (initCa false openssl pki).2.caKey = _ ∧ (initCa false openssl pki).2.caCert = _
    rw [initCa_exists h]
    exact ⟨rfl, rfl⟩
  | addDevice name ipAddrs => exact addDevice_ca ipOk openssl name ipAddrs pki

theorem certified_append {before : List Event} {name : String} (h : Certified ipOk before name) (later : List Event) :
    Certified ipOk (before ++ later) name := by
  obtain ⟨dir, hdir, hcrt⟩ := h
  exact ⟨dir, after_keeps (P := fun pki => pki.devices name = some dir) (fun e _ => exec_keeps_device e) hdir later, hcrt⟩

/-- A device whose last line is printed has its two files, from a CA that has both of its own. -/
theorem makeDevice_created {openssl : Openssl} {pki : Pki} (h : (makeDevice openssl pki).1 = .created) :
    pki.caKey = .whole ∧ pki.caCert = .whole ∧ (makeDevice openssl pki).2.key = .whole ∧
      (makeDevice openssl pki).2.crt = .whole := by
  have hworking : openssl = .working := by
    by_contra hfails
    rw [makeDevice_fails hfails] at h
    cases h
  subst hworking
  by_cases hca : pki.caCert = .whole ∧ pki.caKey = .whole
  · simp [makeDevice, runStep, Openssl.working, hca]
  · simp [makeDevice, runStep, Openssl.working, hca] at h

theorem addDevice_created {name : String} {ipAddrs : List String} {openssl : Openssl} {pki : Pki}
    (h : (addDevice ipOk name ipAddrs openssl pki).1 = .created) :
    pki.caKey = .whole ∧ pki.caCert = .whole ∧
      ∃ dir, (addDevice ipOk name ipAddrs openssl pki).2.devices name = some dir ∧ dir.key = .whole ∧ dir.crt = .whole := by
  by_cases hproceeds : (Command.addDevice name ipAddrs).Proceeds ipOk pki
  · rw [addDevice_proceeds hproceeds] at h ⊢
    obtain ⟨hkey, hcert, hfiles⟩ := makeDevice_created h
    exact ⟨hkey, hcert, _, Function.update_self name _ _, hfiles⟩
  · rw [addDevice] at h
    split at h
    · cases h
    · split at h
      · cases h
      · split at h
        · cases h
        · rename_i hca hnew hips
          refine absurd ⟨?_, ?_, ?_, ?_⟩ hproceeds
          all_goals simp_all

/-- What a created device keeps for the rest of the run. -/
theorem created_files {events : List Event} {name : String} (h : Created ipOk events name) :
    (after ipOk events).caCert = .whole ∧
      ∃ dir, (after ipOk events).devices name = some dir ∧ dir.key = .whole ∧ dir.crt = .whole := by
  obtain ⟨before, ipAddrs, openssl, rest, rfl, hcreated⟩ := h
  obtain ⟨hkey, hcert, dir, hdir, hfiles⟩ := addDevice_created hcreated
  have hthen : after ipOk (before ++ [⟨.addDevice name ipAddrs, openssl⟩]) =
      (addDevice ipOk name ipAddrs openssl (after ipOk before)).2 := after_concat before _
  have hca := addDevice_ca ipOk openssl name ipAddrs (after ipOk before)
  rw [List.append_cons]
  constructor
  · refine (after_keeps (P := fun pki => pki.caKey = .whole ∧ pki.caCert = .whole) ?_ ?_ rest).2
    · intro e pki hpki
      have hkept : (e.exec ipOk pki).2.caKey = pki.caKey ∧ (e.exec ipOk pki).2.caCert = pki.caCert :=
        exec_keeps_ca e (by rw [hpki.1]; decide)
      exact ⟨hkept.1.trans hpki.1, hkept.2.trans hpki.2⟩
    · rw [hthen]
      exact ⟨hca.1.trans hkey, hca.2.trans hcert⟩
  · refine ⟨dir, after_keeps (P := fun pki => pki.devices name = some dir) (fun e _ => exec_keeps_device e) ?_ rest, hfiles⟩
    rw [hthen]
    exact hdir

end HardwareMonitor.Scripts.GenPki

namespace HardwareMonitor.OpcUa

open Scripts.GenPki

/-! ## The files as bytes -/

/-- What openssl writes: a file that is whole, and what a failed step leaves in its place,
    if it leaves one. Two devices never have the same certificate. -/
structure Issued where
  whole : PkiFile → ByteString
  left : PkiFile → ByteString
  whole_ne : ∀ file, whole file ≠ []
  certs_apart : ∀ a b, whole (.deviceCert a) = whole (.deviceCert b) → a = b
  left_apart : ∀ file name, left file ≠ whole (.deviceCert name)

variable (issued : Issued)

def Issued.cert (name : String) : ByteString := issued.whole (.deviceCert name)

def Issued.bytes (file : PkiFile) : File → Option ByteString
  | .absent => none
  | .partly => some (issued.left file)
  | .whole => some (issued.whole file)

/-- The bytes of the files of `pki/`. -/
def Issued.fileBytes (pki : Pki) (file : PkiFile) : Option ByteString :=
  match file with
  | .caCert => issued.bytes .caCert pki.caCert
  | .deviceCert name => (pki.devices name).bind fun dir => issued.bytes (.deviceCert name) dir.crt
  | .deviceKey name => (pki.devices name).bind fun dir => issued.bytes (.deviceKey name) dir.key

/-- The directory of a device, as an iteration finds it. -/
def Issued.deviceEntry (pki : Pki) (name : String) : DeviceEntry where
  filename := name
  isDirectory := true
  certIsRegularFile := ((pki.devices name).map fun dir => dir.crt.exists).getD false
  cert := issued.fileBytes pki (.deviceCert name)

/-- The device directories, in the order in which an iteration comes to them. -/
structure Listing (pki : Pki) where
  names : List String
  nodup : names.Nodup
  complete : ∀ name, name ∈ names ↔ (pki.devices name).isSome

/-- `pki/devices` is made with the first device. -/
def Issued.disk {pki : Pki} (listing : Listing pki) : PkiDisk where
  bytes := issued.fileBytes pki
  devicesDir := ⟨!listing.names.isEmpty, listing.names.map (issued.deviceEntry pki)⟩
  entryCert := by
    intro e he
    obtain ⟨name, -, rfl⟩ := List.mem_map.mp he
    rfl
  noEntries := by
    intro h
    rw [Bool.not_eq_false', List.isEmpty_iff] at h
    rw [h]
    rfl

/-! ## Certificates -/

variable {issued} {pki : Pki}

theorem fileBytes_certificate {name : String} {cert : ByteString} :
    issued.fileBytes pki (.deviceCert name) = some cert ↔
      ∃ dir, pki.devices name = some dir ∧ issued.bytes (.deviceCert name) dir.crt = some cert :=
  Option.bind_eq_some_iff

/-- The certificate of a device is in its own file only, once that is whole. -/
theorem fileBytes_cert {name other : String} :
    issued.fileBytes pki (.deviceCert other) = some (issued.cert name) ↔
      other = name ∧ ∃ dir, pki.devices name = some dir ∧ dir.crt = .whole := by
  rw [fileBytes_certificate]
  constructor
  · intro h
    obtain ⟨dir, hdir, hbytes⟩ := h
    cases hcrt : dir.crt with
    | absent =>
      rw [hcrt] at hbytes
      cases hbytes
    | partly =>
      rw [hcrt] at hbytes
      exact absurd (Option.some.inj hbytes) (issued.left_apart _ _)
    | whole =>
      rw [hcrt] at hbytes
      obtain rfl := issued.certs_apart _ _ (Option.some.inj hbytes)
      exact ⟨rfl, dir, hdir, hcrt⟩
  · intro h
    obtain ⟨rfl, dir, hdir, hcrt⟩ := h
    exact ⟨dir, hdir, by rw [hcrt]; rfl⟩

theorem deviceEntry_stored {name : String} {cert : ByteString} :
    (issued.deviceEntry pki name).stored = some cert ↔
      name ≠ "server" ∧ issued.fileBytes pki (.deviceCert name) = some cert ∧ cert ≠ [] := by
  rw [stored_eq_some]
  constructor
  · intro h
    exact ⟨h.2.1, h.2.2.2.1, h.2.2.2.2⟩
  · intro h
    obtain ⟨hserver, hbytes, hne⟩ := h
    refine ⟨rfl, hserver, ?_, hbytes, hne⟩
    -- a file with bytes exists
    obtain ⟨dir, hdir, hcrt⟩ := fileBytes_certificate.mp hbytes
    show ((pki.devices name).map fun dir => dir.crt.exists).getD false = true
    rw [hdir]
    cases hfile : dir.crt with
    | absent =>
      rw [hfile] at hcrt
      cases hcrt
    | partly => simp [hfile, File.exists]
    | whole => simp [hfile, File.exists]

/-- The entry of the device, and no other, stands for its certificate. -/
theorem stored_cert {name other : String} :
    (issued.deviceEntry pki other).stored = some (issued.cert name) ↔
      other = name ∧ name ≠ "server" ∧ ∃ dir, pki.devices name = some dir ∧ dir.crt = .whole := by
  rw [deviceEntry_stored, fileBytes_cert]
  constructor
  · rintro ⟨hserver, ⟨rfl, hdir⟩, -⟩
    exact ⟨rfl, hserver, hdir⟩
  · rintro ⟨rfl, hserver, hdir⟩
    exact ⟨hserver, ⟨rfl, hdir⟩, issued.whole_ne _⟩

theorem mem_trustList {listing : Listing pki} {attrs : ServerConfigAttributes}
    (h : (issued.disk listing).getServerConfigAttributes = .ok attrs) {cert : ByteString} :
    cert ∈ attrs.trustList ↔ ∃ name, (issued.deviceEntry pki name).stored = some cert := by
  have htrust : attrs.trustList = _ := (getServerConfigAttributes_ok.mp h).2.2.2
  rw [htrust, trustList_eq, List.mem_filterMap]
  constructor
  · intro h
    obtain ⟨e, he, hs⟩ := h
    obtain ⟨name, -, rfl⟩ := List.mem_map.mp he
    exact ⟨name, hs⟩
  · intro h
    obtain ⟨name, hs⟩ := h
    refine ⟨_, List.mem_map.mpr ⟨name, ?_, rfl⟩, hs⟩
    obtain ⟨dir, hdir, -⟩ := fileBytes_certificate.mp (deviceEntry_stored.mp hs).2.1
    rw [listing.complete, hdir]
    rfl

/-- What an activation with the device's certificate finds. -/
theorem findTrustedDevice_cert {listing : Listing pki} {name found : String} :
    findTrustedDevice (issued.disk listing).devicesDir (issued.cert name) (issued.cert name) = some found ↔
      found = name ∧ name ≠ "server" ∧ ∃ dir, pki.devices name = some dir ∧ dir.crt = .whole := by
  have hfound := found_iff_stored (issued.disk listing).devicesDir (issued.cert name) (issued.cert name)
  have honly : ∀ d, findTrustedDevice (issued.disk listing).devicesDir (issued.cert name) (issued.cert name) = some d →
      d = name ∧ name ≠ "server" ∧ ∃ dir, pki.devices name = some dir ∧ dir.crt = .whole := by
    intro d hd
    obtain ⟨e, he, rfl, hs, -⟩ := hfound.2.1 d hd
    obtain ⟨other, -, rfl⟩ := List.mem_map.mp he
    exact stored_cert.mp hs
  constructor
  · exact honly found
  · intro h
    obtain ⟨rfl, hserver, dir, hdir, hcrt⟩ := h
    have hlisted : found ∈ listing.names := by
      rw [listing.complete, hdir]
      rfl
    have hsome : ∃ d, findTrustedDevice (issued.disk listing).devicesDir (issued.cert found) (issued.cert found) = some d := by
      refine hfound.1.mpr ⟨?_, _, List.mem_map.mpr ⟨found, hlisted, rfl⟩, stored_cert.mpr ⟨rfl, hserver, dir, hdir, hcrt⟩, rfl⟩
      cases hnames : listing.names with
      | nil =>
        rw [hnames] at hlisted
        cases hlisted
      | cons head tail => simp [Issued.disk, hnames]
    obtain ⟨d, hd⟩ := hsome
    rw [hd, (honly d hd).1]

/-! ## Trust and acceptance over a run -/

/-- The activation of a session over a channel opened with the certificate of a device. -/
def Issued.activation (issued : Issued) {pki : Pki} (listing : Listing pki) (name : String) : Activation where
  devicesDir := (issued.disk listing).devicesDir
  secureChannelRemoteCertificate := issued.cert name
  userIdentityToken := some ⟨x509TokenPolicyId, issued.cert name⟩

theorem activation_device {listing : Listing pki} {name found : String} :
    (issued.activation listing name).device = some found ↔
      found = name ∧ name ≠ "server" ∧ ∃ dir, pki.devices name = some dir ∧ dir.crt = .whole := by
  have hfound : findTrustedDevice (issued.disk listing).devicesDir (issued.cert name) (issued.cert name) = some found ↔ _ :=
    findTrustedDevice_cert
  rw [← hfound, Activation.device]
  simp only [Issued.activation, ne_eq, not_true_eq_false, if_false]

/-- A server started in the middle of a run of commands trusts the certificates that were
    there then; its activations accept the ones that are there when they are made, each as
    the device it was made for. So what it trusts is accepted ever after, and what was
    created since is accepted and not trusted. -/
theorem trust_lags_acceptance (ipOk : String → Bool) (issued : Issued) (before later : List Event)
    (atStart : Listing (after ipOk before)) (now : Listing (after ipOk (before ++ later))) (attrs : ServerConfigAttributes)
    (h : (issued.disk atStart).getServerConfigAttributes = .ok attrs) (name : String) :
    (issued.cert name ∈ attrs.trustList ↔ name ≠ "server" ∧ Certified ipOk before name) ∧
    (∀ found, (issued.activation now name).device = some found ↔
      found = name ∧ name ≠ "server" ∧ Certified ipOk (before ++ later) name) ∧
    (issued.cert name ∈ attrs.trustList → (issued.activation now name).device = some name) := by
  have htrust : issued.cert name ∈ attrs.trustList ↔ name ≠ "server" ∧ Certified ipOk before name := by
    rw [mem_trustList h]
    constructor
    · intro h
      obtain ⟨other, hs⟩ := h
      exact (stored_cert.mp hs).2
    · intro h
      exact ⟨name, stored_cert.mpr ⟨rfl, h⟩⟩
  refine ⟨htrust, fun found => activation_device, fun hin => ?_⟩
  obtain ⟨hserver, hcert⟩ := htrust.mp hin
  exact activation_device.mpr ⟨rfl, hserver, certified_append hcert later⟩

/-- Certificates that spell the device's name; a failed step leaves an empty file. -/
def issuedByName : Issued where
  whole
    | .caCert => [0]
    | .deviceCert name => 1 :: name.toByteArray.data.toList
    | .deviceKey _ => [2]
  left := fun _ => []
  whole_ne := by
    intro file
    cases file <;> exact List.cons_ne_nil _ _
  certs_apart := by
    intro a b h
    exact String.toByteArray_inj.mp (ByteArray.ext (Array.toList_inj.mp (List.cons.inj h).2))
  left_apart := by
    intro file name h
    cases h

/-- A CA, and the server's device. -/
def serverOnly : List Event := [⟨.initCa, .working⟩, ⟨.addDevice "server" [], .working⟩]

/-- The client's device is created once the server runs. -/
def plcLater : List Event := [⟨.addDevice "plc" [], .working⟩]

def serverListing : Listing (after (fun _ => true) serverOnly) where
  names := ["server"]
  nodup := by decide
  complete := by
    intro name
    show name ∈ ["server"] ↔ (Function.update (fun _ => none) "server" _ name).isSome
    by_cases h : name = "server"
    · simp [h]
    · simp [h]

def bothListing : Listing (after (fun _ => true) (serverOnly ++ plcLater)) where
  names := ["plc", "server"]
  nodup := by decide
  complete := by
    intro name
    show name ∈ ["plc", "server"] ↔ (Function.update (Function.update (fun _ => none) "server" _) "plc" _ name).isSome
    by_cases hplc : name = "plc"
    · simp [hplc]
    · by_cases hserver : name = "server"
      · simp [hserver]
      · simp [hplc, hserver]

/-- The certificate of a device created since the start is accepted, and not trusted. -/
theorem trust_lags_acceptance_plc :
    ∃ attrs, (issuedByName.disk serverListing).getServerConfigAttributes = .ok attrs ∧
      issuedByName.cert "plc" ∉ attrs.trustList ∧ (issuedByName.activation bothListing "plc").device = some "plc" := by
  have hattrs : (issuedByName.disk serverListing).getServerConfigAttributes = .ok
      { certificate := issuedByName.cert "server", privateKey := [2], trustList := [], issuerList := [[0]] } := by decide
  obtain ⟨htrusted, haccepted, -⟩ :=
    trust_lags_acceptance (fun _ => true) issuedByName serverOnly plcLater serverListing bothListing _ hattrs "plc"
  refine ⟨_, hattrs, ?_, (haccepted "plc").mpr ⟨rfl, by decide, ⟨.whole, .absent, .whole⟩, by decide, rfl⟩⟩
  rw [htrusted]
  rintro ⟨-, dir, hdir, -⟩
  cases hdir

/-! ## The parties -/

/-- The security library takes what a step of openssl writes when it works. -/
structure SecurityLibrary.Takes (lib : SecurityLibrary) (issued : Issued) : Prop where
  cert : ∀ name, lib.parsesCertificate (issued.cert name)
  key : ∀ name, lib.parsesKey (issued.whole (.deviceKey name))
  caCert : lib.parsesCertificate (issued.whole .caCert)

/-- Where the creation of a device failed and left something, it is a certificate, or empty. -/
def LeftoversParse (lib : SecurityLibrary) (issued : Issued) (pki : Pki) : Prop :=
  ∀ name dir, name ≠ "server" → pki.devices name = some dir → dir.crt = .partly →
    issued.left (.deviceCert name) = [] ∨ lib.parsesCertificate (issued.left (.deviceCert name))

theorem readBytesFromFile_whole {listing : Listing pki} {file : PkiFile}
    (h : issued.fileBytes pki file = some (issued.whole file)) :
    (issued.disk listing).readBytesFromFile file = .ok (issued.whole file) :=
  readBytesFromFile_ok.mpr ⟨h, issued.whole_ne file⟩

/-- A created device can read its identity. -/
theorem identity_of_created (issued : Issued) {ipOk : String → Bool} {events : List Event} {name : String}
    (h : Created ipOk events name) (listing : Listing (after ipOk events)) :
    (issued.disk listing).readBytesFromFile (.deviceCert name) = .ok (issued.cert name) ∧
      (issued.disk listing).readBytesFromFile (.deviceKey name) = .ok (issued.whole (.deviceKey name)) ∧
      (issued.disk listing).readBytesFromFile .caCert = .ok (issued.whole .caCert) := by
  obtain ⟨hca, dir, hdir, hkey, hcrt⟩ := created_files h
  refine ⟨readBytesFromFile_whole ?_, readBytesFromFile_whole ?_, readBytesFromFile_whole ?_⟩
  · simp only [Issued.fileBytes, hdir, Option.bind_some, hcrt, Issued.bytes]
  · simp only [Issued.fileBytes, hdir, Option.bind_some, hkey, Issued.bytes]
  · simp only [Issued.fileBytes, hca, Issued.bytes]

theorem getServerConfigAttributes_created (issued : Issued) {ipOk : String → Bool} {events : List Event}
    (h : Created ipOk events "server") (listing : Listing (after ipOk events)) :
    (issued.disk listing).getServerConfigAttributes =
      .ok { certificate := issued.cert "server"
            privateKey := issued.whole (.deviceKey "server")
            trustList := (issued.disk listing).devicesDir.entries.filterMap (issued.disk listing).trustListEntry
            issuerList := [issued.whole .caCert] } := by
  obtain ⟨hcert, hkey, hca⟩ := identity_of_created issued h listing
  exact getServerConfigAttributes_ok.mpr ⟨hcert, hkey, ⟨_, hca, rfl⟩, rfl⟩

theorem getClientConfigAttributes_created {ipOk : String → Bool} {events : List Event} {name : String}
    (hserver : Created ipOk events "server") (h : Created ipOk events name) (listing : Listing (after ipOk events)) :
    (issued.disk listing).getClientConfigAttributes name =
      .ok { certificate := issued.cert name
            privateKey := issued.whole (.deviceKey name)
            trustList := [issued.cert "server"]
            issuerList := [issued.whole .caCert] } := by
  obtain ⟨hcert, hkey, hca⟩ := identity_of_created issued h listing
  obtain ⟨hpinned, -, -⟩ := identity_of_created issued hserver listing
  refine getClientConfigAttributes_ok.mpr ⟨hcert, hkey, ?_, ?_⟩
  · rw [PkiDisk.readOrSkip, hpinned]
  · rw [PkiDisk.readOrSkip, hca]

/-- The library takes the whole trust list exactly if nothing that is left over spoils it. -/
theorem takesTrustList_iff {lib : SecurityLibrary} (htakes : lib.Takes issued) {listing : Listing pki}
    {attrs : ServerConfigAttributes} (h : (issued.disk listing).getServerConfigAttributes = .ok attrs) :
    (∀ cert ∈ attrs.trustList, lib.parsesCertificate cert) ↔ LeftoversParse lib issued pki := by
  constructor
  · intro hall name dir hserver hdir hcrt
    by_cases hempty : issued.left (.deviceCert name) = []
    · exact Or.inl hempty
    · refine Or.inr (hall _ ((mem_trustList h).mpr ⟨name, deviceEntry_stored.mpr ⟨hserver, ?_, hempty⟩⟩))
      exact fileBytes_certificate.mpr ⟨dir, hdir, by rw [hcrt]; rfl⟩
  · intro hleft cert hin
    obtain ⟨name, hs⟩ := (mem_trustList h).mp hin
    obtain ⟨hserver, hbytes, hne⟩ := deviceEntry_stored.mp hs
    obtain ⟨dir, hdir, hfile⟩ := fileBytes_certificate.mp hbytes
    cases hcrt : dir.crt with
    | absent =>
      rw [hcrt] at hfile
      cases hfile
    | partly =>
      rw [hcrt] at hfile
      obtain rfl : issued.left (.deviceCert name) = cert := Option.some.inj hfile
      rcases hleft name dir hserver hdir hcrt with hempty | hparses
      · exact absurd hempty hne
      · exact hparses
    | whole =>
      rw [hcrt] at hfile
      obtain rfl : issued.cert name = cert := Option.some.inj hfile
      exact htakes.cert name

/-- The configuration of the client of a created device. -/
def Issued.client (issued : Issued) (name ip : String) : ClientConfig where
  attrs :=
    { certificate := issued.cert name
      privateKey := issued.whole (.deviceKey name)
      trustList := [issued.cert "server"]
      issuerList := [issued.whole .caCert] }
  endpointUrl := endpointUrl ip
  serverCertificate := issued.cert "server"
  applicationUri := applicationUri name

theorem customClient_created {lib : SecurityLibrary} (htakes : lib.Takes issued) {ipOk : String → Bool} {events : List Event}
    {name : String} (hserver : Created ipOk events "server") (h : Created ipOk events name)
    (listing : Listing (after ipOk events)) (ip : String) :
    customClient lib (issued.disk listing) name (some ip) = .running (issued.client name ip) := by
  have hlist : lib.takesTrustList [issued.cert "server"] [issued.whole .caCert] = true := by
    simp [SecurityLibrary.takesTrustList, htakes.cert, htakes.caCert]
  have hidentity : lib.takesIdentity (issued.cert name) (issued.whole (.deviceKey name)) = true := by
    simp [SecurityLibrary.takesIdentity, htakes.cert, htakes.key]
  simp only [customClient, getClientConfigAttributes_created hserver h listing, hlist, hidentity, Bool.not_true,
    Bool.false_eq_true, if_false, Issued.client]

theorem systemInfoServer_created {lib : SecurityLibrary} (htakes : lib.Takes issued) {ipOk : String → Bool}
    {events : List Event} (h : Created ipOk events "server") (listing : Listing (after ipOk events)) (ip : String)
    (server : ServerConfig) :
    systemInfoServer lib (issued.disk listing) (some ip) = .running server ↔
      LeftoversParse lib issued (after ipOk events) ∧
        (issued.disk listing).getServerConfigAttributes = .ok server.attrs ∧
        server.endpointUrl = endpointUrl ip ∧ server.applicationUri = applicationUri "server" := by
  have hattrs := getServerConfigAttributes_created issued h listing
  have hidentity : lib.takesIdentity (issued.cert "server") (issued.whole (.deviceKey "server")) = true := by
    simp [SecurityLibrary.takesIdentity, htakes.cert, htakes.key]
  rw [← takesTrustList_iff htakes hattrs]
  obtain ⟨attrs, url, uri⟩ := server
  simp only [systemInfoServer, hattrs, hidentity, Bool.not_true, Bool.false_eq_true, if_false, SecurityLibrary.takesTrustList,
    List.all_append, List.all_cons, List.all_nil, htakes.caCert, Bool.and_true]
  cases hall : (List.filterMap (issued.disk listing).trustListEntry (issued.disk listing).devicesDir.entries).all
      lib.parsesCertificate with
  | false =>
    rw [Bool.eq_false_iff, ne_eq, List.all_eq_true] at hall
    simp only [Bool.not_false, if_true, reduceCtorEq, false_iff]
    exact fun h => hall h.1
  | true =>
    rw [List.all_eq_true] at hall
    simp only [Bool.not_true, Bool.false_eq_true, if_false, Started.running.injEq, ServerConfig.mk.injEq, Except.ok.injEq]
    constructor
    · rintro ⟨rfl, rfl, rfl⟩
      exact ⟨hall, rfl, rfl, rfl⟩
    · rintro ⟨-, rfl, rfl, rfl⟩
      exact ⟨rfl, rfl, rfl⟩

/-- After any run in which the server and a device were created: the device's client is
    configured; the server is, exactly if no other creation that failed left a certificate
    that cannot be parsed. The client then pins the certificate the server has, they have
    one issuer and one endpoint, the server trusts the client's certificate, and an
    activation of its session is accepted as the device, whatever commands come between. A
    client of the server's own device is not trusted. -/
theorem provisioned_parties_agree (ipOk : String → Bool) (issued : Issued) (lib : SecurityLibrary)
    (htakes : lib.Takes issued) (events : List Event) (listing : Listing (after ipOk events)) (name ip : String)
    (hserver : Created ipOk events "server") (hname : Created ipOk events name) :
    ∃ client, customClient lib (issued.disk listing) name (some ip) = .running client ∧
      ((∃ server, systemInfoServer lib (issued.disk listing) (some ip) = .running server) ↔
        LeftoversParse lib issued (after ipOk events)) ∧
      ∀ server, systemInfoServer lib (issued.disk listing) (some ip) = .running server →
        client.serverCertificate = server.attrs.certificate ∧
        client.attrs.issuerList = server.attrs.issuerList ∧
        client.endpointUrl = server.endpointUrl ∧
        (client.attrs.certificate ∈ server.attrs.trustList ↔ name ≠ "server") ∧
        (name ≠ "server" → ∀ later (now : Listing (after ipOk (events ++ later))) session table,
          activateSession session (client.activation (issued.disk now).devicesDir) table =
            (statusGood, table.set session (.trusted name))) := by
  refine ⟨issued.client name ip, customClient_created htakes hserver hname listing ip, ?_, ?_⟩
  · constructor
    · intro h
      obtain ⟨server, hrunning⟩ := h
      exact ((systemInfoServer_created htakes hserver listing ip server).mp hrunning).1
    · intro hleft
      have hattrs := getServerConfigAttributes_created issued hserver listing
      exact ⟨⟨_, _, _⟩, (systemInfoServer_created htakes hserver listing ip _).mpr ⟨hleft, hattrs, rfl, rfl⟩⟩
  · intro server hrunning
    obtain ⟨-, hattrs, hurl, -⟩ := (systemInfoServer_created htakes hserver listing ip server).mp hrunning
    have hcreated := getServerConfigAttributes_created issued hserver listing
    rw [hattrs] at hcreated
    have hfields := Except.ok.inj hcreated
    obtain ⟨-, dir, hdir, -, hcrt⟩ := created_files hname
    have hcertified : Certified ipOk events name := ⟨dir, hdir, hcrt⟩
    have htrusted : issued.cert name ∈ server.attrs.trustList ↔ name ≠ "server" := by
      rw [mem_trustList hattrs]
      constructor
      · intro h
        obtain ⟨other, hs⟩ := h
        exact (stored_cert.mp hs).2.1
      · intro hne
        exact ⟨name, stored_cert.mpr ⟨rfl, hne, hcertified⟩⟩
    refine ⟨?_, ?_, hurl.symm, htrusted, ?_⟩
    · rw [hfields]
      rfl
    · rw [hfields]
      rfl
    · intro hne later now session table
      have hdevice : (issued.activation now name).device = some name :=
        activation_device.mpr ⟨rfl, hne, certified_append hcertified later⟩
      rcases activateSession_cases session (issued.activation now name) table with ⟨d, hd, heq⟩ | ⟨hnone, -⟩
      · rw [hdevice] at hd
        obtain rfl : name = d := Option.some.inj hd
        exact heq
      · rw [hdevice] at hnone
        cases hnone

/-- A library that takes what starts with the mark of its kind. -/
def markedLibrary : SecurityLibrary where
  parsesCertificate := fun bytes => bytes.head? = some 0 || bytes.head? = some 1
  parsesKey := fun bytes => bytes.head? = some 2

theorem markedLibrary_takes : markedLibrary.Takes issuedByName := ⟨fun _ => rfl, fun _ => rfl, rfl⟩

theorem server_created : Created (fun _ => true) (serverOnly ++ plcLater) "server" :=
  ⟨[⟨.initCa, .working⟩], [], .working, plcLater, rfl, by decide⟩

theorem plc_created : Created (fun _ => true) (serverOnly ++ plcLater) "plc" :=
  ⟨serverOnly, [], .working, [], rfl, by decide⟩

/-- Both parties start, and trust each other. -/
theorem provisioned_parties_agree_plc :
    ∃ client server, customClient markedLibrary (issuedByName.disk bothListing) "plc" (some "127.0.0.1") = .running client ∧
      systemInfoServer markedLibrary (issuedByName.disk bothListing) (some "127.0.0.1") = .running server ∧
      client.serverCertificate = server.attrs.certificate ∧ client.attrs.certificate ∈ server.attrs.trustList := by
  obtain ⟨client, hclient, hstarts, hagree⟩ := provisioned_parties_agree (fun _ => true) issuedByName markedLibrary
    markedLibrary_takes (serverOnly ++ plcLater) bothListing "plc" "127.0.0.1" server_created plc_created
  obtain ⟨server, hserver⟩ := hstarts.mpr fun _ _ _ _ _ => Or.inl rfl
  obtain ⟨hpinned, -, -, htrusted, -⟩ := hagree server hserver
  exact ⟨client, server, hclient, hserver, hpinned, htrusted.mpr (by decide)⟩

end HardwareMonitor.OpcUa
