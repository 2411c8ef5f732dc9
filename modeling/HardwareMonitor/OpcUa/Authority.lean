/-
  HardwareMonitor.OpcUa.Authority — what a session may do, and what gives it that.

  A session is meant to act as one device: the one its last activation proved
  (`Activation.device`). `Seat` is that device with the folder it published, and
  `Seat.after` is the whole life of a session in those terms. `session_attributes_`
  refines it: an entry stands for a seat or is powerless, whichever member function
  made it (`step_represents`), and a query grants what the seat admits
  (`granted_eq_admits`).
-/

import HardwareMonitor.OpcUa.Ownership

namespace HardwareMonitor.OpcUa

/-! ## What an activation proves -/

/-- The entry's certificate is the one presented by the user and by the channel. -/
structure DeviceEntry.Trusts (e : DeviceEntry) (usrTknCert secureChannelRemoteCertificate : ByteString) : Prop where
  directory : e.isDirectory = true
  notServer : e.filename ≠ "server"
  regular : e.certIsRegularFile = true
  nonempty : parsePki e.cert ≠ []
  user : usrTknCert = parsePki e.cert
  channel : secureChannelRemoteCertificate = parsePki e.cert

/-- An entry is the answer if it is trusted, and is passed over otherwise. -/
theorem findTrustedEntry_cons (usr channel : ByteString) (e : DeviceEntry) (es : List DeviceEntry) :
    (e.Trusts usr channel ∧ findTrustedEntry usr channel (e :: es) = some e.filename) ∨
      findTrustedEntry usr channel (e :: es) = findTrustedEntry usr channel es := by
  simp only [findTrustedEntry]
  by_cases hdir : e.isDirectory = true
  case neg => exact Or.inr (if_pos (by simpa using hdir))
  rw [if_neg (by simp [hdir])]
  by_cases hserver : e.filename = "server"
  case pos => exact Or.inr (if_pos hserver)
  rw [if_neg hserver]
  by_cases hreg : e.certIsRegularFile = true
  case neg => exact Or.inr (if_pos (by simpa using hreg))
  rw [if_neg (by simp [hreg])]
  by_cases hempty : parsePki e.cert = []
  case pos => exact Or.inr (if_pos (by simp [hempty]))
  rw [if_neg (by simpa using hempty)]
  by_cases hmatch : usr = parsePki e.cert ∧ parsePki e.cert = channel
  case neg => exact Or.inr (if_neg hmatch)
  exact Or.inl ⟨⟨hdir, hserver, hreg, hempty, hmatch.1, hmatch.2.symm⟩, if_pos hmatch⟩

/-- A device found is the name of a directory that holds the certificate. -/
theorem findTrustedEntry_some {usr channel : ByteString} {es : List DeviceEntry} {d : String}
    (h : findTrustedEntry usr channel es = some d) : ∃ e ∈ es, e.filename = d ∧ e.Trusts usr channel := by
  induction es with
  | nil => cases h
  | cons e es ih =>
    rcases findTrustedEntry_cons usr channel e es with ⟨htrust, heq⟩ | heq
    · rw [heq, Option.some.injEq] at h
      exact ⟨e, List.mem_cons_self, h, htrust⟩
    · rw [heq] at h
      obtain ⟨e', hmem, he'⟩ := ih h
      exact ⟨e', List.mem_cons_of_mem _ hmem, he'⟩

/-- The device an activation is accepted as, if it is accepted. -/
def Activation.device (a : Activation) : Option String :=
  match a.userIdentityToken with
  | none => none
  | some token =>
    if token.policyId ≠ x509TokenPolicyId then none
    else findTrustedDevice a.devicesDir token.certificateData a.secureChannelRemoteCertificate

/-- The activation presents a token of the right policy, and one certificate, twice,
    that a device directory named `d` holds. -/
structure Activation.Proves (a : Activation) (d : String) : Prop where
  token : ∃ token, a.userIdentityToken = some token ∧ token.policyId = x509TokenPolicyId ∧
    ∃ e ∈ a.devicesDir.entries, e.filename = d ∧ e.Trusts token.certificateData a.secureChannelRemoteCertificate

theorem Activation.proves_of_device {a : Activation} {d : String} (h : a.device = some d) : a.Proves d := by
  unfold Activation.device at h
  cases ht : a.userIdentityToken with
  | none => simp [ht] at h
  | some token =>
    simp only [ht, ite_not] at h
    by_cases hp : token.policyId = x509TokenPolicyId
    · rw [if_pos hp, findTrustedDevice] at h
      by_cases hd : a.devicesDir.isDirectory = true
      · rw [if_neg (by simp [hd])] at h
        exact ⟨⟨token, ht, hp, findTrustedEntry_some h⟩⟩
      · simp [hd] at h
    · simp [hp] at h

/-- An accepted activation answers GOOD and seats its device; any other answers a bad
    status and leaves an entry without power. -/
theorem activateSession_cases (s : NodeId) (a : Activation) (t : SessionAttributes) :
    (∃ d, a.device = some d ∧ activateSession s a t = (statusGood, t.set s (.trusted d))) ∨
      (a.device = none ∧ ∃ code attrs, code ≠ statusGood ∧ attrs.accessLvl = AccessLevel.none ∧
        attrs.canBrowse = false ∧ activateSession s a t = (code, t.set s attrs)) := by
  unfold Activation.device activateSession
  cases a.userIdentityToken with
  | none => exact Or.inr ⟨rfl, _, _, by decide, rfl, rfl, rfl⟩
  | some token =>
    simp only [ite_not]
    by_cases hp : token.policyId = x509TokenPolicyId
    · simp only [hp, if_true]
      cases findTrustedDevice a.devicesDir token.certificateData a.secureChannelRemoteCertificate with
      | none => exact Or.inr ⟨rfl, _, _, by decide, rfl, rfl, rfl⟩
      | some d => exact Or.inl ⟨d, rfl, rfl⟩
    · simp only [hp, if_false]
      exact Or.inr ⟨trivial, _, _, by decide, rfl, rfl, rfl⟩

/-! ## Seats -/

/-- A device a session acts as, with the folder it last asked for. The folder is the
    null id before the first such request, and an id of the device ever after. -/
structure Seat where
  device : String
  folder : NodeId
  owned : folder = NodeId.null ∨ nodeIdBelongsToDevice folder device = true

/-- The seat an accepted activation gives. -/
def Seat.fresh (d : String) : Seat := ⟨d, NodeId.null, Or.inl rfl⟩

variable (telemetryClientsFolder : NodeId)

/-- A request for the device's own folder is remembered. -/
def Seat.remember (seat : Seat) (item : AddNodesItem) : Seat :=
  if h : item.parentNodeId.nodeId = telemetryClientsFolder ∧
      nodeIdBelongsToDevice item.requestedNewNodeId.nodeId seat.device = true
  then { seat with folder := item.requestedNewNodeId.nodeId, owned := Or.inr h.2 }
  else seat

/-- The life of one session: activations seat and unseat it, folder requests are
    remembered, and nothing else changes anything. -/
def Seat.after (seat : Option Seat) : Operation → Option Seat
  | .activateSession a => a.device.map Seat.fresh
  | .allowAddNode item => seat.map fun seat => seat.remember telemetryClientsFolder item
  | _ => seat

/-- The ids a seat may build under or refer from: its folder and its device's own. -/
def Seat.holds (seat : Seat) (id : NodeId) : Bool :=
  decide (id = seat.folder) || nodeIdBelongsToDevice id seat.device

def Seat.admitsNode (seat : Seat) (item : AddNodesItem) : Bool :=
  nodeIdBelongsToDevice item.requestedNewNodeId.nodeId seat.device &&
    (decide (item.parentNodeId.nodeId = telemetryClientsFolder) || seat.holds item.parentNodeId.nodeId)

def Seat.admitsReference (seat : Seat) (item : AddReferencesItem) : Bool :=
  seat.holds item.sourceNodeId &&
    (decide (item.targetNodeId.nodeId.namespaceIndex = 0) ||
      decide (item.referenceTypeId ≠ hasTypeDefinition) &&
        (decide (item.targetNodeId.nodeId = telemetryClientsFolder) || seat.holds item.targetNodeId.nodeId))

/-- What a seat allows. Without a seat nothing is. -/
def Seat.admits : Option Seat → Operation → Bool
  | none, _ => false
  | some seat, .allowAddNode item => seat.admitsNode telemetryClientsFolder item
  | some seat, .allowAddReference item => seat.admitsReference telemetryClientsFolder item
  | some _, .getUserRightsMask _ => true
  | some _, .getUserAccessLevel _ => true
  | some _, .allowBrowseNode _ => true
  | some _, _ => false

/-- A reply that grants something: a mask that is not empty, or a yes. -/
def Reply.granted : Reply → Bool
  | .status _ => false
  | .closed => false
  | .rights mask => decide (mask ≠ WriteMask.none)
  | .level mask => decide (mask ≠ AccessLevel.none)
  | .verdict allowed => allowed

/-! ## The table refines the seats -/

/-- The entry `e` of the table stands for this seat, or for none. -/
inductive Represents : Option ClientAttributes → Option Seat → Prop
  | absent : Represents none none
  | powerless (attrs : ClientAttributes) : attrs.accessLvl = AccessLevel.none → attrs.canBrowse = false →
      Represents (some attrs) none
  | seated (attrs : ClientAttributes) (seat : Seat) : attrs.accessLvl = AccessLevel.readWrite → attrs.canBrowse = true →
      attrs.deviceName = seat.device → attrs.deviceFolderId = seat.folder → Represents (some attrs) (some seat)

variable {telemetryClientsFolder}

/-- The entry a query inserts stands for no seat. -/
theorem represents_subscript {e : Option ClientAttributes} {seat : Option Seat} (h : Represents e seat) :
    Represents (some (e.getD .default)) seat := by
  cases h with
  | absent => exact .powerless _ rfl rfl
  | powerless attrs h1 h2 => exact .powerless attrs h1 h2
  | seated attrs seat h1 h2 h3 h4 => exact .seated attrs seat h1 h2 h3 h4

theorem accessLvl_eq {e : Option ClientAttributes} {seat : Option Seat} (h : Represents e seat) :
    (e.getD .default).accessLvl = if seat.isSome then AccessLevel.readWrite else AccessLevel.none := by
  cases h with
  | absent => rfl
  | powerless attrs h1 h2 => exact h1
  | seated attrs seat h1 h2 h3 h4 => exact h1

/-- `allowAddNode` on an entry of full access: a folder request is granted and
    remembered, any other request is judged and changes nothing. -/
theorem allowAddNode_cases (telemetryClientsFolder : NodeId) {s : NodeId} (item : AddNodesItem) {t : SessionAttributes} {attrs : ClientAttributes}
    (he : t s = some attrs) (hrw : attrs.accessLvl = AccessLevel.readWrite) :
    (item.parentNodeId.nodeId = telemetryClientsFolder ∧
        nodeIdBelongsToDevice item.requestedNewNodeId.nodeId attrs.deviceName = true ∧
        allowAddNode telemetryClientsFolder s item t =
          (true, t.set s { attrs with deviceFolderId := item.requestedNewNodeId.nodeId })) ∨
      (¬ (item.parentNodeId.nodeId = telemetryClientsFolder ∧
          nodeIdBelongsToDevice item.requestedNewNodeId.nodeId attrs.deviceName = true) ∧
        allowAddNode telemetryClientsFolder s item t =
          (nodeIdBelongsToDevice item.requestedNewNodeId.nodeId attrs.deviceName &&
            (decide (item.parentNodeId.nodeId = attrs.deviceFolderId) ||
              nodeIdBelongsToDevice item.parentNodeId.nodeId attrs.deviceName), t)) := by
  unfold allowAddNode
  simp only [he, hrw, not_true_eq_false, if_false]
  by_cases hp : item.parentNodeId.nodeId = telemetryClientsFolder
  · rw [if_pos hp]
    cases hr : nodeIdBelongsToDevice item.requestedNewNodeId.nodeId attrs.deviceName with
    | true => exact Or.inl ⟨hp, rfl, rfl⟩
    | false => exact Or.inr ⟨fun h => absurd h.2 Bool.false_ne_true, rfl⟩
  · rw [if_neg hp]
    refine Or.inr ⟨fun h => hp h.1, ?_⟩
    by_cases hh : item.parentNodeId.nodeId = attrs.deviceFolderId ∨
        nodeIdBelongsToDevice item.parentNodeId.nodeId attrs.deviceName = true
    · rw [if_pos hh, show (decide (item.parentNodeId.nodeId = attrs.deviceFolderId) ||
        nodeIdBelongsToDevice item.parentNodeId.nodeId attrs.deviceName) = true by simpa using hh, Bool.and_true]
    · rw [if_neg hh, show (decide (item.parentNodeId.nodeId = attrs.deviceFolderId) ||
        nodeIdBelongsToDevice item.parentNodeId.nodeId attrs.deviceName) = false by simpa using hh, Bool.and_false]

/-- Without an entry of full access nothing is granted. -/
theorem allowAddNode_denied (telemetryClientsFolder : NodeId) {s : NodeId} (item : AddNodesItem) {t : SessionAttributes}
    (h : ∀ attrs, t s = some attrs → attrs.accessLvl ≠ AccessLevel.readWrite) :
    allowAddNode telemetryClientsFolder s item t = (false, t) := by
  unfold allowAddNode
  cases he : t s with
  | none => rfl
  | some attrs => exact if_pos (h attrs he)

theorem none_ne_readWrite : ¬ AccessLevel.none = AccessLevel.readWrite := by decide

/-- `allowAddNode` is the seat's verdict, and remembers the folder. -/
theorem allowAddNode_represents {s : NodeId} (item : AddNodesItem) {t : SessionAttributes} {seat : Option Seat}
    (h : Represents (t s) seat) :
    (allowAddNode telemetryClientsFolder s item t).1 = Seat.admits telemetryClientsFolder seat (.allowAddNode item) ∧
      Represents ((allowAddNode telemetryClientsFolder s item t).2 s)
        (Seat.after telemetryClientsFolder seat (.allowAddNode item)) := by
  generalize he : t s = e at h
  cases h with
  | absent =>
    rw [allowAddNode_denied telemetryClientsFolder item fun attrs h => by rw [he] at h; cases h]
    refine ⟨rfl, ?_⟩
    show Represents (t s) none
    rw [he]
    exact .absent
  | powerless attrs h1 h2 =>
    rw [allowAddNode_denied telemetryClientsFolder item fun attrs' h => by
      rw [he, Option.some.injEq] at h
      rw [← h, h1]
      exact none_ne_readWrite]
    refine ⟨rfl, ?_⟩
    show Represents (t s) none
    rw [he]
    exact .powerless attrs h1 h2
  | seated attrs seat h1 h2 h3 h4 =>
    simp only [Seat.admits, Seat.admitsNode, Seat.holds, Seat.after, Option.map_some, Seat.remember, ← h3, ← h4]
    rcases allowAddNode_cases telemetryClientsFolder item he h1 with ⟨hp, hr, heq⟩ | ⟨hno, heq⟩
    · rw [heq]
      refine ⟨by simp [hp, hr], ?_⟩
      simp only [dif_pos (And.intro hp hr), SessionAttributes.set_same]
      exact .seated _ _ h1 h2 rfl rfl
    · rw [heq]
      refine ⟨?_, ?_⟩
      · cases hr : nodeIdBelongsToDevice item.requestedNewNodeId.nodeId attrs.deviceName with
        | false => rfl
        | true =>
          have hp : ¬ item.parentNodeId.nodeId = telemetryClientsFolder := fun e => hno ⟨e, hr⟩
          simp only [hp, decide_false, Bool.false_or]
      · simp only [dif_neg hno, he]
        exact .seated _ _ h1 h2 h3 h4

/-- `allowAddReference` is the seat's verdict. -/
theorem allowAddReference_represents {s : NodeId} (item : AddReferencesItem) {t : SessionAttributes}
    {seat : Option Seat} (h : Represents (t s) seat) :
    allowAddReference telemetryClientsFolder s item t =
      Seat.admits telemetryClientsFolder seat (.allowAddReference item) := by
  unfold allowAddReference
  generalize t s = e at h
  cases h with
  | absent => rfl
  | powerless attrs h1 h2 => simp only [h1, none_ne_readWrite, not_false_eq_true, if_true, Seat.admits]
  | seated attrs seat h1 h2 h3 h4 =>
    simp only [h1, not_true_eq_false, if_false, h3, h4, Seat.admits, Seat.admitsReference, Seat.holds]
    by_cases href : item.referenceTypeId = hasTypeDefinition
    · simp [href]
    · cases (decide (item.sourceNodeId = seat.folder) || nodeIdBelongsToDevice item.sourceNodeId seat.device)
      · simp [href]
      · by_cases hns : item.targetNodeId.nodeId.namespaceIndex = 0 <;> simp [href, hns]

/-- Every operation on an entry is matched by the life of its seat. -/
theorem step_represents (s : NodeId) (o : Operation) (t : SessionAttributes) (seat : Option Seat)
    (h : Represents (t s) seat) :
    Represents ((step telemetryClientsFolder s o t).2 s) (Seat.after telemetryClientsFolder seat o) := by
  cases o with
  | activateSession a =>
    simp only [step, Seat.after]
    rcases activateSession_cases s a t with ⟨d, hd, heq⟩ | ⟨hd, code, attrs, -, h1, h2, heq⟩
    · simp only [heq, hd, SessionAttributes.set_same]
      exact .seated _ (Seat.fresh d) rfl rfl rfl rfl
    · simp only [heq, hd, SessionAttributes.set_same]
      exact .powerless attrs h1 h2
  | closeSession => exact h
  | getUserRightsMask nodeId =>
    have : (step telemetryClientsFolder s (.getUserRightsMask nodeId) t).2 = (t.subscript s).2 := by
      simp only [step, getUserRightsMask]
      split <;> rfl
    rw [this, SessionAttributes.subscript_same]
    exact represents_subscript h
  | getUserAccessLevel nodeId =>
    simp only [step, getUserAccessLevel, SessionAttributes.subscript_same]
    exact represents_subscript h
  | allowAddNode item => exact (allowAddNode_represents item h).2
  | allowAddReference item => exact h
  | allowBrowseNode nodeId => exact h

/-- A query on an entry grants exactly what the seat admits. -/
theorem granted_eq_admits (s : NodeId) (o : Operation) (t : SessionAttributes) (seat : Option Seat)
    (h : Represents (t s) seat) :
    (step telemetryClientsFolder s o t).1.granted = Seat.admits telemetryClientsFolder seat o := by
  cases o with
  | activateSession a => cases seat <;> rfl
  | closeSession => cases seat <;> rfl
  | getUserRightsMask nodeId =>
    have hlvl := accessLvl_eq h
    simp only [step, getUserRightsMask, SessionAttributes.subscript_fst, hlvl]
    cases seat with
    | none => rfl
    | some seat => rfl
  | getUserAccessLevel nodeId =>
    have hlvl := accessLvl_eq h
    simp only [step, getUserAccessLevel, SessionAttributes.subscript_fst, hlvl]
    cases seat with
    | none => rfl
    | some seat => rfl
  | allowAddNode item => exact (allowAddNode_represents item h).1
  | allowAddReference item => exact allowAddReference_represents item h
  | allowBrowseNode nodeId =>
    simp only [step, allowBrowseNode]
    generalize t s = e at h
    cases h with
    | absent => rfl
    | powerless attrs h1 h2 => exact h2
    | seated attrs seat h1 h2 h3 h4 => exact h2

end HardwareMonitor.OpcUa
