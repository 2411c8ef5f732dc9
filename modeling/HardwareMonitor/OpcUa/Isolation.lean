/-
  HardwareMonitor.OpcUa.Isolation — how far the rules for nodes and references keep the
  devices apart.

  (1) An allowed node id belongs to the session's device. Whether that keeps it out of
      another device's subtree depends on the two names alone
      (`creation_isolated_iff`): dots are not kept out of device names, so `plc` may
      publish below `plc.sim`.
  (2) An allowed parent, or source of a reference, lies in the device's subtree but for
      one case (`confined_iff`): the remembered folder of a session that has not asked
      for one yet is the null id, and the null id passes for it.
-/

import HardwareMonitor.OpcUa.Sessions

namespace HardwareMonitor.OpcUa

/-! ## The verdicts -/

theorem addNode_reply (folder : NodeId) (es : Run) (s : NodeId) (item : AddNodesItem) :
    replyTo folder es s (.allowAddNode item) =
      .verdict (Seat.admits folder (seatAfter folder es s) (.allowAddNode item)) :=
  congrArg Reply.verdict (granted_iff_admitted folder es s (.allowAddNode item))

theorem addReference_reply (folder : NodeId) (es : Run) (s : NodeId) (item : AddReferencesItem) :
    replyTo folder es s (.allowAddReference item) =
      .verdict (Seat.admits folder (seatAfter folder es s) (.allowAddReference item)) :=
  congrArg Reply.verdict (granted_iff_admitted folder es s (.allowAddReference item))

/-- A node is allowed to a seat: the id is its device's, the parent is TelemetryClients
    or held by the seat. -/
theorem addNode_allowed_iff (folder : NodeId) (es : Run) (s : NodeId) (item : AddNodesItem) :
    replyTo folder es s (.allowAddNode item) = .verdict true ↔
      ∃ seat, seatAfter folder es s = some seat ∧
        nodeIdBelongsToDevice item.requestedNewNodeId.nodeId seat.device = true ∧
        (item.parentNodeId.nodeId = folder ∨ seat.holds item.parentNodeId.nodeId = true) := by
  rw [addNode_reply, Reply.verdict.injEq]
  cases seatAfter folder es s with
  | none => simp [Seat.admits]
  | some seat => simp [Seat.admits, Seat.admitsNode]

theorem addReference_allowed_iff (folder : NodeId) (es : Run) (s : NodeId) (item : AddReferencesItem) :
    replyTo folder es s (.allowAddReference item) = .verdict true ↔
      ∃ seat, seatAfter folder es s = some seat ∧ seat.holds item.sourceNodeId = true ∧
        (item.targetNodeId.nodeId.namespaceIndex = 0 ∨ item.referenceTypeId ≠ hasTypeDefinition ∧
          (item.targetNodeId.nodeId = folder ∨ seat.holds item.targetNodeId.nodeId = true)) := by
  rw [addReference_reply, Reply.verdict.injEq]
  cases seatAfter folder es s with
  | none => simp [Seat.admits]
  | some seat => simp [Seat.admits, Seat.admitsReference]

/-! ## (1) Node creation and other devices -/

/-- The device names an activation can be matched with. -/
def Returnable (d : String) : Prop :=
  ∃ devicesDir usrTknCert channelCert, findTrustedDevice devicesDir usrTknCert channelCert = some d

theorem presentedBy_device {d : String} (h : d ≠ "server") : (presentedBy d [7]).device = some d := by
  simp [Activation.device, presentedBy, findTrustedDevice, findTrustedEntry, h, parsePki]

/-- Every name but the server's. -/
theorem returnable_iff (d : String) : Returnable d ↔ d ≠ "server" := by
  constructor
  · intro h
    obtain ⟨dir, usr, channel, h⟩ := h
    unfold findTrustedDevice at h
    split at h
    · cases h
    · obtain ⟨e, -, rfl, htrust⟩ := findTrustedEntry_some h
      exact htrust.notServer
  · intro h
    refine ⟨(presentedBy d [7]).devicesDir, [7], [7], ?_⟩
    have hd := presentedBy_device h
    unfold Activation.device at hd
    simpa [presentedBy] using hd

/-- The run in which session 1 logs in as `d`. -/
def loggedIn (d : String) : Run := [(session 1, .activateSession (presentedBy d [7]))]

theorem loggedIn_seat {d : String} (h : d ≠ "server") (folder : NodeId) :
    seatAfter folder (loggedIn d) (session 1) = some (Seat.fresh d) := by
  have : seatAfter folder (loggedIn d) (session 1) = (presentedBy d [7]).device.map Seat.fresh := by
    simp [seatAfter, loggedIn, Lib.KeyedMachine.opsOf, Seat.after]
  rw [this, presentedBy_device h, Option.map_some]

/-- Asking for the id `idStr` directly under TelemetryClients. -/
def underClients (idStr : String) : AddNodesItem :=
  ⟨telemetryClientsFolderId.expanded, NodeId.expanded ⟨telemetryNamespaceIndex, .string idStr⟩,
    ⟨telemetryNamespaceIndex, idStr⟩⟩

/-- A device is granted any id that belongs to it under TelemetryClients. -/
theorem underClients_allowed {d : String} (hd : d ≠ "server") {idStr : String}
    (h : nodeIdBelongsToDevice ⟨telemetryNamespaceIndex, .string idStr⟩ d = true) :
    replyTo telemetryClientsFolderId (loggedIn d) (session 1) (.allowAddNode (underClients idStr)) = .verdict true :=
  (addNode_allowed_iff _ _ _ _).mpr ⟨_, loggedIn_seat hd telemetryClientsFolderId, h, Or.inl rfl⟩

/-- Sessions of `A` are kept out of `B`'s subtree exactly if neither name is a dotted
    prefix of the other. -/
theorem creation_isolated_iff (A B : String) (hA : Returnable A) (hAB : A ≠ B) :
    (∀ folder es s item, lastAccepted s es = some A → replyTo folder es s (.allowAddNode item) = .verdict true →
      nodeIdBelongsToDevice item.requestedNewNodeId.nodeId B = false) ↔
    ¬ DottedPrefix A B ∧ ¬ DottedPrefix B A := by
  rw [returnable_iff] at hA
  rw [← not_or, ← shared_id_iff telemetryNamespaceIndex hAB]
  constructor
  · intro h hshared
    obtain ⟨idStr, ha, hb⟩ := hshared
    have hlast := lastAccepted_of_seat telemetryClientsFolderId _ _ _ (loggedIn_seat hA telemetryClientsFolderId)
    have hno := h _ _ _ (underClients idStr) hlast (underClients_allowed hA ha)
    rw [show (underClients idStr).requestedNewNodeId.nodeId = ⟨telemetryNamespaceIndex, .string idStr⟩ from rfl, hb] at hno
    cases hno
  · intro h folder es s item hlast hallowed
    obtain ⟨seat, hseat, hreq, -⟩ := (addNode_allowed_iff _ _ _ _).mp hallowed
    rw [lastAccepted_of_seat folder es s seat hseat, Option.some.injEq] at hlast
    rw [hlast] at hreq
    by_contra hb
    rw [Bool.not_eq_false] at hb
    exact h ((shared_id_iff telemetryNamespaceIndex hAB).mpr (dotted_of_belongs hAB hreq hb))

/-- What `plc` is granted is none of `hmi`'s. -/
theorem creation_isolated_plc_hmi :
    nodeIdBelongsToDevice (underClients "plc.cpu").requestedNewNodeId.nodeId "hmi" = false :=
  (creation_isolated_iff "plc" "hmi" ((returnable_iff _).mpr (by decide)) (by decide)).mpr (by decide)
    telemetryClientsFolderId (loggedIn "plc") (session 1) (underClients "plc.cpu") (by decide) (by decide)

/-- `plc` may create `plc.sim.cpu`, a node of the device `plc.sim`. -/
theorem creation_reaches_dotted :
    Returnable "plc" ∧ Returnable "plc.sim" ∧ "plc" ≠ "plc.sim" ∧ lastAccepted (session 1) (loggedIn "plc") = some "plc" ∧
      replyTo telemetryClientsFolderId (loggedIn "plc") (session 1) (.allowAddNode (underClients "plc.sim.cpu")) =
        .verdict true ∧
      nodeIdBelongsToDevice (underClients "plc.sim.cpu").requestedNewNodeId.nodeId "plc.sim" = true := by
  refine ⟨(returnable_iff _).mpr (by decide), (returnable_iff _).mpr (by decide), by decide, by decide, by decide,
    by decide⟩

/-! ## (2) Parents and sources -/

/-- No folder of the session is on record yet: `device_folder_id` is the null id. -/
def folderless (folder : NodeId) (es : Run) (s : NodeId) : Prop :=
  (tableAfter folder es s).map (·.deviceFolderId) = some NodeId.null

/-- A seat holds the ids of its device, and the null id as long as it has no folder. -/
theorem holds_iff {folder : NodeId} {es : Run} {s : NodeId} {seat : Seat} (h : seatAfter folder es s = some seat)
    (id : NodeId) :
    seat.holds id = true ↔ nodeIdBelongsToDevice id seat.device = true ∨ id = NodeId.null ∧ folderless folder es s := by
  obtain ⟨attrs, hattrs, -, hfolder⟩ := entry_of_seat h
  unfold folderless
  rw [hattrs, Option.map_some, hfolder, Option.some.injEq]
  simp only [Seat.holds, Bool.or_eq_true, decide_eq_true_eq]
  constructor
  · intro hid
    rcases hid with hid | hid
    · rcases seat.owned with hnull | hown
      · exact Or.inr ⟨hid.trans hnull, hnull⟩
      · rw [hid]
        exact Or.inl hown
    · exact Or.inl hid
  · intro hid
    rcases hid with hid | ⟨hid, hnull⟩
    · exact Or.inr hid
    · exact Or.inl (hid.trans hnull.symm)

/-- The parent of an allowed node, but for a null parent while no folder is on record. -/
theorem parent_confined_iff {folder : NodeId} {es : Run} {s : NodeId} {seat : Seat} (h : seatAfter folder es s = some seat)
    (item : AddNodesItem) :
    (replyTo folder es s (.allowAddNode item) = .verdict true →
        item.parentNodeId.nodeId = folder ∨ nodeIdBelongsToDevice item.parentNodeId.nodeId seat.device = true) ↔
      ¬ (item.parentNodeId.nodeId = NodeId.null ∧ folderless folder es s ∧ folder ≠ NodeId.null ∧
        nodeIdBelongsToDevice item.requestedNewNodeId.nodeId seat.device = true) := by
  rw [addNode_allowed_iff]
  constructor
  · intro hconf hnull
    obtain ⟨hparent, hfolder, hne, hreq⟩ := hnull
    have hholds := (holds_iff h item.parentNodeId.nodeId).mpr (Or.inr ⟨hparent, hfolder⟩)
    rcases hconf ⟨seat, h, hreq, Or.inr hholds⟩ with hp | hp
    · exact hne (hp.symm.trans hparent)
    · rw [hparent, null_not_belongs] at hp
      cases hp
  · intro hno hallowed
    obtain ⟨seat', hseat', hreq, hparent⟩ := hallowed
    obtain rfl : seat = seat' := Option.some.inj (h.symm.trans hseat')
    rcases hparent with hp | hp
    · exact Or.inl hp
    · rcases (holds_iff h _).mp hp with hown | ⟨hnull, hfolder⟩
      · exact Or.inr hown
      · by_cases hne : folder = NodeId.null
        · exact Or.inl (hnull.trans hne.symm)
        · exact absurd ⟨hnull, hfolder, hne, hreq⟩ hno

/-- What a target of a reference must be, said of the seat or of its device: the null id
    the seat may hold is in namespace 0 anyway. -/
theorem target_iff {folder : NodeId} {es : Run} {s : NodeId} {seat : Seat} (h : seatAfter folder es s = some seat)
    (target : NodeId) (p : Prop) :
    (target.namespaceIndex = 0 ∨ p ∧ (target = folder ∨ seat.holds target = true)) ↔
      (target.namespaceIndex = 0 ∨ p ∧ (target = folder ∨ nodeIdBelongsToDevice target seat.device = true)) := by
  constructor
  · intro ht
    rcases ht with ht | ⟨hp, ht | ht⟩
    · exact Or.inl ht
    · exact Or.inr ⟨hp, Or.inl ht⟩
    · rcases (holds_iff h target).mp ht with hown | ⟨hnull, -⟩
      · exact Or.inr ⟨hp, Or.inr hown⟩
      · exact Or.inl (by rw [hnull]; rfl)
  · intro ht
    exact ht.imp_right fun ht => ⟨ht.1, ht.2.imp_right fun hown => (holds_iff h target).mpr (Or.inl hown)⟩

/-- The source and target of an allowed reference, but for a null source while no folder
    is on record. -/
theorem source_confined_iff {folder : NodeId} {es : Run} {s : NodeId} {seat : Seat} (h : seatAfter folder es s = some seat)
    (item : AddReferencesItem) :
    (replyTo folder es s (.allowAddReference item) = .verdict true →
        nodeIdBelongsToDevice item.sourceNodeId seat.device = true ∧
          (item.targetNodeId.nodeId = folder ∨ nodeIdBelongsToDevice item.targetNodeId.nodeId seat.device = true ∨
            item.targetNodeId.nodeId.namespaceIndex = 0)) ↔
      ¬ (item.sourceNodeId = NodeId.null ∧ folderless folder es s ∧
        (item.targetNodeId.nodeId.namespaceIndex = 0 ∨ item.referenceTypeId ≠ hasTypeDefinition ∧
          (item.targetNodeId.nodeId = folder ∨ nodeIdBelongsToDevice item.targetNodeId.nodeId seat.device = true))) := by
  rw [addReference_allowed_iff, ← target_iff h]
  constructor
  · intro hconf hnull
    obtain ⟨hsource, hfolder, htarget⟩ := hnull
    have hholds := (holds_iff h item.sourceNodeId).mpr (Or.inr ⟨hsource, hfolder⟩)
    have hown := (hconf ⟨seat, h, hholds, htarget⟩).1
    rw [hsource, null_not_belongs] at hown
    cases hown
  · intro hno hallowed
    obtain ⟨seat', hseat', hsource, htarget⟩ := hallowed
    obtain rfl : seat = seat' := Option.some.inj (h.symm.trans hseat')
    rcases (holds_iff h _).mp hsource with hown | ⟨hnull, hfolder⟩
    · refine ⟨hown, ?_⟩
      rcases (target_iff h _ _).mp htarget with ht | ⟨-, ht | ht⟩
      · exact Or.inr (Or.inr ht)
      · exact Or.inl ht
      · exact Or.inr (Or.inl ht)
    · exact absurd ⟨hnull, hfolder, htarget⟩ hno

/-- The parent of an allowed node is TelemetryClients or the device's, and the source of
    an allowed reference the device's with a target in reach: always, but for a null
    parent or source while no folder is on record. -/
theorem confined_iff (folder : NodeId) (es : Run) (s : NodeId) (a : Activation) (d : String)
    (ha : lastActivation s es = some a) (hd : a.device = some d) :
    (∀ item, (replyTo folder es s (.allowAddNode item) = .verdict true →
        item.parentNodeId.nodeId = folder ∨ nodeIdBelongsToDevice item.parentNodeId.nodeId d = true) ↔
      ¬ (item.parentNodeId.nodeId = NodeId.null ∧ folderless folder es s ∧ folder ≠ NodeId.null ∧
        nodeIdBelongsToDevice item.requestedNewNodeId.nodeId d = true)) ∧
    ∀ item, (replyTo folder es s (.allowAddReference item) = .verdict true →
        nodeIdBelongsToDevice item.sourceNodeId d = true ∧
          (item.targetNodeId.nodeId = folder ∨ nodeIdBelongsToDevice item.targetNodeId.nodeId d = true ∨
            item.targetNodeId.nodeId.namespaceIndex = 0)) ↔
      ¬ (item.sourceNodeId = NodeId.null ∧ folderless folder es s ∧
        (item.targetNodeId.nodeId.namespaceIndex = 0 ∨ item.referenceTypeId ≠ hasTypeDefinition ∧
          (item.targetNodeId.nodeId = folder ∨ nodeIdBelongsToDevice item.targetNodeId.nodeId d = true))) := by
  have hdev := seatAfter_device folder es s
  rw [ha, Option.bind_some, hd] at hdev
  obtain ⟨seat, hseat, rfl⟩ := Option.map_eq_some_iff.mp hdev
  exact ⟨parent_confined_iff hseat, source_confined_iff hseat⟩

/-- Once its folder is on record, the null id is no parent for `plc`. -/
theorem confined_published :
    ¬ replyTo telemetryClientsFolderId twoDevices (session 1) (.allowAddNode
      ⟨NodeId.null.expanded, NodeId.expanded ⟨1, .string "plc.cpu"⟩, ⟨1, "cpu"⟩⟩) = .verdict true := by
  intro h
  have hconf := ((confined_iff telemetryClientsFolderId twoDevices (session 1) (presentedBy "plc" [7]) "plc" (by decide)
    (by decide)).1 ⟨NodeId.null.expanded, NodeId.expanded ⟨1, .string "plc.cpu"⟩, ⟨1, "cpu"⟩⟩).mpr
      (fun hnull => absurd hnull.2.1 (by unfold folderless; decide)) h
  exact absurd hconf (by decide)

/-- Freshly logged in, `plc` may hang a node under the null id, and refer from it. -/
theorem null_parent_allowed :
    replyTo telemetryClientsFolderId (loggedIn "plc") (session 1) (.allowAddNode
        ⟨NodeId.null.expanded, NodeId.expanded ⟨1, .string "plc"⟩, ⟨1, "plc"⟩⟩) = .verdict true ∧
      NodeId.null ≠ telemetryClientsFolderId ∧ nodeIdBelongsToDevice NodeId.null "plc" = false ∧
      replyTo telemetryClientsFolderId (loggedIn "plc") (session 1) (.allowAddReference
        ⟨NodeId.null, ⟨0, .numeric 35⟩, objectsFolder.expanded⟩) = .verdict true := by
  decide

end HardwareMonitor.OpcUa
