/-
  HardwareMonitor.ControlCenter.Attribution — under whose name the control center shows
  a row, and who published it.

  The server authorises by NodeId; the control center names a client by the BrowseName
  of its folder. Whatever the tree does between its requests, each monitored item hangs
  in a chain of published nodes folder – device – sensors, and its rows go out under the
  BrowseName of that folder (`Attributed`, kept by every request: `poll_keeps`).
  AddNodes lets the client choose the BrowseName freely, so a row is shown under the
  name of the device that published it exactly if that device chose its own name for
  its folder, and no dotted name took part (`attributed_iff`).
-/

import HardwareMonitor.Lib.Throwing
import HardwareMonitor.OpcUa.PublishedTree
import HardwareMonitor.ControlCenter.Discovery

namespace HardwareMonitor.ControlCenter

open HardwareMonitor.OpcUa
open HardwareMonitor.Lib.Throwing

/-- The remote answers out of the published nodes: TelemetryClients is the server's own
    folder, a node's children are nodes created below it (not necessarily all of them
    yet), and a BrowseName is the one the node was created with. -/
structure Remote.Reports (remote : Remote) (folder : NodeId) (nodes : List PublishedNode) : Prop where
  clients : ∀ date id,
    remote.browseChild date objectsFolder ⟨telemetryNamespaceIndex, telemetryClientsFolderName⟩ = some id → id = folder
  children : ∀ date parent ids, remote.browseChildren date parent = some ids →
    ∀ id ∈ ids, ∃ n ∈ nodes, n.nodeId = id ∧ n.parent = parent
  browseName : ∀ date id name, remote.readBrowseName date id = some name → ∀ n ∈ nodes, n.nodeId = id → n.browseName = name

/-- A client folder, a device node in it and the sensors node of that. -/
structure Chain (folder : NodeId) (nodes : List PublishedNode) (F D S : PublishedNode) : Prop where
  folderMem : F ∈ nodes
  deviceMem : D ∈ nodes
  sensorsMem : S ∈ nodes
  folderParent : F.parent = folder
  deviceParent : D.parent = F.nodeId
  sensorsParent : S.parent = D.nodeId

/-- Each monitored item belongs to a chain, and the cache entry its callback will find
    holds the BrowseName of the chain's folder. -/
def Attributed (folder : NodeId) (nodes : List PublishedNode) (cc : Client) : Prop :=
  ∀ item ∈ cc.monitoredItems, ∃ cache, cc.deviceCache item.deviceNodeId = some cache ∧
    ∃ F D S, Chain folder nodes F D S ∧ S.nodeId = item.nodeId ∧ cache.clientFolderName = F.browseName.name

variable {remote : Remote} {nodeIdToString : NodeId → String} {folder : NodeId} {nodes : List PublishedNode}

/-! ## Requests -/

/-- Not a matter of how many requests have been made. -/
def Timeless (P : Client → Prop) : Prop := ∀ cc n, P cc → P { cc with requests := n }

/-- A request changes nothing but the date. -/
theorem request_ensures {α : Type} {P E : Client → Prop} (answer : Nat → Option α) (hP : Timeless P)
    (hE : ∀ cc, P cc → E cc) : Ensures P (request answer) (fun a cc => (∃ date, answer date = some a) ∧ P cc) E := by
  intro cc hcc
  unfold request
  cases ha : answer cc.requests with
  | none => exact hE _ (hP cc _ hcc)
  | some a => exact ⟨⟨cc.requests, ha⟩, hP cc _ hcc⟩

theorem timeless_attributed : Timeless (Attributed folder nodes) := fun _ _ h => h

/-- What a client still holds of a device before its cache entry is made. -/
def Pending (folder : NodeId) (nodes : List PublishedNode) (key : String) (cc : Client) : Prop :=
  cc.deviceCache key = none ∧ Attributed folder nodes cc

theorem timeless_pending (folder : NodeId) (nodes : List PublishedNode) (key : String) : Timeless (Pending folder nodes key) := fun _ _ h => h

theorem readStringNode_ensures {P E : Client → Prop} (hP : Timeless P) (hE : ∀ cc, P cc → E cc) (id : NodeId) :
    Ensures P (readStringNode remote id) (fun _ => P) E := by
  unfold readStringNode
  refine Ensures.bind (request_ensures _ hP hE) fun val => ?_
  exact Ensures.pure _ fun cc h => h.2

theorem readDeviceInfo_ensures {P E : Client → Prop} (hP : Timeless P) (hE : ∀ cc, P cc → E cc)
    (ids : SnapshotNodeIds) : Ensures P (readDeviceInfo remote ids) (fun _ => P) E := by
  unfold readDeviceInfo
  refine Ensures.bind (readStringNode_ensures hP hE ids.name) fun name => ?_
  refine Ensures.bind (readStringNode_ensures hP hE ids.vendor) fun vendor => ?_
  refine Ensures.bind (readStringNode_ensures hP hE ids.hardwareType) fun hardwareType => ?_
  exact Ensures.pure _ fun cc h => h

/-! ## The children of a device -/

/-- The sensors node found, if any, is published below the device. -/
def SensorsBelow (nodes : List PublishedNode) (deviceNode : NodeId) (found : Found) : Prop :=
  found.foundSensors = true → ∃ S ∈ nodes, S.nodeId = found.sensorsNode ∧ S.parent = deviceNode

theorem note_sensorsBelow {deviceNode child : NodeId} {found : Found} (h : SensorsBelow nodes deviceNode found)
    (hchild : ∃ S ∈ nodes, S.nodeId = child ∧ S.parent = deviceNode) (childName : String) :
    SensorsBelow nodes deviceNode (found.note child childName) := by
  unfold Found.note
  split
  · exact h
  split
  · exact h
  split
  · exact h
  split
  · exact fun _ => hchild
  · exact h

theorem noteChildren_ensures {P E : Client → Prop} (hP : Timeless P) (hE : ∀ cc, P cc → E cc)
    (deviceNode : NodeId) (children : List NodeId)
    (hchildren : ∀ c ∈ children, ∃ n ∈ nodes, n.nodeId = c ∧ n.parent = deviceNode) :
    Ensures P (children.foldlM (noteChild remote) (Found.start deviceNode))
      (fun found cc => SensorsBelow nodes deviceNode found ∧ P cc) E := by
  have hstart : SensorsBelow nodes deviceNode (Found.start deviceNode) := fun h => absurd h Bool.false_ne_true
  refine Ensures.weaken (Ensures.foldlM (R := fun found cc => SensorsBelow nodes deviceNode found ∧ P cc) children ?_ _)
    (fun cc h => ⟨hstart, h⟩) fun found cc h => h
  intro found child hmem
  refine Ensures.assume fun hfound => ?_
  unfold noteChild
  refine Ensures.bind (request_ensures _ hP hE) fun childName => ?_
  exact Ensures.pure _ fun cc h => ⟨note_sensorsBelow hfound (hchildren child hmem) childName.name, h.2⟩

/-! ## One device -/

theorem setCache_attributed {key : String} {cc : Client} (h : Pending folder nodes key cc) (cache : DeviceCache) :
    Attributed folder nodes (cc.setCache key cache) := by
  intro item hitem
  obtain ⟨c, hc, hchain⟩ := h.2 item hitem
  exact ⟨c, setCache_keeps h.1 cache hc, hchain⟩

theorem subscribe_ensures {key : String} (cache : DeviceCache) {F D S : PublishedNode} (hchain : Chain folder nodes F D S)
    (hname : cache.clientFolderName = F.browseName.name) :
    Ensures (fun cc => cc.deviceCache key = some cache ∧ Attributed folder nodes cc)
      (subscribeDataChange remote S.nodeId key) (fun _ => Attributed folder nodes) (Attributed folder nodes) := by
  unfold subscribeDataChange
  refine Ensures.bind (request_ensures _ (fun _ _ h => h) fun cc h => h.2) fun _ => ?_
  refine Ensures.modify fun cc h => ?_
  obtain ⟨-, hcache, hcc⟩ := h
  intro item hitem
  rcases List.mem_append.mp hitem with hitem | hitem
  · exact hcc item hitem
  · rw [List.mem_singleton.mp hitem]
    exact ⟨cache, hcache, F, D, S, hchain, rfl, hname⟩

/-- A visit to a published device keeps the attribution, also if it throws. -/
theorem visitDevice_ensures (hr : remote.Reports folder nodes) {F D : PublishedNode} (hF : F ∈ nodes) (hD : D ∈ nodes)
    (hFp : F.parent = folder) (hDp : D.parent = F.nodeId) :
    Ensures (Attributed folder nodes) (visitDevice remote nodeIdToString F.browseName.name D.nodeId)
      (fun _ => Attributed folder nodes) (Attributed folder nodes) := by
  unfold visitDevice
  refine Ensures.bind (Ensures.get (Q := fun seen cc => seen = cc ∧ Attributed folder nodes cc)
    fun cc h => ⟨rfl, h⟩) fun seen => ?_
  cases hcached : seen.deviceCache (nodeIdToString D.nodeId) with
  | some cache =>
    simp only [Option.isSome_some, if_true]
    exact Ensures.pure _ fun cc h => h.2
  | none =>
    simp only [Option.isSome_none, Bool.false_eq_true, if_false]
    have hpending : ∀ cc, Pending folder nodes (nodeIdToString D.nodeId) cc → Attributed folder nodes cc := fun _ h => h.2
    have htime := timeless_pending folder nodes (nodeIdToString D.nodeId)
    refine Ensures.weaken (P := Pending folder nodes (nodeIdToString D.nodeId)) ?_ (fun cc h => ?_) fun _ cc h => h
    · refine Ensures.bind (request_ensures _ htime hpending) fun children => ?_
      refine Ensures.assume fun hchildren => ?_
      obtain ⟨date, hchildren⟩ := hchildren
      refine Ensures.bind (noteChildren_ensures htime hpending D.nodeId children (hr.children date _ _ hchildren))
        fun found => ?_
      refine Ensures.assume fun hfound => ?_
      cases hs : found.foundSensors with
      | false =>
        simp only [Bool.not_false, if_true]
        exact Ensures.pure _ hpending
      | true =>
        simp only [Bool.not_true, Bool.false_eq_true, if_false]
        obtain ⟨S, hS, hSid, hSp⟩ := hfound hs
        have hchain : Chain folder nodes F D S := ⟨hF, hD, hS, hFp, hDp, hSp⟩
        refine Ensures.bind (readDeviceInfo_ensures htime hpending found.ids) fun info => ?_
        rw [← hSid]
        refine Ensures.bind ?_ fun _ => subscribe_ensures ⟨F.browseName.name, info⟩ hchain rfl
        refine Ensures.modify fun cc h => ⟨?_, setCache_attributed h _⟩
        exact if_pos rfl
    · rw [← h.1]
      exact ⟨hcached, h.1 ▸ h.2⟩

/-! ## A whole discovery -/

theorem visitClientFolder_ensures (hr : remote.Reports folder nodes) {F : PublishedNode} (hF : F ∈ nodes)
    (hFp : F.parent = folder) :
    Ensures (Attributed folder nodes) (visitClientFolder remote nodeIdToString F.nodeId)
      (fun _ => Attributed folder nodes) (Attributed folder nodes) := by
  unfold visitClientFolder
  refine Ensures.bind (request_ensures _ timeless_attributed fun _ h => h) fun clientFolderName => ?_
  refine Ensures.assume fun hname => ?_
  obtain ⟨date, hname⟩ := hname
  refine Ensures.bind (request_ensures _ timeless_attributed fun _ h => h) fun deviceNodes => ?_
  refine Ensures.assume fun hdevices => ?_
  obtain ⟨date', hdevices⟩ := hdevices
  refine Ensures.forM deviceNodes fun deviceNode hmem => ?_
  obtain ⟨D, hD, rfl, hDp⟩ := hr.children date' _ _ hdevices deviceNode hmem
  rw [← hr.browseName date _ _ hname F hF rfl]
  exact visitDevice_ensures hr hF hD hFp hDp

theorem discoverAndSubscribe_ensures (nodeIdToString : NodeId → String) (hr : remote.Reports folder nodes) :
    Ensures (Attributed folder nodes) (discoverAndSubscribe remote nodeIdToString)
      (fun _ => Attributed folder nodes) (Attributed folder nodes) := by
  unfold discoverAndSubscribe
  refine Ensures.bind (request_ensures _ timeless_attributed fun _ h => h) fun clientsFolder => ?_
  refine Ensures.assume fun hclients => ?_
  obtain ⟨date, hclients⟩ := hclients
  cases clientsFolder.isNull with
  | true =>
    simp only [if_true]
    exact Ensures.pure _ fun cc h => h
  | false =>
    simp only [Bool.false_eq_true, if_false]
    refine Ensures.bind (request_ensures _ timeless_attributed fun _ h => h) fun clientFolders => ?_
    refine Ensures.assume fun hfolders => ?_
    obtain ⟨date', hfolders⟩ := hfolders
    refine Ensures.forM clientFolders fun clientFolder hmem => ?_
    obtain ⟨F, hF, rfl, hFp⟩ := hr.children date' _ _ hfolders clientFolder hmem
    exact visitClientFolder_ensures hr hF (hFp.trans (hr.clients date _ hclients))

/-- What a discovery leaves whether it returns or throws, a poll leaves. -/
theorem poll_ensures {P Q : Client → Prop} (hd : Ensures P (discoverAndSubscribe remote nodeIdToString) (fun _ => Q) Q)
    {cc : Client} (h : P cc) : Q (poll remote nodeIdToString cc) := by
  unfold poll
  cases hres : discoverAndSubscribe remote nodeIdToString cc with
  | ok a cc' => exact hd.of_ok h hres
  | error e cc' => exact hd.of_error h hres

/-- A discovery keeps the attribution, whether it returns or throws. -/
theorem poll_keeps (hr : remote.Reports folder nodes) {cc : Client} (h : Attributed folder nodes cc) :
    Attributed folder nodes (poll remote nodeIdToString cc) :=
  poll_ensures (discoverAndSubscribe_ensures nodeIdToString hr) h

theorem afterPolls_attributed (hr : remote.Reports folder nodes) (n : Nat) :
    Attributed folder nodes (afterPolls remote nodeIdToString n) := by
  induction n with
  | zero =>
    intro item hitem
    cases hitem
  | succ n ih => exact poll_keeps hr ih

/-! ## Whose name a row carries -/

/-- Neither name is a dotted prefix of the other. -/
def Unrelated (a b : String) : Prop := ¬ DottedPrefix a b ∧ ¬ DottedPrefix b a

instance (a b : String) : Decidable (Unrelated a b) := inferInstanceAs (Decidable (_ ∧ _))

theorem unrelated_self (a : String) : Unrelated a a := ⟨not_dottedPrefix_self a, not_dottedPrefix_self a⟩

/-- A child of a published node was created by the same device, but for dotted names. -/
theorem creator_eq_iff {es : Run} {n p : PublishedNode} (hn : n ∈ (serverAfter folder es).nodes)
    (hp : p ∈ (serverAfter folder es).nodes) (h : n.parent = p.nodeId) :
    p.creator = n.creator ↔ Unrelated p.creator n.creator := by
  constructor
  · intro e
    rw [e]
    exact unrelated_self n.creator
  · intro hun
    rcases creator_of_child folder hn hp h with e | e | e
    · exact e.symm
    · exact absurd e hun.1
    · exact absurd e hun.2

/-- Every row goes out under the BrowseName of the client folder above its sensors. That
    is the device that created the folder, and that published the row, exactly if the
    folder was created with the device's own name as its BrowseName and no creator's
    name along the way is a dotted prefix of the next one's. -/
theorem attributed_iff (folder : NodeId) (es : Run) (remote : Remote)
    (hr : remote.Reports folder (serverAfter folder es).nodes) (nodeIdToString : NodeId → String)
    (decodeBinary : ByteString → Option SensorDto) (formatValue : UInt32 → String) (polls : Nat) (item : MonitoredItem)
    (hitem : item ∈ (afterPolls remote nodeIdToString polls).monitoredItems) (value : Variant) (call : SinkCall)
    (hcall : handleSensorUpdate decodeBinary formatValue (afterPolls remote nodeIdToString polls) item.deviceNodeId value =
      some call) :
    ∃ F D S, Chain folder (serverAfter folder es).nodes F D S ∧ S.nodeId = item.nodeId ∧
      call.clientFolderName = F.browseName.name ∧
      ((call.clientFolderName = F.creator ∧ call.clientFolderName = D.creator ∧ call.clientFolderName = S.creator) ↔
        F.browseName.name = F.creator ∧ Unrelated F.creator D.creator ∧ Unrelated D.creator S.creator) := by
  obtain ⟨cache, hcache, F, D, S, hchain, hS, hname⟩ := afterPolls_attributed hr polls item hitem
  have hrow : call.clientFolderName = F.browseName.name := by
    simp only [handleSensorUpdate, hcache, Option.some.injEq] at hcall
    rw [← hcall]
    exact hname
  refine ⟨F, D, S, hchain, hS, hrow, ?_⟩
  rw [hrow, ← creator_eq_iff hchain.deviceMem hchain.folderMem hchain.deviceParent,
    ← creator_eq_iff hchain.sensorsMem hchain.deviceMem hchain.sensorsParent]
  constructor
  · intro h
    exact ⟨h.1, h.1.symm.trans h.2.1, h.2.1.symm.trans h.2.2⟩
  · intro h
    exact ⟨h.1, h.1.trans h.2.1, (h.1.trans h.2.1).trans h.2.2⟩

/-! ## A tree -/

/-- A server that holds these nodes, none of them written to yet. -/
def treeRemote (folder : NodeId) (nodes : List PublishedNode) : Remote where
  browseChild _ parent name :=
    if parent = objectsFolder ∧ name = ⟨telemetryNamespaceIndex, telemetryClientsFolderName⟩ then some folder else none
  browseChildren _ parent := some ((nodes.filter fun n => n.parent = parent).map (·.nodeId))
  readBrowseName _ id := (nodes.find? fun n => n.nodeId = id).map (·.browseName)
  readValue _ id := (nodes.find? fun n => n.nodeId = id).map fun _ => .empty
  createMonitoredItem _ id := (nodes.find? fun n => n.nodeId = id).map fun _ => ()

theorem treeRemote_reports (folder : NodeId) (es : Run) :
    (treeRemote folder (serverAfter folder es).nodes).Reports folder (serverAfter folder es).nodes where
  clients date id h := by simpa [treeRemote, eq_comm] using h
  children date parent ids h id hid := by
    rw [treeRemote, Option.some.injEq] at h
    rw [← h] at hid
    obtain ⟨n, hn, rfl⟩ := List.mem_map.mp hid
    obtain ⟨hmem, hpar⟩ := List.mem_filter.mp hn
    exact ⟨n, hmem, rfl, by simpa using hpar⟩
  browseName date id name h n hn hid := by
    obtain ⟨m, hm, rfl⟩ := Option.map_eq_some_iff.mp h
    have hmem := List.mem_of_find?_eq_some hm
    have hmid : m.nodeId = id := by simpa using List.find?_some hm
    rw [node_unique folder hn hmem (hid.trans hmid.symm)]

/-- A request for the id `idStr` below `parent`, with a BrowseName. -/
def addBelow (parent : NodeId) (idStr name : String) : NodeId × Operation :=
  (session 1, .allowAddNode
    ⟨parent.expanded, NodeId.expanded ⟨telemetryNamespaceIndex, .string idStr⟩, ⟨telemetryNamespaceIndex, name⟩⟩)

/-- `plc` publishes one device, in a folder whose BrowseName is `name`. -/
def plcPublishes (name : String) : Run :=
  loggedIn "plc" ++
    [addBelow telemetryClientsFolderId "plc" name, addBelow ⟨1, .string "plc"⟩ "plc.cpu" "cpu",
      addBelow ⟨1, .string "plc.cpu"⟩ "plc.cpu.name" "name", addBelow ⟨1, .string "plc.cpu"⟩ "plc.cpu.vendor" "vendor",
      addBelow ⟨1, .string "plc.cpu"⟩ "plc.cpu.hardware_type" "hardware_type",
      addBelow ⟨1, .string "plc.cpu"⟩ "plc.cpu.sensors" "sensors"]

def idString (id : NodeId) : String := id.identifierIfString.getD ""

/-- The control center after its first discovery of that tree. -/
def plcDiscovered (name : String) : Client :=
  afterPolls (treeRemote telemetryClientsFolderId (serverAfter telemetryClientsFolderId (plcPublishes name)).nodes)
    idString 1

/-- With `plc` for its folder's BrowseName, the rows of `plc` go out as `plc`'s. -/
theorem attributed_plc :
    ∃ F D S, Chain telemetryClientsFolderId (serverAfter telemetryClientsFolderId (plcPublishes "plc")).nodes F D S ∧
      S.nodeId = ⟨1, .string "plc.cpu.sensors"⟩ ∧ F.browseName.name = "plc" := by
  obtain ⟨F, D, S, hchain, hS, hrow, -⟩ := attributed_iff telemetryClientsFolderId (plcPublishes "plc") _
    (treeRemote_reports _ _) idString (fun _ => none) (fun _ => "") 1 ⟨⟨1, .string "plc.cpu.sensors"⟩, "plc.cpu"⟩
    (by decide +kernel) .empty ⟨"plc", "", ⟨[(" ()", "")]⟩⟩ (by decide +kernel)
  exact ⟨F, D, S, hchain, hS, hrow.symm⟩

/-- `plc` calls its folder `hmi`, and its rows go out under that name. -/
theorem rows_under_another_name :
    (∃ F ∈ (serverAfter telemetryClientsFolderId (plcPublishes "hmi")).nodes, F.parent = telemetryClientsFolderId ∧
        F.nodeId = ⟨1, .string "plc"⟩ ∧ F.creator = "plc") ∧
      (plcDiscovered "hmi").monitoredItems = [⟨⟨1, .string "plc.cpu.sensors"⟩, "plc.cpu"⟩] ∧
      (handleSensorUpdate (fun _ => none) (fun _ => "") (plcDiscovered "hmi") "plc.cpu" .empty).map (·.clientFolderName) =
        some "hmi" := by
  decide +kernel

end HardwareMonitor.ControlCenter
