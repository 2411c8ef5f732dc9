/-
  HardwareMonitor.ControlCenter.Subscriptions — which devices the control center has
  subscribed to, after any number of discoveries that return.

  The tree is any tree with unique ids, still during a discovery and larger at the next
  (`Discoveries`). Every device with a sensors variable has one monitored item, no other
  node has one, and the key each callback captured leads to its device's cache entry
  (`subscribed_exactly_once`).

  The loops share one invariant, `Serves`: cached keys are the keys with an item, each
  once. A device without sensors is left as it was, for the next discovery to look at.
-/

import HardwareMonitor.ControlCenter.Attribution

namespace HardwareMonitor.ControlCenter

open HardwareMonitor.OpcUa
open HardwareMonitor.Lib.Throwing

/-! ## Trees and discoveries -/

/-- The remote shows this tree and nothing else, in any order. It may throw. -/
structure Remote.Shows (remote : Remote) (nodes : List PublishedNode) : Prop where
  clients : ∀ date id,
    remote.browseChild date objectsFolder ⟨telemetryNamespaceIndex, telemetryClientsFolderName⟩ = some id →
      id = telemetryClientsFolderId
  children : ∀ date parent ids, remote.browseChildren date parent = some ids →
    ∀ id, id ∈ ids ↔ ∃ n ∈ nodes, n.nodeId = id ∧ n.parent = parent
  browseName : ∀ date id name, remote.readBrowseName date id = some name → ∃ n ∈ nodes, n.nodeId = id ∧ n.browseName = name

def UniqueIds (nodes : List PublishedNode) : Prop := ∀ n ∈ nodes, ∀ m ∈ nodes, n.nodeId = m.nodeId → n = m

/-- The first `n` discoveries of a client, each over a tree that only nodes have been added
    to since the one before, and all returning normally. -/
structure Discoveries (nodeIdToString : NodeId → String) (n : Nat) (trees : Nat → List PublishedNode) (remotes : Nat → Remote)
    (clients : Nat → Client) : Prop where
  start : clients 0 = .start
  grows : ∀ i < n, ∀ m ∈ trees i, m ∈ trees (i + 1)
  unique : ∀ i < n, UniqueIds (trees i)
  shows : ∀ i < n, (remotes i).Shows (trees i)
  returns : ∀ i < n, discoverAndSubscribe (remotes i) nodeIdToString (clients i) = .ok () (clients (i + 1))

/-- `D` is a device node, in the client folder `F`. -/
structure DeviceIn (nodes : List PublishedNode) (F D : PublishedNode) : Prop where
  folderMem : F ∈ nodes
  deviceMem : D ∈ nodes
  folderParent : F.parent = telemetryClientsFolderId
  deviceParent : D.parent = F.nodeId

/-- `S` is the sensors variable of the device `D`. -/
structure SensorsOf (nodes : List PublishedNode) (D S : PublishedNode) : Prop where
  mem : S ∈ nodes
  parent : S.parent = D.nodeId
  browseName : S.browseName.name = "sensors"

def HasSensors (nodes : List PublishedNode) (D : PublishedNode) : Prop := ∃ S, SensorsOf nodes D S

/-! ## The invariant -/

/-- The keys the callbacks of the monitored items have captured. -/
def Client.keys (cc : Client) : List String := cc.monitoredItems.map (·.deviceNodeId)

/-- The item belongs to a device with sensors, and its key leads to that device's entry. -/
structure ServesItem (nodeIdToString : NodeId → String) (nodes : List PublishedNode) (cc : Client) (item : MonitoredItem)
    (F D S : PublishedNode) : Prop where
  device : DeviceIn nodes F D
  sensors : SensorsOf nodes D S
  nodeId : item.nodeId = S.nodeId
  key : item.deviceNodeId = nodeIdToString D.nodeId
  entry : ∃ info, cc.deviceCache item.deviceNodeId = some ⟨F.browseName.name, info⟩

/-- Each cached key has one item, and each item is a device's. -/
structure Serves (nodeIdToString : NodeId → String) (nodes : List PublishedNode) (cc : Client) : Prop where
  once : cc.keys.Nodup
  cached : ∀ key, (cc.deviceCache key).isSome = true ↔ key ∈ cc.keys
  items : ∀ item ∈ cc.monitoredItems, ∃ F D S, ServesItem nodeIdToString nodes cc item F D S

/-- The client serves its items, and the keys with an item are these. -/
def ServesKeys (nodeIdToString : NodeId → String) (nodes : List PublishedNode) (B : String → Prop) (cc : Client) : Prop :=
  Serves nodeIdToString nodes cc ∧ ∀ key, key ∈ cc.keys ↔ B key

section

variable {nodeIdToString : NodeId → String} {nodes nodes' : List PublishedNode} {remote : Remote} {B B' : String → Prop}
  {F D : PublishedNode}

theorem timeless_servesKeys : Timeless (ServesKeys nodeIdToString nodes B) := by
  intro cc n h
  refine ⟨⟨h.1.once, h.1.cached, fun item hitem => ?_⟩, h.2⟩
  obtain ⟨F, D, S, hs⟩ := h.1.items item hitem
  exact ⟨F, D, S, ⟨hs.device, hs.sensors, hs.nodeId, hs.key, hs.entry⟩⟩

theorem Serves.start : Serves nodeIdToString nodes .start where
  once := List.nodup_nil
  cached key := by simp [Client.start, Client.keys]
  items _ h := nomatch h

theorem Serves.mono {cc : Client} (h : Serves nodeIdToString nodes cc) (hsub : ∀ n ∈ nodes, n ∈ nodes') :
    Serves nodeIdToString nodes' cc where
  once := h.once
  cached := h.cached
  items item hitem := by
    obtain ⟨F, D, S, hs⟩ := h.items item hitem
    exact ⟨F, D, S, ⟨hsub _ hs.device.folderMem, hsub _ hs.device.deviceMem, hs.device.folderParent, hs.device.deviceParent⟩,
      ⟨hsub _ hs.sensors.mem, hs.sensors.parent, hs.sensors.browseName⟩, hs.nodeId, hs.key, hs.entry⟩

theorem ServesKeys.congr {cc : Client} (h : ServesKeys nodeIdToString nodes B cc) (hB : ∀ key, B key ↔ B' key) :
    ServesKeys nodeIdToString nodes B' cc := ⟨h.1, fun key => (h.2 key).trans (hB key)⟩

/-- A device with sensors is cached and subscribed to. -/
theorem Serves.subscribe {cc : Client} (h : Serves nodeIdToString nodes cc) (hD : DeviceIn nodes F D) {S : PublishedNode}
    (hS : SensorsOf nodes D S) (hnew : cc.deviceCache (nodeIdToString D.nodeId) = none) (info : DecodedDevice) :
    Serves nodeIdToString nodes
      { cc.setCache (nodeIdToString D.nodeId) ⟨F.browseName.name, info⟩ with
        monitoredItems := cc.monitoredItems ++ [⟨S.nodeId, nodeIdToString D.nodeId⟩] } where
  once := by
    have hnot : nodeIdToString D.nodeId ∉ cc.keys := by
      intro hmem
      rw [← h.cached, hnew] at hmem
      cases hmem
    show (List.map _ (cc.monitoredItems ++ [_])).Nodup
    rw [List.map_append, List.nodup_append]
    refine ⟨h.once, List.nodup_singleton _, fun a ha b hb hab => ?_⟩
    rw [List.map_singleton, List.mem_singleton] at hb
    rw [hab, hb] at ha
    exact hnot ha
  cached key := by
    simp only [Client.setCache, Client.keys, List.map_append, List.map_singleton, List.mem_append, List.mem_singleton]
    by_cases hkey : key = nodeIdToString D.nodeId
    · simp [hkey]
    · simp only [hkey, if_false, or_false]
      exact h.cached key
  items item hitem := by
    rcases List.mem_append.mp hitem with hitem | hitem
    · obtain ⟨F', D', S', hs⟩ := h.items item hitem
      obtain ⟨info', hentry⟩ := hs.entry
      exact ⟨F', D', S', hs.device, hs.sensors, hs.nodeId, hs.key, info', setCache_keeps hnew _ hentry⟩
    · rw [List.mem_singleton.mp hitem]
      exact ⟨F, D, S, hD, hS, rfl, rfl, info, if_pos rfl⟩

/-! ## One device -/

/-- Only a child called `sensors` counts, and the last one does. -/
theorem note_sensors (found : Found) (child : NodeId) (childName : String) :
    ((found.note child childName).foundSensors = true ↔ found.foundSensors = true ∨ childName = "sensors") ∧
      (found.note child childName).sensorsNode = if childName = "sensors" then child else found.sensorsNode := by
  unfold Found.note
  split
  · next e => simp [e]
  split
  · next e => simp [e]
  split
  · next e => simp [e]
  split
  · next e => simp [e]
  · next e => simp [e]

/-- What the loop over a device's children knows of its sensors. -/
structure Looked (nodes : List PublishedNode) (D : PublishedNode) (seen : List NodeId) (found : Found) : Prop where
  complete : ∀ S, SensorsOf nodes D S → S.nodeId ∈ seen → found.foundSensors = true
  sound : found.foundSensors = true → ∃ S, SensorsOf nodes D S ∧ S.nodeId = found.sensorsNode

theorem Looked.note {seen : List NodeId} {found : Found} (h : Looked nodes D seen found) (hu : UniqueIds nodes)
    {n : PublishedNode} (hn : n ∈ nodes) (hparent : n.parent = D.nodeId) :
    Looked nodes D (seen ++ [n.nodeId]) (found.note n.nodeId n.browseName.name) := by
  obtain ⟨hfound, hnode⟩ := note_sensors found n.nodeId n.browseName.name
  constructor
  · intro S hS hmem
    rw [hfound]
    rcases List.mem_append.mp hmem with hmem | hmem
    · exact Or.inl (h.complete S hS hmem)
    · rw [← hu S hS.mem n hn (List.mem_singleton.mp hmem)]
      exact Or.inr hS.browseName
  · intro hs
    rw [hnode]
    by_cases hname : n.browseName.name = "sensors"
    · rw [if_pos hname]
      exact ⟨n, ⟨hn, hparent, hname⟩, rfl⟩
    · rw [if_neg hname]
      exact h.sound ((hfound.mp hs).resolve_right hname)

/-- The keys with an item, once these of the devices have been visited as well. -/
def withDevices (nodeIdToString : NodeId → String) (nodes : List PublishedNode) (B : String → Prop)
    (visited : PublishedNode → Prop) (key : String) : Prop :=
  B key ∨ ∃ D, visited D ∧ HasSensors nodes D ∧ key = nodeIdToString D.nodeId

/-- Visits one after another add up. -/
theorem withDevices_trans {p q r : PublishedNode → Prop} (h : ∀ D, r D ↔ p D ∨ q D) (key : String) :
    withDevices nodeIdToString nodes (withDevices nodeIdToString nodes B p) q key ↔ withDevices nodeIdToString nodes B r key := by
  constructor
  · intro hcase
    rcases hcase with (hB | ⟨D, hp, hD⟩) | ⟨D, hq, hD⟩
    · exact Or.inl hB
    · exact Or.inr ⟨D, (h D).mpr (Or.inl hp), hD⟩
    · exact Or.inr ⟨D, (h D).mpr (Or.inr hq), hD⟩
  · intro hcase
    rcases hcase with hB | ⟨D, hr, hD⟩
    · exact Or.inl (Or.inl hB)
    · rcases (h D).mp hr with hp | hq
      · exact Or.inl (Or.inr ⟨D, hp, hD⟩)
      · exact Or.inr ⟨D, hq, hD⟩

theorem withDevices_none {p : PublishedNode → Prop} (h : ∀ D, ¬ p D) (key : String) :
    B key ↔ withDevices nodeIdToString nodes B p key := by
  constructor
  · exact Or.inl
  · intro hcase
    rcases hcase with hB | ⟨D, hp, -⟩
    · exact hB
    · exact absurd hp (h D)

theorem withDevices_congr {p q : PublishedNode → Prop} (h : ∀ D, p D ↔ q D) (key : String) :
    withDevices nodeIdToString nodes B p key ↔ withDevices nodeIdToString nodes B q key :=
  or_congr_right (exists_congr fun D => and_congr_left fun _ => h D)

theorem lookChildren_ensures {P : Client → Prop} (hP : Timeless P) (hr : remote.Shows nodes) (hu : UniqueIds nodes)
    {date : Nat} {children : List NodeId} (hchildren : remote.browseChildren date D.nodeId = some children) :
    Ensures P (children.foldlM (noteChild remote) (Found.start D.nodeId))
      (fun found cc => Looked nodes D children found ∧ P cc) (fun _ => True) := by
  have hstart : Looked nodes D [] (Found.start D.nodeId) :=
    ⟨fun _ _ h => (nomatch h), fun h => absurd h Bool.false_ne_true⟩
  refine Ensures.weaken (Ensures.foldlM_along (I := fun seen found cc => Looked nodes D seen found ∧ P cc) children ?_ [] _)
    (fun cc h => ⟨hstart, h⟩) fun found cc h => h
  intro seen found child hmem
  refine Ensures.assume fun hlooked => ?_
  obtain ⟨n, hn, rfl, hparent⟩ := (hr.children date _ _ hchildren child).mp hmem
  unfold noteChild
  refine Ensures.bind (request_ensures _ hP fun _ _ => trivial) fun childName => Ensures.assume fun hname => ?_
  obtain ⟨date', hname⟩ := hname
  obtain ⟨m, hm, hid, rfl⟩ := hr.browseName date' _ _ hname
  obtain rfl := hu m hm n hn hid
  exact Ensures.pure _ fun cc h => ⟨hlooked.note hu hn hparent, h⟩

/-- A visit subscribes to the device if it has sensors and no item yet. -/
theorem visitDevice_subscribes (hr : remote.Shows nodes) (hu : UniqueIds nodes) (hD : DeviceIn nodes F D) :
    Ensures (ServesKeys nodeIdToString nodes B) (visitDevice remote nodeIdToString F.browseName.name D.nodeId)
      (fun _ => ServesKeys nodeIdToString nodes (withDevices nodeIdToString nodes B (· = D))) (fun _ => True) := by
  unfold visitDevice
  refine Ensures.bind (Ensures.get (Q := fun seen cc => seen = cc ∧ ServesKeys nodeIdToString nodes B cc)
    fun cc h => ⟨rfl, h⟩) fun seen => ?_
  cases hcached : seen.deviceCache (nodeIdToString D.nodeId) with
  | some cache =>
    simp only [Option.isSome_some, if_true]
    refine Ensures.pure _ fun cc h => h.2.congr fun key => ⟨Or.inl, fun hkey => ?_⟩
    rcases hkey with hkey | ⟨_, rfl, -, rfl⟩
    · exact hkey
    · rw [← h.2.2, ← h.2.1.cached, ← h.1, hcached]
      rfl
  | none =>
    simp only [Option.isSome_none, Bool.false_eq_true, if_false]
    let P : Client → Prop := fun cc => cc.deviceCache (nodeIdToString D.nodeId) = none ∧ ServesKeys nodeIdToString nodes B cc
    have hP : Timeless P := fun cc n h => ⟨h.1, timeless_servesKeys cc n h.2⟩
    refine Ensures.weaken (P := P) ?_ (fun cc h => ?_) fun _ cc h => h
    · refine Ensures.bind (request_ensures _ hP fun _ _ => trivial) fun children => Ensures.assume fun hchildren => ?_
      obtain ⟨date, hchildren⟩ := hchildren
      refine Ensures.bind (lookChildren_ensures hP hr hu hchildren) fun found => Ensures.assume fun hlooked => ?_
      cases hs : found.foundSensors with
      | false =>
        simp only [Bool.not_false, if_true]
        -- no sensors: the device is left for the next discovery
        refine Ensures.pure _ fun cc h => h.2.congr fun key => ⟨Or.inl, fun hkey => ?_⟩
        rcases hkey with hkey | ⟨_, rfl, ⟨S, hS⟩, -⟩
        · exact hkey
        · have hmem := (hr.children date _ _ hchildren S.nodeId).mpr ⟨S, hS.mem, rfl, hS.parent⟩
          rw [hlooked.complete S hS hmem] at hs
          cases hs
      | true =>
        simp only [Bool.not_true, Bool.false_eq_true, if_false]
        obtain ⟨S, hS, hnode⟩ := hlooked.sound hs
        rw [← hnode]
        refine Ensures.bind (readDeviceInfo_ensures hP (fun _ _ => trivial) found.ids) fun info => ?_
        let P' : Client → Prop := fun c => ∃ cc, P cc ∧ c = cc.setCache (nodeIdToString D.nodeId) ⟨F.browseName.name, info⟩
        have hP' : Timeless P' := by
          intro c n hfound
          obtain ⟨cc, hcc, rfl⟩ := hfound
          exact ⟨{ cc with requests := n }, hP cc n hcc, rfl⟩
        refine Ensures.bind (Ensures.modify (Q := fun _ => P') fun cc h => ⟨cc, h, rfl⟩) fun _ => ?_
        unfold subscribeDataChange
        refine Ensures.bind (request_ensures _ hP' fun _ _ => trivial) fun _ => Ensures.assume fun _ => ?_
        refine Ensures.modify fun c h => ?_
        obtain ⟨cc, ⟨hnew, hserves⟩, rfl⟩ := h
        refine ⟨hserves.1.subscribe hD hS hnew info, fun key => ?_⟩
        show key ∈ List.map _ (cc.monitoredItems ++ [_]) ↔ _
        rw [List.map_append, List.mem_append, List.map_singleton, List.mem_singleton]
        refine or_congr (hserves.2 key) ⟨fun h => ⟨D, rfl, ⟨S, hS⟩, h⟩, ?_⟩
        intro hfound
        obtain ⟨_, rfl, -, h⟩ := hfound
        exact h
    · rw [← h.1]
      exact ⟨hcached, h.1 ▸ h.2⟩

/-! ## A whole discovery -/

theorem visitClientFolder_subscribes (hr : remote.Shows nodes) (hu : UniqueIds nodes) (hF : F ∈ nodes)
    (hparent : F.parent = telemetryClientsFolderId) :
    Ensures (ServesKeys nodeIdToString nodes B) (visitClientFolder remote nodeIdToString F.nodeId)
      (fun _ => ServesKeys nodeIdToString nodes (withDevices nodeIdToString nodes B (DeviceIn nodes F))) (fun _ => True) := by
  unfold visitClientFolder
  refine Ensures.bind (request_ensures _ timeless_servesKeys fun _ _ => trivial) fun folderName => Ensures.assume fun hname => ?_
  obtain ⟨date, hname⟩ := hname
  obtain ⟨F', hF', hid, rfl⟩ := hr.browseName date _ _ hname
  obtain rfl := hu F' hF' F hF hid
  refine Ensures.bind (request_ensures _ timeless_servesKeys fun _ _ => trivial) fun deviceNodes => ?_
  refine Ensures.assume fun hdevices => ?_
  obtain ⟨date', hdevices⟩ := hdevices
  have hmem := hr.children date' _ _ hdevices
  let visited : List NodeId → PublishedNode → Prop := fun seen D => DeviceIn nodes F' D ∧ D.nodeId ∈ seen
  refine Ensures.weaken (Ensures.forM_along
    (I := fun seen => ServesKeys nodeIdToString nodes (withDevices nodeIdToString nodes B (visited seen))) deviceNodes ?_ [])
    (fun cc h => h.congr (withDevices_none fun D hD => nomatch hD.2))
    fun _ cc h => h.congr (withDevices_congr fun D => ⟨fun hD => hD.1, fun hD => ⟨hD, ?_⟩⟩)
  · intro seen deviceNode hdevice
    obtain ⟨D, hD, rfl, hDparent⟩ := (hmem deviceNode).mp hdevice
    have hin : DeviceIn nodes F' D := ⟨hF, hD, hparent, hDparent⟩
    refine Ensures.weaken (visitDevice_subscribes hr hu hin) (fun cc h => h) fun _ cc h =>
      h.congr (withDevices_trans fun D' => ?_)
    simp only [visited, List.mem_append, List.mem_singleton]
    constructor
    · intro hfound
      rcases hfound with ⟨hD', hseen | hid⟩
      · exact Or.inl ⟨hD', hseen⟩
      · exact Or.inr (hu D' hD'.deviceMem D hD hid)
    · intro hcase
      rcases hcase with ⟨hD', hseen⟩ | rfl
      · exact ⟨hD', Or.inl hseen⟩
      · exact ⟨hin, Or.inr rfl⟩
  · exact (hmem _).mpr ⟨D, hD.deviceMem, rfl, hD.deviceParent⟩

/-- A discovery that returns has subscribed to the devices with sensors, and to nothing else. -/
theorem discoverAndSubscribe_subscribes (nodeIdToString : NodeId → String) (hr : remote.Shows nodes) (hu : UniqueIds nodes) :
    Ensures (ServesKeys nodeIdToString nodes B) (discoverAndSubscribe remote nodeIdToString)
      (fun _ => ServesKeys nodeIdToString nodes (withDevices nodeIdToString nodes B fun D => ∃ F, DeviceIn nodes F D))
      (fun _ => True) := by
  unfold discoverAndSubscribe
  refine Ensures.bind (request_ensures _ timeless_servesKeys fun _ _ => trivial) fun clientsFolder => ?_
  refine Ensures.assume fun hclients => ?_
  obtain ⟨date, hclients⟩ := hclients
  obtain rfl := hr.clients date _ hclients
  rw [if_neg (by decide)]
  refine Ensures.bind (request_ensures _ timeless_servesKeys fun _ _ => trivial) fun clientFolders => ?_
  refine Ensures.assume fun hfolders => ?_
  obtain ⟨date', hfolders⟩ := hfolders
  have hmem := hr.children date' _ _ hfolders
  let visited : List NodeId → PublishedNode → Prop := fun seen D => ∃ F, DeviceIn nodes F D ∧ F.nodeId ∈ seen
  refine Ensures.weaken (Ensures.forM_along
    (I := fun seen => ServesKeys nodeIdToString nodes (withDevices nodeIdToString nodes B (visited seen))) clientFolders ?_ [])
    (fun cc h => h.congr (withDevices_none fun D ⟨_, hD⟩ => nomatch hD.2))
    fun _ cc h => h.congr (withDevices_congr fun D => ⟨fun ⟨F, hF⟩ => ⟨F, hF.1⟩, fun ⟨F, hF⟩ => ⟨F, hF, ?_⟩⟩)
  · intro seen clientFolder hfolder
    obtain ⟨F, hF, rfl, hFparent⟩ := (hmem clientFolder).mp hfolder
    refine Ensures.weaken (visitClientFolder_subscribes hr hu hF hFparent) (fun cc h => h) fun _ cc h =>
      h.congr (withDevices_trans fun D => ?_)
    simp only [visited, List.mem_append, List.mem_singleton]
    constructor
    · intro hfound
      rcases hfound with ⟨F', hD, hseen | hid⟩
      · exact Or.inl ⟨F', hD, hseen⟩
      · rw [hu F' hD.folderMem F hF hid] at hD
        exact Or.inr hD
    · intro hcase
      rcases hcase with ⟨F', hD, hseen⟩ | hD
      · exact ⟨F', hD, Or.inl hseen⟩
      · exact ⟨F, hD, Or.inr rfl⟩
  · exact (hmem _).mpr ⟨F, hF.folderMem, rfl, hF.folderParent⟩

/-! ## Discovery after discovery -/

section

variable {n : Nat} {trees : Nat → List PublishedNode} {remotes : Nat → Remote} {clients : Nat → Client}

theorem Discoveries.step (h : Discoveries nodeIdToString n trees remotes clients) {i : Nat} (hi : i < n)
    (hserves : Serves nodeIdToString (trees i) (clients i)) :
    ServesKeys nodeIdToString (trees i)
      (withDevices nodeIdToString (trees i) (· ∈ (clients i).keys) fun D => ∃ F, DeviceIn (trees i) F D) (clients (i + 1)) := by
  have hd := discoverAndSubscribe_subscribes nodeIdToString (B := (· ∈ (clients i).keys)) (h.shows i hi) (h.unique i hi)
  exact hd.of_ok ⟨hserves, fun _ => Iff.rfl⟩ (h.returns i hi)

theorem Discoveries.serves (h : Discoveries nodeIdToString n trees remotes clients) {i : Nat} (hi : i < n) :
    Serves nodeIdToString (trees i) (clients i) := by
  induction i with
  | zero =>
    rw [h.start]
    exact Serves.start
  | succ i ih =>
    have hi' : i < n := Nat.lt_of_succ_lt hi
    exact (h.step hi' (ih hi')).1.mono (h.grows i hi')

/-! ## Who is subscribed to -/

/-- The item watches the sensors of the device `D`. -/
def Monitors (nodes : List PublishedNode) (D : PublishedNode) (item : MonitoredItem) : Prop :=
  ∃ S, SensorsOf nodes D S ∧ item.nodeId = S.nodeId

def Client.Monitors (cc : Client) (nodes : List PublishedNode) (D : PublishedNode) : Prop :=
  ∃ item ∈ cc.monitoredItems, ControlCenter.Monitors nodes D item

/-- An item watches no device but the one its key is for. -/
theorem ServesItem.key_of_monitors {cc : Client} {item : MonitoredItem} {F' D' S' : PublishedNode} (hu : UniqueIds nodes)
    (hs : ServesItem nodeIdToString nodes cc item F' D' S') (hD : Monitors nodes D item) :
    item.deviceNodeId = nodeIdToString D.nodeId := by
  obtain ⟨S, hS, hid⟩ := hD
  have hsame : S' = S := hu S' hs.sensors.mem S hS.mem (hs.nodeId.symm.trans hid)
  rw [hs.key, ← hs.sensors.parent, hsame, hS.parent]

/-- With ids told apart by their strings, a device is watched exactly if its key has an item. -/
theorem monitors_iff {cc : Client} (hs : Serves nodeIdToString nodes cc) (hu : UniqueIds nodes)
    (hinj : ∀ p ∈ nodes, ∀ q ∈ nodes, nodeIdToString p.nodeId = nodeIdToString q.nodeId → p.nodeId = q.nodeId)
    (hD : D ∈ nodes) : cc.Monitors nodes D ↔ nodeIdToString D.nodeId ∈ cc.keys := by
  constructor
  · intro hfound
    obtain ⟨item, hitem, hmon⟩ := hfound
    obtain ⟨F', D', S', hi⟩ := hs.items item hitem
    exact List.mem_map.mpr ⟨item, hitem, hi.key_of_monitors hu hmon⟩
  · intro hkey
    obtain ⟨item, hitem, hkey⟩ := List.mem_map.mp hkey
    obtain ⟨F', D', S', hi⟩ := hs.items item hitem
    have hid : D'.nodeId = D.nodeId := hinj D' hi.device.deviceMem D hD (hi.key.symm.trans hkey)
    exact ⟨item, hitem, S', ⟨hi.sensors.mem, hi.sensors.parent.trans hid, hi.sensors.browseName⟩, hi.nodeId⟩

/-- A device with sensors is found by the first discovery that returns after they appear,
    and has one item from then on. Its updates go out under its own folder's name. -/
theorem subscribed_exactly_once (nodeIdToString : NodeId → String) (n : Nat) (trees : Nat → List PublishedNode)
    (remotes : Nat → Remote) (clients : Nat → Client) (h : Discoveries nodeIdToString n trees remotes clients) (i : Nat)
    (hi : i < n)
    (hinj : ∀ p ∈ trees i, ∀ q ∈ trees i, nodeIdToString p.nodeId = nodeIdToString q.nodeId → p.nodeId = q.nodeId) :
    (∀ F D, DeviceIn (trees i) F D →
      ((clients (i + 1)).Monitors (trees i) D ↔ (clients i).Monitors (trees i) D ∨ HasSensors (trees i) D)) ∧
    (∀ item ∈ (clients (i + 1)).monitoredItems, ∃ F D, DeviceIn (trees i) F D ∧ Monitors (trees i) D item) ∧
    ((clients (i + 1)).monitoredItems.Pairwise fun item item' =>
      ∀ D, ¬ (Monitors (trees i) D item ∧ Monitors (trees i) D item')) ∧
    ∀ item ∈ (clients (i + 1)).monitoredItems, ∀ F D, DeviceIn (trees i) F D → Monitors (trees i) D item →
      item.deviceNodeId = nodeIdToString D.nodeId ∧
      (∃ info, (clients (i + 1)).deviceCache item.deviceNodeId = some ⟨F.browseName.name, info⟩) ∧
      ∀ decodeBinary formatValue value, ∃ deviceKey row,
        handleSensorUpdate decodeBinary formatValue (clients (i + 1)) item.deviceNodeId value =
          some ⟨F.browseName.name, deviceKey, row⟩ := by
  have hbefore := h.serves hi
  have hu := h.unique i hi
  obtain ⟨hafter, hkeys⟩ := h.step hi hbefore
  refine ⟨fun F D hD => ?_, fun item hitem => ?_, ?_, fun item hitem F D hD hmon => ?_⟩
  · rw [monitors_iff hafter hu hinj hD.deviceMem, monitors_iff hbefore hu hinj hD.deviceMem, hkeys]
    refine or_congr_right ⟨?_, fun hS => ⟨D, ⟨F, hD⟩, hS, rfl⟩⟩
    intro hfound
    obtain ⟨D', ⟨F', hD'⟩, hS, hkey⟩ := hfound
    rwa [hu D hD.deviceMem D' hD'.deviceMem (hinj D hD.deviceMem D' hD'.deviceMem hkey)]
  · obtain ⟨F, D, S, hs⟩ := hafter.items item hitem
    exact ⟨F, D, hs.device, S, hs.sensors, hs.nodeId⟩
  · -- two items of one device would have one key
    refine (List.pairwise_map.mp hafter.once).imp_of_mem fun {item item'} hitem hitem' hne D hD => ?_
    obtain ⟨F₁, D₁, S₁, h₁⟩ := hafter.items item hitem
    obtain ⟨F₂, D₂, S₂, h₂⟩ := hafter.items item' hitem'
    exact hne ((h₁.key_of_monitors hu hD.1).trans (h₂.key_of_monitors hu hD.2).symm)
  · obtain ⟨F', D', S', hs⟩ := hafter.items item hitem
    have hkey := hs.key_of_monitors hu hmon
    obtain ⟨info, hentry⟩ := hs.entry
    have hdevice : D' = D := by
      refine hu D' hs.device.deviceMem D hD.deviceMem (hinj D' hs.device.deviceMem D hD.deviceMem ?_)
      exact hs.key.symm.trans hkey
    have hfolder : F' = F := by
      refine hu F' hs.device.folderMem F hD.folderMem ?_
      rw [← hs.device.deviceParent, hdevice, hD.deviceParent]
    rw [hfolder] at hentry
    exact ⟨hkey, ⟨info, hentry⟩, fun decodeBinary formatValue value =>
      ⟨info.hardwareType, _, by simp only [handleSensorUpdate, hentry]; rfl⟩⟩

end

end

/-! ## A device that grows -/

theorem treeRemote_shows (nodes : List PublishedNode) : (treeRemote telemetryClientsFolderId nodes).Shows nodes where
  clients date id h := by simpa [treeRemote, eq_comm] using h
  children date parent ids h id := by
    rw [treeRemote, Option.some.injEq] at h
    rw [← h, List.mem_map]
    simp only [List.mem_filter, decide_eq_true_eq]
    constructor
    · intro hfound
      obtain ⟨n, ⟨hn, hparent⟩, rfl⟩ := hfound
      exact ⟨n, hn, rfl, hparent⟩
    · intro hfound
      obtain ⟨n, hn, rfl, hparent⟩ := hfound
      exact ⟨n, ⟨hn, hparent⟩, rfl⟩
  browseName date id name h := by
    obtain ⟨n, hn, rfl⟩ := Option.map_eq_some_iff.mp h
    exact ⟨n, List.mem_of_find?_eq_some hn, by simpa using List.find?_some hn, rfl⟩

/-- `plc` has created its device, all but the sensors; then those too. -/
def plcTrees : Nat → List PublishedNode
  | 0 => (serverAfter telemetryClientsFolderId (plcPublishes "plc").dropLast).nodes
  | _ => (serverAfter telemetryClientsFolderId (plcPublishes "plc")).nodes

def plcClients : Nat → Client
  | 0 => .start
  | i + 1 => poll (treeRemote telemetryClientsFolderId (plcTrees i)) idString (plcClients i)

theorem returns_poll {remote : Remote} {nodeIdToString : NodeId → String} {cc : Client}
    (h : (match discoverAndSubscribe remote nodeIdToString cc with | .ok _ _ => true | .error _ _ => false) = true) :
    discoverAndSubscribe remote nodeIdToString cc = .ok () (poll remote nodeIdToString cc) := by
  unfold poll
  cases hres : discoverAndSubscribe remote nodeIdToString cc with
  | ok a cc' => rfl
  | error e cc' =>
    rw [hres] at h
    cases h

theorem plc_discoveries :
    Discoveries idString 2 plcTrees (fun i => treeRemote telemetryClientsFolderId (plcTrees i)) plcClients where
  start := rfl
  grows := by decide +kernel
  unique := by
    intro i hi n hn m hm hid
    match i with
    | 0 => exact node_unique _ hn hm hid
    | i + 1 => exact node_unique _ hn hm hid
  shows i _ := treeRemote_shows (plcTrees i)
  returns i hi := by
    refine returns_poll ?_
    match i with
    | 0 => decide +kernel
    | 1 => decide +kernel

/-- The node that `plc` creates for its id `idStr`. -/
def plcMade (parent idStr name : String) : PublishedNode :=
  ⟨⟨1, .string idStr⟩, ⟨1, .string parent⟩, ⟨telemetryNamespaceIndex, name⟩, "plc"⟩

theorem plc_sensors : HasSensors (plcTrees 1) (plcMade "plc" "plc.cpu" "cpu") :=
  ⟨plcMade "plc.cpu" "plc.cpu.sensors" "sensors", by decide +kernel, rfl, rfl⟩

theorem plc_device : DeviceIn (plcTrees 1)
    ⟨⟨1, .string "plc"⟩, telemetryClientsFolderId, ⟨telemetryNamespaceIndex, "plc"⟩, "plc"⟩
    (plcMade "plc" "plc.cpu" "cpu") := ⟨by decide +kernel, by decide +kernel, rfl, rfl⟩

/-- The first discovery leaves the device alone, the second subscribes to it. -/
theorem subscribed_exactly_once_plc :
    (plcClients 1).monitoredItems = [] ∧ (plcClients 2).Monitors (plcTrees 1) (plcMade "plc" "plc.cpu" "cpu") := by
  have hseen := subscribed_exactly_once idString 2 plcTrees _ plcClients plc_discoveries 1 (by decide) (by decide +kernel)
  exact ⟨by decide +kernel, (hseen.1 _ _ plc_device).mpr (Or.inr plc_sensors)⟩

end HardwareMonitor.ControlCenter
