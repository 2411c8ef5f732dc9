/-
  HardwareMonitor.ControlCenter.Retries — whether a discovery that threw is made up for
  by a later one.

  The cache entry of a device is the mark of a device already subscribed to, and
  `discoverAndSubscribe` writes it just before `subscribeDataChange`. Of all the requests
  of a visit that may throw, that one alone comes after the mark: where any other throws,
  the client is left as it was but for the date (`visitDevice_thrown`), and cached keys
  stay the keys with an item (`Serves.attempt`). Where that one throws, the device is
  marked without an item, and all later discoveries skip it (`Attempts.skipped`).

  So a device node is cached only if its sensors are monitored, and the next discovery
  that returns makes up for the ones that threw, exactly if no subscription was refused
  (`retried_iff`).
-/

import HardwareMonitor.ControlCenter.Visits
import HardwareMonitor.ControlCenter.Subscriptions

namespace HardwareMonitor.ControlCenter

open HardwareMonitor.OpcUa
open HardwareMonitor.Lib.Throwing

/-- In a discovery by the client as `cc`, one of the visits is refused its subscription. -/
structure Refuses (remote : Remote) (nodeIdToString : NodeId → String) (cc : Client) : Prop where
  path : ∃ clientFolders cc₁ clientFolder cc₂ clientFolderName deviceNodes cc₃ deviceNode cc₄,
    listClientFolders remote cc = .ok clientFolders cc₁ ∧
    (clientFolder, cc₂) ∈ turns (visitClientFolder remote nodeIdToString) clientFolders cc₁ ∧
    listDevices remote clientFolder cc₂ = .ok (clientFolderName, deviceNodes) cc₃ ∧
    (deviceNode, cc₄) ∈ turns (visitDevice remote nodeIdToString clientFolderName) deviceNodes cc₃ ∧
    RefusedAt remote nodeIdToString deviceNode cc₄

variable {remote : Remote} {nodeIdToString : NodeId → String} {nodes : List PublishedNode} {cc : Client} {F D : PublishedNode}

/-! ## A discovery that throws -/

theorem timeless_serves : Timeless (Serves nodeIdToString nodes) :=
  fun cc n h => (timeless_servesKeys (B := (· ∈ cc.keys)) cc n ⟨h, fun _ => Iff.rfl⟩).1

/-- What subscribes keeps the invariant, whatever keys it starts from. -/
theorem serves_of_subscribes {x : Task PUnit} {visited : PublishedNode → Prop}
    (h : ∀ B, Ensures (ServesKeys nodeIdToString nodes B) x
      (fun _ => ServesKeys nodeIdToString nodes (withDevices nodeIdToString nodes B visited)) (fun _ => True)) :
    Ensures (Serves nodeIdToString nodes) x (fun _ => Serves nodeIdToString nodes) (fun _ => True) := by
  intro cc hcc
  cases hr : x cc with
  | ok a cc' => exact ((h (· ∈ cc.keys)).of_ok ⟨hcc, fun _ => Iff.rfl⟩ hr).1
  | error e cc' => trivial

/-- Unless it is refused, a visit keeps the invariant, also if it throws. -/
theorem Serves.visit (h : Serves nodeIdToString nodes cc) (hr : remote.Shows nodes) (hu : UniqueIds nodes)
    (hD : DeviceIn nodes F D) (hno : ¬ RefusedAt remote nodeIdToString D.nodeId cc) :
    Serves nodeIdToString nodes (stateOf (visitDevice remote nodeIdToString F.browseName.name D.nodeId cc)) := by
  cases hres : visitDevice remote nodeIdToString F.browseName.name D.nodeId cc with
  | ok a cc' => exact (serves_of_subscribes fun B => visitDevice_subscribes (B := B) hr hu hD).of_ok h hres
  | error e cc' =>
    rcases visitDevice_thrown hres with hrefused | ⟨k, rfl⟩
    · exact absurd hrefused hno
    · exact timeless_serves cc _ h

theorem listClientFolders_shows (hr : remote.Shows nodes) {clientFolders : List NodeId} {cc₁ : Client}
    (h : listClientFolders remote cc = .ok clientFolders cc₁) :
    ∀ id ∈ clientFolders, ∃ F ∈ nodes, F.nodeId = id ∧ F.parent = telemetryClientsFolderId := by
  have hlist : Ensures (fun _ => True) (listClientFolders remote)
      (fun ids _ => ∀ id ∈ ids, ∃ F ∈ nodes, F.nodeId = id ∧ F.parent = telemetryClientsFolderId) (fun _ => True) := by
    unfold listClientFolders
    refine Ensures.bind (request_ensures _ (fun _ _ h => h) fun _ h => h) fun clientsFolder => Ensures.assume fun hclients => ?_
    obtain ⟨date, hclients⟩ := hclients
    obtain rfl := hr.clients date _ hclients
    rw [if_neg (by decide)]
    refine Ensures.weaken (request_ensures _ (fun _ _ h => h) fun _ h => h) (fun _ h => h) fun ids _ hids id hid => ?_
    obtain ⟨⟨date', hids⟩, -⟩ := hids
    exact (hr.children date' _ _ hids id).mp hid
  exact hlist.of_ok trivial h

theorem listDevices_shows (hr : remote.Shows nodes) (hu : UniqueIds nodes) (hF : F ∈ nodes)
    (hparent : F.parent = telemetryClientsFolderId) {devices : String × List NodeId} {cc₁ : Client}
    (h : listDevices remote F.nodeId cc = .ok devices cc₁) :
    devices.1 = F.browseName.name ∧ ∀ id ∈ devices.2, ∃ D, D.nodeId = id ∧ DeviceIn nodes F D := by
  have hlist : Ensures (fun _ => True) (listDevices remote F.nodeId)
      (fun devices _ => devices.1 = F.browseName.name ∧ ∀ id ∈ devices.2, ∃ D, D.nodeId = id ∧ DeviceIn nodes F D)
      (fun _ => True) := by
    unfold listDevices
    refine Ensures.bind (request_ensures _ (fun _ _ h => h) fun _ h => h) fun folderName => Ensures.assume fun hname => ?_
    obtain ⟨date, hname⟩ := hname
    obtain ⟨F', hF', hid, rfl⟩ := hr.browseName date _ _ hname
    obtain rfl := hu F' hF' F hF hid
    refine Ensures.bind (request_ensures _ (fun _ _ h => h) fun _ h => h) fun deviceNodes => Ensures.assume fun hids => ?_
    obtain ⟨date', hids⟩ := hids
    refine Ensures.pure _ fun _ _ => ⟨rfl, fun id hid => ?_⟩
    obtain ⟨D, hD, hDid, hDparent⟩ := (hr.children date' _ _ hids id).mp hid
    exact ⟨D, hDid, hF, hD, hparent, hDparent⟩
  exact hlist.of_ok trivial h

/-- Unless a visit is refused, a discovery keeps the invariant, wherever it throws. -/
theorem Serves.attempt (h : Serves nodeIdToString nodes cc) (hr : remote.Shows nodes) (hu : UniqueIds nodes)
    (hno : ¬ Refuses remote nodeIdToString cc) :
    Serves nodeIdToString nodes (stateOf (discoverAndSubscribe remote nodeIdToString cc)) := by
  -- otherwise one visit breaks it
  by_contra hbroken
  have hkeep : Timeless fun cc => ¬ ¬ Serves nodeIdToString nodes cc :=
    fun cc n h h' => h fun hs => h' (timeless_serves cc n hs)
  rw [discoverAndSubscribe_eq] at hbroken
  obtain ⟨clientFolders, cc₁, hlist, ⟨clientFolder, cc₂⟩, hmem, hserves, hbroken, -⟩ :=
    turn_after_listing (P := fun cc => ¬ Serves nodeIdToString nodes cc) (listClientFolders_keeps hkeep)
      (fun _ => visitClientFolder_forward) (not_not.mpr h) hbroken
  obtain ⟨F, hF, hFid, hparent⟩ := listClientFolders_shows hr hlist clientFolder (mem_of_turn hmem)
  obtain rfl : F.nodeId = clientFolder := hFid
  rw [visitClientFolder_eq] at hbroken
  obtain ⟨devices, cc₃, hdevices, ⟨deviceNode, cc₄⟩, hmem', hserves', hbroken', -⟩ :=
    turn_after_listing (P := fun cc => ¬ Serves nodeIdToString nodes cc) (listDevices_keeps hkeep F.nodeId)
      (fun devices => visitDevice_forward devices.1) hserves hbroken
  obtain ⟨hname, hin⟩ := listDevices_shows hr hu hF hparent hdevices
  obtain ⟨D, hDid, hD⟩ := hin deviceNode (mem_of_turn hmem')
  obtain rfl : D.nodeId = deviceNode := hDid
  rw [hname] at hbroken'
  refine hbroken' ((not_not.mp hserves').visit hr hu hD fun hrefused => hno ⟨?_⟩)
  exact ⟨clientFolders, cc₁, F.nodeId, cc₂, devices.1, devices.2, cc₃, D.nodeId, cc₄, hlist, hmem, hdevices, hmem', hrefused⟩

/-- A refusal ends the discovery: the device stays marked, and before it the invariant held. -/
theorem Refuses.ends (hrefuses : Refuses remote nodeIdToString cc) (h : Serves nodeIdToString nodes cc) (hr : remote.Shows nodes)
    (hu : UniqueIds nodes) :
    ∃ F D cc₄ k cache, DeviceIn nodes F D ∧ Serves nodeIdToString nodes cc₄ ∧ RefusedAt remote nodeIdToString D.nodeId cc₄ ∧
      discoverAndSubscribe remote nodeIdToString cc = .error () ((cc₄.later k).setCache (nodeIdToString D.nodeId) cache) := by
  obtain ⟨clientFolders, cc₁, clientFolder, cc₂, clientFolderName, deviceNodes, cc₃, deviceNode, cc₄, hlist, hmem, hdevices,
    hmem', hrefused⟩ := hrefuses.path
  have hfolders := listClientFolders_shows hr hlist
  obtain ⟨F, hF, hFid, hparent⟩ := hfolders clientFolder (mem_of_turn hmem)
  obtain rfl : F.nodeId = clientFolder := hFid
  obtain ⟨hname, hin⟩ := listDevices_shows hr hu hF hparent hdevices
  obtain ⟨D, hDid, hD⟩ := hin deviceNode (mem_of_turn hmem')
  obtain rfl : D.nodeId = deviceNode := hDid
  obtain rfl : clientFolderName = F.browseName.name := hname
  have hserves₁ : Serves nodeIdToString nodes cc₁ := (listClientFolders_keeps timeless_serves).of_ok h hlist
  have hserves₂ : Serves nodeIdToString nodes cc₂ := by
    refine Ensures.at_turn clientFolders (fun id hid => ?_) hserves₁ _ hmem
    obtain ⟨F', hF', rfl, hparent'⟩ := hfolders id hid
    exact serves_of_subscribes fun B => visitClientFolder_subscribes hr hu hF' hparent'
  have hserves₃ : Serves nodeIdToString nodes cc₃ := (listDevices_keeps timeless_serves F.nodeId).of_ok hserves₂ hdevices
  have hserves₄ : Serves nodeIdToString nodes cc₄ := by
    refine Ensures.at_turn deviceNodes (fun id hid => ?_) hserves₃ _ hmem'
    obtain ⟨D', rfl, hD'⟩ := hin id hid
    exact serves_of_subscribes fun B => visitDevice_subscribes hr hu hD'
  obtain ⟨k, cache, hvisit⟩ := visitDevice_of_refused hrefused F.browseName.name
  have hfolder : visitClientFolder remote nodeIdToString F.nodeId cc₂ =
      .error () ((cc₄.later k).setCache (nodeIdToString D.nodeId) cache) := by
    rw [visitClientFolder_eq, bind_of_ok hdevices]
    exact forM_of_error deviceNodes hmem' hvisit
  refine ⟨F, D, cc₄, k, cache, hD, hserves₄, hrefused, ?_⟩
  rw [discoverAndSubscribe_eq, bind_of_ok hlist]
  exact forM_of_error clientFolders hmem hfolder

/-! ## A device that is skipped -/

/-- The key is cached, and no callback has captured it. -/
def Client.Skipped (cc : Client) (key : String) : Prop := (cc.deviceCache key).isSome = true ∧ key ∉ cc.keys

theorem timeless_skipped (key : String) : Timeless (Client.Skipped · key) := fun _ _ h => h

/-- Nothing that a visit does concerns a key that is cached. -/
theorem visit_skips {key : String} (h : cc.Skipped key) (clientFolderName : String) (deviceNode : NodeId) :
    (stateOf (visitDevice remote nodeIdToString clientFolderName deviceNode cc)).Skipped key := by
  obtain ⟨hcached, hkeys⟩ := h
  rcases visitDevice_cases remote nodeIdToString clientFolderName deviceNode cc with ⟨k, hdate⟩ | ⟨hnone, k, cache, hmarked⟩
  · rw [hdate]
    exact ⟨hcached, hkeys⟩
  have hne : key ≠ nodeIdToString deviceNode := by
    intro heq
    rw [heq, hnone] at hcached
    cases hcached
  rcases hmarked with ⟨-, hthrows⟩ | ⟨id, hreturns⟩
  · rw [hthrows]
    refine ⟨?_, hkeys⟩
    simp only [stateOf, Client.setCache, if_neg hne]
    exact hcached
  · rw [hreturns]
    refine ⟨?_, ?_⟩
    · simp only [stateOf, Client.setCache, if_neg hne]
      exact hcached
    · show key ∉ List.map _ (cc.monitoredItems ++ [_])
      rw [List.map_append, List.mem_append, List.map_singleton, List.mem_singleton]
      intro hmem
      exact hmem.elim hkeys hne

theorem poll_skips {key : String} (h : cc.Skipped key) : (poll remote nodeIdToString cc).Skipped key :=
  poll_ensures (discoverAndSubscribe_keeps (timeless_skipped key) fun clientFolderName deviceNode =>
    Ensures.of_stateOf fun _ hcc => visit_skips hcc clientFolderName deviceNode) h

/-- After a refusal a device is skipped, and nobody watches its sensors. -/
theorem Refuses.skips (hrefuses : Refuses remote nodeIdToString cc) (h : Serves nodeIdToString nodes cc) (hr : remote.Shows nodes)
    (hu : UniqueIds nodes) :
    ∃ F D, DeviceIn nodes F D ∧ (poll remote nodeIdToString cc).Skipped (nodeIdToString D.nodeId) ∧
      ¬ (poll remote nodeIdToString cc).Monitors nodes D := by
  obtain ⟨F, D, cc₄, k, cache, hD, hserves, hrefused, hthrows⟩ := hrefuses.ends h hr hu
  have hpoll : poll remote nodeIdToString cc = (cc₄.later k).setCache (nodeIdToString D.nodeId) cache := by
    unfold poll
    rw [hthrows]
  -- an item of the device would have made it a cached one before the visit
  have hkeys : nodeIdToString D.nodeId ∉ cc₄.keys := by
    intro hkey
    rw [← hserves.cached, hrefused.uncached] at hkey
    cases hkey
  refine ⟨F, D, hD, ?_, ?_⟩
  · rw [hpoll]
    exact ⟨by simp [Client.setCache], hkeys⟩
  · rw [hpoll]
    intro hmonitors
    obtain ⟨item, hitem, hmon⟩ := hmonitors
    obtain ⟨F', D', S', hi⟩ := hserves.items item hitem
    exact hkeys (List.mem_map.mpr ⟨item, hitem, hi.key_of_monitors hu hmon⟩)

/-! ## Attempt after attempt -/

/-- The first `n` discoveries of a client, each over a tree that only nodes have been added
    to since the one before. Any of them may throw, at any request. -/
structure Attempts (nodeIdToString : NodeId → String) (n : Nat) (trees : Nat → List PublishedNode) (remotes : Nat → Remote)
    (clients : Nat → Client) : Prop where
  start : clients 0 = .start
  grows : ∀ i < n, ∀ m ∈ trees i, m ∈ trees (i + 1)
  unique : ∀ i < n, UniqueIds (trees i)
  shows : ∀ i < n, (remotes i).Shows (trees i)
  polls : ∀ i < n, clients (i + 1) = poll (remotes i) nodeIdToString (clients i)

/-- Whoever is cached has its sensors watched. -/
def CachedOnlyIfMonitored (nodeIdToString : NodeId → String) (nodes : List PublishedNode) (cc : Client) : Prop :=
  ∀ F D, DeviceIn nodes F D → (cc.deviceCache (nodeIdToString D.nodeId)).isSome = true → cc.Monitors nodes D

/-- Every device with sensors is watched. -/
def AllMonitored (nodes : List PublishedNode) (cc : Client) : Prop :=
  ∀ F D, DeviceIn nodes F D → HasSensors nodes D → cc.Monitors nodes D

section

variable {n : Nat} {trees : Nat → List PublishedNode} {remotes : Nat → Remote} {clients : Nat → Client}

/-- As long as nothing was refused, cached keys are the keys with an item. -/
theorem Attempts.serves (h : Attempts nodeIdToString n trees remotes clients) {i : Nat} (hi : i < n)
    (hno : ∀ k < i, ¬ Refuses (remotes k) nodeIdToString (clients k)) : Serves nodeIdToString (trees i) (clients i) := by
  induction i with
  | zero =>
    rw [h.start]
    exact Serves.start
  | succ i ih =>
    have hi' : i < n := by omega
    have hbefore := ih hi' fun k hk => hno k (by omega)
    rw [h.polls i hi', poll_eq]
    exact (hbefore.attempt (h.shows i hi') (h.unique i hi') (hno i (by omega))).mono (h.grows i hi')

/-- What an attempt leaves if neither it nor one before it was refused. -/
theorem Attempts.served (h : Attempts nodeIdToString n trees remotes clients) {i : Nat} (hi : i < n)
    (hno : ∀ k ≤ i, ¬ Refuses (remotes k) nodeIdToString (clients k)) :
    Serves nodeIdToString (trees i) (clients (i + 1)) := by
  have hbefore := h.serves hi fun k hk => hno k (by omega)
  rw [h.polls i hi, poll_eq]
  exact hbefore.attempt (h.shows i hi) (h.unique i hi) (hno i (by omega))

/-- The keys an attempt has items for, once it has returned. -/
theorem Attempts.returned (h : Attempts nodeIdToString n trees remotes clients) {i : Nat} (hi : i < n)
    (hserves : Serves nodeIdToString (trees i) (clients i))
    (hreturns : discoverAndSubscribe (remotes i) nodeIdToString (clients i) = .ok () (clients (i + 1))) {F D : PublishedNode}
    (hD : DeviceIn (trees i) F D) (hS : HasSensors (trees i) D) : nodeIdToString D.nodeId ∈ (clients (i + 1)).keys := by
  have hd := (discoverAndSubscribe_subscribes nodeIdToString (B := (· ∈ (clients i).keys)) (h.shows i hi) (h.unique i hi)).of_ok
    ⟨hserves, fun _ => Iff.rfl⟩ hreturns
  exact (hd.2 _).mpr (Or.inr ⟨D, ⟨F, hD⟩, hS, rfl⟩)

/-- The device of the first refusal is skipped by all later attempts, whether they return
    or throw: no callback is ever made for it. -/
theorem Attempts.skipped (h : Attempts nodeIdToString n trees remotes clients) {i : Nat} (hi : i < n)
    (hno : ∀ k < i, ¬ Refuses (remotes k) nodeIdToString (clients k)) (hrefuses : Refuses (remotes i) nodeIdToString (clients i)) :
    ∃ F D, DeviceIn (trees i) F D ∧ ∀ j, i < j → j ≤ n → (clients j).Skipped (nodeIdToString D.nodeId) := by
  obtain ⟨F, D, hD, hskipped, -⟩ := hrefuses.skips (h.serves hi hno) (h.shows i hi) (h.unique i hi)
  refine ⟨F, D, hD, fun j => ?_⟩
  induction j with
  | zero => intro hij; omega
  | succ j ih =>
    intro hij hj
    rw [h.polls j (by omega)]
    by_cases hlast : j = i
    · rw [hlast]
      exact hskipped
    · exact poll_skips (ih (by omega) (by omega))

end

/-- Over any number of attempts, wherever they throw: after each a device node is cached
    only if its sensors are watched, and each that returns leaves no device with sensors
    unwatched, exactly if no visit gets as far as `subscribeDataChange` and throws there. -/
theorem retried_iff (nodeIdToString : NodeId → String) (n : Nat) (trees : Nat → List PublishedNode) (remotes : Nat → Remote)
    (clients : Nat → Client) (h : Attempts nodeIdToString n trees remotes clients)
    (hinj : ∀ i < n, ∀ p ∈ trees i, ∀ q ∈ trees i, nodeIdToString p.nodeId = nodeIdToString q.nodeId → p.nodeId = q.nodeId) :
    (∀ i < n, CachedOnlyIfMonitored nodeIdToString (trees i) (clients (i + 1)) ∧
      (discoverAndSubscribe (remotes i) nodeIdToString (clients i) = .ok () (clients (i + 1)) →
        AllMonitored (trees i) (clients (i + 1)))) ↔
      ∀ i < n, ¬ Refuses (remotes i) nodeIdToString (clients i) := by
  constructor
  · intro hall i
    -- the first refusal leaves a device cached that is not watched
    induction i using Nat.strongRecOn with
    | ind i ih =>
      intro hi hrefuses
      have hserves := h.serves hi fun k hk => ih k hk (by omega)
      obtain ⟨F, D, hD, hskipped, hunwatched⟩ := hrefuses.skips hserves (h.shows i hi) (h.unique i hi)
      rw [← h.polls i hi] at hskipped hunwatched
      exact hunwatched ((hall i hi).1 F D hD hskipped.1)
  · intro hno i hi
    have hu := h.unique i hi
    have hafter := h.served hi fun k hk => hno k (by omega)
    refine ⟨fun F D hD hcached => ?_, fun hreturns F D hD hS => ?_⟩
    · rw [monitors_iff hafter hu (hinj i hi) hD.deviceMem, ← hafter.cached]
      exact hcached
    · rw [monitors_iff hafter hu (hinj i hi) hD.deviceMem]
      exact h.returned hi (h.serves hi fun k hk => hno k (by omega)) hreturns hD hS

/-! ## A device and two attempts -/

/-- The server with the device of `plc`, on which all reads throw, or all subscriptions. -/
def faultyRemote (readsThrow subscriptionsThrow : Bool) : Remote where
  __ := treeRemote telemetryClientsFolderId (plcTrees 1)
  readValue _ _ := if readsThrow then none else some .empty
  createMonitoredItem _ _ := if subscriptionsThrow then none else some ()

/-- Faulty at first, sound from then on. -/
def faultyRemotes (readsThrow subscriptionsThrow : Bool) : Nat → Remote
  | 0 => faultyRemote readsThrow subscriptionsThrow
  | _ => faultyRemote false false

def faultyClients (readsThrow subscriptionsThrow : Bool) : Nat → Client
  | 0 => .start
  | i + 1 => poll (faultyRemotes readsThrow subscriptionsThrow i) idString (faultyClients readsThrow subscriptionsThrow i)

theorem faultyRemote_shows (readsThrow subscriptionsThrow : Bool) :
    (faultyRemote readsThrow subscriptionsThrow).Shows (plcTrees 1) where
  clients := (treeRemote_shows (plcTrees 1)).clients
  children := (treeRemote_shows (plcTrees 1)).children
  browseName := (treeRemote_shows (plcTrees 1)).browseName

theorem faulty_attempts (readsThrow subscriptionsThrow : Bool) :
    Attempts idString 2 (fun _ => plcTrees 1) (faultyRemotes readsThrow subscriptionsThrow)
      (faultyClients readsThrow subscriptionsThrow) where
  start := rfl
  grows _ _ _ hm := hm
  unique _ _ _ hn _ hm hid := node_unique _ hn hm hid
  shows i _ := by
    match i with
    | 0 => exact faultyRemote_shows _ _
    | _ + 1 => exact faultyRemote_shows _ _
  polls _ _ := rfl

/-- The reads throw: the device is not cached, and the second attempt subscribes to it. -/
theorem retried_iff_plc :
    (faultyClients true false 1).monitoredItems = [] ∧
      (faultyClients true false 2).Monitors (plcTrees 1) (plcMade "plc" "plc.cpu" "cpu") := by
  have hno : ∀ i < 2, ¬ Refuses (faultyRemotes true false i) idString (faultyClients true false i) := by
    intro i _ hrefuses
    obtain ⟨_, _, _, _, _, _, _, _, _, -, -, -, -, hrefused⟩ := hrefuses.path
    obtain ⟨found, _, _, cc₂, -, -, -, hcreate⟩ := hrefused.path
    match i with
    | 0 => cases hcreate
    | _ + 1 => cases hcreate
  have hall := (retried_iff idString 2 (fun _ => plcTrees 1) (faultyRemotes true false) (faultyClients true false)
    (faulty_attempts true false) (by decide +kernel)).mpr hno 1 (by decide)
  exact ⟨by decide +kernel, hall.2 (returns_poll (by decide +kernel)) _ _ plc_device plc_sensors⟩

/-- The subscription throws: the device is cached without an item, and the second attempt,
    which returns, leaves it so. -/
theorem refused_device_is_skipped :
    Attempts idString 2 (fun _ => plcTrees 1) (faultyRemotes false true) (faultyClients false true) ∧
      ¬ CachedOnlyIfMonitored idString (plcTrees 1) (faultyClients false true 1) ∧
      discoverAndSubscribe (faultyRemotes false true 1) idString (faultyClients false true 1) =
        .ok () (faultyClients false true 2) ∧
      ¬ AllMonitored (plcTrees 1) (faultyClients false true 2) := by
  have hunwatched : ∀ i < 3, (faultyClients false true i).monitoredItems = [] := by decide +kernel
  have hcached : ((faultyClients false true 1).deviceCache (idString (plcMade "plc" "plc.cpu" "cpu").nodeId)).isSome = true := by
    decide +kernel
  refine ⟨faulty_attempts false true, fun h => ?_, returns_poll (by decide +kernel), fun h => ?_⟩
  · obtain ⟨item, hitem, -⟩ := h _ _ plc_device hcached
    rw [hunwatched 1 (by decide)] at hitem
    cases hitem
  · obtain ⟨item, hitem, -⟩ := h _ _ plc_device plc_sensors
    rw [hunwatched 2 (by decide)] at hitem
    cases hitem

end HardwareMonitor.ControlCenter
