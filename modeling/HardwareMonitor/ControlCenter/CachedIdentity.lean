/-
  HardwareMonitor.ControlCenter.CachedIdentity — the name and the hardware type a row
  carries.

  A visit that finds a device's sensors reads its name, vendor and type once and keeps
  them for good (`visitDevice_caches`). Its test looks at which nodes exist, not at what
  has been written, and the backend creates all four variables before it writes the
  first. A row is right exactly if the visit's two reads came after the first writes
  (`rows_carry_iff`). Otherwise it stays wrong for ever (`unwritten_identity_is_kept`).
-/

import HardwareMonitor.ControlCenter.Visits

namespace HardwareMonitor.ControlCenter

open HardwareMonitor.OpcUa
open HardwareMonitor.SystemInfo
open HardwareMonitor.Lib.Throwing

variable {remote : Remote} {nodeIdToString : NodeId → String}

/-! ## What a visit caches -/

/-- No entry of the cache is ever changed. -/
def Kept (cc c : Client) : Prop := ∀ k entry, cc.deviceCache k = some entry → c.deviceCache k = some entry

/-- The visit has subscribed to the device, and caches what it has read of its variables. -/
structure Caches (launch : Nat → Launch) (es : List Event) (time : Nat → Nat) (remote : Remote) (deviceNodeId : String)
    (d key : String) (cc c : Client) : Prop where
  filled : Filled (after launch es).shared.tree d key
  past : hardwareTypeDate remote (Place.object d key).id cc < c.requests
  item : c.monitoredItems = cc.monitoredItems ++ [⟨(Place.field d key "sensors").id, deviceNodeId⟩]
  entry : ∃ entry, c.deviceCache deviceNodeId = some entry ∧
    entry.info.name = stringOfValue ((sharedAt launch es (time (nameDate remote (Place.object d key).id cc))).value
      (Place.field d key "name").id) ∧
    entry.info.hardwareType = stringOfValue ((sharedAt launch es
      (time (hardwareTypeDate remote (Place.object d key).id cc))).value (Place.field d key "hardware_type").id)

variable {launch : Nat → Launch} {es : List Event} {time : Nat → Nat} {d key : String}

/-- A visit to a device caches it and subscribes to it, or leaves the items as they were. -/
theorem visitDevice_caches (nodeIdToString : NodeId → String) (hw : remote.Watches launch es time)
    (hnode : Present (after launch es).shared.tree (.object d key)) (clientFolderName : String) (cc : Client) :
    Ensures (fun c => c = cc) (visitDevice remote nodeIdToString clientFolderName (Place.object d key).id)
      (fun _ c => Kept cc c ∧ (c.monitoredItems = cc.monitoredItems ∨
        Caches launch es time remote (nodeIdToString (Place.object d key).id) d key cc c))
      (fun c => Kept cc c ∧ c.monitoredItems = cc.monitoredItems) := by
  intro c heq
  obtain rfl := heq
  rw [visitDevice_eq]
  cases hcached : c.deviceCache (nodeIdToString (Place.object d key).id) with
  | some entry =>
    simp only [Option.isSome_some, if_true]
    exact ⟨fun _ _ h => h, Or.inl trivial⟩
  | none =>
    simp only [Option.isSome_none, Bool.false_eq_true, if_false]
    have hE : ∀ j, Kept c (c.later j) ∧ (c.later j).monitoredItems = c.monitoredItems := fun j => ⟨fun _ _ h => h, rfl⟩
    have hset : ∀ (j : Nat) (entry : DeviceCache),
        Kept c ((c.later j).setCache (nodeIdToString (Place.object d key).id) entry) :=
      fun j entry k e hk => setCache_keeps hcached entry hk
    refine Ensures.bind (Ensures.and (inspectDevice_later _ hE) (inspectDevice_noted hw hnode)) (fun found => ?_) c
      ⟨rfl, trivial⟩
    unfold subscribeFound
    cases hs : found.foundSensors with
    | false =>
      simp only [Bool.not_false, if_true]
      refine Ensures.pure _ fun c' h => ?_
      rw [h.1]
      exact ⟨(hE _).1, Or.inl (hE _).2⟩
    | true =>
      simp only [Bool.not_true, Bool.false_eq_true, if_false]
      refine Ensures.weaken (Ensures.assume fun hfound => ?_) (fun c' h => ⟨h.2 trivial, h.1⟩) fun _ _ h => h
      obtain ⟨hids, hsensors, hfilled⟩ := hfound
      rw [hids, hsensors]
      refine Ensures.bind (readDeviceInfo_later _ _ hE) fun info => Ensures.assume fun hinfo => ?_
      obtain ⟨⟨v, hv, hname⟩, v', hv', htype⟩ := hinfo
      generalize hj : 1 + ((remote.browseChildren c.requests (Place.object d key).id).getD []).length + 3 = j
      -- from here on only the entry and the item are made
      have hcache : Ensures (fun c' => c' = c.later j)
          (modify fun cc => cc.setCache (nodeIdToString (Place.object d key).id) ⟨clientFolderName, info⟩ : Task PUnit)
          (fun _ c' => c' = ((c.later j).setCache (nodeIdToString (Place.object d key).id) ⟨clientFolderName, info⟩).later 0)
          (fun c' => Kept c c' ∧ c'.monitoredItems = c.monitoredItems) :=
        Ensures.modify fun c' h => by rw [h]; rfl
      refine Ensures.bind hcache fun _ => ?_
      unfold subscribeDataChange
      refine Ensures.bind (request_later _ 0 fun i => ⟨hset j _, rfl⟩) fun _ => ?_
      refine Ensures.assume fun _ => Ensures.modify fun c' h => ?_
      rw [h]
      refine ⟨hset j _, Or.inr ⟨hfilled, ?_, rfl, ⟨clientFolderName, info⟩, if_pos rfl, ?_, ?_⟩⟩
      · show c.requests + _ + 2 < c.requests + j + 1
        omega
      · rw [hname, hw.value _ _ _ hv]
        rfl
      · rw [htype, hw.value _ _ _ hv']
        rfl

/-! ## Which devices are visited -/

/-- The client folders listed are folders of backends. -/
theorem listClientFolders_below (hw : remote.Watches launch es time) :
    Ensures (fun _ => True) (listClientFolders remote)
      (fun ids _ => ∀ id ∈ ids, ∃ d, id = (Place.folder d).id ∧ Present (after launch es).shared.tree (.folder d))
      (fun _ => True) := by
  unfold listClientFolders
  refine Ensures.bind (request_ensures _ (fun _ _ h => h) fun _ h => h) fun clientsFolder => Ensures.assume fun hclients => ?_
  obtain ⟨date, hclients⟩ := hclients
  obtain rfl := hw.clients date _ hclients
  split
  · exact Ensures.pure _ fun _ _ id hid => nomatch hid
  · refine Ensures.weaken (request_ensures _ (fun _ _ h => h) fun _ h => h) (fun _ h => h) fun ids _ h id hid => ?_
    obtain ⟨⟨date', hids⟩, -⟩ := h
    obtain ⟨n, hn, rfl, hparent⟩ := (hw.children date' _ _ hids id).mp hid
    obtain ⟨pl, hat, hpl, habove⟩ := (honest_after launch es).child (grows_sharedAt launch es _ n hn) (q := none)
      (fun _ h => nomatch h) hparent
    cases pl with
    | folder d => exact ⟨d, hat.nodeId, hpl⟩
    | object d key => cases habove
    | field d key f => cases habove

/-- The nodes listed in a backend's folder are its devices' objects. -/
theorem listDevices_below (hw : remote.Watches launch es time) (hfolder : Present (after launch es).shared.tree (.folder d)) :
    Ensures (fun _ => True) (listDevices remote (Place.folder d).id)
      (fun devices _ => ∀ id ∈ devices.2, ∃ key, id = (Place.object d key).id ∧
        Present (after launch es).shared.tree (.object d key)) (fun _ => True) := by
  unfold listDevices
  refine Ensures.bind (request_ensures _ (fun _ _ h => h) fun _ h => h) fun clientFolderName => Ensures.assume fun _ => ?_
  refine Ensures.bind (request_ensures _ (fun _ _ h => h) fun _ h => h) fun deviceNodes => Ensures.assume fun hnodes => ?_
  obtain ⟨date, hnodes⟩ := hnodes
  refine Ensures.pure _ fun _ _ id hid => ?_
  obtain ⟨n, hn, rfl, hparent⟩ := (hw.children date _ _ hnodes id).mp hid
  obtain ⟨pl, hat, hpl, habove⟩ := (honest_after launch es).child (grows_sharedAt launch es _ n hn) (q := some (.folder d))
    (fun pl h => Option.some.inj h ▸ hfolder) hparent
  cases pl with
  | folder d' => cases habove
  | object d' key =>
    cases habove
    exact ⟨key, hat.nodeId, hpl⟩
  | field d' key f => cases habove

/-- A node that is visited is a device's object. -/
theorem device_of_visited (hw : remote.Watches launch es time) {n : Nat} {clientFolderName : String} {deviceNode : NodeId}
    {cc : Client} (h : Visited remote nodeIdToString n clientFolderName deviceNode cc) :
    ∃ d key, deviceNode = (Place.object d key).id ∧ Present (after launch es).shared.tree (.object d key) := by
  obtain ⟨m, -, clientFolders, cc₁, clientFolder, cc₂, deviceNodes, cc₃, hlist, hmem, hdevices, hmem'⟩ := h.path
  obtain ⟨d, rfl, hfolder⟩ := (listClientFolders_below hw).of_ok trivial hlist _ (mem_of_turn hmem)
  obtain ⟨key, hid, hpl⟩ := (listDevices_below hw hfolder).of_ok trivial hdevices _ (mem_of_turn hmem')
  exact ⟨d, key, hid, hpl⟩

/-! ## What a row carries -/

/-- The backends have written the string by then. -/
def WrittenBy (launch : Nat → Launch) (es : List Event) (now : Nat) (id : NodeId) (str : String) : Prop :=
  ∃ n ≤ now, (sharedAt launch es n).value id = .string str

/-- The row carries a name and a hardware type that have been written for the device. -/
def CarriesWritten (launch : Nat → Launch) (es : List Event) (now : Nat) (d key : String) (call : SinkCall) : Prop :=
  ∃ name hardwareType, WrittenBy launch es now (Place.field d key "name").id name ∧
    WrittenBy launch es now (Place.field d key "hardware_type").id hardwareType ∧ call.deviceKey = hardwareType ∧
    call.row.fields.head? = some (name ++ " (" ++ hardwareType ++ ")", "")

/-- At the time `read` the variable had been written to; or what has been written there by
    now is the empty string, which is what it reads as before. -/
def Known (launch : Nat → Launch) (es : List Event) (now read : Nat) (id : NodeId) : Prop :=
  (sharedAt launch es read).value id ≠ .empty ∨ WrittenBy launch es now id ""

/-- A variable of strings holds a string, once it has been written to. -/
theorem string_of_value {f : String} (hf : f = "name" ∨ f = "hardware_type")
    (hpl : Present (after launch es).shared.tree (.field d key f)) (n : Nat)
    (hv : (sharedAt launch es n).value (Place.field d key f).id ≠ .empty) :
    ∃ str, (sharedAt launch es n).value (Place.field d key f).id = .string str := by
  have hinv := (sound_any launch (es.take n)).inv
  obtain ⟨p, snapshot, g, hg, -, hid, hpl', hval⟩ := hinv.values _ hv
  cases hpl.unique (honest_after launch es).grounded (hpl'.mono (grows_sharedAt launch es n)) hid
  unfold sharedAt
  rw [hval]
  rcases hf with rfl | rfl
  · exact ⟨_, rfl⟩
  · exact ⟨_, rfl⟩

/-- What is read of such a variable is what has been written exactly if it is known. -/
theorem read_written_iff {f : String} (hf : f = "name" ∨ f = "hardware_type")
    (hpl : Present (after launch es).shared.tree (.field d key f)) {now read : Nat} (hread : read ≤ now) :
    WrittenBy launch es now (Place.field d key f).id
        (stringOfValue ((sharedAt launch es read).value (Place.field d key f).id)) ↔
      Known launch es now read (Place.field d key f).id := by
  by_cases hv : (sharedAt launch es read).value (Place.field d key f).id = .empty
  · rw [hv]
    constructor
    · exact fun h => Or.inr h
    · intro h
      rcases h with h | h
      · exact absurd hv h
      · exact h
  · obtain ⟨str, hstr⟩ := string_of_value hf hpl read hv
    refine ⟨fun _ => Or.inl hv, fun _ => ⟨read, hread, ?_⟩⟩
    rw [hstr]
    rfl

/-- A subscribed device's entry in the cache was made by the visit that subscribed to it. -/
theorem entry_origin (hw : remote.Watches launch es time) {n : Nat} {item : MonitoredItem}
    (hitem : item ∈ (afterPolls remote nodeIdToString n).monitoredItems) {cache : DeviceCache}
    (hcache : (afterPolls remote nodeIdToString n).deviceCache item.deviceNodeId = some cache) :
    ∃ clientFolderName d key cc c, Visited remote nodeIdToString n clientFolderName (Place.object d key).id cc ∧
      item ∉ cc.monitoredItems ∧ item.nodeId = (Place.field d key "sensors").id ∧
      Caches launch es time remote item.deviceNodeId d key cc c ∧ c.deviceCache item.deviceNodeId = some cache ∧
      c.requests ≤ (afterPolls remote nodeIdToString n).requests := by
  -- the item is there, and nothing but this entry stands under its key
  let P : Client → Prop := fun cc =>
    item ∈ cc.monitoredItems ∧ ∀ entry, cc.deviceCache item.deviceNodeId = some entry → entry = cache
  have hP : P (afterPolls remote nodeIdToString n) :=
    ⟨hitem, fun entry h => Option.some.inj (h.symm.trans hcache)⟩
  obtain ⟨clientFolderName, deviceNode, cc, hvisit, hno, hyes, hle⟩ :=
    made_by_visit (P := P) (fun _ _ h => h) (fun h => nomatch h.1) n hP
  obtain ⟨d, key, rfl, hnode⟩ := device_of_visited hw hvisit
  -- a client that only keeps its entries does not come to have it so
  have hstay : ∀ c, Kept cc c → item ∈ cc.monitoredItems → ¬ P c := by
    intro c hkept hmem hc
    refine hno ⟨hmem, fun entry h => ?_⟩
    exact hc.2 entry (hkept _ entry h)
  have hspec := visitDevice_caches nodeIdToString hw hnode clientFolderName cc cc rfl
  cases hr : visitDevice remote nodeIdToString clientFolderName (Place.object d key).id cc with
  | error e c =>
    rw [hr] at hspec hyes hle
    exact absurd hyes (hstay c hspec.1 (hspec.2 ▸ hyes.1))
  | ok a c =>
    rw [hr] at hspec hyes hle
    obtain ⟨hkept, hsame | hcaches⟩ := hspec
    · exact absurd hyes (hstay c hkept (hsame ▸ hyes.1))
    · have hmem : item ∉ cc.monitoredItems := fun h => hstay c hkept h hyes
      have hnew := hyes.1
      rw [stateOf, hcaches.item] at hnew
      obtain rfl : item = ⟨(Place.field d key "sensors").id, nodeIdToString (Place.object d key).id⟩ := by
        rcases List.mem_append.mp hnew with h | h
        · exact absurd h hmem
        · exact List.mem_singleton.mp h
      obtain ⟨entry, hentry, -⟩ := hcaches.entry
      refine ⟨clientFolderName, d, key, cc, c, hvisit, hmem, rfl, hcaches, ?_, hle⟩
      rw [hentry, hyes.2 entry hentry]

/-- Every row of a subscribed device, whenever it is delivered, goes back to the visit that
    cached the device; it carries what the backends have written exactly if that visit
    read the name and the hardware type after their first writes. -/
theorem rows_carry_iff (launch : Nat → Launch) (es : List Event) (time : Nat → Nat) (remote : Remote)
    (hw : remote.Watches launch es time) (nodeIdToString : NodeId → String) (decodeBinary : ByteString → Option SensorDto)
    (formatValue : UInt32 → String) (n : Nat) (item : MonitoredItem)
    (hitem : item ∈ (afterPolls remote nodeIdToString n).monitoredItems) (now : Nat)
    (hnow : ∀ date < (afterPolls remote nodeIdToString n).requests, time date ≤ now)
    (value : Variant) (call : SinkCall)
    (hcall : handleSensorUpdate decodeBinary formatValue (afterPolls remote nodeIdToString n) item.deviceNodeId value =
      some call) :
    ∃ clientFolderName d key cc, Visited remote nodeIdToString n clientFolderName (Place.object d key).id cc ∧
      item ∉ cc.monitoredItems ∧ item.nodeId = (Place.field d key "sensors").id ∧
      (CarriesWritten launch es now d key call ↔
        Known launch es now (time (nameDate remote (Place.object d key).id cc)) (Place.field d key "name").id ∧
          Known launch es now (time (hardwareTypeDate remote (Place.object d key).id cc))
            (Place.field d key "hardware_type").id) := by
  unfold handleSensorUpdate at hcall
  cases hcache : (afterPolls remote nodeIdToString n).deviceCache item.deviceNodeId with
  | none =>
    rw [hcache] at hcall
    cases hcall
  | some cache =>
    rw [hcache, Option.some.injEq] at hcall
    obtain ⟨clientFolderName, d, key, cc, c, hvisit, hmem, hid, hcaches, hentry, hle⟩ := entry_origin hw hitem hcache
    have hpast : hardwareTypeDate remote (Place.object d key).id cc < (afterPolls remote nodeIdToString n).requests :=
      Nat.lt_of_lt_of_le hcaches.past hle
    have hpast' : nameDate remote (Place.object d key).id cc < (afterPolls remote nodeIdToString n).requests :=
      Nat.lt_of_le_of_lt (Nat.le_add_right _ 2) hpast
    refine ⟨clientFolderName, d, key, cc, hvisit, hmem, hid, ?_⟩
    obtain ⟨entry, hentry', hname, htype⟩ := hcaches.entry
    obtain rfl : cache = entry := Option.some.inj (hentry.symm.trans hentry')
    rw [← read_written_iff (Or.inl rfl) (hcaches.filled _ (by decide)) (hnow _ hpast'), ← hname,
      ← read_written_iff (Or.inr rfl) (hcaches.filled _ (by decide)) (hnow _ hpast), ← htype]
    -- the row shows what the entry says, and says it in one way only
    subst hcall
    constructor
    · intro hfound
      obtain ⟨name, hardwareType, hn, ht, hkey, hhead⟩ := hfound
      obtain rfl : cache.info.hardwareType = hardwareType := hkey
      have hheading : cache.info.name ++ " (" ++ cache.info.hardwareType ++ ")" =
          name ++ " (" ++ cache.info.hardwareType ++ ")" := congrArg Prod.fst (Option.some.inj hhead)
      rw [(String.append_left_inj _).mp ((String.append_left_inj _).mp ((String.append_left_inj _).mp hheading))]
      exact ⟨hn, ht⟩
    · intro hboth
      obtain ⟨hn, ht⟩ := hboth
      exact ⟨_, _, hn, ht, rfl, rfl⟩

/-! ## Two interleavings -/

/-- The run of `plc` until its processor's snapshot has been written. -/
def plcSends : List Event := soloRun "plc" [cpuSnapshot] 21

/-- The control center after one discovery, made when the run had come `n` events far. -/
def discoveredAt (n : Nat) : Client := afterPolls (watching (solo "plc") plcSends fun _ => n) idString 1

def cpuItem : MonitoredItem := ⟨(Place.field "plc" "CPU" "sensors").id, "plc.CPU"⟩

/-- The row for the sensors of the snapshot; no value is formatted here. -/
def cpuRow (cc : Client) : Option SinkCall :=
  handleSensorUpdate (fun _ => none) (fun _ => "") cc cpuItem.deviceNodeId (fieldValue cpuSnapshot "sensors")

/-- A discovery after the writes. -/
theorem rows_carry_iff_plc :
    ∃ clientFolderName d key cc, Visited (watching (solo "plc") plcSends fun _ => plcSends.length) idString 1 clientFolderName
        (Place.object d key).id cc ∧ cpuItem.nodeId = (Place.field d key "sensors").id ∧
      (CarriesWritten (solo "plc") plcSends plcSends.length d key
          ⟨"plc", "CPU", ⟨[("CPU (CPU)", ""), ("  Package Power", " mW")]⟩⟩ ↔
        Known (solo "plc") plcSends plcSends.length plcSends.length (Place.field d key "name").id ∧
          Known (solo "plc") plcSends plcSends.length plcSends.length (Place.field d key "hardware_type").id) := by
  obtain ⟨name, d, key, cc, hvisit, -, hid, hiff⟩ := rows_carry_iff (solo "plc") plcSends (fun _ => plcSends.length) _
    (watching_watches _ _ _) idString (fun _ => none) (fun _ => "") 1 cpuItem (by decide +kernel) plcSends.length
    (fun _ _ => Nat.le_refl _) (fieldValue cpuSnapshot "sensors")
    ⟨"plc", "CPU", ⟨[("CPU (CPU)", ""), ("  Package Power", " mW")]⟩⟩ (by decide +kernel)
  exact ⟨name, d, key, cc, hvisit, hid, hiff⟩

/-- A discovery when the nodes have just been created. The backend goes on to write its
    snapshot, and the rows delivered from then on still name nothing. -/
theorem unwritten_identity_is_kept :
    .wrote (snapshotNodes "plc" "CPU") cpuSnapshot ∈ ((after (solo "plc") plcSends).shared.backend 0).trace ∧
      cpuItem ∈ (discoveredAt plcCreates.length).monitoredItems ∧
      ∃ call, cpuRow (discoveredAt plcCreates.length) = some call ∧
        ¬ CarriesWritten (solo "plc") plcSends plcSends.length "plc" "CPU" call := by
  refine ⟨by decide +kernel, by decide +kernel, ⟨"plc", "", ⟨[(" ()", ""), ("  Package Power", " mW")]⟩⟩,
    by decide +kernel, ?_⟩
  intro hfound
  obtain ⟨name, hardwareType, -, ⟨n, hn, hval⟩, rfl, -⟩ := hfound
  have hnever : ∀ n ≤ plcSends.length,
      (sharedAt (solo "plc") plcSends n).value (Place.field "plc" "CPU" "hardware_type").id ≠ .string "" := by
    decide +kernel
  exact hnever n hn hval

end HardwareMonitor.ControlCenter
