/-
  HardwareMonitor.ControlCenter.Provenance — where the rows on the grid come from, over
  the whole system: the workers push, the backends send, the control center discovers and
  is called back.

  A run of the control center goes beside a run of the backends (`GenuineRun`): each
  discovery watches the server at times of its own, and each callback is handed a value
  that its variable has had. An item is subscribed to in a device's own sensors variable,
  under the name of the device's own folder, and its entry was read of the device's own
  variables (`Owned`, kept by every discovery: `poll_owned`); and a variable never holds
  anything but what it was created with, or a field of a snapshot that a worker has pushed
  for this device. So a row shows the sensors of such a snapshot, or none, under the name
  of a process that pushed it (`shown_was_pushed`).
-/

import HardwareMonitor.SystemInfo.NodeOrigins
import HardwareMonitor.ControlCenter.DisplayGrid

namespace HardwareMonitor.ControlCenter

open HardwareMonitor.OpcUa
open HardwareMonitor.SystemInfo
open HardwareMonitor.Lib.Throwing
open HardwareMonitor.Lib.Interaction

/-! ## What variables hold -/

section

variable (launch : Nat → Launch) (es : List Event)

/-- A worker of a process of that name has pushed the snapshot. -/
def PushedBy (clientName : String) (snapshot : TelemetrySnapshot) : Prop :=
  ∃ p, (launch p).clientName = clientName ∧ .push p snapshot ∈ es

/-- A snapshot of the device has been pushed by the device's own process. -/
def PushedFor (d key : String) (snapshot : TelemetrySnapshot) : Prop := PushedBy launch es d snapshot ∧ snapshot.name = key

end

variable {launch : Nat → Launch} {es : List Event} {d key : String}

/-- At any time of the run. -/
theorem value_pushed {f : String} (hpl : Present (after launch es).shared.tree (.field d key f)) (n : Nat) :
    (sharedAt launch es n).value (Place.field d key f).id = .empty ∨ ∃ snapshot, PushedFor launch es d key snapshot ∧
      (sharedAt launch es n).value (Place.field d key f).id = fieldValue snapshot f := by
  by_cases hempty : (sharedAt launch es n).value (Place.field d key f).id = .empty
  · exact Or.inl hempty
  · right
    have hpushes : Pushes (fun p snapshot => .push p snapshot ∈ es) (es.take n) := fun p snapshot h => List.mem_of_mem_take h
    obtain ⟨p, snapshot, g, -, hpush, hid, hpl', hvalue⟩ := (sound_after launch _ _ hpushes).inv.values _ hempty
    -- the place of an id is one only
    have hplace := hpl.unique (honest_after launch es).grounded (hpl'.mono (grows_sharedAt launch es n)) hid
    simp only [Place.field.injEq] at hplace
    obtain ⟨rfl, rfl, rfl⟩ := hplace
    exact ⟨snapshot, ⟨⟨p, rfl, hpush⟩, rfl⟩, hvalue⟩

theorem string_pushed {f : String} (hpl : Present (after launch es).shared.tree (.field d key f)) (n : Nat) :
    stringOfValue ((sharedAt launch es n).value (Place.field d key f).id) = "" ∨ ∃ snapshot, PushedFor launch es d key snapshot ∧
      stringOfValue ((sharedAt launch es n).value (Place.field d key f).id) = stringOfValue (fieldValue snapshot f) := by
  rcases value_pushed hpl n with hempty | ⟨snapshot, hpush, hvalue⟩
  · left
    rw [hempty]
    rfl
  · exact Or.inr ⟨snapshot, hpush, congrArg stringOfValue hvalue⟩

/-! ## What is cached -/

/-- An entry of the cache that says what the device's process has said of it, or nothing. -/
structure Identifies (launch : Nat → Launch) (es : List Event) (d key : String) (entry : DeviceCache) : Prop where
  folder : entry.clientFolderName = d
  name : entry.info.name = "" ∨ entry.info.name = key
  hardwareType : entry.info.hardwareType = "" ∨
    ∃ snapshot, PushedFor launch es d key snapshot ∧ snapshot.hardwareType = entry.info.hardwareType

/-- The item's variable is a device's sensors, and what its callback will find cached is of
    that device. -/
structure OwnedItem (launch : Nat → Launch) (es : List Event) (cc : Client) (item : MonitoredItem) (d key : String) : Prop where
  sensors : item.nodeId = (Place.field d key "sensors").id
  filled : Filled (after launch es).shared.tree d key
  cached : ∃ entry, cc.deviceCache item.deviceNodeId = some entry ∧ Identifies launch es d key entry

def Owned (launch : Nat → Launch) (es : List Event) (cc : Client) : Prop :=
  ∀ item ∈ cc.monitoredItems, ∃ d key, OwnedItem launch es cc item d key

theorem timeless_owned : Timeless (Owned launch es) := by
  intro cc n h item hitem
  obtain ⟨d, key, hown⟩ := h item hitem
  exact ⟨d, key, hown.sensors, hown.filled, hown.cached⟩

/-- Entries stay, so the items stay owned. -/
theorem OwnedItem.kept {cc c : Client} {item : MonitoredItem} (h : OwnedItem launch es cc item d key) (hkept : Kept cc c) :
    OwnedItem launch es c item d key := by
  obtain ⟨entry, hentry, hid⟩ := h.cached
  exact ⟨h.sensors, h.filled, entry, hkept _ _ hentry, hid⟩

section

variable {remote : Remote} {nodeIdToString : NodeId → String} {time : Nat → Nat}

/-- Every entry is an old one, or made under this client's name. -/
def NamedSince (cc : Client) (clientFolderName : String) (c : Client) : Prop :=
  ∀ k entry, c.deviceCache k = some entry → cc.deviceCache k = some entry ∨ entry.clientFolderName = clientFolderName

/-- The entry a visit makes is made under the name of the client it is visited for. -/
theorem visitDevice_named (remote : Remote) (nodeIdToString : NodeId → String) (clientFolderName : String)
    (deviceNode : NodeId) (cc : Client) :
    Ensures (fun c => c = cc) (visitDevice remote nodeIdToString clientFolderName deviceNode)
      (fun _ c => NamedSince cc clientFolderName c) (fun c => NamedSince cc clientFolderName c) := by
  have hlater : ∀ k, NamedSince cc clientFolderName (cc.later k) := fun k _ _ h => Or.inl h
  intro c heq
  obtain rfl := heq
  rw [visitDevice_eq]
  by_cases hcached : (c.deviceCache (nodeIdToString deviceNode)).isSome = true
  · rw [if_pos hcached]
    exact hlater 0
  · rw [if_neg hcached]
    refine Ensures.bind (inspectDevice_later _ hlater) (fun found => ?_) c rfl
    unfold subscribeFound
    split
    · refine Ensures.pure _ fun c' h => ?_
      rw [h]
      exact hlater _
    · have hread := @readDeviceInfo_dates remote found.ids c
        (1 + ((remote.browseChildren c.requests deviceNode).getD []).length)
      have hread' : Ensures (fun c' => c' = c.later (1 + ((remote.browseChildren c.requests deviceNode).getD []).length))
          (readDeviceInfo remote found.ids) (fun _ c' => NamedSince c clientFolderName c')
          (fun c' => NamedSince c clientFolderName c') := by
        intro c' hc'
        have hres := hread c' hc'
        cases hr : readDeviceInfo remote found.ids c' with
        | ok info c'' =>
          rw [hr] at hres
          rw [show c'' = _ from hres]
          exact hlater _
        | error e c'' =>
          rw [hr] at hres
          obtain ⟨j, rfl⟩ := hres
          exact hlater j
      refine Ensures.bind hread' fun info => ?_
      refine Ensures.bind (Q := fun _ c' => NamedSince c clientFolderName c') (Ensures.modify fun c' h => ?_) fun _ => ?_
      · intro k entry hentry
        simp only [Client.setCache] at hentry
        split at hentry
        · rw [← Option.some.inj hentry]
          exact Or.inr rfl
        · exact h k entry hentry
      · unfold subscribeDataChange
        refine Ensures.bind (request_ensures _ (fun _ _ h => h) fun _ h => h) fun _ => Ensures.assume fun _ => ?_
        exact Ensures.modify fun c' h => h

/-- A visit to one of its devices, in the name of the process's folder. -/
theorem visitDevice_owned (hw : remote.Watches launch es time) (hnode : Present (after launch es).shared.tree (.object d key)) :
    Ensures (Owned launch es) (visitDevice remote nodeIdToString d (Place.object d key).id) (fun _ => Owned launch es)
      (Owned launch es) := by
  refine Ensures.of_stateOf fun cc h => ?_
  have hspec := visitDevice_caches nodeIdToString hw hnode d cc cc rfl
  have hnamed := visitDevice_named remote nodeIdToString d (Place.object d key).id cc cc rfl
  have hold : ∀ c, Kept cc c → c.monitoredItems = cc.monitoredItems → Owned launch es c := by
    intro c hkept hsame item hitem
    obtain ⟨d', key', hown⟩ := h item (hsame ▸ hitem)
    exact ⟨d', key', hown.kept hkept⟩
  cases hr : visitDevice remote nodeIdToString d (Place.object d key).id cc with
  | error e c =>
    rw [hr] at hspec
    exact hold c hspec.1 hspec.2
  | ok a c =>
    rw [hr] at hspec hnamed
    obtain ⟨hkept, hsame | hcaches⟩ := hspec
    · exact hold c hkept hsame
    · intro item hitem
      change item ∈ c.monitoredItems at hitem
      rw [hcaches.item] at hitem
      rcases List.mem_append.mp hitem with hitem | hitem
      · obtain ⟨d', key', hown⟩ := h item hitem
        exact ⟨d', key', hown.kept hkept⟩
      · obtain rfl := List.mem_singleton.mp hitem
        obtain ⟨entry, hentry, hname, htype⟩ := hcaches.entry
        refine ⟨d, key, rfl, hcaches.filled, entry, hentry, ?_, ?_, ?_⟩
        · -- a device with an entry is not visited again
          rcases hnamed _ _ hentry with hbefore | hfolder
          · exfalso
            rw [visitDevice_eq, hbefore] at hr
            have hsame : cc = c := by simpa using hr
            have hlength := congrArg List.length hcaches.item
            rw [← hsame, List.length_append, List.length_singleton] at hlength
            omega
          · exact hfolder
        · rw [hname]
          rcases string_pushed (hcaches.filled "name" (by decide))
            (time (nameDate remote (Place.object d key).id cc)) with hempty | ⟨snapshot, hpush, hvalue⟩
          · exact Or.inl hempty
          · right
            rw [hvalue]
            exact hpush.2
        · rw [htype]
          rcases string_pushed (hcaches.filled "hardware_type" (by decide))
            (time (hardwareTypeDate remote (Place.object d key).id cc)) with hempty | ⟨snapshot, hpush, hvalue⟩
          · exact Or.inl hempty
          · exact Or.inr ⟨snapshot, hpush, hvalue.symm⟩

/-- A process's folder is browsed under the process's name. -/
theorem listDevices_named (hw : remote.Watches launch es time) (hfolder : Present (after launch es).shared.tree (.folder d)) :
    Ensures (fun _ => True) (listDevices remote (Place.folder d).id) (fun devices _ => devices.1 = d) (fun _ => True) := by
  unfold listDevices
  refine Ensures.bind (request_ensures _ (fun _ _ h => h) fun _ h => h) fun clientFolderName => Ensures.assume fun hname => ?_
  obtain ⟨date, hname⟩ := hname
  refine Ensures.bind (request_ensures _ (fun _ _ h => h) fun _ h => h) fun deviceNodes => Ensures.assume fun _ => ?_
  refine Ensures.pure _ fun _ _ => ?_
  obtain ⟨n, hn, hid, hbrowse⟩ := hw.browseName date _ _ hname
  obtain ⟨pl, hat, -, hpl⟩ := present_at hn
  obtain rfl := hpl.unique (honest_after launch es).grounded hfolder (hat.nodeId.symm.trans hid)
  rw [← hbrowse, hat.browseName]
  rfl

/-- What requests alone and each visit to a backend's device keep, a discovery keeps. A visit
    that throws ends it. -/
theorem discoverAndSubscribe_visits {P E : Client → Prop} (hP : Timeless P) (hE : ∀ cc, P cc → E cc)
    (hw : remote.Watches launch es time)
    (hvisit : ∀ d key, Present (after launch es).shared.tree (.object d key) →
      Ensures P (visitDevice remote nodeIdToString d (Place.object d key).id) (fun _ => P) E) :
    Ensures P (discoverAndSubscribe remote nodeIdToString) (fun _ => P) E := by
  rw [discoverAndSubscribe_eq]
  refine Ensures.weaken (Ensures.bind (Ensures.and ((listClientFolders_keeps hP).weaken_thrown hE) (listClientFolders_below hw))
    fun clientFolders => ?_) (fun cc h => ⟨h, trivial⟩) fun _ _ h => h
  refine Ensures.weaken (Ensures.assume (p := ∀ id ∈ clientFolders, ∃ d, id = (Place.folder d).id ∧
    Present (after launch es).shared.tree (.folder d)) fun hfolders => ?_) (fun cc h => ⟨h.2, h.1⟩) fun _ _ h => h
  refine Ensures.forM clientFolders fun clientFolder hmem => ?_
  obtain ⟨d, rfl, hfolder⟩ := hfolders clientFolder hmem
  rw [visitClientFolder_eq]
  refine Ensures.weaken (Ensures.bind (Ensures.and ((listDevices_keeps hP _).weaken_thrown hE)
    (Ensures.and (listDevices_below hw hfolder) (listDevices_named hw hfolder))) fun devices => ?_)
    (fun cc h => ⟨h, trivial, trivial⟩) fun _ _ h => h
  refine Ensures.weaken (Ensures.assume (p := (∀ id ∈ devices.2, ∃ key, id = (Place.object d key).id ∧
    Present (after launch es).shared.tree (.object d key)) ∧ devices.1 = d) fun hdevices => ?_)
    (fun cc h => ⟨h.2, h.1⟩) fun _ _ h => h
  obtain ⟨hbelow, hname⟩ := hdevices
  refine Ensures.forM devices.2 fun deviceNode hmem => ?_
  obtain ⟨key, rfl, hnode⟩ := hbelow deviceNode hmem
  rw [hname]
  exact hvisit d key hnode

theorem discoverAndSubscribe_owned (hw : remote.Watches launch es time) :
    Ensures (Owned launch es) (discoverAndSubscribe remote nodeIdToString) (fun _ => Owned launch es) (Owned launch es) :=
  discoverAndSubscribe_visits timeless_owned (fun _ h => h) hw fun _ _ hnode => visitDevice_owned hw hnode

theorem poll_owned (hw : remote.Watches launch es time) {cc : Client} (h : Owned launch es cc) :
    Owned launch es (poll remote nodeIdToString cc) :=
  poll_ensures (discoverAndSubscribe_owned hw) h

end

/-! ## Runs of both sides -/

/-- A turn beside this run of the backends: a discovery asks the server as it is by then,
    and a callback is handed a value that its variable has had. -/
def Turn.Genuine (launch : Nat → Launch) (es : List Event) (cc : Client) : Turn → Prop
  | .discover remote => ∃ time, remote.Watches launch es time
  | .callback i value => ∀ item, cc.monitoredItems[i]? = some item → ∃ n, value = (sharedAt launch es n).value item.nodeId
  | .render => True

section

variable (launch : Nat → Launch) (es : List Event) (nodeIdToString : NodeId → String)
  (decodeBinary : ByteString → Option SensorDto) (formatValue : UInt32 → String)

inductive GenuineRun : List Turn → Prop
  | start : GenuineRun []
  | turn (turns : List Turn) {turn : Turn} (h : GenuineRun turns)
      (hturn : turn.Genuine launch es (displayAfter nodeIdToString decodeBinary formatValue turns).client) :
      GenuineRun (turns ++ [turn])

end

/-- Every callback so far was a device's own, with a value its sensors have had. -/
structure Sourced (launch : Nat → Launch) (es : List Event) (d : Display) : Prop where
  owned : Owned launch es d.client
  callbacks : ∀ e ∈ d.callbacks, ∃ item dev key, item.deviceNodeId = e.1 ∧ OwnedItem launch es d.client item dev key ∧
    ∃ n, e.2 = (sharedAt launch es n).value item.nodeId

section

variable {nodeIdToString : NodeId → String} {decodeBinary : ByteString → Option SensorDto} {formatValue : UInt32 → String}

theorem sourced_take {display : Display} (h : Sourced launch es display) (hfaithful : Faithful decodeBinary formatValue display)
    {turn : Turn} (hturn : turn.Genuine launch es display.client) :
    Sourced launch es (display.take nodeIdToString decodeBinary formatValue turn) := by
  cases turn with
  | discover remote =>
    obtain ⟨time, hw⟩ := hturn
    refine ⟨poll_owned hw h.owned, fun e he => ?_⟩
    obtain ⟨item, dev, key, hid, hown, hvalue⟩ := h.callbacks e he
    exact ⟨item, dev, key, hid, hown.kept (poll_extends remote nodeIdToString hfaithful.items).1, hvalue⟩
  | callback i value =>
    simp only [Display.take]
    cases hitem : display.client.monitoredItems[i]? with
    | none => exact h
    | some item =>
      refine ⟨h.owned, fun e he => ?_⟩
      rcases List.mem_cons.mp he with rfl | he
      · obtain ⟨dev, key, hown⟩ := h.owned item (List.mem_of_getElem? hitem)
        exact ⟨item, dev, key, rfl, hown, hturn item hitem⟩
      · exact h.callbacks e he
  | render => exact ⟨h.owned, h.callbacks⟩

theorem sourced_after {turns : List Turn} (h : GenuineRun launch es nodeIdToString decodeBinary formatValue turns) :
    Sourced launch es (displayAfter nodeIdToString decodeBinary formatValue turns) := by
  induction h with
  | start => exact ⟨fun _ h => (nomatch h), fun _ h => (nomatch h)⟩
  | turn turns _ hturn ih =>
    rw [displayAfter_snoc]
    exact sourced_take ih (faithful_after _) hturn

/-! ## Rows -/

/-- The field a sensor is shown in. -/
def sensorField (formatValue : UInt32 → String) (sensor : SensorSnapshot) : String × String :=
  ("  " ++ sensor.name,
    if sensor.unit ≠ "" then formatValue sensor.value ++ " " ++ sensor.unit else formatValue sensor.value)

theorem decode_written (decodeBinary : ByteString → Option SensorDto) (snapshot : TelemetrySnapshot) :
    decodeSensorDtos decodeBinary (fieldValue snapshot "sensors") =
      snapshot.sensors.map fun sensor => ⟨sensor.name, sensor.value, sensor.unit, ""⟩ := by
  show (snapshot.sensors.map buildSensor).filterMap _ = _
  rw [List.filterMap_map, ← List.filterMap_eq_map]
  rfl

/-- The device has pushed. A row shows the sensors of a snapshot that has been pushed for
    it, or none; and what it calls the device is the device's key and what a snapshot has
    said of its type, or nothing. -/
structure ShowsPushed (launch : Nat → Launch) (es : List Event) (formatValue : UInt32 → String) (d key hardwareType : String)
    (row : ClientRow) : Prop where
  pushed : ∃ snapshot, PushedFor launch es d key snapshot
  deviceType : hardwareType = "" ∨ ∃ snapshot, PushedFor launch es d key snapshot ∧ snapshot.hardwareType = hardwareType
  fields : ∃ name sensors, (name = "" ∨ name = key) ∧
    row.fields = (name ++ " (" ++ hardwareType ++ ")", "") :: sensors.map (sensorField formatValue) ∧
    (sensors = [] ∨ ∃ snapshot, PushedFor launch es d key snapshot ∧ snapshot.sensors = sensors)

/-- A callback of a device's own item, with a value the item's variable has had. -/
theorem callback_shows {cc : Client} {item : MonitoredItem} {dev key : String} (hown : OwnedItem launch es cc item dev key)
    {n : Nat} {value : Variant} (hvalue : value = (sharedAt launch es n).value item.nodeId) {call : SinkCall}
    (hcall : handleSensorUpdate decodeBinary formatValue cc item.deviceNodeId value = some call) :
    call.clientFolderName = dev ∧ ShowsPushed launch es formatValue dev key call.deviceKey call.row := by
  obtain ⟨entry, hentry, hid⟩ := hown.cached
  simp only [handleSensorUpdate, hentry, Option.some.injEq] at hcall
  subst hcall
  obtain ⟨p, pushed, hp, hpush, hkey⟩ := object_was_pushed ((hown.filled "sensors" (by decide)).above _ rfl)
  refine ⟨hid.folder, ⟨pushed, ⟨p, hp, hpush⟩, hkey⟩, hid.hardwareType, entry.info.name, ?_⟩
  rw [hown.sensors] at hvalue
  rcases value_pushed (hown.filled "sensors" (by decide)) n with hempty | ⟨snapshot, hpush, hwritten⟩
  · refine ⟨[], hid.name, ?_, Or.inl rfl⟩
    rw [hvalue, hempty]
    rfl
  · refine ⟨snapshot.sensors, hid.name, ?_, Or.inr ⟨snapshot, hpush, rfl⟩⟩
    rw [hvalue, hwritten, decode_written, List.map_map]
    rfl

/-- The row at a cell. -/
theorem row_shows {turns : List Turn} (h : GenuineRun launch es nodeIdToString decodeBinary formatValue turns)
    {clientName hardwareType : String} {row : ClientRow}
    (hrow : (displayAfter nodeIdToString decodeBinary formatValue turns).grid.row clientName hardwareType = some row) :
    ∃ key, ShowsPushed launch es formatValue clientName key hardwareType row := by
  have hsourced := sourced_after h
  rw [(faithful_after turns).shown, Option.bind_eq_some_iff] at hrow
  obtain ⟨e, hnewest, hrow⟩ := hrow
  obtain ⟨item, dev, key, hid, hown, n, hvalue⟩ := hsourced.callbacks e (List.mem_of_find?_eq_some hnewest)
  obtain ⟨call, hcall, rfl⟩ := Option.map_eq_some_iff.mp hrow
  have hcached : ((displayAfter nodeIdToString decodeBinary formatValue turns).client.deviceCache e.1).isSome = true :=
    (faithful_after turns).cached e (List.mem_of_find?_eq_some hnewest)
  -- the row stands where the callback's cell is
  have hcell : (displayAfter nodeIdToString decodeBinary formatValue turns).client.cell e.1 = some (clientName, hardwareType) := by
    unfold Display.newest at hnewest
    simpa using List.find?_some hnewest
  obtain ⟨call', hcall', hcell'⟩ := sink_cell decodeBinary formatValue hcached e.2
  obtain rfl : call = call' := Option.some.inj (hcall.symm.trans hcall')
  obtain ⟨rfl, rfl⟩ := Prod.mk.inj (Option.some.inj (hcell'.symm.trans hcell))
  rw [← hid] at hcall
  obtain ⟨hname, hshows⟩ := callback_shows hown hvalue hcall
  rw [hname]
  exact ⟨key, hshows⟩

end

/-- What the grid lists as a client's device is the row at that cell. -/
theorem row_of_mem (grid : DisplayGrid) :
    ∀ client ∈ grid.rows.toList, ∀ e ∈ client.2.toList, grid.row client.1 e.1 = some e.2 := by
  intro client hclient e he
  have hdevices : grid.rows[client.1]? = some client.2 := Std.TreeMap.mem_toList_iff_getElem?_eq_some.mp hclient
  have hrow : client.2[e.1]? = some e.2 := Std.TreeMap.mem_toList_iff_getElem?_eq_some.mp he
  rw [DisplayGrid.row, hdevices, Option.bind_some, hrow]

/-- Whatever the backends and the control center do, and in whatever order: each row on the
    grid stands under the name of processes that have pushed snapshots of one device, shows
    the sensors of one of these snapshots, or none, and is headed by that device's key, or
    by no name. -/
theorem shown_was_pushed (launch : Nat → Launch) (es : List Event) (nodeIdToString : NodeId → String)
    (decodeBinary : ByteString → Option SensorDto) (formatValue : UInt32 → String) (turns : List Turn)
    (h : GenuineRun launch es nodeIdToString decodeBinary formatValue turns) :
    ∀ client ∈ (displayAfter nodeIdToString decodeBinary formatValue turns).grid.rows.toList, ∀ e ∈ client.2.toList,
      ∃ key, ShowsPushed launch es formatValue client.1 key e.1 e.2 :=
  fun client hclient e he => row_shows h (row_of_mem _ client hclient e he)

/-! ## A run -/

/-- The control center finds the processor's node before the first write. -/
def plcFound : List Turn := [.discover (watching (solo "plc") plcSends fun _ => plcCreates.length)]

/-- Then it is called back with the empty variable, and again when the snapshot has been written. -/
def plcTurns : List Turn := plcFound ++ [.callback 0 .empty] ++ [.callback 0 (fieldValue cpuSnapshot "sensors")]

theorem plcTurns_genuine : GenuineRun (solo "plc") plcSends idString (fun _ => none) (fun _ => "") plcTurns := by
  have hvalues : (sharedAt (solo "plc") plcSends plcCreates.length).value cpuItem.nodeId = .empty ∧
      (sharedAt (solo "plc") plcSends plcSends.length).value cpuItem.nodeId = fieldValue cpuSnapshot "sensors" := by
    decide +kernel
  have hfirst : (displayAfter idString (fun _ => none) (fun _ => "") plcFound).client.monitoredItems[0]? = some cpuItem := by
    decide +kernel
  have hsecond : (displayAfter idString (fun _ => none) (fun _ => "")
      (plcFound ++ [.callback 0 .empty])).client.monitoredItems[0]? = some cpuItem := by
    decide +kernel
  have hfound : GenuineRun (solo "plc") plcSends idString (fun _ => none) (fun _ => "") plcFound :=
    .turn [] .start ⟨_, watching_watches _ _ _⟩
  refine .turn _ (.turn _ hfound fun item hitem => ⟨plcCreates.length, ?_⟩) fun item hitem => ⟨plcSends.length, ?_⟩
  · rw [← Option.some.inj (hfirst.symm.trans hitem)]
    exact hvalues.1.symm
  · rw [← Option.some.inj (hsecond.symm.trans hitem)]
    exact hvalues.2.symm

/-- The row of the empty type: neither name nor type had been written yet. -/
theorem shown_was_pushed_plc :
    ∃ key, ShowsPushed (solo "plc") plcSends (fun _ => "") "plc" key "" ⟨[(" ()", ""), ("  Package Power", " mW")]⟩ := by
  obtain ⟨⟨clientName, devices⟩, hclient, hname, hrow⟩ :
      ∃ client ∈ (displayAfter idString (fun _ => none) (fun _ => "") plcTurns).grid.rows.toList,
        client.1 = "plc" ∧ ("", ⟨[(" ()", ""), ("  Package Power", " mW")]⟩) ∈ client.2.toList := by
    decide +kernel
  subst hname
  exact shown_was_pushed (solo "plc") plcSends idString (fun _ => none) (fun _ => "") plcTurns plcTurns_genuine
    ("plc", devices) hclient _ hrow

end HardwareMonitor.ControlCenter
