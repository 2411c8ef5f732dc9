/-
  HardwareMonitor.ControlCenter.DisplayGrid — `DisplayGrid::update` behind the sink, and
  what the grid holds after any run of the main loop.

  Items are keyed by NodeId, the grid by client folder and hardware type. A device's cell
  is fixed when it is cached (`cell_discover`). Whatever the discoveries do, a cell holds
  the row of the newest callback among the devices cached for it (`Faithful.shown`, kept
  by every turn: `faithful_take`), so a device's row goes only to another device of the
  same cell (`rows_hold_newest`). Two cards of one machine have the same cell
  (`second_card_replaces_first`).
-/

import Mathlib.Data.List.Find
import Mathlib.Data.String.Basic
import HardwareMonitor.SystemInfo.Devices
import HardwareMonitor.ControlCenter.CachedIdentity

namespace HardwareMonitor.ControlCenter

open HardwareMonitor.OpcUa
open HardwareMonitor.SystemInfo
open HardwareMonitor.Lib.Throwing

/-! ## The grid -/

structure DisplayGrid where
  /-- `rows_`, by client and then by device. -/
  rows : Std.TreeMap String (Std.TreeMap String ClientRow)
  dirty : Bool

def DisplayGrid.start : DisplayGrid := ⟨∅, false⟩

/-- `update`: `rows_[client_name][device_key] = row`. -/
def DisplayGrid.update (grid : DisplayGrid) (clientName deviceKey : String) (row : ClientRow) : DisplayGrid where
  rows := grid.rows.alter clientName fun devices => some ((devices.getD ∅).insert deviceKey row)
  dirty := true

/-- What `renderIfDirty` leaves behind: it only reads `rows_`. -/
def DisplayGrid.rendered (grid : DisplayGrid) : DisplayGrid := { grid with dirty := false }

/-- The row at a cell, if there is one. -/
def DisplayGrid.row (grid : DisplayGrid) (clientName deviceKey : String) : Option ClientRow :=
  grid.rows[clientName]?.bind (·[deviceKey]?)

@[simp] theorem row_start (clientName deviceKey : String) : DisplayGrid.start.row clientName deviceKey = none := by
  simp [DisplayGrid.start, DisplayGrid.row]

@[simp] theorem row_rendered (grid : DisplayGrid) (clientName deviceKey : String) :
    grid.rendered.row clientName deviceKey = grid.row clientName deviceKey := rfl

theorem row_update (grid : DisplayGrid) (clientName deviceKey : String) (row : ClientRow) (clientName' deviceKey' : String) :
    (grid.update clientName deviceKey row).row clientName' deviceKey' =
      if (clientName, deviceKey) = (clientName', deviceKey') then some row else grid.row clientName' deviceKey' := by
  simp only [DisplayGrid.row, DisplayGrid.update, Std.TreeMap.getElem?_alter, Std.compare_eq_iff_eq, Prod.mk.injEq]
  by_cases hname : clientName = clientName'
  · subst hname
    simp only [if_true, Option.bind_some, Std.TreeMap.getElem?_insert, Std.compare_eq_iff_eq, true_and]
    split
    · rfl
    · cases grid.rows[clientName]? <;> simp
  · simp only [hname, if_false, false_and]

/-! ## Turns of the main loop -/

/-- What may happen next: a discovery, against any remote; the callback of a monitored
    item; a rendering. -/
inductive Turn where
  | discover (remote : Remote)
  | callback (i : Nat) (value : Variant)
  | render

structure Display where
  client : Client
  grid : DisplayGrid
  /-- Not in the source: the callbacks so far with the keys they captured, the newest first. -/
  callbacks : List (String × Variant)

def Display.start : Display := ⟨.start, .start, []⟩

section

variable (nodeIdToString : NodeId → String) (decodeBinary : ByteString → Option SensorDto) (formatValue : UInt32 → String)

/-- `handleSensorUpdate` with the sink that `main` installs. -/
def Display.handleSensorUpdate (d : Display) (deviceNodeId : String) (value : Variant) : Display where
  client := d.client
  grid :=
    match ControlCenter.handleSensorUpdate decodeBinary formatValue d.client deviceNodeId value with
    | none => d.grid
    | some call => d.grid.update call.clientFolderName call.deviceKey call.row
  callbacks := (deviceNodeId, value) :: d.callbacks

def Display.take (d : Display) : Turn → Display
  | .discover remote => { d with client := poll remote nodeIdToString d.client }
  | .callback i value =>
    match d.client.monitoredItems[i]? with
    | none => d
    | some item => d.handleSensorUpdate decodeBinary formatValue item.deviceNodeId value
  | .render => { d with grid := d.grid.rendered }

def displayAfter (turns : List Turn) : Display :=
  turns.foldl (Display.take nodeIdToString decodeBinary formatValue) .start

end

/-- The cell a device's rows go to: its client folder and hardware type, as cached. -/
def Client.cell (cc : Client) (deviceNodeId : String) : Option (String × String) :=
  (cc.deviceCache deviceNodeId).map fun cache => (cache.clientFolderName, cache.info.hardwareType)

/-! ## Discoveries -/

/-- Every callback finds an entry. -/
def ItemsCached (cc : Client) : Prop := ∀ item ∈ cc.monitoredItems, (cc.deviceCache item.deviceNodeId).isSome = true

/-- The client has come from `base`, keeping every entry. -/
def Extends (base cc : Client) : Prop := Kept base cc ∧ ItemsCached cc

section

variable {remote : Remote} {nodeIdToString : NodeId → String} {base : Client}

theorem timeless_extends : Timeless (Extends base) := fun _ _ h => h

theorem Extends.cache {cc : Client} (h : Extends base cc) {key : String} (hnew : cc.deviceCache key = none) (cache : DeviceCache) :
    Extends base (cc.setCache key cache) := by
  constructor
  · exact fun k entry hk => setCache_keeps hnew cache (h.1 k entry hk)
  · intro item hitem
    simp only [Client.setCache]
    split
    · rfl
    · exact h.2 item hitem

theorem visitDevice_extends (clientFolderName : String) (deviceNode : NodeId) :
    Ensures (Extends base) (visitDevice remote nodeIdToString clientFolderName deviceNode) (fun _ => Extends base)
      (Extends base) := by
  refine Ensures.of_stateOf fun cc h => ?_
  rcases visitDevice_cases remote nodeIdToString clientFolderName deviceNode cc with
    ⟨k, hdate⟩ | ⟨hnew, k, cache, ⟨-, hthrows⟩ | ⟨id, hreturns⟩⟩
  · rw [hdate]
    exact h
  · rw [hthrows]
    exact h.cache hnew cache
  · rw [hreturns]
    refine ⟨(h.cache hnew cache).1, fun item hitem => ?_⟩
    rcases List.mem_append.mp hitem with hitem | hitem
    · exact (h.cache hnew cache).2 item hitem
    · rw [List.mem_singleton.mp hitem]
      simp only [stateOf, Client.setCache, if_true, Option.isSome_some]

theorem discoverAndSubscribe_extends (remote : Remote) (nodeIdToString : NodeId → String) (base : Client) :
    Ensures (Extends base) (discoverAndSubscribe remote nodeIdToString) (fun _ => Extends base) (Extends base) :=
  discoverAndSubscribe_keeps timeless_extends visitDevice_extends

/-- A discovery, returning or throwing, keeps every entry. -/
theorem poll_extends (remote : Remote) (nodeIdToString : NodeId → String) {cc : Client} (h : ItemsCached cc) :
    Extends cc (poll remote nodeIdToString cc) :=
  poll_ensures (discoverAndSubscribe_extends remote nodeIdToString cc) ⟨fun _ _ h => h, h⟩

end

/-! ## The newest callback of a cell -/

section

variable {nodeIdToString : NodeId → String} {decodeBinary : ByteString → Option SensorDto} {formatValue : UInt32 → String}

theorem Kept.cell {cc c : Client} (h : Kept cc c) {key : String} (hcached : (cc.deviceCache key).isSome = true) :
    c.cell key = cc.cell key := by
  obtain ⟨entry, hentry⟩ := Option.isSome_iff_exists.mp hcached
  simp only [Client.cell, hentry, h key entry hentry]

theorem Kept.handleSensorUpdate {cc c : Client} (h : Kept cc c) {key : String}
    (hcached : (cc.deviceCache key).isSome = true) (value : Variant) :
    ControlCenter.handleSensorUpdate decodeBinary formatValue c key value =
      ControlCenter.handleSensorUpdate decodeBinary formatValue cc key value := by
  obtain ⟨entry, hentry⟩ := Option.isSome_iff_exists.mp hcached
  simp only [ControlCenter.handleSensorUpdate, hentry, h key entry hentry]

/-- A cached device's update goes to the device's cell. -/
theorem sink_cell (decodeBinary : ByteString → Option SensorDto) (formatValue : UInt32 → String) {cc : Client} {key : String}
    (hcached : (cc.deviceCache key).isSome = true) (value : Variant) :
    ∃ call, handleSensorUpdate decodeBinary formatValue cc key value = some call ∧
      cc.cell key = some (call.clientFolderName, call.deviceKey) := by
  obtain ⟨entry, hentry⟩ := Option.isSome_iff_exists.mp hcached
  simp only [handleSensorUpdate, Client.cell, hentry, Option.map_some, Option.some.injEq, exists_eq_left']

/-- The newest callback for a cell. -/
def Display.newest (d : Display) (clientName deviceKey : String) : Option (String × Variant) :=
  d.callbacks.find? fun e => d.client.cell e.1 = some (clientName, deviceKey)

/-- The row a callback was turned into. -/
def rowOf (decodeBinary : ByteString → Option SensorDto) (formatValue : UInt32 → String) (cc : Client)
    (e : String × Variant) : Option ClientRow :=
  (handleSensorUpdate decodeBinary formatValue cc e.1 e.2).map (·.row)

structure Faithful (decodeBinary : ByteString → Option SensorDto) (formatValue : UInt32 → String) (d : Display) : Prop where
  items : ItemsCached d.client
  cached : ∀ e ∈ d.callbacks, (d.client.deviceCache e.1).isSome = true
  shown : ∀ clientName deviceKey,
    d.grid.row clientName deviceKey = (d.newest clientName deviceKey).bind (rowOf decodeBinary formatValue d.client)

theorem faithful_start : Faithful decodeBinary formatValue .start where
  items _ h := nomatch h
  cached _ h := nomatch h
  shown clientName deviceKey := row_start clientName deviceKey

/-- What has been shown stays the row of the newest callback: the entries are kept. -/
theorem faithful_discover {d : Display} (h : Faithful decodeBinary formatValue d) (remote : Remote) :
    Faithful decodeBinary formatValue { d with client := poll remote nodeIdToString d.client } := by
  obtain ⟨hkept, hitems⟩ := poll_extends remote nodeIdToString h.items
  refine ⟨hitems, fun e he => ?_, fun clientName deviceKey => ?_⟩
  · obtain ⟨entry, hentry⟩ := Option.isSome_iff_exists.mp (h.cached e he)
    show (Client.deviceCache _ e.1).isSome = true
    rw [hkept _ entry hentry, Option.isSome_some]
  · have hnewest : Display.newest { d with client := poll remote nodeIdToString d.client } clientName deviceKey =
        d.newest clientName deviceKey := by
      unfold Display.newest
      exact List.find?_congr fun e he => by rw [hkept.cell (h.cached e he)]
    rw [hnewest]
    show d.grid.row clientName deviceKey = _
    rw [h.shown]
    cases hn : d.newest clientName deviceKey with
    | none => rfl
    | some e =>
      show rowOf _ _ _ e = rowOf _ _ _ e
      unfold rowOf
      rw [hkept.handleSensorUpdate (h.cached e (List.mem_of_find?_eq_some hn))]

theorem faithful_callback {d : Display} (h : Faithful decodeBinary formatValue d) {key : String}
    (hcached : (d.client.deviceCache key).isSome = true) (value : Variant) :
    Faithful decodeBinary formatValue (d.handleSensorUpdate decodeBinary formatValue key value) := by
  obtain ⟨call, hcall, hcell⟩ := sink_cell decodeBinary formatValue hcached value
  refine ⟨h.items, fun e he => ?_, fun clientName deviceKey => ?_⟩
  · rcases List.mem_cons.mp he with rfl | he
    · exact hcached
    · exact h.cached e he
  · have hgrid : (d.handleSensorUpdate decodeBinary formatValue key value).grid =
        d.grid.update call.clientFolderName call.deviceKey call.row := by
      simp only [Display.handleSensorUpdate, hcall]
    rw [hgrid, row_update]
    unfold Display.newest Display.handleSensorUpdate
    rw [List.find?_cons]
    simp only [hcell, Option.some.injEq]
    by_cases hsame : (call.clientFolderName, call.deviceKey) = (clientName, deviceKey)
    · simp only [hsame, if_true, decide_true, Option.bind_some, rowOf, hcall, Option.map_some]
    · simp only [hsame, if_false, decide_false]
      exact h.shown clientName deviceKey

theorem faithful_take {d : Display} (h : Faithful decodeBinary formatValue d) (turn : Turn) :
    Faithful decodeBinary formatValue (d.take nodeIdToString decodeBinary formatValue turn) := by
  cases turn with
  | discover remote => exact faithful_discover h remote
  | callback i value =>
    show Faithful _ _ (match d.client.monitoredItems[i]? with | none => d | some item => _)
    cases hitem : d.client.monitoredItems[i]? with
    | none => exact h
    | some item => exact faithful_callback h (h.items item (List.mem_of_getElem? hitem)) value
  | render => exact ⟨h.items, h.cached, h.shown⟩

theorem displayAfter_snoc (turns : List Turn) (turn : Turn) :
    displayAfter nodeIdToString decodeBinary formatValue (turns ++ [turn]) =
      (displayAfter nodeIdToString decodeBinary formatValue turns).take nodeIdToString decodeBinary formatValue turn := by
  unfold displayAfter
  rw [List.foldl_append]
  rfl

theorem faithful_after (turns : List Turn) :
    Faithful decodeBinary formatValue (displayAfter nodeIdToString decodeBinary formatValue turns) := by
  induction turns using List.reverseRecOn with
  | nil => exact faithful_start
  | append_singleton turns turn ih =>
    rw [displayAfter_snoc]
    exact faithful_take ih turn

/-- After any run, the cell of a device that has reported holds the row of the newest
    callback among the devices of that cell; and a callback changes no other cell. -/
theorem rows_hold_newest (nodeIdToString : NodeId → String) (decodeBinary : ByteString → Option SensorDto)
    (formatValue : UInt32 → String) (turns : List Turn) :
    let d := displayAfter nodeIdToString decodeBinary formatValue turns
    (∀ reported ∈ d.callbacks, ∃ later last earlier call, d.callbacks = later ++ last :: earlier ∧
      d.client.cell last.1 = d.client.cell reported.1 ∧ (∀ e ∈ later, d.client.cell e.1 ≠ d.client.cell reported.1) ∧
      handleSensorUpdate decodeBinary formatValue d.client last.1 last.2 = some call ∧
      d.client.cell reported.1 = some (call.clientFolderName, call.deviceKey) ∧
      d.grid.row call.clientFolderName call.deviceKey = some call.row) ∧
    ∀ i value item, d.client.monitoredItems[i]? = some item → ∀ clientName deviceKey,
      d.client.cell item.deviceNodeId ≠ some (clientName, deviceKey) →
      (d.take nodeIdToString decodeBinary formatValue (.callback i value)).grid.row clientName deviceKey =
        d.grid.row clientName deviceKey := by
  intro d
  have h : Faithful decodeBinary formatValue d := faithful_after turns
  constructor
  · intro reported hreported
    obtain ⟨own, -, hcell⟩ := sink_cell decodeBinary formatValue
      (h.cached reported hreported) reported.2
    have hsome : (d.newest own.clientFolderName own.deviceKey).isSome = true :=
      List.find?_isSome.mpr ⟨reported, hreported, decide_eq_true hcell⟩
    obtain ⟨last, hlast⟩ := Option.isSome_iff_exists.mp hsome
    obtain ⟨hlastCell, later, earlier, hsplit, hlater⟩ := List.find?_eq_some_iff_append.mp hlast
    have hlastCell : d.client.cell last.1 = some (own.clientFolderName, own.deviceKey) := of_decide_eq_true hlastCell
    obtain ⟨call, hcall, hcallCell⟩ := sink_cell decodeBinary formatValue
      (h.cached last (List.mem_of_find?_eq_some hlast)) last.2
    have hpair := Option.some.inj (hcallCell.symm.trans hlastCell)
    refine ⟨later, last, earlier, call, hsplit, hlastCell.trans hcell.symm, fun e he heq => ?_, hcall, ?_, ?_⟩
    · have hno := hlater e he
      rw [heq, hcell] at hno
      simp at hno
    · rw [hcell, hpair]
    · have hrow := h.shown own.clientFolderName own.deviceKey
      rw [hlast, ← (Prod.mk.inj hpair).1, ← (Prod.mk.inj hpair).2] at hrow
      rw [hrow, Option.bind_some, rowOf, hcall, Option.map_some]
  · intro i value item hitem clientName deviceKey hother
    obtain ⟨call, hcall, hcell⟩ := sink_cell decodeBinary formatValue
      (h.items item (List.mem_of_getElem? hitem)) value
    simp only [Display.take, hitem, Display.handleSensorUpdate, hcall, row_update]
    rw [hcell] at hother
    rw [if_neg fun e => hother (congrArg some e)]

end

/-! ## Two cards -/

/-- `plc` has sent what its two cards push. -/
def cardsSent : List Event := machineRun (nvidiaMachine ["RTX 4090", "RTX 3060"]) 41

/-- They are found, and report once each. -/
def cardsShown : Display :=
  displayAfter idString (fun _ => none) (fun _ => "")
    [.discover (watching (solo "plc") cardsSent fun _ => cardsSent.length), .callback 0 (.sensorDtos []),
      .callback 1 (.sensorDtos [])]

/-- The second card's row is the only one left. -/
theorem second_card_replaces_first :
    cardsShown.client.monitoredItems.map (·.deviceNodeId) = ["plc.NVIDIA RTX 4090", "plc.NVIDIA RTX 3060"] ∧
      cardsShown.callbacks = [("plc.NVIDIA RTX 3060", .sensorDtos []), ("plc.NVIDIA RTX 4090", .sensorDtos [])] ∧
      rowOf (fun _ => none) (fun _ => "") cardsShown.client ("plc.NVIDIA RTX 4090", .sensorDtos []) =
        some ⟨[("NVIDIA RTX 4090 (GPU)", "")]⟩ ∧
      (cardsShown.grid.rows.toList.map fun (clientName, devices) => (clientName, devices.toList)) =
        [("plc", [("GPU", ⟨[("NVIDIA RTX 3060 (GPU)", "")]⟩)])] := by
  decide +kernel

end HardwareMonitor.ControlCenter
