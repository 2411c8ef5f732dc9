/-
  HardwareMonitor.ControlCenter.Settled — what the grid shows when all has come to rest.

  In `main` an exception of a discovery ends the program, so in a loop that still runs all
  discoveries have returned (`loopAfter_uninterrupted`), and cached keys are the keys with
  an item although the tree was still being built (`serves_after`). A discovery that comes
  when every node is there leaves no device without an item (`item_of_filled`). Once each
  item's newest callback has been handed what its variable holds now, a row shows what the
  variable of its device holds (`settled_row`); and with the backends at rest that is the
  newest snapshot pushed for the device (`settled_shows_newest`).
-/

import HardwareMonitor.SystemInfo.AtRest
import HardwareMonitor.ControlCenter.MainLoop
import HardwareMonitor.ControlCenter.Retries

namespace HardwareMonitor.ControlCenter

open HardwareMonitor.OpcUa
open HardwareMonitor.SystemInfo
open HardwareMonitor.Lib.Throwing

/-! ## Discoveries of a tree that is being built -/

section

variable {launch : Nat → Launch} {es : List Event} {time : Nat → Nat} {remote : Remote} {nodeIdToString : NodeId → String}
  {d key : String}

/-- The nodes of a device and of its client's folder. -/
theorem deviceIn_of_present {nodes : List PublishedNode} (h : Present nodes (.object d key)) :
    ∃ F D, DeviceIn nodes F D ∧ D.nodeId = (Place.object d key).id ∧ F.browseName.name = d := by
  obtain ⟨hD, hatD, habove⟩ := h
  obtain ⟨hF, hatF, -⟩ := habove _ rfl
  exact ⟨_, _, ⟨hF, hD, hatF.parent, hatD.parent.trans hatF.nodeId.symm⟩, hatD.nodeId,
    congrArg QualifiedName.name hatF.browseName⟩

theorem sensorsOf_present {nodes : List PublishedNode} (h : Present nodes (.field d key "sensors")) {D : PublishedNode}
    (hD : D.nodeId = (Place.object d key).id) : ∃ S, SensorsOf nodes D S ∧ S.nodeId = (Place.field d key "sensors").id := by
  obtain ⟨hS, hatS, -⟩ := h
  exact ⟨_, ⟨hS, hatS.parent.trans hD.symm, congrArg QualifiedName.name hatS.browseName⟩, hatS.nodeId⟩

/-- A visit that returns keeps the invariant over the whole run's tree, whatever was there
    when the visit was made. -/
theorem visitDevice_serves (hw : remote.Watches launch es time) (hnode : Present (after launch es).shared.tree (.object d key)) :
    Ensures (Serves nodeIdToString (after launch es).shared.tree)
      (visitDevice remote nodeIdToString d (Place.object d key).id)
      (fun _ => Serves nodeIdToString (after launch es).shared.tree) (fun _ => True) := by
  intro cc h
  have hspec := visitDevice_caches nodeIdToString hw hnode d cc cc rfl
  have hnamed := visitDevice_named remote nodeIdToString d (Place.object d key).id cc cc rfl
  have hcases := visitDevice_cases remote nodeIdToString d (Place.object d key).id cc
  cases hr : visitDevice remote nodeIdToString d (Place.object d key).id cc with
  | error e c => trivial
  | ok a c =>
    rw [hr] at hspec hnamed hcases
    rcases hcases with ⟨k, hdate⟩ | ⟨hnew, k, cache, ⟨-, hthrows⟩ | ⟨id, hreturns⟩⟩
    · obtain rfl : c = cc.later k := hdate
      exact timeless_serves cc _ h
    · cases hthrows
    · obtain rfl := (EStateM.Result.ok.inj hreturns).2
      rcases hspec.2 with hsame | hcaches
      · have hlength := congrArg List.length hsame
        simp at hlength
      · -- the entry and the item are the device's own
        obtain rfl : id = (Place.field d key "sensors").id := by
          have hitem := List.append_cancel_left hcaches.item
          simpa using hitem
        obtain rfl : cache.clientFolderName = d := by
          rcases hnamed (nodeIdToString (Place.object d key).id) cache (if_pos rfl) with hold | hfolder
          · rw [hnew] at hold
            cases hold
          · exact hfolder
        obtain ⟨F, D, hD, hDid, hF⟩ := deviceIn_of_present hnode
        obtain ⟨S, hS, hSid⟩ := sensorsOf_present (hcaches.filled "sensors" (by decide)) hDid
        have hsubscribed := (timeless_serves cc (cc.requests + k) h).subscribe hD hS (hDid ▸ hnew) cache.info
        rw [hDid, hSid, hF] at hsubscribed
        exact hsubscribed

theorem discoverAndSubscribe_serves (hw : remote.Watches launch es time) :
    Ensures (Serves nodeIdToString (after launch es).shared.tree) (discoverAndSubscribe remote nodeIdToString)
      (fun _ => Serves nodeIdToString (after launch es).shared.tree) (fun _ => True) :=
  discoverAndSubscribe_visits timeless_serves (fun _ _ => trivial) hw fun _ _ hnode => visitDevice_serves hw hnode

/-- When every node is there, a discovery sees a tree that stands still. -/
theorem shows_of_watches (hw : remote.Watches launch es time)
    (hbuilt : ∀ date, Grows (after launch es).shared (sharedAt launch es (time date))) :
    remote.Shows (after launch es).shared.tree where
  clients := hw.clients
  children date parent ids h id := by
    rw [hw.children date parent ids h id]
    constructor
    · intro hfound
      obtain ⟨n, hn, hid⟩ := hfound
      exact ⟨n, grows_sharedAt launch es _ n hn, hid⟩
    · intro hfound
      obtain ⟨n, hn, hid⟩ := hfound
      exact ⟨n, hbuilt date n hn, hid⟩
  browseName date id name h := by
    obtain ⟨n, hn, hid⟩ := hw.browseName date id name h
    exact ⟨n, grows_sharedAt launch es _ n hn, hid⟩

end

/-! ## Runs without an exception -/

section

variable (nodeIdToString : NodeId → String) (decodeBinary : ByteString → Option SensorDto) (formatValue : UInt32 → String)

/-- A discovery returns. -/
def Turn.Returns (cc : Client) : Turn → Prop
  | .discover remote => ∃ cc', discoverAndSubscribe remote nodeIdToString cc = .ok () cc'
  | _ => True

/-- Every discovery among the turns has. -/
def Uninterrupted (turns : List Turn) : Prop :=
  ∀ before turn, before ++ [turn] <+: turns →
    turn.Returns nodeIdToString (displayAfter nodeIdToString decodeBinary formatValue before).client

end

section

variable {nodeIdToString : NodeId → String} {decodeBinary : ByteString → Option SensorDto} {formatValue : UInt32 → String}
  {launch : Nat → Launch} {es : List Event} {turns : List Turn} {turn : Turn}

theorem uninterrupted_snoc (h : Uninterrupted nodeIdToString decodeBinary formatValue turns)
    (hturn : turn.Returns nodeIdToString (displayAfter nodeIdToString decodeBinary formatValue turns).client) :
    Uninterrupted nodeIdToString decodeBinary formatValue (turns ++ [turn]) := by
  intro before last hbegins
  rcases List.prefix_concat_iff.mp hbegins with hwhole | hbefore
  · obtain ⟨rfl, hlast⟩ := List.append_inj' hwhole rfl
    rw [List.singleton_inj.mp hlast]
    exact hturn
  · exact h before last hbefore

theorem uninterrupted_callbacks (h : Uninterrupted nodeIdToString decodeBinary formatValue turns) (it : Iteration) :
    Uninterrupted nodeIdToString decodeBinary formatValue (turns ++ MainLoop.callbackTurns it) := by
  unfold MainLoop.callbackTurns
  induction it.callbacks using List.reverseRecOn with
  | nil =>
    rw [List.map_nil, List.append_nil]
    exact h
  | append_singleton calls call ih =>
    rw [List.map_append, ← List.append_assoc]
    exact uninterrupted_snoc ih trivial

theorem uninterrupted_iterate {s s' : MainLoop} {it : Iteration}
    (h : Uninterrupted nodeIdToString decodeBinary formatValue s.turns)
    (hstep : s.iterate nodeIdToString decodeBinary formatValue it = some s') :
    Uninterrupted nodeIdToString decodeBinary formatValue s'.turns := by
  have hticked : Uninterrupted nodeIdToString decodeBinary formatValue (s.turns ++ s.tickTurns it) := by
    have hcalled := uninterrupted_callbacks h it
    rw [MainLoop.tickTurns, ← List.append_assoc]
    split
    · next hpolls =>
      refine uninterrupted_snoc hcalled ?_
      -- otherwise the iteration would have ended the program
      unfold MainLoop.iterate MainLoop.throws at hstep
      rw [hpolls, Bool.true_and] at hstep
      cases hresult : discoverAndSubscribe it.remote nodeIdToString
          (displayAfter nodeIdToString decodeBinary formatValue (s.turns ++ MainLoop.callbackTurns it)).client with
      | ok a cc' => exact ⟨cc', hresult⟩
      | error e cc' =>
        rw [hresult] at hstep
        simp at hstep
    · rw [List.append_nil]
      exact hcalled
  rw [(iterate_some hstep).2.2.2, MainLoop.renderTurns, ← List.append_assoc]
  split
  · exact uninterrupted_snoc hticked trivial
  · rw [List.append_nil]
    exact hticked

theorem uninterrupted_run {s s' : MainLoop} {its : List Iteration}
    (h : Uninterrupted nodeIdToString decodeBinary formatValue s.turns)
    (hrun : its.foldlM (MainLoop.iterate nodeIdToString decodeBinary formatValue) s = some s') :
    Uninterrupted nodeIdToString decodeBinary formatValue s'.turns := by
  induction its generalizing s with
  | nil => exact Option.some.inj hrun ▸ h
  | cons it its ih =>
    rw [List.foldlM_cons] at hrun
    obtain ⟨s₁, hstep, hrest⟩ := Option.bind_eq_some_iff.mp hrun
    exact ih (uninterrupted_iterate h hstep) hrest

/-- As long as `main` runs, no discovery has thrown. -/
theorem loopAfter_uninterrupted {remote : Remote} {started way : Nat} {its : List Iteration} {s : MainLoop}
    (hrun : loopAfter nodeIdToString decodeBinary formatValue remote started way its = some s) :
    Uninterrupted nodeIdToString decodeBinary formatValue s.turns := by
  obtain ⟨s₀, hstart, hloop⟩ := Option.bind_eq_some_iff.mp hrun
  refine uninterrupted_run ?_ hloop
  unfold MainLoop.start at hstart
  split at hstart
  · next a cc hresult =>
    obtain rfl := Option.some.inj hstart
    have hempty : Uninterrupted nodeIdToString decodeBinary formatValue [] := by
      intro before turn hbegins
      have hnil := List.prefix_nil.mp hbegins
      simp at hnil
    exact uninterrupted_snoc hempty ⟨cc, hresult⟩
  · cases hstart

/-! ## Items -/

theorem genuineRun_snoc (h : GenuineRun launch es nodeIdToString decodeBinary formatValue (turns ++ [turn])) :
    GenuineRun launch es nodeIdToString decodeBinary formatValue turns ∧
      turn.Genuine launch es (displayAfter nodeIdToString decodeBinary formatValue turns).client := by
  generalize hwhole : turns ++ [turn] = whole at h
  cases h with
  | start => simp at hwhole
  | turn turns' h hturn =>
    obtain ⟨rfl, hlast⟩ := List.append_inj' hwhole rfl
    obtain rfl := List.singleton_inj.mp hlast
    exact ⟨h, hturn⟩

theorem genuineRun_of_append {later : List Turn}
    (h : GenuineRun launch es nodeIdToString decodeBinary formatValue (turns ++ later)) :
    GenuineRun launch es nodeIdToString decodeBinary formatValue turns := by
  induction later using List.reverseRecOn with
  | nil => rwa [List.append_nil] at h
  | append_singleton later turn ih =>
    rw [← List.append_assoc] at h
    exact ih (genuineRun_snoc h).1

/-- Only a discovery touches the client. -/
theorem client_callback (display : Display) (i : Nat) (value : Variant) :
    (display.take nodeIdToString decodeBinary formatValue (.callback i value)).client = display.client := by
  simp only [Display.take]
  cases display.client.monitoredItems[i]? <;> rfl

theorem serves_after (h : GenuineRun launch es nodeIdToString decodeBinary formatValue turns)
    (hreturns : Uninterrupted nodeIdToString decodeBinary formatValue turns) :
    Serves nodeIdToString (after launch es).shared.tree (displayAfter nodeIdToString decodeBinary formatValue turns).client := by
  induction h with
  | start => exact Serves.start
  | turn turns h hturn ih =>
    rename_i turn
    have hbefore := ih fun before turn hbegins => hreturns before turn (hbegins.trans (List.prefix_append _ _))
    rw [displayAfter_snoc]
    cases turn with
    | discover remote =>
      obtain ⟨time, hw⟩ := hturn
      obtain ⟨cc', hresult⟩ := hreturns turns _ (List.prefix_refl _)
      show Serves _ _ (poll remote nodeIdToString _)
      rw [poll_eq, hresult]
      exact (discoverAndSubscribe_serves hw).of_ok hbefore hresult
    | callback i value =>
      rw [client_callback]
      exact hbefore
    | render => exact hbefore

/-- What is cached stays cached. -/
theorem kept_later (turns later : List Turn) :
    Kept (displayAfter nodeIdToString decodeBinary formatValue turns).client
      (displayAfter nodeIdToString decodeBinary formatValue (turns ++ later)).client := by
  induction later using List.reverseRecOn with
  | nil =>
    rw [List.append_nil]
    exact fun _ _ h => h
  | append_singleton later turn ih =>
    rw [← List.append_assoc, displayAfter_snoc]
    cases turn with
    | discover remote =>
      have hfaithful : Faithful decodeBinary formatValue
          (displayAfter nodeIdToString decodeBinary formatValue (turns ++ later)) := faithful_after _
      have hmore := (poll_extends remote nodeIdToString hfaithful.items).1
      exact fun k entry h => hmore k entry (ih k entry h)
    | callback i value =>
      rw [client_callback]
      exact ih
    | render => exact ih

/-- One of the discoveries came when every node was there. -/
def FoundAll (launch : Nat → Launch) (es : List Event) (turns : List Turn) : Prop :=
  ∃ before remote later time, turns = before ++ .discover remote :: later ∧ remote.Watches launch es time ∧
    ∀ date, Grows (after launch es).shared (sharedAt launch es (time date))

/-- The strings of the nodes' ids tell the nodes apart. -/
def DistinctKeys (nodeIdToString : NodeId → String) (nodes : List PublishedNode) : Prop :=
  ∀ n ∈ nodes, ∀ m ∈ nodes, nodeIdToString n.nodeId = nodeIdToString m.nodeId → n.nodeId = m.nodeId

/-- An item with a device's key is the device's own. -/
theorem owned_of_key {cc : Client} (hserves : Serves nodeIdToString (after launch es).shared.tree cc)
    (howned : Owned launch es cc) (hkeys : DistinctKeys nodeIdToString (after launch es).shared.tree) {d key : String}
    (hnode : Present (after launch es).shared.tree (.object d key)) {item : MonitoredItem} (hitem : item ∈ cc.monitoredItems)
    (hkey : item.deviceNodeId = nodeIdToString (Place.object d key).id) : OwnedItem launch es cc item d key := by
  have hgrounded := (honest_after launch es).grounded
  obtain ⟨d', key', hown⟩ := howned item hitem
  obtain ⟨F, D, S, hi⟩ := hserves.items item hitem
  have hsensors := hown.filled "sensors" (by decide)
  obtain @⟨_, n, hn, hat, -⟩ := id hsensors
  -- the item's variable is under the object that its key stands for
  obtain rfl := hgrounded.unique n hn S hi.sensors.mem (hat.nodeId.trans (hown.sensors.symm.trans hi.nodeId))
  obtain @⟨_, m, hm, hatm, -⟩ := id hnode
  have hD : D.nodeId = (Place.object d key).id := by
    rw [← hatm.nodeId]
    refine hkeys D hi.device.deviceMem m hm ?_
    rw [← hi.key, hkey, hatm.nodeId]
  have hobject : (Place.object d' key').id = (Place.object d key).id := hat.parent.symm.trans (hi.sensors.parent.trans hD)
  obtain ⟨rfl, rfl⟩ := Place.object.inj ((hsensors.above _ rfl).unique hgrounded hnode hobject)
  exact hown

/-- Each device with a node set has an item. -/
theorem item_of_filled (h : GenuineRun launch es nodeIdToString decodeBinary formatValue turns)
    (hreturns : Uninterrupted nodeIdToString decodeBinary formatValue turns) (hfound : FoundAll launch es turns)
    (hkeys : DistinctKeys nodeIdToString (after launch es).shared.tree) {d key : String}
    (hfilled : Filled (after launch es).shared.tree d key) :
    ∃ item ∈ (displayAfter nodeIdToString decodeBinary formatValue turns).client.monitoredItems,
      OwnedItem launch es (displayAfter nodeIdToString decodeBinary formatValue turns).client item d key := by
  obtain ⟨before, remote, later, time, rfl, hw, hbuilt⟩ := hfound
  have hnode := (hfilled "sensors" (by decide)).above _ rfl
  obtain ⟨F, D, hD, hDid, -⟩ := deviceIn_of_present hnode
  obtain ⟨S, hS, -⟩ := sensorsOf_present (hfilled "sensors" (by decide)) hDid
  rw [show before ++ Turn.discover remote :: later = before ++ [.discover remote] ++ later by simp] at h hreturns ⊢
  have hserves := serves_after h hreturns
  -- the discovery leaves the device cached, and so it stays
  have hcached : ((displayAfter nodeIdToString decodeBinary formatValue (before ++ [.discover remote] ++ later)).client.deviceCache
      (nodeIdToString D.nodeId)).isSome = true := by
    have hbefore : Uninterrupted nodeIdToString decodeBinary formatValue before := fun first turn hbegins =>
      hreturns first turn (hbegins.trans ((List.prefix_append _ _).trans (List.prefix_append _ _)))
    have hstart := serves_after (genuineRun_snoc (genuineRun_of_append h)).1 hbefore
    obtain ⟨cc', hresult⟩ := hreturns before _ (List.prefix_append _ _)
    have hafter := (discoverAndSubscribe_subscribes nodeIdToString (shows_of_watches hw hbuilt)
      (honest_after launch es).grounded.unique).of_ok ⟨hstart, fun _ => Iff.rfl⟩ hresult
    have hkey := (hafter.2 _).mpr (Or.inr ⟨D, ⟨F, hD⟩, ⟨S, hS⟩, rfl⟩)
    obtain ⟨entry, hentry⟩ := Option.isSome_iff_exists.mp ((hafter.1.cached _).mpr hkey)
    have hpoll : (displayAfter nodeIdToString decodeBinary formatValue (before ++ [.discover remote])).client = cc' := by
      rw [displayAfter_snoc]
      show poll remote nodeIdToString _ = cc'
      rw [poll_eq, hresult]
      rfl
    rw [← hpoll] at hentry
    rw [kept_later _ later _ entry hentry, Option.isSome_some]
  obtain ⟨item, hitem, hkey⟩ := List.mem_map.mp ((hserves.cached _).mp hcached)
  rw [hDid] at hkey
  exact ⟨item, hitem, owned_of_key hserves (sourced_after h).owned hkeys hnode hitem hkey⟩

/-! ## Rows at rest -/

/-- The newest callback of each item was handed what its variable holds now. -/
def Notified (s : Shared) (display : Display) : Prop :=
  ∀ item ∈ display.client.monitoredItems,
    display.callbacks.find? (fun e => e.1 = item.deviceNodeId) = some (item.deviceNodeId, s.value item.nodeId)

/-- The first of a kind is the first of any narrower kind that it is of. -/
theorem find?_of_narrower {α : Type} {p q : α → Bool} {l : List α} {a : α} (h : l.find? p = some a) (hq : q a = true)
    (hnarrow : ∀ b, q b = true → p b = true) : l.find? q = some a := by
  induction l with
  | nil => cases h
  | cons b l ih =>
    rw [List.find?_cons] at h ⊢
    cases hp : p b with
    | true =>
      rw [hp] at h
      rw [Option.some.inj h, hq]
    | false =>
      rw [hp] at h
      have hno : q b = false := by
        by_contra hyes
        rw [hnarrow b (Bool.of_not_eq_false hyes)] at hp
        cases hp
      rw [hno]
      exact ih h

/-- The row shows these sensors, and is headed by the device's key, or by no name. -/
def ShowsSensors (formatValue : UInt32 → String) (key hardwareType : String) (sensors : List SensorSnapshot) (row : ClientRow) :
    Prop :=
  ∃ name, (name = "" ∨ name = key) ∧
    row.fields = (name ++ " (" ++ hardwareType ++ ")", "") :: sensors.map (sensorField formatValue)

/-- The row at a cell is that of one of the items of the cell, and shows what the item's
    variable holds. -/
theorem settled_row {display : Display} (hserves : Serves nodeIdToString (after launch es).shared.tree display.client)
    (howned : Owned launch es display.client) (hfaithful : Faithful decodeBinary formatValue display)
    (hnotified : Notified (after launch es).shared display) {clientName hardwareType : String} {row : ClientRow}
    (hrow : display.grid.row clientName hardwareType = some row) :
    ∃ item ∈ display.client.monitoredItems, ∃ key, OwnedItem launch es display.client item clientName key ∧
      display.client.cell item.deviceNodeId = some (clientName, hardwareType) ∧
      ∀ snapshot : TelemetrySnapshot, (after launch es).shared.value item.nodeId = fieldValue snapshot "sensors" →
        ShowsSensors formatValue key hardwareType snapshot.sensors row := by
  rw [hfaithful.shown, Option.bind_eq_some_iff] at hrow
  obtain ⟨e, hnewest, hrow⟩ := hrow
  obtain ⟨item, hitem, hkey⟩ := List.mem_map.mp ((hserves.cached _).mp (hfaithful.cached e (List.mem_of_find?_eq_some hnewest)))
  obtain ⟨d, key, hown⟩ := howned item hitem
  obtain ⟨entry, hentry, hid⟩ := hown.cached
  have hcell : display.client.cell e.1 = some (clientName, hardwareType) := by
    unfold Display.newest at hnewest
    simpa using List.find?_some hnewest
  rw [← hkey] at hcell
  have hplace := hcell
  rw [Client.cell, hentry, Option.map_some, Option.some.injEq, Prod.mk.injEq, hid.folder] at hplace
  obtain ⟨rfl, rfl⟩ := hplace
  refine ⟨item, hitem, key, hown, hcell, fun snapshot hvalue => ⟨entry.info.name, hid.name, ?_⟩⟩
  -- the newest callback for the cell is the newest of its item
  have hsame : display.callbacks.find? (fun e => e.1 = item.deviceNodeId) = some e := by
    refine find?_of_narrower hnewest (decide_eq_true hkey.symm) fun e' he' => ?_
    rw [of_decide_eq_true he']
    exact decide_eq_true hcell
  obtain rfl := Option.some.inj (hsame.symm.trans (hnotified item hitem))
  obtain ⟨call, hcall, rfl⟩ := Option.map_eq_some_iff.mp hrow
  simp only [handleSensorUpdate, hentry, Option.some.injEq] at hcall
  subst hcall
  show _ :: List.map _ (decodeSensorDtos decodeBinary _) = _
  rw [hvalue, decode_written, List.map_map]
  rfl

/-- An item that has been called back has a row at its cell. -/
theorem row_of_notified {display : Display} (hfaithful : Faithful decodeBinary formatValue display) {s : Shared}
    (hnotified : Notified s display) {item : MonitoredItem} (hitem : item ∈ display.client.monitoredItems)
    {clientName hardwareType : String} (hcell : display.client.cell item.deviceNodeId = some (clientName, hardwareType)) :
    ∃ row, display.grid.row clientName hardwareType = some row := by
  have hsome : (display.newest clientName hardwareType).isSome = true := by
    unfold Display.newest
    rw [List.find?_isSome]
    exact ⟨_, List.mem_of_find?_eq_some (hnotified item hitem), decide_eq_true hcell⟩
  obtain ⟨e, hnewest⟩ := Option.isSome_iff_exists.mp hsome
  obtain ⟨call, hcall, -⟩ := sink_cell decodeBinary formatValue (hfaithful.cached e (List.mem_of_find?_eq_some hnewest)) e.2
  refine ⟨call.row, ?_⟩
  rw [hfaithful.shown, hnewest, Option.bind_some, rowOf, hcall, Option.map_some]

end

/-- No other item has its rows at the item's cell. -/
def AloneInCell (cc : Client) (item : MonitoredItem) : Prop :=
  ∀ other ∈ cc.monitoredItems, cc.cell other.deviceNodeId = cc.cell item.deviceNodeId → other = item

/-- The backends rest (`AtRest`: no queue has been closed, and each process that anything
    has been pushed to has met no exception and shares its name with no other); `main`
    still runs, has discovered since every node was there, the devices' ids are told apart
    by their strings, and the items have been called back with what their variables hold.
    Then, in whatever order all this has come about: each row on the grid shows the newest
    snapshot that has been pushed for a device of its client; each device that one has been
    pushed for has an item, with a row at its cell, which shows this snapshot unless
    another device shares the cell; and what the next rendering puts on the terminal is the
    frame of these rows, up to its first NUL. -/
theorem settled_shows_newest (launch : Nat → Launch) (es : List Event) (nodeIdToString : NodeId → String)
    (decodeBinary : ByteString → Option SensorDto) (formatValue : UInt32 → String) (remote : Remote) (started way : Nat)
    (its : List Iteration) (s : MainLoop)
    (hrun : loopAfter nodeIdToString decodeBinary formatValue remote started way its = some s)
    (h : GenuineRun launch es nodeIdToString decodeBinary formatValue s.turns) (hrest : AtRest launch es)
    (hfound : FoundAll launch es s.turns) (hkeys : DistinctKeys nodeIdToString (after launch es).shared.tree)
    (hnotified : Notified (after launch es).shared (displayAfter nodeIdToString decodeBinary formatValue s.turns)) :
    let display := displayAfter nodeIdToString decodeBinary formatValue s.turns
    (∀ client ∈ display.grid.rows.toList, ∀ e ∈ client.2.toList, ∃ p key snapshot, (launch p).clientName = client.1 ∧
      newestPushed p key es = some snapshot ∧ ShowsSensors formatValue key e.1 snapshot.sensors e.2) ∧
    (∀ p key snapshot, newestPushed p key es = some snapshot → ∃ item ∈ display.client.monitoredItems,
      item.nodeId = (Place.field (launch p).clientName key "sensors").id ∧ ∃ hardwareType row,
        display.client.cell item.deviceNodeId = some ((launch p).clientName, hardwareType) ∧
        display.grid.row (launch p).clientName hardwareType = some row ∧
        (AloneInCell display.client item → ShowsSensors formatValue key hardwareType snapshot.sensors row)) ∧
    ∃ t, terminalAfter (renderEvents nodeIdToString decodeBinary formatValue (s.turns ++ [.render])) = some t ∧
      t.shown = screenOf display.grid.rows := by
  intro display
  have hreturns := loopAfter_uninterrupted hrun
  have hserves := serves_after h hreturns
  have howned := (sourced_after h).owned
  have hfaithful : Faithful decodeBinary formatValue display := faithful_after s.turns
  have hgrounded := (honest_after launch es).grounded
  refine ⟨fun client hclient e he => ?_, fun p key snapshot hnewest => ?_, ?_⟩
  · obtain ⟨item, hitem, key, hown, -, hshows⟩ :=
      settled_row hserves howned hfaithful hnotified (row_of_mem _ client hclient e he)
    obtain ⟨p, snapshot, hname, hnewest⟩ := newest_of_object ((hown.filled "sensors" (by decide)).above _ rfl)
    refine ⟨p, key, snapshot, hname, hnewest, hshows snapshot ?_⟩
    rw [hown.sensors, ← hname]
    exact (value_at_rest hrest hnewest).2 "sensors" (by decide)
  · obtain ⟨hfilled, hvalue⟩ := value_at_rest hrest hnewest
    obtain ⟨item, hitem, hown⟩ := item_of_filled h hreturns hfound hkeys hfilled
    obtain ⟨entry, hentry, hid⟩ := hown.cached
    have hcell : display.client.cell item.deviceNodeId = some ((launch p).clientName, entry.info.hardwareType) := by
      rw [Client.cell, hentry, Option.map_some, hid.folder]
    obtain ⟨row, hrow⟩ := row_of_notified hfaithful hnotified hitem hcell
    refine ⟨item, hitem, hown.sensors, entry.info.hardwareType, row, hcell, hrow, fun halone => ?_⟩
    obtain ⟨other, hother, key', hown', hcell', hshows⟩ := settled_row hserves howned hfaithful hnotified hrow
    obtain rfl := halone other hother (hcell'.trans hcell.symm)
    have hplace := (hown'.filled "sensors" (by decide)).unique hgrounded (hown.filled "sensors" (by decide))
      (hown'.sensors.symm.trans hown.sensors)
    obtain rfl := (Place.field.inj hplace).2.1
    refine hshows snapshot ?_
    rw [hown.sensors]
    exact hvalue "sensors" (by decide)
  · obtain ⟨t, hterminal, -, hshown⟩ := terminal_shows nodeIdToString decodeBinary formatValue s.turns [] rfl
    exact ⟨t, hterminal, hshown⟩

/-! ## A run -/

/-- `plc` has sent its snapshot, and waits for the next. -/
def plcRests : List Event := soloRun "plc" [cpuSnapshot] 22

theorem plcRests_pushed {p : Nat} (h : pushedOf p plcRests ≠ []) : p = 0 := by
  obtain ⟨snapshot, hmem⟩ := List.exists_mem_of_ne_nil _ h
  have hpush := mem_pushedOf.mp hmem
  simp [plcRests, soloRun] at hpush
  exact hpush.1

theorem plc_at_rest : AtRest plcOnly plcRests where
  opened p := by simp [plcRests, soloRun]
  rested p hpushed := by
    obtain rfl := plcRests_pushed hpushed
    exact ⟨plcRests, [], (List.append_nil _).symm, by decide +kernel, by decide +kernel, rfl, rfl⟩
  noneThrew p hpushed := by
    obtain rfl := plcRests_pushed hpushed
    decide +kernel
  alone p hpushed q hq := by
    obtain rfl := plcRests_pushed hpushed
    by_contra hne
    simp [plcOnly, hne] at hq

/-- By then the control center discovers. -/
def restingRemote : Remote := watching plcOnly plcRests fun _ => plcRests.length

/-- The item is called back, and the display is rendered. -/
def restingIteration : Iteration := ⟨[(0, fieldValue cpuSnapshot "sensors")], restingRemote, ⟨0, 0, 0⟩⟩

def restingTurns : List Turn := [.discover restingRemote] ++ [.callback 0 (fieldValue cpuSnapshot "sensors")] ++ [.render]

theorem resting_runs :
    ∃ s, loopAfter idString (fun _ => none) (fun _ => "") restingRemote 0 0 [restingIteration] = some s ∧
      s.turns = restingTurns := by
  obtain ⟨s, hrun⟩ := Option.isSome_iff_exists.mp
    (by decide +kernel :
      (loopAfter idString (fun _ => none) (fun _ => "") restingRemote 0 0 [restingIteration]).isSome = true)
  refine ⟨s, hrun, ?_⟩
  obtain ⟨s₀, hstart, hloop⟩ := Option.bind_eq_some_iff.mp hrun
  unfold MainLoop.start at hstart
  split at hstart
  · obtain rfl := Option.some.inj hstart
    rw [List.foldlM_cons] at hloop
    obtain ⟨s₁, hstep, hend⟩ := Option.bind_eq_some_iff.mp hloop
    obtain rfl := Option.some.inj hend
    rw [(iterate_some hstep).2.2.2]
    rfl
  · cases hstart

def restingDisplay : Display := displayAfter idString (fun _ => none) (fun _ => "") restingTurns

theorem restingDisplay_items : restingDisplay.client.monitoredItems = [cpuItem] := by decide +kernel

theorem restingTurns_genuine : GenuineRun plcOnly plcRests idString (fun _ => none) (fun _ => "") restingTurns := by
  have hvalue : (sharedAt plcOnly plcRests plcRests.length).value cpuItem.nodeId = fieldValue cpuSnapshot "sensors" := by
    decide +kernel
  have hitem : (displayAfter idString (fun _ => none) (fun _ => "") [.discover restingRemote]).client.monitoredItems[0]? =
      some cpuItem := by
    decide +kernel
  have hfound : GenuineRun plcOnly plcRests idString (fun _ => none) (fun _ => "") [.discover restingRemote] :=
    .turn [] .start ⟨_, watching_watches _ _ _⟩
  refine .turn _ (.turn _ hfound fun item hget => ⟨plcRests.length, ?_⟩) trivial
  rw [← Option.some.inj (hitem.symm.trans hget)]
  exact hvalue.symm

/-- The row of the processor. -/
theorem settled_shows_newest_plc :
    ∃ hardwareType row, restingDisplay.grid.row "plc" hardwareType = some row ∧
      ShowsSensors (fun _ => "") "CPU" hardwareType cpuSnapshot.sensors row := by
  obtain ⟨s, hrun, hturns⟩ := resting_runs
  have hfound : FoundAll plcOnly plcRests s.turns := by
    refine ⟨[], restingRemote, restingTurns.tail, fun _ => plcRests.length, hturns, watching_watches _ _ _, fun _ n hn => ?_⟩
    unfold sharedAt
    rwa [List.take_length]
  have hkeys : DistinctKeys idString (after plcOnly plcRests).shared.tree := by
    unfold DistinctKeys
    decide +kernel
  have hnotified : Notified (after plcOnly plcRests).shared
      (displayAfter idString (fun _ => none) (fun _ => "") s.turns) := by
    rw [hturns]
    show Notified _ restingDisplay
    unfold Notified
    rw [restingDisplay_items, List.forall_mem_singleton]
    decide +kernel
  obtain ⟨-, hdevices, -⟩ := settled_shows_newest plcOnly plcRests idString (fun _ => none) (fun _ => "") restingRemote 0 0
    [restingIteration] s hrun (hturns ▸ restingTurns_genuine) plc_at_rest hfound hkeys hnotified
  obtain ⟨item, hitem, -, hardwareType, row, -, hrow, hshows⟩ := hdevices 0 "CPU" cpuSnapshot (by decide +kernel)
  rw [hturns] at hitem hrow hshows
  change item ∈ restingDisplay.client.monitoredItems at hitem
  rw [restingDisplay_items, List.mem_singleton] at hitem
  refine ⟨hardwareType, row, hrow, hshows ?_⟩
  intro other hother _
  change other ∈ restingDisplay.client.monitoredItems at hother
  rw [restingDisplay_items, List.mem_singleton] at hother
  rw [hother, hitem]

end HardwareMonitor.ControlCenter
