/-
  HardwareMonitor.ControlCenter.Watching — the control center discovers a tree that the
  backends are still building.

  The control center's request number `date` meets the server as a run of the backends
  has left it after `time date` events (`Remote.Watches`), so `time` is the interleaving.
  The backends create a device's sensors variable last, and nodes stay. Whoever sees it
  among the children therefore sees the other variables too: if a visit finds the
  sensors, it has collected the device's own ids (`found_sensors_complete`).
-/

import HardwareMonitor.ControlCenter.Attribution
import HardwareMonitor.SystemInfo.HonestRuns

namespace HardwareMonitor.ControlCenter

open HardwareMonitor.OpcUa
open HardwareMonitor.SystemInfo
open HardwareMonitor.Lib.Throwing
open HardwareMonitor.Lib.Interaction

/-! ## Watching a run -/

/-- The server when a run has come `n` events far. -/
def sharedAt (launch : Nat → Launch) (es : List Event) (n : Nat) : Shared := (after launch (es.take n)).shared

/-- The remote answers out of the server as the run has left it by then: all children of a
    node at one instant, in any order. It may throw whenever it likes. -/
structure Remote.Watches (remote : Remote) (launch : Nat → Launch) (es : List Event) (time : Nat → Nat) : Prop where
  clients : ∀ date id,
    remote.browseChild date objectsFolder ⟨telemetryNamespaceIndex, telemetryClientsFolderName⟩ = some id →
      id = telemetryClientsFolderId
  children : ∀ date parent ids, remote.browseChildren date parent = some ids →
    ∀ id, id ∈ ids ↔ ∃ n ∈ (sharedAt launch es (time date)).tree, n.nodeId = id ∧ n.parent = parent
  browseName : ∀ date id name, remote.readBrowseName date id = some name →
    ∃ n ∈ (sharedAt launch es (time date)).tree, n.nodeId = id ∧ n.browseName = name
  value : ∀ date id v, remote.readValue date id = some v → v = (sharedAt launch es (time date)).value id

/-- A remote that watches a run and never throws but for a node that is not there. -/
def watching (launch : Nat → Launch) (es : List Event) (time : Nat → Nat) : Remote where
  browseChild date parent name := (sharedAt launch es (time date)).child parent name
  browseChildren date parent := some (((sharedAt launch es (time date)).tree.filter fun n => n.parent = parent).map (·.nodeId))
  readBrowseName date id := ((sharedAt launch es (time date)).tree.find? fun n => n.nodeId = id).map (·.browseName)
  readValue date id := if (sharedAt launch es (time date)).has id then some ((sharedAt launch es (time date)).value id) else none
  createMonitoredItem date id := if (sharedAt launch es (time date)).has id then some () else none

theorem watching_watches (launch : Nat → Launch) (es : List Event) (time : Nat → Nat) :
    (watching launch es time).Watches launch es time where
  clients date id h := by
    simp only [watching, Shared.child, and_self, if_true, Option.some.injEq] at h
    exact h.symm
  children date parent ids h id := by
    rw [watching, Option.some.injEq] at h
    rw [← h, List.mem_map]
    constructor
    · intro hfound
      obtain ⟨n, hn, rfl⟩ := hfound
      obtain ⟨hmem, hpar⟩ := List.mem_filter.mp hn
      exact ⟨n, hmem, rfl, by simpa using hpar⟩
    · intro hfound
      obtain ⟨n, hn, rfl, hpar⟩ := hfound
      exact ⟨n, List.mem_filter.mpr ⟨hn, by simpa using hpar⟩, rfl⟩
  browseName date id name h := by
    obtain ⟨n, hn, rfl⟩ := Option.map_eq_some_iff.mp h
    exact ⟨n, List.mem_of_find?_eq_some hn, by simpa using List.find?_some hn, rfl⟩
  value date id v h := by
    simp only [watching, Option.ite_none_right_eq_some, Option.some.injEq] at h
    exact h.2.symm

/-! ## The tree over time -/

section

variable {launch : Nat → Launch} {es : List Event}

/-- Nothing is assumed of the snapshots here. -/
theorem sound_any (launch : Nat → Launch) (es : List Event) :
    Sound (system launch) (accord launch fun _ _ => True) (after launch es) :=
  sound_after launch _ es fun _ _ _ => trivial

theorem grows_apply (launch : Nat → Launch) (es : List Event) (e : Event) :
    Grows (after launch es).shared ((after launch es).apply launch e).shared := by
  have h := sound_any launch es
  cases e with
  | call session o => exact grows_call _ session o.1
  | push p snapshot => exact fun _ hn => hn
  | shutdown p => exact fun _ hn => hn
  | addNodes p => exact grows_of_keeps ((h.part p).start h.inv _ fun _ => addNodes_upholds).1
  | sendTelemetryPayload p =>
    refine grows_of_keeps ((h.part p).start h.inv _ fun _ => ?_).1
    exact Upholds.bind sendTelemetryPayload_upholds fun _ t ht h => Upholds.done fun _ _ _ => trivial
  | serve p => exact grows_of_keeps ((h.part p).serve quitSafe h.inv).1
  | fail p served => exact grows_of_keeps ((h.part p).fail quitSafe h.inv served).1

/-- Every node of an earlier time is in the tree of the whole run. -/
theorem grows_sharedAt (launch : Nat → Launch) (es : List Event) (n : Nat) : Grows (sharedAt launch es n) (after launch es).shared := by
  induction es using List.reverseRecOn with
  | nil =>
    unfold sharedAt
    rw [List.take_nil]
    exact fun _ hm => hm
  | append_singleton es e ih =>
    rw [after_snoc]
    by_cases hn : n ≤ es.length
    · intro m hm
      unfold sharedAt at hm
      rw [List.take_append_of_le_length hn] at hm
      exact grows_apply launch es e m (ih m hm)
    · unfold sharedAt
      rw [List.take_of_length_le (by simp; omega), after_snoc]
      exact fun _ hm => hm

theorem honest_sharedAt (launch : Nat → Launch) (es : List Event) (n : Nat) : Honest (sharedAt launch es n).tree :=
  (sound_any launch (es.take n)).inv.tree

/-- What is at a place, seen at some time, is at that place for good. -/
theorem present_at {n : Nat} {m : PublishedNode} (hm : m ∈ (sharedAt launch es n).tree) :
    ∃ pl, At m pl ∧ Present (sharedAt launch es n).tree pl ∧ Present (after launch es).shared.tree pl := by
  obtain ⟨pl, hat, hpl⟩ := (honest_sharedAt launch es n).places m hm
  exact ⟨pl, hat, hpl, hpl.mono (grows_sharedAt launch es n)⟩

theorem honest_after (launch : Nat → Launch) (es : List Event) : Honest (after launch es).shared.tree := (sound_any launch es).inv.tree

end

/-! ## One visit -/

/-- The first half of `visitDevice`: the children are browsed and noted. -/
def inspectDevice (remote : Remote) (deviceNode : NodeId) : Task Found := do
  let children ← request fun date => remote.browseChildren date deviceNode
  children.foldlM (noteChild remote) (Found.start deviceNode)

/-- The second half, from the test of `found_sensors` on. -/
def subscribeFound (remote : Remote) (clientFolderName deviceNodeId : String) (found : Found) : Task Unit :=
  if !found.foundSensors then
    return ()
  else do
    let info ← readDeviceInfo remote found.ids
    modify fun cc => cc.setCache deviceNodeId { clientFolderName := clientFolderName, info := info }
    subscribeDataChange remote found.sensorsNode deviceNodeId

/-- A visit to a device that is not cached yet is the one half and then the other. -/
theorem visitDevice_eq (remote : Remote) (nodeIdToString : NodeId → String) (clientFolderName : String) (deviceNode : NodeId)
    (cc : Client) :
    visitDevice remote nodeIdToString clientFolderName deviceNode cc =
      if (cc.deviceCache (nodeIdToString deviceNode)).isSome then .ok () cc
      else (inspectDevice remote deviceNode >>= subscribeFound remote clientFolderName (nodeIdToString deviceNode)) cc := by
  show (if (cc.deviceCache (nodeIdToString deviceNode)).isSome then (return ()) else _ : Task Unit) cc = _
  split
  · rfl
  · unfold inspectDevice
    rw [bind_assoc]
    rfl

variable {launch : Nat → Launch} {es : List Event} {time : Nat → Nat} {remote : Remote} {d key : String}

/-- The ids noted of the children gone through so far are the device's own. -/
structure Noted (d key : String) (seen : List NodeId) (found : Found) : Prop where
  object : found.ids.object = (Place.object d key).id
  name : (Place.field d key "name").id ∈ seen → found.ids.name = (Place.field d key "name").id
  vendor : (Place.field d key "vendor").id ∈ seen → found.ids.vendor = (Place.field d key "vendor").id
  hardwareType : (Place.field d key "hardware_type").id ∈ seen → found.ids.hardwareType = (Place.field d key "hardware_type").id
  sensors : found.foundSensors = true → (Place.field d key "sensors").id ∈ seen ∧
    found.ids.sensors = (Place.field d key "sensors").id ∧ found.sensorsNode = (Place.field d key "sensors").id

/-- The BrowseName of a device's variable is the field's name, whenever it is read. -/
theorem browseName_of_field (hw : remote.Watches launch es time) {f : String}
    (hpl : Present (after launch es).shared.tree (.field d key f)) {date : Nat} {name : QualifiedName}
    (h : remote.readBrowseName date (Place.field d key f).id = some name) : name.name = f := by
  obtain ⟨n, hn, hid, rfl⟩ := hw.browseName date _ _ h
  obtain ⟨pl, hat, -, hpl'⟩ := present_at hn
  obtain rfl := hpl'.unique (honest_after launch es).grounded hpl (hat.nodeId.symm.trans hid)
  rw [hat.browseName]
  rfl

/-- A child of a device's object is one of its variables. -/
theorem field_of_child (hw : remote.Watches launch es time) (hnode : Present (after launch es).shared.tree (.object d key))
    {date : Nat} {ids : List NodeId} (h : remote.browseChildren date (Place.object d key).id = some ids) {id : NodeId}
    (hid : id ∈ ids) :
    ∃ f, id = (Place.field d key f).id ∧ Present (sharedAt launch es (time date)).tree (.field d key f) := by
  obtain ⟨n, hn, rfl, hparent⟩ := (hw.children date _ _ h id).mp hid
  obtain ⟨pl, hat, hpl⟩ := (honest_sharedAt launch es (time date)).places n hn
  have hup : Place.idOf pl.above = Place.idOf (some (.object d key)) := hat.parent.symm.trans hparent
  cases pl with
  | folder d' =>
    exact absurd hup.symm (hnode.not_clients (honest_after launch es).grounded)
  | object d' key' =>
    have habove := (hpl.mono (grows_sharedAt launch es (time date))).above _ rfl
    cases habove.unique (honest_after launch es).grounded hnode hup
  | field d' key' f =>
    have habove := (hpl.mono (grows_sharedAt launch es (time date))).above _ rfl
    cases habove.unique (honest_after launch es).grounded hnode hup
    exact ⟨f, hat.nodeId, hpl⟩

/-- One child is noted. -/
theorem Noted.note {seen : List NodeId} {found : Found} (h : Noted d key seen found) (f : String) :
    Noted d key (seen ++ [(Place.field d key f).id]) (found.note (Place.field d key f).id f) := by
  -- any other variable has been gone through before
  have old : ∀ {g : String}, (Place.field d key g).id ∈ seen ++ [(Place.field d key f).id] → g ≠ f →
      (Place.field d key g).id ∈ seen := by
    intro g hg hne
    rcases List.mem_append.mp hg with hg | hg
    · exact hg
    · exact absurd (field_id_inj (List.mem_singleton.mp hg)) hne
  have sensors : found.foundSensors = true → (Place.field d key "sensors").id ∈ seen ++ [(Place.field d key f).id] ∧
      found.ids.sensors = (Place.field d key "sensors").id ∧ found.sensorsNode = (Place.field d key "sensors").id :=
    fun hs => ⟨List.mem_append_left _ (h.sensors hs).1, (h.sensors hs).2⟩
  unfold Found.note
  split
  · next e =>
    subst e
    exact ⟨h.object, fun _ => rfl, fun hg => h.vendor (old hg (by decide)), fun hg => h.hardwareType (old hg (by decide)),
      sensors⟩
  split
  · next e =>
    subst e
    exact ⟨h.object, fun hg => h.name (old hg (by decide)), fun _ => rfl, fun hg => h.hardwareType (old hg (by decide)),
      sensors⟩
  split
  · next e =>
    subst e
    exact ⟨h.object, fun hg => h.name (old hg (by decide)), fun hg => h.vendor (old hg (by decide)), fun _ => rfl, sensors⟩
  split
  · next e =>
    subst e
    exact ⟨h.object, fun hg => h.name (old hg (by decide)), fun hg => h.vendor (old hg (by decide)),
      fun hg => h.hardwareType (old hg (by decide)), fun _ => ⟨List.mem_append_right _ (List.mem_singleton.mpr rfl), rfl, rfl⟩⟩
  · next hname hvendor htype hsensors =>
    exact ⟨h.object, fun hg => h.name (old hg (Ne.symm hname)), fun hg => h.vendor (old hg (Ne.symm hvendor)),
      fun hg => h.hardwareType (old hg (Ne.symm htype)), sensors⟩

/-- Whatever is noted of a device's children, it is the device's own. -/
theorem inspectDevice_noted (hw : remote.Watches launch es time) (hnode : Present (after launch es).shared.tree (.object d key)) :
    Ensures (fun _ => True) (inspectDevice remote (Place.object d key).id)
      (fun found _ => found.foundSensors = true → found.ids = snapshotNodes d key ∧
        found.sensorsNode = (Place.field d key "sensors").id ∧ Filled (after launch es).shared.tree d key)
      (fun _ => True) := by
  unfold inspectDevice
  refine Ensures.bind (request_ensures _ (fun _ _ h => h) fun _ h => h) fun children => ?_
  refine Ensures.assume fun hchildren => ?_
  obtain ⟨date, hchildren⟩ := hchildren
  have hstart : Noted d key [] (Found.start (Place.object d key).id) :=
    ⟨rfl, fun h => (nomatch h), fun h => (nomatch h), fun h => (nomatch h), fun h => absurd h Bool.false_ne_true⟩
  refine Ensures.weaken (Ensures.foldlM_along (I := fun seen found _ => Noted d key seen found) children ?_ [] _)
    (fun _ _ => hstart) fun found _ hnoted hfound => ?_
  · intro seen found child hmem
    obtain ⟨f, rfl, hpl⟩ := field_of_child hw hnode hchildren hmem
    unfold noteChild
    refine Ensures.bind (request_ensures _ (fun _ _ h => h) fun _ _ => trivial) fun childName => ?_
    refine Ensures.assume fun hname => ?_
    obtain ⟨date', hname⟩ := hname
    have hf := browseName_of_field hw (hpl.mono (grows_sharedAt launch es (time date))) hname
    refine Ensures.pure _ fun _ h => ?_
    rw [hf]
    exact h.note f
  · -- the sensors were among the children, so the fields created before them were
    rw [List.nil_append] at hnoted
    obtain ⟨hmem, hsensors, hnode'⟩ := hnoted.sensors hfound
    obtain ⟨f, hf, hpl⟩ := field_of_child hw hnode hchildren hmem
    obtain rfl := field_id_inj hf
    have hthere : ∀ g ∈ identityFields, Present (sharedAt launch es (time date)).tree (.field d key g) :=
      (honest_sharedAt launch es (time date)).sensorsLast d key hpl
    have hseen : ∀ g ∈ identityFields, (Place.field d key g).id ∈ children := fun g hg => by
      obtain ⟨hn, hat, -⟩ := hthere g hg
      exact (hw.children date _ _ hchildren _).mpr ⟨_, hn, hat.nodeId, hat.parent⟩
    refine ⟨?_, hnode', fun g hg => ?_⟩
    · obtain ⟨ids, sensorsNode, foundSensors⟩ := found
      obtain ⟨object, name, vendor, hardwareType, sensors⟩ := ids
      simp only [snapshotNodes, SnapshotNodeIds.mk.injEq]
      exact ⟨hnoted.object, hnoted.name (hseen _ (by decide)), hnoted.vendor (hseen _ (by decide)),
        hnoted.hardwareType (hseen _ (by decide)), hsensors⟩
    · have hgrow := grows_sharedAt launch es (time date)
      by_cases he : g = "sensors"
      · rw [he]
        exact hpl.mono hgrow
      · refine (hthere g ?_).mono hgrow
        simp only [snapshotFields, identityFields, List.mem_cons, List.not_mem_nil, or_false] at hg ⊢
        tauto

/-- Whatever the backends are doing meanwhile, and in whatever state the client is: a visit
    to a device's object that passes the test of `found_sensors` goes on with the ids of
    that device's own variables. -/
theorem found_sensors_complete (launch : Nat → Launch) (es : List Event) (time : Nat → Nat) (remote : Remote)
    (hw : remote.Watches launch es time) (nodeIdToString : NodeId → String) (clientFolderName d key : String)
    (hnode : Present (after launch es).shared.tree (.object d key)) (cc : Client) :
    visitDevice remote nodeIdToString clientFolderName (Place.object d key).id cc =
        (if (cc.deviceCache (nodeIdToString (Place.object d key).id)).isSome then .ok () cc
        else (inspectDevice remote (Place.object d key).id >>=
          subscribeFound remote clientFolderName (nodeIdToString (Place.object d key).id)) cc) ∧
      ∀ found cc', inspectDevice remote (Place.object d key).id cc = .ok found cc' → found.foundSensors = true →
        found.ids = snapshotNodes d key ∧ Filled (after launch es).shared.tree d key ∧
          found.ids.name.isNull = false ∧ found.ids.vendor.isNull = false ∧ found.ids.hardwareType.isNull = false := by
  refine ⟨visitDevice_eq remote nodeIdToString clientFolderName _ cc, fun found cc' hrun hfound => ?_⟩
  obtain ⟨hids, -, hfilled⟩ := (inspectDevice_noted hw hnode).of_ok trivial hrun hfound
  rw [hids]
  exact ⟨rfl, hfilled, rfl, rfl, rfl⟩

/-- The node `plc` creates at a place. -/
def plcNode (pl : Place) : PublishedNode := ⟨pl.id, Place.idOf pl.above, ⟨telemetryNamespaceIndex, pl.browseName⟩, "plc"⟩

/-- The run of `plc` until the node set of its processor has just been created. -/
def plcCreates : List Event := soloRun "plc" [cpuSnapshot] 14

theorem plcCreates_object : Present (after (solo "plc") plcCreates).shared.tree (.object "plc" "CPU") := by
  refine .intro (n := plcNode (.object "plc" "CPU")) (by decide +kernel) ⟨rfl, rfl, rfl⟩ fun q hq => ?_
  rw [← Option.some.inj hq]
  exact .intro (n := plcNode (.folder "plc")) (by decide +kernel) ⟨rfl, rfl, rfl⟩ fun q hq => nomatch hq

/-- The first visit to it finds all its variables. -/
theorem found_sensors_complete_cpu :
    ∃ found cc', inspectDevice (watching (solo "plc") plcCreates fun _ => plcCreates.length) (Place.object "plc" "CPU").id
        Client.start = .ok found cc' ∧ found.foundSensors = true ∧ found.ids = snapshotNodes "plc" "CPU" := by
  have hfound : (match inspectDevice (watching (solo "plc") plcCreates fun _ => plcCreates.length)
      (Place.object "plc" "CPU").id Client.start with
    | .ok found _ => found.foundSensors
    | .error _ _ => false) = true := by decide +kernel
  cases hrun : inspectDevice (watching (solo "plc") plcCreates fun _ => plcCreates.length)
      (Place.object "plc" "CPU").id Client.start with
  | error e cc' =>
    rw [hrun] at hfound
    cases hfound
  | ok found cc' =>
    rw [hrun] at hfound
    exact ⟨found, cc', rfl, hfound, ((found_sensors_complete (solo "plc") plcCreates (fun _ => plcCreates.length) _
      (watching_watches _ _ _) idString "plc" "plc" "CPU" plcCreates_object Client.start).2 found cc' hrun hfound).1⟩

end HardwareMonitor.ControlCenter
