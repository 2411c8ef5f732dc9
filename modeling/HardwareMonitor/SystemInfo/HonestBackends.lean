/-
  HardwareMonitor.SystemInfo.HonestBackends — what the backends' code keeps up, whoever
  else runs it at the same time and wherever an exception leaves it.

  Of the others a process only needs that nodes stay (`accord`). Then what it browses is
  its own node, it asks for nodes at its own places only, each when the places it rests
  on are filled, and what it stores is the node set of a device in the tree
  (`addNodes_upholds`, `sendTelemetryPayload_upholds`). So every run keeps the tree
  honest (`sound_after`).

  `ok` says which snapshots a device's workers push; nothing is assumed of it here.
-/

import HardwareMonitor.SystemInfo.Backends
import HardwareMonitor.SystemInfo.Places

namespace HardwareMonitor.SystemInfo

open HardwareMonitor.OpcUa
open HardwareMonitor.ControlCenter (Variant SnapshotNodeIds)
open HardwareMonitor.Lib.Interaction

/-! ## The invariant -/

/-- The variables of a node set. -/
def snapshotFields : List String := ["name", "vendor", "hardware_type", "sensors"]

/-- What `writeSnapshot` writes to each of them. -/
def fieldValue (snapshot : TelemetrySnapshot) (f : String) : Variant :=
  if f = "name" then .string snapshot.name
  else if f = "vendor" then .string snapshot.vendor
  else if f = "hardware_type" then .string snapshot.hardwareType
  else .extensionObjects (snapshot.sensors.map sensorObject)

/-- The node set of a device is in the tree. -/
def Filled (nodes : List PublishedNode) (d key : String) : Prop := ∀ f ∈ snapshotFields, Present nodes (.field d key f)

/-- The ids of a node set's variables. -/
def variableIds (ids : SnapshotNodeIds) : List NodeId := [ids.name, ids.vendor, ids.hardwareType, ids.sensors]

/-- The variables of a device's node set are those of its fields. -/
theorem mem_variableIds {d key : String} {id : NodeId} :
    id ∈ variableIds (snapshotNodes d key) ↔ ∃ f ∈ snapshotFields, id = (Place.field d key f).id := by
  simp only [variableIds, snapshotNodes, snapshotFields, List.mem_cons, List.not_mem_nil, or_false, exists_eq_or_imp,
    exists_eq_left]

/-- The node sets of different keys have no variable in common. -/
theorem variableIds_disjoint {nodes : List PublishedNode} (hg : Grounded nodes) {d key key' : String} (h : Filled nodes d key)
    (h' : Filled nodes d key') (hne : key ≠ key') :
    ∀ id ∈ variableIds (snapshotNodes d key), id ∉ variableIds (snapshotNodes d key') := by
  intro id hid hid'
  obtain ⟨f, hf, rfl⟩ := mem_variableIds.mp hid
  obtain ⟨f', hf', he⟩ := mem_variableIds.mp hid'
  have hpl := (h f hf).unique hg (h' f' hf') he
  cases hpl
  exact hne rfl

section

variable (ok : TelemetrySnapshot → Prop) (nodes : List PublishedNode) (d : String)

/-- A mark is about the process's own snapshots and node sets. -/
def Mark.Sane : Mark → Prop
  | .writes ids snapshot => ids = snapshotNodes d snapshot.name ∧ ok snapshot ∧ Filled nodes d snapshot.name
  | .wrote ids snapshot => ids = snapshotNodes d snapshot.name ∧ ok snapshot ∧ Filled nodes d snapshot.name
  | .put id _ => ∃ key, ∃ f ∈ snapshotFields, id = (Place.field d key f).id ∧ Present nodes (.field d key f)
  | _ => True

/-- What a process named `d` remembers is its own, and in the tree. -/
structure Backend.Sane (b : Backend) : Prop where
  queue : ∀ snapshot ∈ b.queue.queue, ok snapshot
  clientFolder : ∀ id, b.clientFolder = some id → id = (Place.folder d).id ∧ Present nodes (.folder d)
  deviceNodes : ∀ key ids, b.deviceNodes key = some ids → ids = snapshotNodes d key ∧ Filled nodes d key
  trace : ∀ m ∈ b.trace, m.Sane ok nodes d

/-- The places of the device `d` itself. -/
inductive Mine : Place → Prop where
  | folder : Mine (.folder d)
  | object {snapshot : TelemetrySnapshot} (h : ok snapshot) : Mine (.object d snapshot.name)
  | field {snapshot : TelemetrySnapshot} (h : ok snapshot) (f : String) : Mine (.field d snapshot.name f)

end

variable (launch : Nat → Launch) (ok : Nat → TelemetrySnapshot → Prop)

/-- A variable that has been written to holds the field of a snapshot of its device. -/
def Shared.ValuesSane (s : Shared) : Prop :=
  ∀ id, s.value id ≠ .empty → ∃ p snapshot, ∃ f ∈ snapshotFields, ok p snapshot ∧
    id = (Place.field (launch p).clientName snapshot.name f).id ∧
    Present s.tree (.field (launch p).clientName snapshot.name f) ∧ s.value id = fieldValue snapshot f

structure Shared.Sane (s : Shared) : Prop where
  tree : Honest s.tree
  backends : ∀ p, (s.backend p).Sane (ok p) s.tree (launch p).clientName
  values : s.ValuesSane launch ok

/-! ## The accord -/

/-- The AddNodes request for a place. -/
def itemAt (pl : Place) : AddNodesItem :=
  ⟨(Place.idOf pl.above).expanded, pl.id.expanded, ⟨telemetryNamespaceIndex, pl.browseName⟩⟩

/-- What the process `p` may ask: a node at a place of its own that is ready, and the
    write of a field of one of its snapshots to its own variable. A value is marked as
    put by the write alone. -/
def mayAsk (p : Nat) : Call → Shared → Prop
  | .addNode item, s => ∃ pl, Mine (ok p) (launch p).clientName pl ∧ Ready s.tree pl ∧ item = itemAt pl
  | .writeValue id value, s => ∃ snapshot, ∃ f ∈ snapshotFields, ok p snapshot ∧
      id = (Place.field (launch p).clientName snapshot.name f).id ∧
      Present s.tree (.field (launch p).clientName snapshot.name f) ∧ value = fieldValue snapshot f
  | .mark m, _ => ∀ id value, m ≠ .put id value
  | _, _ => True

/-- Nodes stay. -/
def Grows (s t : Shared) : Prop := ∀ n ∈ s.tree, n ∈ t.tree

/-- All that a process counts on is that nodes stay. -/
def accord : Accord Nat Call Shared where
  inv := Shared.Sane launch ok
  rely _ := Grows
  refl _ _ _ hn := hn
  trans _ _ _ _ h h' n hn := h' n (h n hn)
  ask := mayAsk launch ok
  quit _ _ := True
  idle _ _ := True
  idle_stable _ _ _ _ _ _ := trivial

/-! ## Growth -/

section

variable {nodes nodes' : List PublishedNode} {d : String} {launch ok} {own : TelemetrySnapshot → Prop} {s t : Shared}

theorem Filled.mono {key : String} (h : Filled nodes d key) (hsub : ∀ n ∈ nodes, n ∈ nodes') : Filled nodes' d key :=
  fun f hf => (h f hf).mono hsub

theorem Mark.Sane.mono {m : Mark} (h : m.Sane own nodes d) (hsub : ∀ n ∈ nodes, n ∈ nodes') : m.Sane own nodes' d := by
  cases m with
  | writes ids snapshot => exact ⟨h.1, h.2.1, h.2.2.mono hsub⟩
  | wrote ids snapshot => exact ⟨h.1, h.2.1, h.2.2.mono hsub⟩
  | put id value =>
    obtain ⟨key, f, hf, hid, hpl⟩ := h
    exact ⟨key, f, hf, hid, hpl.mono hsub⟩
  | ensures key => trivial
  | returned => trivial
  | drained snapshots => trivial
  | threw => trivial

theorem Backend.Sane.mono {b : Backend} (h : b.Sane own nodes d) (hsub : ∀ n ∈ nodes, n ∈ nodes') : b.Sane own nodes' d where
  queue := h.queue
  clientFolder id hid := ⟨(h.clientFolder id hid).1, (h.clientFolder id hid).2.mono hsub⟩
  deviceNodes key ids hids := ⟨(h.deviceNodes key ids hids).1, (h.deviceNodes key ids hids).2.mono hsub⟩
  trace m hm := (h.trace m hm).mono hsub

theorem Backend.Sane.mark {b : Backend} (h : b.Sane own nodes d) {m : Mark} (hm : m.Sane own nodes d) :
    (b.mark m).Sane own nodes d where
  queue := h.queue
  clientFolder := h.clientFolder
  deviceNodes := h.deviceNodes
  trace m' hm' := by
    rcases List.mem_append.mp hm' with hm' | hm'
    · exact h.trace m' hm'
    · rwa [List.mem_singleton.mp hm']

/-- A step that keeps the sane state is one the others can live with. -/
theorem keeps_of_grows {p : Nat} (h : t.Sane launch ok) (hg : Grows s t) : (accord launch ok).Keeps p s t :=
  ⟨h, fun _ _ => hg⟩

/-- A step of `p` lets the tree grow. -/
theorem grows_of_keeps {p : Nat} (h : (accord launch ok).Keeps p s t) : Grows s t := h.others (p + 1) (Nat.succ_ne_self p)

/-! ## Steps -/

@[simp] theorem tree_update (s : Shared) (p : Nat) (f : Backend → Backend) : (s.update p f).tree = s.tree := rfl
@[simp] theorem tree_write (s : Shared) (id : NodeId) (value : Variant) : (s.write id value).tree = s.tree := rfl

/-- The nodes after a call: the node it creates is added. -/
theorem tree_call (s : Shared) (session : NodeId) (o : Operation) :
    (s.call session o).tree =
      s.tree ++ ((serverAfter telemetryClientsFolderId s.log).created telemetryClientsFolderId session o).toList :=
  nodes_snoc telemetryClientsFolderId s.log (session, o)

theorem grows_call (s : Shared) (session : NodeId) (o : Operation) : Grows s (s.call session o) := by
  intro n hn
  rw [tree_call]
  exact List.mem_append_left _ hn

/-- The memory of one process changes. -/
theorem Shared.Sane.update (h : s.Sane launch ok) (p : Nat) {f : Backend → Backend}
    (hf : (f (s.backend p)).Sane (ok p) s.tree (launch p).clientName) : (s.update p f).Sane launch ok where
  tree := h.tree
  backends q := by
    by_cases hq : q = p
    · simp only [Shared.update, if_pos hq]
      rw [hq]
      exact hf
    · simp only [Shared.update, if_neg hq]
      exact h.backends q
  values := h.values

/-- A call to the plug-in that creates no node, or one at a place that is ready. -/
theorem Shared.Sane.call (h : s.Sane launch ok) (session : NodeId) (o : Operation)
    (ho : ∀ n, (serverAfter telemetryClientsFolderId s.log).created telemetryClientsFolderId session o = some n →
      ∃ pl, At n pl ∧ Ready s.tree pl) : (s.call session o).Sane launch ok where
  tree := by
    have hg : Grounded (s.call session o).tree := grounded_serverAfter _
    rw [tree_call] at hg ⊢
    cases hc : (serverAfter telemetryClientsFolderId s.log).created telemetryClientsFolderId session o with
    | none => simpa using h.tree
    | some n =>
      obtain ⟨pl, hat, hr⟩ := ho n hc
      rw [hc] at hg
      exact h.tree.snoc hg hat hr
  backends p := (h.backends p).mono (grows_call s session o)
  values id hid := by
    obtain ⟨q, snapshot, f, hf, hok, hplace, hpl, hval⟩ := h.values id hid
    exact ⟨q, snapshot, f, hf, hok, hplace, hpl.mono (grows_call s session o), hval⟩

/-- A field of a snapshot is written to its variable. -/
theorem Shared.Sane.write (h : s.Sane launch ok) {p : Nat} {snapshot : TelemetrySnapshot} {f : String}
    (hf : f ∈ snapshotFields) (hok : ok p snapshot) (hpl : Present s.tree (.field (launch p).clientName snapshot.name f)) :
    (s.write (Place.field (launch p).clientName snapshot.name f).id (fieldValue snapshot f)).Sane launch ok where
  tree := h.tree
  backends := h.backends
  values id hid := by
    by_cases hid' : id = (Place.field (launch p).clientName snapshot.name f).id
    · exact ⟨p, snapshot, f, hf, hok, hid', hpl, if_pos hid'⟩
    · simp only [Shared.write, if_neg hid'] at hid ⊢
      exact h.values id hid

/-! ## One call -/

variable {p : Nat} {pl : Place}

theorem idOf_ne_objectsFolder (q : Option Place) : Place.idOf q ≠ objectsFolder := by
  cases q with
  | none => decide
  | some pl =>
    intro h
    have hns : (Place.idOf (some pl)).namespaceIndex = 0 := by rw [h]; rfl
    cases pl <;> exact absurd (show telemetryNamespaceIndex = 0 from hns) (by decide)

/-- A node found below a place, or below TelemetryClients, is there. -/
theorem child_some {q : Option Place} {name : QualifiedName} {id : NodeId} (h : s.child (Place.idOf q) name = some id) :
    ∃ n ∈ s.tree, n.nodeId = id ∧ n.parent = Place.idOf q ∧ n.browseName = name := by
  unfold Shared.child at h
  rw [if_neg fun h => idOf_ne_objectsFolder q h.1] at h
  obtain ⟨n, hn, rfl⟩ := Option.map_eq_some_iff.mp h
  have hwhere : n.parent = Place.idOf q ∧ n.browseName = name := by simpa using List.find?_some hn
  exact ⟨n, List.mem_of_find?_eq_some hn, rfl, hwhere⟩

/-- What is browsed at a place is the node of that place. -/
theorem browse_upholds (hup : ∀ q, pl.above = some q → Present s.tree q) :
    Upholds (system launch) (accord launch ok) p (fun found t => ∀ id, found = some id → id = pl.id ∧ Present t.tree pl)
      (tryBrowseChild (Place.idOf pl.above) telemetryNamespaceIndex pl.browseName) s := by
  refine Upholds.ask fun t ht hr => ⟨trivial, fun _ => trivial, Accord.keeps_refl ht p, fun _ => trivial, ?_⟩
  intro u hu hru id hid
  obtain ⟨n, hn, rfl, hparent, hname⟩ := child_some hid
  obtain ⟨pl', hat, hpl', habove⟩ := ht.tree.child hn (fun q hq => (hup q hq).mono hr) hparent
  obtain rfl : pl' = pl :=
    Place.eq_of_above habove (congrArg QualifiedName.name (hat.browseName.symm.trans hname))
  exact ⟨hat.nodeId, hpl'.mono hru⟩

/-- A request for a place of its own creates the node of that place, or throws. -/
theorem addNode_upholds (hmine : Mine (ok p) (launch p).clientName pl) (hready : Ready s.tree pl) :
    Upholds (system launch) (accord launch ok) p (fun id t => id = pl.id ∧ Present t.tree pl)
      (perform (.addNode (itemAt pl))) s := by
  refine Upholds.ask fun t ht hr => ⟨⟨pl, hmine, hready.mono hr, rfl⟩, fun _ => trivial, ?_⟩
  -- the node the request creates is at that place
  have hcreated : ∀ n, (serverAfter telemetryClientsFolderId t.log).created telemetryClientsFolderId (launch p).session
      (.allowAddNode (itemAt pl)) = some n → At n pl := by
    intro n hn
    obtain ⟨item, seat, hitem, -, rfl⟩ := (created_eq_some_iff _ _ _ _ _).mp hn
    rw [← Operation.allowAddNode.inj hitem]
    exact ⟨rfl, rfl, rfl⟩
  have hsane : (t.call (launch p).session (.allowAddNode (itemAt pl))).Sane launch ok :=
    ht.call _ _ fun n hn => ⟨pl, hcreated n hn, hready.mono hr⟩
  have hkeeps : (accord launch ok).Keeps p t (t.call (launch p).session (.allowAddNode (itemAt pl))) :=
    keeps_of_grows hsane (grows_call t _ _)
  dsimp only [system, serve]
  cases hc : (serverAfter telemetryClientsFolderId t.log).created telemetryClientsFolderId (launch p).session
      (.allowAddNode (itemAt pl)) with
  | none => exact ⟨hkeeps, trivial⟩
  | some n =>
    refine ⟨hkeeps, fun _ => trivial, fun u hu hru => ⟨(hcreated n hc).nodeId, ?_⟩⟩
    have hn : n ∈ (t.call (launch p).session (.allowAddNode (itemAt pl))).tree := by
      rw [tree_call, hc]
      exact List.mem_append_right _ (List.mem_singleton.mpr rfl)
    exact .intro (hru n hn) (hcreated n hc) fun q hq =>
      ((hready.above q hq).mono hr).mono fun m hm => hru m (grows_call t _ _ m hm)

/-- An access to the process's own memory that leaves it sane. -/
theorem keeps_update {f : Backend → Backend} (hs : s.Sane launch ok)
    (hf : (f (s.backend p)).Sane (ok p) s.tree (launch p).clientName) : (accord launch ok).Keeps p s (s.update p f) :=
  keeps_of_grows (hs.update p hf) fun _ hn => hn

/-- A write of a field of its own snapshot to its own variable. -/
theorem write_upholds {snapshot : TelemetrySnapshot} {f : String} (hf : f ∈ snapshotFields)
    (hok : ok p snapshot) (hpl : Present s.tree (.field (launch p).clientName snapshot.name f)) :
    Upholds (system launch) (accord launch ok) p (fun _ _ => True)
      (perform (.writeValue (Place.field (launch p).clientName snapshot.name f).id (fieldValue snapshot f))) s := by
  refine Upholds.ask fun t ht hr =>
    ⟨⟨snapshot, f, hf, hok, rfl, hpl.mono hr, rfl⟩, fun _ => trivial, ?_⟩
  dsimp only [system, serve]
  cases t.has (Place.field (launch p).clientName snapshot.name f).id with
  | false => exact ⟨Accord.keeps_refl ht p, trivial⟩
  | true =>
    have hwritten := ht.write hf hok (hpl.mono hr)
    refine ⟨keeps_of_grows (hwritten.update p ?_) fun n hn => hn, fun _ => trivial, fun _ _ _ => trivial⟩
    exact (hwritten.backends p).mark ⟨snapshot.name, f, hf, rfl, hpl.mono hr⟩

theorem mark_upholds {m : Mark} (hm : m.Sane (ok p) s.tree (launch p).clientName) (hput : ∀ id value, m ≠ .put id value) :
    Upholds (system launch) (accord launch ok) p (fun _ _ => True) (perform (.mark m)) s := by
  refine Upholds.ask fun t ht hr => ⟨hput, fun _ => trivial, ?_, fun _ => trivial, fun _ _ _ => trivial⟩
  exact keeps_update ht ((ht.backends p).mark (hm.mono hr))

theorem drain_upholds :
    Upholds (system launch) (accord launch ok) p (fun drained _ => ∀ snapshot ∈ drained, ok p snapshot)
      (perform .drain) s := by
  refine Upholds.ask fun t ht hr => ⟨trivial, fun _ => trivial, ?_⟩
  dsimp only [system, serve]
  have hb := ht.backends p
  cases (t.backend p).queue.ready with
  | false => trivial
  | true =>
    have hempty : Backend.Sane (ok p) t.tree (launch p).clientName
        { t.backend p with queue := (t.backend p).queue.drain.2 } :=
      ⟨fun _ h => absurd h List.not_mem_nil, hb.clientFolder, hb.deviceNodes, hb.trace⟩
    refine ⟨keeps_update ht (hempty.mark (m := .drained (t.backend p).queue.drain.1) trivial), fun _ => trivial,
      fun u hu hru => ?_⟩
    rw [ClientQueue.drain_fst]
    exact hb.queue

end

end HardwareMonitor.SystemInfo
