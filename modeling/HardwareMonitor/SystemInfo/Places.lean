/-
  HardwareMonitor.SystemInfo.Places — the places of the published tree that the backends'
  code fills, and what a tree of such places looks like.

  Ids are joined with dots, so different places may have one id (`plc` with the key
  `cpu.x`, and `plc.cpu` with the key `x`). In a tree whose ids are unique only one of
  them can be filled: a place is known by its id (`Present.unique`), and the children of
  a filled place are places below it (`Honest.child`).
-/

import HardwareMonitor.OpcUa.PublishedTree
import HardwareMonitor.ControlCenter.Discovery

namespace HardwareMonitor.SystemInfo

open HardwareMonitor.OpcUa
open HardwareMonitor.ControlCenter (SnapshotNodeIds)

/-! ## Places -/

inductive Place where
  | folder (deviceName : String)
  | object (deviceName deviceKey : String)
  | field (deviceName deviceKey field : String)
  deriving DecidableEq, Repr

namespace Place

def id : Place → NodeId
  | .folder deviceName => ⟨telemetryNamespaceIndex, .string (clientFolderId deviceName)⟩
  | .object deviceName deviceKey => ⟨telemetryNamespaceIndex, .string (snapshotObjectId deviceName deviceKey)⟩
  | .field deviceName deviceKey f => ⟨telemetryNamespaceIndex, .string (snapshotFieldId deviceName deviceKey f)⟩

/-- The place it is created under; none for TelemetryClients. -/
def above : Place → Option Place
  | .folder _ => none
  | .object deviceName _ => some (.folder deviceName)
  | .field deviceName deviceKey _ => some (.object deviceName deviceKey)

def browseName : Place → String
  | .folder deviceName => deviceName
  | .object _ deviceKey => deviceKey
  | .field _ _ f => f

/-- The id of a place, or of TelemetryClients. -/
def idOf (pl : Option Place) : NodeId := (pl.map Place.id).getD telemetryClientsFolderId

theorem eq_of_above {pl pl' : Place} (habove : pl.above = pl'.above) (hname : pl.browseName = pl'.browseName) : pl = pl' := by
  cases pl <;> cases pl' <;> simp_all [above, browseName]

end Place

/-- The variables of one device are told apart by their fields. -/
theorem field_id_inj {d key f g : String} (h : (Place.field d key f).id = (Place.field d key g).id) : f = g := by
  have hs := Identifier.string.inj (congrArg NodeId.identifier h)
  exact (String.append_right_inj _).mp hs

/-- A node at a place: its id, its parent and its BrowseName are the place's. -/
structure At (n : PublishedNode) (pl : Place) : Prop where
  nodeId : n.nodeId = pl.id
  parent : n.parent = Place.idOf pl.above
  browseName : n.browseName = ⟨telemetryNamespaceIndex, pl.browseName⟩

/-- There is a node at the place, and at the places above it. -/
inductive Present (nodes : List PublishedNode) : Place → Prop where
  | intro {pl : Place} {n : PublishedNode} (hn : n ∈ nodes) (hat : At n pl)
      (habove : ∀ q, pl.above = some q → Present nodes q) : Present nodes pl

/-- The node set of a device. -/
def snapshotNodes (deviceName deviceKey : String) : SnapshotNodeIds where
  object := (Place.object deviceName deviceKey).id
  name := (Place.field deviceName deviceKey "name").id
  vendor := (Place.field deviceName deviceKey "vendor").id
  hardwareType := (Place.field deviceName deviceKey "hardware_type").id
  sensors := (Place.field deviceName deviceKey "sensors").id

/-- The variables that say what a device is. -/
def identityFields : List String := ["name", "vendor", "hardware_type"]

variable {nodes nodes' : List PublishedNode} {pl pl' : Place} {n : PublishedNode}

theorem Present.mono (h : Present nodes pl) (hsub : ∀ n ∈ nodes, n ∈ nodes') : Present nodes' pl := by
  induction h with
  | intro hn hat _ ih => exact .intro (hsub _ hn) hat ih

theorem Present.above (h : Present nodes pl) : ∀ q, pl.above = some q → Present nodes q := by
  cases h with
  | intro _ _ habove => exact habove

/-! ## Trees with unique ids -/

structure Grounded (nodes : List PublishedNode) : Prop where
  unique : ∀ n ∈ nodes, ∀ m ∈ nodes, n.nodeId = m.nodeId → n = m
  notClients : ∀ n ∈ nodes, n.nodeId ≠ telemetryClientsFolderId

/-- The server's nodes are such a tree. -/
theorem grounded_serverAfter (es : Run) : Grounded (serverAfter telemetryClientsFolderId es).nodes where
  unique _ hn _ hm h := node_unique telemetryClientsFolderId hn hm h
  notClients := (nodes_nodup telemetryClientsFolderId es).2

theorem Present.not_clients (hg : Grounded nodes) (h : Present nodes pl) : pl.id ≠ telemetryClientsFolderId := by
  obtain ⟨hn, hat, -⟩ := h
  rw [← hat.nodeId]
  exact hg.notClients _ hn

/-- A filled place is known by its id. -/
theorem Present.unique (hg : Grounded nodes) (h : Present nodes pl) (h' : Present nodes pl') (hid : pl.id = pl'.id) :
    pl = pl' := by
  induction h generalizing pl' with
  | @intro pl n hn hat habove ih =>
    obtain ⟨hm, hat', habove'⟩ := h'
    obtain rfl := hg.unique _ hn _ hm (hat.nodeId.trans (hid.trans hat'.nodeId.symm))
    have hparent := hat.parent.symm.trans hat'.parent
    have hname : pl.browseName = pl'.browseName := congrArg QualifiedName.name (hat.browseName.symm.trans hat'.browseName)
    refine Place.eq_of_above ?_ hname
    cases hq : pl.above with
    | none =>
      cases hq' : pl'.above with
      | none => rfl
      | some q' =>
        rw [hq, hq'] at hparent
        exact absurd hparent.symm ((habove' q' hq').not_clients hg)
    | some q =>
      cases hq' : pl'.above with
      | none =>
        rw [hq, hq'] at hparent
        exact absurd hparent ((habove q hq).not_clients hg)
      | some q' =>
        rw [hq, hq'] at hparent
        rw [ih q hq (habove' q' hq') hparent]

/-! ## Honest trees -/

/-- Every node is at its place, and a device's sensors come last. -/
structure Honest (nodes : List PublishedNode) : Prop where
  grounded : Grounded nodes
  places : ∀ n ∈ nodes, ∃ pl, At n pl ∧ Present nodes pl
  sensorsLast : ∀ d key, Present nodes (.field d key "sensors") → ∀ f ∈ identityFields, Present nodes (.field d key f)

/-- The places that `ensureClientFolder` and `ensureSnapshotNode` would fill next. -/
structure Ready (nodes : List PublishedNode) (pl : Place) : Prop where
  above : ∀ q, pl.above = some q → Present nodes q
  sensorsLast : ∀ d key, pl = .field d key "sensors" → ∀ f ∈ identityFields, Present nodes (.field d key f)

theorem Ready.mono (h : Ready nodes pl) (hsub : ∀ n ∈ nodes, n ∈ nodes') : Ready nodes' pl where
  above q hq := (h.above q hq).mono hsub
  sensorsLast d key e f hf := (h.sensorsLast d key e f hf).mono hsub

theorem Honest.empty : Honest [] where
  grounded := ⟨fun _ hn => (nomatch hn), fun _ hn => (nomatch hn)⟩
  places _ hn := nomatch hn
  sensorsLast _ _ h := by
    obtain ⟨hn, -, -⟩ := h
    cases hn

/-- A node under a filled place, or under TelemetryClients, is at a place right below it. -/
theorem Honest.child (h : Honest nodes) (hn : n ∈ nodes) {q : Option Place} (hq : ∀ pl, q = some pl → Present nodes pl)
    (hparent : n.parent = Place.idOf q) : ∃ pl, At n pl ∧ Present nodes pl ∧ pl.above = q := by
  obtain ⟨pl, hat, hpl⟩ := h.places n hn
  refine ⟨pl, hat, hpl, ?_⟩
  have hid : Place.idOf pl.above = Place.idOf q := hat.parent.symm.trans hparent
  cases hup : pl.above with
  | none =>
    cases q with
    | none => rfl
    | some r =>
      rw [hup] at hid
      exact absurd hid.symm ((hq r rfl).not_clients h.grounded)
  | some r =>
    have hr := hpl.above r hup
    cases q with
    | none =>
      rw [hup] at hid
      exact absurd hid (hr.not_clients h.grounded)
    | some r' =>
      rw [hup] at hid
      rw [hr.unique h.grounded (hq r' rfl) hid]

/-- A node created at a place that is ready keeps the tree honest. -/
theorem Honest.snoc (h : Honest nodes) (hg : Grounded (nodes ++ [n])) (hat : At n pl) (hr : Ready nodes pl) :
    Honest (nodes ++ [n]) := by
  have hsub : ∀ m ∈ nodes, m ∈ nodes ++ [n] := fun m hm => List.mem_append_left _ hm
  have hn : n ∈ nodes ++ [n] := List.mem_append_right _ (List.mem_singleton.mpr rfl)
  have hpl : Present (nodes ++ [n]) pl := .intro hn hat fun q hq => (hr.above q hq).mono hsub
  -- every node of the longer tree is at a place that is filled there
  have hplaces : ∀ m ∈ nodes ++ [n], ∃ pl', At m pl' ∧ Present (nodes ++ [n]) pl' ∧ (Present nodes pl' ∨ pl' = pl) := by
    intro m hm
    rcases List.mem_append.mp hm with hm | hm
    · obtain ⟨pl', hat', hpl'⟩ := h.places m hm
      exact ⟨pl', hat', hpl'.mono hsub, Or.inl hpl'⟩
    · rw [List.mem_singleton.mp hm]
      exact ⟨pl, hat, hpl, Or.inr rfl⟩
  refine ⟨hg, fun m hm => ?_, fun d key hs f hf => ?_⟩
  · obtain ⟨pl', hat', hpl', -⟩ := hplaces m hm
    exact ⟨pl', hat', hpl'⟩
  · obtain ⟨hm, hatm, -⟩ := id hs
    obtain ⟨pl', hat', hpl', hwhere⟩ := hplaces _ hm
    obtain rfl := hpl'.unique hg hs (hat'.nodeId.symm.trans hatm.nodeId)
    rcases hwhere with hold | hnew
    · exact (h.sensorsLast d key hold f hf).mono hsub
    · exact (hr.sensorsLast d key hnew.symm f hf).mono hsub

end HardwareMonitor.SystemInfo
