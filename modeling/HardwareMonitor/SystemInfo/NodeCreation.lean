/-
  HardwareMonitor.SystemInfo.NodeCreation — `ensureSnapshotNode` as it creates a device's
  nodes, with the attributes they are created with (`OPC_UA/utils.cpp`).

  Each of its five steps browses for a node and adds it when there is none, so each can be
  run again after an exception (`ensureChild_resumes`), and so can all of them together:
  wherever an attempt has been left, and however often, the next one that is not left ends
  with the tree and the ids of a single attempt, and one more adds nothing
  (`creation_resumes`).
-/

import HardwareMonitor.Lib.Resumable
import HardwareMonitor.SystemInfo.Publishing

namespace HardwareMonitor.SystemInfo.Creation

open HardwareMonitor.OpcUa
open HardwareMonitor.ControlCenter (SnapshotNodeIds)
open HardwareMonitor.Lib.Interaction
open HardwareMonitor.Lib.Resumable

/-! ## Calls -/

/-- `opcua::VariableAttributes`, as far as it is set; the rest is the library's. -/
structure VariableAttributes where
  accessLevel : UInt8
  dataType : NodeId
  valueRank : Option Int32
  arrayDimensions : List UInt32
  deriving DecidableEq, Repr

inductive NodeAttributes where
  | object
  | variable (attr : VariableAttributes)
  deriving DecidableEq, Repr

inductive CreateCall where
  /-- `browseChild` behind `tryBrowseChild`: Bad_NoMatch is an answer. -/
  | browseChild (parent : NodeId) (name : QualifiedName)
  | addNode (item : AddNodesItem) (attributes : NodeAttributes)
  deriving DecidableEq, Repr

abbrev CreateCall.Answer : CreateCall → Type
  | .browseChild _ _ => Option NodeId
  | .addNode _ _ => NodeId

abbrev Code (α : Type) := Prog CreateCall CreateCall.Answer α

def tryBrowseChild (parent : NodeId) (ns : UInt16) (name : String) : Code (Option NodeId) :=
  ask (CreateCall.browseChild parent ⟨ns, name⟩)

/-- The BrowseName takes its namespace from the new id. -/
def addNode (parent id : NodeId) (browseName : String) (attributes : NodeAttributes) : Code NodeId :=
  ask (CreateCall.addNode ⟨parent.expanded, id.expanded, ⟨id.namespaceIndex, browseName⟩⟩ attributes)

/-! ## `OPC_UA/utils.cpp` -/

/-- `CurrentRead | CurrentWrite` -/
def readWrite : UInt8 := 0x03

/-- `opcua::DataTypeId::String` -/
def stringType : NodeId := ⟨0, .numeric 12⟩

def ensureStringVar (parent : NodeId) (deviceName deviceKey field : String) (ns : UInt16) : Code NodeId := do
  let existing ← tryBrowseChild parent ns field
  match existing with
  | some existing => return existing
  | none =>
    let id : NodeId := ⟨ns, .string (snapshotFieldId deviceName deviceKey field)⟩
    let attr : VariableAttributes := { accessLevel := readWrite, dataType := stringType, valueRank := none, arrayDimensions := [] }
    addNode parent id field (.variable attr)

/-- The first part of `ensureSnapshotNode`: the device's object. -/
def ensureObject (clientFolder : NodeId) (deviceName deviceKey : String) (ns : UInt16) : Code NodeId := do
  let obj ← tryBrowseChild clientFolder ns deviceKey
  match obj with
  | some obj => return obj
  | none => addNode clientFolder ⟨ns, .string (snapshotObjectId deviceName deviceKey)⟩ deviceKey .object

/-- Its last part: the array of the sensors. -/
def ensureSensors (obj : NodeId) (deviceName deviceKey : String) (ns : UInt16) (sensorDtoType : NodeId) : Code NodeId := do
  let existingSensors ← tryBrowseChild obj ns "sensors"
  match existingSensors with
  | some existingSensors => return existingSensors
  | none =>
    let sensorsId : NodeId := ⟨ns, .string (snapshotFieldId deviceName deviceKey "sensors")⟩
    let attr : VariableAttributes :=
      { accessLevel := readWrite, dataType := sensorDtoType, valueRank := some 1, arrayDimensions := [0] }
    addNode obj sensorsId "sensors" (.variable attr)

def ensureSnapshotNode (clientFolder : NodeId) (deviceName deviceKey : String) (ns : UInt16) (sensorDtoType : NodeId) :
    Code SnapshotNodeIds := do
  let obj ← ensureObject clientFolder deviceName deviceKey ns
  let name ← ensureStringVar obj deviceName deviceKey "name" ns
  let vendor ← ensureStringVar obj deviceName deviceKey "vendor" ns
  let hardwareType ← ensureStringVar obj deviceName deviceKey "hardware_type" ns
  let sensors ← ensureSensors obj deviceName deviceKey ns sensorDtoType
  return { object := obj, name := name, vendor := vendor, hardwareType := hardwareType, sensors := sensors }

/-! ## The five steps -/

/-- A node is looked for, and added when there is none. -/
def ensureChild (parent id : NodeId) (browseName : String) (attributes : NodeAttributes) : Code NodeId := do
  let existing ← tryBrowseChild parent id.namespaceIndex browseName
  match existing with
  | some existing => return existing
  | none => addNode parent id browseName attributes

def objectId (deviceName deviceKey : String) (ns : UInt16) : NodeId := ⟨ns, .string (snapshotObjectId deviceName deviceKey)⟩

def fieldId (deviceName deviceKey field : String) (ns : UInt16) : NodeId :=
  ⟨ns, .string (snapshotFieldId deviceName deviceKey field)⟩

def stringAttributes : NodeAttributes := .variable ⟨readWrite, stringType, none, []⟩

def arrayAttributes (sensorDtoType : NodeId) : NodeAttributes := .variable ⟨readWrite, sensorDtoType, some 1, [0]⟩

theorem ensureObject_eq (clientFolder : NodeId) (deviceName deviceKey : String) (ns : UInt16) :
    ensureObject clientFolder deviceName deviceKey ns =
      ensureChild clientFolder (objectId deviceName deviceKey ns) deviceKey .object := rfl

theorem ensureStringVar_eq (obj : NodeId) (deviceName deviceKey field : String) (ns : UInt16) :
    ensureStringVar obj deviceName deviceKey field ns =
      ensureChild obj (fieldId deviceName deviceKey field ns) field stringAttributes := rfl

theorem ensureSensors_eq (obj : NodeId) (deviceName deviceKey : String) (ns : UInt16) (sensorDtoType : NodeId) :
    ensureSensors obj deviceName deviceKey ns sensorDtoType =
      ensureChild obj (fieldId deviceName deviceKey "sensors" ns) "sensors" (arrayAttributes sensorDtoType) := rfl

/-! ## Without the attributes -/

/-- The code of a backend that makes the same requests. -/
def erase {α : Type} : Code α → SystemInfo.Code α
  | .done a => .done a
  | .throw => .throw
  | .call (.browseChild parent name) next => .call (.browseChild parent name) fun a => erase (next a)
  | .call (.addNode item _) next => .call (.addNode item) fun a => erase (next a)

theorem erase_bind {α β : Type} (x : Code α) (f : α → Code β) : erase (x >>= f) = erase x >>= fun a => erase (f a) := by
  induction x with
  | done a => rfl
  | throw => rfl
  | call c next ih =>
    rw [call_bind]
    cases c with
    | browseChild parent name => exact congrArg (Prog.call (Call.browseChild parent name)) (funext ih)
    | addNode item attributes => exact congrArg (Prog.call (Call.addNode item)) (funext ih)

theorem erase_ensureChild (parent id : NodeId) (browseName : String) (attributes : NodeAttributes) :
    erase (ensureChild parent id browseName attributes) =
      SystemInfo.tryBrowseChild parent id.namespaceIndex browseName >>= fun existing =>
        match existing with
        | some existing => pure existing
        | none => SystemInfo.addNode parent id browseName := by
  unfold ensureChild
  rw [erase_bind]
  refine congrArg (Prog.call (Call.browseChild parent ⟨id.namespaceIndex, browseName⟩)) (funext fun existing => ?_)
  cases existing <;> rfl

theorem erase_ensureSnapshotNode (clientFolder : NodeId) (deviceName deviceKey : String) (ns : UInt16) (sensorDtoType : NodeId) :
    erase (ensureSnapshotNode clientFolder deviceName deviceKey ns sensorDtoType) =
      SystemInfo.ensureSnapshotNode clientFolder deviceName deviceKey ns := by
  simp only [ensureSnapshotNode, ensureObject_eq, ensureStringVar_eq, ensureSensors_eq, erase_bind, erase_ensureChild]
  rfl

/-! ## The tree -/

structure TreeNode where
  nodeId : NodeId
  parent : NodeId
  browseName : QualifiedName
  attributes : NodeAttributes
  deriving DecidableEq, Repr

/-- The node a request asks for. -/
def CreateCall.node : CreateCall → Option TreeNode
  | .browseChild _ _ => none
  | .addNode item attributes =>
    some ⟨item.requestedNewNodeId.nodeId, item.parentNodeId.nodeId, item.browseName, attributes⟩

/-- The nodes of the server are the client folder and the list. -/
def known (clientFolder : NodeId) (nodes : List TreeNode) (id : NodeId) : Bool :=
  decide (id = clientFolder) || nodes.any fun n => decide (n.nodeId = id)

/-- The first node below `parent` with this BrowseName. -/
def child (nodes : List TreeNode) (parent : NodeId) (name : QualifiedName) : Option NodeId :=
  (nodes.find? fun n => decide (n.parent = parent ∧ n.browseName = name)).map (·.nodeId)

/-- A server that finds what it has, and adds a node unless its id is taken; any request
    may throw. -/
def treeSystem (clientFolder : NodeId) : System Unit CreateCall CreateCall.Answer (List TreeNode) where
  serve _
    | .browseChild parent name, nodes =>
      if known clientFolder nodes parent then .answers (child nodes parent name) nodes else .fails nodes
    | .addNode item attributes, nodes =>
      if known clientFolder nodes item.parentNodeId.nodeId && !known clientFolder nodes item.requestedNewNodeId.nodeId then
        .answers item.requestedNewNodeId.nodeId
          (nodes ++ [⟨item.requestedNewNodeId.nodeId, item.parentNodeId.nodeId, item.browseName, attributes⟩])
      else .fails nodes
  fallible _ := true
  abort _ nodes := nodes

variable {clientFolder : NodeId} {nodes nodes' : List TreeNode} {parent id : NodeId} {name : QualifiedName} {browseName : String}
  {attributes : NodeAttributes}

theorem known_mono (h : nodes <+: nodes') (hknown : known clientFolder nodes id = true) : known clientFolder nodes' id = true := by
  obtain ⟨more, rfl⟩ := h
  unfold known at hknown ⊢
  rw [List.any_append]
  rcases Bool.or_eq_true_iff.mp hknown with hroot | hany
  · rw [hroot, Bool.true_or]
  · rw [hany, Bool.true_or, Bool.or_true]

theorem child_mono (h : nodes <+: nodes') (hchild : child nodes parent name = some id) : child nodes' parent name = some id := by
  obtain ⟨more, rfl⟩ := h
  unfold child at hchild ⊢
  obtain ⟨n, hfind, hid⟩ := Option.map_eq_some_iff.mp hchild
  rw [List.find?_append, hfind, Option.some_or, Option.map_some, hid]

/-- What has been added is found. -/
theorem child_added (h : child nodes parent name = none) :
    child (nodes ++ [⟨id, parent, name, attributes⟩]) parent name = some id := by
  unfold child at h ⊢
  rw [List.find?_append, Option.map_eq_none_iff.mp h]
  simp

/-- Everything an attempt adds is what its requests ask for. -/
theorem alone_adds {α : Type} {x : Code α} {a : α} (h : alone (treeSystem clientFolder) () x nodes = some (a, nodes')) :
    nodes' = nodes ++ (asked (treeSystem clientFolder) () x nodes).filterMap CreateCall.node := by
  induction x generalizing nodes with
  | done b =>
    obtain ⟨-, rfl⟩ := Prod.mk.inj (Option.some.inj h)
    exact (List.append_nil _).symm
  | throw => cases h
  | call c next ih =>
    rw [alone] at h
    rw [asked]
    cases hs : (treeSystem clientFolder).serve () c nodes with
    | blocks => simp [hs] at h
    | fails t => simp [hs] at h
    | answers b t =>
      rw [hs] at h
      have hrest := ih b h
      cases c with
      | browseChild parent name =>
        simp only [treeSystem] at hs
        split at hs
        · obtain ⟨-, rfl⟩ := Served.answers.inj hs
          exact hrest
        · cases hs
      | addNode item attributes =>
        simp only [treeSystem] at hs
        split at hs
        · obtain ⟨-, rfl⟩ := Served.answers.inj hs
          rw [List.append_assoc] at hrest
          exact hrest
        · cases hs

/-! ## One step -/

theorem browse_alone (hparent : known clientFolder nodes parent = true) (ns : UInt16) :
    alone (treeSystem clientFolder) () (tryBrowseChild parent ns browseName) nodes =
      some (child nodes parent ⟨ns, browseName⟩, nodes) := by
  refine alone_ask (c := CreateCall.browseChild parent ⟨ns, browseName⟩) ?_
  simp only [treeSystem]
  rw [if_pos hparent]

/-- Below an unknown node browsing throws. -/
theorem browse_unknown (hparent : ¬ known clientFolder nodes parent = true) {ns : UInt16} :
    alone (treeSystem clientFolder) () (tryBrowseChild parent ns browseName) nodes = none := by
  simp [tryBrowseChild, ask, alone, treeSystem, hparent]

/-- The node a step adds. -/
def newNode (parent id : NodeId) (browseName : String) (attributes : NodeAttributes) : TreeNode :=
  ⟨id, parent, ⟨id.namespaceIndex, browseName⟩, attributes⟩

theorem add_alone (hparent : known clientFolder nodes parent = true) (hfree : known clientFolder nodes id = false) :
    alone (treeSystem clientFolder) () (addNode parent id browseName attributes) nodes =
      some (id, nodes ++ [newNode parent id browseName attributes]) := by
  refine alone_ask (c := CreateCall.addNode _ attributes) ?_
  simp only [treeSystem, NodeId.expanded, hparent, hfree]
  rfl

theorem ensure_found (hparent : known clientFolder nodes parent = true) {found : NodeId}
    (h : child nodes parent ⟨id.namespaceIndex, browseName⟩ = some found) :
    alone (treeSystem clientFolder) () (ensureChild parent id browseName attributes) nodes = some (found, nodes) := by
  rw [ensureChild, alone_bind, browse_alone hparent, h]
  rfl

theorem ensure_added (hparent : known clientFolder nodes parent = true) (hfree : known clientFolder nodes id = false)
    (h : child nodes parent ⟨id.namespaceIndex, browseName⟩ = none) :
    alone (treeSystem clientFolder) () (ensureChild parent id browseName attributes) nodes =
      some (id, nodes ++ [newNode parent id browseName attributes]) := by
  rw [ensureChild, alone_bind, browse_alone hparent, h]
  exact add_alone hparent hfree

theorem browse_crashes {ns : UInt16} {left : List TreeNode}
    (h : Crashes (treeSystem clientFolder) () (tryBrowseChild parent ns browseName) nodes left) : left = nodes := by
  rcases crashes_ask h with h | h | ⟨_, h⟩
  · exact h
  · simp only [treeSystem] at h
    split at h
    · cases h
    · exact (Served.fails.inj h).symm
  · simp only [treeSystem] at h
    split at h
    · exact (Served.answers.inj h).2.symm
    · cases h

theorem add_crashes {left : List TreeNode}
    (h : Crashes (treeSystem clientFolder) () (addNode parent id browseName attributes) nodes left) :
    left = nodes ∨ left = nodes ++ [newNode parent id browseName attributes] := by
  rcases crashes_ask h with h | h | ⟨_, h⟩
  · exact .inl h
  · simp only [treeSystem] at h
    split at h
    · cases h
    · exact .inl (Served.fails.inj h).symm
  · simp only [treeSystem] at h
    split at h
    · exact .inr (Served.answers.inj h).2.symm
    · cases h

/-- What a step finds: below a node that is not there, nothing. -/
def look (clientFolder parent : NodeId) (name : QualifiedName) (nodes : List TreeNode) : Option NodeId :=
  if known clientFolder nodes parent then child nodes parent name else none

theorem look_some_iff {name : QualifiedName} {found : NodeId} :
    look clientFolder parent name nodes = some found ↔
      known clientFolder nodes parent = true ∧ child nodes parent name = some found := by
  unfold look
  by_cases hparent : known clientFolder nodes parent = true
  · rw [if_pos hparent, and_iff_right hparent]
  · rw [if_neg hparent]
    constructor
    · intro h
      cases h
    · intro h
      exact absurd h.1 hparent

theorem look_mono {name : QualifiedName} {found : NodeId} (hgrows : nodes <+: nodes')
    (h : look clientFolder parent name nodes = some found) : look clientFolder parent name nodes' = some found := by
  obtain ⟨hparent, hfind⟩ := look_some_iff.mp h
  exact look_some_iff.mpr ⟨known_mono hgrows hparent, child_mono hgrows hfind⟩

/-- A step that finds its node adds nothing, wherever it is left. -/
theorem ensureChild_finds {found : NodeId} (h : look clientFolder parent ⟨id.namespaceIndex, browseName⟩ nodes = some found) :
    alone (treeSystem clientFolder) () (ensureChild parent id browseName attributes) nodes = some (found, nodes) ∧
      ∀ left, Crashes (treeSystem clientFolder) () (ensureChild parent id browseName attributes) nodes left → left = nodes := by
  obtain ⟨hparent, hfind⟩ := look_some_iff.mp h
  refine ⟨ensure_found hparent hfind, fun left hcrash => ?_⟩
  rcases crashes_bind hcrash with hcrash | ⟨answer, nodes', hbrowse, hcrash⟩
  · exact browse_crashes hcrash
  · rw [browse_alone hparent, hfind] at hbrowse
    obtain ⟨rfl, rfl⟩ := Prod.mk.inj (Option.some.inj hbrowse)
    -- nothing is left to do that may throw
    cases hcrash with
    | here h => cases h

/-- A step that finds none and returns has added it. -/
theorem ensureChild_adds (h : look clientFolder parent ⟨id.namespaceIndex, browseName⟩ nodes = none) {added : NodeId}
    (halone : alone (treeSystem clientFolder) () (ensureChild parent id browseName attributes) nodes = some (added, nodes')) :
    nodes' = nodes ++ [newNode parent id browseName attributes] ∧
      look clientFolder parent ⟨id.namespaceIndex, browseName⟩ nodes' = some added := by
  by_cases hparent : known clientFolder nodes parent = true
  · rw [look, if_pos hparent] at h
    cases hfree : known clientFolder nodes id with
    | true =>
      rw [ensureChild, alone_bind, browse_alone hparent, h, Option.bind_some] at halone
      simp [addNode, ask, alone, treeSystem, NodeId.expanded, hparent, hfree] at halone
    | false =>
      rw [ensure_added hparent hfree h] at halone
      obtain ⟨rfl, rfl⟩ := Prod.mk.inj (Option.some.inj halone)
      exact ⟨rfl, look_some_iff.mpr ⟨known_mono (List.prefix_append _ _) hparent, child_added h⟩⟩
  · rw [ensureChild, alone_bind, browse_unknown hparent] at halone
    cases halone

/-- A step that finds none and is left has added it, or nothing. -/
theorem ensureChild_left (h : look clientFolder parent ⟨id.namespaceIndex, browseName⟩ nodes = none) {left : List TreeNode}
    (hcrash : Crashes (treeSystem clientFolder) () (ensureChild parent id browseName attributes) nodes left) :
    left = nodes ∨ left = nodes ++ [newNode parent id browseName attributes] := by
  rcases crashes_bind hcrash with hcrash | ⟨answer, nodes', hbrowse, hcrash⟩
  · exact .inl (browse_crashes hcrash)
  · by_cases hparent : known clientFolder nodes parent = true
    · rw [look, if_pos hparent] at h
      rw [browse_alone hparent, h] at hbrowse
      obtain ⟨rfl, rfl⟩ := Prod.mk.inj (Option.some.inj hbrowse)
      exact add_crashes hcrash
    · rw [browse_unknown hparent] at hbrowse
      cases hbrowse

/-- Every step can be run again. -/
theorem ensureChild_resumes (clientFolder parent id : NodeId) (browseName : String) (attributes : NodeAttributes) :
    Resumes (treeSystem clientFolder) () (ensureChild parent id browseName attributes) :=
  Resumes.findOrAdd (look clientFolder parent ⟨id.namespaceIndex, browseName⟩) (newNode parent id browseName attributes) look_mono
    ensureChild_finds fun hnone => ⟨fun _ _ halone => ensureChild_adds hnone halone, fun _ hcrash => ensureChild_left hnone hcrash⟩

/-! ## All steps -/

theorem ensureSnapshotNode_resumes (clientFolder : NodeId) (deviceName deviceKey : String) (ns : UInt16) (sensorDtoType : NodeId) :
    Resumes (treeSystem clientFolder) () (ensureSnapshotNode clientFolder deviceName deviceKey ns sensorDtoType) := by
  simp only [ensureSnapshotNode, ensureObject_eq, ensureStringVar_eq, ensureSensors_eq]
  refine Resumes.bind (ensureChild_resumes _ _ _ _ _) fun obj => ?_
  refine Resumes.bind (ensureChild_resumes _ _ _ _ _) fun name => ?_
  refine Resumes.bind (ensureChild_resumes _ _ _ _ _) fun vendor => ?_
  refine Resumes.bind (ensureChild_resumes _ _ _ _ _) fun hardwareType => ?_
  exact Resumes.bind (ensureChild_resumes _ _ _ _ _) fun sensors => Resumes.done _

/-- Nothing unrelated has one of the ids: where the browsing finds no node, the id is free. -/
structure Unoccupied (clientFolder : NodeId) (deviceName deviceKey : String) (ns : UInt16) (nodes : List TreeNode) : Prop where
  object : child nodes clientFolder ⟨ns, deviceKey⟩ = none → known clientFolder nodes (objectId deviceName deviceKey ns) = false
  fields : ∀ field ∈ ["name", "vendor", "hardware_type", "sensors"],
    child nodes ((child nodes clientFolder ⟨ns, deviceKey⟩).getD (objectId deviceName deviceKey ns)) ⟨ns, field⟩ = none →
      known clientFolder nodes (fieldId deviceName deviceKey field ns) = false

/-- The nodes added since have these ids. -/
def AddedSince (nodes : List TreeNode) (ids : List NodeId) (nodes' : List TreeNode) : Prop :=
  ∃ added, nodes' = nodes ++ added ∧ ∀ n ∈ added, n.nodeId ∈ ids

/-- A step gets through where no node of another has taken its id. -/
theorem ensureChild_runs {ids : List NodeId} (hadded : AddedSince nodes ids nodes') (hparent : known clientFolder nodes' parent = true)
    (hfree : child nodes parent ⟨id.namespaceIndex, browseName⟩ = none → known clientFolder nodes id = false) (hnew : id ∉ ids) :
    ∃ final, alone (treeSystem clientFolder) () (ensureChild parent id browseName attributes) nodes' =
        some ((child nodes' parent ⟨id.namespaceIndex, browseName⟩).getD id, final) ∧
      AddedSince nodes (id :: ids) final ∧ nodes' <+: final ∧
      known clientFolder final ((child nodes' parent ⟨id.namespaceIndex, browseName⟩).getD id) = true := by
  obtain ⟨added, rfl, hids⟩ := hadded
  cases hchild : child (nodes ++ added) parent ⟨id.namespaceIndex, browseName⟩ with
  | some found =>
    refine ⟨_, ensure_found hparent hchild, ⟨added, rfl, fun n hn => List.mem_cons_of_mem _ (hids n hn)⟩,
      List.prefix_refl _, ?_⟩
    -- what browsing finds is a node of the tree
    unfold child at hchild
    obtain ⟨n, hfind, rfl⟩ := Option.map_eq_some_iff.mp hchild
    have hany : (nodes ++ added).any (fun m => decide (m.nodeId = n.nodeId)) = true :=
      List.any_eq_true.mpr ⟨n, List.mem_of_find?_eq_some hfind, decide_eq_true rfl⟩
    rw [Option.getD_some, known, hany, Bool.or_true]
  | none =>
    have hnone : child nodes parent ⟨id.namespaceIndex, browseName⟩ = none := by
      cases hbefore : child nodes parent ⟨id.namespaceIndex, browseName⟩ with
      | none => rfl
      | some found =>
        rw [child_mono (List.prefix_append nodes added) hbefore] at hchild
        cases hchild
    have hunknown : known clientFolder (nodes ++ added) id = false := by
      have hbefore := hfree hnone
      unfold known at hbefore ⊢
      rw [Bool.or_eq_false_iff] at hbefore ⊢
      refine ⟨hbefore.1, ?_⟩
      rw [List.any_append, hbefore.2, Bool.false_or, List.any_eq_false]
      intro n hn
      rw [decide_eq_true_eq]
      exact fun heq => hnew (heq ▸ hids n hn)
    refine ⟨_, ensure_added hparent hunknown hchild, ⟨added ++ [newNode parent id browseName attributes],
      List.append_assoc _ _ _, fun n hn => ?_⟩, List.prefix_append _ _, ?_⟩
    · rcases List.mem_append.mp hn with hn | hn
      · exact List.mem_cons_of_mem _ (hids n hn)
      · rw [List.mem_singleton.mp hn]
        exact List.mem_cons_self
    · rw [Option.getD_none, known, List.any_append]
      simp [newNode]

@[simp] theorem fieldId_inj (deviceName deviceKey f g : String) (ns : UInt16) :
    fieldId deviceName deviceKey f ns = fieldId deviceName deviceKey g ns ↔ f = g := by
  constructor
  · intro h
    have hs : snapshotFieldId deviceName deviceKey f = snapshotFieldId deviceName deviceKey g :=
      Identifier.string.inj (congrArg NodeId.identifier h)
    exact (String.append_right_inj _).mp hs
  · intro h
    rw [h]

/-- A variable's id is longer than its object's. -/
@[simp] theorem fieldId_ne_objectId (deviceName deviceKey field : String) (ns : UInt16) :
    fieldId deviceName deviceKey field ns ≠ objectId deviceName deviceKey ns := by
  intro h
  have hs : snapshotFieldId deviceName deviceKey field = snapshotObjectId deviceName deviceKey :=
    Identifier.string.inj (congrArg NodeId.identifier h)
  have hlength := congrArg String.length hs
  have hdot : (".").length = 1 := rfl
  simp only [snapshotFieldId, snapshotObjectId, String.length_append, hdot] at hlength
  omega

/-- An attempt that nobody leaves gets through. -/
theorem ensureSnapshotNode_runs {deviceName deviceKey : String} {ns : UInt16} (sensorDtoType : NodeId)
    (h : Unoccupied clientFolder deviceName deviceKey ns nodes) :
    ∃ ids final, alone (treeSystem clientFolder) () (ensureSnapshotNode clientFolder deviceName deviceKey ns sensorDtoType) nodes =
      some (ids, final) := by
  let objId := objectId deviceName deviceKey ns
  let obj := (child nodes clientFolder ⟨ns, deviceKey⟩).getD objId
  have hobject : ∃ final, alone (treeSystem clientFolder) () (ensureChild clientFolder objId deviceKey .object) nodes =
      some (obj, final) ∧ AddedSince nodes [objId] final ∧ nodes <+: final ∧ known clientFolder final obj = true :=
    ensureChild_runs ⟨[], (List.append_nil nodes).symm, List.forall_mem_nil _⟩ (by simp [known]) h.object List.not_mem_nil
  have hfield : ∀ field ∈ ["name", "vendor", "hardware_type", "sensors"], ∀ attributes ids nodes', AddedSince nodes ids nodes' →
      known clientFolder nodes' obj = true → fieldId deviceName deviceKey field ns ∉ ids →
      ∃ found final, alone (treeSystem clientFolder) ()
          (ensureChild obj (fieldId deviceName deviceKey field ns) field attributes) nodes' = some (found, final) ∧
        AddedSince nodes (fieldId deviceName deviceKey field ns :: ids) final ∧ known clientFolder final obj = true := by
    intro field hmem attributes ids nodes' hadded hparent hnew
    obtain ⟨final, halone, hadded', hgrows, -⟩ :=
      ensureChild_runs hadded hparent (h.fields field hmem) hnew
    exact ⟨_, final, halone, hadded', known_mono hgrows hparent⟩
  obtain ⟨withObject, hobject, haddedObject, -, hknown⟩ := hobject
  obtain ⟨name, withName, hname, haddedName, hknown⟩ :=
    hfield "name" (by simp) stringAttributes _ _ haddedObject hknown (by simp [objId])
  obtain ⟨vendor, withVendor, hvendor, haddedVendor, hknown⟩ :=
    hfield "vendor" (by simp) stringAttributes _ _ haddedName hknown (by simp [objId])
  obtain ⟨hardwareType, withType, htype, haddedType, hknown⟩ :=
    hfield "hardware_type" (by simp) stringAttributes _ _ haddedVendor hknown (by simp [objId])
  obtain ⟨sensors, final, hsensors, -, -⟩ :=
    hfield "sensors" (by simp) (arrayAttributes sensorDtoType) _ _ haddedType hknown (by simp [objId])
  simp only [ensureSnapshotNode, ensureObject_eq, ensureStringVar_eq, ensureSensors_eq, alone_bind]
  rw [hobject, Option.bind_some, hname, Option.bind_some, hvendor, Option.bind_some, htype, Option.bind_some, hsensors,
    Option.bind_some]
  exact ⟨_, _, rfl⟩

/-- Wherever attempts for a device have been left, and however often: an attempt that
    nobody leaves ends with the tree and the ids of a single one, adding what is missing;
    and one more adds nothing. -/
theorem creation_resumes (clientFolder : NodeId) (deviceName deviceKey : String) (ns : UInt16) (sensorDtoType : NodeId)
    (nodes : List TreeNode) (h : Unoccupied clientFolder deviceName deviceKey ns nodes) :
    let server := treeSystem clientFolder
    let attempt := ensureSnapshotNode clientFolder deviceName deviceKey ns sensorDtoType
    let added (t : List TreeNode) : List TreeNode := (asked server () attempt t).filterMap CreateCall.node
    ∃ ids final, alone server () attempt nodes = some (ids, final) ∧
      (∀ left, Relation.ReflTransGen (Crashes server () attempt) nodes left →
        alone server () attempt left = some (ids, final) ∧ final = left ++ added left) ∧
      alone server () attempt final = some (ids, final) ∧ added final = [] := by
  intro server attempt added
  have hresumes : Resumes server () attempt := ensureSnapshotNode_resumes clientFolder deviceName deviceKey ns sensorDtoType
  obtain ⟨ids, final, halone⟩ := ensureSnapshotNode_runs sensorDtoType h
  have hagain : alone server () attempt final = some (ids, final) := hresumes.repeated halone (List.prefix_refl _)
  refine ⟨ids, final, halone, fun left hleft => ?_, hagain, ?_⟩
  · obtain ⟨-, -, hleft⟩ := hresumes.restarts halone hleft
    exact ⟨hleft, alone_adds hleft⟩
  · have hsame := alone_adds hagain
    exact List.append_right_eq_self.mp hsame.symm

/-- The first device of `plc`, on a server that has nothing yet. -/
theorem creation_resumes_plc :
    let clientFolder : NodeId := ⟨1, .string "plc"⟩
    let attempt := ensureSnapshotNode clientFolder "plc" "CPU" 1 ⟨1, .string "SensorDto"⟩
    ∃ ids final, alone (treeSystem clientFolder) () attempt [] = some (ids, final) ∧ final.length = 5 ∧
      ∀ left, Relation.ReflTransGen (Crashes (treeSystem clientFolder) () attempt) [] left →
        alone (treeSystem clientFolder) () attempt left = some (ids, final) := by
  intro clientFolder attempt
  obtain ⟨ids, final, halone, hleft, -⟩ := creation_resumes clientFolder "plc" "CPU" 1 ⟨1, .string "SensorDto"⟩ []
    ⟨fun _ => by decide, by decide⟩
  have hfive : (alone (treeSystem clientFolder) () attempt []).map (·.2.length) = some 5 := by decide
  refine ⟨ids, final, halone, ?_, fun left hcrashes => (hleft left hcrashes).1⟩
  rw [halone] at hfive
  exact Option.some.inj hfive

end HardwareMonitor.SystemInfo.Creation
