/-
  HardwareMonitor.OpcUa.PublishedTree — the nodes the clients have created, after any
  run of requests.

  AddNodes is carried out by the server framework: it asks `allowAddNode`, and creates
  the node unless its id is taken. Nodes are never deleted or moved (`allowDeleteNode`
  refuses everything), so the tree only grows, each node goes back to one granted
  request (`mem_nodes_iff`), and ids stay unique (`nodes_nodup`).

  The intended shape is `…/TelemetryClients/<device_name>/<device_name>.…`. A run keeps
  it exactly if none of its requests is `Misplaced` (`shaped_iff`): the guard looks
  neither at the namespace nor at which of the two forms of id goes under which parent.
-/

import Mathlib.Data.List.Nodup
import HardwareMonitor.OpcUa.Isolation

namespace HardwareMonitor.OpcUa

/-! ## The server -/

/-- A node some session created; `creator` is the `device_name` of that session. -/
structure PublishedNode where
  nodeId : NodeId
  parent : NodeId
  browseName : QualifiedName
  creator : String
  deriving DecidableEq, Repr

structure Server where
  sessions : SessionAttributes
  nodes : List PublishedNode

def Server.start : Server := ⟨SessionAttributes.empty, []⟩

/-- A node id that names a node already. -/
def Server.taken (telemetryClientsFolder : NodeId) (srv : Server) (id : NodeId) : Bool :=
  decide (id = telemetryClientsFolder) || (srv.nodes.map (·.nodeId)).contains id

/-- The node a call creates: an AddNodes request that is allowed, for an id not taken. -/
def Server.created (telemetryClientsFolder : NodeId) (srv : Server) (s : NodeId) : Operation → Option PublishedNode
  | .allowAddNode item =>
    if (allowAddNode telemetryClientsFolder s item srv.sessions).1 &&
        !srv.taken telemetryClientsFolder item.requestedNewNodeId.nodeId then
      (srv.sessions s).map fun attrs =>
        { nodeId := item.requestedNewNodeId.nodeId
          parent := item.parentNodeId.nodeId
          browseName := item.browseName
          creator := attrs.deviceName }
    else none
  | _ => none

/-- One call, on the whole server. -/
def Server.handle (telemetryClientsFolder : NodeId) (srv : Server) (e : NodeId × Operation) : Server where
  sessions := (step telemetryClientsFolder e.1 e.2 srv.sessions).2
  nodes := srv.nodes ++ (srv.created telemetryClientsFolder e.1 e.2).toList

def serverAfter (telemetryClientsFolder : NodeId) (es : Run) : Server :=
  es.foldl (Server.handle telemetryClientsFolder) Server.start

variable (folder : NodeId)

theorem serverAfter_snoc (es : Run) (e : NodeId × Operation) :
    serverAfter folder (es ++ [e]) = (serverAfter folder es).handle folder e := by
  rw [serverAfter, List.foldl_append]
  rfl

/-- The server's sessions are those of the access control. -/
theorem serverAfter_sessions (es : Run) : (serverAfter folder es).sessions = tableAfter folder es := by
  induction es using List.reverseRecOn with
  | nil => rfl
  | append_singleton es e ih =>
    rw [serverAfter_snoc, tableAfter, Lib.KeyedMachine.exec_snoc]
    show (step folder e.1 e.2 (serverAfter folder es).sessions).2 = _
    rw [ih]
    rfl

/-! ## Where a node comes from -/

/-- A request that creates a node: it is for an id of the session's device, under
    TelemetryClients or a parent the session holds, and the id is not taken. -/
structure Creates (es : Run) (s : NodeId) (item : AddNodesItem) (seat : Seat) : Prop where
  seated : seatAfter folder es s = some seat
  owned : nodeIdBelongsToDevice item.requestedNewNodeId.nodeId seat.device = true
  under : item.parentNodeId.nodeId = folder ∨ seat.holds item.parentNodeId.nodeId = true
  fresh : (serverAfter folder es).taken folder item.requestedNewNodeId.nodeId = false

/-- The node such a request creates. -/
def publishedNode (item : AddNodesItem) (seat : Seat) : PublishedNode :=
  { nodeId := item.requestedNewNodeId.nodeId
    parent := item.parentNodeId.nodeId
    browseName := item.browseName
    creator := seat.device }

/-- A call creates a node exactly if it is an AddNodes request that `Creates` it. -/
theorem created_eq_some_iff (es : Run) (s : NodeId) (o : Operation) (n : PublishedNode) :
    (serverAfter folder es).created folder s o = some n ↔
      ∃ item seat, o = .allowAddNode item ∧ Creates folder es s item seat ∧ n = publishedNode item seat := by
  cases o with
  | allowAddNode item =>
    have hallowed : (allowAddNode folder s item (tableAfter folder es)).1 = true ↔
        replyTo folder es s (.allowAddNode item) = .verdict true := by
      simp [replyTo, step]
    simp only [Server.created, serverAfter_sessions]
    constructor
    · intro h
      rw [Option.ite_none_right_eq_some, Bool.and_eq_true, Bool.not_eq_true'] at h
      obtain ⟨⟨hok, hfresh⟩, hn⟩ := h
      obtain ⟨seat, hseat, hreq, hparent⟩ := (addNode_allowed_iff _ _ _ _).mp (hallowed.mp hok)
      obtain ⟨attrs, hattrs, hdev, -⟩ := entry_of_seat hseat
      rw [hattrs, Option.map_some, Option.some.injEq] at hn
      exact ⟨item, seat, rfl, ⟨hseat, hreq, hparent, hfresh⟩, by rw [← hn, publishedNode, hdev]⟩
    · intro h
      obtain ⟨item', seat, ho, hc, rfl⟩ := h
      obtain rfl : item = item' := by simpa using ho
      have hok := (addNode_allowed_iff folder es s item).mpr ⟨seat, hc.seated, hc.owned, hc.under⟩
      obtain ⟨attrs, hattrs, hdev, -⟩ := entry_of_seat hc.seated
      rw [if_pos (by rw [hallowed.mpr hok, hc.fresh]; rfl), hattrs, Option.map_some, publishedNode, hdev]
  | _ => simp [Server.created]

theorem nodes_snoc (es : Run) (e : NodeId × Operation) :
    (serverAfter folder (es ++ [e])).nodes =
      (serverAfter folder es).nodes ++ ((serverAfter folder es).created folder e.1 e.2).toList := by
  rw [serverAfter_snoc]
  rfl

/-- Every node was created by a request of the run, and every such request created one. -/
theorem mem_nodes_iff (es : Run) (n : PublishedNode) :
    n ∈ (serverAfter folder es).nodes ↔
      ∃ pre s item post seat, es = pre ++ (s, .allowAddNode item) :: post ∧ Creates folder pre s item seat ∧
        n = publishedNode item seat := by
  induction es using List.reverseRecOn with
  | nil => simp [serverAfter, Server.start]
  | append_singleton es e ih =>
    rw [nodes_snoc, List.mem_append, ih, Option.mem_toList]
    constructor
    · intro h
      rcases h with ⟨pre, s, item, post, seat, rfl, hc, hn⟩ | h
      · exact ⟨pre, s, item, post ++ [e], seat, by simp, hc, hn⟩
      · obtain ⟨item, seat, ho, hc, hn⟩ := (created_eq_some_iff folder es e.1 e.2 n).mp h
        exact ⟨es, e.1, item, [], seat, by rw [← ho], hc, hn⟩
    · intro h
      obtain ⟨pre, s, item, post, seat, hes, hc, hn⟩ := h
      rcases List.eq_nil_or_concat post with rfl | ⟨post', e', rfl⟩
      · obtain ⟨rfl, he⟩ := List.append_inj' hes rfl
        obtain rfl : e = (s, .allowAddNode item) := by simpa using he
        exact Or.inr ((created_eq_some_iff folder es s _ n).mpr ⟨item, seat, rfl, hc, hn⟩)
      · rw [List.concat_eq_append, ← List.cons_append, ← List.append_assoc] at hes
        obtain ⟨hes, -⟩ := List.append_inj' hes rfl
        exact Or.inl ⟨pre, s, item, post', seat, hes, hc, hn⟩

/-- No two nodes share an id, and none has the id of TelemetryClients. -/
theorem nodes_nodup (es : Run) :
    ((serverAfter folder es).nodes.map (·.nodeId)).Nodup ∧ ∀ n ∈ (serverAfter folder es).nodes, n.nodeId ≠ folder := by
  induction es using List.reverseRecOn with
  | nil => simp [serverAfter, Server.start]
  | append_singleton es e ih =>
    rw [nodes_snoc]
    cases hc : (serverAfter folder es).created folder e.1 e.2 with
    | none => simpa using ih
    | some n =>
      obtain ⟨item, seat, -, hcr, rfl⟩ := (created_eq_some_iff folder es e.1 e.2 n).mp hc
      have hfresh := hcr.fresh
      rw [Server.taken, Bool.or_eq_false_iff, decide_eq_false_iff_not, List.contains_eq_mem, decide_eq_false_iff_not]
        at hfresh
      obtain ⟨hne, hnot⟩ := hfresh
      rw [Option.toList_some, List.map_append, List.nodup_append]
      refine ⟨⟨ih.1, List.nodup_singleton _, fun a ha b hb => ?_⟩, fun n hn => ?_⟩
      · rw [List.map_singleton, List.mem_singleton] at hb
        intro hab
        apply hnot
        rwa [hab, hb] at ha
      · rcases List.mem_append.mp hn with hn | hn
        · exact ih.2 n hn
        · rw [List.mem_singleton.mp hn]
          exact hne

/-- A node is known by its id. -/
theorem node_unique {es : Run} {n m : PublishedNode} (hn : n ∈ (serverAfter folder es).nodes)
    (hm : m ∈ (serverAfter folder es).nodes) (h : n.nodeId = m.nodeId) : n = m :=
  List.inj_on_of_nodup_map (nodes_nodup folder es).1 hn hm h

/-! ## Parents and children -/

theorem node_owned {es : Run} {n : PublishedNode} (hn : n ∈ (serverAfter folder es).nodes) :
    nodeIdBelongsToDevice n.nodeId n.creator = true := by
  obtain ⟨pre, s, item, post, seat, -, hc, rfl⟩ := (mem_nodes_iff folder es n).mp hn
  exact hc.owned

/-- Whoever creates a node below another owns that other's id too. -/
theorem parent_owned {es : Run} {n p : PublishedNode} (hn : n ∈ (serverAfter folder es).nodes)
    (hp : p ∈ (serverAfter folder es).nodes) (h : n.parent = p.nodeId) :
    nodeIdBelongsToDevice p.nodeId n.creator = true := by
  obtain ⟨pre, s, item, post, seat, -, hc, rfl⟩ := (mem_nodes_iff folder es n).mp hn
  have hpar : item.parentNodeId.nodeId = p.nodeId := h
  rcases hc.under with hu | hu
  · exact absurd (hpar.symm.trans hu) ((nodes_nodup folder es).2 p hp)
  · rw [hpar] at hu
    rcases (holds_iff hc.seated _).mp hu with hu | ⟨hnull, -⟩
    · exact hu
    · -- the null id is nobody's, so it is not `p`'s
      have hown := node_owned folder hp
      rw [hnull, null_not_belongs] at hown
      cases hown

/-- So the two creators are one device, or one name is a dotted prefix of the other. -/
theorem creator_of_child {es : Run} {n p : PublishedNode} (hn : n ∈ (serverAfter folder es).nodes)
    (hp : p ∈ (serverAfter folder es).nodes) (h : n.parent = p.nodeId) :
    n.creator = p.creator ∨ DottedPrefix p.creator n.creator ∨ DottedPrefix n.creator p.creator := by
  by_cases hcr : p.creator = n.creator
  · exact Or.inl hcr.symm
  · exact Or.inr (dotted_of_belongs hcr (node_owned folder hp) (parent_owned folder hn hp h))

/-! ## The intended shape -/

/-- Directly under TelemetryClients, the client's own folder; elsewhere, an id below it. -/
def WellPlaced (n : PublishedNode) : Prop :=
  (n.parent = folder → n.nodeId = ⟨telemetryNamespaceIndex, .string (clientFolderId n.creator)⟩) ∧
    (n.parent ≠ folder → n.nodeId.namespaceIndex = telemetryNamespaceIndex ∧
      ∃ rest, rest ≠ "" ∧ n.nodeId.identifier = .string (n.creator ++ "." ++ rest))

/-- Every node is well placed, and no device has two nodes under TelemetryClients. -/
structure Shaped (nodes : List PublishedNode) : Prop where
  placed : ∀ n ∈ nodes, WellPlaced folder n
  single : ∀ n ∈ nodes, ∀ m ∈ nodes, n.parent = folder → m.parent = folder → n.creator = m.creator → n = m

/-- A request asks for the intended shape: the telemetry namespace, and the device's own
    name exactly if the parent is TelemetryClients. -/
def Conforms (d : String) (item : AddNodesItem) : Prop :=
  item.requestedNewNodeId.nodeId.namespaceIndex = telemetryNamespaceIndex ∧
    (item.requestedNewNodeId.nodeId.identifier = .string d ↔ item.parentNodeId.nodeId = folder)

/-- A request for a new id of the session's device, under a parent the session may use,
    that does not conform. -/
def Misplaced (pre : Run) (s : NodeId) (item : AddNodesItem) : Prop :=
  ∃ seat, Creates folder pre s item seat ∧ ¬ Conforms folder seat.device item

theorem dotted_ne (d : String) {rest : String} (h : rest ≠ "") : d ++ "." ++ rest ≠ d := by
  intro e
  have hl := congrArg String.length e
  rw [String.length_append, String.length_append] at hl
  have hp : rest.length ≠ 0 := fun h0 => h (String.length_eq_zero_iff.mp h0)
  omega

/-- The node of a request is well placed exactly if the request conforms. -/
theorem wellPlaced_iff_conforms {item : AddNodesItem} {seat : Seat}
    (h : nodeIdBelongsToDevice item.requestedNewNodeId.nodeId seat.device = true) :
    WellPlaced folder (publishedNode item seat) ↔ Conforms folder seat.device item := by
  unfold WellPlaced Conforms publishedNode clientFolderId
  generalize item.requestedNewNodeId.nodeId = id at h ⊢
  obtain ⟨ns, ident⟩ := id
  rcases (belongs_iff _ _).mp h with hid | ⟨rest, hne, hid⟩
  · -- the device's own name
    have hno : ∀ rest, rest ≠ "" → ¬ Identifier.string seat.device = .string (seat.device ++ "." ++ rest) := by
      intro rest hne e
      exact dotted_ne seat.device hne (Identifier.string.inj e).symm
    simp only at hid
    subst hid
    by_cases hp : item.parentNodeId.nodeId = folder
    · simp [hp]
    · simp only [hp, false_implies, true_and, ne_eq, not_false_eq_true, true_implies, iff_false, not_true_eq_false,
        and_false]
      intro h
      obtain ⟨-, rest, hne, e⟩ := h
      exact hno rest hne e
  · have hno : ¬ Identifier.string (seat.device ++ "." ++ rest) = .string seat.device :=
      fun e => dotted_ne seat.device hne (Identifier.string.inj e)
    simp only at hid
    subst hid
    by_cases hp : item.parentNodeId.nodeId = folder
    · simp [hp, hno]
    · simp only [hp, false_implies, true_and, ne_eq, not_false_eq_true, true_implies, hno, iff_self, and_true]
      exact ⟨fun h => h.1, fun h => ⟨h, rest, hne, rfl⟩⟩

/-- The published tree has the intended shape exactly if no request of the run was
    misplaced. -/
theorem shaped_iff (es : Run) :
    Shaped folder (serverAfter folder es).nodes ↔
      ∀ pre s item post, es = pre ++ (s, .allowAddNode item) :: post → ¬ Misplaced folder pre s item := by
  constructor
  · intro h pre s item post hes hmis
    obtain ⟨seat, hc, hno⟩ := hmis
    have hmem := (mem_nodes_iff folder es _).mpr ⟨pre, s, item, post, seat, hes, hc, rfl⟩
    exact hno ((wellPlaced_iff_conforms folder hc.owned).mp (h.placed _ hmem))
  · intro h
    have hplaced : ∀ n ∈ (serverAfter folder es).nodes, WellPlaced folder n := by
      intro n hn
      obtain ⟨pre, s, item, post, seat, hes, hc, rfl⟩ := (mem_nodes_iff folder es n).mp hn
      refine (wellPlaced_iff_conforms folder hc.owned).mpr ?_
      by_contra hno
      exact h pre s item post hes ⟨seat, hc, hno⟩
    refine ⟨hplaced, fun n hn m hm hnp hmp hcr => ?_⟩
    refine node_unique folder hn hm ?_
    rw [(hplaced n hn).1 hnp, (hplaced m hm).1 hmp, hcr]

/-- `plc` publishes `plc.cpu` directly under TelemetryClients, beside its folder. -/
theorem two_nodes_under_clients :
    let es := loggedIn "plc" ++
      [(session 1, .allowAddNode (underClients "plc")), (session 1, .allowAddNode (underClients "plc.cpu"))]
    ¬ Shaped telemetryClientsFolderId (serverAfter telemetryClientsFolderId es).nodes := by
  intro es h
  have hmem : ⟨⟨1, .string "plc.cpu"⟩, telemetryClientsFolderId, ⟨1, "plc.cpu"⟩, "plc"⟩ ∈
      (serverAfter telemetryClientsFolderId es).nodes := by decide
  have hid := (h.placed _ hmem).1 rfl
  exact absurd hid (by decide)

end HardwareMonitor.OpcUa
