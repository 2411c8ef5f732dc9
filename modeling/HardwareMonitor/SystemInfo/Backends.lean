/-
  HardwareMonitor.SystemInfo.Backends — any number of backend processes against one
  server.

  A process is one life of a backend: a session, a `client_name_` and fresh memory. A
  backend that is restarted is another process under the same name. The server is the
  access control's run of calls (`serverAfter` of it) and the values written. A run is a
  list of events: a process enters `addNodes` or `sendTelemetryPayload`, its next call is
  served or throws, a worker pushes a snapshot, or another call reaches the plug-in. A
  process that is killed has no events from then on.

  A request the server refuses for want of rights, other than AddNodes, is one that
  throws: the model may always let it succeed.
-/

import HardwareMonitor.OpcUa.PublishedTree
import HardwareMonitor.SystemInfo.Publishing

namespace HardwareMonitor.SystemInfo

open HardwareMonitor.OpcUa
open HardwareMonitor.ControlCenter (Variant ExtensionObject SnapshotNodeIds)
open HardwareMonitor.Lib.Interaction

/-! ## The state -/

/-- What a process is started with. -/
structure Launch where
  session : NodeId
  clientName : String
  deriving DecidableEq, Repr

/-- The memory of a process. The source keeps neither of the last two. -/
structure Backend where
  queue : ClientQueue
  clientFolder : Option NodeId
  deviceNodes : String → Option SnapshotNodeIds
  /-- The snapshots the queue has accepted. -/
  accepted : List TelemetrySnapshot
  trace : List Mark

def Backend.start : Backend := ⟨.empty, none, fun _ => none, [], []⟩

def Backend.mark (b : Backend) (m : Mark) : Backend := { b with trace := b.trace ++ [m] }

/-- `device_nodes_.emplace`: a key that is there keeps its node set. -/
def Backend.emplace (b : Backend) (deviceKey : String) (ids : SnapshotNodeIds) : Backend :=
  { b with deviceNodes := fun key => if key = deviceKey then some ((b.deviceNodes key).getD ids) else b.deviceNodes key }

/-- `queue_->push(snapshot)`, called by a worker. -/
def Backend.push (b : Backend) (snapshot : TelemetrySnapshot) : Backend :=
  { b with queue := b.queue.push snapshot
           accepted := if b.queue.shuttingDown then b.accepted else b.accepted ++ [snapshot] }

/-! ## Reading a trace -/

/-- The snapshots `p` has begun to write, each with the node set it is written to. -/
def writes (b : Backend) : List (SnapshotNodeIds × TelemetrySnapshot) :=
  b.trace.filterMap fun m =>
    match m with
    | .writes ids snapshot => some (ids, snapshot)
    | _ => none

namespace Backend

/-- Those `writeSnapshot` has returned for. -/
def wrote (b : Backend) : List (SnapshotNodeIds × TelemetrySnapshot) :=
  b.trace.filterMap fun m =>
    match m with
    | .wrote ids snapshot => some (ids, snapshot)
    | _ => none

/-- The values written, in order. -/
def puts (b : Backend) : List (NodeId × Variant) :=
  b.trace.filterMap fun m =>
    match m with
    | .put id value => some (id, value)
    | _ => none

/-- The keys `ensureSnapshotNode` was entered for. -/
def ensured (b : Backend) : List String :=
  b.trace.filterMap fun m =>
    match m with
    | .ensures deviceKey => some deviceKey
    | _ => none

/-- What the drains have returned, one after the other. -/
def drained (b : Backend) : List TelemetrySnapshot :=
  b.trace.flatMap fun m =>
    match m with
    | .drained snapshots => snapshots
    | _ => []

end Backend

/-- A send that has drained: what it has drained, and what of that it has written out. -/
structure OpenSend where
  batch : List TelemetrySnapshot
  written : List TelemetrySnapshot
  deriving DecidableEq, Repr

/-- The send that is open, as the trace goes on. -/
def OpenSend.next (o : Option OpenSend) : Mark → Option OpenSend
  | .drained snapshots => some ⟨snapshots, []⟩
  | .wrote _ snapshot => o.map fun o => { o with written := o.written ++ [snapshot] }
  | .returned => none
  | .threw => none
  | _ => o

def Backend.openSend (b : Backend) : Option OpenSend := b.trace.foldl OpenSend.next none

/-- The values written since the last drain, as the trace goes on. -/
def nextPuts (puts : List (NodeId × Variant)) : Mark → List (NodeId × Variant)
  | .drained _ => []
  | .put id value => puts ++ [(id, value)]
  | _ => puts

def Backend.putsSinceDrain (b : Backend) : List (NodeId × Variant) := b.trace.foldl nextPuts []

/-- How a sensor is published: its name, value and unit, and no type. -/
def sensorObject (sensor : SensorSnapshot) : ExtensionObject :=
  .decoded (some { name := sensor.name, value := sensor.value, unit := sensor.unit, sensorType := "" })

theorem mem_writes {b : Backend} {ids : SnapshotNodeIds} {snapshot : TelemetrySnapshot} :
    (ids, snapshot) ∈ writes b ↔ .writes ids snapshot ∈ b.trace := by
  simp only [writes, List.mem_filterMap]
  constructor
  · intro hfound
    obtain ⟨m, hm, h⟩ := hfound
    cases m with
    | writes ids' snapshot' =>
      cases h
      exact hm
    | _ => cases h
  · intro h
    exact ⟨_, h, rfl⟩

theorem mem_wrote {b : Backend} {ids : SnapshotNodeIds} {snapshot : TelemetrySnapshot} (h : (ids, snapshot) ∈ b.wrote) :
    .wrote ids snapshot ∈ b.trace := by
  obtain ⟨m, hm, hmark⟩ := List.mem_filterMap.mp h
  cases m with
  | wrote ids' snapshot' =>
    cases hmark
    exact hm
  | _ => cases hmark

structure Shared where
  log : Run
  /-- The value of each variable; one never written to is empty. -/
  value : NodeId → Variant
  backend : Nat → Backend

namespace Shared

def start : Shared := ⟨[], fun _ => .empty, fun _ => .start⟩

def tree (s : Shared) : List PublishedNode := (serverAfter telemetryClientsFolderId s.log).nodes

def update (s : Shared) (p : Nat) (f : Backend → Backend) : Shared :=
  { s with backend := fun q => if q = p then f (s.backend q) else s.backend q }

def call (s : Shared) (session : NodeId) (o : Operation) : Shared := { s with log := s.log ++ [(session, o)] }

def write (s : Shared) (id : NodeId) (value : Variant) : Shared :=
  { s with value := fun x => if x = id then value else s.value x }

/-- The node below `parent` with this BrowseName. -/
def child (s : Shared) (parent : NodeId) (name : QualifiedName) : Option NodeId :=
  if parent = objectsFolder ∧ name = ⟨telemetryNamespaceIndex, telemetryClientsFolderName⟩ then
    some telemetryClientsFolderId
  else (s.tree.find? fun n => decide (n.parent = parent ∧ n.browseName = name)).map (·.nodeId)

def has (s : Shared) (id : NodeId) : Bool := s.tree.any fun n => decide (n.nodeId = id)

end Shared

/-! ## Serving a call -/

variable (launch : Nat → Launch)

def serve (p : Nat) : (c : Call) → Shared → Served c.Answer Shared
  | .browseChild parent name, s => .answers (s.child parent name) s
  | .readBrowseName _, s => .answers () s
  | .addNode item, s =>
    match (serverAfter telemetryClientsFolderId s.log).created telemetryClientsFolderId (launch p).session
        (.allowAddNode item) with
    | some n => .answers n.nodeId (s.call (launch p).session (.allowAddNode item))
    | none => .fails (s.call (launch p).session (.allowAddNode item))
  | .writeValue id value, s =>
    if s.has id then .answers () ((s.write id value).update p fun b => b.mark (.put id value)) else .fails s
  | .drain, s =>
    if (s.backend p).queue.ready then
      .answers (s.backend p).queue.drain.1
        (s.update p fun b => { b with queue := b.queue.drain.2 }.mark (.drained b.queue.drain.1))
    else .blocks
  | .clientFolder, s => .answers (s.backend p).clientFolder s
  | .setClientFolder id, s => .answers () (s.update p fun b => { b with clientFolder := some id })
  | .findDevice deviceKey, s => .answers ((s.backend p).deviceNodes deviceKey) s
  | .emplaceDevice deviceKey ids, s => .answers () (s.update p fun b => b.emplace deviceKey ids)
  | .mark m, s => .answers () (s.update p fun b => b.mark m)

def system : System Nat Call Call.Answer Shared where
  serve := serve launch
  fallible := Call.remote
  abort p s := s.update p fun b => b.mark .threw

/-! ## Runs -/

/-- Calls into the plug-in that create no node. -/
def Operation.addsNothing : Operation → Bool
  | .allowAddNode _ => false
  | _ => true

inductive Event where
  /-- Another call for some session: a login, a browse, a write. -/
  | call (session : NodeId) (o : { o : Operation // Operation.addsNothing o = true })
  | push (p : Nat) (snapshot : TelemetrySnapshot)
  | shutdown (p : Nat)
  | addNodes (p : Nat)
  | sendTelemetryPayload (p : Nat)
  | serve (p : Nat)
  | fail (p : Nat) (served : Bool)
  deriving DecidableEq, Repr

abbrev Backends := World Nat Call Call.Answer Shared Unit

def Backends.initially : Backends := ⟨.start, fun _ => none⟩

def Backends.apply (w : Backends) : Event → Backends
  | .call session o => w.outside fun s => s.call session o.1
  | .push p snapshot => w.outside fun s => s.update p fun b => b.push snapshot
  | .shutdown p => w.outside fun s => s.update p fun b => { b with queue := b.queue.shutdown }
  | .addNodes p => w.start p (addNodes (launch p).clientName)
  | .sendTelemetryPayload p => w.start p (sendTelemetryPayload (launch p).clientName >>= fun _ => .done ())
  | .serve p => w.serve (system launch) p
  | .fail p served => w.fail (system launch) p served

/-- The backends and the server after a run. -/
def after (es : List Event) : Backends := es.foldl (Backends.apply launch) .initially

/-- The call a process is about to make. -/
def Backends.pending (w : Backends) (p : Nat) : Option Call :=
  match w.running p with
  | some (.call c _) => some c
  | _ => none

theorem after_snoc (es : List Event) (e : Event) : after launch (es ++ [e]) = (after launch es).apply launch e := by
  rw [after, List.foldl_append]
  rfl

end HardwareMonitor.SystemInfo
