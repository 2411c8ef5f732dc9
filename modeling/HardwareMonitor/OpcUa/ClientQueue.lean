/-
  HardwareMonitor.OpcUa.ClientQueue — the queue between the worker threads, which push
  snapshots, and the thread that sends them to the server, which drains it.

  Each member function takes `mtx_` once, so a run of any number of threads is a list of
  critical sections in the order they get the mutex; a `drain` whose wait condition does
  not hold yet changes nothing and is let in later. Proved of every run (`lossless`):
  what the drains returned, followed by what is still queued, is what was pushed before
  the shutdown, in that order, and only a shut-down queue is drained empty.
-/

namespace HardwareMonitor.OpcUa

/-- `value` is the bit pattern of the `float`. -/
structure SensorSnapshot where
  name : String
  value : UInt32
  unit : String
  deriving DecidableEq, Repr

structure TelemetrySnapshot where
  name : String
  vendor : String
  hardwareType : String
  sensors : List SensorSnapshot
  /-- Not in the source: which device object the snapshot was taken of. Nothing reads it. -/
  source : Nat
  deriving DecidableEq, Repr

/-! ## The member functions -/

structure ClientQueue where
  queue : List TelemetrySnapshot
  shuttingDown : Bool
  deriving DecidableEq, Repr

namespace ClientQueue

def empty : ClientQueue := ⟨[], false⟩

def push (q : ClientQueue) (snapshot : TelemetrySnapshot) : ClientQueue :=
  if q.shuttingDown then q else { q with queue := q.queue ++ [snapshot] }

/-- The condition `drain` waits for. -/
def ready (q : ClientQueue) : Bool := !q.queue.isEmpty || q.shuttingDown

/-- `while (!queue_.empty())`: the front moves to the back of `snapshots`. -/
def takeAll (snapshots : List TelemetrySnapshot) : List TelemetrySnapshot → List TelemetrySnapshot
  | [] => snapshots
  | front :: rest => takeAll (snapshots ++ [front]) rest

/-- `drain`, let in. -/
def drain (q : ClientQueue) : List TelemetrySnapshot × ClientQueue := (takeAll [] q.queue, { q with queue := [] })

def shutdown (q : ClientQueue) : ClientQueue := { q with shuttingDown := true }

theorem takeAll_eq (snapshots rest : List TelemetrySnapshot) : takeAll snapshots rest = snapshots ++ rest := by
  induction rest generalizing snapshots with
  | nil => rw [takeAll, List.append_nil]
  | cons front rest ih => rw [takeAll, ih, List.append_assoc, List.singleton_append]

@[simp] theorem drain_fst (q : ClientQueue) : q.drain.1 = q.queue := takeAll_eq [] q.queue
@[simp] theorem drain_snd (q : ClientQueue) : q.drain.2 = { q with queue := [] } := rfl
@[simp] theorem push_shuttingDown (q : ClientQueue) (s : TelemetrySnapshot) : (q.push s).shuttingDown = q.shuttingDown := by
  unfold push
  split <;> rfl

/-! ## Runs -/

inductive Section where
  | push (snapshot : TelemetrySnapshot)
  | drain
  | shutdown
  deriving DecidableEq, Repr

/-- The critical sections of a run, each with the thread it belongs to. -/
abbrev Run := List (Nat × Section)

/-- The queue, and what the drains so far have returned: each result with
    `shutting_down_` as the drain found it. -/
structure State where
  queue : ClientQueue
  drains : List (List TelemetrySnapshot × Bool)
  deriving DecidableEq, Repr

def State.start : State := ⟨.empty, []⟩

def State.step (s : State) : Section → State
  | .push snapshot => { s with queue := s.queue.push snapshot }
  | .drain =>
    if s.queue.ready then ⟨s.queue.drain.2, s.drains ++ [(s.queue.drain.1, s.queue.shuttingDown)]⟩ else s
  | .shutdown => { s with queue := s.queue.shutdown }

def State.run (s : State) (es : Run) : State := es.foldl (fun s e => s.step e.2) s

/-- What a run pushes before its first shutdown. -/
def accepted : Run → List TelemetrySnapshot
  | [] => []
  | (_, .push snapshot) :: es => snapshot :: accepted es
  | (_, .drain) :: es => accepted es
  | (_, .shutdown) :: _ => []

/-- What the drains have returned so far, one after the other. -/
def State.drained (s : State) : List TelemetrySnapshot := (s.drains.map (·.1)).flatten

/-- One critical section moves snapshots along; only a push to an open queue adds one. -/
theorem step_conserves (s : State) (e : Section) :
    (s.step e).drained ++ (s.step e).queue.queue =
      s.drained ++ s.queue.queue ++ match e with
        | .push snapshot => if s.queue.shuttingDown then [] else [snapshot]
        | _ => [] := by
  cases e with
  | push snapshot =>
    simp only [State.step, State.drained, push]
    split
    · rw [List.append_nil]
    · rw [List.append_assoc]
  | drain =>
    simp only [State.step, State.drained, List.append_nil]
    split
    · simp only [drain_fst, drain_snd, List.map_append, List.map_singleton, List.flatten_append, List.flatten_singleton,
        List.append_nil]
    · rfl
  | shutdown => rw [List.append_nil]; rfl

/-- From any state, a run adds what it pushes while the queue is open. -/
theorem run_conserves (es : Run) (s : State) :
    (s.run es).drained ++ (s.run es).queue.queue =
      s.drained ++ s.queue.queue ++ if s.queue.shuttingDown then [] else accepted es := by
  induction es generalizing s with
  | nil =>
    simp only [accepted, ite_self, List.append_nil]
    rfl
  | cons e es ih =>
    obtain ⟨t, e⟩ := e
    show ((s.step e).run es).drained ++ ((s.step e).run es).queue.queue = _
    rw [ih, step_conserves]
    cases e with
    | push snapshot =>
      simp only [State.step, push_shuttingDown, accepted]
      cases s.queue.shuttingDown <;> simp
    | drain =>
      have h : (s.step .drain).queue.shuttingDown = s.queue.shuttingDown := by
        simp only [State.step]
        split <;> rfl
      simp only [h, accepted, List.append_nil]
    | shutdown => simp [State.step, shutdown, accepted]

/-- Only a shut-down queue is drained empty. -/
theorem drain_empty (s : State) (h : ∀ r ∈ s.drains, r.1 = [] → r.2 = true) (e : Section) :
    ∀ r ∈ (s.step e).drains, r.1 = [] → r.2 = true := by
  cases e with
  | push snapshot => exact h
  | shutdown => exact h
  | drain =>
    simp only [State.step]
    split
    · rename_i hready
      intro r hr hempty
      rcases List.mem_append.mp hr with hr | hr
      · exact h r hr hempty
      · rw [List.mem_singleton.mp hr] at hempty ⊢
        rw [drain_fst] at hempty
        simpa [ready, hempty] using hready
    · exact h

theorem run_drain_empty (es : Run) (s : State) (h : ∀ r ∈ s.drains, r.1 = [] → r.2 = true) :
    ∀ r ∈ (s.run es).drains, r.1 = [] → r.2 = true := by
  induction es generalizing s with
  | nil => exact h
  | cons e es ih => exact ih (s.step e.2) (drain_empty s h e.2)

/-- What a shutdown cuts off is not accepted. -/
theorem accepted_shutdown (pre post : Run) (t : Nat) : accepted (pre ++ (t, .shutdown) :: post) = accepted pre := by
  induction pre with
  | nil => rfl
  | cons e pre ih =>
    obtain ⟨t', e⟩ := e
    cases e with
    | push snapshot => exact congrArg (snapshot :: ·) ih
    | drain => exact ih
    | shutdown => rfl

/-- Every run hands on what was pushed before the shutdown, all of it, once and in order;
    nothing pushed later appears, and a drain comes back empty only from a queue that has
    been shut down. -/
theorem lossless (es : Run) :
    (State.start.run es).drained ++ (State.start.run es).queue.queue = accepted es ∧
      (∀ pre t post, es = pre ++ (t, .shutdown) :: post →
        (State.start.run es).drained ++ (State.start.run es).queue.queue = accepted pre) ∧
      ∀ r ∈ (State.start.run es).drains, r.1 = [] → r.2 = true := by
  have hall : (State.start.run es).drained ++ (State.start.run es).queue.queue = accepted es := run_conserves es .start
  refine ⟨hall, fun pre t post hes => ?_, run_drain_empty es .start fun r hr => nomatch hr⟩
  rw [hall, hes, accepted_shutdown]

/-- Two producers and a drain that waits until the first push. -/
example :
    let x : TelemetrySnapshot := ⟨"CPU", "INTEL", "CPU", [], 0⟩
    let y : TelemetrySnapshot := ⟨"GPU", "AMD", "GPU", [], 1⟩
    State.start.run [(0, .drain), (1, .push x), (0, .drain), (2, .push y), (3, .shutdown), (1, .push x), (0, .drain)] =
      ⟨⟨[], true⟩, [([x], false), ([y], true)]⟩ := by
  decide

end ClientQueue

end HardwareMonitor.OpcUa
