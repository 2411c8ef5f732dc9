/-
  HardwareMonitor.SystemInfo.Workers — `HardwareManager` and its threads: the main thread,
  one thread for each worker's `initialize` (`InitializeAllWorkers`), one for each worker's
  `run` (`StartPolling`, `StopPolling`), and the sender, which drains the queue.

  A worker's members are not guarded: `initialize` fills the list of devices that `execute`
  iterates over. The steps of a round are the fetches and the pushes, device by device, and
  the threads take them in any order. Time is left out (`PollingRate`), and the performance
  logger.
-/

import HardwareMonitor.OpcUa.ClientQueue
import Mathlib.Logic.Function.Basic
import Mathlib.Logic.Relation

namespace HardwareMonitor.SystemInfo.Workers

open HardwareMonitor.OpcUa

/-! ## State -/

/-- The calls of the main thread; the destructor is a `stopPolling`. -/
inductive Call where
  | initializeAllWorkers
  | startPolling
  | stopPolling
  deriving DecidableEq, Repr

/-- Where the main thread is. -/
inductive Main where
  | between
  /-- `ExecuteThreadPool`: so many threads are there. -/
  | spawning (k : Nat)
  /-- `JoinAll`: so many are joined. -/
  | joining (i : Nat)
  /-- `StartPolling`: so many threads are there. -/
  | starting (k : Nat)
  /-- `StopPolling`: so many are requested to stop. -/
  | requesting (i : Nat)
  /-- `worker_threads_.clear()`: so many are joined. -/
  | clearing (i : Nat)
  deriving DecidableEq, Repr

inductive SetupPhase where
  | created
  | initializing
  | returned
  deriving DecidableEq, Repr

/-- A thread of `initialize`. -/
structure SetupThread where
  worker : Nat
  phase : SetupPhase
  deriving DecidableEq, Repr

/-- Where a thread is in `run`. -/
inductive Phase where
  | head
  /-- In `execute`, at the device of this index. -/
  | executing (j : Nat)
  /-- The device has been fetched, and its snapshot is to be pushed. -/
  | fetched (j : Nat)
  | sleeping
  | returned
  deriving DecidableEq, Repr

/-- A thread of `run`, with its stop token. -/
structure PollThread where
  worker : Nat
  phase : Phase
  stopRequested : Bool
  deriving DecidableEq, Repr

/-- Devices are numbered; a worker's list is `devices_`, or holds `device_` if that is set. -/
structure State where
  program : List Call
  main : Main
  /-- `ThreadManager::threads` -/
  threads : List SetupThread
  workerThreads : List PollThread
  devices : Nat → List Nat
  queue : ClientQueue.State
  /-- Not in the source: what each worker has pushed. -/
  pushes : List (Nat × TelemetrySnapshot)
  /-- Not in the source: the rounds begun, each with the list it goes through. -/
  rounds : List (Nat × List Nat)

def State.start (program : List Call) : State := ⟨program, .between, [], [], fun _ => [], .start, [], []⟩

/-! ## Steps -/

/-- The step of the main thread; there is none where it has to wait. -/
def State.mainStep (n : Nat) (s : State) : Option State :=
  match s.main with
  | .between =>
    match s.program with
    | [] => none
    | .initializeAllWorkers :: program => some { s with program := program, main := .spawning 0 }
    | .startPolling :: program =>
      if !s.workerThreads.isEmpty then some { s with program := program }
      else some { s with program := program, main := .starting 0 }
    | .stopPolling :: program => some { s with program := program, main := .requesting 0 }
  | .spawning k =>
    if k < n then some { s with threads := s.threads ++ [⟨k, .created⟩], main := .spawning (k + 1) }
    else some { s with main := .joining 0 }
  | .joining i =>
    match s.threads[i]? with
    | none => some { s with threads := [], main := .between }
    | some t => if t.phase = .returned then some { s with main := .joining (i + 1) } else none
  | .starting k =>
    if k < n then some { s with workerThreads := s.workerThreads ++ [⟨k, .head, false⟩], main := .starting (k + 1) }
    else some { s with main := .between }
  | .requesting i =>
    match s.workerThreads[i]? with
    | none => some { s with main := .clearing 0 }
    | some t =>
      some { s with workerThreads := s.workerThreads.set i { t with stopRequested := true }, main := .requesting (i + 1) }
  | .clearing i =>
    match s.workerThreads[i]? with
    | none => some { s with workerThreads := [], main := .between }
    | some t => if t.phase = .returned then some { s with main := .clearing (i + 1) } else none

/-- The step of a thread of `initialize`, which leaves its worker with these devices. -/
def State.setupStep (i : Nat) (found : List Nat) (s : State) : Option State :=
  match s.threads[i]? with
  | none => none
  | some t =>
    match t.phase with
    | .created => some { s with threads := s.threads.set i { t with phase := .initializing } }
    | .initializing =>
      some { s with
        threads := s.threads.set i { t with phase := .returned }
        devices := Function.update s.devices t.worker found }
    | .returned => none

def State.setPhase (s : State) (i : Nat) (t : PollThread) (phase : Phase) : State :=
  { s with workerThreads := s.workerThreads.set i { t with phase := phase } }

/-- The step of a thread of `run`; `reading` is what a fetch has found. -/
def State.pollStep (i : Nat) (reading : TelemetrySnapshot) (s : State) : Option State :=
  match s.workerThreads[i]? with
  | none => none
  | some t =>
    let devices := s.devices t.worker
    match t.phase with
    | .head =>
      if t.stopRequested then some (s.setPhase i t .returned)
      else some { s.setPhase i t (.executing 0) with rounds := s.rounds ++ [(t.worker, devices)] }
    | .executing j =>
      if j < devices.length then some (s.setPhase i t (.fetched j)) else some (s.setPhase i t .sleeping)
    | .fetched j =>
      match devices[j]? with
      -- the list has been changed under the loop
      | none => none
      | some device =>
        let snapshot := { reading with source := device }
        some { s.setPhase i t (.executing (j + 1)) with
          queue := s.queue.step (.push snapshot)
          pushes := s.pushes ++ [(t.worker, snapshot)] }
    | .sleeping => some (s.setPhase i t .head)
    | .returned => none

inductive Event where
  | main
  | setup (i : Nat) (found : List Nat)
  | poll (i : Nat) (reading : TelemetrySnapshot)
  | drain
  deriving DecidableEq, Repr

/-- One step of one thread, if it has one; `n` is the number of workers. -/
def step (n : Nat) (e : Event) (s : State) : Option State :=
  match e with
  | .main => s.mainStep n
  | .setup i found => s.setupStep i found
  | .poll i reading => s.pollStep i reading
  | .drain => some { s with queue := s.queue.step .drain }

def Moves (n : Nat) (s s' : State) : Prop := ∃ e, step n e s = some s'

/-- The states of the program, in any interleaving. -/
def Reachable (n : Nat) (program : List Call) : State → Prop := Relation.ReflTransGen (Moves n) (.start program)

/-- The events of a run, each of which has its step. -/
def run (n : Nat) : List Event → State → Option State
  | [], s => some s
  | e :: es, s => (step n e s).bind (run n es)

theorem reachable_of_run {n : Nat} {program : List Call} {es : List Event} {s s' : State} (h : Reachable n program s)
    (hrun : run n es s = some s') : Reachable n program s' := by
  induction es generalizing s with
  | nil =>
    obtain rfl := Option.some.inj hrun
    exact h
  | cons e es ih =>
    obtain ⟨u, hu, hrest⟩ := Option.bind_eq_some_iff.mp hrun
    exact ih (h.tail ⟨e, hu⟩) hrest

/-! ## What is asked of a state -/

def PollThread.inExecute (t : PollThread) : Bool :=
  match t.phase with
  | .executing _ | .fetched _ => true
  | _ => false

/-- How many threads are in a member function of the worker. -/
def State.inside (s : State) (k : Nat) : Nat :=
  s.threads.countP (fun t => t.worker = k ∧ t.phase = .initializing) +
    s.workerThreads.countP fun t => t.worker = k ∧ t.inExecute

/-- The calls initialize only where nothing is polled. -/
def Safe (polling : Bool) : List Call → Bool
  | [] => true
  | .initializeAllWorkers :: program => !polling && Safe false program
  | .startPolling :: program => Safe true program
  | .stopPolling :: program => Safe false program

/-- The devices a worker has pushed snapshots of. -/
def State.sourcesOf (s : State) (k : Nat) : List Nat := (s.pushes.filter (·.1 = k)).map (·.2.source)

/-- The rounds of a worker, one after the other. -/
def State.roundsOf (s : State) (k : Nat) : List (List Nat) := (s.rounds.filter (·.1 = k)).map (·.2)

/-- What is left of a thread's round. -/
def PollThread.rest (t : PollThread) (devices : List Nat) : List Nat :=
  match t.phase with
  | .executing j | .fetched j => devices.drop j
  | _ => []

def roundLeft (t : Option PollThread) (devices : List Nat) : List Nat := t.elim [] fun t => t.rest devices

def State.remaining (s : State) (k : Nat) : List Nat := roundLeft s.workerThreads[k]? (s.devices k)

end HardwareMonitor.SystemInfo.Workers
