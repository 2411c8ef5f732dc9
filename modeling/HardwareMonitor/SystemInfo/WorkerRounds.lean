/-
  HardwareMonitor.SystemInfo.WorkerRounds — what the threads of a `HardwareManager` do in
  every interleaving, as long as the calls do not initialize the workers while they are
  polled:
  - `whole_rounds`: each worker's snapshots come through the queue in the order of its
    rounds, each round the whole list of its devices; only the last one may be unfinished,
    and none is once `StopPolling` has returned.
  - `waiting_ends`: a main thread that waits for its threads is never stuck, gets on after a
    bounded number of their steps, and sees no further round begin.
-/

import HardwareMonitor.SystemInfo.WorkerThreads
import Mathlib.Algebra.GroupWithZero.Nat
import Mathlib.Data.List.Nodup

namespace HardwareMonitor.SystemInfo.Workers

open HardwareMonitor.OpcUa

variable {n : Nat} {s s' : State}

/-! ## Rounds -/

/-- At most one thread is of the worker. -/
theorem countP_worker {α : Type} {worker : α → Nat} {l : List α} (h : ∀ (i : Nat) t, l[i]? = some t → worker t = i)
    (k : Nat) : l.countP (fun t => worker t = k) ≤ 1 := by
  have hrange : l.map worker = List.range l.length := by
    apply List.ext_getElem? fun i => ?_
    rw [List.getElem?_map]
    cases hi : l[i]? with
    | none => rw [List.getElem?_eq_none (by rw [List.length_range]; exact List.getElem?_eq_none_iff.mp hi)]; rfl
    | some t => rw [List.getElem?_range (List.getElem?_eq_some_iff.mp hi).1, Option.map_some, h i t hi]
  have hcount : (l.map worker).count k ≤ 1 := by
    rw [hrange]
    exact List.nodup_iff_count_le_one.mp List.nodup_range k
  rw [List.count, List.countP_map] at hcount
  exact hcount

theorem inside_le (h : Inv n s) (k : Nat) : s.inside k ≤ 1 := by
  have hsetup : s.threads.countP (fun t => t.worker = k ∧ t.phase = .initializing) ≤ 1 := by
    refine Nat.le_trans (List.countP_mono_left fun t _ ht => ?_) (countP_worker h.setupWorker k)
    simp only [decide_eq_true_eq] at ht ⊢
    exact ht.1
  have hpoll : s.workerThreads.countP (fun t => t.worker = k ∧ t.inExecute) ≤ 1 := by
    refine Nat.le_trans (List.countP_mono_left fun t _ ht => ?_) (countP_worker h.pollWorker k)
    simp only [decide_eq_true_eq] at ht ⊢
    exact ht.1
  rw [State.inside]
  -- one of the two kinds of thread is not there at all
  cases hthreads : s.threads with
  | nil => simpa using hpoll
  | cons t threads =>
    have hidle : s.workerThreads = [] := h.idle (show s.threads[0]? = some t by rw [hthreads]; rfl)
    rw [hidle, ← hthreads]
    simpa using hsetup

/-- With calls that never initialize while polling, in every interleaving: what each worker
    has pushed, with what is left of its round, is the lists of its rounds, whole and in
    order; the drains and the queue have it all; and where the main thread is between two
    calls and nothing is polled, no round is unfinished. -/
theorem whole_rounds (n : Nat) (program : List Call) (hsafe : Safe false program) (s : State)
    (h : Reachable n program s) :
    (∀ k, s.sourcesOf k ++ s.remaining k = (s.roundsOf k).flatten) ∧
    s.queue.drained ++ s.queue.queue.queue = s.pushes.map (·.2) ∧
    (s.workerThreads = [] → ∀ k, s.sourcesOf k = (s.roundsOf k).flatten) := by
  have hinv := inv_reachable hsafe h
  refine ⟨hinv.account, hinv.queued, fun hidle k => ?_⟩
  have haccount := hinv.account k
  rwa [State.remaining, hidle, List.getElem?_nil, roundLeft, Option.elim_none, List.append_nil] at haccount

/-- Two devices of one worker; the second is fetched, and its snapshot not pushed yet. -/
def secondFetched : List Event :=
  let reading : TelemetrySnapshot := ⟨"GPU", "AMD", "GPU", [], 0⟩
  [.main, .main, .main, .setup 0 [], .setup 0 [7, 9], .main, .main, .main, .main, .main, .poll 0 reading, .poll 0 reading,
    .poll 0 reading, .drain, .poll 0 reading]

theorem whole_rounds_unfinished :
    ∃ s, run 1 secondFetched (.start [.initializeAllWorkers, .startPolling]) = some s ∧
      s.sourcesOf 0 = [7] ∧ s.remaining 0 = [9] ∧ s.sourcesOf 0 ++ s.remaining 0 = (s.roundsOf 0).flatten := by
  have hseen : (run 1 secondFetched (.start [.initializeAllWorkers, .startPolling])).map
      (fun s => (s.sourcesOf 0, s.remaining 0)) = some ([7], [9]) := by decide
  obtain ⟨s, hs, hseen⟩ := Option.map_eq_some_iff.mp hseen
  obtain ⟨hsources, hremaining⟩ := Prod.mk.inj hseen
  have hrounds := whole_rounds 1 [.initializeAllWorkers, .startPolling] rfl s (reachable_of_run .refl hs)
  exact ⟨s, hs, hsources, hremaining, hrounds.1 0⟩

/-! ## Waiting -/

/-- The main thread joins threads. -/
def Main.waits : Main → Bool
  | .joining _ | .clearing _ => true
  | _ => false

/-- How many steps a thread of `initialize` has left. -/
def SetupThread.work (t : SetupThread) : Nat :=
  match t.phase with
  | .created => 2
  | .initializing => 1
  | .returned => 0

/-- How many steps a thread of `run` has left, once it is requested to stop. -/
def PollThread.work (t : PollThread) (devices : List Nat) : Nat :=
  match t.phase with
  | .head => 1
  | .executing j => 2 * (devices.length - j) + 3
  | .fetched j => 2 * (devices.length - j) + 2
  | .sleeping => 2
  | .returned => 0

/-- How many threads are still to be joined. -/
def State.unjoined (s : State) : Nat :=
  match s.main with
  | .joining i => s.threads.length - i
  | .clearing i => s.workerThreads.length - i
  | _ => 0

/-- How many steps are left until the main thread gets on. -/
def State.work (s : State) : Nat :=
  (s.threads.map SetupThread.work).sum + (s.workerThreads.map fun t => t.work (s.devices t.worker)).sum + s.unjoined

/-- A step of one thread shows in the sum. -/
theorem sum_set {α : Type} (f : α → Nat) {l : List α} {i : Nat} {a : α} (h : l[i]? = some a) (b : α) :
    ((l.set i b).map f).sum + f a = (l.map f).sum + f b := by
  induction l generalizing i with
  | nil => cases h
  | cons c l ih =>
    cases i with
    | zero =>
      obtain rfl := Option.some.inj h
      simp only [List.set_cons_zero, List.map_cons, List.sum_cons]
      omega
    | succ i =>
      have hlater := ih h
      simp only [List.set_cons_succ, List.map_cons, List.sum_cons]
      omega

theorem work_setPhase {i : Nat} {t : PollThread} (hi : s.workerThreads[i]? = some t) {phase : Phase}
    (h : { t with phase := phase }.work (s.devices t.worker) < t.work (s.devices t.worker)) :
    (s.setPhase i t phase).work < s.work := by
  have hsum := sum_set (fun u : PollThread => u.work (s.devices u.worker)) hi { t with phase := phase }
  have hunjoined : (s.setPhase i t phase).unjoined = s.unjoined := by
    simp only [State.unjoined, State.setPhase, List.length_set]
  rw [State.work, State.work, hunjoined]
  change _ + ((s.workerThreads.set i { t with phase := phase }).map fun u => u.work (s.devices u.worker)).sum + _ < _
  simp only at hsum
  change (s.threads.map SetupThread.work).sum + _ + _ < _
  omega

theorem work_poll (h : Inv n s) {i k : Nat} {reading : TelemetrySnapshot} (hclearing : s.main = .clearing k)
    (hs : s.pollStep i reading = some s') : s'.work < s.work ∧ s'.rounds = s.rounds := by
  have hpos := h.positioned
  simp only [State.Positioned, hclearing] at hpos
  obtain ⟨-, -, hrequested, -⟩ := hpos
  rw [State.pollStep] at hs
  cases hi : s.workerThreads[i]? with
  | none => simp [hi] at hs
  | some t =>
    simp only [hi, hrequested t (List.mem_of_getElem? hi), if_true] at hs
    cases hphase : t.phase with
    | head =>
      simp only [hphase] at hs
      obtain rfl := Option.some.inj hs
      refine ⟨work_setPhase hi ?_, rfl⟩
      simp [PollThread.work, hphase]
    | executing j =>
      simp only [hphase] at hs
      split at hs
      · obtain rfl := Option.some.inj hs
        refine ⟨work_setPhase hi ?_, rfl⟩
        simp [PollThread.work, hphase]
      · obtain rfl := Option.some.inj hs
        refine ⟨work_setPhase hi ?_, rfl⟩
        simp only [PollThread.work, hphase]
        omega
    | fetched j =>
      simp only [hphase] at hs
      cases hj : (s.devices t.worker)[j]? with
      | none => simp [hj] at hs
      | some device =>
        simp only [hj] at hs
        obtain rfl := Option.some.inj hs
        have hlt := (List.getElem?_eq_some_iff.mp hj).1
        refine ⟨?_, rfl⟩
        have hwork : (s.setPhase i t (.executing (j + 1))).work < s.work := by
          refine work_setPhase hi ?_
          simp only [PollThread.work, hphase]
          omega
        exact hwork
    | sleeping =>
      simp only [hphase] at hs
      obtain rfl := Option.some.inj hs
      refine ⟨work_setPhase hi ?_, rfl⟩
      simp [PollThread.work, hphase]
    | returned => simp [hphase] at hs

theorem work_setup (h : Inv n s) {i : Nat} {found : List Nat} (hs : s.setupStep i found = some s') :
    s'.work < s.work ∧ s'.rounds = s.rounds := by
  rw [State.setupStep] at hs
  cases hi : s.threads[i]? with
  | none => simp [hi] at hs
  | some t =>
    simp only [hi] at hs
    have hidle := h.idle hi
    cases hphase : t.phase with
    | created =>
      simp only [hphase] at hs
      obtain rfl := Option.some.inj hs
      have hsum := sum_set SetupThread.work hi { t with phase := .initializing }
      simp only [SetupThread.work, hphase] at hsum
      simp only [State.work, State.unjoined, List.length_set, hidle, and_true]
      omega
    | initializing =>
      simp only [hphase] at hs
      obtain rfl := Option.some.inj hs
      have hsum := sum_set SetupThread.work hi { t with phase := .returned }
      simp only [SetupThread.work, hphase] at hsum
      simp only [State.work, State.unjoined, List.length_set, hidle, and_true]
      simp only [List.map_nil, List.sum_nil] at hsum ⊢
      omega
    | returned => simp [hphase] at hs

/-- A main thread that is still waiting has joined one more. -/
theorem work_main (hwaits : s.main.waits) (hs : s.mainStep n = some s') (hwaits' : s'.main.waits) :
    s'.work < s.work ∧ s'.rounds = s.rounds := by
  cases hmain : s.main with
  | joining i =>
    simp only [State.mainStep, hmain] at hs
    cases hi : s.threads[i]? with
    | none =>
      simp only [hi] at hs
      obtain rfl := Option.some.inj hs
      cases hwaits'
    | some t =>
      simp only [hi] at hs
      have hlt := (List.getElem?_eq_some_iff.mp hi).1
      split at hs
      · obtain rfl := Option.some.inj hs
        simp only [State.work, State.unjoined, hmain, and_true]
        omega
      · cases hs
  | clearing i =>
    simp only [State.mainStep, hmain] at hs
    cases hi : s.workerThreads[i]? with
    | none =>
      simp only [hi] at hs
      obtain rfl := Option.some.inj hs
      cases hwaits'
    | some t =>
      simp only [hi] at hs
      have hlt := (List.getElem?_eq_some_iff.mp hi).1
      split at hs
      · obtain rfl := Option.some.inj hs
        simp only [State.work, State.unjoined, hmain, and_true]
        omega
      · cases hs
  | _ =>
    rw [hmain] at hwaits
    cases hwaits

/-- Every step but a drain brings a waiting main thread closer. -/
theorem work_step (h : Inv n s) (hwaits : s.main.waits) {e : Event} (he : e ≠ .drain) (hs : step n e s = some s')
    (hwaits' : s'.main.waits) : s'.work < s.work ∧ s'.rounds = s.rounds := by
  cases e with
  | main => exact work_main hwaits hs hwaits'
  | setup i found => exact work_setup h hs
  | poll i reading =>
    cases hmain : s.main with
    | clearing k => exact work_poll h hmain hs
    | joining k =>
      have hpos := h.positioned
      simp only [State.Positioned, hmain] at hpos
      simp [step, State.pollStep, hpos.1] at hs
    | _ =>
      rw [hmain] at hwaits
      cases hwaits
  | drain => exact absurd rfl he

/-- A waiting main thread can go on, or one of its threads can. -/
theorem not_stuck (h : Inv n s) (hwaits : s.main.waits) : ∃ e, e ≠ .drain ∧ (step n e s).isSome := by
  cases hmain : s.main with
  | joining i =>
    cases hi : s.threads[i]? with
    | none => exact ⟨.main, by decide, by simp [step, State.mainStep, hmain, hi]⟩
    | some t =>
      cases hphase : t.phase with
      | returned => exact ⟨.main, by decide, by simp [step, State.mainStep, hmain, hi, hphase]⟩
      | created => exact ⟨.setup i [], Event.noConfusion, by simp [step, State.setupStep, hi, hphase]⟩
      | initializing => exact ⟨.setup i [], Event.noConfusion, by simp [step, State.setupStep, hi, hphase]⟩
  | clearing i =>
    cases hi : s.workerThreads[i]? with
    | none => exact ⟨.main, by decide, by simp [step, State.mainStep, hmain, hi]⟩
    | some t =>
      have hin := h.inList t (List.mem_of_getElem? hi)
      by_cases hreturned : t.phase = .returned
      · exact ⟨.main, by decide, by simp [step, State.mainStep, hmain, hi, hreturned]⟩
      · refine ⟨.poll i ⟨"", "", "", [], 0⟩, Event.noConfusion, ?_⟩
        cases hphase : t.phase with
        | head =>
          simp only [step, State.pollStep, hi, hphase]
          split
          · rfl
          · rfl
        | executing j =>
          simp only [step, State.pollStep, hi, hphase]
          split
          · rfl
          · rfl
        | fetched j =>
          rw [PollThread.InList, hphase] at hin
          simp [step, State.pollStep, hi, hphase, List.getElem?_eq_getElem hin]
        | sleeping => simp [step, State.pollStep, hi, hphase]
        | returned => exact absurd hphase hreturned
  | _ =>
    rw [hmain] at hwaits
    cases hwaits

/-- A run in which the main thread waits throughout. -/
inductive WaitsThrough (n : Nat) : State → List Event → State → Prop where
  | stays {s : State} (hwaits : s.main.waits) : WaitsThrough n s [] s
  | moves {s u s' : State} {e : Event} {es : List Event} (hwaits : s.main.waits) (hs : step n e s = some u)
      (hthen : WaitsThrough n u es s') : WaitsThrough n s (e :: es) s'

theorem WaitsThrough.first {es : List Event} (h : WaitsThrough n s es s') : s.main.waits := by
  cases h with
  | stays hwaits => exact hwaits
  | moves hwaits hs hthen => exact hwaits

theorem work_waitsThrough {es : List Event} (hthrough : WaitsThrough n s es s') (h : Inv n s) :
    es.countP (· ≠ .drain) + s'.work ≤ s.work ∧ s'.rounds = s.rounds := by
  induction hthrough with
  | stays => exact ⟨by simp, rfl⟩
  | @moves s u s' e es hwaits hs hthen ih =>
    obtain ⟨hwork, hrounds⟩ := ih (inv_step h hs)
    by_cases he : e = .drain
    · subst he
      obtain rfl := Option.some.inj hs
      refine ⟨?_, hrounds⟩
      rw [List.countP_cons_of_neg (by simp)]
      exact hwork
    · obtain ⟨hless, hsame⟩ := work_step h hwaits he hs hthen.first
      refine ⟨?_, hrounds.trans hsame⟩
      rw [List.countP_cons_of_pos (by simpa using he)]
      omega

/-- With calls that never initialize while polling, wherever the main thread waits for its
    threads, in `InitializeAllWorkers` or in `StopPolling`: it or one of the threads has a
    step, and for as long as it waits the threads take no more than `work` steps, whatever
    the schedule, and begin no round. -/
theorem waiting_ends (n : Nat) (program : List Call) (hsafe : Safe false program) (s : State)
    (h : Reachable n program s) (hwaits : s.main.waits) :
    (∃ e, e ≠ .drain ∧ (step n e s).isSome) ∧
    ∀ es s', WaitsThrough n s es s' → es.countP (· ≠ .drain) + s'.work ≤ s.work ∧ s'.rounds = s.rounds :=
  ⟨not_stuck (inv_reachable hsafe h) hwaits, fun _ _ hthrough => work_waitsThrough hthrough (inv_reachable hsafe h)⟩

/-- `StopPolling` is called there. -/
theorem waiting_ends_stop :
    ∃ s, run 1 (secondFetched ++ [.main, .main, .main]) (.start [.initializeAllWorkers, .startPolling, .stopPolling]) = some s ∧
      s.main = .clearing 0 ∧ s.work = 5 ∧ ∃ e, e ≠ .drain ∧ (step 1 e s).isSome := by
  have hseen : (run 1 (secondFetched ++ [.main, .main, .main]) (.start [.initializeAllWorkers, .startPolling, .stopPolling])).map
      (fun s => (s.main, s.work)) = some (.clearing 0, 5) := by decide
  obtain ⟨s, hs, hseen⟩ := Option.map_eq_some_iff.mp hseen
  obtain ⟨hmain, hwork⟩ := Prod.mk.inj hseen
  have hends := waiting_ends 1 [.initializeAllWorkers, .startPolling, .stopPolling] rfl s (reachable_of_run .refl hs)
    (by rw [hmain]; rfl)
  exact ⟨s, hs, hmain, hwork, hends.1⟩

end HardwareMonitor.SystemInfo.Workers
