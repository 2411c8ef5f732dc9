/-
  HardwareMonitor.SystemInfo.WorkerRaces — whether two threads can meet in the members of
  one worker. They cannot, in any interleaving, exactly if the calls of the main thread do
  not initialize the workers while they are polled (`exclusive_iff`).

  The race is reached from calls made one after the other with nothing else going on: each
  of them can be carried out, and leaves a quiet state.
-/

import HardwareMonitor.SystemInfo.WorkerRounds

namespace HardwareMonitor.SystemInfo.Workers

open HardwareMonitor.OpcUa

variable {n : Nat} {s s' : State}

/-! ## Quiet states -/

/-- The threads of `run`, each at the head of its loop. -/
def heads (k : Nat) : List PollThread := (List.range k).map fun j => ⟨j, .head, false⟩

/-- Between two calls, with nothing else under way. -/
def State.quiet (n : Nat) (polling : Bool) (program : List Call) (s : State) : State :=
  { s with program := program, main := .between, threads := [], workerThreads := heads (if polling then n else 0) }

/-- A list of threads in which one gets on. -/
theorem map_range_set {α : Type} {f f' : Nat → α} {i : Nat} {a : α} (hi : i < n) (ha : a = f' i)
    (h : ∀ j, j ≠ i → f j = f' j) : ((List.range n).map f).set i a = (List.range n).map f' := by
  apply List.ext_getElem? fun j => ?_
  by_cases hij : i = j
  · rw [← hij, List.getElem?_set_self (by rwa [List.length_map, List.length_range]), List.getElem?_map,
      List.getElem?_range hi, ha]
    rfl
  · rw [List.getElem?_set_ne hij, List.getElem?_map, List.getElem?_map]
    by_cases hj : j < n
    · rw [List.getElem?_range hj]
      exact congrArg some (h j (Ne.symm hij))
    · rw [List.getElem?_eq_none (by rw [List.length_range]; omega)]
      rfl

theorem getElem?_map_range {α : Type} {f : Nat → α} {i : Nat} (hi : i < n) : ((List.range n).map f)[i]? = some (f i) := by
  rw [List.getElem?_map, List.getElem?_range hi]
  rfl

theorem getElem?_map_range_self {α : Type} (n : Nat) (f : Nat → α) : ((List.range n).map f)[n]? = none :=
  List.getElem?_eq_none (by simp)

variable (n) (s)

/-- All threads of `initialize` are made. -/
theorem spawned {k : Nat} (hk : k ≤ n) :
    Relation.ReflTransGen (Moves n)
      { s with main := .spawning k, threads := (List.range k).map fun j => ⟨j, .created⟩ }
      { s with main := .joining 0, threads := (List.range n).map fun j => ⟨j, .created⟩ } := by
  induction hleft : n - k generalizing k with
  | zero =>
    obtain rfl : k = n := by omega
    exact .single ⟨.main, by simp [step, State.mainStep]⟩
  | succ left ih =>
    refine .head ⟨.main, ?_⟩ (ih (k := k + 1) (by omega) (by omega))
    simp [step, State.mainStep, show k < n by omega, List.range_succ]

/-- Each of them returns, and is joined. -/
theorem joined {i : Nat} (hi : i ≤ n) :
    Relation.ReflTransGen (Moves n)
      { s with main := .joining i, threads := (List.range n).map fun j => ⟨j, if j < i then .returned else .created⟩ }
      { s with main := .between, threads := [] } := by
  induction hleft : n - i generalizing i with
  | zero =>
    obtain rfl : i = n := by omega
    refine .single ⟨.main, ?_⟩
    simp only [step, State.mainStep, getElem?_map_range_self]
  | succ left ih =>
    have hlt : i < n := by omega
    have hthen := ih (i := i + 1) (by omega) (by omega)
    let working : List SetupThread :=
      (List.range n).map fun j => ⟨j, if j < i then .returned else if j = i then .initializing else .created⟩
    have hinitializing : Moves n
        { s with main := .joining i, threads := (List.range n).map fun j => ⟨j, if j < i then .returned else .created⟩ }
        { s with main := .joining i, threads := working } := by
      refine ⟨.setup i [], ?_⟩
      simp only [step, State.setupStep, getElem?_map_range hlt, Nat.lt_irrefl, if_false, Option.some.injEq]
      congr 1
      refine map_range_set hlt (by simp) fun j hj => ?_
      simp [hj]
    have hreturned : Moves n
        { s with main := .joining i, threads := working }
        { s with main := .joining i, threads := (List.range n).map fun j => ⟨j, if j < i + 1 then .returned else .created⟩ } := by
      refine ⟨.setup i (s.devices i), ?_⟩
      simp only [working, step, State.setupStep, getElem?_map_range hlt, Nat.lt_irrefl, if_false, if_true,
        Function.update_eq_self, Option.some.injEq]
      congr 1
      refine map_range_set hlt (by simp) fun j hj => ?_
      have hsame : j < i ↔ j < i + 1 := by omega
      simp [hj, hsame]
    refine .head hinitializing (.head hreturned (.head ⟨.main, ?_⟩ hthen))
    simp [step, State.mainStep, getElem?_map_range hlt]

/-- All threads of `run` are made. -/
theorem started {k : Nat} (hk : k ≤ n) :
    Relation.ReflTransGen (Moves n) { s with main := .starting k, workerThreads := heads k }
      { s with main := .between, workerThreads := heads n } := by
  induction hleft : n - k generalizing k with
  | zero =>
    obtain rfl : k = n := by omega
    exact .single ⟨.main, by simp [step, State.mainStep]⟩
  | succ left ih =>
    refine .head ⟨.main, ?_⟩ (ih (k := k + 1) (by omega) (by omega))
    simp [step, State.mainStep, show k < n by omega, List.range_succ, heads]

variable (m : Nat)

/-- They are requested to stop, one after the other, where they are. -/
theorem requested {i : Nat} (hi : i ≤ m) :
    Relation.ReflTransGen (Moves n)
      { s with main := .requesting i, workerThreads := (List.range m).map fun j => ⟨j, .head, decide (j < i)⟩ }
      { s with main := .clearing 0, workerThreads := (List.range m).map fun j => ⟨j, .head, true⟩ } := by
  induction hleft : m - i generalizing i with
  | zero =>
    obtain rfl : i = m := by omega
    refine .single ⟨.main, ?_⟩
    simp only [step, State.mainStep, getElem?_map_range_self, Option.some.injEq]
    congr 1
    refine List.map_congr_left fun j hj => ?_
    rw [decide_eq_true (List.mem_range.mp hj)]
  | succ left ih =>
    have hlt : i < m := by omega
    refine .head ⟨.main, ?_⟩ (ih (i := i + 1) (by omega) (by omega))
    simp only [step, State.mainStep, getElem?_map_range hlt, Option.some.injEq]
    congr 1
    refine map_range_set hlt (by simp) fun j hj => ?_
    have hsame : j < i ↔ j < i + 1 := by omega
    simp [hsame]

/-- Each of them finds the request, returns, and is joined. -/
theorem cleared {i : Nat} (hi : i ≤ m) :
    Relation.ReflTransGen (Moves n)
      { s with main := .clearing i, workerThreads := (List.range m).map fun j => ⟨j, if j < i then .returned else .head, true⟩ }
      { s with main := .between, workerThreads := [] } := by
  induction hleft : m - i generalizing i with
  | zero =>
    obtain rfl : i = m := by omega
    refine .single ⟨.main, ?_⟩
    simp only [step, State.mainStep, getElem?_map_range_self]
  | succ left ih =>
    have hlt : i < m := by omega
    have hthen := ih (i := i + 1) (by omega) (by omega)
    have hreturned : Moves n
        { s with
          main := .clearing i
          workerThreads := (List.range m).map fun j => ⟨j, if j < i then .returned else .head, true⟩ }
        { s with
          main := .clearing i
          workerThreads := (List.range m).map fun j => ⟨j, if j < i + 1 then .returned else .head, true⟩ } := by
      refine ⟨.poll i ⟨"", "", "", [], 0⟩, ?_⟩
      simp only [step, State.pollStep, State.setPhase, getElem?_map_range hlt, Nat.lt_irrefl, if_false, if_true,
        Option.some.injEq]
      congr 1
      refine map_range_set hlt (by simp) fun j hj => ?_
      have hsame : j < i ↔ j < i + 1 := by omega
      simp [hsame]
    refine .head hreturned (.head ⟨.main, ?_⟩ hthen)
    simp [step, State.mainStep, getElem?_map_range hlt]

/-- Whether the call leaves the threads of `run` polling. -/
def Call.polls : Call → Bool
  | .startPolling => true
  | _ => false

variable {n} {s}

/-- A call that is in order can be made from a quiet state, and leaves one. -/
theorem quiet_call (hn : 0 < n) {polling : Bool} {call : Call} {program : List Call}
    (hcall : call = .initializeAllWorkers → polling = false) :
    Relation.ReflTransGen (Moves n) (s.quiet n polling (call :: program)) (s.quiet n call.polls program) := by
  cases call with
  | initializeAllWorkers =>
    obtain rfl := hcall rfl
    let idle : State := { s with program := program, workerThreads := [] }
    have hmove : Moves n (s.quiet n false (.initializeAllWorkers :: program)) { idle with main := .spawning 0, threads := [] } :=
      ⟨.main, rfl⟩
    have hspawned := spawned n idle (Nat.zero_le n)
    have hjoined := joined n idle (Nat.zero_le n)
    simp only [Nat.not_lt_zero, if_false] at hjoined
    exact .head hmove (hspawned.trans hjoined)
  | startPolling =>
    cases polling with
    | true =>
      refine .single ⟨.main, ?_⟩
      have hpolling : (heads n).isEmpty = false := by
        rw [heads, List.isEmpty_eq_false_iff, ne_eq, List.map_eq_nil_iff, List.range_eq_nil]
        omega
      simp only [step, State.mainStep, State.quiet, if_true, hpolling, Bool.not_false, Call.polls]
    | false =>
      let idle : State := { s with program := program, threads := [] }
      have hmove : Moves n (s.quiet n false (.startPolling :: program)) { idle with main := .starting 0, workerThreads := heads 0 } :=
        ⟨.main, rfl⟩
      exact .head hmove (started n idle (Nat.zero_le n))
  | stopPolling =>
    let idle : State := { s with program := program, threads := [] }
    have hmove : Moves n (s.quiet n polling (.stopPolling :: program))
        { idle with main := .requesting 0, workerThreads := heads (if polling then n else 0) } := ⟨.main, rfl⟩
    have hrequested := requested n idle (if polling then n else 0) (Nat.zero_le _)
    have hcleared := cleared n idle (if polling then n else 0) (Nat.zero_le _)
    simp only [Nat.not_lt_zero, if_false, decide_false] at hrequested hcleared
    exact .head hmove (hrequested.trans hcleared)

/-! ## A race -/

/-- A worker that is initialized while it is polled. -/
theorem race (hn : 0 < n) (program : List Call) :
    ∃ s', Relation.ReflTransGen (Moves n) (s.quiet n true (.initializeAllWorkers :: program)) s' ∧ 1 < s'.inside 0 := by
  obtain ⟨m, rfl⟩ : ∃ m, n = m + 1 := ⟨n - 1, by omega⟩
  let others := (heads (m + 1)).tail
  have hheads : heads (m + 1) = ⟨0, .head, false⟩ :: others := by
    simp only [others, heads, List.range_succ_eq_map, List.map_cons, List.tail_cons]
  let executing : State :=
    { s with
      program := .initializeAllWorkers :: program
      main := .between
      threads := []
      workerThreads := ⟨0, .executing 0, false⟩ :: others
      rounds := s.rounds ++ [(0, s.devices 0)] }
  have hexecuting : Moves (m + 1) (s.quiet (m + 1) true (.initializeAllWorkers :: program)) executing := by
    refine ⟨.poll 0 ⟨"", "", "", [], 0⟩, ?_⟩
    simp [step, State.pollStep, State.quiet, State.setPhase, hheads, executing]
  have hcalled : Moves (m + 1) executing { executing with program := program, main := .spawning 0 } := ⟨.main, rfl⟩
  have hspawned : Moves (m + 1) { executing with program := program, main := .spawning 0 }
      { executing with program := program, main := .spawning 1, threads := [⟨0, .created⟩] } := by
    refine ⟨.main, ?_⟩
    simp [step, State.mainStep, executing]
  have hinitializing : Moves (m + 1) { executing with program := program, main := .spawning 1, threads := [⟨0, .created⟩] }
      { executing with program := program, main := .spawning 1, threads := [⟨0, .initializing⟩] } := ⟨.setup 0 [], rfl⟩
  refine ⟨_, .head hexecuting (.head hcalled (.head hspawned (.single hinitializing))), ?_⟩
  simp only [State.inside, executing, List.countP_cons, PollThread.inExecute]
  simp

/-- The calls before the first that is out of order. -/
theorem out_of_order {polling : Bool} {program : List Call} (h : ¬ Safe polling program) :
    ∃ before rest, program = before ++ .initializeAllWorkers :: rest ∧ Safe polling before ∧
      (before.foldl (fun _ call => call.polls) polling) = true := by
  induction program generalizing polling with
  | nil => exact absurd rfl h
  | cons call program ih =>
    by_cases hcall : call = .initializeAllWorkers ∧ polling = true
    · obtain ⟨rfl, rfl⟩ := hcall
      exact ⟨[], program, rfl, rfl, rfl⟩
    · have hlater : ¬ Safe call.polls program := by
        cases call with
        | initializeAllWorkers =>
          have hpolling : polling = false := by simpa using hcall
          subst hpolling
          exact h
        | startPolling => exact h
        | stopPolling => exact h
      obtain ⟨before, rest, rfl, hsafe, hpolls⟩ := ih hlater
      refine ⟨call :: before, rest, rfl, ?_, hpolls⟩
      cases call with
      | initializeAllWorkers =>
        have hpolling : polling = false := by simpa using hcall
        subst hpolling
        exact hsafe
      | startPolling => exact hsafe
      | stopPolling => exact hsafe

/-- Calls that are in order can be made one after the other. -/
theorem quiet_calls (hn : 0 < n) {polling : Bool} {before : List Call} (rest : List Call) (hsafe : Safe polling before) :
    Relation.ReflTransGen (Moves n) (s.quiet n polling (before ++ rest))
      (s.quiet n (before.foldl (fun _ call => call.polls) polling) rest) := by
  induction before generalizing polling with
  | nil => exact .refl
  | cons call before ih =>
    have hcall : call = .initializeAllWorkers → polling = false := by
      rintro rfl
      simp only [Safe, Bool.and_eq_true, Bool.not_eq_true'] at hsafe
      exact hsafe.1
    have hlater : Safe call.polls before := by
      cases call with
      | initializeAllWorkers =>
        simp only [Safe, Bool.and_eq_true, Bool.not_eq_true'] at hsafe
        exact hsafe.2
      | startPolling => exact hsafe
      | stopPolling => exact hsafe
    exact (quiet_call hn hcall).trans (ih hlater)

/-- Without workers there are no threads. -/
theorem no_threads {program : List Call} (h : Reachable 0 program s) : s.threads = [] ∧ s.workerThreads = [] := by
  induction h with
  | refl => exact ⟨rfl, rfl⟩
  | @tail u v _ hmove ih =>
    obtain ⟨hthreads, hidle⟩ := ih
    obtain ⟨e, he⟩ := hmove
    cases e with
    | setup i found => simp [step, State.setupStep, hthreads] at he
    | poll i reading => simp [step, State.pollStep, hidle] at he
    | drain =>
      obtain rfl := Option.some.inj he
      exact ⟨hthreads, hidle⟩
    | main =>
      simp only [step, State.mainStep, hthreads, hidle, List.getElem?_nil, Nat.not_lt_zero, if_false] at he
      split at he
      · split at he
        · cases he
        all_goals
          obtain rfl := Option.some.inj he
          exact ⟨rfl, rfl⟩
      all_goals
        obtain rfl := Option.some.inj he
        exact ⟨rfl, rfl⟩

/-- In every interleaving at most one thread at a time is in the members of a worker,
    exactly if the calls never initialize the workers while they are polled (or there are
    no workers). -/
theorem exclusive_iff (n : Nat) (program : List Call) :
    (∀ s, Reachable n program s → ∀ k, s.inside k ≤ 1) ↔ n = 0 ∨ Safe false program := by
  constructor
  · intro hexclusive
    by_contra hnot
    rw [not_or] at hnot
    obtain ⟨hn, hunsafe⟩ := hnot
    obtain ⟨before, rest, rfl, hsafe, hpolls⟩ := out_of_order hunsafe
    have hquiet : (State.start (before ++ .initializeAllWorkers :: rest)).quiet n false (before ++ .initializeAllWorkers :: rest) =
        .start (before ++ .initializeAllWorkers :: rest) := rfl
    have hcalls := quiet_calls (s := .start (before ++ .initializeAllWorkers :: rest)) (Nat.pos_of_ne_zero hn)
      (.initializeAllWorkers :: rest) hsafe
    rw [hpolls, hquiet] at hcalls
    obtain ⟨s', hrace, hinside⟩ := race (s := .start (before ++ .initializeAllWorkers :: rest)) (Nat.pos_of_ne_zero hn) rest
    have hle := hexclusive s' (hcalls.trans hrace) 0
    omega
  · intro h s hs k
    rcases h with rfl | hsafe
    · obtain ⟨hthreads, hidle⟩ := no_threads hs
      simp [State.inside, hthreads, hidle]
    · exact inside_le (inv_reachable hsafe hs) k

end HardwareMonitor.SystemInfo.Workers
