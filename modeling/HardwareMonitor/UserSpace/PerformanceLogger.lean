/-
  HardwareMonitor.UserSpace.PerformanceLogger — the logger the worker threads and the
  client share (`user_space_common/PerformanceLogger.h`).

  `start` and `stop` each take `mutex_` once, so a run of any number of threads is a list
  of calls in the order they get it. Between a thread's `start` and its `stop` other
  threads may call, and the logger has room for one label and one start time: a `stop`
  records the pair it belongs to exactly if the call right before it is a `start` with
  that pair's label and time (`timings_attributed_iff`). Pairs that do not overlap are recorded;
  of two that do, one is lost, and the other one's `stop` may time it from a start that
  was not its own.
-/

namespace HardwareMonitor.UserSpace

/-- A line of the log. `elapsed` is `end - start_time_`, in ticks of the clock. -/
structure Record where
  epochMs : Int
  label : String
  elapsed : Int
  deriving DecidableEq, Repr

structure PerformanceLogger where
  stream : List Record
  activeLabel : String
  startTime : Int
  deriving DecidableEq, Repr

namespace PerformanceLogger

/-- As constructed. -/
def empty : PerformanceLogger := ⟨[], "", 0⟩

/-- `start`, which reads the clock under the mutex. -/
def start (logger : PerformanceLogger) (label : String) (now : Int) : PerformanceLogger :=
  { logger with activeLabel := label, startTime := now }

/-- `stop`: `endTime` was read before the mutex was taken. -/
def stop (logger : PerformanceLogger) (endTime epochMs : Int) : PerformanceLogger :=
  if logger.activeLabel = "" then logger
  else
    { logger with
      stream := logger.stream ++ [⟨epochMs, logger.activeLabel, endTime - logger.startTime⟩]
      activeLabel := "" }

/-! ## Runs -/

/-- A call, with what the clocks show in it. -/
inductive Call where
  | start (label : String) (now : Int)
  | stop (endTime epochMs : Int)
  deriving DecidableEq, Repr

/-- The calls of a run, each with the thread it belongs to. -/
abbrev Run := List (Nat × Call)

def step (logger : PerformanceLogger) : Call → PerformanceLogger
  | .start label now => logger.start label now
  | .stop endTime epochMs => logger.stop endTime epochMs

def run (es : Run) : PerformanceLogger := es.foldl (fun logger e => logger.step e.2) empty

@[simp] theorem run_nil : run [] = empty := rfl

theorem run_snoc (es : Run) (e : Nat × Call) : run (es ++ [e]) = (run es).step e.2 := by
  rw [run, List.foldl_append]
  rfl

/-! ## Pairs -/

def callsOf (thread : Nat) (es : Run) : List Call := (es.filter fun e => e.1 = thread).map (·.2)

/-- `start` and `stop` in turn, as in the loop of a worker. -/
def Alternates : List Call → Prop
  | [] => True
  | [.start _ _] => True
  | .start _ _ :: .stop _ _ :: rest => Alternates rest
  | _ => False

instance instDecidableAlternates : (calls : List Call) → Decidable (Alternates calls)
  | [] => .isTrue trivial
  | [.start _ _] => .isTrue trivial
  | .start _ _ :: .stop _ _ :: rest => instDecidableAlternates rest
  | .stop _ _ :: _ => .isFalse id
  | .start _ _ :: .start _ _ :: _ => .isFalse id

/-- The threads execute pairs, the last of which may not have come to its `stop` yet. -/
def Paired (es : Run) : Prop := ∀ e ∈ es, Alternates (callsOf e.1 es)

instance (es : Run) : Decidable (Paired es) := inferInstanceAs (Decidable (∀ e ∈ es, _))

/-- After `before`, the thread is between the `start` of a pair and its `stop`. -/
def Started (before : Run) (thread : Nat) (label : String) (now : Int) : Prop :=
  (callsOf thread before).getLast? = some (.start label now)

theorem callsOf_append (thread : Nat) (es fs : Run) : callsOf thread (es ++ fs) = callsOf thread es ++ callsOf thread fs := by
  rw [callsOf, List.filter_append, List.map_append]
  rfl

/-- Before a `stop` comes its `start`. -/
theorem alternates_stop {before after : List Call} {endTime epochMs : Int}
    (h : Alternates (before ++ .stop endTime epochMs :: after)) : ∃ label now, before.getLast? = some (.start label now) := by
  match before, h with
  | [.start label now], _ => exact ⟨label, now, rfl⟩
  | .start _ _ :: .stop _ _ :: [], h => cases after <;> cases h
  | .start _ _ :: .stop _ _ :: call :: rest, h =>
    have hrest : ∃ label now, (call :: rest).getLast? = some (.start label now) := alternates_stop h
    obtain ⟨label, now, hlast⟩ := hrest
    exact ⟨label, now, by rw [List.getLast?_cons_cons, List.getLast?_cons_cons, hlast]⟩

theorem Paired.started {es before after : Run} {thread : Nat} {endTime epochMs : Int} (h : Paired es)
    (hes : es = before ++ (thread, .stop endTime epochMs) :: after) : ∃ label now, Started before thread label now := by
  have hcalls : callsOf thread es = callsOf thread before ++ .stop endTime epochMs :: callsOf thread after := by
    rw [hes, callsOf_append]
    simp [callsOf]
  have halternates := h (thread, .stop endTime epochMs) (by rw [hes]; simp)
  rw [hcalls] at halternates
  exact alternates_stop halternates

/-! ## What a stop records -/

/-- After a `stop` there is no label, whether or not it recorded one. -/
theorem stop_activeLabel (logger : PerformanceLogger) (endTime epochMs : Int) :
    (logger.stop endTime epochMs).activeLabel = "" := by
  unfold stop
  split
  · assumption
  · rfl

/-- What a `stop` records depends on the call right before it alone. -/
theorem stop_records (es : Run) (endTime epochMs : Int) :
    ((run es).stop endTime epochMs).stream = (run es).stream ++
      match es.getLast? with
      | some (_, .start label now) => if label = "" then [] else [⟨epochMs, label, endTime - now⟩]
      | _ => [] := by
  rcases List.eq_nil_or_concat es with rfl | ⟨before, ⟨thread, call⟩, rfl⟩
  · rfl
  · rw [List.concat_eq_append, List.getLast?_concat, run_snoc]
    cases call with
    | start label now =>
      by_cases hlabel : label = ""
      · simp [step, start, stop, hlabel]
      · simp [step, start, stop, hlabel]
    | stop earlierEnd earlierMs =>
      simp only [step, List.append_nil]
      rw [stop, if_pos (stop_activeLabel _ _ _)]

/-! ## Attribution -/

/-- Every `stop` appends one record: that of the `start` it belongs to. -/
def Attributed (es : Run) : Prop :=
  ∀ before thread endTime epochMs after, es = before ++ (thread, .stop endTime epochMs) :: after →
    ∃ label now, Started before thread label now ∧
      ((run before).stop endTime epochMs).stream = (run before).stream ++ [⟨epochMs, label, endTime - now⟩]

/-- The call right before a `stop` is the `start` it belongs to, or one of another thread
    with the same label at the same time; and the label is not empty. -/
def Undisturbed (es : Run) : Prop :=
  ∀ before thread endTime epochMs after, es = before ++ (thread, .stop endTime epochMs) :: after →
    ∀ label now, Started before thread label now → label ≠ "" ∧ ∃ other, before.getLast? = some (other, .start label now)

/-- One `stop`. -/
theorem stop_attributed_iff (before : Run) (endTime epochMs : Int) (label : String) (now : Int) :
    ((run before).stop endTime epochMs).stream = (run before).stream ++ [⟨epochMs, label, endTime - now⟩] ↔
      label ≠ "" ∧ ∃ other, before.getLast? = some (other, .start label now) := by
  rw [stop_records, List.append_cancel_left_eq]
  constructor
  · intro h
    split at h
    · rename_i other label' now' hlast
      split at h
      · cases h
      · rename_i hlabel
        obtain ⟨-, rfl, helapsed⟩ := Record.mk.inj (List.cons.inj h).1
        obtain rfl : now' = now := by omega
        exact ⟨hlabel, other, hlast⟩
    · cases h
  · intro hfound
    obtain ⟨hlabel, other, hlast⟩ := hfound
    rw [hlast]
    exact if_neg hlabel

/-- A run of threads that call `start` and `stop` in pairs is logged right exactly if no
    call of another thread comes between the two calls of a pair, but for a `start` that
    records the same. -/
theorem timings_attributed_iff {es : Run} (hpaired : Paired es) : Attributed es ↔ Undisturbed es := by
  constructor
  · intro h before thread endTime epochMs after hes label now hstarted
    obtain ⟨label', now', hstarted', hstream⟩ := h before thread endTime epochMs after hes
    obtain ⟨rfl, rfl⟩ := Call.start.inj (Option.some.inj (hstarted.symm.trans hstarted'))
    exact (stop_attributed_iff before endTime epochMs label now).mp hstream
  · intro h before thread endTime epochMs after hes
    obtain ⟨label, now, hstarted⟩ := hpaired.started hes
    exact ⟨label, now, hstarted,
      (stop_attributed_iff before endTime epochMs label now).mpr (h before thread endTime epochMs after hes label now hstarted)⟩

/-- Two workers, one after the other. -/
def inTurn : Run :=
  [(1, .start "cpu_loop" 0), (1, .stop 20 1020), (2, .start "gpu_loop" 30), (2, .stop 40 1040)]

/-- The GPU's worker starts while the CPU's is in its loop. -/
def overlapping : Run :=
  [(1, .start "cpu_loop" 0), (2, .start "gpu_loop" 10), (1, .stop 20 1020), (2, .stop 30 1030)]

theorem attributed_inTurn : Attributed inTurn := by
  refine (timings_attributed_iff (by decide)).mpr ?_
  intro before thread endTime epochMs after hes label now hstarted
  match before, hes with
  | [], hes => cases hes
  | [_], hes =>
    cases hes
    cases hstarted
    exact ⟨by decide, 1, rfl⟩
  | [_, _], hes => cases hes
  | [_, _, _], hes =>
    cases hes
    cases hstarted
    exact ⟨by decide, 2, rfl⟩
  | _ :: _ :: _ :: _ :: _, hes => simp [inTurn] at hes

/-- The CPU's `stop` is recorded as the GPU's, timed from the GPU's `start`; the GPU's own
    is lost. -/
theorem overlapping_misattributed :
    Paired overlapping ∧ (run overlapping).stream = [⟨1020, "gpu_loop", 10⟩] ∧ ¬ Attributed overlapping := by
  refine ⟨by decide, by decide, fun h => ?_⟩
  obtain ⟨label, now, hstarted, hstream⟩ := h (overlapping.take 2) 1 20 1020 (overlapping.drop 3) rfl
  cases hstarted
  exact absurd hstream (by decide)

end PerformanceLogger

end HardwareMonitor.UserSpace
