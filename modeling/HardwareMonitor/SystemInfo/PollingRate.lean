/-
  HardwareMonitor.SystemInfo.PollingRate — when the executions of a worker's thread start
  (`IHardwarePipelineWorker::run`). Time is in ticks of the steady clock.

  The deadline grows by the interval with each turn, and is put forward to the present
  where the turn has overrun it. So it never falls behind the number of turns, and the
  clock is never behind it (`paced_turn`): the k-th execution starts no earlier than k
  intervals after the loop, and no burst makes up for lost time (`polling_rate`). With no
  turn late or too long the executions start on the interval, without drift.
-/

import Mathlib.Data.List.Basic

namespace HardwareMonitor.SystemInfo.PollingRate

/-- What a turn of the loop takes. -/
structure Turn where
  /-- From the head of the loop to the start of `execute`. -/
  lead : Nat
  /-- From there until the clock is read. -/
  duration : Nat
  /-- How long after its deadline a sleep ends, or after an overrun the turn. -/
  late : Nat
  deriving DecidableEq, Repr

/-- The clock and the deadline, at the head of the loop. -/
structure Loop where
  now : Nat
  next : Nat
  deriving DecidableEq, Repr

/-- When the turn's `execute` starts. -/
def Loop.start (s : Loop) (t : Turn) : Nat := s.now + t.lead

/-- The body of the loop. -/
def Loop.turn (pollInterval : Nat) (s : Loop) (t : Turn) : Loop :=
  let next := s.next + pollInterval
  let now := s.start t + t.duration
  if next > now then
    -- `sleep_until`
    { next := next, now := next + t.late }
  else { next := now, now := now + t.late }

/-- The starts of the executions, until a stop is requested. -/
def starts (pollInterval : Nat) : Loop → List Turn → List Nat
  | _, [] => []
  | s, t :: turns => s.start t :: starts pollInterval (s.turn pollInterval t) turns

/-- `run`, with the time it is called at. -/
def run (pollInterval called : Nat) (turns : List Turn) : List Nat :=
  starts pollInterval { now := called, next := called } turns

variable {pollInterval called k : Nat} {s : Loop} {turns : List Turn}

/-! ## No faster than the interval -/

/-- After `k` turns: the deadline has grown by `k` intervals at least, and is not ahead of
    the clock. -/
structure Paced (pollInterval called k : Nat) (s : Loop) : Prop where
  grown : called + k * pollInterval ≤ s.next
  reached : s.next ≤ s.now

theorem paced_turn (h : Paced pollInterval called k s) (t : Turn) :
    Paced pollInterval called (k + 1) (s.turn pollInterval t) := by
  obtain ⟨hgrown, hreached⟩ := h
  rw [Loop.turn]
  split
  · refine ⟨?_, Nat.le_add_right _ _⟩
    simp only [Nat.add_mul, Nat.one_mul]
    omega
  · rename_i hover
    refine ⟨?_, Nat.le_add_right _ _⟩
    simp only [Nat.add_mul, Nat.one_mul]
    omega

theorem starts_ge (h : Paced pollInterval called k s) {i start : Nat}
    (hi : (starts pollInterval s turns)[i]? = some start) : called + (k + i) * pollInterval ≤ start := by
  induction turns generalizing s k i with
  | nil => cases hi
  | cons t turns ih =>
    cases i with
    | zero =>
      obtain rfl := Option.some.inj hi
      have hgrown := h.grown
      have hreached := h.reached
      rw [Loop.start, Nat.add_zero]
      omega
    | succ i =>
      have hlater := ih (paced_turn h t) hi
      rwa [Nat.add_right_comm k 1 i, Nat.add_assoc k i 1] at hlater

theorem paced_called (pollInterval called : Nat) : Paced pollInterval called 0 { now := called, next := called } :=
  ⟨by simp, Nat.le_refl called⟩

theorem length_starts (pollInterval : Nat) (s : Loop) (turns : List Turn) :
    (starts pollInterval s turns).length = turns.length := by
  induction turns generalizing s with
  | nil => rfl
  | cons t turns ih => rw [starts, List.length_cons, List.length_cons, ih]

/-- What holds only before an index holds at most that often. -/
theorem countP_le {α : Type} {l : List α} {p : α → Bool} {n : Nat}
    (h : ∀ i x, l[i]? = some x → p x = true → i < n) : l.countP p ≤ n := by
  have hdrop : (l.drop n).countP p = 0 := by
    rw [List.countP_eq_zero]
    intro x hx hpx
    obtain ⟨i, hi⟩ := List.mem_iff_getElem?.mp hx
    rw [List.getElem?_drop] at hi
    exact absurd (h (n + i) x hi hpx) (by omega)
  calc l.countP p = (l.take n ++ l.drop n).countP p := by rw [List.take_append_drop]
    _ = (l.take n).countP p := by rw [List.countP_append, hdrop, Nat.add_zero]
    _ ≤ (l.take n).length := List.countP_le_length
    _ ≤ n := List.length_take_le n l

/-! ## No drift -/

/-- The turn starts at once, takes less than the interval, and its sleep ends on time. -/
structure Punctual (pollInterval : Nat) (t : Turn) : Prop where
  lead : t.lead = 0
  duration : t.duration < pollInterval
  late : t.late = 0

theorem punctual_turn {t : Turn} (h : Punctual pollInterval t) (now : Nat) :
    Loop.turn pollInterval { now := now, next := now } t = { now := now + pollInterval, next := now + pollInterval } := by
  obtain ⟨hlead, hduration, hlate⟩ := h
  simp only [Loop.turn, Loop.start, hlead, hlate]
  rw [if_pos (by omega)]
  rfl

theorem starts_punctual (called : Nat) (h : ∀ t ∈ turns, Punctual pollInterval t) {i : Nat} (hi : i < turns.length) :
    (run pollInterval called turns)[i]? = some (called + i * pollInterval) := by
  induction turns generalizing called i with
  | nil => cases hi
  | cons t turns ih =>
    have ht := h t List.mem_cons_self
    cases i with
    | zero =>
      show some (called + t.lead) = _
      rw [ht.lead, Nat.zero_mul]
    | succ i =>
      show (starts pollInterval (Loop.turn pollInterval { now := called, next := called } t) turns)[i]? = _
      rw [punctual_turn ht]
      have hlater := ih (called + pollInterval) (fun u hu => h u (List.mem_cons_of_mem t hu))
        (Nat.lt_of_succ_lt_succ hi)
      rw [run] at hlater
      rw [hlater, Nat.add_mul, Nat.one_mul, Nat.add_assoc called, Nat.add_comm pollInterval]

/-! ## The rate -/

/-- Each turn executes once. The k-th execution starts no earlier than k intervals after
    the call, so no more than one for each interval, and one, start in a time; and with
    every turn punctual it starts then exactly. -/
theorem polling_rate (pollInterval called : Nat) (turns : List Turn) (hinterval : 0 < pollInterval) :
    (run pollInterval called turns).length = turns.length ∧
    (∀ k start, (run pollInterval called turns)[k]? = some start → called + k * pollInterval ≤ start) ∧
    (∀ time, (run pollInterval called turns).countP (fun start => start ≤ called + time) ≤ time / pollInterval + 1) ∧
    ((∀ t ∈ turns, Punctual pollInterval t) →
      ∀ k < turns.length, (run pollInterval called turns)[k]? = some (called + k * pollInterval)) := by
  have hge : ∀ k start, (run pollInterval called turns)[k]? = some start → called + k * pollInterval ≤ start := by
    intro k start hk
    have hstart := starts_ge (paced_called pollInterval called) hk
    rwa [Nat.zero_add] at hstart
  refine ⟨length_starts .., hge, fun time => countP_le fun k start hk htime => ?_, fun h k hk => starts_punctual called h hk⟩
  have hle : called + k * pollInterval ≤ called + time := Nat.le_trans (hge k start hk) (of_decide_eq_true htime)
  exact Nat.lt_succ_of_le ((Nat.le_div_iff_mul_le hinterval).mpr (by omega))

/-- A turn that overruns, one whose sleep ends late, and one on time. -/
theorem polling_rate_mixed :
    run 10 100 [⟨0, 25, 0⟩, ⟨0, 3, 4⟩, ⟨0, 3, 0⟩, ⟨0, 0, 0⟩] = [100, 125, 139, 145] ∧
      (run 10 100 [⟨0, 25, 0⟩, ⟨0, 3, 4⟩, ⟨0, 3, 0⟩, ⟨0, 0, 0⟩]).countP (fun start => start ≤ 100 + 39) ≤ 39 / 10 + 1 :=
  ⟨by decide, (polling_rate 10 100 _ (by decide)).2.2.1 39⟩

end HardwareMonitor.SystemInfo.PollingRate
