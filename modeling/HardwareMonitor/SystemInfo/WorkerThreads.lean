/-
  HardwareMonitor.SystemInfo.WorkerThreads — the invariant of a `HardwareManager` and its
  threads, as long as the calls do not initialize the workers while they are polled: where
  the main thread is, which threads there are, how far each round has come. Kept by every
  step of every thread (`inv_reachable`).
-/

import HardwareMonitor.SystemInfo.Workers

namespace HardwareMonitor.SystemInfo.Workers

open HardwareMonitor.OpcUa

/-! ## The invariant -/

/-- What the position of the main thread says. -/
def State.Positioned (n : Nat) (s : State) : Prop :=
  match s.main with
  | .between => s.threads = [] ∧ ∃ polling, Safe polling s.program ∧ (s.workerThreads ≠ [] → polling = true)
  | .spawning k => s.workerThreads = [] ∧ Safe false s.program ∧ s.threads.length = k ∧ k ≤ n
  | .joining i =>
    s.workerThreads = [] ∧ Safe false s.program ∧ ∀ (j : Nat) t, s.threads[j]? = some t → j < i → t.phase = .returned
  | .starting k => s.threads = [] ∧ Safe true s.program ∧ s.workerThreads.length = k ∧ k ≤ n
  | .requesting i =>
    s.threads = [] ∧ Safe false s.program ∧
      ∀ (j : Nat) t, s.workerThreads[j]? = some t → j < i → t.stopRequested = true
  | .clearing i =>
    s.threads = [] ∧ Safe false s.program ∧ (∀ t ∈ s.workerThreads, t.stopRequested = true) ∧
      ∀ (j : Nat) t, s.workerThreads[j]? = some t → j < i → t.phase = .returned

/-- The thread is within its list. -/
def PollThread.InList (t : PollThread) (devices : List Nat) : Prop :=
  match t.phase with
  | .executing j => j ≤ devices.length
  | .fetched j => j < devices.length
  | _ => True

structure Inv (n : Nat) (s : State) : Prop where
  positioned : s.Positioned n
  /-- The threads are those of the first workers, each at its own index. -/
  setupWorker : ∀ (i : Nat) t, s.threads[i]? = some t → t.worker = i
  pollWorker : ∀ (i : Nat) t, s.workerThreads[i]? = some t → t.worker = i
  inList : ∀ t ∈ s.workerThreads, t.InList (s.devices t.worker)
  account : ∀ k, s.sourcesOf k ++ s.remaining k = (s.roundsOf k).flatten
  queued : s.queue.drained ++ s.queue.queue.queue = s.pushes.map (·.2)
  open' : s.queue.queue.shuttingDown = false

variable {n : Nat} {s s' : State}

theorem inv_start {program : List Call} (h : Safe false program) : Inv n (.start program) where
  positioned := ⟨rfl, false, h, fun hne => absurd rfl hne⟩
  setupWorker := by
    intro i t hi
    cases hi
  pollWorker := by
    intro i t hi
    cases hi
  inList := by
    intro t ht
    cases ht
  account := fun _ => rfl
  queued := rfl
  open' := rfl

/-- What a step of the main thread may change keeps the accounts. -/
theorem Inv.of_positioned (h : Inv n s) {program : List Call} {main : Main}
    (hpos : ({ s with program := program, main := main } : State).Positioned n) :
    Inv n { s with program := program, main := main } :=
  ⟨hpos, h.setupWorker, h.pollWorker, h.inList, h.account, h.queued, h.open'⟩

/-- A call of the main thread. -/
theorem inv_call (h : Inv n s) (hmain : s.main = .between) (hs : s.mainStep n = some s') : Inv n s' := by
  have hpos := h.positioned
  simp only [State.Positioned, hmain] at hpos
  obtain ⟨hthreads, polling, hsafe, hpolling⟩ := hpos
  simp only [State.mainStep, hmain] at hs
  cases hprogram : s.program with
  | nil => simp [hprogram] at hs
  | cons call program =>
    rw [hprogram] at hsafe hs
    cases call with
    | initializeAllWorkers =>
      obtain rfl := Option.some.inj hs
      simp only [Safe, Bool.and_eq_true, Bool.not_eq_true'] at hsafe
      have hidle : s.workerThreads = [] := by
        by_contra hne
        rw [hpolling hne] at hsafe
        cases hsafe.1
      refine h.of_positioned ⟨hidle, hsafe.2, ?_, Nat.zero_le n⟩
      rw [hthreads]
      rfl
    | startPolling =>
      simp only at hs
      split at hs
      · obtain rfl := Option.some.inj hs
        exact h.of_positioned ⟨hthreads, true, hsafe, fun _ => rfl⟩
      · rename_i hidle
        obtain rfl := Option.some.inj hs
        refine h.of_positioned ⟨hthreads, hsafe, ?_, Nat.zero_le n⟩
        rw [Bool.not_eq_true, Bool.not_eq_false', List.isEmpty_iff] at hidle
        rw [hidle]
        rfl
    | stopPolling =>
      obtain rfl := Option.some.inj hs
      exact h.of_positioned ⟨hthreads, hsafe, fun _ _ _ hj => absurd hj (Nat.not_lt_zero _)⟩

/-- Threads appended at their own index keep it. -/
theorem worker_append {α : Type} {worker : α → Nat} {l : List α} {a : α} (h : ∀ (i : Nat) t, l[i]? = some t → worker t = i)
    (ha : worker a = l.length) : ∀ (i : Nat) t, (l ++ [a])[i]? = some t → worker t = i := by
  intro i t hi
  rcases Nat.lt_trichotomy i l.length with hlt | heq | hgt
  · rw [List.getElem?_append_left hlt] at hi
    exact h i t hi
  · rw [heq, List.getElem?_concat_length] at hi
    obtain rfl := Option.some.inj hi
    rw [ha, heq]
  · rw [List.getElem?_eq_none (by simp; omega)] at hi
    cases hi

/-- A thread that is replaced by one of its worker keeps its index. -/
theorem worker_set {α : Type} {worker : α → Nat} {l : List α} {i : Nat} {t t' : α}
    (h : ∀ (i : Nat) t, l[i]? = some t → worker t = i) (ht : l[i]? = some t) (ht' : worker t' = worker t) :
    ∀ (j : Nat) u, (l.set i t')[j]? = some u → worker u = j := by
  intro j u hu
  by_cases hij : i = j
  · obtain rfl := hij
    have hlt := (List.getElem?_eq_some_iff.mp ht).1
    rw [List.getElem?_set_self hlt] at hu
    rw [← Option.some.inj hu, ht', h i t ht]
  · rw [List.getElem?_set_ne hij] at hu
    exact h j u hu

theorem rest_of_returned {t : PollThread} (h : t.phase = .returned) (devices : List Nat) : t.rest devices = [] := by
  rw [PollThread.rest, h]

/-- A thread of `initialize` is made, or all are. -/
theorem inv_spawning (h : Inv n s) {k : Nat} (hmain : s.main = .spawning k) (hs : s.mainStep n = some s') : Inv n s' := by
  have hpos := h.positioned
  simp only [State.Positioned, hmain] at hpos
  obtain ⟨hidle, hsafe, hlength, hk⟩ := hpos
  simp only [State.mainStep, hmain] at hs
  split at hs
  · rename_i hlt
    obtain rfl := Option.some.inj hs
    refine ⟨⟨hidle, hsafe, ?_, hlt⟩, worker_append h.setupWorker hlength.symm, h.pollWorker, h.inList, h.account, h.queued,
      h.open'⟩
    rw [List.length_append, hlength]
    rfl
  · obtain rfl := Option.some.inj hs
    exact h.of_positioned ⟨hidle, hsafe, fun _ _ _ hj => absurd hj (Nat.not_lt_zero _)⟩

/-- One of them is joined, or all are. -/
theorem inv_joining (h : Inv n s) {i : Nat} (hmain : s.main = .joining i) (hs : s.mainStep n = some s') : Inv n s' := by
  have hpos := h.positioned
  simp only [State.Positioned, hmain] at hpos
  obtain ⟨hidle, hsafe, hreturned⟩ := hpos
  simp only [State.mainStep, hmain] at hs
  cases hi : s.threads[i]? with
  | none =>
    simp only [hi] at hs
    obtain rfl := Option.some.inj hs
    refine ⟨⟨rfl, false, hsafe, fun hne => absurd hidle hne⟩, ?_, h.pollWorker, h.inList, h.account, h.queued, h.open'⟩
    intro j t hj
    cases hj
  | some t =>
    simp only [hi] at hs
    split at hs
    · rename_i hphase
      obtain rfl := Option.some.inj hs
      refine h.of_positioned ⟨hidle, hsafe, fun j u hu hj => ?_⟩
      rcases Nat.lt_succ_iff_lt_or_eq.mp hj with hlt | rfl
      · exact hreturned j u hu hlt
      · rw [hi] at hu
        rw [← Option.some.inj hu, hphase]
    · cases hs

/-- A thread of `run` is made, or all are. -/
theorem inv_starting (h : Inv n s) {k : Nat} (hmain : s.main = .starting k) (hs : s.mainStep n = some s') : Inv n s' := by
  have hpos := h.positioned
  simp only [State.Positioned, hmain] at hpos
  obtain ⟨hthreads, hsafe, hlength, hk⟩ := hpos
  simp only [State.mainStep, hmain] at hs
  split at hs
  · rename_i hlt
    obtain rfl := Option.some.inj hs
    refine ⟨⟨hthreads, hsafe, ?_, hlt⟩, h.setupWorker, worker_append h.pollWorker hlength.symm, ?_, ?_, h.queued, h.open'⟩
    · rw [List.length_append, hlength]
      rfl
    · intro t ht
      rcases List.mem_append.mp ht with hin | hnew
      · exact h.inList t hin
      · rw [List.mem_singleton.mp hnew]
        trivial
    · -- a thread at the head has no round
      intro w
      show s.sourcesOf w ++ roundLeft (s.workerThreads ++ [_])[w]? (s.devices w) = (s.roundsOf w).flatten
      rw [← h.account w, State.remaining]
      congr 1
      rcases Nat.lt_trichotomy w s.workerThreads.length with hw | hw | hw
      · rw [List.getElem?_append_left hw]
      · rw [hw, List.getElem?_concat_length, List.getElem?_eq_none (Nat.le_refl _)]
        rfl
      · rw [List.getElem?_eq_none (by simp; omega), List.getElem?_eq_none (Nat.le_of_lt hw)]
  · obtain rfl := Option.some.inj hs
    exact h.of_positioned ⟨hthreads, true, hsafe, fun _ => rfl⟩

/-- One of them is requested to stop, or all are. -/
theorem inv_requesting (h : Inv n s) {i : Nat} (hmain : s.main = .requesting i) (hs : s.mainStep n = some s') : Inv n s' := by
  have hpos := h.positioned
  simp only [State.Positioned, hmain] at hpos
  obtain ⟨hthreads, hsafe, hrequested⟩ := hpos
  simp only [State.mainStep, hmain] at hs
  cases hi : s.workerThreads[i]? with
  | none =>
    simp only [hi] at hs
    obtain rfl := Option.some.inj hs
    refine h.of_positioned ⟨hthreads, hsafe, ?_, fun _ _ _ hj => absurd hj (Nat.not_lt_zero _)⟩
    intro t ht
    obtain ⟨j, hj⟩ := List.mem_iff_getElem?.mp ht
    have hlength : s.workerThreads.length ≤ i := List.getElem?_eq_none_iff.mp hi
    have hlt : j < s.workerThreads.length := (List.getElem?_eq_some_iff.mp hj).1
    exact hrequested j t hj (by omega)
  | some t =>
    simp only [hi] at hs
    obtain rfl := Option.some.inj hs
    have hlt := (List.getElem?_eq_some_iff.mp hi).1
    refine ⟨⟨hthreads, hsafe, ?_⟩, h.setupWorker, worker_set h.pollWorker hi rfl, ?_, ?_, h.queued, h.open'⟩
    · intro j u hu hj
      by_cases hij : i = j
      · obtain rfl := hij
        rw [List.getElem?_set_self hlt] at hu
        rw [← Option.some.inj hu]
      · rw [List.getElem?_set_ne hij] at hu
        exact hrequested j u hu (by omega)
    · intro u hu
      rcases List.mem_or_eq_of_mem_set hu with hin | rfl
      · exact h.inList u hin
      · exact h.inList t (List.mem_of_getElem? hi)
    · intro w
      show s.sourcesOf w ++ roundLeft (s.workerThreads.set i _)[w]? (s.devices w) = (s.roundsOf w).flatten
      rw [← h.account w, State.remaining]
      congr 1
      by_cases hiw : i = w
      · obtain rfl := hiw
        rw [List.getElem?_set_self hlt, hi]
        rfl
      · rw [List.getElem?_set_ne hiw]

/-- One of them is joined, or all are. -/
theorem inv_clearing (h : Inv n s) {i : Nat} (hmain : s.main = .clearing i) (hs : s.mainStep n = some s') : Inv n s' := by
  have hpos := h.positioned
  simp only [State.Positioned, hmain] at hpos
  obtain ⟨hthreads, hsafe, hrequested, hreturned⟩ := hpos
  simp only [State.mainStep, hmain] at hs
  cases hi : s.workerThreads[i]? with
  | none =>
    simp only [hi] at hs
    obtain rfl := Option.some.inj hs
    refine ⟨⟨hthreads, false, hsafe, fun hne => absurd rfl hne⟩, h.setupWorker, ?_, ?_, ?_, h.queued, h.open'⟩
    · intro j t hj
      cases hj
    · intro t ht
      cases ht
    · -- every thread has returned, so no round is open
      intro w
      show s.sourcesOf w ++ [] = (s.roundsOf w).flatten
      rw [← h.account w, State.remaining]
      congr 1
      cases hw : s.workerThreads[w]? with
      | none => rfl
      | some t =>
        have hlength := List.getElem?_eq_none_iff.mp hi
        have hlt := (List.getElem?_eq_some_iff.mp hw).1
        exact (rest_of_returned (hreturned w t hw (by omega)) _).symm
  | some t =>
    simp only [hi] at hs
    split at hs
    · rename_i hphase
      obtain rfl := Option.some.inj hs
      refine h.of_positioned ⟨hthreads, hsafe, hrequested, fun j u hu hj => ?_⟩
      rcases Nat.lt_succ_iff_lt_or_eq.mp hj with hlt | rfl
      · exact hreturned j u hu hlt
      · rw [hi] at hu
        rw [← Option.some.inj hu, hphase]
    · cases hs

theorem inv_main (h : Inv n s) (hs : s.mainStep n = some s') : Inv n s' := by
  cases hmain : s.main with
  | between => exact inv_call h hmain hs
  | spawning k => exact inv_spawning h hmain hs
  | joining i => exact inv_joining h hmain hs
  | starting k => exact inv_starting h hmain hs
  | requesting i => exact inv_requesting h hmain hs
  | clearing i => exact inv_clearing h hmain hs

/-! ## Threads of `initialize` -/

/-- While such a thread is there nothing is polled. -/
theorem Inv.idle (h : Inv n s) {i : Nat} {t : SetupThread} (hi : s.threads[i]? = some t) : s.workerThreads = [] := by
  have hpos := h.positioned
  have hne : s.threads ≠ [] := by
    intro hnil
    rw [hnil] at hi
    cases hi
  cases hmain : s.main with
  | spawning k =>
    simp only [State.Positioned, hmain] at hpos
    exact hpos.1
  | joining k =>
    simp only [State.Positioned, hmain] at hpos
    exact hpos.1
  | _ =>
    simp only [State.Positioned, hmain] at hpos
    exact absurd hpos.1 hne

theorem positioned_setup (h : s.Positioned n) {i : Nat} {t : SetupThread} (hi : s.threads[i]? = some t)
    (hphase : t.phase ≠ .returned) (t' : SetupThread) (devices : Nat → List Nat) :
    ({ s with threads := s.threads.set i t', devices := devices } : State).Positioned n := by
  have hne : s.threads ≠ [] := by
    intro hnil
    rw [hnil] at hi
    cases hi
  cases hmain : s.main with
  | spawning k =>
    simp only [State.Positioned, hmain] at h ⊢
    obtain ⟨hidle, hsafe, hlength, hk⟩ := h
    exact ⟨hidle, hsafe, by rw [List.length_set, hlength], hk⟩
  | joining k =>
    simp only [State.Positioned, hmain] at h ⊢
    obtain ⟨hidle, hsafe, hreturned⟩ := h
    refine ⟨hidle, hsafe, fun j u hu hj => ?_⟩
    by_cases hij : i = j
    · obtain rfl := hij
      exact absurd (hreturned i t hi hj) hphase
    · rw [List.getElem?_set_ne hij] at hu
      exact hreturned j u hu hj
  | _ =>
    simp only [State.Positioned, hmain] at h
    exact absurd h.1 hne

theorem inv_setup (h : Inv n s) {i : Nat} {found : List Nat} (hs : s.setupStep i found = some s') : Inv n s' := by
  rw [State.setupStep] at hs
  cases hi : s.threads[i]? with
  | none => simp [hi] at hs
  | some t =>
    simp only [hi] at hs
    have hidle := h.idle hi
    cases hphase : t.phase with
    | created =>
      simp only [hphase] at hs
      obtain rfl := Option.some.inj hs
      have hpos := positioned_setup h.positioned hi (by rw [hphase]; decide) { t with phase := .initializing } s.devices
      exact ⟨hpos, worker_set h.setupWorker hi rfl, h.pollWorker, h.inList, h.account, h.queued, h.open'⟩
    | initializing =>
      simp only [hphase] at hs
      obtain rfl := Option.some.inj hs
      have hpos := positioned_setup h.positioned hi (by rw [hphase]; decide) { t with phase := .returned }
        (Function.update s.devices t.worker found)
      refine ⟨hpos, worker_set h.setupWorker hi rfl, h.pollWorker, ?_, ?_, h.queued, h.open'⟩
      · intro u hu
        change u ∈ s.workerThreads at hu
        rw [hidle] at hu
        cases hu
      · -- with nothing polled, no round is open on the list that changes
        intro w
        show s.sourcesOf w ++ roundLeft s.workerThreads[w]? _ = (s.roundsOf w).flatten
        rw [← h.account w, State.remaining, hidle]
        rfl
    | returned => simp [hphase] at hs

/-! ## Threads of `run` -/

theorem positioned_setPhase (h : s.Positioned n) {i : Nat} {t : PollThread} (hi : s.workerThreads[i]? = some t)
    (hphase : t.phase ≠ .returned) (phase : Phase) : (s.setPhase i t phase).Positioned n := by
  have hne : s.workerThreads ≠ [] := by
    intro hnil
    rw [hnil] at hi
    cases hi
  have hlt := (List.getElem?_eq_some_iff.mp hi).1
  cases hmain : s.main with
  | between =>
    simp only [State.Positioned, State.setPhase, hmain] at h ⊢
    obtain ⟨hthreads, polling, hsafe, hpolling⟩ := h
    exact ⟨hthreads, polling, hsafe, fun _ => hpolling hne⟩
  | spawning k =>
    simp only [State.Positioned, hmain] at h
    exact absurd h.1 hne
  | joining k =>
    simp only [State.Positioned, hmain] at h
    exact absurd h.1 hne
  | starting k =>
    simp only [State.Positioned, State.setPhase, hmain] at h ⊢
    obtain ⟨hthreads, hsafe, hlength, hk⟩ := h
    exact ⟨hthreads, hsafe, by rw [List.length_set, hlength], hk⟩
  | requesting k =>
    simp only [State.Positioned, State.setPhase, hmain] at h ⊢
    obtain ⟨hthreads, hsafe, hrequested⟩ := h
    refine ⟨hthreads, hsafe, fun j u hu hj => ?_⟩
    by_cases hij : i = j
    · obtain rfl := hij
      rw [List.getElem?_set_self hlt] at hu
      rw [← Option.some.inj hu]
      exact hrequested i t hi hj
    · rw [List.getElem?_set_ne hij] at hu
      exact hrequested j u hu hj
  | clearing k =>
    simp only [State.Positioned, State.setPhase, hmain] at h ⊢
    obtain ⟨hthreads, hsafe, hrequested, hreturned⟩ := h
    refine ⟨hthreads, hsafe, fun u hu => ?_, fun j u hu hj => ?_⟩
    · rcases List.mem_or_eq_of_mem_set hu with hin | rfl
      · exact hrequested u hin
      · exact hrequested t (List.mem_of_getElem? hi)
    · by_cases hij : i = j
      · obtain rfl := hij
        exact absurd (hreturned i t hi hj) hphase
      · rw [List.getElem?_set_ne hij] at hu
        exact hreturned j u hu hj

/-- What is left of the rounds, with one thread in another phase. -/
theorem remaining_setPhase {i : Nat} {t : PollThread} (hi : s.workerThreads[i]? = some t) (phase : Phase) (w : Nat) :
    (s.setPhase i t phase).remaining w = if w = i then { t with phase := phase }.rest (s.devices i) else s.remaining w := by
  have hlt := (List.getElem?_eq_some_iff.mp hi).1
  show roundLeft (s.workerThreads.set i _)[w]? (s.devices w) = _
  by_cases hw : w = i
  · rw [if_pos hw, hw, List.getElem?_set_self hlt]
    rfl
  · rw [if_neg hw, List.getElem?_set_ne (Ne.symm hw)]
    rfl

theorem inList_setPhase (h : Inv n s) {i : Nat} {t : PollThread} {phase : Phase}
    (ht : { t with phase := phase }.InList (s.devices t.worker)) :
    ∀ u ∈ (s.setPhase i t phase).workerThreads, u.InList (s.devices u.worker) := by
  intro u hu
  rcases List.mem_or_eq_of_mem_set hu with hin | rfl
  · exact h.inList u hin
  · exact ht

/-- A thread that gets on, and leaves as much of its round as before. -/
theorem inv_setPhase (h : Inv n s) {i : Nat} {t : PollThread} (hi : s.workerThreads[i]? = some t)
    (hphase : t.phase ≠ .returned) {phase : Phase} (hin : { t with phase := phase }.InList (s.devices t.worker))
    (hrest : { t with phase := phase }.rest (s.devices t.worker) = t.rest (s.devices t.worker)) :
    Inv n (s.setPhase i t phase) := by
  refine ⟨positioned_setPhase h.positioned hi hphase phase, h.setupWorker, worker_set h.pollWorker hi rfl,
    inList_setPhase h hin, fun w => ?_, h.queued, h.open'⟩
  show s.sourcesOf w ++ (s.setPhase i t phase).remaining w = (s.roundsOf w).flatten
  rw [← h.account w, remaining_setPhase hi phase w]
  congr 1
  by_cases hw : w = i
  · rw [if_pos hw, hw, State.remaining, hi, ← h.pollWorker i t hi, hrest]
    rfl
  · rw [if_neg hw]

/-- A round begins, with all of the list left. -/
theorem inv_begin (h : Inv n s) {i : Nat} {t : PollThread} (hi : s.workerThreads[i]? = some t) (hphase : t.phase = .head) :
    Inv n { s.setPhase i t (.executing 0) with rounds := s.rounds ++ [(t.worker, s.devices t.worker)] } := by
  have hworker := h.pollWorker i t hi
  have hpos : (s.setPhase i t (.executing 0)).Positioned n :=
    positioned_setPhase h.positioned hi (by rw [hphase]; decide) (.executing 0)
  refine ⟨hpos, h.setupWorker, worker_set h.pollWorker hi rfl, inList_setPhase h (Nat.zero_le _), fun w => ?_, h.queued,
    h.open'⟩
  have hbefore := h.account w
  show s.sourcesOf w ++ (s.setPhase i t (.executing 0)).remaining w =
    (((s.rounds ++ [(t.worker, s.devices t.worker)]).filter (·.1 = w)).map (·.2)).flatten
  rw [remaining_setPhase hi, List.filter_append, List.map_append, List.flatten_append]
  by_cases hw : w = i
  · have hnone : s.remaining w = [] := by
      rw [hw, State.remaining, hi]
      show t.rest _ = []
      rw [PollThread.rest, hphase]
    rw [hnone, List.append_nil] at hbefore
    rw [if_pos hw, hbefore, hworker, hw]
    simp [PollThread.rest, State.roundsOf]
  · have hother : ([(t.worker, s.devices t.worker)] : List (Nat × List Nat)).filter (·.1 = w) = [] := by
      simp [hworker, Ne.symm hw]
    rw [if_neg hw, hother, hbefore]
    exact (List.append_nil _).symm

/-- A snapshot is pushed, and its device is done. -/
theorem inv_push (h : Inv n s) {i j device : Nat} {t : PollThread} {snapshot : TelemetrySnapshot}
    (hi : s.workerThreads[i]? = some t) (hphase : t.phase = .fetched j) (hj : (s.devices t.worker)[j]? = some device)
    (hsource : snapshot.source = device) :
    Inv n { s.setPhase i t (.executing (j + 1)) with
      queue := s.queue.step (.push snapshot)
      pushes := s.pushes ++ [(t.worker, snapshot)] } := by
  have hworker := h.pollWorker i t hi
  have hlt := (List.getElem?_eq_some_iff.mp hj).1
  have hpos : (s.setPhase i t (.executing (j + 1))).Positioned n :=
    positioned_setPhase h.positioned hi (by rw [hphase]; exact Phase.noConfusion) _
  refine ⟨hpos, h.setupWorker, worker_set h.pollWorker hi rfl, inList_setPhase h hlt, fun w => ?_, ?_, ?_⟩
  · show ((s.pushes ++ [(t.worker, snapshot)]).filter (·.1 = w)).map (·.2.source) ++
      (s.setPhase i t (.executing (j + 1))).remaining w = (s.roundsOf w).flatten
    rw [← h.account w, remaining_setPhase hi, List.filter_append, List.map_append]
    by_cases hw : w = i
    · have hleft : s.remaining w = device :: (s.devices t.worker).drop (j + 1) := by
        rw [hw, State.remaining, hi]
        show t.rest _ = _
        rw [PollThread.rest, hphase, ← hworker]
        exact List.drop_eq_getElem?_toList_append.trans (by rw [hj]; rfl)
      have hown : ([(t.worker, snapshot)] : List (Nat × TelemetrySnapshot)).filter (·.1 = w) = [(t.worker, snapshot)] := by
        simp [hworker, hw]
      rw [if_pos hw, hleft, hown, List.map_singleton, hsource, List.append_assoc, ← hworker]
      rfl
    · have hother : ([(t.worker, snapshot)] : List (Nat × TelemetrySnapshot)).filter (·.1 = w) = [] := by
        simp [hworker, Ne.symm hw]
      rw [if_neg hw, hother, List.map_nil, List.append_nil]
      rfl
  · have hstep := ClientQueue.step_conserves s.queue (.push snapshot)
    rw [h.open'] at hstep
    show (s.queue.step (.push snapshot)).drained ++ (s.queue.step (.push snapshot)).queue.queue = _
    rw [hstep, h.queued, List.map_append]
    rfl
  · show (s.queue.queue.push snapshot).shuttingDown = false
    rw [ClientQueue.push_shuttingDown, h.open']

theorem inv_poll (h : Inv n s) {i : Nat} {reading : TelemetrySnapshot} (hs : s.pollStep i reading = some s') : Inv n s' := by
  rw [State.pollStep] at hs
  cases hi : s.workerThreads[i]? with
  | none => simp [hi] at hs
  | some t =>
    simp only [hi] at hs
    have hin := h.inList t (List.mem_of_getElem? hi)
    cases hphase : t.phase with
    | head =>
      simp only [hphase] at hs
      split at hs
      · obtain rfl := Option.some.inj hs
        refine inv_setPhase h hi (by rw [hphase]; decide) trivial ?_
        simp only [PollThread.rest, hphase]
      · obtain rfl := Option.some.inj hs
        exact inv_begin h hi hphase
    | executing j =>
      simp only [hphase] at hs
      split at hs
      · rename_i hj
        obtain rfl := Option.some.inj hs
        refine inv_setPhase h hi (by rw [hphase]; exact Phase.noConfusion) hj ?_
        simp only [PollThread.rest, hphase]
      · rename_i hj
        obtain rfl := Option.some.inj hs
        refine inv_setPhase h hi (by rw [hphase]; exact Phase.noConfusion) trivial ?_
        simp only [PollThread.rest, hphase]
        exact (List.drop_eq_nil_of_le (Nat.le_of_not_lt hj)).symm
    | fetched j =>
      simp only [hphase] at hs
      cases hj : (s.devices t.worker)[j]? with
      | none => simp [hj] at hs
      | some device =>
        simp only [hj] at hs
        obtain rfl := Option.some.inj hs
        exact inv_push h hi hphase hj rfl
    | sleeping =>
      simp only [hphase] at hs
      obtain rfl := Option.some.inj hs
      refine inv_setPhase h hi (by rw [hphase]; decide) trivial ?_
      simp only [PollThread.rest, hphase]
    | returned => simp [hphase] at hs

/-! ## Every interleaving -/

theorem inv_step (h : Inv n s) {e : Event} (hs : step n e s = some s') : Inv n s' := by
  cases e with
  | main => exact inv_main h hs
  | setup i found => exact inv_setup h hs
  | poll i reading => exact inv_poll h hs
  | drain =>
    obtain rfl := Option.some.inj hs
    refine ⟨h.positioned, h.setupWorker, h.pollWorker, h.inList, h.account, ?_, ?_⟩
    · have hstep := ClientQueue.step_conserves s.queue .drain
      rw [List.append_nil, h.queued] at hstep
      exact hstep
    · show (s.queue.step .drain).queue.shuttingDown = false
      simp only [ClientQueue.State.step]
      split
      · exact h.open'
      · exact h.open'

theorem inv_reachable {program : List Call} (hsafe : Safe false program) (h : Reachable n program s) : Inv n s := by
  induction h with
  | refl => exact inv_start hsafe
  | tail _ hmove ih =>
    obtain ⟨e, he⟩ := hmove
    exact inv_step ih he

end HardwareMonitor.SystemInfo.Workers
