/-
  HardwareMonitor.ControlCenter.MainLoop — the loop of `main` around
  `ControlCenterClient::tick`: how often it discovers and renders, and how old the screen
  can be. Time is in ticks of the steady clock, nanoseconds.

  The cadence of the iterations is that of a worker's thread (`PollingRate.Loop.turn`). The
  two longer intervals are kept differently: a discovery counts from the last one, and
  `next_render` grows by its interval, or starts again from the present where it has fallen
  a whole interval behind. So it never runs ahead of the clock by more than one interval
  (`Scheduled`): discoveries and renderings keep their rates (`main_loop_paced`), and what
  has been reported by the end of an iteration is on the terminal as soon as an iteration
  reads the clock one interval later (`screen_fresh`).

  An exception of a later discovery leaves `main`: there is no iteration after it.
-/

import HardwareMonitor.SystemInfo.PollingRate
import HardwareMonitor.ControlCenter.Screen

namespace HardwareMonitor.ControlCenter

open HardwareMonitor.OpcUa
open HardwareMonitor.SystemInfo
open HardwareMonitor.Lib.Throwing

/-! ## The loop -/

def kTickCadence : Nat := 100 * 1000000

def kDiscoveryInterval : Nat := 5000 * 1000000

def kRenderInterval : Nat := 2000 * 1000000

/-- What an iteration meets. -/
structure Iteration where
  /-- What `runIterate` calls back: the items, and the values they are handed. -/
  callbacks : List (Nat × Variant)
  /-- The server, if there is a discovery. -/
  remote : Remote
  /-- From the head of the loop to the reading of `tick`, from there to the reading of
      `main`, and how late the next iteration begins. -/
  pace : PollingRate.Turn

structure MainLoop where
  /-- The clock and `next_tick`. -/
  clock : PollingRate.Loop
  nextRender : Nat
  /-- `last_poll_` -/
  lastPoll : Nat
  /-- Not in the source: all that has been done to the display, in order. -/
  turns : List Turn

namespace MainLoop

/-- When `tick` reads the clock. -/
def ticked (s : MainLoop) (it : Iteration) : Nat := s.clock.start it.pace

/-- When `main` reads the clock. -/
def read (s : MainLoop) (it : Iteration) : Nat := s.ticked it + it.pace.duration

/-- `now - last_poll_ >= poll_interval` -/
def polls (s : MainLoop) (it : Iteration) : Bool := s.lastPoll + kDiscoveryInterval ≤ s.ticked it

/-- `now >= next_render` -/
def renders (s : MainLoop) (it : Iteration) : Bool := s.nextRender ≤ s.read it

/-- What `runIterate` does to the display. -/
def callbackTurns (it : Iteration) : List Turn := it.callbacks.map fun (i, value) => .callback i value

/-- What `tick` does to it. -/
def tickTurns (s : MainLoop) (it : Iteration) : List Turn :=
  callbackTurns it ++ if s.polls it then [.discover it.remote] else []

def renderTurns (s : MainLoop) (it : Iteration) : List Turn := if s.renders it then [.render] else []

/-- `next_render` behind a rendering. -/
def nextRenderAfter (s : MainLoop) (it : Iteration) : Nat :=
  let nextRender := s.nextRender + kRenderInterval
  if nextRender ≤ s.read it then s.read it + kRenderInterval else nextRender

variable (nodeIdToString : NodeId → String) (decodeBinary : ByteString → Option SensorDto) (formatValue : UInt32 → String)

/-- The discovery throws, if there is one. -/
def throws (s : MainLoop) (it : Iteration) : Bool :=
  s.polls it &&
    match discoverAndSubscribe it.remote nodeIdToString
      (displayAfter nodeIdToString decodeBinary formatValue (s.turns ++ callbackTurns it)).client with
    | .ok _ _ => false
    | .error _ _ => true

/-- The body of the loop. -/
def iterate (s : MainLoop) (it : Iteration) : Option MainLoop :=
  if s.throws nodeIdToString decodeBinary formatValue it then none
  else some
    { clock := s.clock.turn kTickCadence it.pace
      nextRender := if s.renders it then s.nextRenderAfter it else s.nextRender
      lastPoll := if s.polls it then s.ticked it else s.lastPoll
      turns := s.turns ++ (s.tickTurns it ++ s.renderTurns it) }

/-- `start`, which discovers once itself, at a time, and the way from there to the loop. -/
def start (remote : Remote) (started way : Nat) : Option MainLoop :=
  match discoverAndSubscribe remote nodeIdToString .start with
  | .ok _ _ => some ⟨⟨started + way, started + way⟩, started + way, started, [.discover remote]⟩
  | .error _ _ => none

end MainLoop

section

variable (nodeIdToString : NodeId → String) (decodeBinary : ByteString → Option SensorDto) (formatValue : UInt32 → String)

/-- `main`, so far; nothing if an exception has ended it. -/
def loopAfter (remote : Remote) (started way : Nat) (its : List Iteration) : Option MainLoop :=
  (MainLoop.start nodeIdToString remote started way).bind fun s =>
    its.foldlM (MainLoop.iterate nodeIdToString decodeBinary formatValue) s

end

variable {nodeIdToString : NodeId → String} {decodeBinary : ByteString → Option SensorDto} {formatValue : UInt32 → String}
  {s s' : MainLoop} {it : Iteration}

/-- All that an iteration does. -/
theorem iterate_some (h : s.iterate nodeIdToString decodeBinary formatValue it = some s') :
    s'.clock = s.clock.turn kTickCadence it.pace ∧ s'.nextRender = (if s.renders it then s.nextRenderAfter it else s.nextRender) ∧
      s'.lastPoll = (if s.polls it then s.ticked it else s.lastPoll) ∧
      s'.turns = s.turns ++ (s.tickTurns it ++ s.renderTurns it) := by
  unfold MainLoop.iterate at h
  split at h
  · cases h
  · obtain rfl := Option.some.inj h
    exact ⟨rfl, rfl, rfl, rfl⟩

/-- The clock goes on past both readings. -/
theorem read_le_now (s : MainLoop) (it : Iteration) : s.read it ≤ (s.clock.turn kTickCadence it.pace).now := by
  simp only [MainLoop.read, MainLoop.ticked, PollingRate.Loop.turn]
  split
  · show _ ≤ s.clock.next + kTickCadence + it.pace.late
    omega
  · exact Nat.le_add_right _ _

theorem now_le_ticked (s : MainLoop) (it : Iteration) : s.clock.now ≤ s.ticked it := Nat.le_add_right _ _

theorem ticked_le_read (s : MainLoop) (it : Iteration) : s.ticked it ≤ s.read it := Nat.le_add_right _ _

/-! ## Rates -/

def Turn.isDiscover : Turn → Bool
  | .discover _ => true
  | _ => false

theorem countP_tickTurns_render (s : MainLoop) (it : Iteration) : (s.tickTurns it).countP Turn.isRender = 0 := by
  rw [List.countP_eq_zero]
  intro turn hturn
  simp only [MainLoop.tickTurns, MainLoop.callbackTurns, List.mem_append, List.mem_map] at hturn
  rcases hturn with ⟨call, -, rfl⟩ | hdiscover
  · simp [Turn.isRender]
  · split at hdiscover
    · rw [List.mem_singleton.mp hdiscover]
      simp [Turn.isRender]
    · cases hdiscover

theorem countP_tickTurns_discover (s : MainLoop) (it : Iteration) :
    (s.tickTurns it).countP Turn.isDiscover = if s.polls it then 1 else 0 := by
  have hcallbacks : (MainLoop.callbackTurns it).countP Turn.isDiscover = 0 := by
    rw [List.countP_eq_zero]
    intro turn hturn
    obtain ⟨call, -, rfl⟩ := List.mem_map.mp hturn
    simp [Turn.isDiscover]
  rw [MainLoop.tickTurns, List.countP_append, hcallbacks, Nat.zero_add]
  split <;> rfl

theorem countP_renderTurns (s : MainLoop) (it : Iteration) :
    (s.renderTurns it).countP Turn.isRender = (if s.renders it then 1 else 0) ∧
      (s.renderTurns it).countP Turn.isDiscover = 0 := by
  unfold MainLoop.renderTurns
  split <;> exact ⟨rfl, rfl⟩

/-- The schedule of a loop that discovered first at `started` and was entered at `entered`. -/
structure Scheduled (started entered : Nat) (s : MainLoop) : Prop where
  /-- Every rendering has put `next_render` one interval further. -/
  rendered : entered + s.turns.countP Turn.isRender * kRenderInterval ≤ s.nextRender
  soon : s.nextRender ≤ s.clock.now + kRenderInterval
  discovered : started + s.turns.countP Turn.isDiscover * kDiscoveryInterval ≤ s.lastPoll + kDiscoveryInterval
  polled : s.lastPoll ≤ s.clock.now

theorem scheduled_iterate {started entered : Nat} (h : Scheduled started entered s)
    (hstep : s.iterate nodeIdToString decodeBinary formatValue it = some s') : Scheduled started entered s' := by
  obtain ⟨hclock, hnext, hpoll, hturns⟩ := iterate_some hstep
  obtain ⟨hrendered, hsoon, hdiscovered, hpolled⟩ := h
  have hnow := read_le_now s it
  have hticked := now_le_ticked s it
  have hread := ticked_le_read s it
  rw [← hclock] at hnow
  have hrenders : s'.turns.countP Turn.isRender = s.turns.countP Turn.isRender + if s.renders it then 1 else 0 := by
    rw [hturns, List.countP_append, List.countP_append, countP_tickTurns_render, (countP_renderTurns s it).1, Nat.zero_add]
  have hdiscovers : s'.turns.countP Turn.isDiscover = s.turns.countP Turn.isDiscover + if s.polls it then 1 else 0 := by
    rw [hturns, List.countP_append, List.countP_append, countP_tickTurns_discover, (countP_renderTurns s it).2, Nat.add_zero]
  have hschedule : entered + s'.turns.countP Turn.isRender * kRenderInterval ≤ s'.nextRender ∧
      s'.nextRender ≤ s'.clock.now + kRenderInterval := by
    rw [hrenders, hnext]
    by_cases hdue : s.renders it = true
    · have hreached : s.nextRender ≤ s.read it := of_decide_eq_true hdue
      rw [if_pos hdue, if_pos hdue, Nat.add_mul, Nat.one_mul]
      simp only [MainLoop.nextRenderAfter]
      split <;> omega
    · rw [if_neg hdue, if_neg hdue, Nat.add_zero]
      omega
  have hpolls : started + s'.turns.countP Turn.isDiscover * kDiscoveryInterval ≤ s'.lastPoll + kDiscoveryInterval ∧
      s'.lastPoll ≤ s'.clock.now := by
    rw [hdiscovers, hpoll]
    by_cases hdue : s.polls it = true
    · have hreached : s.lastPoll + kDiscoveryInterval ≤ s.ticked it := of_decide_eq_true hdue
      rw [if_pos hdue, if_pos hdue, Nat.add_mul, Nat.one_mul]
      omega
    · rw [if_neg hdue, if_neg hdue, Nat.add_zero]
      omega
  exact ⟨hschedule.1, hschedule.2, hpolls.1, hpolls.2⟩

theorem scheduled_start {remote : Remote} {started way : Nat} (h : MainLoop.start nodeIdToString remote started way = some s) :
    Scheduled started (started + way) s := by
  unfold MainLoop.start at h
  split at h
  · obtain rfl := Option.some.inj h
    refine ⟨?_, Nat.le_add_right _ _, ?_, Nat.le_add_right _ _⟩
    · simp [Turn.isRender]
    · simp [Turn.isDiscover]
  · cases h

/-- A schedule is kept by any number of iterations, and so is the cadence. -/
theorem scheduled_run {started entered k : Nat} {its : List Iteration} (h : Scheduled started entered s)
    (hclock : PollingRate.Paced kTickCadence entered k s.clock)
    (hrun : its.foldlM (MainLoop.iterate nodeIdToString decodeBinary formatValue) s = some s') :
    Scheduled started entered s' ∧ PollingRate.Paced kTickCadence entered (k + its.length) s'.clock := by
  induction its generalizing s k with
  | nil =>
    obtain rfl := Option.some.inj hrun
    exact ⟨h, hclock⟩
  | cons it its ih =>
    rw [List.foldlM_cons] at hrun
    obtain ⟨s₁, hstep, hrest⟩ := Option.bind_eq_some_iff.mp hrun
    have hclock₁ : PollingRate.Paced kTickCadence entered (k + 1) s₁.clock := by
      rw [(iterate_some hstep).1]
      exact PollingRate.paced_turn hclock it.pace
    rw [List.length_cons, Nat.add_comm its.length 1, ← Nat.add_assoc]
    exact ih (scheduled_iterate h hstep) hclock₁ hrest

theorem loopAfter_scheduled {remote : Remote} {started way : Nat} {its : List Iteration}
    (hrun : loopAfter nodeIdToString decodeBinary formatValue remote started way its = some s) :
    Scheduled started (started + way) s ∧ PollingRate.Paced kTickCadence (started + way) its.length s.clock := by
  obtain ⟨s₀, hstart, hloop⟩ := Option.bind_eq_some_iff.mp hrun
  have hclock : PollingRate.Paced kTickCadence (started + way) 0 s₀.clock := by
    unfold MainLoop.start at hstart
    split at hstart
    · obtain rfl := Option.some.inj hstart
      exact PollingRate.paced_called _ _
    · cases hstart
  have hkept := scheduled_run (scheduled_start hstart) hclock hloop
  rwa [Nat.zero_add] at hkept

theorem le_div_add_one {n interval elapsed : Nat} (hinterval : 0 < interval) (h : n * interval ≤ elapsed + interval) :
    n ≤ elapsed / interval + 1 := by
  rw [← Nat.add_div_right _ hinterval]
  exact (Nat.le_div_iff_mul_le hinterval).mpr h

/-- What an iteration does at its two readings of the clock keeps the rates. -/
theorem scheduled_within {started entered : Nat} (h : Scheduled started entered s) (it : Iteration) :
    (s.turns ++ s.tickTurns it).countP Turn.isDiscover ≤ (s.ticked it - started) / kDiscoveryInterval + 1 ∧
      (s.turns ++ (s.tickTurns it ++ s.renderTurns it)).countP Turn.isRender ≤ (s.read it - entered) / kRenderInterval + 1 := by
  obtain ⟨hrendered, hsoon, hdiscovered, hpolled⟩ := h
  have hticked := now_le_ticked s it
  have hread := ticked_le_read s it
  constructor
  · rw [List.countP_append, countP_tickTurns_discover]
    apply le_div_add_one (by decide)
    by_cases hdue : s.polls it = true
    · have hreached : s.lastPoll + kDiscoveryInterval ≤ s.ticked it := of_decide_eq_true hdue
      rw [if_pos hdue, Nat.add_mul, Nat.one_mul]
      omega
    · rw [if_neg hdue, Nat.add_zero]
      omega
  · rw [List.countP_append, List.countP_append, countP_tickTurns_render, (countP_renderTurns s it).1, Nat.zero_add]
    apply le_div_add_one (by decide)
    by_cases hdue : s.renders it = true
    · have hreached : s.nextRender ≤ s.read it := of_decide_eq_true hdue
      rw [if_pos hdue, Nat.add_mul, Nat.one_mul]
      omega
    · rw [if_neg hdue, Nat.add_zero]
      omega

/-- Whatever the callbacks, the server and the clock do: each iteration starts no earlier
    than one cadence for each before it; and there has been no more than one rendering for
    each `kRenderInterval` and one, and no more than one discovery for each
    `kDiscoveryInterval` and one, when an iteration starts as well as at the two times in
    it at which it may discover and render, with what it does then. -/
theorem main_loop_paced (nodeIdToString : NodeId → String) (decodeBinary : ByteString → Option SensorDto)
    (formatValue : UInt32 → String) (remote : Remote) (started way : Nat) (its : List Iteration) (s : MainLoop)
    (hrun : loopAfter nodeIdToString decodeBinary formatValue remote started way its = some s) :
    started + way + its.length * kTickCadence ≤ s.clock.now ∧
      s.turns.countP Turn.isRender ≤ (s.clock.now - (started + way)) / kRenderInterval + 1 ∧
      s.turns.countP Turn.isDiscover ≤ (s.clock.now - started) / kDiscoveryInterval + 1 ∧
      ∀ it : Iteration,
        (s.turns ++ s.tickTurns it).countP Turn.isDiscover ≤ (s.ticked it - started) / kDiscoveryInterval + 1 ∧
        (s.turns ++ (s.tickTurns it ++ s.renderTurns it)).countP Turn.isRender ≤
          (s.read it - (started + way)) / kRenderInterval + 1 := by
  obtain ⟨hscheduled, hpaced⟩ := loopAfter_scheduled hrun
  obtain ⟨hgrown, hreached⟩ := hpaced
  refine ⟨Nat.le_trans hgrown hreached, ?_, ?_, scheduled_within hscheduled⟩
  · obtain ⟨hrendered, hsoon, -, -⟩ := hscheduled
    apply le_div_add_one (by decide)
    omega
  · obtain ⟨-, -, hdiscovered, hpolled⟩ := hscheduled
    apply le_div_add_one (by decide)
    omega

/-! ## The age of the screen -/

/-- The display has been rendered since the loop was at `base`, and nothing has been
    rendered since. -/
def RenderedSince (base s : MainLoop) : Prop :=
  ∃ shown later, s.turns = shown ++ .render :: later ∧ base.turns <+: shown ∧ later.countP Turn.isRender = 0

/-- It has been, or `next_render` is still the same. -/
def Awaited (base s : MainLoop) : Prop :=
  RenderedSince base s ∨ s.nextRender = base.nextRender ∧ base.turns <+: s.turns

theorem prefix_of_awaited {base : MainLoop} (h : Awaited base s) : base.turns <+: s.turns := by
  rcases h with ⟨shown, later, hturns, hbase, -⟩ | ⟨-, hbase⟩
  · rw [hturns]
    exact hbase.trans (List.prefix_append _ _)
  · exact hbase

/-- An iteration that renders. -/
theorem renderedSince_renders {base : MainLoop} (h : Awaited base s) (hdue : s.renders it = true)
    (hstep : s.iterate nodeIdToString decodeBinary formatValue it = some s') : RenderedSince base s' := by
  obtain ⟨-, -, -, hturns⟩ := iterate_some hstep
  refine ⟨s.turns ++ s.tickTurns it, [], ?_, (prefix_of_awaited h).trans (List.prefix_append _ _), rfl⟩
  rw [hturns, MainLoop.renderTurns, if_pos hdue, List.append_assoc]

/-- One that does not adds callbacks and discoveries only. -/
theorem awaited_iterate {base : MainLoop} (h : Awaited base s)
    (hstep : s.iterate nodeIdToString decodeBinary formatValue it = some s') : Awaited base s' := by
  by_cases hdue : s.renders it = true
  · exact Or.inl (renderedSince_renders h hdue hstep)
  · obtain ⟨-, hnext, -, hturns⟩ := iterate_some hstep
    rw [if_neg hdue] at hnext
    rw [MainLoop.renderTurns, if_neg hdue, List.append_nil] at hturns
    rcases h with ⟨shown, later, hbefore, hbase, hnone⟩ | ⟨hsame, hbase⟩
    · refine Or.inl ⟨shown, later ++ s.tickTurns it, ?_, hbase, ?_⟩
      · rw [hturns, hbefore, List.append_assoc, List.cons_append]
      · rw [List.countP_append, hnone, countP_tickTurns_render]
    · refine Or.inr ⟨hnext.trans hsame, ?_⟩
      rw [hturns]
      exact hbase.trans (List.prefix_append _ _)

theorem awaited_run {base : MainLoop} {its : List Iteration} (h : Awaited base s)
    (hrun : its.foldlM (MainLoop.iterate nodeIdToString decodeBinary formatValue) s = some s') : Awaited base s' := by
  induction its generalizing s with
  | nil => exact Option.some.inj hrun ▸ h
  | cons it its ih =>
    rw [List.foldlM_cons] at hrun
    obtain ⟨s₁, hstep, hrest⟩ := Option.bind_eq_some_iff.mp hrun
    exact ih (awaited_iterate h hstep) hrest

theorem loopAfter_append (remote : Remote) (started way : Nat) (past recent : List Iteration) :
    loopAfter nodeIdToString decodeBinary formatValue remote started way (past ++ recent) =
      (loopAfter nodeIdToString decodeBinary formatValue remote started way past).bind fun s =>
        recent.foldlM (MainLoop.iterate nodeIdToString decodeBinary formatValue) s := by
  rw [loopAfter, loopAfter, Option.bind_assoc]
  refine Option.bind_congr fun s _ => ?_
  rw [List.foldlM_append]
  rfl

/-- Whatever the callbacks, the server and the clock do: from the first iteration on that
    reads the clock one `kRenderInterval` behind the end of an earlier one, the terminal
    shows the rows of a rendering made since then, with all that had been reported by then,
    as far as their frame goes to its first NUL; nothing has been rendered after it. -/
theorem screen_fresh (nodeIdToString : NodeId → String) (decodeBinary : ByteString → Option SensorDto)
    (formatValue : UInt32 → String) (remote : Remote) (started way : Nat) (past recent : List Iteration) (last : Iteration)
    (s s' s'' : MainLoop) (hpast : loopAfter nodeIdToString decodeBinary formatValue remote started way past = some s)
    (hrecent : loopAfter nodeIdToString decodeBinary formatValue remote started way (past ++ recent) = some s')
    (hrun : loopAfter nodeIdToString decodeBinary formatValue remote started way (past ++ recent ++ [last]) = some s'')
    (hlast : s.clock.now + kRenderInterval ≤ s'.read last) :
    ∃ shown later t, s''.turns = shown ++ .render :: later ∧ s.turns <+: shown ∧ later.countP Turn.isRender = 0 ∧
      terminalAfter (renderEvents nodeIdToString decodeBinary formatValue s''.turns) = some t ∧
      t.shown = screenOf (displayAfter nodeIdToString decodeBinary formatValue shown).grid.rows := by
  rw [loopAfter_append, hrecent, Option.bind_some, List.foldlM_cons] at hrun
  obtain ⟨s₁, hstep, hend⟩ := Option.bind_eq_some_iff.mp hrun
  rw [Option.some.inj hend] at hstep
  rw [loopAfter_append, hpast, Option.bind_some] at hrecent
  have hawaited : Awaited s s' := awaited_run (Or.inr ⟨rfl, List.prefix_refl _⟩) hrecent
  have hsince : RenderedSince s s'' := by
    by_cases hdue : s'.renders last = true
    · exact renderedSince_renders hawaited hdue hstep
    · rcases awaited_iterate hawaited hstep with hrendered | ⟨hsame, -⟩
      · exact hrendered
      · -- `next_render` has been the same all the time, and has come by now
        exfalso
        obtain ⟨-, hnext, -, -⟩ := iterate_some hstep
        rw [if_neg hdue, hsame] at hnext
        have hsoon := (loopAfter_scheduled hpast).1.soon
        apply hdue
        apply decide_eq_true
        omega
  obtain ⟨shown, later, hturns, hbase, hnone⟩ := hsince
  obtain ⟨t, hterminal, -, hshown⟩ := terminal_shows nodeIdToString decodeBinary formatValue shown later hnone
  rw [← hturns] at hterminal
  exact ⟨shown, later, t, hturns, hbase, hnone, hterminal, hshown⟩

/-! ## A run -/

/-- `plc` as it has been found, asked by the loop at any time. -/
def plcRemote : Remote := watching (solo "plc") plcSends fun _ => plcCreates.length

/-- The item is called back in the first iteration, which renders; the second takes longer
    than `kRenderInterval`. -/
def firstIteration : Iteration := ⟨[(0, fieldValue cpuSnapshot "sensors")], plcRemote, ⟨0, 0, 0⟩⟩

def secondIteration : Iteration := ⟨[], plcRemote, ⟨kRenderInterval, 0, 0⟩⟩

def plcLoop (its : List Iteration) : Option MainLoop := loopAfter idString (fun _ => none) (fun _ => "") plcRemote 0 0 its

/-- Two iterations, and the start of a third. -/
theorem main_loop_paced_plc :
    ∃ s, plcLoop [firstIteration, secondIteration] = some s ∧
      s.turns.countP Turn.isRender ≤ (s.clock.now - (0 + 0)) / kRenderInterval + 1 ∧
      (s.turns ++ s.tickTurns firstIteration).countP Turn.isDiscover ≤ (s.ticked firstIteration - 0) / kDiscoveryInterval + 1 := by
  obtain ⟨s, hrun⟩ := Option.isSome_iff_exists.mp
    (by decide +kernel : (plcLoop [firstIteration, secondIteration]).isSome = true)
  have hpaced := main_loop_paced idString (fun _ => none) (fun _ => "") plcRemote 0 0 _ s hrun
  exact ⟨s, hrun, hpaced.2.1, (hpaced.2.2.2 firstIteration).1⟩

/-- The second iteration finds the first one's callback shown. -/
theorem screen_fresh_plc :
    ∃ s s'', plcLoop [firstIteration] = some s ∧ plcLoop [firstIteration, secondIteration] = some s'' ∧
      ∃ shown later, s''.turns = shown ++ .render :: later ∧ s.turns <+: shown := by
  obtain ⟨s, hpast⟩ := Option.isSome_iff_exists.mp (by decide +kernel : (plcLoop [firstIteration]).isSome = true)
  obtain ⟨s'', hrun⟩ := Option.isSome_iff_exists.mp
    (by decide +kernel : (plcLoop [firstIteration, secondIteration]).isSome = true)
  have hnow : (plcLoop [firstIteration]).map (·.clock.now) = some kTickCadence := by decide +kernel
  rw [hpast, Option.map_some, Option.some.injEq] at hnow
  have hread : s.clock.now + kRenderInterval ≤ s.read secondIteration := by
    simp only [MainLoop.read, MainLoop.ticked, PollingRate.Loop.start, secondIteration, hnow]
    exact Nat.le_refl _
  obtain ⟨shown, later, t, hturns, hbase, -⟩ := screen_fresh idString (fun _ => none) (fun _ => "") plcRemote 0 0
    [firstIteration] [] secondIteration s s s'' hpast hpast hrun hread
  exact ⟨s, s'', hpast, hrun, shown, later, hturns, hbase⟩

end HardwareMonitor.ControlCenter
