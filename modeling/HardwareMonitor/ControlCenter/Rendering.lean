/-
  HardwareMonitor.ControlCenter.Rendering — `DisplayGrid::renderIfDirty` and what is on
  the terminal when it returns.

  The main loop renders, the only thread that does: no two calls overlap. Updates may come
  at any time, also between its critical section and its writing. `dirty_` starts false and every update sets it, so it is set only when
  there are rows: no call ever writes the frame for an empty grid. A clean grid's frame is
  the last one written (`Tracked`, kept by every step: `tracked_step`), so a call leaves
  the frame of its rows on the terminal exactly if there are rows, and no string of theirs
  stops `fputs` (`shown_iff`).
-/

import Mathlib.Data.List.TakeWhile
import HardwareMonitor.ControlCenter.Frame

namespace HardwareMonitor.ControlCenter

/-! ## The terminal -/

/-- What `std::fputs(text.c_str(), stdout)` writes: it stops at a NUL. -/
def fputs (text : String) : String := String.ofList (text.toList.takeWhile (· ≠ '\x00'))

/-- A call past its critical section: the rows it saw there, and the frame it built. -/
structure Writing where
  rows : Rows
  frame : String

/-- Not in the source: a call that has returned, with the rows of its critical section and
    the last frame on the terminal. -/
structure Returned where
  rows : Rows
  shown : Option String

structure Terminal where
  grid : DisplayGrid
  writing : Option Writing
  /-- The last frame written to stdout. -/
  shown : Option String
  /-- The newest first. -/
  returned : List Returned

def Terminal.start : Terminal := ⟨.start, none, none, []⟩

inductive RenderEvent where
  | update (clientName deviceKey : String) (row : ClientRow)
  /-- A call of `renderIfDirty`, up to the end of its critical section. -/
  | enter
  /-- The rest of the call: it clears the terminal and writes its frame. -/
  | write

def Terminal.enter (t : Terminal) : Terminal :=
  if !t.grid.dirty then { t with returned := ⟨t.grid.rows, t.shown⟩ :: t.returned }
  else { t with grid := t.grid.rendered, writing := some ⟨t.grid.rows, buildFrame t.grid.rows⟩ }

def Terminal.write (t : Terminal) (w : Writing) : Terminal where
  grid := t.grid
  writing := none
  shown := some (fputs w.frame)
  returned := ⟨w.rows, some (fputs w.frame)⟩ :: t.returned

/-- One thread renders: a call enters after the one before has returned. -/
def Terminal.step (t : Terminal) : RenderEvent → Option Terminal
  | .update clientName deviceKey row => some { t with grid := t.grid.update clientName deviceKey row }
  | .enter =>
    match t.writing with
    | none => some t.enter
    | some _ => none
  | .write => t.writing.map t.write

def terminalAfter (events : List RenderEvent) : Option Terminal := events.foldlM Terminal.step .start

/-! ## The flag -/

/-- What the terminal holds once the frame of these rows has been written; nothing if there
    have been none. -/
def screenOf (rows : Rows) : Option String := if rows.isEmpty then none else some (fputs (buildFrame rows))

theorem screenOf_of_rows {rows : Rows} (h : rows.isEmpty = false) : screenOf rows = some (fputs (buildFrame rows)) := by
  rw [screenOf, h]
  rfl

structure Tracked (t : Terminal) : Prop where
  /-- The flag is set by updates only. -/
  rows : t.grid.dirty = true → t.grid.rows.isEmpty = false
  clean : t.writing = none → t.grid.dirty = false → t.shown = screenOf t.grid.rows
  writing : ∀ w, t.writing = some w → w.rows.isEmpty = false ∧ w.frame = buildFrame w.rows ∧
    (t.grid.dirty = false → t.grid.rows = w.rows)
  returned : ∀ r ∈ t.returned, r.shown = screenOf r.rows

theorem isEmpty_update (grid : DisplayGrid) (clientName deviceKey : String) (row : ClientRow) :
    (grid.update clientName deviceKey row).rows.isEmpty = false := by
  have hmem : clientName ∈ (grid.update clientName deviceKey row).rows := by
    simp [DisplayGrid.update]
  rw [Bool.eq_false_iff]
  intro hempty
  exact Std.TreeMap.isEmpty_iff_forall_not_mem.mp hempty _ hmem

theorem tracked_start : Tracked .start where
  rows h := Bool.noConfusion h
  clean _ _ := rfl
  writing _ h := absurd h.symm (Option.some_ne_none _)
  returned := List.forall_mem_nil _

theorem tracked_update {t : Terminal} (h : Tracked t) (clientName deviceKey : String) (row : ClientRow) :
    Tracked { t with grid := t.grid.update clientName deviceKey row } where
  rows _ := isEmpty_update _ _ _ _
  clean _ hdirty := Bool.noConfusion hdirty
  writing w hw := ⟨(h.writing w hw).1, (h.writing w hw).2.1, fun hdirty => Bool.noConfusion hdirty⟩
  returned := h.returned

theorem tracked_enter {t : Terminal} (h : Tracked t) (hidle : t.writing = none) : Tracked t.enter := by
  unfold Terminal.enter
  cases hdirty : t.grid.dirty with
  | false =>
    refine ⟨h.rows, h.clean, h.writing, ?_⟩
    exact List.forall_mem_cons.mpr ⟨h.clean hidle hdirty, h.returned⟩
  | true =>
    refine ⟨fun hd => Bool.noConfusion hd, fun hw => absurd hw (Option.some_ne_none _), fun w hw => ?_, h.returned⟩
    obtain rfl := Option.some.inj hw
    exact ⟨h.rows hdirty, rfl, fun _ => rfl⟩

theorem tracked_write {t : Terminal} (h : Tracked t) {w : Writing} (hw : t.writing = some w) : Tracked (t.write w) := by
  obtain ⟨hrows, hframe, hsame⟩ := h.writing w hw
  have hscreen : some (fputs w.frame) = screenOf w.rows := by
    rw [hframe, screenOf_of_rows hrows]
  refine ⟨h.rows, fun _ hdirty => ?_, fun _ hnone => absurd hnone.symm (Option.some_ne_none _), ?_⟩
  · show some (fputs w.frame) = screenOf t.grid.rows
    rw [hscreen, hsame hdirty]
  · exact List.forall_mem_cons.mpr ⟨hscreen, h.returned⟩

theorem tracked_step {t t' : Terminal} {e : RenderEvent} (h : Tracked t) (hstep : t.step e = some t') : Tracked t' := by
  cases e with
  | update clientName deviceKey row =>
    obtain rfl := Option.some.inj hstep
    exact tracked_update h clientName deviceKey row
  | enter =>
    cases hw : t.writing with
    | none =>
      simp only [Terminal.step, hw, Option.some.injEq] at hstep
      exact hstep ▸ tracked_enter h hw
    | some w =>
      simp [Terminal.step, hw] at hstep
  | write =>
    obtain ⟨w, hw, rfl⟩ := Option.map_eq_some_iff.mp hstep
    exact tracked_write h hw

theorem tracked_after {events : List RenderEvent} {t : Terminal} (h : terminalAfter events = some t) : Tracked t := by
  suffices ∀ (events : List RenderEvent) (s : Terminal), Tracked s → events.foldlM Terminal.step s = some t → Tracked t from
    this events .start tracked_start h
  intro events
  induction events with
  | nil =>
    intro s hs hrun
    exact Option.some.inj hrun ▸ hs
  | cons e events ih =>
    intro s hs hrun
    rw [List.foldlM_cons] at hrun
    obtain ⟨s', hstep, hrest⟩ := Option.bind_eq_some_iff.mp hrun
    exact ih s' (tracked_step hs hstep) hrest

/-! ## Frames that are written whole -/

theorem fputs_eq_iff (text : String) : fputs text = text ↔ ∀ ch ∈ text.toList, ch ≠ '\x00' := by
  rw [fputs, ← String.toList_inj, String.toList_ofList, List.takeWhile_eq_self_iff]
  simp only [decide_eq_true_eq]

/-- A frame has a NUL exactly if a string of its rows has. -/
theorem frame_whole_iff {rows : Rows} (hrows : rows.isEmpty = false) :
    fputs (buildFrame rows) = buildFrame rows ↔
      ∀ client ∈ rows.toList, ∀ text ∈ strings client, ∀ ch ∈ text.toList, ch ≠ '\x00' := by
  have hblocks : (∀ ch ∈ (buildFrame rows).toList, ch ≠ '\x00') ↔
      ∀ line ∈ blocks (columnsOf rows), ∀ block ∈ line.take (columnsOf rows).length, ∀ ch ∈ block, ch ≠ '\x00' := by
    rw [frame_closed hrows, List.forall_mem_flatMap, List.forall_mem_map]
    refine forall₂_congr fun line hline => ?_
    rw [List.take_of_length_le (Nat.le_of_eq (length_of_mem_blocks hline)), List.forall_mem_append, List.forall_mem_singleton,
      List.forall_mem_flatten]
    exact and_iff_left (by decide)
  rw [fputs_eq_iff, hblocks, forall_blocks (by decide) (by decide), List.take_length, columnsOf, List.forall_mem_map]
  exact forall₂_congr fun client _ => (forall_chars (by decide) (by decide) client).symm

/-- In every run in which one thread renders, a call that has returned left the frame of its
    rows on the terminal exactly if there were rows, and no string of theirs has a NUL. -/
theorem shown_iff (events : List RenderEvent) (t : Terminal) (hrun : terminalAfter events = some t) :
    ∀ r ∈ t.returned, r.shown = some (buildFrame r.rows) ↔ r.rows.isEmpty = false ∧
      ∀ client ∈ r.rows.toList, ∀ text ∈ strings client, ∀ ch ∈ text.toList, ch ≠ '\x00' := by
  intro r hr
  rw [(tracked_after hrun).returned r hr]
  cases hrows : r.rows.isEmpty with
  | true => simp [screenOf, hrows]
  | false =>
    rw [screenOf_of_rows hrows, Option.some.injEq, frame_whole_iff hrows]
    exact (and_iff_right rfl).symm

/-- One update, then one call. -/
def updateRendered : List RenderEvent := [.update "east" "CPU" ⟨[("Ryzen (CPU)", "")]⟩, .enter, .write]

theorem shown_update :
    ∃ t, terminalAfter updateRendered = some t ∧ t.returned.length = 1 ∧ ∀ r ∈ t.returned, r.shown = some (buildFrame r.rows) := by
  refine ⟨_, rfl, rfl, fun r hr => (shown_iff updateRendered _ rfl r hr).mpr ?_⟩
  obtain rfl := List.mem_singleton.mp hr
  refine ⟨by decide +kernel, ?_⟩
  simp only [ne_eq, List.forall_mem_ne']
  decide +kernel

/-- A call before any update writes nothing. -/
theorem waiting_frame_not_shown :
    ∃ t, terminalAfter [.enter] = some t ∧ ∃ r ∈ t.returned, r.shown = none ∧
      buildFrame r.rows = "Waiting for telemetry clients...\n" ∧ r.shown ≠ some (buildFrame r.rows) :=
  ⟨_, rfl, _, List.mem_singleton_self _, rfl, rfl, fun h => Option.some_ne_none _ h.symm⟩

end HardwareMonitor.ControlCenter
