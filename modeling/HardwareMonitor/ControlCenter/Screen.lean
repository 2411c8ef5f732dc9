/-
  HardwareMonitor.ControlCenter.Screen — what an operator reads on the terminal, over the
  whole system.

  The control center's turns, seen from the terminal, are the updates and the calls of
  `renderIfDirty` (`renderEvents`), so the terminal's grid is the display's
  (`terminal_follows`), and behind a rendering the terminal shows the frame of it. The rows of
  the grid go back to what the workers have pushed (`row_shows`). Where none of these texts
  has a newline or a NUL, the frame is written whole and its columns can be read back: each
  is a client's name, dashes, and for each of its devices the sensors of a snapshot that
  has been pushed for it (`screen_shows_pushed`).
-/

import HardwareMonitor.ControlCenter.Provenance
import HardwareMonitor.ControlCenter.Rendering

namespace HardwareMonitor.ControlCenter

open HardwareMonitor.Lib
open HardwareMonitor.OpcUa
open HardwareMonitor.SystemInfo

/-! ## The turns on the terminal -/

def Turn.isRender : Turn → Bool
  | .render => true
  | _ => false

section

variable (nodeIdToString : NodeId → String) (decodeBinary : ByteString → Option SensorDto) (formatValue : UInt32 → String)

/-- What a turn does to the terminal. -/
def Display.renderEvents (d : Display) : Turn → List RenderEvent
  | .discover _ => []
  | .callback i value =>
    match d.client.monitoredItems[i]? with
    | none => []
    | some item =>
      match ControlCenter.handleSensorUpdate decodeBinary formatValue d.client item.deviceNodeId value with
      | none => []
      | some call => [.update call.clientFolderName call.deviceKey call.row]
  | .render => if d.grid.dirty then [.enter, .write] else [.enter]

def renderEventsFrom (d : Display) : List Turn → List RenderEvent
  | [] => []
  | turn :: turns =>
    d.renderEvents decodeBinary formatValue turn ++
      renderEventsFrom (d.take nodeIdToString decodeBinary formatValue turn) turns

def renderEvents (turns : List Turn) : List RenderEvent := renderEventsFrom nodeIdToString decodeBinary formatValue .start turns

theorem renderEvents_snoc (turns : List Turn) (turn : Turn) :
    renderEvents nodeIdToString decodeBinary formatValue (turns ++ [turn]) =
      renderEvents nodeIdToString decodeBinary formatValue turns ++
        (displayAfter nodeIdToString decodeBinary formatValue turns).renderEvents decodeBinary formatValue turn := by
  suffices ∀ (turns : List Turn) (d : Display), renderEventsFrom nodeIdToString decodeBinary formatValue d (turns ++ [turn]) =
      renderEventsFrom nodeIdToString decodeBinary formatValue d turns ++
        (turns.foldl (Display.take nodeIdToString decodeBinary formatValue) d).renderEvents decodeBinary formatValue turn from
    this turns .start
  intro turns
  induction turns with
  | nil =>
    intro d
    simp [renderEventsFrom]
  | cons first turns ih =>
    intro d
    rw [List.cons_append, renderEventsFrom, renderEventsFrom, ih, List.append_assoc, List.foldl_cons]

/-- A terminal at rest whose grid is the display's. -/
structure Follows (t : Terminal) (d : Display) : Prop where
  grid : t.grid = d.grid
  writing : t.writing = none

/-- A callback or a discovery, and a rendering, on the terminal. Only a rendering writes. -/
theorem follows_turn {t : Terminal} {d : Display} (h : Follows t d) (turn : Turn) :
    ∃ t', (d.renderEvents decodeBinary formatValue turn).foldlM Terminal.step t = some t' ∧
      Follows t' (d.take nodeIdToString decodeBinary formatValue turn) ∧ (turn.isRender = false → t'.shown = t.shown) := by
  cases turn with
  | discover remote => exact ⟨t, rfl, ⟨h.grid, h.writing⟩, fun _ => rfl⟩
  | callback i value =>
    simp only [Display.renderEvents, Display.take]
    cases hitem : d.client.monitoredItems[i]? with
    | none => exact ⟨t, rfl, h, fun _ => rfl⟩
    | some item =>
      simp only [Display.handleSensorUpdate]
      cases hcall : handleSensorUpdate decodeBinary formatValue d.client item.deviceNodeId value with
      | none => exact ⟨t, rfl, ⟨h.grid, h.writing⟩, fun _ => rfl⟩
      | some call =>
        refine ⟨_, rfl, ⟨?_, h.writing⟩, fun _ => rfl⟩
        show t.grid.update _ _ _ = d.grid.update _ _ _
        rw [h.grid]
  | render =>
    simp only [Display.renderEvents]
    cases hdirty : d.grid.dirty with
    | false =>
      simp only [Bool.false_eq_true, if_false, List.foldlM_cons, List.foldlM_nil, Terminal.step, h.writing]
      refine ⟨_, rfl, ⟨?_, ?_⟩, fun hrender => by cases hrender⟩
      · simp only [Terminal.enter, h.grid, hdirty, Bool.not_false, if_true]
        show d.grid = d.grid.rendered
        rw [DisplayGrid.rendered, ← hdirty]
      · simp only [Terminal.enter, h.grid, hdirty, Bool.not_false, if_true, h.writing]
    | true =>
      simp only [if_true, List.foldlM_cons, List.foldlM_nil, Terminal.step, h.writing]
      refine ⟨_, by simp only [Terminal.enter, h.grid, hdirty]; rfl, ⟨?_, rfl⟩, fun hrender => by cases hrender⟩
      rfl

/-- One more turn on the terminal of a run. -/
theorem terminal_snoc {turns : List Turn} {t : Terminal}
    (hrun : terminalAfter (renderEvents nodeIdToString decodeBinary formatValue turns) = some t)
    (h : Follows t (displayAfter nodeIdToString decodeBinary formatValue turns)) (turn : Turn) :
    ∃ t', terminalAfter (renderEvents nodeIdToString decodeBinary formatValue (turns ++ [turn])) = some t' ∧
      Follows t' (displayAfter nodeIdToString decodeBinary formatValue (turns ++ [turn])) ∧
      (turn.isRender = false → t'.shown = t.shown) := by
  obtain ⟨t', hturn, hfollows, hshown⟩ := follows_turn nodeIdToString decodeBinary formatValue h turn
  refine ⟨t', ?_, ?_, hshown⟩
  · rw [renderEvents_snoc, terminalAfter, List.foldlM_append]
    rw [terminalAfter] at hrun
    rw [hrun]
    exact hturn
  · rw [displayAfter_snoc]
    exact hfollows

/-- The terminal's grid is the display's, whatever the turns. -/
theorem terminal_follows (turns : List Turn) :
    ∃ t, terminalAfter (renderEvents nodeIdToString decodeBinary formatValue turns) = some t ∧
      Follows t (displayAfter nodeIdToString decodeBinary formatValue turns) := by
  induction turns using List.reverseRecOn with
  | nil => exact ⟨.start, rfl, rfl, rfl⟩
  | append_singleton turns turn ih =>
    obtain ⟨t, hrun, hfollows⟩ := ih
    obtain ⟨t', hrun', hfollows', -⟩ := terminal_snoc nodeIdToString decodeBinary formatValue hrun hfollows turn
    exact ⟨t', hrun', hfollows'⟩

/-- Until the next rendering the terminal shows the rows of the last one. -/
theorem terminal_shows (turns later : List Turn) (hlater : later.countP Turn.isRender = 0) :
    ∃ t, terminalAfter (renderEvents nodeIdToString decodeBinary formatValue (turns ++ .render :: later)) = some t ∧
      Follows t (displayAfter nodeIdToString decodeBinary formatValue (turns ++ .render :: later)) ∧
      t.shown = screenOf (displayAfter nodeIdToString decodeBinary formatValue turns).grid.rows := by
  induction later using List.reverseRecOn with
  | nil =>
    obtain ⟨t, hrun, hfollows⟩ := terminal_follows nodeIdToString decodeBinary formatValue (turns ++ [.render])
    have hgrid : t.grid = (displayAfter nodeIdToString decodeBinary formatValue turns).grid.rendered := by
      rw [hfollows.grid, displayAfter_snoc]
      rfl
    have hclean := (tracked_after hrun).clean hfollows.writing
    rw [hgrid] at hclean
    exact ⟨t, hrun, hfollows, hclean rfl⟩
  | append_singleton later turn ih =>
    rw [List.countP_append, Nat.add_eq_zero_iff, List.countP_singleton] at hlater
    obtain ⟨hbefore, hturn⟩ := hlater
    have hquiet : turn.isRender = false := by
      by_contra hrender
      rw [if_pos (Bool.of_not_eq_false hrender)] at hturn
      exact absurd hturn Nat.one_ne_zero
    obtain ⟨t, hrun, hfollows, hshown⟩ := ih hbefore
    obtain ⟨t', hrun', hfollows', hsame⟩ := terminal_snoc nodeIdToString decodeBinary formatValue hrun hfollows turn
    rw [List.append_assoc, List.cons_append] at hrun' hfollows'
    exact ⟨t', hrun', hfollows', (hsame hquiet).trans hshown⟩

end

/-! ## Plain texts -/

/-- No newline, and no NUL. -/
def Plain (text : String) : Prop := ∀ ch ∈ text.toList, ch ≠ '\n' ∧ ch ≠ '\x00'

instance (text : String) : Decidable (Plain text) := List.decidableBAll _ _

theorem plain_empty : Plain "" := List.forall_mem_nil _

theorem Plain.append {a b : String} (ha : Plain a) (hb : Plain b) : Plain (a ++ b) := by
  intro ch hch
  rw [String.toList_append] at hch
  rcases List.mem_append.mp hch with hch | hch
  · exact ha ch hch
  · exact hb ch hch

/-- What the backends are launched with, what their workers push, and what a value looks
    like on the grid. -/
structure PlainTexts (launch : Nat → Launch) (es : List Event) (formatValue : UInt32 → String) : Prop where
  clientName : ∀ p, Plain (launch p).clientName
  snapshot : ∀ p snapshot, .push p snapshot ∈ es → Plain snapshot.name ∧ Plain snapshot.hardwareType
  sensor : ∀ p snapshot, .push p snapshot ∈ es → ∀ sensor ∈ snapshot.sensors, Plain sensor.name ∧ Plain sensor.unit
  value : ∀ bits, Plain (formatValue bits)

section

variable {launch : Nat → Launch} {es : List Event} {formatValue : UInt32 → String} {d key hardwareType : String} {row : ClientRow}

theorem ShowsPushed.plain_client (h : ShowsPushed launch es formatValue d key hardwareType row)
    (hplain : PlainTexts launch es formatValue) : Plain d := by
  obtain ⟨snapshot, ⟨p, rfl, -⟩, -⟩ := h.pushed
  exact hplain.clientName p

theorem plain_sensorField (hplain : PlainTexts launch es formatValue) {p : Nat} {snapshot : TelemetrySnapshot}
    (hpush : .push p snapshot ∈ es) {sensor : SensorSnapshot} (hsensor : sensor ∈ snapshot.sensors) :
    Plain (sensorField formatValue sensor).1 ∧ Plain (sensorField formatValue sensor).2 := by
  obtain ⟨hname, hunit⟩ := hplain.sensor p snapshot hpush sensor hsensor
  refine ⟨Plain.append (by decide) hname, ?_⟩
  show Plain (if sensor.unit ≠ "" then _ else _)
  split
  · exact ((hplain.value _).append (by decide)).append hunit
  · exact hplain.value _

theorem ShowsPushed.plain_fields (h : ShowsPushed launch es formatValue d key hardwareType row)
    (hplain : PlainTexts launch es formatValue) : ∀ field ∈ row.fields, Plain field.1 ∧ Plain field.2 := by
  obtain ⟨name, sensors, hname, hfields, hsensors⟩ := h.fields
  have hnamePlain : Plain name := by
    rcases hname with rfl | rfl
    · exact plain_empty
    · obtain ⟨snapshot, ⟨p, -, hpush⟩, rfl⟩ := h.pushed
      exact (hplain.snapshot p snapshot hpush).1
  have htypePlain : Plain hardwareType := by
    rcases h.deviceType with rfl | ⟨snapshot, ⟨⟨p, -, hpush⟩, -⟩, rfl⟩
    · exact plain_empty
    · exact (hplain.snapshot p snapshot hpush).2
  rw [hfields, List.forall_mem_cons, List.forall_mem_map]
  refine ⟨⟨((hnamePlain.append (by decide)).append htypePlain).append (by decide), plain_empty⟩, fun sensor hsensor => ?_⟩
  rcases hsensors with rfl | ⟨snapshot, ⟨⟨p, -, hpush⟩, -⟩, rfl⟩
  · exact nomatch hsensor
  · exact plain_sensorField hplain hpush hsensor

end

/-! ## The rows of a grid -/

/-- No client without a device. -/
def DisplayGrid.Peopled (grid : DisplayGrid) : Prop :=
  ∀ (clientName : String) (devices : Std.TreeMap String ClientRow), grid.rows[clientName]? = some devices →
    devices.isEmpty = false

theorem peopled_update {grid : DisplayGrid} (h : grid.Peopled) (clientName deviceKey : String) (row : ClientRow) :
    (grid.update clientName deviceKey row).Peopled := by
  intro name devices hdevices
  simp only [DisplayGrid.update, Std.TreeMap.getElem?_alter, Std.compare_eq_iff_eq] at hdevices
  by_cases hname : clientName = name
  · rw [if_pos hname, Option.some.injEq] at hdevices
    rw [← hdevices]
    exact Std.TreeMap.isEmpty_insert
  · rw [if_neg hname] at hdevices
    exact h name devices hdevices

theorem values_eq (devices : Std.TreeMap String ClientRow) : devices.values = devices.toList.map (·.2) := by
  have hfold : devices.values = devices.foldr (fun _ row rows => row :: rows) [] := rfl
  rw [hfold, Std.TreeMap.foldr_eq_foldr_toList]
  induction devices.toList with
  | nil => rfl
  | cons e l ih => simp [ih]

section

variable {nodeIdToString : NodeId → String} {decodeBinary : ByteString → Option SensorDto} {formatValue : UInt32 → String}

theorem peopled_after (turns : List Turn) : (displayAfter nodeIdToString decodeBinary formatValue turns).grid.Peopled := by
  induction turns using List.reverseRecOn with
  | nil =>
    intro name devices h
    simp [displayAfter, Display.start, DisplayGrid.start] at h
  | append_singleton turns turn ih =>
    rw [displayAfter_snoc]
    cases turn with
    | discover remote => exact ih
    | render => exact ih
    | callback i value =>
      simp only [Display.take]
      cases (displayAfter nodeIdToString decodeBinary formatValue turns).client.monitoredItems[i]? with
      | none => exact ih
      | some item =>
        simp only [Display.handleSensorUpdate]
        split
        · exact ih
        · exact peopled_update ih _ _ _

end

/-- A client that is listed has a device that is. -/
theorem device_of_mem {grid : DisplayGrid} (h : grid.Peopled) :
    ∀ client ∈ grid.rows.toList, ∃ e, e ∈ client.2.toList := by
  intro client hclient
  have hdevices := h client.1 client.2 (Std.TreeMap.mem_toList_iff_getElem?_eq_some.mp hclient)
  refine List.exists_mem_of_ne_nil _ fun hnil => ?_
  rw [← Std.TreeMap.isEmpty_toList, hnil] at hdevices
  exact Bool.noConfusion hdevices

/-! ## The screen -/

section

variable {launch : Nat → Launch} {es : List Event} {nodeIdToString : NodeId → String}
  {decodeBinary : ByteString → Option SensorDto} {formatValue : UInt32 → String} {turns : List Turn}

/-- The strings of the grid's rows are plain. -/
theorem plain_strings (h : GenuineRun launch es nodeIdToString decodeBinary formatValue turns)
    (hplain : PlainTexts launch es formatValue) :
    ∀ client ∈ (displayAfter nodeIdToString decodeBinary formatValue turns).grid.rows.toList,
      ∀ text ∈ strings client, Plain text := by
  intro client hclient
  have hshows : ∀ e ∈ client.2.toList, ∃ key, ShowsPushed launch es formatValue client.1 key e.1 e.2 :=
    fun e he => row_shows h (row_of_mem _ client hclient e he)
  rw [strings, List.forall_mem_cons]
  constructor
  · obtain ⟨e, he⟩ := device_of_mem (peopled_after turns) client hclient
    obtain ⟨key, hrow⟩ := hshows e he
    exact hrow.plain_client hplain
  · rw [values_eq]
    simp only [List.forall_mem_flatMap, List.forall_mem_map, List.forall_mem_cons, List.not_mem_nil, false_imp_iff,
      implies_true, and_true]
    intro e he field hfield
    obtain ⟨key, hrow⟩ := hshows e he
    exact hrow.plain_fields hplain field hfield

end

/-- What an operator reads in column `c`, line by line. -/
def readColumn (rows : Rows) (c : Nat) (text : String) : List (List Char) :=
  (Table.lines '\n' text.toList).map (Table.column ((columnsOf rows).map columnWidth) c)

/-- What is to be read there: the client's name, dashes, then the fields of its devices with
    a blank one between two, and blanks down to the last line. -/
def clientColumn (rows : Rows) (client : String × Std.TreeMap String ClientRow) : List (List Char) :=
  let width := columnWidth (columnOf client)
  let cells := [""].intercalate (client.2.toList.map fun e => e.2.fields.map fieldText)
  Table.pad ' ' width client.1.toList :: dashes (columnOf client) ::
    (cells ++ List.replicate (maxRows (columnsOf rows) - cells.length) "").map fun cell => Table.pad ' ' width cell.toList

theorem readColumn_buildFrame {rows : Rows} (hrows : rows.isEmpty = false)
    (hplain : ∀ client ∈ rows.toList, ∀ text ∈ strings client, '\n' ∉ text.toList) (c : Nat) :
    ∀ client, rows.toList[c]? = some client → readColumn rows c (buildFrame rows) = clientColumn rows client := by
  intro client hclient
  have hcolumn : (columnsOf rows)[c]? = some (columnOf client) := by
    rw [columnsOf, List.getElem?_map, hclient, Option.map_some]
  obtain ⟨hc, hget⟩ := List.getElem?_eq_some_iff.mp hcolumn
  have hcells : (columnOf client).fields.map cellText =
      [""].intercalate (client.2.toList.map fun e => e.2.fields.map fieldText) := by
    rw [columnOf, map_cellText_flattenDevices, values_eq, List.map_map]
    rfl
  have hblocks := blocks_column hc
  rw [hget, hcells, ← List.length_map cellText, hcells] at hblocks
  rw [readColumn, frame_lines hrows hplain, List.map_map]
  exact hblocks

/-- Whatever the backends and the control center have done, in whatever order: once the
    display has been rendered, the terminal shows nothing if no row has ever come, and
    otherwise a text whose columns, cut at the widths of the columns, are the clients in the
    order of their names, each with rows that show what has been pushed under its name. -/
theorem screen_shows_pushed (launch : Nat → Launch) (es : List Event) (nodeIdToString : NodeId → String)
    (decodeBinary : ByteString → Option SensorDto) (formatValue : UInt32 → String) (turns : List Turn)
    (h : GenuineRun launch es nodeIdToString decodeBinary formatValue turns) (hplain : PlainTexts launch es formatValue) :
    let rows := (displayAfter nodeIdToString decodeBinary formatValue turns).grid.rows
    ∃ t, terminalAfter (renderEvents nodeIdToString decodeBinary formatValue (turns ++ [.render])) = some t ∧
      (rows.isEmpty = true → t.shown = none) ∧
      (rows.isEmpty = false → ∃ text, t.shown = some text ∧ ∀ (c : Nat) (client : String × Std.TreeMap String ClientRow),
        rows.toList[c]? = some client → readColumn rows c text = clientColumn rows client ∧
          ∀ e ∈ client.2.toList, ∃ key, ShowsPushed launch es formatValue client.1 key e.1 e.2) := by
  intro rows
  obtain ⟨t, hrun, -, hshown⟩ := terminal_shows nodeIdToString decodeBinary formatValue turns [] rfl
  refine ⟨t, hrun, fun hrows => ?_, fun hrows => ?_⟩
  · rw [hshown, screenOf]
    exact if_pos hrows
  · have hstrings := plain_strings h hplain
    have hwhole : fputs (buildFrame rows) = buildFrame rows :=
      (frame_whole_iff hrows).mpr fun client hclient text htext ch hch => (hstrings client hclient text htext ch hch).2
    refine ⟨buildFrame rows, by rw [hshown, screenOf_of_rows hrows, hwhole], fun c client hclient => ⟨?_, fun e he => ?_⟩⟩
    · refine readColumn_buildFrame hrows (fun client hclient text htext hnewline => ?_) c client hclient
      exact (hstrings client hclient text htext _ hnewline).1 rfl
    · exact row_shows h (row_of_mem _ client (List.mem_of_getElem? hclient) e he)

theorem plc_plain : PlainTexts (solo "plc") plcSends fun _ => "" where
  clientName _ := (by decide : Plain "plc")
  snapshot p snapshot hpush := by
    rw [List.mem_singleton.mp (soloRun_pushes hpush)]
    decide
  sensor p snapshot hpush := by
    rw [List.mem_singleton.mp (soloRun_pushes hpush)]
    decide
  value _ := plain_empty

/-- The screen after the empty callback and the one with the snapshot: the first column is
    that of the only client. -/
theorem screen_shows_pushed_plc :
    ∃ t text client, terminalAfter (renderEvents idString (fun _ => none) (fun _ => "") (plcTurns ++ [.render])) = some t ∧
      t.shown = some text ∧ (displayAfter idString (fun _ => none) (fun _ => "") plcTurns).grid.rows.toList[0]? = some client ∧
      readColumn (displayAfter idString (fun _ => none) (fun _ => "") plcTurns).grid.rows 0 text =
        clientColumn (displayAfter idString (fun _ => none) (fun _ => "") plcTurns).grid.rows client := by
  obtain ⟨t, hrun, -, hshown⟩ := screen_shows_pushed (solo "plc") plcSends idString (fun _ => none) (fun _ => "") plcTurns
    plcTurns_genuine plc_plain
  obtain ⟨text, htext, hcolumns⟩ := hshown (by decide +kernel)
  obtain ⟨client, hclient⟩ := Option.isSome_iff_exists.mp
    (by decide +kernel :
      ((displayAfter idString (fun _ => none) (fun _ => "") plcTurns).grid.rows.toList[0]?).isSome = true)
  exact ⟨t, text, client, hrun, htext, hclient, (hcolumns 0 client hclient).1⟩

end HardwareMonitor.ControlCenter
