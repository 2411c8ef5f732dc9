/-
  HardwareMonitor.ControlCenter.Frame — `DisplayGrid::buildFrame`: the text of the grid.

  A column for each client: its name, dashes, and the fields of its devices in map order
  with a blank one between two devices. The widths come from one loop over the fields and
  the cells from another; every cell is shorter than its column (`cell_lt_width`), so the
  frame is a table of blocks of the columns' widths (`frame_closed`), and each column of it
  reads back as the client's fields (`frame_is_aligned_table`).
-/

import HardwareMonitor.Lib.Table
import HardwareMonitor.ControlCenter.DisplayGrid

namespace HardwareMonitor.ControlCenter

open HardwareMonitor.Lib

/-! ## The frame -/

/-- `rows_`, by client and then by device. -/
abbrev Rows := Std.TreeMap String (Std.TreeMap String ClientRow)

def kColumnPadding : Nat := 3

def kMinColumnWidth : Nat := 14

/-- A difference of two `size_t`. -/
def sizeSub (a b : Nat) : Nat := if b ≤ a then a - b else a + 2 ^ 64 - b

/-- `std::string(n, ch)`. -/
def repeated (n : Nat) (ch : Char) : String := String.ofList (List.replicate n ch)

structure ColumnData where
  name : String
  fields : List (String × String)

/-- The loop over one client's devices; the flag is `first_device`. -/
def flattenDevices (devices : List ClientRow) : List (String × String) :=
  (devices.foldl (fun (fields, firstDevice) row =>
    ((if firstDevice then fields else fields ++ [("", "")]) ++ row.fields, false)) ([], true)).1

def columnOf (client : String × Std.TreeMap String ClientRow) : ColumnData where
  name := client.1
  fields := flattenDevices client.2.values

def columnsOf (rows : Rows) : List ColumnData := rows.toList.map columnOf

/-- Sizes are `size_t`, but a label and a value together fit in the address space. -/
def columnWidth (column : ColumnData) : Nat :=
  let width := column.fields.foldl (fun width field => max width (field.1.length + 2 + field.2.length)) column.name.length
  max (width + kColumnPadding) kMinColumnWidth

def maxRows (columns : List ColumnData) : Nat := columns.foldl (fun rows column => max rows column.fields.length) 0

def nameBlock (column : ColumnData) : String :=
  column.name ++ repeated (sizeSub (columnWidth column) column.name.length) ' '

def dashBlock (column : ColumnData) : String :=
  repeated (min (sizeSub (columnWidth column) kColumnPadding) (columnWidth column)) '-' ++ repeated kColumnPadding ' '

def cellText (field : String × String) : String :=
  if field.2.isEmpty then field.1 else field.1 ++ ": " ++ field.2

/-- The cell of row `r`: none of its own below a client's last field. -/
def cellAt (r : Nat) (column : ColumnData) : String :=
  match column.fields[r]? with
  | some field => cellText field
  | none => ""

def dataBlock (r : Nat) (column : ColumnData) : String :=
  let cell := cellAt r column
  cell ++ repeated (if columnWidth column > cell.length then sizeSub (columnWidth column) cell.length else 1) ' '

def buildFrame (rows : Rows) : String :=
  if rows.isEmpty then "Waiting for telemetry clients...\n"
  else
    let columns := columnsOf rows
    String.join (columns.map nameBlock) ++ "\n" ++ (String.join (columns.map dashBlock) ++ "\n") ++
      String.join ((List.range (maxRows columns)).map fun r => String.join (columns.map (dataBlock r)) ++ "\n")

/-- What a client's column is made of. -/
def strings (client : String × Std.TreeMap String ClientRow) : List String :=
  client.1 :: client.2.values.flatMap fun row => row.fields.flatMap fun (label, value) => [label, value]

/-! ## The cells of a column -/

theorem flattenDevices_eq (devices : List ClientRow) :
    flattenDevices devices = [("", "")].intercalate (devices.map (·.fields)) := by
  -- after the first device, every device adds a blank field and its own
  have hlater : ∀ (devices : List ClientRow) (fields : List (String × String)),
      (devices.foldl (fun (fields, firstDevice) row =>
        ((if firstDevice then fields else fields ++ [("", "")]) ++ row.fields, false)) (fields, false)).1 =
        [("", "")].intercalate (fields :: devices.map (·.fields)) := by
    intro devices
    induction devices with
    | nil => simp
    | cons row devices ih =>
      intro fields
      rw [List.foldl_cons, ih]
      cases devices <;> simp [List.intercalate_cons_cons]
  cases devices with
  | nil => rfl
  | cons row devices =>
    rw [flattenDevices, List.foldl_cons, hlater]
    simp

/-- What is to be read for a field: its label, with the value behind a colon if there is one. -/
def fieldText (field : String × String) : String :=
  if field.2 = "" then field.1 else String.ofList (field.1.toList ++ [':', ' '] ++ field.2.toList)

theorem cellText_eq (field : String × String) : cellText field = fieldText field := by
  have hsep : (": " : String).toList = [':', ' '] := rfl
  unfold cellText fieldText
  by_cases hvalue : field.2 = ""
  · rw [if_pos (String.isEmpty_iff.mpr hvalue), if_pos hvalue]
  · rw [if_neg (hvalue ∘ String.isEmpty_iff.mp), if_neg hvalue, ← String.toList_inj, String.toList_ofList,
      String.toList_append, String.toList_append, hsep]

theorem fieldText_blank : fieldText ("", "") = "" := rfl

theorem map_cellText_flattenDevices (devices : List ClientRow) :
    (flattenDevices devices).map cellText = [""].intercalate (devices.map fun row => row.fields.map fieldText) := by
  rw [flattenDevices_eq, List.map_congr_left fun field _ => cellText_eq field]
  induction devices with
  | nil => rfl
  | cons row devices ih =>
    cases devices with
    | nil => simp
    | cons next devices =>
      simp only [List.map_cons, List.intercalate_cons_cons, List.map_append] at ih ⊢
      rw [ih]
      simp [fieldText_blank]

theorem map_cellAt (column : ColumnData) {n : Nat} (h : column.fields.length ≤ n) :
    (List.range n).map (cellAt · column) =
      column.fields.map cellText ++ List.replicate (n - column.fields.length) "" := by
  refine List.ext_getElem (by simp; omega) fun r hr _ => ?_
  rw [List.getElem_map, List.getElem_range, cellAt]
  by_cases hin : r < column.fields.length
  · rw [List.getElem?_eq_getElem hin, List.getElem_append_left (by simpa using hin), List.getElem_map]
  · rw [List.getElem?_eq_none (by omega), List.getElem_append_right (by simpa using hin), List.getElem_replicate]

/-! ## Widths -/

theorem foldl_max_le {β : Type} (f : β → Nat) (l : List β) (n : Nat) :
    n ≤ l.foldl (fun m x => max m (f x)) n ∧ ∀ x ∈ l, f x ≤ l.foldl (fun m x => max m (f x)) n := by
  induction l generalizing n with
  | nil => exact ⟨Nat.le_refl n, List.forall_mem_nil _⟩
  | cons y l ih =>
    obtain ⟨hn, hl⟩ := ih (max n (f y))
    rw [List.foldl_cons]
    refine ⟨by omega, fun x hx => ?_⟩
    rcases List.mem_cons.mp hx with rfl | hx
    · omega
    · exact hl x hx

theorem fields_le_maxRows {columns : List ColumnData} {column : ColumnData} (h : column ∈ columns) :
    column.fields.length ≤ maxRows columns :=
  (foldl_max_le (fun column => column.fields.length) columns 0).2 column h

theorem padding_lt_width (column : ColumnData) : kColumnPadding < columnWidth column := by
  simp only [columnWidth, kColumnPadding, kMinColumnWidth]
  omega

theorem name_lt_width (column : ColumnData) : column.name.length < columnWidth column := by
  have h := (foldl_max_le (fun field => field.1.length + 2 + field.2.length) column.fields column.name.length).1
  simp only [columnWidth, kColumnPadding]
  omega

theorem length_cellText (field : String × String) : (cellText field).length ≤ field.1.length + 2 + field.2.length := by
  unfold cellText
  split
  · omega
  · simp only [String.length_append]
    have hcolon : (": " : String).length = 2 := rfl
    omega

/-- A cell is at least the padding shorter than its column. -/
theorem cell_lt_width (r : Nat) (column : ColumnData) : (cellAt r column).length < columnWidth column := by
  unfold cellAt
  cases hfield : column.fields[r]? with
  | none =>
    have h := padding_lt_width column
    rw [String.length_empty]
    omega
  | some field =>
    have h := (foldl_max_le (fun field => field.1.length + 2 + field.2.length) column.fields column.name.length).2 field
      (List.mem_of_getElem? hfield)
    have htext := length_cellText field
    simp only [columnWidth, kColumnPadding]
    omega

theorem sizeSub_of_le {a b : Nat} (h : b ≤ a) : sizeSub a b = a - b := if_pos h

/-! ## Blocks -/

@[simp] theorem toList_repeated (n : Nat) (ch : Char) : (repeated n ch).toList = List.replicate n ch := by
  rw [repeated, String.toList_ofList]

theorem nameBlock_toList (column : ColumnData) :
    (nameBlock column).toList = Table.pad ' ' (columnWidth column) column.name.toList := by
  rw [nameBlock, sizeSub_of_le (Nat.le_of_lt (name_lt_width column)), String.toList_append, toList_repeated, Table.pad,
    String.length_toList]

/-- The dashes under a name. -/
def dashes (column : ColumnData) : List Char :=
  List.replicate (columnWidth column - kColumnPadding) '-' ++ List.replicate kColumnPadding ' '

theorem dashBlock_toList (column : ColumnData) : (dashBlock column).toList = dashes column := by
  rw [dashBlock, sizeSub_of_le (Nat.le_of_lt (padding_lt_width column)), Nat.min_eq_left (Nat.sub_le _ _),
    String.toList_append, toList_repeated, toList_repeated, dashes]

theorem dataBlock_toList (r : Nat) (column : ColumnData) :
    (dataBlock r column).toList = Table.pad ' ' (columnWidth column) (cellAt r column).toList := by
  have hcell := cell_lt_width r column
  rw [dataBlock, if_pos hcell, sizeSub_of_le (Nat.le_of_lt hcell), String.toList_append, toList_repeated, Table.pad,
    String.length_toList]

/-- What every column shows on every line. -/
def blocks (columns : List ColumnData) : List (List (List Char)) :=
  (columns.map fun column => Table.pad ' ' (columnWidth column) column.name.toList) :: columns.map dashes ::
    (List.range (maxRows columns)).map fun r =>
      columns.map fun column => Table.pad ' ' (columnWidth column) (cellAt r column).toList

/-- A frame with clients is a text of lines of blocks. -/
theorem frame_closed {rows : Rows} (h : rows.isEmpty = false) :
    (buildFrame rows).toList = ((blocks (columnsOf rows)).map List.flatten).flatMap (· ++ ['\n']) := by
  have hnewline : ("\n" : String).toList = ['\n'] := rfl
  have hline : ∀ block : ColumnData → String,
      (String.join ((columnsOf rows).map block)).toList = ((columnsOf rows).map fun column => (block column).toList).flatten := by
    intro block
    rw [String.toList_join, List.flatMap_map, List.flatMap_def]
  rw [buildFrame, h]
  simp only [Bool.false_eq_true, if_false, String.toList_append, hline, hnewline, nameBlock_toList, dashBlock_toList,
    String.toList_join, List.flatMap_map, dataBlock_toList, blocks, List.map_cons, List.flatMap_cons, List.append_assoc]

/-- The blocks of a line have the widths of the columns. -/
theorem blocks_widths {columns : List ColumnData} {line : List (List Char)} (h : line ∈ blocks columns) :
    line.map List.length = columns.map columnWidth := by
  have hpad : ∀ cell : ColumnData → List Char, (∀ column, (cell column).length < columnWidth column) →
      (columns.map fun column => Table.pad ' ' (columnWidth column) (cell column)).map List.length = columns.map columnWidth := by
    intro cell hcell
    rw [List.map_map]
    exact List.map_congr_left fun column _ => Table.length_pad (Nat.le_of_lt (hcell column))
  rcases List.mem_cons.mp h with rfl | h
  · exact hpad (·.name.toList) fun column => String.length_toList ▸ name_lt_width column
  rcases List.mem_cons.mp h with rfl | h
  · rw [List.map_map]
    refine List.map_congr_left fun column _ => ?_
    have hpadding := padding_lt_width column
    rw [Function.comp_apply, dashes, List.length_append, List.length_replicate, List.length_replicate]
    omega
  · obtain ⟨r, -, rfl⟩ := List.mem_map.mp h
    exact hpad (fun column => (cellAt r column).toList) fun column => String.length_toList ▸ cell_lt_width r column

/-! ## What the cells are made of -/

theorem forall_cellText {p : Char → Prop} (hcolon : p ':') (hspace : p ' ') (field : String × String) :
    (∀ ch ∈ (cellText field).toList, p ch) ↔ (∀ ch ∈ field.1.toList, p ch) ∧ ∀ ch ∈ field.2.toList, p ch := by
  unfold cellText
  split
  · rename_i hempty
    have hvalue : field.2 = "" := String.isEmpty_iff.mp hempty
    simp [hvalue]
  · have hsep : (": " : String).toList = [':', ' '] := rfl
    simp [hsep, hcolon, hspace, or_imp, forall_and]

theorem forall_flattenDevices {p : String × String → Prop} (hblank : p ("", "")) (devices : List ClientRow) :
    (∀ field ∈ flattenDevices devices, p field) ↔ ∀ row ∈ devices, ∀ field ∈ row.fields, p field := by
  rw [flattenDevices_eq]
  induction devices with
  | nil => simp
  | cons row devices ih =>
    cases devices with
    | nil => simp
    | cons next devices =>
      rw [List.forall_mem_cons, ← ih, List.map_cons, List.map_cons, List.intercalate_cons_cons, List.forall_mem_append,
        List.forall_mem_append, List.forall_mem_singleton]
      exact ⟨fun h => ⟨h.1.1, h.2⟩, fun h => ⟨⟨h.1, hblank⟩, h.2⟩⟩

theorem forall_cellAt {p : String → Prop} (hempty : p "") (column : ColumnData) :
    (∀ r, p (cellAt r column)) ↔ ∀ field ∈ column.fields, p (cellText field) := by
  constructor
  · intro h field hfield
    obtain ⟨r, hr⟩ := List.mem_iff_getElem?.mp hfield
    have hcell := h r
    rwa [cellAt, hr] at hcell
  · intro h r
    unfold cellAt
    cases hr : column.fields[r]? with
    | none => exact hempty
    | some field => exact h field (List.mem_of_getElem? hr)

/-- The strings of a client are its name and the fields of its column. -/
theorem forall_strings {p : String → Prop} (hempty : p "") (client : String × Std.TreeMap String ClientRow) :
    (∀ text ∈ strings client, p text) ↔ p client.1 ∧ ∀ field ∈ (columnOf client).fields, p field.1 ∧ p field.2 := by
  rw [columnOf, forall_flattenDevices (p := fun field => p field.1 ∧ p field.2) ⟨hempty, hempty⟩, strings,
    List.forall_mem_cons]
  simp only [List.forall_mem_flatMap, List.forall_mem_cons, List.not_mem_nil, false_imp_iff, implies_true, and_true]

/-- The characters of a column are those of the client's strings, and the separator's. -/
theorem forall_chars {p : Char → Prop} (hcolon : p ':') (hspace : p ' ') (client : String × Std.TreeMap String ClientRow) :
    (∀ text ∈ strings client, ∀ ch ∈ text.toList, p ch) ↔
      (∀ ch ∈ client.1.toList, p ch) ∧ ∀ r, ∀ ch ∈ (cellAt r (columnOf client)).toList, p ch := by
  have hempty : ∀ ch ∈ ("" : String).toList, p ch := List.forall_mem_nil _
  rw [forall_strings hempty, forall_cellAt (p := fun text => ∀ ch ∈ text.toList, p ch) hempty]
  simp only [forall_cellText hcolon hspace]

/-! ## The table -/

/-- What holds of blanks and dashes holds of the first blocks of every line as soon as it
    holds of the cells of these columns. -/
theorem forall_blocks {p : Char → Prop} (hspace : p ' ') (hdash : p '-') (columns : List ColumnData) (c : Nat) :
    (∀ line ∈ blocks columns, ∀ block ∈ line.take c, ∀ ch ∈ block, p ch) ↔
      ∀ column ∈ columns.take c, (∀ ch ∈ column.name.toList, p ch) ∧ ∀ r, ∀ ch ∈ (cellAt r column).toList, p ch := by
  have hpad : ∀ (width : Nat) (cell : List Char), (∀ ch ∈ Table.pad ' ' width cell, p ch) ↔ ∀ ch ∈ cell, p ch := by
    intro width cell
    rw [Table.pad, List.forall_mem_append]
    exact and_iff_left fun ch hch => (List.eq_of_mem_replicate hch) ▸ hspace
  have hdashes : ∀ column, ∀ ch ∈ dashes column, p ch := by
    intro column ch hch
    rcases List.mem_append.mp hch with hch | hch
    · exact (List.eq_of_mem_replicate hch) ▸ hdash
    · exact (List.eq_of_mem_replicate hch) ▸ hspace
  simp only [blocks, List.forall_mem_cons, List.forall_mem_map, ← List.map_take, hpad]
  constructor
  · intro h column hcolumn
    obtain ⟨hname, -, hcells⟩ := h
    refine ⟨hname column hcolumn, fun r => ?_⟩
    by_cases hr : r < maxRows columns
    · exact hcells r (List.mem_range.mpr hr) column hcolumn
    · -- below the last line no column has a cell
      have hfields := fields_le_maxRows (List.mem_of_mem_take hcolumn)
      rw [cellAt, List.getElem?_eq_none (by omega)]
      exact List.forall_mem_nil _
  · intro h
    exact ⟨fun column hcolumn => (h column hcolumn).1, fun column _ => hdashes column,
      fun r _ column hcolumn => (h column hcolumn).2 r⟩

/-- A line has as many blocks as there are columns. -/
theorem length_of_mem_blocks {columns : List ColumnData} {line : List (List Char)} (h : line ∈ blocks columns) :
    line.length = columns.length := by
  rw [← List.length_map List.length, blocks_widths h, List.length_map]

/-- No line has a newline inside when no string has one. -/
theorem newline_notMem {rows : Rows} (h : ∀ client ∈ rows.toList, ∀ text ∈ strings client, '\n' ∉ text.toList) :
    ∀ line ∈ (blocks (columnsOf rows)).map List.flatten, '\n' ∉ line := by
  have hclean := (forall_blocks (p := (· ≠ '\n')) (by decide) (by decide) (columnsOf rows) (columnsOf rows).length).mpr ?_
  · intro line hline hnewline
    obtain ⟨bs, hbs, rfl⟩ := List.mem_map.mp hline
    obtain ⟨block, hblock, hin⟩ := List.mem_flatten.mp hnewline
    rw [← List.take_length (l := bs), length_of_mem_blocks hbs] at hblock
    exact hclean bs hbs block hblock _ hin rfl
  · intro column hcolumn
    obtain ⟨client, hclient, rfl⟩ := List.mem_map.mp (List.mem_of_mem_take hcolumn)
    refine (forall_chars (by decide) (by decide) client).mp fun text htext ch hch heq => ?_
    exact h client hclient text htext (heq ▸ hch)

/-- The lines of a frame, each cut into its blocks. -/
theorem frame_lines {rows : Rows} (hrows : rows.isEmpty = false)
    (hplain : ∀ client ∈ rows.toList, ∀ text ∈ strings client, '\n' ∉ text.toList) :
    Table.lines '\n' (buildFrame rows).toList = (blocks (columnsOf rows)).map List.flatten := by
  rw [frame_closed hrows, Table.lines_closed (newline_notMem hplain)]

/-- A column on every line: the client's name, dashes, then the cells of its fields. -/
theorem blocks_column {columns : List ColumnData} {c : Nat} (hc : c < columns.length) :
    (blocks columns).map (fun line => Table.column (columns.map columnWidth) c line.flatten) =
      Table.pad ' ' (columnWidth columns[c]) columns[c].name.toList :: dashes columns[c] ::
        (columns[c].fields.map cellText ++ List.replicate (maxRows columns - columns[c].fields.length) "").map
          fun cell => Table.pad ' ' (columnWidth columns[c]) cell.toList := by
  have hread : ∀ row ∈ blocks columns, ∀ h : c < row.length,
      Table.column (columns.map columnWidth) c row.flatten = row[c] := by
    intro row hrow h
    exact Table.column_flatten (blocks_widths hrow) h
  have hname := hread (columns.map fun column => Table.pad ' ' (columnWidth column) column.name.toList) List.mem_cons_self
    (by simpa using hc)
  have hdash := hread (columns.map dashes) (List.mem_cons_of_mem _ List.mem_cons_self) (by simpa using hc)
  have hfields : columns[c].fields.length ≤ maxRows columns := fields_le_maxRows (List.getElem_mem hc)
  rw [← map_cellAt columns[c] hfields, blocks, List.map_cons, List.map_cons, hname, hdash, List.getElem_map, List.getElem_map,
    List.map_map, List.map_map]
  refine congrArg _ (congrArg _ (List.map_congr_left fun r hr => ?_))
  have hdata := hread (columns.map fun column => Table.pad ' ' (columnWidth column) (cellAt r column).toList)
    (List.mem_cons_of_mem _ (List.mem_cons_of_mem _ (List.mem_map.mpr ⟨r, hr, rfl⟩))) (by simpa using hc)
  rw [Function.comp_apply, hdata, List.getElem_map]
  rfl

/-- The frame of any grid: as many lines as the longest column needs, all of one length,
    every column in one range of all lines, and in it the client's name, dashes, and its
    fields device by device, whole. No difference of sizes wraps. -/
theorem frame_is_aligned_table (rows : Rows) (hrows : rows.isEmpty = false)
    (hplain : ∀ client ∈ rows.toList, ∀ text ∈ strings client, '\n' ∉ text.toList) :
    let columns := columnsOf rows
    let widths := columns.map columnWidth
    let lines := Table.lines '\n' (buildFrame rows).toList
    (buildFrame rows).toList = lines.flatMap (· ++ ['\n']) ∧ lines.length = 2 + maxRows columns ∧
      (∀ line ∈ lines, line.length = widths.sum) ∧
      ∀ (c : Nat) (client : String × Std.TreeMap String ClientRow), rows.toList[c]? = some client →
        let width := columnWidth (columnOf client)
        let cells := [""].intercalate (client.2.values.map fun row => row.fields.map fieldText)
        widths[c]? = some width ∧ cells.length ≤ maxRows columns ∧
          lines.map (Table.column widths c) = Table.pad ' ' width client.1.toList ::
            (List.replicate (width - kColumnPadding) '-' ++ List.replicate kColumnPadding ' ') ::
            (cells ++ List.replicate (maxRows columns - cells.length) "").map (fun cell => Table.pad ' ' width cell.toList) ∧
          client.1.length ≤ width ∧ kColumnPadding ≤ width ∧ ∀ cell ∈ "" :: cells, cell.length < width := by
  intro columns widths lines
  have hlines : lines = (blocks columns).map List.flatten := frame_lines hrows hplain
  refine ⟨?_, ?_, ?_, ?_⟩
  · rw [hlines]
    exact frame_closed hrows
  · rw [hlines, List.length_map, blocks, List.length_cons, List.length_cons, List.length_map, List.length_range]
    omega
  · intro line hline
    rw [hlines] at hline
    obtain ⟨bs, hbs, rfl⟩ := List.mem_map.mp hline
    exact Table.length_flatten_blocks (blocks_widths hbs)
  · intro c client hclient width cells
    have hcolumn : columns[c]? = some (columnOf client) := by
      show (columnsOf rows)[c]? = _
      rw [columnsOf, List.getElem?_map, hclient, Option.map_some]
    obtain ⟨hc, hget⟩ := List.getElem?_eq_some_iff.mp hcolumn
    have hcells : (columnOf client).fields.map cellText = cells := map_cellText_flattenDevices client.2.values
    have hcount : cells.length = columns[c].fields.length := by
      rw [← hcells, List.length_map, hget]
    have hpadding : kColumnPadding < width := padding_lt_width _
    have hname : client.1.length < width := name_lt_width (columnOf client)
    have hshort : ∀ r, (cellAt r (columnOf client)).length < width := fun r => cell_lt_width r _
    refine ⟨?_, ?_, ?_, Nat.le_of_lt hname, Nat.le_of_lt hpadding, ?_⟩
    · show (columns.map columnWidth)[c]? = _
      rw [List.getElem?_map, hcolumn, Option.map_some]
    · rw [hcount]
      exact fields_le_maxRows (List.getElem_mem hc)
    · rw [hlines, List.map_map, hcount]
      have hblocks := blocks_column hc
      rw [hget, hcells] at hblocks
      rw [hget]
      exact hblocks
    · have hempty : ("" : String).length < width := Nat.lt_of_le_of_lt (Nat.zero_le _) hpadding
      refine List.forall_mem_cons.mpr ⟨hempty, ?_⟩
      rw [← hcells]
      exact List.forall_mem_map.mpr ((forall_cellAt (p := fun text => text.length < width) hempty (columnOf client)).mp hshort)

/-- Two clients, the first with two devices. -/
def twoClients : Rows :=
  ((DisplayGrid.start.update "east" "CPU" ⟨[("Ryzen (CPU)", ""), ("Load", "7 %")]⟩).update "east" "GPU"
    ⟨[("RTX (GPU)", "")]⟩ |>.update "west" "CPU" ⟨[("Core (CPU)", "")]⟩).rows

/-- The first column of the two, 16 wide: a blank line between the processor and the card. -/
theorem frame_is_aligned_table_two :
    let lines := Table.lines '\n' (buildFrame twoClients).toList
    lines.length = 6 ∧ (∀ line ∈ lines, line.length = 31) ∧
      lines.map (Table.column [16, 15] 0) =
        ["east            ", "-------------   ", "Ryzen (CPU)     ", "Load: 7 %       ", "                ",
          "RTX (GPU)       "].map String.toList := by
  intro lines
  obtain ⟨-, hcount, hlength, hcolumns⟩ := frame_is_aligned_table twoClients (by decide +kernel) (by decide +kernel)
  have hwidths : (columnsOf twoClients).map columnWidth = [16, 15] := by decide +kernel
  have hrows : maxRows (columnsOf twoClients) = 4 := by decide +kernel
  obtain ⟨-, -, hcells, -⟩ := hcolumns 0 ((twoClients.toList[0]?).get (by decide +kernel)) (Option.some_get _).symm
  rw [hwidths] at hlength hcells
  rw [hrows] at hcount hcells
  refine ⟨hcount, hlength, hcells.trans ?_⟩
  decide +kernel

end HardwareMonitor.ControlCenter
