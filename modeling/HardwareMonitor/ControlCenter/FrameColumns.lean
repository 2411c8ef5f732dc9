/-
  HardwareMonitor.ControlCenter.FrameColumns — where the columns of a frame start on the
  screen.

  The frame is padded by bytes and shown as UTF-8 (`main` sets the console to it): a cell
  with continuation bytes takes fewer places than its column, and everything to the right
  of it moves. The dashes never have any, so the columns line up exactly if nothing but
  the last client has (`columns_align_iff`). Every temperature has one
  (`degree_shifts_the_next_client`).
-/

import HardwareMonitor.Lib.Utf8
import HardwareMonitor.ControlCenter.Frame

namespace HardwareMonitor.ControlCenter

open HardwareMonitor.Lib

/-- Column `c` of the line comes after `n` displayed characters. -/
def StartsAt (widths : List Nat) (c : Nat) (line : List Char) (n : Nat) : Prop :=
  ∃ shown, line.take (Table.start widths c) = Utf8.encode shown ∧ shown.length = n

/-- Every column starts at one place on all lines. -/
def Aligned (rows : Rows) : Prop :=
  ∀ c < rows.toList.length, ∃ n, ∀ line ∈ Table.lines '\n' (buildFrame rows).toList,
    StartsAt ((columnsOf rows).map columnWidth) c line n

def Ascii (text : String) : Prop := ∀ b ∈ text.toList, b.toNat < 0x80

instance (text : String) : Decidable (Ascii text) := List.decidableBAll _ _

theorem StartsAt.codePoints {widths : List Nat} {c : Nat} {line : List Char} {n : Nat} (h : StartsAt widths c line n) :
    Utf8.codePoints (line.take (Table.start widths c)) = n := by
  obtain ⟨shown, hshown, hlength⟩ := h
  rw [hshown, Utf8.codePoints_encode, hlength]

theorem startsAt_iff {widths : List Nat} {c : Nat} {line : List Char} {n : Nat}
    (hvalid : Utf8.Valid (line.take (Table.start widths c))) :
    StartsAt widths c line n ↔ Utf8.codePoints (line.take (Table.start widths c)) = n := by
  constructor
  · exact StartsAt.codePoints
  · intro h
    obtain ⟨shown, hshown⟩ := hvalid
    exact ⟨shown, hshown, by rw [← h, hshown, Utf8.codePoints_encode]⟩

/-! ## Blocks of valid text -/

theorem valid_cellText {field : String × String} (hlabel : Utf8.Valid field.1.toList) (hvalue : Utf8.Valid field.2.toList) :
    Utf8.Valid (cellText field).toList := by
  unfold cellText
  split
  · exact hlabel
  · rw [String.toList_append, String.toList_append]
    exact (hlabel.append (Utf8.valid_ascii (by decide : Ascii ": "))).append hvalue

theorem valid_blocks {rows : Rows} (h : ∀ client ∈ rows.toList, ∀ text ∈ strings client, Utf8.Valid text.toList)
    {line : List (List Char)} (hline : line ∈ blocks (columnsOf rows)) {block : List Char} (hblock : block ∈ line) :
    Utf8.Valid block := by
  have hpad : ∀ (width : Nat) {cell : List Char}, Utf8.Valid cell → Utf8.Valid (Table.pad ' ' width cell) := by
    intro width cell hcell
    refine hcell.append (Utf8.valid_ascii fun b hb => ?_)
    rw [List.eq_of_mem_replicate hb]
    decide
  rcases List.mem_cons.mp hline with rfl | hline
  · obtain ⟨_, hcolumn, rfl⟩ := List.mem_map.mp hblock
    obtain ⟨client, hclient, rfl⟩ := List.mem_map.mp hcolumn
    exact hpad _ (h client hclient client.1 List.mem_cons_self)
  rcases List.mem_cons.mp hline with rfl | hline
  · obtain ⟨column, -, rfl⟩ := List.mem_map.mp hblock
    refine (Utf8.valid_ascii fun b hb => ?_).append (Utf8.valid_ascii fun b hb => ?_)
    all_goals rw [List.eq_of_mem_replicate hb]; decide
  · obtain ⟨r, -, rfl⟩ := List.mem_map.mp hline
    obtain ⟨_, hcolumn, rfl⟩ := List.mem_map.mp hblock
    obtain ⟨client, hclient, rfl⟩ := List.mem_map.mp hcolumn
    obtain ⟨-, hfields⟩ := (forall_strings (p := fun text => Utf8.Valid text.toList) Utf8.valid_nil client).mp (h client hclient)
    refine hpad _ ((forall_cellAt (p := fun text => Utf8.Valid text.toList) Utf8.valid_nil _).mpr (fun field hfield => ?_) r)
    exact valid_cellText (hfields field hfield).1 (hfields field hfield).2

/-! ## Continuation bytes -/

/-- A client without continuation bytes is ASCII. -/
theorem ascii_strings {client : String × Std.TreeMap String ClientRow}
    (h : ∀ text ∈ strings client, Utf8.Valid text.toList) :
    (∀ text ∈ strings client, ∀ b ∈ text.toList, Utf8.continuation b = false) ↔ ∀ text ∈ strings client, Ascii text := by
  refine forall₂_congr fun text htext => ?_
  obtain ⟨shown, hshown⟩ := h text htext
  rw [Ascii, hshown, Utf8.ascii_iff]

section

variable {columns : List ColumnData} {c : Nat} {line : List (List Char)}

/-- The places before a column are its bytes less the continuation bytes. -/
theorem codePoints_before (c : Nat) (hline : line ∈ blocks columns) :
    Utf8.codePoints (line.flatten.take (Table.start (columns.map columnWidth) c)) +
      (line.take c).flatten.countP Utf8.continuation = Table.start (columns.map columnWidth) c := by
  have hbefore : line.flatten.take (Table.start (columns.map columnWidth) c) = (line.take c).flatten :=
    Table.take_start_flatten (blocks_widths hline) c
  have hlength : (line.take c).flatten.length = Table.start (columns.map columnWidth) c := by
    rw [List.length_flatten, List.map_take, blocks_widths hline, Table.start]
  rw [hbefore, Utf8.codePoints_add_continuations, hlength]

theorem continuations_eq_zero_iff :
    (line.take c).flatten.countP Utf8.continuation = 0 ↔
      ∀ block ∈ line.take c, ∀ b ∈ block, Utf8.continuation b = false := by
  rw [List.countP_eq_zero]
  simp only [List.mem_flatten, forall_exists_index, and_imp, Bool.not_eq_true]
  exact ⟨fun h block hblock b hb => h b block hblock hb, fun h b block hblock hb => h block hblock b hb⟩

/-- The dashes are the measure: all lines agree on where a column starts exactly if none
    has a continuation byte before it. -/
theorem same_start_iff :
    (∃ n, ∀ line ∈ blocks columns, Utf8.codePoints (line.flatten.take (Table.start (columns.map columnWidth) c)) = n) ↔
      ∀ line ∈ blocks columns, ∀ block ∈ line.take c, ∀ b ∈ block, Utf8.continuation b = false := by
  simp only [← continuations_eq_zero_iff]
  constructor
  · intro ⟨n, hn⟩ line hline
    have hdashes : columns.map dashes ∈ blocks columns := List.mem_cons_of_mem _ List.mem_cons_self
    have hplain : ((columns.map dashes).take c).flatten.countP Utf8.continuation = 0 := by
      refine continuations_eq_zero_iff.mpr fun block hblock b hb => ?_
      obtain ⟨column, -, rfl⟩ := List.mem_map.mp (List.mem_of_mem_take hblock)
      rcases List.mem_append.mp hb with hb | hb
      all_goals rw [List.eq_of_mem_replicate hb]; decide
    have hmeasure := codePoints_before c hdashes
    have hthis := codePoints_before c hline
    rw [hn _ hdashes] at hmeasure
    rw [hn _ hline] at hthis
    omega
  · intro h
    refine ⟨Table.start (columns.map columnWidth) c, fun line hline => ?_⟩
    have hthis := codePoints_before c hline
    rw [h line hline] at hthis
    exact hthis

end

/-- A column starts at one place on all lines exactly if the clients before it are ASCII. -/
theorem column_starts_iff {rows : Rows} (hrows : rows.isEmpty = false)
    (hplain : ∀ client ∈ rows.toList, ∀ text ∈ strings client, '\n' ∉ text.toList)
    (hvalid : ∀ client ∈ rows.toList, ∀ text ∈ strings client, Utf8.Valid text.toList) (c : Nat) :
    (∃ n, ∀ line ∈ Table.lines '\n' (buildFrame rows).toList, StartsAt ((columnsOf rows).map columnWidth) c line n) ↔
      ∀ client ∈ rows.toList.take c, ∀ text ∈ strings client, Ascii text := by
  rw [frame_lines hrows hplain]
  have hstarts : (∃ n, ∀ line ∈ (blocks (columnsOf rows)).map List.flatten,
      StartsAt ((columnsOf rows).map columnWidth) c line n) ↔ ∃ n, ∀ line ∈ blocks (columnsOf rows),
        Utf8.codePoints (line.flatten.take (Table.start ((columnsOf rows).map columnWidth) c)) = n := by
    refine exists_congr fun n => ?_
    rw [List.forall_mem_map]
    refine forall₂_congr fun line hline => startsAt_iff ?_
    rw [Table.take_start_flatten (blocks_widths hline)]
    exact Utf8.valid_flatten fun block hblock => valid_blocks hvalid hline (List.mem_of_mem_take hblock)
  rw [hstarts, same_start_iff, forall_blocks (by decide) (by decide), columnsOf, ← List.map_take, List.forall_mem_map]
  refine forall₂_congr fun client hclient => ?_
  rw [← ascii_strings (hvalid client (List.mem_of_mem_take hclient))]
  exact (forall_chars (by decide) (by decide) client).symm

/-- The columns of valid text line up exactly if every client but the last, in the order of
    the names, is ASCII. -/
theorem columns_align_iff (rows : Rows) (hrows : rows.isEmpty = false)
    (hplain : ∀ client ∈ rows.toList, ∀ text ∈ strings client, '\n' ∉ text.toList)
    (hvalid : ∀ client ∈ rows.toList, ∀ text ∈ strings client, Utf8.Valid text.toList) :
    Aligned rows ↔ ∀ client ∈ rows.toList.dropLast, ∀ text ∈ strings client, Ascii text := by
  constructor
  · intro h client hclient
    rw [List.dropLast_eq_take] at hclient
    have hpos : 0 < rows.toList.length := List.length_pos_of_mem (List.mem_of_mem_take hclient)
    exact (column_starts_iff hrows hplain hvalid _).mp (h (rows.toList.length - 1) (by omega)) client hclient
  · intro h c hc
    refine (column_starts_iff hrows hplain hvalid c).mpr fun client hclient => h client ?_
    rw [List.dropLast_eq_take]
    exact (List.take_prefix_take_left (by omega)).subset hclient

theorem columns_align_two : Aligned twoClients :=
  (columns_align_iff twoClients (by decide +kernel) (by decide +kernel)
    (fun client hclient text htext => Utf8.valid_ascii
      ((by decide +kernel : ∀ client ∈ twoClients.toList, ∀ text ∈ strings client, Ascii text) client hclient text htext))).mpr
    (by decide +kernel)

/-- The bytes of a temperature with its unit. -/
def degrees : String := "61.0 \xc2\xb0C"

/-- Two clients, the first with a temperature. -/
def degreeRows : Rows :=
  ((DisplayGrid.start.update "east" "CPU" ⟨[("Ryzen (CPU)", ""), ("  Package Temp", degrees)]⟩).update "west" "CPU"
    ⟨[("Core (CPU)", ""), ("  Package Temp", degrees)]⟩).rows

theorem degree_shifts_the_next_client :
    degreeRows.isEmpty = false ∧ (∀ client ∈ degreeRows.toList, ∀ text ∈ strings client, '\n' ∉ text.toList) ∧
      (∀ client ∈ degreeRows.toList, ∀ text ∈ strings client, Utf8.Valid text.toList) ∧ ¬ Aligned degreeRows := by
  have hrows : degreeRows.isEmpty = false := by decide +kernel
  have hplain : ∀ client ∈ degreeRows.toList, ∀ text ∈ strings client, '\n' ∉ text.toList := by decide +kernel
  have htexts : ∀ client ∈ degreeRows.toList, ∀ text ∈ strings client,
      Ascii text ∨ text.toList = Utf8.encode "61.0 °C".toList := by
    decide +kernel
  have hvalid : ∀ client ∈ degreeRows.toList, ∀ text ∈ strings client, Utf8.Valid text.toList := by
    intro client hclient text htext
    rcases htexts client hclient text htext with hascii | hdegrees
    · exact Utf8.valid_ascii hascii
    · exact ⟨_, hdegrees⟩
  refine ⟨hrows, hplain, hvalid, fun h => ?_⟩
  -- the second client's column is behind the temperature of the first
  have hascii := (column_starts_iff hrows hplain hvalid 1).mp (h 1 (by decide +kernel))
  exact absurd hascii (by decide +kernel)

end HardwareMonitor.ControlCenter
