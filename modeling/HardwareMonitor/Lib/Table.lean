/-
  HardwareMonitor.Lib.Table — a table in plain text: each line made of one block for each
  column, each block of its column's width.

  A column is the same range of every line (`column_flatten`), and what a line shows
  before the column are its earlier blocks (`take_start_flatten`). A block is a cell with
  its filling (`pad`).
-/

import Mathlib.Algebra.BigOperators.Group.List.Lemmas
import Mathlib.Algebra.GroupWithZero.Nat
import HardwareMonitor.Lib.Joined

namespace HardwareMonitor.Lib.Table

open HardwareMonitor.Lib.Joined

variable {α : Type}

/-! ## Lines -/

/-- The lines of a text in which every line is closed by `newline`. -/
def lines [BEq α] (newline : α) (text : List α) : List (List α) := (text.splitOn newline).dropLast

theorem splitOn_closed [BEq α] [LawfulBEq α] {newline : α} {ls : List (List α)} (h : ∀ l ∈ ls, newline ∉ l) :
    (ls.flatMap (· ++ [newline])).splitOn newline = ls ++ [[]] := by
  induction ls with
  | nil => simp
  | cons l ls ih =>
    have hl : newline ∉ l := h l List.mem_cons_self
    rw [List.flatMap_cons, List.append_assoc, List.singleton_append, List.splitOn_append_cons_self,
      ih fun l' hl' => h l' (List.mem_cons_of_mem _ hl'), splitOn_plain newline hl]
    rfl

/-- A text made of lines has these lines. -/
theorem lines_closed [BEq α] [LawfulBEq α] {newline : α} {ls : List (List α)} (h : ∀ l ∈ ls, newline ∉ l) :
    lines newline (ls.flatMap (· ++ [newline])) = ls := by
  rw [lines, splitOn_closed h, List.dropLast_concat]

/-! ## Blocks -/

/-- A cell, filled up to the width of its column. -/
def pad (blank : α) (width : Nat) (cell : List α) : List α := cell ++ List.replicate (width - cell.length) blank

theorem length_pad {blank : α} {width : Nat} {cell : List α} (h : cell.length ≤ width) :
    (pad blank width cell).length = width := by
  rw [pad, List.length_append, List.length_replicate]
  omega

/-- Where a column starts. -/
def start (widths : List Nat) (c : Nat) : Nat := (widths.take c).sum

/-- The range of a line that is the column's. -/
def column (widths : List Nat) (c : Nat) (line : List α) : List α := (line.take (start widths (c + 1))).drop (start widths c)

section

variable {widths : List Nat} {blocks : List (List α)}

theorem length_flatten_blocks (h : blocks.map List.length = widths) : blocks.flatten.length = widths.sum := by
  rw [List.length_flatten, h]

theorem take_start_flatten (h : blocks.map List.length = widths) (c : Nat) :
    blocks.flatten.take (start widths c) = (blocks.take c).flatten := by
  rw [start, ← h]
  exact List.take_sum_flatten blocks c

theorem column_flatten (h : blocks.map List.length = widths) {c : Nat} (hc : c < blocks.length) :
    column widths c blocks.flatten = blocks[c] := by
  rw [column, start, start, ← h]
  exact List.drop_take_succ_flatten_eq_getElem blocks c hc

end

end HardwareMonitor.Lib.Table
