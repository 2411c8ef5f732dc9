/-
  HardwareMonitor.Lib.Layout — values laid out in memory, over any kind of cell: a block
  has cells at some of its offsets, a struct has its members at theirs, and an array has
  its elements' blocks one after the other.

  A reader that knows a struct's members by their sizes and the gaps before them finds
  them by adding up (`walk_gaps`); the cells of an array's element are found a stride
  apart (`packed_element`).
-/

import Mathlib.Data.List.Induction

namespace HardwareMonitor.Lib.Layout

/-! ## Members -/

structure Member where
  offset : Nat
  size : Nat
  deriving DecidableEq, Repr

/-- From `pos` on the members follow each other, and none overlaps the next. -/
def InOrder : Nat → List Member → Prop
  | _, [] => True
  | pos, m :: ms => pos ≤ m.offset ∧ InOrder (m.offset + m.size) ms

/-- The bytes left out before each member. -/
def gaps : Nat → List Member → List Nat
  | _, [] => []
  | pos, m :: ms => (m.offset - pos) :: gaps (m.offset + m.size) ms

/-- The positions a reader comes to that skips a gap, reads a size, and goes on behind it. -/
def walk : Nat → List (Nat × Nat) → List Nat
  | _, [] => []
  | pos, (gap, size) :: rest => (pos + gap) :: walk (pos + gap + size) rest

theorem walk_gaps {pos : Nat} {ms : List Member} (h : InOrder pos ms) :
    walk pos ((gaps pos ms).zip (ms.map (·.size))) = ms.map (·.offset) := by
  induction ms generalizing pos with
  | nil => rfl
  | cons m ms ih =>
    have hoffset : pos + (m.offset - pos) = m.offset := Nat.add_sub_cancel' h.1
    simp only [gaps, List.map_cons, List.zip_cons_cons, walk, hoffset, ih h.2]

/-! ## Blocks -/

/-- The cell that begins at an offset, if there is one. -/
abbrev Block (γ : Type) := Nat → Option γ

variable {γ : Type}

/-- What lies from `base` on. -/
def Block.shift (b : Block γ) (base : Nat) : Block γ := fun off => b (base + off)

/-- The elements of an array, `stride` apart. -/
def packed (stride : Nat) (elements : List (Block γ)) : Block γ :=
  fun off => elements[off / stride]?.bind fun b => b (off % stride)

/-- The cells of an element of the array are those of its block. -/
theorem packed_element {stride off : Nat} (h : off < stride) (elements : List (Block γ)) (i : Nat) :
    packed stride elements (i * stride + off) = elements[i]?.bind fun b => b off := by
  have hpos : 0 < stride := Nat.zero_lt_of_lt h
  have hindex : (i * stride + off) / stride = i := by
    rw [Nat.mul_comm, Nat.mul_add_div hpos, Nat.div_eq_of_lt h, Nat.add_zero]
  have hrest : (i * stride + off) % stride = off := by
    rw [Nat.mul_comm, Nat.mul_add_mod, Nat.mod_eq_of_lt h]
  rw [packed, hindex, hrest]

/-- A loop over an array's indexes that reads each element as it should. -/
theorem mapM_range {α β : Type} {xs : List α} {f : Nat → Option β} {g : α → β}
    (h : ∀ i x, xs[i]? = some x → f i = some (g x)) :
    (List.range xs.length).mapM f = some (xs.map g) := by
  induction xs using List.reverseRecOn with
  | nil => rfl
  | append_singleton xs x ih =>
    have hrest : (List.range xs.length).mapM f = some (xs.map g) := by
      refine ih fun i y hy => h i y ?_
      rw [List.getElem?_append_left (List.getElem?_eq_some_iff.mp hy).1, hy]
    have hlast : f xs.length = some (g x) := h xs.length x List.getElem?_concat_length
    rw [List.length_append, List.length_singleton, List.range_succ, List.mapM_append, hrest, List.mapM_cons, hlast,
      List.map_append]
    rfl

end HardwareMonitor.Lib.Layout
