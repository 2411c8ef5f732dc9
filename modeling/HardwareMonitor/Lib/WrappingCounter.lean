/-
  HardwareMonitor.Lib.WrappingCounter — a counter that is read modulo its size.

  A reading is the true count modulo `size`. Two readings determine the advance between
  them where it is less than `size` (`advance_mod`), so the advances between the readings
  of a run add up to the whole run's (`add_sum_advances`), however often it wraps.
-/

import Mathlib.Algebra.GroupWithZero.Nat
import Mathlib.Data.List.Chain

namespace HardwareMonitor.Lib.WrappingCounter

/-- The advance from reading `prev` to reading `curr`, one wrap undone. -/
def advance (size prev curr : Nat) : Nat := if prev ≤ curr then curr - prev else size - prev + curr

/-- The count never falls from `before` to `after`, and advances by less than `size`. -/
def Within (size before after : Nat) : Prop := before ≤ after ∧ after < before + size

theorem advance_mod {size before after : Nat} (h : Within size before after) :
    advance size (before % size) (after % size) = after - before := by
  obtain ⟨hle, hlt⟩ := h
  obtain ⟨step, rfl⟩ := Nat.exists_eq_add_of_le hle
  have hstep : step < size := by omega
  have hr : before % size < size := Nat.mod_lt _ (by omega)
  have hmod : (before + step) % size = (before % size + step) % size := (Nat.mod_add_mod ..).symm
  unfold advance
  rw [hmod, Nat.add_sub_cancel_left]
  by_cases hwrap : before % size + step < size
  · rw [Nat.mod_eq_of_lt hwrap, if_pos (Nat.le_add_right _ _), Nat.add_sub_cancel_left]
  · have hwrapped : (before % size + step) % size = before % size + step - size := by
      rw [Nat.mod_eq_sub_mod (Nat.le_of_not_lt hwrap), Nat.mod_eq_of_lt (by omega)]
    rw [hwrapped, if_neg (by omega)]
    omega

/-- The advances between the neighbours of a list of readings. -/
def advances (size : Nat) : List Nat → List Nat
  | prev :: curr :: later => advance size prev curr :: advances size (curr :: later)
  | _ => []

/-- Nothing is lost and nothing counted twice between the first reading and the last. -/
theorem add_sum_advances {size : Nat} {counts : List Nat} (h : counts.IsChain (Within size)) :
    ∀ first ∈ counts.head?, ∀ last ∈ counts.getLast?,
      first + (advances size (counts.map (· % size))).sum = last := by
  induction h with
  | nil => intro first hfirst; cases hfirst
  | singleton a =>
    intro first hfirst last hlast
    cases hfirst
    cases hlast
    rfl
  | cons_cons hstep hlater ih =>
    rename_i before after later
    intro first hfirst last hlast
    cases hfirst
    have hrest := ih after rfl last (by rwa [List.getLast?_cons_cons] at hlast)
    rw [List.map_cons] at hrest
    rw [List.map_cons, List.map_cons, advances, List.sum_cons, advance_mod hstep]
    have hle := hstep.1
    omega

end HardwareMonitor.Lib.WrappingCounter
