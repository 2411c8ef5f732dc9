/-
  HardwareMonitor.Lib.Joined — names joined from parts by a separator that the parts may
  contain themselves.

  Joining forgets where one part ended and the next began: two lists of parts have one
  name exactly if cutting every part at every separator gives the same pieces
  (`joined_eq_iff`). Parts that do not contain the separator are their own pieces.
-/

namespace HardwareMonitor.Lib.Joined

variable {α : Type} [BEq α] (sep : α)

def joined (parts : List (List α)) : List α := [sep].intercalate parts

/-- The parts, cut at every separator. -/
def pieces (parts : List (List α)) : List (List α) := parts.flatMap (·.splitOn sep)

@[simp] theorem pieces_cons (part : List α) (parts : List (List α)) :
    pieces sep (part :: parts) = part.splitOn sep ++ pieces sep parts := List.flatMap_cons

@[simp] theorem pieces_nil : pieces sep ([] : List (List α)) = [] := rfl

variable [LawfulBEq α]

/-- Cutting a name finds the pieces of its parts. -/
theorem splitOn_joined {parts : List (List α)} (h : parts ≠ []) : (joined sep parts).splitOn sep = pieces sep parts := by
  induction parts with
  | nil => exact absurd rfl h
  | cons part parts ih =>
    cases parts with
    | nil => simp [joined]
    | cons next parts =>
      have hrest := ih (List.cons_ne_nil _ _)
      rw [joined, List.intercalate_cons_cons, List.append_assoc, List.singleton_append, List.splitOn_append_cons_self,
        pieces_cons, ← hrest]
      rfl

theorem joined_splitOn (name : List α) : joined sep (name.splitOn sep) = name := List.intercalate_splitOn sep

/-- What two lists of parts with one name have in common. -/
theorem joined_eq_iff {a b : List (List α)} (ha : a ≠ []) (hb : b ≠ []) :
    joined sep a = joined sep b ↔ pieces sep a = pieces sep b := by
  constructor
  · intro h
    rw [← splitOn_joined sep ha, ← splitOn_joined sep hb, h]
  · intro h
    rw [← joined_splitOn sep (joined sep a), ← joined_splitOn sep (joined sep b), splitOn_joined sep ha,
      splitOn_joined sep hb, h]

/-- A part without the separator is one piece. -/
theorem splitOn_plain {part : List α} (h : sep ∉ part) : part.splitOn sep = [part] := List.splitOn_eq_singleton h

theorem splitOn_injective : Function.Injective (List.splitOn sep : List α → List (List α)) := by
  intro a b h
  rw [← joined_splitOn sep a, ← joined_splitOn sep b, h]

/-- No piece contains the separator. -/
theorem sep_notMem_splitOn {name piece : List α} (h : piece ∈ name.splitOn sep) : sep ∉ piece := by
  induction name generalizing piece with
  | nil =>
    rw [List.splitOn_nil, List.mem_singleton] at h
    rw [h]
    exact List.not_mem_nil
  | cons x name ih =>
    rw [List.splitOn_cons_eq_if_modifyHead] at h
    split at h
    · cases h with
      | head => exact List.not_mem_nil
      | tail _ h => exact ih h
    · rename_i hx
      obtain ⟨first, later, hcut⟩ := List.exists_cons_of_ne_nil (List.splitOn_ne_nil sep name)
      rw [hcut] at h ih
      cases h with
      | head =>
        -- the character in front of the first piece is no separator
        intro hsep
        cases hsep with
        | head => exact hx BEq.rfl
        | tail _ hsep => exact ih List.mem_cons_self hsep
      | tail _ h => exact ih (List.mem_cons_of_mem _ h)

end HardwareMonitor.Lib.Joined
