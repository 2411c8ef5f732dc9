/-
  HardwareMonitor.Lib.Subtree — owning names by prefix: over any alphabet with a
  separator, an owner `d` owns the name `d` itself and every name `d ++ [sep] ++ rest`
  with a rest.

  Nothing keeps the separator out of an owner's own name, so two owners' names may
  overlap: they do exactly if one of them is a dotted prefix of the other (`overlap_iff`).
-/

namespace HardwareMonitor.Lib.Subtree

variable {α : Type} (sep : α)

/-- `d` owns `x`: its own name, or a longer one behind the separator. -/
def Owns (d x : List α) : Prop := x = d ∨ (d ++ [sep] <+: x ∧ (d ++ [sep]).length < x.length)

/-- `a` followed by the separator begins `b`. -/
def DottedPrefix (a b : List α) : Prop := a ++ [sep] <+: b

instance [DecidableEq α] (a b : List α) : Decidable (DottedPrefix sep a b) :=
  inferInstanceAs (Decidable (a ++ [sep] <+: b))

theorem owns_self (d : List α) : Owns sep d d := Or.inl rfl

/-- `d` owns what hangs below it. -/
theorem owns_child (d : List α) {rest : List α} (h : rest ≠ []) : Owns sep d (d ++ [sep] ++ rest) := by
  refine Or.inr ⟨List.prefix_append _ _, ?_⟩
  have hlen : (d ++ [sep] ++ rest).length = (d ++ [sep]).length + rest.length := List.length_append
  have hpos := List.length_pos_iff.mpr h
  omega

theorem owns_iff (d x : List α) : Owns sep d x ↔ x = d ∨ ∃ rest, rest ≠ [] ∧ x = d ++ [sep] ++ rest := by
  constructor
  · intro hcase
    rcases hcase with h | ⟨⟨rest, rfl⟩, hlen⟩
    · exact Or.inl h
    · refine Or.inr ⟨rest, ?_, rfl⟩
      intro heq
      obtain rfl := heq
      simp at hlen
  · intro hcase
    rcases hcase with h | ⟨rest, hne, rfl⟩
    · exact Or.inl h
    · exact owns_child sep d hne

/-- What a dotted prefix of `b` owns includes everything below `b`. -/
theorem DottedPrefix.owns {a b : List α} (h : DottedPrefix sep a b) (rest : List α) :
    Owns sep a (b ++ [sep] ++ rest) := by
  obtain ⟨r, rfl⟩ := h
  rw [List.append_assoc (a ++ [sep]), List.append_assoc (a ++ [sep])]
  exact owns_child sep a (by simp)

/-- A name with two owners makes one of them a dotted prefix of the other. -/
theorem dotted_of_owned {a b x : List α} (hab : a ≠ b) (ha : Owns sep a x) (hb : Owns sep b x) :
    DottedPrefix sep a b ∨ DottedPrefix sep b a := by
  rcases ha with rfl | ⟨ha, -⟩
  · rcases hb with rfl | ⟨hb, -⟩
    · exact absurd rfl hab
    · exact Or.inr hb
  rcases hb with rfl | ⟨hb, -⟩
  · exact Or.inl ha
  -- both dotted names begin `x`, so the shorter one begins the longer one
  rcases List.prefix_or_prefix_of_prefix ha hb with h | h
  · rcases List.prefix_concat_iff.mp h with e | h
    · exact absurd (List.append_cancel_right e) hab
    · exact Or.inl h
  · rcases List.prefix_concat_iff.mp h with e | h
    · exact absurd (List.append_cancel_right e).symm hab
    · exact Or.inr h

/-- Two owners share a name exactly if one of them is a dotted prefix of the other. -/
theorem overlap_iff {a b : List α} (hab : a ≠ b) :
    (∃ x, Owns sep a x ∧ Owns sep b x) ↔ DottedPrefix sep a b ∨ DottedPrefix sep b a := by
  constructor
  · intro hfound
    obtain ⟨x, ha, hb⟩ := hfound
    exact dotted_of_owned sep hab ha hb
  · intro hcase
    rcases hcase with h | h
    · exact ⟨b ++ [sep] ++ [sep], h.owns sep [sep], owns_child sep b (by simp)⟩
    · exact ⟨a ++ [sep] ++ [sep], owns_child sep a (by simp), h.owns sep [sep]⟩

end HardwareMonitor.Lib.Subtree
