/-
  HardwareMonitor.OpcUa.Ownership — which node ids `nodeIdBelongsToDevice` gives to a
  device: those whose string the device's name owns in the sense of `Lib.Subtree`, with
  a dot as the separator and no look at the namespace.
-/

import HardwareMonitor.Lib.Subtree
import HardwareMonitor.OpcUa.AccessControl

namespace HardwareMonitor.OpcUa

open HardwareMonitor.Lib.Subtree (Owns owns_iff owns_self owns_child dotted_of_owned overlap_iff)

/-- `a` followed by a dot begins `b`. -/
def DottedPrefix (a b : String) : Prop := Lib.Subtree.DottedPrefix '.' a.toList b.toList

instance (a b : String) : Decidable (DottedPrefix a b) :=
  inferInstanceAs (Decidable (Lib.Subtree.DottedPrefix '.' a.toList b.toList))

theorem toList_dotted (d : String) : (d ++ ".").toList = d.toList ++ ['.'] := by
  rw [String.toList_append]
  rfl

/-- No name begins itself. -/
theorem not_dottedPrefix_self (a : String) : ¬ DottedPrefix a a := by
  intro h
  have hlen := List.IsPrefix.length_le h
  rw [List.length_append, List.length_singleton] at hlen
  omega

/-- `nodeIdBelongsToDevice` decides ownership of the identifier string. -/
theorem belongs_iff_owns (id : NodeId) (d : String) :
    nodeIdBelongsToDevice id d = true ↔ ∃ s, id.identifier = .string s ∧ Owns '.' d.toList s.toList := by
  unfold nodeIdBelongsToDevice NodeId.identifierIfString
  cases id.identifier with
  | numeric n => simp
  | guid g => simp
  | byteString b => simp
  | string s =>
    simp only [Identifier.string.injEq, exists_eq_left', Owns, ← toList_dotted, ← String.length_toList,
      String.toList_inj]
    by_cases h : s = d
    · simp [h]
    · simp only [h, if_false, false_or, Bool.and_eq_true, decide_eq_true_eq, beq_iff_eq, List.prefix_iff_eq_take]
      constructor
      · intro hboth
        obtain ⟨hlen, htake⟩ := hboth
        exact ⟨htake.symm, hlen⟩
      · intro hboth
        obtain ⟨htake, hlen⟩ := hboth
        exact ⟨hlen, htake.symm⟩

/-- The ids of a device: its name, or its name, a dot and a rest. -/
theorem belongs_iff (id : NodeId) (d : String) :
    nodeIdBelongsToDevice id d = true ↔
      id.identifier = .string d ∨ ∃ rest, rest ≠ "" ∧ id.identifier = .string (d ++ "." ++ rest) := by
  rw [belongs_iff_owns]
  constructor
  · intro hfound
    obtain ⟨s, hs, hown⟩ := hfound
    rcases (owns_iff '.' _ _).mp hown with h | ⟨rest, hne, h⟩
    · rw [String.toList_injective h] at hs
      exact Or.inl hs
    · refine Or.inr ⟨String.ofList rest, ?_, ?_⟩
      · intro e
        apply hne
        rw [← String.toList_ofList (l := rest), e]
        rfl
      · rw [hs]
        congr 1
        apply String.toList_injective
        rw [String.toList_append, toList_dotted, String.toList_ofList, h]
  · intro hcase
    rcases hcase with h | ⟨rest, hne, h⟩
    · exact ⟨d, h, owns_self '.' _⟩
    · refine ⟨_, h, ?_⟩
      rw [String.toList_append, toList_dotted]
      refine owns_child '.' _ fun e => hne ?_
      exact String.toList_injective e

/-- The null id, which is numeric, belongs to nobody. -/
theorem null_not_belongs (d : String) : nodeIdBelongsToDevice NodeId.null d = false := rfl

/-- A string id belongs to whoever owns the string. -/
theorem string_belongs_iff (ns : UInt16) (idStr d : String) :
    nodeIdBelongsToDevice ⟨ns, .string idStr⟩ d = true ↔ Owns '.' d.toList idStr.toList := by
  rw [belongs_iff_owns]
  constructor
  · intro h
    obtain ⟨s, hs, hown⟩ := h
    rwa [Identifier.string.inj hs]
  · intro h
    exact ⟨idStr, rfl, h⟩

/-- An id of two devices makes one name a dotted prefix of the other. -/
theorem dotted_of_belongs {id : NodeId} {a b : String} (hab : a ≠ b) (ha : nodeIdBelongsToDevice id a = true)
    (hb : nodeIdBelongsToDevice id b = true) : DottedPrefix a b ∨ DottedPrefix b a := by
  obtain ⟨s, hs, ha⟩ := (belongs_iff_owns id a).mp ha
  obtain ⟨s', hs', hb⟩ := (belongs_iff_owns id b).mp hb
  rw [hs, Identifier.string.injEq] at hs'
  subst hs'
  exact dotted_of_owned '.' (fun h => hab (String.toList_injective h)) ha hb

/-- Two devices share ids exactly if one name is a dotted prefix of the other. -/
theorem shared_id_iff (ns : UInt16) {a b : String} (hab : a ≠ b) :
    (∃ idStr, nodeIdBelongsToDevice ⟨ns, .string idStr⟩ a = true ∧ nodeIdBelongsToDevice ⟨ns, .string idStr⟩ b = true) ↔
      DottedPrefix a b ∨ DottedPrefix b a := by
  refine Iff.trans ?_ (overlap_iff '.' fun h => hab (String.toList_injective h))
  simp only [string_belongs_iff]
  constructor
  · intro h
    obtain ⟨idStr, ha, hb⟩ := h
    exact ⟨idStr.toList, ha, hb⟩
  · intro h
    obtain ⟨x, ha, hb⟩ := h
    refine ⟨String.ofList x, ?_⟩
    rw [String.toList_ofList]
    exact ⟨ha, hb⟩

end HardwareMonitor.OpcUa
