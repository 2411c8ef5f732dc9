/-
  HardwareMonitor.SystemInfo.PlaceIds — which places of the published tree share an id
  (`clientFolderId`, `snapshotObjectId` and `snapshotFieldId` in
  `OPC_UA/shared_opc_ua_layout.h`).

  The three encoders put dots between their arguments and escape nothing. Two places have
  one id exactly if their arguments, cut at every dot, give the same pieces
  (`id_eq_iff`). A place is plain if its device's name and key have no dots; every id is
  that of one plain place (`exists_plain`), so a place that is not plain always shares
  its id with another.
-/

import HardwareMonitor.Lib.Joined
import HardwareMonitor.SystemInfo.Places

namespace HardwareMonitor.SystemInfo.Place

open HardwareMonitor.OpcUa
open HardwareMonitor.Lib.Joined

/-- What its id is built from. -/
def arguments : Place → List (List Char)
  | .folder deviceName => [deviceName.toList]
  | .object deviceName deviceKey => [deviceName.toList, deviceKey.toList]
  | .field deviceName deviceKey f => [deviceName.toList, deviceKey.toList, f.toList]

theorem arguments_ne_nil (p : Place) : p.arguments ≠ [] := by
  cases p <;> exact List.cons_ne_nil _ _

/-- The arguments, cut at every dot. -/
def pieces (p : Place) : List (List Char) := Lib.Joined.pieces '.' p.arguments

theorem id_string (p : Place) : p.id = ⟨telemetryNamespaceIndex, .string (String.ofList (joined '.' p.arguments))⟩ := by
  cases p <;> simp [id, arguments, joined, clientFolderId, snapshotObjectId, snapshotFieldId, String.append_assoc]

theorem id_eq_iff (p q : Place) : p.id = q.id ↔ p.pieces = q.pieces := by
  rw [id_string, id_string, pieces, pieces, ← joined_eq_iff '.' p.arguments_ne_nil q.arguments_ne_nil]
  simp [String.ofList_inj]

/-- No dot in the device's name, none in its key; a field may have any name. -/
def Plain : Place → Prop
  | .folder deviceName => '.' ∉ deviceName.toList
  | .object deviceName deviceKey => '.' ∉ deviceName.toList ∧ '.' ∉ deviceKey.toList
  | .field deviceName deviceKey _ => '.' ∉ deviceName.toList ∧ '.' ∉ deviceKey.toList

/-- A plain place has its name and key as pieces, and those of its field. -/
theorem pieces_of_plain {p : Place} (h : p.Plain) :
    p.pieces = match p with
      | .folder deviceName => [deviceName.toList]
      | .object deviceName deviceKey => [deviceName.toList, deviceKey.toList]
      | .field deviceName deviceKey f => deviceName.toList :: deviceKey.toList :: f.toList.splitOn '.' := by
  cases p with
  | folder d => simp [pieces, arguments, splitOn_plain '.' h]
  | object d k => simp [pieces, arguments, splitOn_plain '.' h.1, splitOn_plain '.' h.2]
  | field d k f => simp [pieces, arguments, splitOn_plain '.' h.1, splitOn_plain '.' h.2]

/-- Plain places are told apart by their pieces, and so by their ids. -/
theorem eq_of_pieces {p q : Place} (hp : p.Plain) (hq : q.Plain) (h : p.pieces = q.pieces) : p = q := by
  rw [pieces_of_plain hp, pieces_of_plain hq] at h
  have hfield : ∀ f : String, [] ≠ f.toList.splitOn '.' := fun f => (List.splitOn_ne_nil '.' f.toList).symm
  -- a folder has one piece, an object two, a field at least three
  cases p <;> cases q <;>
    simp [List.splitOn_ne_nil, hfield, (splitOn_injective '.').eq_iff, String.toList_inj] at h ⊢ <;> exact h

/-- Every id is that of a plain place. -/
theorem exists_plain (p : Place) : ∃ q : Place, q.Plain ∧ q.id = p.id := by
  have hcut : ∀ x ∈ p.pieces, '.' ∉ x := by
    intro x hx
    obtain ⟨part, -, hpart⟩ := List.mem_flatMap.mp hx
    exact sep_notMem_splitOn '.' hpart
  have hjoined : joined '.' p.pieces = joined '.' p.arguments := by
    rw [pieces, ← splitOn_joined '.' p.arguments_ne_nil, joined_splitOn]
  -- the id of a plain place is its own pieces joined
  suffices h : ∃ q : Place, q.Plain ∧ joined '.' q.arguments = joined '.' p.pieces by
    obtain ⟨q, hplain, hq⟩ := h
    exact ⟨q, hplain, by rw [id_string, id_string, hq, hjoined]⟩
  match hpieces : p.pieces with
  | [] =>
    rw [pieces, ← splitOn_joined '.' p.arguments_ne_nil] at hpieces
    exact absurd hpieces (List.splitOn_ne_nil _ _)
  | [d] =>
    rw [hpieces] at hcut
    exact ⟨.folder (.ofList d), by simpa [Plain] using hcut, by simp [arguments]⟩
  | [d, k] =>
    rw [hpieces] at hcut
    exact ⟨.object (.ofList d) (.ofList k), by simpa [Plain] using hcut, by simp [arguments]⟩
  | d :: k :: f :: rest =>
    rw [hpieces] at hcut
    refine ⟨.field (.ofList d) (.ofList k) (.ofList (joined '.' (f :: rest))), ?_, ?_⟩
    · simpa [Plain] using And.intro (hcut d (by simp)) (hcut k (by simp))
    · simp [arguments, joined]

/-- The id of a place is nobody else's, as far as plain places go, exactly if it is plain. -/
theorem unique_iff_plain (p : Place) : (∀ q : Place, q.Plain → q.id = p.id → q = p) ↔ p.Plain := by
  constructor
  · intro h
    obtain ⟨q, hq, hid⟩ := exists_plain p
    exact h q hq hid ▸ hq
  · intro hp q hq hid
    exact eq_of_pieces hq hp ((id_eq_iff q p).mp hid)

/-- Ids identify exactly where the dots of the arguments leave no doubt: two places have one
    id only if they are the same, exactly if they are, or have different pieces. A place is
    told apart from every plain one exactly if it is plain itself. -/
theorem ids_identify_iff (p q : Place) :
    ((p.id = q.id → p = q) ↔ p = q ∨ p.pieces ≠ q.pieces) ∧
      ((∀ r : Place, r.Plain → r.id = p.id → r = p) ↔ p.Plain) := by
  refine ⟨?_, unique_iff_plain p⟩
  rw [id_eq_iff]
  tauto

/-- The folder of a device `plc.cpu`, and the object `cpu` of a device `plc`. -/
theorem folder_is_object :
    ¬ ((Place.folder "plc.cpu").id = (Place.object "plc" "cpu").id → Place.folder "plc.cpu" = .object "plc" "cpu") := by
  intro h
  cases h (by decide)

end HardwareMonitor.SystemInfo.Place
