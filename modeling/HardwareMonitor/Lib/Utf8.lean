/-
  HardwareMonitor.Lib.Utf8 — texts kept as strings of bytes, each byte a character below 256.

  Every character of a text is one byte that is no continuation byte and then only
  continuation bytes, so counting the first kind counts characters (`codePoints_encode`).
  Text without continuation bytes is ASCII (`ascii_iff`).
-/

import Mathlib.Data.List.Basic

namespace HardwareMonitor.Lib.Utf8

def byteChar (b : UInt8) : Char := Char.ofNat b.toNat

def encode (text : List Char) : List Char := text.flatMap fun ch => (String.utf8EncodeChar ch).map byteChar

/-- Bytes 10xxxxxx. -/
def continuation (b : Char) : Bool := decide (0x80 ≤ b.toNat ∧ b.toNat < 0xC0)

def codePoints (bytes : List Char) : Nat := bytes.countP (!continuation ·)

@[simp] theorem byteChar_toNat (b : UInt8) : (byteChar b).toNat = b.toNat := by
  have hb : b.toNat < 256 := b.toNat_lt
  have hvalid : b.toNat.isValidChar := Or.inl (by omega)
  rw [byteChar, Char.ofNat, dif_pos hvalid]
  rfl

/-- A lead byte and the continuation bytes after it. -/
def Group (bytes : List Char) : Prop :=
  ∃ lead rest, bytes = lead :: rest ∧ continuation lead = false ∧ (∀ b ∈ rest, continuation b = true) ∧
    (rest = [] ↔ lead.toNat < 0x80)

/-- The bytes of one character are one group. -/
theorem group_encodeChar (ch : Char) : Group ((String.utf8EncodeChar ch).map byteChar) := by
  have htail : ∀ n : Nat, continuation (byteChar (UInt8.ofNat (n % 0x40 + 0x80))) = true := by
    intro n
    rw [continuation, decide_eq_true_eq, byteChar_toNat, UInt8.toNat_ofNat']
    omega
  have hmany : ∀ (n : Nat) (b : Char) (rest : List Char), 0xC0 ≤ n → n < 256 → (∀ x ∈ b :: rest, continuation x = true) →
      Group (byteChar (UInt8.ofNat n) :: b :: rest) := by
    intro n b rest hlow hhigh hrest
    refine ⟨_, _, rfl, ?_, hrest, ?_⟩
    · rw [continuation, decide_eq_false_iff_not, byteChar_toNat, UInt8.toNat_ofNat']
      omega
    · rw [byteChar_toNat, UInt8.toNat_ofNat']
      exact ⟨fun h => absurd h (List.cons_ne_nil _ _), fun h => absurd h (by omega)⟩
  unfold String.utf8EncodeChar
  simp only
  split
  · have hn : (byteChar (UInt8.ofNat ch.val.toNat)).toNat < 0x80 := by
      rw [byteChar_toNat, UInt8.toNat_ofNat']
      omega
    refine ⟨_, [], rfl, ?_, List.forall_mem_nil _, fun _ => hn, fun _ => rfl⟩
    rw [continuation, decide_eq_false_iff_not]
    omega
  split
  · exact hmany _ _ _ (by omega) (by omega) (List.forall_mem_singleton.mpr (htail _))
  split
  · exact hmany _ _ _ (by omega) (by omega)
      (List.forall_mem_cons.mpr ⟨htail _, List.forall_mem_singleton.mpr (htail _)⟩)
  · exact hmany _ _ _ (by omega) (by omega)
      (List.forall_mem_cons.mpr ⟨htail _, List.forall_mem_cons.mpr ⟨htail _, List.forall_mem_singleton.mpr (htail _)⟩⟩)

theorem Group.codePoints {bytes : List Char} (h : Group bytes) : codePoints bytes = 1 := by
  obtain ⟨lead, rest, rfl, hlead, hrest, -⟩ := h
  have hnone : rest.countP (!continuation ·) = 0 :=
    List.countP_eq_zero.mpr fun b hb => by rw [hrest b hb]; decide
  rw [Utf8.codePoints, List.countP_cons, hnone, hlead]
  rfl

/-- A group without continuation bytes is an ASCII character. -/
theorem Group.ascii_iff {bytes : List Char} (h : Group bytes) :
    (∀ b ∈ bytes, continuation b = false) ↔ ∀ b ∈ bytes, b.toNat < 0x80 := by
  obtain ⟨lead, rest, rfl, hlead, hrest, hascii⟩ := h
  constructor
  · intro h
    have hnil : rest = [] := List.eq_nil_iff_forall_not_mem.mpr fun b hb => by
      have hb' := h b (List.mem_cons_of_mem _ hb)
      rw [hrest b hb] at hb'
      exact Bool.noConfusion hb'
    subst hnil
    exact List.forall_mem_singleton.mpr (hascii.mp rfl)
  · intro h b hb
    have hsmall := h b hb
    rw [continuation, decide_eq_false_iff_not]
    omega

/-- As many code points as characters. -/
theorem codePoints_encode (text : List Char) : codePoints (encode text) = text.length := by
  induction text with
  | nil => rfl
  | cons ch text ih =>
    have hgroup := (group_encodeChar ch).codePoints
    unfold codePoints at hgroup ih ⊢
    rw [encode, List.flatMap_cons, List.countP_append, hgroup, ← encode, ih, List.length_cons, Nat.add_comm]

theorem ascii_iff (text : List Char) :
    (∀ b ∈ encode text, continuation b = false) ↔ ∀ b ∈ encode text, b.toNat < 0x80 := by
  unfold encode
  rw [List.forall_mem_flatMap, List.forall_mem_flatMap]
  exact forall₂_congr fun ch _ => (group_encodeChar ch).ascii_iff

theorem codePoints_add_continuations (bytes : List Char) : codePoints bytes + bytes.countP continuation = bytes.length := by
  have h := List.length_eq_countP_add_countP continuation (l := bytes)
  unfold codePoints
  simp only [Bool.not_eq_true, Bool.decide_eq_false] at h
  omega

/-! ## Valid text -/

def Valid (bytes : List Char) : Prop := ∃ text, bytes = encode text

theorem Valid.append {a b : List Char} (ha : Valid a) (hb : Valid b) : Valid (a ++ b) := by
  obtain ⟨s, rfl⟩ := ha
  obtain ⟨t, rfl⟩ := hb
  exact ⟨s ++ t, (List.flatMap_append).symm⟩

theorem valid_nil : Valid [] := ⟨[], rfl⟩

theorem valid_flatten {blocks : List (List Char)} (h : ∀ block ∈ blocks, Valid block) : Valid blocks.flatten := by
  induction blocks with
  | nil => exact valid_nil
  | cons block blocks ih =>
    obtain ⟨hblock, hblocks⟩ := List.forall_mem_cons.mp h
    exact hblock.append (ih hblocks)

/-- ASCII characters are their own bytes. -/
theorem valid_ascii {bytes : List Char} (h : ∀ b ∈ bytes, b.toNat < 0x80) : Valid bytes := by
  refine ⟨bytes, ?_⟩
  induction bytes with
  | nil => rfl
  | cons b bytes ih =>
    obtain ⟨hb, hbytes⟩ := List.forall_mem_cons.mp h
    have hself : (String.utf8EncodeChar b).map byteChar = [b] := by
      have hval : b.val.toNat ≤ 0x7f := Nat.le_of_lt_succ hb
      have hbyte : (UInt8.ofNat b.val.toNat).toNat = b.toNat := by
        rw [UInt8.toNat_ofNat']
        exact Nat.mod_eq_of_lt (Nat.lt_of_le_of_lt hval (by decide))
      rw [String.utf8EncodeChar]
      simp only [hval, if_true, List.map_cons, List.map_nil]
      rw [byteChar, hbyte, Char.ofNat_toNat]
    rw [encode, List.flatMap_cons, hself, List.singleton_append, ← encode, ← ih hbytes]

end HardwareMonitor.Lib.Utf8
