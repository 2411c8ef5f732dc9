/-
  HardwareMonitor.Drivers.CoreName — `BuildCoreName`, the same text in both drivers: the
  display name "Core <index> <suffix>" of a per-core entry, written into a buffer of
  `size` bytes.

  `dst[pos++] = c` always writes the next cell, so the cells written are a list in
  order; `pos` is its length. The digits go into `char digits[4]` in reverse.
-/

import Mathlib.Data.List.Basic
import Mathlib.Data.Nat.Digits.Defs
import HardwareMonitor.Drivers.SharedInfo

namespace HardwareMonitor.Drivers

/-- `for (i = 0; text[i] && pos < size - 1; i++) dst[pos++] = text[i];` -/
def copyText (size : UInt32) : List Char → List Char → List Char
  | dst, [] => dst
  | dst, c :: text => if dst.length < (size - 1).toNat then copyText size (dst ++ [c]) text else dst

/-- The `do … while (n > 0 && d < sizeof(digits))` loop with `room` cells of `digits`
    left after this one: the digits as they lie in the array, the lowest first. -/
def coreDigits : Nat → UInt32 → List Char
  | room, n =>
    let digit := Char.ofNat ('0'.toNat + (n % 10).toNat)
    match room with
    | 0 => [digit]
    | room + 1 => if n / 10 > 0 then digit :: coreDigits room (n / 10) else [digit]

/-- `BuildCoreName(dst, size, idx, suffix)`: the cells it writes, the NUL included. -/
def buildCoreName (size idx : UInt32) (suffix : List Char) : List Char :=
  let dst := copyText size [] "Core ".toList
  let dst := copyText size dst (coreDigits 3 idx).reverse
  let dst := copyText size dst [' ']
  let dst := copyText size dst suffix
  dst ++ ['\x00']

/-- What `data.name`, zeroed and then filled by `BuildCoreName`, reads as. -/
def coreName (idx : UInt32) (suffix : String) : String :=
  String.ofList ((buildCoreName 32 idx suffix.toList).takeWhile (· ≠ '\x00'))

theorem copyText_extends (size : UInt32) (dst text : List Char) : ∃ rest, copyText size dst text = dst ++ rest := by
  induction text generalizing dst with
  | nil => exact ⟨[], (List.append_nil dst).symm⟩
  | cons c text ih =>
    unfold copyText
    split
    · obtain ⟨rest, hrest⟩ := ih (dst ++ [c])
      exact ⟨c :: rest, by rw [hrest, List.append_assoc, List.singleton_append]⟩
    · exact ⟨[], (List.append_nil dst).symm⟩

/-- Whatever the index and the suffix, the name starts with the copied text. -/
theorem coreName_starts (idx : UInt32) (suffix : String) :
    ∃ rest, coreName idx suffix = String.ofList ("Core ".toList ++ rest) := by
  have hcore : copyText 32 [] "Core ".toList = "Core ".toList := by decide
  obtain ⟨digits, hdigits⟩ := copyText_extends 32 "Core ".toList (coreDigits 3 idx).reverse
  obtain ⟨space, hspace⟩ := copyText_extends 32 ("Core ".toList ++ digits) [' ']
  obtain ⟨rest, hrest⟩ := copyText_extends 32 ("Core ".toList ++ digits ++ space) suffix.toList
  refine ⟨(digits ++ space ++ rest ++ ['\x00']).takeWhile (· ≠ '\x00'), congrArg String.ofList ?_⟩
  simp only [buildCoreName, hcore, hdigits, hspace, hrest]
  simp only [List.append_assoc]
  rfl

example : coreName 12 "Temp" = "Core 12 Temp" := by decide

/-! ## What the name tells -/

theorem copyText_fits {size : UInt32} {dst text : List Char} (h : dst.length + text.length ≤ (size - 1).toNat) :
    copyText size dst text = dst ++ text := by
  induction text generalizing dst with
  | nil => rw [copyText, List.append_nil]
  | cons c text ih =>
    rw [List.length_cons] at h
    rw [copyText, if_pos (by omega), ih (by rw [List.length_append, List.length_singleton]; omega), List.append_assoc,
      List.singleton_append]

/-- Two copies in a row are one copy of both texts: once the buffer is full, it stays full. -/
theorem copyText_append (size : UInt32) (dst text text' : List Char) :
    copyText size (copyText size dst text) text' = copyText size dst (text ++ text') := by
  induction text generalizing dst with
  | nil => rfl
  | cons c text ih =>
    rw [List.cons_append, copyText, copyText]
    split
    · exact ih _
    · rename_i hfull
      cases text' with
      | nil => rfl
      | cons c' text' => rw [copyText, if_neg hfull]

theorem digit_toNat : ∀ k < 10, (Char.ofNat ('0'.toNat + k)).toNat = '0'.toNat + k := by decide

theorem digit_isDigit : ∀ k < 10, (Char.ofNat ('0'.toNat + k)).isDigit = true := by decide

theorem mod_ten_lt (n : UInt32) : (n % 10).toNat < 10 := by
  rw [UInt32.toNat_mod]
  exact Nat.mod_lt _ (by decide)

theorem length_coreDigits (room : Nat) (n : UInt32) : (coreDigits room n).length ≤ room + 1 := by
  induction room generalizing n with
  | zero => exact le_refl 1
  | succ room ih =>
    rw [coreDigits]
    split
    · exact Nat.succ_le_succ (ih (n / 10))
    · exact Nat.le_add_left 1 _

theorem coreDigits_ne_nil (room : Nat) (n : UInt32) : coreDigits room n ≠ [] := by
  cases room with
  | zero => exact List.cons_ne_nil _ _
  | succ room =>
    rw [coreDigits]
    split <;> exact List.cons_ne_nil _ _

theorem isDigit_of_mem_coreDigits {room : Nat} {n : UInt32} {c : Char} (h : c ∈ coreDigits room n) : c.isDigit = true := by
  induction room generalizing n with
  | zero => exact List.mem_singleton.mp h ▸ digit_isDigit _ (mod_ten_lt n)
  | succ room ih =>
    rw [coreDigits] at h
    split at h
    · rcases List.mem_cons.mp h with rfl | h
      · exact digit_isDigit _ (mod_ten_lt n)
      · exact ih h
    · exact List.mem_singleton.mp h ▸ digit_isDigit _ (mod_ten_lt n)

/-- What a decimal digit stands for. -/
def digitValue (c : Char) : Nat := c.toNat - '0'.toNat

theorem digitValue_mod_ten (n : UInt32) : digitValue (Char.ofNat ('0'.toNat + (n % 10).toNat)) = n.toNat % 10 := by
  rw [digitValue, digit_toNat _ (mod_ten_lt n), Nat.add_sub_cancel_left, UInt32.toNat_mod]
  rfl

/-- With a cell for every digit, the digits are those of the index. -/
theorem ofDigits_coreDigits {room : Nat} {n : UInt32} (h : n.toNat < 10 ^ (room + 1)) :
    Nat.ofDigits 10 ((coreDigits room n).map digitValue) = n.toNat := by
  induction room generalizing n with
  | zero =>
    rw [coreDigits, List.map_singleton, Nat.ofDigits_singleton, digitValue_mod_ten]
    exact Nat.mod_eq_of_lt h
  | succ room ih =>
    have hdiv : (n / 10).toNat = n.toNat / 10 := UInt32.toNat_div n 10
    rw [coreDigits]
    split
    · have hrest := ih (n := n / 10) (by rw [hdiv]; rw [Nat.pow_succ] at h; omega)
      rw [List.map_cons, Nat.ofDigits_cons, digitValue_mod_ten, hrest, hdiv]
      exact Nat.mod_add_div n.toNat 10
    · rename_i hlast
      have hsmall : n.toNat < 10 := by
        have : ¬ 0 < (n / 10).toNat := fun h => hlast (UInt32.lt_iff_toNat_lt.mpr h)
        omega
      rw [List.map_singleton, Nat.ofDigits_singleton, digitValue_mod_ten]
      exact Nat.mod_eq_of_lt hsmall

/-- A suffix that fits behind any digits, and can be told from them. -/
def IsSuffix (suffix : String) : Prop :=
  suffix.toList.length ≤ 21 ∧ '\x00' ∉ suffix.toList ∧ ' ' ∉ suffix.toList

instance (suffix : String) : Decidable (IsSuffix suffix) := inferInstanceAs (Decidable (_ ∧ _))

/-- Nothing of the name is cut off: the 31 cells hold 5 letters, at most 4 digits, the space
    and the suffix. -/
theorem buildCoreName_eq (idx : UInt32) {suffix : List Char} (h : suffix.length ≤ 21) :
    buildCoreName 32 idx suffix = "Core ".toList ++ (coreDigits 3 idx).reverse ++ [' '] ++ suffix ++ ['\x00'] := by
  have hdigits := length_coreDigits 3 idx
  have hroom : ((32 : UInt32) - 1).toNat = 31 := rfl
  have hcore : "Core ".toList.length = 5 := rfl
  simp only [buildCoreName]
  rw [copyText_append, copyText_append, copyText_append, copyText_fits]
  · simp
  · simp only [List.length_append, List.length_reverse, List.length_singleton, List.length_nil, hcore, hroom]
    omega

theorem coreName_toList (idx : UInt32) {suffix : String} (h : IsSuffix suffix) :
    (coreName idx suffix).toList = "Core ".toList ++ (coreDigits 3 idx).reverse ++ [' '] ++ suffix.toList := by
  rw [coreName, String.toList_ofList, buildCoreName_eq idx h.1]
  rw [List.takeWhile_append_of_pos]
  · simp
  · intro c hc
    simp only [List.mem_append, List.mem_reverse, List.mem_singleton] at hc
    rw [decide_eq_true_iff]
    rcases hc with ((hc | hc) | hc) | hc <;> rintro rfl
    · exact absurd hc (by decide)
    · exact absurd (isDigit_of_mem_coreDigits hc) (by decide)
    · exact absurd hc (by decide)
    · exact h.2.1 hc

/-- The sixth character is a digit. -/
theorem coreName_digit (idx : UInt32) {suffix : String} (h : IsSuffix suffix) :
    ∃ c, (coreName idx suffix).toList[5]? = some c ∧ c.isDigit = true := by
  obtain ⟨c, digits, hdigits⟩ := List.exists_cons_of_ne_nil (List.reverse_ne_nil_iff.mpr (coreDigits_ne_nil 3 idx))
  have hc : c ∈ coreDigits 3 idx := by
    rw [← List.mem_reverse, hdigits]
    exact List.mem_cons_self
  refine ⟨c, ?_, isDigit_of_mem_coreDigits hc⟩
  rw [coreName_toList idx h, hdigits]
  rfl

/-- The digits hold every index below 10000, so the name tells the processor. -/
theorem coreName_index {i j : UInt32} {suffix suffix' : String} (hi : i.toNat < 10000) (hj : j.toNat < 10000)
    (h : IsSuffix suffix) (h' : IsSuffix suffix') (heq : coreName i suffix = coreName j suffix') : i = j := by
  have hspace : ∀ idx, ' ' ∉ (coreDigits 3 idx).reverse := by
    intro idx hc
    exact absurd (isDigit_of_mem_coreDigits (List.mem_reverse.mp hc)) (by decide)
  have hlists := congrArg String.toList heq
  rw [coreName_toList i h, coreName_toList j h'] at hlists
  simp only [List.append_assoc, List.append_cancel_left_eq, List.singleton_append] at hlists
  rw [List.append_cons_inj_of_notMem (hspace i) h.2.2] at hlists
  have hdigits := List.reverse_injective hlists.1
  have hvalue : ∀ idx : UInt32, idx.toNat < 10000 → Nat.ofDigits 10 ((coreDigits 3 idx).map digitValue) = idx.toNat :=
    fun _ hidx => ofDigits_coreDigits hidx
  rw [← UInt32.toNat_inj, ← hvalue i hi, ← hvalue j hj, hdigits]

end HardwareMonitor.Drivers
