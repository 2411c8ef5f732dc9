/-
  HardwareMonitor.Drivers.CoreNameBuffer — `BuildCoreName` with its two arrays: every store
  is at an index, and one outside an array is an error.

  In a buffer of `size` cells no store is outside, and the cells written are those of
  `buildCoreName` (`buildCoreNameInto_eq`), so the buffer holds the name cut to fit and a
  NUL. The name has the last four digits of the index only: `digits` has no room for more,
  and the first ones are left out. So the text is the whole numeral's exactly for an index
  below 10000, or where the buffer ends before it shows (`renders_iff`).
-/

import Mathlib.Data.List.Induction
import HardwareMonitor.Drivers.CoreName
import HardwareMonitor.Lib.Decimal

namespace HardwareMonitor.Drivers.CoreNameBuffer

open HardwareMonitor.Lib.Decimal

/-! ## The arrays -/

/-- An array and the position of its next store. -/
structure Cells where
  cells : List Char
  pos : Nat
  deriving DecidableEq, Repr

/-- `cells[pos++] = c` -/
def Cells.put (w : Cells) (c : Char) : Option Cells :=
  if w.pos < w.cells.length then some ⟨w.cells.set w.pos c, w.pos + 1⟩ else none

/-- `for (i = 0; text[i] && pos < size - 1; i++) dst[pos++] = text[i];` -/
def copyTextInto (size : UInt32) : Cells → List Char → Option Cells
  | dst, [] => some dst
  | dst, c :: text =>
    if dst.pos < (size - 1).toNat then do copyTextInto size (← dst.put c) text else some dst

/-- The loop that fills `digits`; `room` is `sizeof(digits) - d` after its first store. -/
def digitsInto : Nat → Cells → UInt32 → Option Cells
  | room, digits, n => do
    let digits ← digits.put (Char.ofNat ('0'.toNat + (n % 10).toNat))
    match room with
    | 0 => some digits
    | room + 1 => if n / 10 > 0 then digitsInto room digits (n / 10) else some digits

/-- `while (d > 0 && pos < size - 1) dst[pos++] = digits[--d];` -/
def copyDigitsInto (size : UInt32) (digits : List Char) : Nat → Cells → Option Cells
  | 0, dst => some dst
  | d + 1, dst =>
    if dst.pos < (size - 1).toNat then do copyDigitsInto size digits d (← dst.put (← digits[d]?)) else some dst

/-- `if (pos < size - 1) dst[pos++] = ' ';` -/
def spaceInto (size : UInt32) (dst : Cells) : Option Cells :=
  if dst.pos < (size - 1).toNat then dst.put ' ' else some dst

/-- `BuildCoreName(dst, size, idx, suffix)`; `digits` is what its array of four holds
    before. -/
def buildCoreNameInto (dst digits : List Char) (size idx : UInt32) (suffix : List Char) : Option (List Char) := do
  let dst ← copyTextInto size ⟨dst, 0⟩ "Core ".toList
  let digits ← digitsInto 3 ⟨digits, 0⟩ idx
  let dst ← copyDigitsInto size digits.cells digits.pos dst
  let dst ← spaceInto size dst
  let dst ← copyTextInto size dst suffix
  let dst ← dst.put '\x00'
  return dst.cells

/-! ## The stores stay inside -/

/-- The first cells of an array have been written, the others are as they were. -/
def Filled (old written : List Char) : Cells := ⟨written ++ old.drop written.length, written.length⟩

@[simp] theorem pos_filled (old written : List Char) : (Filled old written).pos = written.length := rfl

theorem put_filled {old written : List Char} (h : written.length < old.length) (c : Char) :
    (Filled old written).put c = some (Filled old (written ++ [c])) := by
  have hlen : written.length < (written ++ old.drop written.length).length := by
    rw [List.length_append, List.length_drop]
    omega
  rw [Cells.put, Filled, if_pos hlen, Filled]
  simp only [List.set_append_right _ _ (Nat.le_refl _), Nat.sub_self, List.drop_eq_getElem_cons h, List.set_cons_zero,
    List.length_append, List.length_singleton, List.append_assoc, List.singleton_append]

/-- Copying text writes what the list has after it. -/
theorem copyTextInto_filled {size : UInt32} {old written : List Char} (h : (size - 1).toNat < old.length)
    (text : List Char) :
    copyTextInto size (Filled old written) text = some (Filled old (copyText size written text)) := by
  induction text generalizing written with
  | nil => rfl
  | cons c text ih =>
    rw [copyTextInto, copyText, pos_filled]
    by_cases hpos : written.length < (size - 1).toNat
    · rw [if_pos hpos, if_pos hpos, put_filled (Nat.lt_trans hpos h)]
      exact ih
    · rw [if_neg hpos, if_neg hpos]

theorem digitsInto_filled {room : Nat} {old written : List Char} (h : written.length + room < old.length) (n : UInt32) :
    digitsInto room (Filled old written) n = some (Filled old (written ++ coreDigits room n)) := by
  induction room generalizing written n with
  | zero =>
    rw [digitsInto, put_filled h]
    rfl
  | succ room ih =>
    rw [digitsInto, put_filled (by omega), coreDigits]
    simp only [Option.bind_eq_bind, Option.bind_some]
    split
    · rw [ih (by rw [List.length_append, List.length_singleton]; omega), List.append_assoc, List.singleton_append]
    · rfl

/-- The digits are read from the last one stored down. -/
theorem copyDigitsInto_filled {size : UInt32} {old written digits rest : List Char} (h : (size - 1).toNat < old.length) :
    copyDigitsInto size (digits ++ rest) digits.length (Filled old written) =
      some (Filled old (copyText size written digits.reverse)) := by
  induction digits using List.reverseRecOn generalizing written rest with
  | nil => rfl
  | append_singleton digits c ih =>
    rw [List.reverse_append, List.reverse_singleton, List.singleton_append, List.length_append, List.length_singleton,
      copyDigitsInto, copyText, pos_filled]
    by_cases hpos : written.length < (size - 1).toNat
    · have hread : (digits ++ [c] ++ rest)[digits.length]? = some c := by simp
      simp only [if_pos hpos, hread, Option.bind_eq_bind, Option.bind_some, put_filled (Nat.lt_trans hpos h)]
      rw [List.append_assoc, ih]
    · rw [if_neg hpos, if_neg hpos]

theorem copyText_eq (size : UInt32) (dst text : List Char) :
    copyText size dst text = dst ++ text.take ((size - 1).toNat - dst.length) := by
  induction text generalizing dst with
  | nil => rw [copyText, List.take_nil, List.append_nil]
  | cons c text ih =>
    rw [copyText]
    split
    · rename_i hpos
      obtain ⟨left, hleft⟩ := Nat.exists_eq_succ_of_ne_zero (Nat.sub_ne_zero_of_lt hpos)
      rw [ih, List.length_append, List.length_singleton, ← Nat.sub_sub, hleft, Nat.succ_sub_one, List.take_succ_cons,
        List.append_assoc, List.singleton_append]
    · rename_i hfull
      rw [Nat.sub_eq_zero_of_le (Nat.le_of_not_lt hfull), List.take_zero, List.append_nil]

/-- The text `BuildCoreName` copies, were there room. -/
def copiedName (idx : UInt32) (suffix : List Char) : List Char :=
  "Core ".toList ++ (coreDigits 3 idx).reverse ++ [' '] ++ suffix

-- stated by hand, here and for `fullName`: the equation `rw` would make evaluates the text
theorem copiedName_def (idx : UInt32) (suffix : List Char) :
    copiedName idx suffix = "Core ".toList ++ (coreDigits 3 idx).reverse ++ [' '] ++ suffix := rfl

theorem buildCoreName_take (size idx : UInt32) (suffix : List Char) :
    buildCoreName size idx suffix = (copiedName idx suffix).take (size - 1).toNat ++ ['\x00'] := by
  simp only [buildCoreName]
  rw [copyText_append, copyText_append, copyText_append, copyText_eq, List.nil_append, List.length_nil, Nat.sub_zero,
    copiedName_def]
  simp only [List.append_assoc]

theorem toNat_sub_one {size : UInt32} (h : 1 ≤ size) : (size - 1).toNat = size.toNat - 1 := UInt32.toNat_sub_of_le size 1 h

/-- In a buffer of `size` cells, and with four for the digits, every store is inside, and
    the cells behind the NUL are as they were. -/
theorem buildCoreNameInto_eq {dst digits : List Char} {size : UInt32} (hsize : 1 ≤ size) (hdst : dst.length = size.toNat)
    (hdigits : digits.length = 4) (idx : UInt32) (suffix : List Char) :
    buildCoreNameInto dst digits size idx suffix =
      some (buildCoreName size idx suffix ++ dst.drop (buildCoreName size idx suffix).length) := by
  have hpos : 0 < size.toNat := UInt32.le_iff_toNat_le.mp hsize
  have hroom : (size - 1).toNat < dst.length := by
    rw [toNat_sub_one hsize, hdst]
    omega
  have hfour : ([] : List Char).length + 3 < digits.length := by
    rw [hdigits]
    decide
  have hdig : digitsInto 3 ⟨digits, 0⟩ idx = some (Filled digits (coreDigits 3 idx)) := digitsInto_filled hfour idx
  have hspace : ∀ w : Cells, spaceInto size w = copyTextInto size w [' '] := by
    intro w
    simp [spaceInto, copyTextInto]
  have hlen : ∀ text, (copyText size [] text).length < dst.length := by
    intro text
    rw [copyText_eq, List.nil_append, List.length_take]
    omega
  simp only [buildCoreNameInto, hdig, hspace, Option.bind_eq_bind, Option.bind_some]
  rw [show (⟨dst, 0⟩ : Cells) = Filled dst [] from rfl, copyTextInto_filled hroom, Option.bind_some, Filled,
    copyDigitsInto_filled hroom]
  simp only [Option.bind_some, copyTextInto_filled hroom, copyText_append]
  rw [put_filled (hlen _), Option.bind_some, buildCoreName]
  simp only [copyText_append]
  rfl

/-! ## The text -/

/-- The decimal numeral of the index. -/
def numeral (idx : UInt32) : List Char := Nat.toDigits 10 idx.toNat

/-- The full name: "Core ", the numeral, a space and the suffix. -/
def fullName (idx : UInt32) (suffix : List Char) : List Char := "Core ".toList ++ numeral idx ++ [' '] ++ suffix

theorem fullName_def (idx : UInt32) (suffix : List Char) :
    fullName idx suffix = "Core ".toList ++ numeral idx ++ [' '] ++ suffix := rfl

/-- The digits of the numeral that `digits` has room for. -/
def lastDigits (idx : UInt32) : List Char := (numeral idx).drop ((numeral idx).length - 4)

theorem digitChar_of_lt : ∀ k < 10, Char.ofNat ('0'.toNat + k) = Nat.digitChar k := by decide

/-- The numeral from its last digit on. -/
theorem reverse_toDigits (n : UInt32) :
    (Nat.toDigits 10 n.toNat).reverse = Char.ofNat ('0'.toNat + (n % 10).toNat) ::
      if n / 10 > 0 then (Nat.toDigits 10 (n / 10).toNat).reverse else [] := by
  have hdiv : (n / 10).toNat = n.toNat / 10 := UInt32.toNat_div n 10
  have hmod : (n % 10).toNat = n.toNat % 10 := UInt32.toNat_mod n 10
  have hmore : n / 10 > 0 ↔ ¬ n.toNat < 10 := by
    rw [gt_iff_lt, UInt32.lt_iff_toNat_lt, hdiv]
    show 0 < n.toNat / 10 ↔ _
    omega
  rw [toDigits_eq, hmod, digitChar_of_lt (n.toNat % 10) (Nat.mod_lt _ (by decide)), List.reverse_append, hdiv]
  by_cases hsmall : n.toNat < 10
  · rw [if_pos hsmall, if_neg fun h => hmore.mp h hsmall]
    rfl
  · rw [if_neg hsmall, if_pos (hmore.mpr hsmall)]
    rfl

/-- The loop has the lowest digits of the numeral. -/
theorem coreDigits_eq (room : Nat) (n : UInt32) :
    coreDigits room n = (Nat.toDigits 10 n.toNat).reverse.take (room + 1) := by
  induction room generalizing n with
  | zero => rw [coreDigits, reverse_toDigits]; rfl
  | succ room ih =>
    rw [coreDigits, reverse_toDigits, List.take_succ_cons, ih]
    split
    · rfl
    · rw [List.take_nil]

theorem copiedName_eq (idx : UInt32) (suffix : List Char) :
    copiedName idx suffix = "Core ".toList ++ lastDigits idx ++ [' '] ++ suffix := by
  rw [copiedName_def, coreDigits_eq, List.reverse_take, List.reverse_reverse, List.length_reverse]
  rfl

/-- The text up to the NUL. -/
def readText (cells : List Char) : List Char := cells.takeWhile (· ≠ '\x00')

/-- The call is safe, and leaves a NUL behind the text of the full name, cut to fit. -/
def Renders (size idx : UInt32) (suffix : List Char) : Prop :=
  ∀ dst digits : List Char, dst.length = size.toNat → digits.length = 4 →
    ∃ cells, buildCoreNameInto dst digits size idx suffix = some cells ∧ cells.length = size.toNat ∧
      '\x00' ∈ cells ∧ readText cells = (fullName idx suffix).take (size.toNat - 1)

theorem nul_not_mem_digits {idx : UInt32} : '\x00' ∉ lastDigits idx := by
  intro h
  have hdigit := isDigit_of_mem_toDigits (List.mem_of_mem_drop h)
  exact absurd hdigit (by decide)

theorem readText_buildCoreName {suffix : List Char} (hsuffix : '\x00' ∉ suffix) (size idx : UInt32) (rest : List Char) :
    readText (buildCoreName size idx suffix ++ rest) = (copiedName idx suffix).take (size - 1).toNat := by
  rw [buildCoreName_take, List.append_assoc, readText, List.takeWhile_append_of_pos]
  · simp
  · intro c hc
    rw [decide_eq_true_iff]
    have hmem := List.mem_of_mem_take hc
    rw [copiedName_eq] at hmem
    simp only [List.mem_append, List.mem_singleton] at hmem
    rcases hmem with ((hmem | hmem) | hmem) | hmem <;> rintro rfl
    · exact absurd hmem (by decide)
    · exact nul_not_mem_digits hmem
    · exact absurd hmem (by decide)
    · exact hsuffix hmem

/-- What the call leaves: the text it copies, cut to fit, whatever it is. -/
theorem renders_iff_take {size : UInt32} {suffix : List Char} (hsize : 1 ≤ size) (hsuffix : '\x00' ∉ suffix)
    (idx : UInt32) :
    Renders size idx suffix ↔ (copiedName idx suffix).take (size.toNat - 1) = (fullName idx suffix).take (size.toNat - 1) := by
  have hpos : 0 < size.toNat := UInt32.le_iff_toNat_le.mp hsize
  have hread := readText_buildCoreName hsuffix size idx
  rw [toNat_sub_one hsize] at hread
  constructor
  · intro hrenders
    obtain ⟨cells, hcells, -, -, htext⟩ := hrenders (List.replicate size.toNat 'x') (List.replicate 4 'x')
      List.length_replicate List.length_replicate
    rw [buildCoreNameInto_eq hsize List.length_replicate List.length_replicate] at hcells
    rw [← Option.some.inj hcells, hread] at htext
    exact htext
  · intro htake dst digits hdst hdigits
    refine ⟨_, buildCoreNameInto_eq hsize hdst hdigits idx suffix, ?_, ?_, by rw [hread, htake]⟩
    · rw [List.length_append, List.length_drop, hdst, buildCoreName_take, List.length_append, List.length_take,
        toNat_sub_one hsize, List.length_singleton]
      omega
    · rw [buildCoreName_take]
      simp

theorem length_numeral_le_iff (idx : UInt32) : (numeral idx).length ≤ 4 ↔ idx.toNat < 10000 :=
  Nat.length_toDigits_le_iff (by decide) (by decide)

theorem lastDigits_of_lt {idx : UInt32} (h : idx.toNat < 10000) : lastDigits idx = numeral idx := by
  rw [lastDigits, Nat.sub_eq_zero_of_le ((length_numeral_le_iff idx).mpr h), List.drop_zero]

/-- Behind four of more digits the space shows, where the numeral has another digit. -/
theorem take_digits_iff (idx : UInt32) (suffix : List Char) (m : Nat) :
    (lastDigits idx ++ [' '] ++ suffix).take m = (numeral idx ++ [' '] ++ suffix).take m ↔
      idx.toNat < 10000 ∨ (m ≤ 4 ∧ (lastDigits idx).take m = (numeral idx).take m) := by
  by_cases hsmall : idx.toNat < 10000
  · rw [lastDigits_of_lt hsmall]
    exact ⟨fun _ => Or.inl hsmall, fun _ => rfl⟩
  · have hlong : 4 < (numeral idx).length := Nat.lt_of_not_le (mt (length_numeral_le_iff idx).mp hsmall)
    have hlast : (lastDigits idx).length = 4 := by
      rw [lastDigits, List.length_drop]
      omega
    by_cases hm : m ≤ 4
    · have hleft : (lastDigits idx ++ [' '] ++ suffix).take m = (lastDigits idx).take m := by
        rw [List.append_assoc, List.take_append_of_le_length (by omega)]
      have hright : (numeral idx ++ [' '] ++ suffix).take m = (numeral idx).take m := by
        rw [List.append_assoc, List.take_append_of_le_length (by omega)]
      rw [hleft, hright]
      simp [hsmall, hm]
    · refine ⟨fun htake => ?_, fun h => absurd h (by simp [hsmall, hm])⟩
      have hfifth := congrArg (fun cells : List Char => cells[4]?) htake
      simp only [List.getElem?_take, if_pos (Nat.lt_of_not_le hm), List.append_assoc] at hfifth
      rw [List.getElem?_append_right (by omega), hlast, List.getElem?_append_left hlong,
        List.getElem?_eq_getElem hlong] at hfifth
      have hdigit := isDigit_of_mem_toDigits (List.getElem_mem hlong)
      rw [← Option.some.inj hfifth] at hdigit
      exact absurd hdigit (by decide)

/-- The digits of the index that the buffer shows are those the code has room for. -/
def DigitsFit (size idx : UInt32) : Prop :=
  idx.toNat < 10000 ∨
    (size.toNat ≤ 10 ∧ (lastDigits idx).take (size.toNat - 6) = (numeral idx).take (size.toNat - 6))

instance (size idx : UInt32) : Decidable (DigitsFit size idx) := inferInstanceAs (Decidable (_ ∨ _))

theorem renders_iff_fit {size : UInt32} {suffix : List Char} (hsize : 1 ≤ size) (hsuffix : '\x00' ∉ suffix)
    (idx : UInt32) : Renders size idx suffix ↔ DigitsFit size idx := by
  have hcut : ∀ rest : List Char, ("Core ".toList ++ rest).take (size.toNat - 1) =
      "Core ".toList.take (size.toNat - 1) ++ rest.take (size.toNat - 6) := by
    intro rest
    rw [List.take_append]
    rfl
  have hsix : size.toNat - 6 ≤ 4 ↔ size.toNat ≤ 10 := by omega
  rw [renders_iff_take hsize hsuffix, copiedName_eq, fullName_def, DigitsFit, ← hsix, ← take_digits_iff idx suffix]
  simp only [List.append_assoc, hcut, List.append_cancel_left_eq]

/-! ## Different indexes -/

theorem numeral_injective : Function.Injective numeral := by
  intro i j h
  exact UInt32.toNat_inj.mp (toDigits_injective h)

/-- The numeral is what stands before the first space. -/
theorem fullName_index {i j : UInt32} {suffix suffix' : List Char} (h : fullName i suffix = fullName j suffix') : i = j := by
  have hbefore : ∀ (idx : UInt32) (rest : List Char), (numeral idx ++ ' ' :: rest).takeWhile (· ≠ ' ') = numeral idx := by
    intro idx rest
    rw [List.takeWhile_append_of_pos, List.takeWhile_cons_of_neg (by decide), List.append_nil]
    intro c hc
    rw [decide_eq_true_iff]
    rintro rfl
    exact absurd (isDigit_of_mem_toDigits hc) (by decide)
  simp only [fullName_def, List.append_assoc, List.append_cancel_left_eq, List.singleton_append] at h
  refine numeral_injective ?_
  rw [← hbefore i suffix, h, hbefore]

/-- Where the full name fits and is rendered, the buffer reads as the full name. -/
theorem readText_of_fits {size idx : UInt32} {suffix : List Char} (hsize : 1 ≤ size) (hsuffix : '\x00' ∉ suffix)
    (hdigits : DigitsFit size idx) (hfits : (fullName idx suffix).length ≤ size.toNat - 1) :
    readText (buildCoreName size idx suffix) = fullName idx suffix := by
  have htake := (renders_iff_take hsize hsuffix idx).mp ((renders_iff_fit hsize hsuffix idx).mpr hdigits)
  have hread := readText_buildCoreName hsuffix size idx []
  rw [List.append_nil, toNat_sub_one hsize, htake, List.take_of_length_le hfits] at hread
  exact hread

/-- `BuildCoreName` renders the full name exactly for an index below 10000, and for a
    longer one where the buffer shows no digit that the code has not; and of names that are
    rendered and not cut, two of different indexes are different. -/
theorem renders_iff (size idx : UInt32) (suffix : List Char) (hsize : 1 ≤ size) (hsuffix : '\x00' ∉ suffix) :
    (Renders size idx suffix ↔ DigitsFit size idx) ∧
      ∀ (idx' : UInt32) (suffix' : List Char), '\x00' ∉ suffix' → DigitsFit size idx → DigitsFit size idx' →
        (fullName idx suffix).length ≤ size.toNat - 1 → (fullName idx' suffix').length ≤ size.toNat - 1 → idx ≠ idx' →
        readText (buildCoreName size idx suffix) ≠ readText (buildCoreName size idx' suffix') := by
  refine ⟨renders_iff_fit hsize hsuffix idx, fun idx' suffix' hsuffix' hdigits hdigits' hfits hfits' hne heq => hne ?_⟩
  rw [readText_of_fits hsize hsuffix hdigits hfits, readText_of_fits hsize hsuffix' hdigits' hfits'] at heq
  exact fullName_index heq

/-- Two of the indexes with four digits. -/
theorem renders_iff_small :
    Renders 32 12 "Load".toList ∧
      readText (buildCoreName 32 12 "Load".toList) ≠ readText (buildCoreName 32 9999 "Load".toList) :=
  ⟨(renders_iff 32 12 "Load".toList (by decide) (by decide)).1.mpr (by decide),
    (renders_iff 32 12 "Load".toList (by decide) (by decide)).2 9999 "Load".toList (by decide) (by decide) (by decide)
      (by decide) (by decide) (by decide)⟩

/-- Core 12345 is shown as core 2345, which core 2345 is too. -/
theorem long_index_loses_digits :
    readText (buildCoreName 32 12345 "Load".toList) = "Core 2345 Load".toList ∧
      readText (buildCoreName 32 2345 "Load".toList) = "Core 2345 Load".toList ∧
      ¬ ∀ (size idx : UInt32) (suffix : List Char), 1 ≤ size → '\x00' ∉ suffix → Renders size idx suffix := by
  refine ⟨by decide, by decide, fun h => ?_⟩
  have hdigits := (renders_iff_fit (by decide) (by decide) 12345).mp (h 32 12345 "Load".toList (by decide) (by decide))
  exact absurd hdigits (by decide)

end HardwareMonitor.Drivers.CoreNameBuffer
