/-
  HardwareMonitor.Lib.Resize — asking again with more room, against a need that moves.

  The asker offers `first`, then exactly what the refusal said was needed, then twice
  what each further refusal said. `need n` is what attempt `n` needs, and may be another
  at every attempt. A refused offer from the second on is at least doubled
  (`offer_doubles`), so a bounded need is met in the end (`settles_of_bounded`); a need
  that never more than doubles is met at the third attempt (`settles_by_third`).
-/

import Mathlib.Order.Nat

namespace HardwareMonitor.Lib.Resize

/-- What attempt `n` offers, if every attempt before it was refused. -/
def offer (first : Nat) (need : Nat → Nat) : Nat → Nat
  | 0 => first
  | 1 => need 0
  | n + 2 => 2 * need (n + 1)

/-- Attempt `n` is the first one whose offer is enough. -/
structure SettlesAt (first : Nat) (need : Nat → Nat) (n : Nat) : Prop where
  met : need n ≤ offer first need n
  refused : ∀ m < n, offer first need m < need m

variable (first : Nat) (need : Nat → Nat)

theorem offer_doubles (n : Nat) (h : offer first need (n + 1) < need (n + 1)) :
    2 * offer first need (n + 1) < offer first need (n + 1 + 1) := by
  show 2 * offer first need (n + 1) < 2 * need (n + 1)
  omega

/-- As long as every attempt is refused the offers outgrow the number of attempts. -/
theorem lt_offer_of_refused (n : Nat) (h : ∀ m ≤ n, offer first need m < need m) : n < offer first need (n + 1) := by
  induction n with
  | zero => exact Nat.lt_of_le_of_lt (Nat.zero_le _) (h 0 (Nat.le_refl 0))
  | succ n ih =>
    have hn := ih fun m hm => h m (by omega)
    have := offer_doubles first need n (h (n + 1) (Nat.le_refl _))
    omega

/-- A need that stays under a bound is met. -/
theorem settles_of_bounded (B : Nat) (hB : ∀ n, need n ≤ B) : ∃ n, SettlesAt first need n := by
  have hfound : ∃ n, need n ≤ offer first need n := by
    by_contra hno
    have hall : ∀ n, offer first need n < need n := fun n => Nat.lt_of_not_le fun h => hno ⟨n, h⟩
    have h1 := lt_offer_of_refused first need B fun m _ => hall m
    have h2 := hall (B + 1)
    have h3 := hB (B + 1)
    omega
  classical
  refine ⟨Nat.find hfound, Nat.find_spec hfound, fun m hm => ?_⟩
  exact Nat.lt_of_not_le (Nat.find_min hfound hm)

/-- A need that at most doubles from one attempt to the next is met at the third one. -/
theorem settles_by_third (h : ∀ n, need (n + 1) ≤ 2 * need n) {n : Nat} (hn : SettlesAt first need n) : n ≤ 2 := by
  by_contra hgt
  have h2 : 2 * need 1 < need 2 := hn.refused 2 (by omega)
  have h1 : need 2 ≤ 2 * need 1 := h 1
  omega

end HardwareMonitor.Lib.Resize
