/-
  HardwareMonitor.Lib.Bounded — programs that end after a bounded number of their own
  calls, whatever these are answered and whatever runs beside them.

  `EndsIn prompt n x`: on every path `x` makes no more than `n` calls before it ends, and
  only prompt ones, which a system never leaves waiting. The bounds of parts add up
  (`EndsIn.bind`, `EndsIn.forM`), and each move of the process uses one up
  (`EndsIn.serve`).
-/

import HardwareMonitor.Lib.Interaction

namespace HardwareMonitor.Lib.Interaction

variable {P Call σ α β γ : Type} {Answer : Call → Type}

/-- An exception is as good as a call. -/
inductive EndsIn (prompt : Call → Prop) : Nat → Prog Call Answer α → Prop where
  | done (n : Nat) (a : α) : EndsIn prompt n (.done a)
  | throw (n : Nat) : EndsIn prompt (n + 1) .throw
  | call {n : Nat} {c : Call} {next : Answer c → Prog Call Answer α} (hc : prompt c) (h : ∀ a, EndsIn prompt n (next a)) :
      EndsIn prompt (n + 1) (.call c next)

variable {prompt : Call → Prop} {n m : Nat}

theorem EndsIn.mono {x : Prog Call Answer α} (h : EndsIn prompt n x) (hle : n ≤ m) : EndsIn prompt m x := by
  induction h generalizing m with
  | done n a => exact .done m a
  | throw n =>
    obtain ⟨k, rfl⟩ := Nat.exists_eq_add_of_le' hle
    exact .throw (k + n)
  | @call n c next hc _ ih =>
    obtain ⟨k, rfl⟩ := Nat.exists_eq_add_of_le' hle
    exact .call hc fun a => ih a (Nat.le_add_left n k)

theorem EndsIn.ask {c : Call} (hc : prompt c) : EndsIn prompt 1 (ask c : Prog Call Answer (Answer c)) := .call hc fun a => .done 0 a

theorem EndsIn.bind {x : Prog Call Answer α} {f : α → Prog Call Answer β} (hx : EndsIn prompt n x)
    (hf : ∀ a, EndsIn prompt m (f a)) : EndsIn prompt (n + m) (x >>= f) := by
  induction hx with
  | done n a => exact (hf a).mono (Nat.le_add_left m n)
  | throw n =>
    rw [Nat.add_right_comm]
    exact .throw (n + m)
  | @call n c next hc _ ih =>
    rw [Nat.add_right_comm]
    exact .call hc ih

/-- A loop takes as many as its turns. -/
theorem EndsIn.forM {f : γ → Prog Call Answer PUnit} (xs : List γ) (h : ∀ x ∈ xs, EndsIn prompt n (f x)) :
    EndsIn prompt (n * xs.length) (xs.forM f) := by
  induction xs with
  | nil => exact .done _ _
  | cons x xs ih =>
    rw [List.length_cons, Nat.mul_add, Nat.mul_one, Nat.add_comm]
    show EndsIn prompt (n + n * xs.length) (f x >>= fun _ => xs.forM f)
    exact (h x List.mem_cons_self).bind fun _ => ih fun y hy => h y (List.mem_cons_of_mem _ hy)

/-! ## In a world -/

variable [DecidableEq P] {sys : System P Call Answer σ} {w : World P Call Answer σ α} {p : P}

/-- A move of the process ends its program or uses up one. -/
theorem EndsIn.serve {x : Prog Call Answer α} (h : EndsIn prompt (n + 1) x) (hprompt : ∀ c s, prompt c → sys.serve p c s ≠ .blocks)
    (hrun : w.running p = some x) :
    (w.serve sys p).idle p = true ∨ ∃ y, (w.serve sys p).running p = some y ∧ EndsIn prompt n y := by
  unfold World.serve
  rw [hrun]
  cases h with
  | done _ a =>
    left
    simp only [World.idle, hrun]
  | throw _ =>
    left
    simp only [World.idle, proceed_same]
  | @call _ c next hc hnext =>
    dsimp only
    cases hs : sys.serve p c w.shared with
    | blocks => exact absurd hs (hprompt c _ hc)
    | fails s =>
      left
      simp only [World.idle, proceed_same]
    | answers a s => exact Or.inr ⟨next a, proceed_same _ _ _ _, hnext a⟩

/-- A failure ends the program, or nothing happens. -/
theorem fail_ends_or_stays {x : Prog Call Answer α} (hrun : w.running p = some x) (served : Bool) :
    (w.fail sys p served).idle p = true ∨ w.fail sys p served = w := by
  have hended : ∀ s, (w.proceed p s none).idle p = true := by
    intro s
    simp only [World.idle, proceed_same]
  unfold World.fail
  rw [hrun]
  cases x with
  | done a => exact Or.inr rfl
  | throw => exact Or.inr rfl
  | call c next =>
    dsimp only
    split
    · exact Or.inr rfl
    split
    · exact Or.inl (hended _)
    cases sys.serve p c w.shared with
    | blocks => exact Or.inr rfl
    | fails s => exact Or.inl (hended _)
    | answers a s => exact Or.inl (hended _)

/-- Who runs a program does not start another. -/
theorem start_of_running {q : P} (hbusy : w.idle q = false) (x : Prog Call Answer α) : w.start q x = w := by
  unfold World.start
  rw [hbusy]
  rfl

end HardwareMonitor.Lib.Interaction
