/-
  HardwareMonitor.Lib.Batch — running a list of stateful readings one after another.

  A reading takes a state to a value and a state. `runAll` runs a list of them from
  left to right and keeps every value: what a collector that stores each value as it
  goes ought to have stored. The rules say how it composes, and how two runs that go side
  by side are compared (`trace_lockstep`).
-/

import Mathlib.Data.List.Forall2

namespace HardwareMonitor.Lib.Batch

variable {σ α : Type}

/-- Run the readings in order, threading the state, and list what they gave. -/
def runAll : List (σ → α × σ) → σ → List α × σ
  | [], s => ([], s)
  | r :: rs, s =>
    let (a, s) := r s
    let (as, s) := runAll rs s
    (a :: as, s)

@[simp] theorem runAll_nil (s : σ) : runAll ([] : List (σ → α × σ)) s = ([], s) := rfl

@[simp] theorem runAll_cons (r : σ → α × σ) (rs : List (σ → α × σ)) (s : σ) :
    runAll (r :: rs) s = ((r s).1 :: (runAll rs (r s).2).1, (runAll rs (r s).2).2) := rfl

@[simp] theorem length_runAll (rs : List (σ → α × σ)) (s : σ) : (runAll rs s).1.length = rs.length := by
  induction rs generalizing s with
  | nil => rfl
  | cons r rs ih => simp [ih]

/-- A batch in two parts: the second part starts where the first one left the state. -/
theorem runAll_append (rs ts : List (σ → α × σ)) (s : σ) :
    runAll (rs ++ ts) s = ((runAll rs s).1 ++ (runAll ts (runAll rs s).2).1, (runAll ts (runAll rs s).2).2) := by
  induction rs generalizing s with
  | nil => rfl
  | cons r rs ih => simp [ih]

/-- What every reading preserves, the batch preserves. -/
theorem runAll_invariant (P : σ → Prop) {rs : List (σ → α × σ)} (h : ∀ r ∈ rs, ∀ s, P s → P (r s).2) {s : σ} (hs : P s) :
    P (runAll rs s).2 := by
  induction rs generalizing s with
  | nil => exact hs
  | cons r rs ih =>
    have hr := h r List.mem_cons_self s hs
    exact ih (fun t ht => h t (List.mem_cons_of_mem _ ht)) hr

/-- What every reading keeps of the state, the batch keeps. -/
theorem runAll_keeps {β : Type} (p : σ → β) (rs : List (σ → α × σ)) (s : σ)
    (h : ∀ r ∈ rs, ∀ s, p (r s).2 = p s) : p (runAll rs s).2 = p s :=
  runAll_invariant (fun t => p t = p s) (fun r hr t ht => (h r hr t).trans ht) rfl

/-- Where each reading's tag is known beforehand, so are the tags of the whole batch. -/
theorem runAll_map {β : Type} (tag : α → β) {rs : List (σ → α × σ)} {ts : List β}
    (h : List.Forall₂ (fun r t => ∀ s, tag (r s).1 = t) rs ts) (s : σ) : (runAll rs s).1.map tag = ts := by
  induction h generalizing s with
  | nil => rfl
  | cons hr _ ih => simp [hr s, ih]

/-! ## Two runs side by side -/

/-- What each reading gave, with the state it left. -/
def trace : List (σ → α × σ) → σ → List (α × σ)
  | [], _ => []
  | r :: rs, s => r s :: trace rs (r s).2

/-- Two readings that take related states to related states, and of which the same can be
    seen. -/
def Lockstep {τ β γ : Type} (R : σ → τ → Prop) (see : α × σ → γ) (see' : β × τ → γ) (r : σ → α × σ) (t : τ → β × τ) : Prop :=
  ∀ x y, R x y → see (r x) = see' (t y) ∧ R (r x).2 (t y).2

/-- Runs whose readings agree one by one agree after every reading. -/
theorem trace_lockstep {τ β γ : Type} {R : σ → τ → Prop} {see : α × σ → γ} {see' : β × τ → γ} {rs : List (σ → α × σ)}
    {ts : List (τ → β × τ)} (h : List.Forall₂ (Lockstep R see see') rs ts) {x : σ} {y : τ} (hxy : R x y) :
    (trace rs x).map see = (trace ts y).map see' := by
  induction h generalizing x y with
  | nil => rfl
  | cons hstep _ ih =>
    obtain ⟨hseen, hnext⟩ := hstep x y hxy
    rw [trace, trace, List.map_cons, List.map_cons, hseen, ih hnext]

end HardwareMonitor.Lib.Batch
