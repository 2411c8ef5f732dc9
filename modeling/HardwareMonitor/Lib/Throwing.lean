/-
  HardwareMonitor.Lib.Throwing — pre- and postconditions of computations that change a
  state and may throw, where what was done before the throw stays done (`EStateM`).

  `Ensures P x Q E`: from a state with `P`, `x` returns a value and a state with `Q`, or
  throws in a state with `E`. The rules compose (`Ensures.bind`), weaken, and go over
  loops with an invariant (`Ensures.forM`, `Ensures.foldlM`), which may also know how far
  the loop has come (`Ensures.forM_along`, `Ensures.foldlM_along`).

  What a loop changes is changed in one of its turns (`turn_of_change`), and a turn that
  throws ends it (`forM_of_error`).
-/

namespace HardwareMonitor.Lib.Throwing

variable {ε σ α β : Type}

def Ensures (P : σ → Prop) (x : EStateM ε σ α) (Q : α → σ → Prop) (E : σ → Prop) : Prop :=
  ∀ s, P s →
    match x s with
    | .ok a s' => Q a s'
    | .error _ s' => E s'

variable {P P' : σ → Prop} {Q : α → σ → Prop} {R : β → σ → Prop} {E : σ → Prop}

theorem Ensures.pure (a : α) (h : ∀ s, P s → Q a s) : Ensures P (Pure.pure a : EStateM ε σ α) Q E :=
  fun s hs => h s hs

theorem Ensures.bind {x : EStateM ε σ α} {f : α → EStateM ε σ β} (hx : Ensures P x Q E)
    (hf : ∀ a, Ensures (Q a) (f a) R E) : Ensures P (x >>= f) R E := by
  intro s hs
  have h := hx s hs
  show match EStateM.bind x f s with
    | .ok a s' => R a s'
    | .error _ s' => E s'
  unfold EStateM.bind
  cases hr : x s with
  | ok a s' =>
    rw [hr] at h
    exact hf a s' h
  | error e s' =>
    rw [hr] at h
    exact h

theorem Ensures.of_ok {x : EStateM ε σ α} (h : Ensures P x Q E) {s s' : σ} {a : α} (hs : P s) (hr : x s = .ok a s') : Q a s' := by
  have h := h s hs
  rw [hr] at h
  exact h

theorem Ensures.of_error {x : EStateM ε σ α} (h : Ensures P x Q E) {s s' : σ} {e : ε} (hs : P s) (hr : x s = .error e s') :
    E s' := by
  have h := h s hs
  rw [hr] at h
  exact h

/-- A stronger precondition, a weaker postcondition. -/
theorem Ensures.weaken {x : EStateM ε σ α} {Q' : α → σ → Prop} (h : Ensures P x Q E) (hP : ∀ s, P' s → P s)
    (hQ : ∀ a s, Q a s → Q' a s) : Ensures P' x Q' E := by
  intro s hs
  have h := h s (hP s hs)
  cases hr : x s with
  | ok a s' =>
    rw [hr] at h
    exact hQ a s' h
  | error e s' =>
    rw [hr] at h
    exact h

/-- A weaker condition on where it throws. -/
theorem Ensures.weaken_thrown {x : EStateM ε σ α} {E' : σ → Prop} (h : Ensures P x Q E) (hE : ∀ s, E s → E' s) :
    Ensures P x Q E' := by
  intro s hs
  have h := h s hs
  cases hr : x s with
  | ok a s' =>
    rw [hr] at h
    exact h
  | error e s' =>
    rw [hr] at h
    exact hE s' h

/-- Two postconditions of one computation. -/
theorem Ensures.and {x : EStateM ε σ α} {Q' : α → σ → Prop} {E' : σ → Prop} (h : Ensures P x Q E) (h' : Ensures P' x Q' E') :
    Ensures (fun s => P s ∧ P' s) x (fun a s => Q a s ∧ Q' a s) E := by
  intro s hs
  have h := h s hs.1
  have h' := h' s hs.2
  cases hr : x s with
  | ok a s' =>
    rw [hr] at h h'
    exact ⟨h, h'⟩
  | error e s' =>
    rw [hr] at h
    exact h

/-- A fact that does not depend on the state is at hand throughout. -/
theorem Ensures.assume {x : EStateM ε σ α} {p : Prop} (h : p → Ensures P x Q E) : Ensures (fun s => p ∧ P s) x Q E :=
  fun s hs => h hs.1 s hs.2

theorem Ensures.modify {f : σ → σ} {Q : PUnit → σ → Prop} (h : ∀ s, P s → Q ⟨⟩ (f s)) :
    Ensures P (modify f : EStateM ε σ PUnit) Q E :=
  fun s hs => h s hs

theorem Ensures.get {Q : σ → σ → Prop} (h : ∀ s, P s → Q s s) : Ensures P (get : EStateM ε σ σ) Q E :=
  fun s hs => h s hs

/-- A loop keeps what every turn keeps. -/
theorem Ensures.forM {f : α → EStateM ε σ PUnit} (xs : List α)
    (h : ∀ x ∈ xs, Ensures P (f x) (fun _ => P) E) : Ensures P (xs.forM f) (fun _ => P) E := by
  induction xs with
  | nil => exact Ensures.pure _ fun s hs => hs
  | cons x xs ih =>
    show Ensures P (f x >>= fun _ => xs.forM f) _ E
    refine Ensures.bind (h x List.mem_cons_self) fun _ => ?_
    exact ih fun y hy => h y (List.mem_cons_of_mem _ hy)

/-- A loop over a local variable, with an invariant of the variable and the state. -/
theorem Ensures.foldlM {f : β → α → EStateM ε σ β} (xs : List α)
    (h : ∀ b, ∀ x ∈ xs, Ensures (R b) (f b x) R E) (b : β) : Ensures (R b) (xs.foldlM f b) R E := by
  induction xs generalizing b with
  | nil => exact Ensures.pure _ fun s hs => hs
  | cons x xs ih =>
    rw [List.foldlM_cons]
    refine Ensures.bind (h b x List.mem_cons_self) fun b' => ?_
    exact ih (fun b y hy => h b y (List.mem_cons_of_mem _ hy)) b'

/-- A loop, with an invariant of what has been gone through. -/
theorem Ensures.forM_along {f : α → EStateM ε σ PUnit} {I : List α → σ → Prop} (xs : List α)
    (h : ∀ seen, ∀ x ∈ xs, Ensures (I seen) (f x) (fun _ => I (seen ++ [x])) E) (seen : List α) :
    Ensures (I seen) (xs.forM f) (fun _ => I (seen ++ xs)) E := by
  induction xs generalizing seen with
  | nil =>
    rw [List.append_nil]
    exact Ensures.pure _ fun s hs => hs
  | cons x xs ih =>
    show Ensures (I seen) (f x >>= fun _ => xs.forM f) _ E
    refine Ensures.bind (h seen x List.mem_cons_self) fun _ => ?_
    rw [List.append_cons seen x xs]
    exact ih (fun seen y hy => h seen y (List.mem_cons_of_mem _ hy)) (seen ++ [x])

/-- A loop over a local variable, with an invariant of what has been gone through. -/
theorem Ensures.foldlM_along {f : β → α → EStateM ε σ β} {I : List α → β → σ → Prop} (xs : List α)
    (h : ∀ seen b, ∀ x ∈ xs, Ensures (I seen b) (f b x) (I (seen ++ [x])) E) (seen : List α) (b : β) :
    Ensures (I seen b) (xs.foldlM f b) (I (seen ++ xs)) E := by
  induction xs generalizing seen b with
  | nil =>
    rw [List.append_nil]
    exact Ensures.pure _ fun s hs => hs
  | cons x xs ih =>
    rw [List.foldlM_cons]
    refine Ensures.bind (h seen b x List.mem_cons_self) fun b' => ?_
    rw [List.append_cons seen x xs]
    exact ih (fun seen b y hy => h seen b y (List.mem_cons_of_mem _ hy)) (seen ++ [x]) b'

/-! ## Turns -/

/-- The state a computation leaves, whether it returned or threw. -/
def stateOf : EStateM.Result ε σ α → σ
  | .ok _ s => s
  | .error _ s => s

theorem Ensures.of_stateOf {x : EStateM ε σ α} (h : ∀ s, P s → P (stateOf (x s))) : Ensures P x (fun _ => P) P := by
  intro s hs
  have h := h s hs
  cases hr : x s with
  | ok a s' =>
    rw [hr] at h
    exact h
  | error e s' =>
    rw [hr] at h
    exact h

/-- The turns a loop takes, each with the state it is entered in. -/
def turns (f : α → EStateM ε σ PUnit) : List α → σ → List (α × σ)
  | [], _ => []
  | x :: xs, s =>
    (x, s) :: match f x s with
      | .ok _ s' => turns f xs s'
      | .error _ _ => []

theorem mem_of_turn {f : α → EStateM ε σ PUnit} {xs : List α} {s : σ} {t : α × σ} (h : t ∈ turns f xs s) : t.1 ∈ xs := by
  induction xs generalizing s with
  | nil => cases h
  | cons x xs ih =>
    rw [turns] at h
    rcases List.mem_cons.mp h with rfl | h
    · exact List.mem_cons_self
    · cases hr : f x s with
      | ok a s' =>
        rw [hr] at h
        exact List.mem_cons_of_mem _ (ih h)
      | error e s' =>
        rw [hr] at h
        cases h

/-- A loop is its first turn and then the rest, if that turn returns. -/
theorem stateOf_forM_cons (f : α → EStateM ε σ PUnit) (x : α) (xs : List α) (s : σ) :
    stateOf ((x :: xs).forM f s) =
      match f x s with
      | .ok _ s' => stateOf (xs.forM f s')
      | .error _ s' => s' := by
  show stateOf (EStateM.bind (f x) (fun _ => xs.forM f) s) = _
  unfold EStateM.bind
  cases f x s <;> rfl

theorem turn_of_change {f : α → EStateM ε σ PUnit} {p : σ → Prop} (xs : List α) {s : σ} (h : ¬ p s)
    (h' : p (stateOf (xs.forM f s))) : ∃ t ∈ turns f xs s, ¬ p t.2 ∧ p (stateOf (f t.1 t.2)) := by
  induction xs generalizing s with
  | nil => exact absurd h' h
  | cons x xs ih =>
    by_cases hx : p (stateOf (f x s))
    · exact ⟨(x, s), List.mem_cons_self, h, hx⟩
    rw [stateOf_forM_cons] at h'
    cases hr : f x s with
    | error e s' =>
      rw [hr] at h' hx
      exact absurd h' hx
    | ok a s' =>
      rw [hr] at h' hx
      obtain ⟨t, ht, hturn⟩ := ih hx h'
      refine ⟨t, ?_, hturn⟩
      rw [turns, hr]
      exact List.mem_cons_of_mem _ ht

/-- A turn is entered with what the turns before it keep when they return. -/
theorem Ensures.at_turn {f : α → EStateM ε σ PUnit} (xs : List α)
    (h : ∀ x ∈ xs, Ensures P (f x) (fun _ => P) (fun _ => True)) {s : σ} (hs : P s) : ∀ t ∈ turns f xs s, P t.2 := by
  induction xs generalizing s with
  | nil => exact fun _ ht => absurd ht List.not_mem_nil
  | cons x xs ih =>
    intro t ht
    rw [turns] at ht
    rcases List.mem_cons.mp ht with rfl | ht
    · exact hs
    have hx := h x List.mem_cons_self s hs
    cases hr : f x s with
    | ok a s' =>
      rw [hr] at hx ht
      exact ih (fun y hy => h y (List.mem_cons_of_mem _ hy)) hx t ht
    | error e s' =>
      rw [hr] at ht
      exact absurd ht List.not_mem_nil

/-! ## What throws, and what comes before it -/

theorem bind_of_ok {x : EStateM ε σ α} {f : α → EStateM ε σ β} {s s' : σ} {a : α} (h : x s = .ok a s') :
    (x >>= f) s = f a s' := by
  show EStateM.bind x f s = _
  unfold EStateM.bind
  rw [h]

theorem bind_of_error {x : EStateM ε σ α} {f : α → EStateM ε σ β} {s s' : σ} {e : ε} (h : x s = .error e s') :
    (x >>= f) s = .error e s' := by
  show EStateM.bind x f s = _
  unfold EStateM.bind
  rw [h]

/-- A turn that throws is the end of the loop. -/
theorem forM_of_error {f : α → EStateM ε σ PUnit} (xs : List α) {s s' : σ} {e : ε} {t : α × σ} (ht : t ∈ turns f xs s)
    (h : f t.1 t.2 = .error e s') : xs.forM f s = .error e s' := by
  induction xs generalizing s with
  | nil => exact absurd ht List.not_mem_nil
  | cons x xs ih =>
    show (f x >>= fun _ => xs.forM f) s = _
    rw [turns] at ht
    rcases List.mem_cons.mp ht with rfl | ht
    · exact bind_of_error h
    cases hr : f x s with
    | ok a s₁ =>
      rw [hr] at ht
      rw [bind_of_ok hr]
      exact ih ht
    | error e₁ s₁ =>
      rw [hr] at ht
      exact absurd ht List.not_mem_nil

/-- What every turn can only raise is no less at the end than after any of the turns. -/
theorem turn_le_end {f : α → EStateM ε σ PUnit} {μ : σ → Nat} (hf : ∀ x s, μ s ≤ μ (stateOf (f x s))) (xs : List α) {s : σ} :
    μ s ≤ μ (stateOf (xs.forM f s)) ∧ ∀ t ∈ turns f xs s, μ (stateOf (f t.1 t.2)) ≤ μ (stateOf (xs.forM f s)) := by
  induction xs generalizing s with
  | nil => exact ⟨Nat.le_refl _, fun _ h => nomatch h⟩
  | cons x xs ih =>
    have hx := hf x s
    rw [stateOf_forM_cons, turns]
    cases hr : f x s with
    | error e s' =>
      rw [hr] at hx
      refine ⟨hx, fun t ht => ?_⟩
      rw [List.mem_singleton.mp ht, hr]
      exact Nat.le_refl _
    | ok a s' =>
      rw [hr] at hx
      obtain ⟨hrest, hturns⟩ := ih (s := s')
      refine ⟨Nat.le_trans hx hrest, fun t ht => ?_⟩
      rcases List.mem_cons.mp ht with rfl | ht
      · rw [hr]
        exact hrest
      · exact hturns t ht

end HardwareMonitor.Lib.Throwing
