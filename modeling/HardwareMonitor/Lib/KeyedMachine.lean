/-
  HardwareMonitor.Lib.KeyedMachine — a table of cells, and a run of operations each
  addressed to the cell of one key.

  `Local` says what makes the cells independent: an operation reads and writes the cell
  it is addressed to and no other. Then a cell after a run is what the operations
  addressed to it alone would have made of it (`exec_filter`), a reply does not depend
  on what was addressed elsewhere (`reply_filter`), and a simulation of one cell's
  operations is a simulation of whole runs (`exec_simulates`).
-/

namespace HardwareMonitor.Lib.KeyedMachine

variable {K V O R A : Type}

/-- An operation addressed to a key: its reply, and the table after it. -/
abbrev Step (K V O R : Type) := K → O → (K → V) → R × (K → V)

/-- The table after a run. -/
def exec (step : Step K V O R) (t : K → V) : List (K × O) → K → V
  | [] => t
  | e :: es => exec step (step e.1 e.2 t).2 es

/-- The operations a run addresses to one key. -/
def opsOf [DecidableEq K] (k : K) : List (K × O) → List O
  | [] => []
  | e :: es => if e.1 = k then e.2 :: opsOf k es else opsOf k es

/-- An operation depends on the cell it is addressed to, and touches no other. -/
structure Local (step : Step K V O R) : Prop where
  frame : ∀ k o t k', k' ≠ k → (step k o t).2 k' = t k'
  reply : ∀ k o t u, t k = u k → (step k o t).1 = (step k o u).1
  cell : ∀ k o t u, t k = u k → (step k o t).2 k = (step k o u).2 k

variable (step : Step K V O R)

theorem exec_append (t : K → V) (es fs : List (K × O)) : exec step t (es ++ fs) = exec step (exec step t es) fs := by
  induction es generalizing t with
  | nil => rfl
  | cons e es ih => exact ih _

theorem exec_snoc (t : K → V) (es : List (K × O)) (e : K × O) :
    exec step t (es ++ [e]) = (step e.1 e.2 (exec step t es)).2 := exec_append step t es [e]

variable [DecidableEq K]

theorem opsOf_append (k : K) (es fs : List (K × O)) : opsOf k (es ++ fs) = opsOf k es ++ opsOf k fs := by
  induction es with
  | nil => rfl
  | cons e es ih =>
    simp only [List.cons_append, opsOf, ih]
    split <;> rfl

theorem opsOf_snoc_same (k : K) (es : List (K × O)) (o : O) : opsOf k (es ++ [(k, o)]) = opsOf k es ++ [o] := by
  rw [opsOf_append, opsOf, if_pos rfl, opsOf]

theorem opsOf_snoc_other {k : K} {e : K × O} (h : e.1 ≠ k) (es : List (K × O)) : opsOf k (es ++ [e]) = opsOf k es := by
  rw [opsOf_append, opsOf, if_neg h, opsOf, List.append_nil]

variable {step}

/-- Two tables that agree on a cell agree on it after the operations addressed to it,
    whatever else the first run addresses elsewhere. -/
theorem exec_filter_of_eq (h : Local step) (k : K) (es : List (K × O)) (t u : K → V) (htu : t k = u k) :
    exec step t es k = exec step u (es.filter fun e => e.1 = k) k := by
  induction es generalizing t u with
  | nil => exact htu
  | cons e es ih =>
    by_cases hk : e.1 = k
    · rw [List.filter_cons_of_pos (by simpa using hk)]
      refine ih _ _ ?_
      subst hk
      exact h.cell e.1 e.2 t u htu
    · rw [List.filter_cons_of_neg (by simpa using hk)]
      refine ih _ _ ?_
      exact (h.frame e.1 e.2 t k (Ne.symm hk)).trans htu

/-- A cell after a run is what its own operations made of it. -/
theorem exec_filter (h : Local step) (k : K) (es : List (K × O)) (t : K → V) :
    exec step t es k = exec step t (es.filter fun e => e.1 = k) k :=
  exec_filter_of_eq h k es t t rfl

/-- What was addressed to other cells does not show in a reply. -/
theorem reply_filter (h : Local step) (k : K) (o : O) (es : List (K × O)) (t : K → V) :
    (step k o (exec step t es)).1 = (step k o (exec step t (es.filter fun e => e.1 = k))).1 :=
  h.reply k o _ _ (exec_filter h k es t)

/-- Where every operation on a cell is matched by `next`, every run is matched by `next`
    over the operations addressed to the cell. -/
theorem exec_simulates (h : Local step) (rel : V → A → Prop) (next : A → O → A) (k : K)
    (hnext : ∀ o t a, rel (t k) a → rel ((step k o t).2 k) (next a o)) (es : List (K × O)) :
    ∀ t a, rel (t k) a → rel (exec step t es k) ((opsOf k es).foldl next a) := by
  induction es with
  | nil => intro t a hr; exact hr
  | cons e es ih =>
    intro t a hr
    by_cases hk : e.1 = k
    · subst hk
      simp only [exec, opsOf, if_true, List.foldl_cons]
      exact ih _ _ (hnext e.2 t a hr)
    · simp only [exec, opsOf, hk, if_false]
      refine ih _ _ ?_
      rw [h.frame e.1 e.2 t k (Ne.symm hk)]
      exact hr

end HardwareMonitor.Lib.KeyedMachine
