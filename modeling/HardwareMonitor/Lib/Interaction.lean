/-
  HardwareMonitor.Lib.Interaction — programs that run side by side on a shared state,
  one call at a time.

  A program (`Prog`) is a tree: it returns, throws, or makes a call and goes on with the
  answer. A `System` says how a call of process `p` is served; between two calls of `p`
  anything the others do may happen. What `p` may count on meanwhile is its `rely`, and
  `Upholds` is the rely-guarantee judgement: from here on, whatever the others do within
  `rely`, each call of `p` keeps the invariant and every other process's rely, is made
  only where it may be (`ask`), and the program ends in a state with `Q`.

  The rules compose (`Upholds.bind`, `Upholds.forM`), and a world in which every process
  upholds its part stays one under every move (`Sound.serve`, `Sound.fail`,
  `Sound.start`, `Sound.outside`).
-/

namespace HardwareMonitor.Lib.Interaction

/-! ## Programs -/

inductive Prog (Call : Type) (Answer : Call → Type) (α : Type) where
  | done (a : α)
  | throw
  | call (c : Call) (next : Answer c → Prog Call Answer α)

variable {P Call σ α β : Type} {Answer : Call → Type}

def Prog.bind : Prog Call Answer α → (α → Prog Call Answer β) → Prog Call Answer β
  | .done a, f => f a
  | .throw, _ => .throw
  | .call c next, f => .call c fun a => (next a).bind f

instance : Monad (Prog Call Answer) where
  pure := Prog.done
  bind := Prog.bind

/-- The program of one call. -/
def ask (c : Call) : Prog Call Answer (Answer c) := .call c .done

@[simp] theorem pure_eq (a : α) : (pure a : Prog Call Answer α) = .done a := rfl
@[simp] theorem done_bind (a : α) (f : α → Prog Call Answer β) : Prog.done a >>= f = f a := rfl
@[simp] theorem throw_bind (f : α → Prog Call Answer β) : (Prog.throw : Prog Call Answer α) >>= f = .throw := rfl
@[simp] theorem call_bind (c : Call) (next : Answer c → Prog Call Answer α) (f : α → Prog Call Answer β) :
    Prog.call c next >>= f = .call c fun a => next a >>= f := rfl

/-! ## Systems -/

/-- What becomes of a call. -/
inductive Served (A σ : Type) where
  /-- Not yet: the process waits. -/
  | blocks
  /-- The call throws. -/
  | fails (s : σ)
  | answers (a : A) (s : σ)

/-- The state a call leaves, if it is not left waiting. -/
def Served.After {A σ : Type} (R : σ → Prop) : Served A σ → Prop
  | .blocks => True
  | .fails s => R s
  | .answers _ s => R s

structure System (P Call : Type) (Answer : Call → Type) (σ : Type) where
  serve : P → (c : Call) → σ → Served (Answer c) σ
  /-- A call that may throw although nothing is wrong with it, as a remote one may. -/
  fallible : Call → Bool
  /-- An exception has left the program of a process. -/
  abort : P → σ → σ

/-- The shared state, and what is left of each process's program. -/
structure World (P Call : Type) (Answer : Call → Type) (σ α : Type) where
  shared : σ
  running : P → Option (Prog Call Answer α)

namespace World

variable [DecidableEq P] (sys : System P Call Answer σ)

/-- `p` goes on with `x`, or has ended. -/
def proceed (w : World P Call Answer σ α) (p : P) (s : σ) (x : Option (Prog Call Answer α)) : World P Call Answer σ α where
  shared := s
  running q := if q = p then x else w.running q

/-- The next call of `p` is served. -/
def serve (p : P) (w : World P Call Answer σ α) : World P Call Answer σ α :=
  match w.running p with
  | some (.call c next) =>
    match sys.serve p c w.shared with
    | .blocks => w
    | .fails s => w.proceed p (sys.abort p s) none
    | .answers a s => w.proceed p s (some (next a))
  | some .throw => w.proceed p (sys.abort p w.shared) none
  | _ => w

/-- The next call of `p` throws: before it gets anywhere, or after it has been served and
    its answer is lost. -/
def fail (p : P) (served : Bool) (w : World P Call Answer σ α) : World P Call Answer σ α :=
  match w.running p with
  | some (.call c _) =>
    if !sys.fallible c then w
    else if !served then w.proceed p (sys.abort p w.shared) none
    else
      match sys.serve p c w.shared with
      | .blocks => w
      | .fails s => w.proceed p (sys.abort p s) none
      | .answers _ s => w.proceed p (sys.abort p s) none
  | _ => w

/-- `p` has no program left to run. -/
def idle (w : World P Call Answer σ α) (p : P) : Bool :=
  match w.running p with
  | none => true
  | some (.done _) => true
  | _ => false

/-- `p`, if it is idle, runs `x`. -/
def start (p : P) (x : Prog Call Answer α) (w : World P Call Answer σ α) : World P Call Answer σ α :=
  if w.idle p then w.proceed p w.shared (some x) else w

/-- Something other than a call changes the state. -/
def outside (f : σ → σ) (w : World P Call Answer σ α) : World P Call Answer σ α := { w with shared := f w.shared }

end World

/-! ## Programs alone -/

/-- What `x` returns and leaves behind when nobody else is about; nothing if a call is not
    answered, or the program throws. -/
def alone (sys : System P Call Answer σ) (p : P) : Prog Call Answer α → σ → Option (α × σ)
  | .done a, s => some (a, s)
  | .throw, _ => none
  | .call c next, s =>
    match sys.serve p c s with
    | .answers a t => alone sys p (next a) t
    | _ => none

/-- The calls `x` makes when nobody else is about. -/
def asked (sys : System P Call Answer σ) (p : P) : Prog Call Answer α → σ → List Call
  | .done _, _ => []
  | .throw, _ => []
  | .call c next, s => c ::
    match sys.serve p c s with
    | .answers a t => asked sys p (next a) t
    | _ => []

theorem alone_ask {sys : System P Call Answer σ} {p : P} {c : Call} {s t : σ} {a : Answer c} (h : sys.serve p c s = .answers a t) :
    alone sys p (ask c) s = some (a, t) := by
  rw [ask, alone, h]
  rfl

theorem alone_bind (sys : System P Call Answer σ) (p : P) (x : Prog Call Answer α) (f : α → Prog Call Answer β) (s : σ) :
    alone sys p (x >>= f) s = (alone sys p x s).bind fun r => alone sys p (f r.1) r.2 := by
  induction x generalizing s with
  | done a => rfl
  | throw => rfl
  | call c next ih =>
    rw [call_bind, alone, alone]
    cases sys.serve p c s with
    | blocks => rfl
    | fails t => rfl
    | answers a t => exact ih a t

/-! ## Rely and guarantee -/

/-- What the processes agree on. -/
structure Accord (P Call σ : Type) where
  inv : σ → Prop
  /-- What `p` counts on between its calls. -/
  rely : P → σ → σ → Prop
  refl : ∀ p s, rely p s s
  trans : ∀ p {s t u}, rely p s t → rely p t u → rely p s u
  /-- Where `p` may make a call. -/
  ask : P → Call → σ → Prop
  /-- Where an exception may leave `p`'s program. -/
  quit : P → σ → Prop
  /-- What holds of `p` while it runs no program. -/
  idle : P → σ → Prop
  idle_stable : ∀ p {s t}, rely p s t → inv t → idle p s → idle p t

namespace Accord

variable (A : Accord P Call σ)

/-- A step of `p` that the others can live with. -/
structure Keeps (p : P) (s t : σ) : Prop where
  inv : A.inv t
  others : ∀ q, q ≠ p → A.rely q s t

end Accord

variable (sys : System P Call Answer σ) (A : Accord P Call σ)

/-- From `s` on, `x` does its part and ends with `Q`, whatever the others do. -/
def Upholds (p : P) (Q : α → σ → Prop) : Prog Call Answer α → σ → Prop
  | .done a, s => ∀ t, A.inv t → A.rely p s t → Q a t
  | .throw, s => ∀ t, A.inv t → A.rely p s t → A.quit p t
  | .call c next, s => ∀ t, A.inv t → A.rely p s t → A.ask p c t ∧ (sys.fallible c = true → A.quit p t) ∧
      match sys.serve p c t with
      | .blocks => True
      | .fails u => A.Keeps p t u ∧ A.quit p u
      | .answers a u => A.Keeps p t u ∧ (sys.fallible c = true → A.quit p u) ∧ Upholds p Q (next a) u

variable {sys A} {p : P} {Q : α → σ → Prop} {R : β → σ → Prop} {s t : σ}

/-- What the others may do does not break it. -/
theorem Upholds.stable {x : Prog Call Answer α} (h : Upholds sys A p Q x s) (hr : A.rely p s t) : Upholds sys A p Q x t := by
  cases x with
  | done a => exact fun u hu hru => h u hu (A.trans p hr hru)
  | throw => exact fun u hu hru => h u hu (A.trans p hr hru)
  | call c next => exact fun u hu hru => h u hu (A.trans p hr hru)

/-- It is enough to look at the states the others may lead to. -/
theorem Upholds.of_later {x : Prog Call Answer α} (h : ∀ t, A.inv t → A.rely p s t → Upholds sys A p Q x t) :
    Upholds sys A p Q x s := by
  cases x with
  | done a => exact fun t ht hr => h t ht hr t ht (A.refl p t)
  | throw => exact fun t ht hr => h t ht hr t ht (A.refl p t)
  | call c next => exact fun t ht hr => h t ht hr t ht (A.refl p t)

theorem Upholds.done {a : α} (h : ∀ t, A.inv t → A.rely p s t → Q a t) :
    Upholds sys A p Q (.done a : Prog Call Answer α) s := h

theorem Upholds.weaken {Q' : α → σ → Prop} {x : Prog Call Answer α} (h : Upholds sys A p Q x s)
    (hQ : ∀ a t, A.inv t → Q a t → Q' a t) : Upholds sys A p Q' x s := by
  induction x generalizing s with
  | done a => exact fun t ht hr => hQ a t ht (h t ht hr)
  | throw => exact h
  | call c next ih =>
    intro t ht hr
    obtain ⟨hask, hquit, hserve⟩ := h t ht hr
    refine ⟨hask, hquit, ?_⟩
    cases hs : sys.serve p c t with
    | blocks => trivial
    | fails u =>
      rw [hs] at hserve
      exact hserve
    | answers a u =>
      rw [hs] at hserve
      exact ⟨hserve.1, hserve.2.1, ih a hserve.2.2⟩

/-- What neither the others nor a step of `p` can break still holds at the end. -/
theorem Upholds.frame {R : σ → Prop} {x : Prog Call Answer α} (h : Upholds sys A p Q x s)
    (hrely : ∀ t u, A.rely p t u → R t → R u) (hkeeps : ∀ t u, A.Keeps p t u → R t → R u) (hs : R s) :
    Upholds sys A p (fun a t => Q a t ∧ R t) x s := by
  induction x generalizing s with
  | done a => exact fun t ht hr => ⟨h t ht hr, hrely s t hr hs⟩
  | throw => exact h
  | call c next ih =>
    intro t ht hr
    obtain ⟨hask, hquit, hserve⟩ := h t ht hr
    refine ⟨hask, hquit, ?_⟩
    cases hsv : sys.serve p c t with
    | blocks => trivial
    | fails u =>
      rw [hsv] at hserve
      exact hserve
    | answers a u =>
      rw [hsv] at hserve
      exact ⟨hserve.1, hserve.2.1, ih a hserve.2.2 (hkeeps t u hserve.1 (hrely s t hr hs))⟩

/-- One program after another. -/
theorem Upholds.bind {x : Prog Call Answer α} {f : α → Prog Call Answer β} (hx : Upholds sys A p Q x s)
    (hf : ∀ a t, A.inv t → Q a t → Upholds sys A p R (f a) t) : Upholds sys A p R (x >>= f) s := by
  induction x generalizing s with
  | done a => exact Upholds.of_later fun t ht hr => hf a t ht (hx t ht hr)
  | throw => exact hx
  | call c next ih =>
    intro t ht hr
    obtain ⟨hask, hquit, hserve⟩ := hx t ht hr
    refine ⟨hask, hquit, ?_⟩
    cases hs : sys.serve p c t with
    | blocks => trivial
    | fails u =>
      rw [hs] at hserve
      exact hserve
    | answers a u =>
      rw [hs] at hserve
      exact ⟨hserve.1, hserve.2.1, ih a hserve.2.2⟩

/-- One call. -/
theorem Upholds.ask {c : Call} {Q : Answer c → σ → Prop}
    (h : ∀ t, A.inv t → A.rely p s t → A.ask p c t ∧ (sys.fallible c = true → A.quit p t) ∧
      match sys.serve p c t with
      | .blocks => True
      | .fails u => A.Keeps p t u ∧ A.quit p u
      | .answers a u => A.Keeps p t u ∧ (sys.fallible c = true → A.quit p u) ∧ ∀ v, A.inv v → A.rely p u v → Q a v) :
    Upholds sys A p Q (ask c : Prog Call Answer (Answer c)) s := by
  intro t ht hr
  obtain ⟨hask, hquit, hserve⟩ := h t ht hr
  refine ⟨hask, hquit, ?_⟩
  cases hs : sys.serve p c t with
  | blocks => trivial
  | fails u =>
    rw [hs] at hserve
    exact hserve
  | answers a u =>
    rw [hs] at hserve
    exact hserve

/-- A loop, with an invariant of the elements still to come. -/
theorem Upholds.forM {γ : Type} {f : γ → Prog Call Answer PUnit} {I : List γ → σ → Prop}
    (hI : ∀ xs {s t}, A.inv t → A.rely p s t → I xs s → I xs t)
    (h : ∀ x xs s, A.inv s → I (x :: xs) s → Upholds sys A p (fun _ => I xs) (f x) s) (xs : List γ) (hs : I xs s) :
    Upholds sys A p (fun _ => I []) (xs.forM f) s := by
  induction xs generalizing s with
  | nil => exact Upholds.done fun t ht hr => hI [] ht hr hs
  | cons x xs ih =>
    refine Upholds.of_later fun t ht hr => ?_
    show Upholds sys A p (fun _ => I []) (f x >>= fun _ => xs.forM f) t
    exact Upholds.bind (h x xs t ht (hI _ ht hr hs)) fun _ u hu hxs => ih hxs

/-! ## Worlds -/

variable (sys A)

/-- `p` does its part from here on. -/
def Part (w : World P Call Answer σ α) (p : P) : Prop :=
  match w.running p with
  | none => A.idle p w.shared
  | some x => Upholds sys A p (fun _ => A.idle p) x w.shared

/-- The invariant holds and every process does its part. -/
structure Sound (w : World P Call Answer σ α) : Prop where
  inv : A.inv w.shared
  part : ∀ p, Part sys A w p

/-- An exception may leave a program only where it is harmless to the others. -/
def QuitSafe : Prop := ∀ p s, A.inv s → A.quit p s → A.Keeps p s (sys.abort p s) ∧ A.idle p (sys.abort p s)

variable {sys A} {w w' : World P Call Answer σ α}

theorem Accord.keeps_refl (h : A.inv s) (p : P) : A.Keeps p s s := ⟨h, fun q _ => A.refl q s⟩

theorem Part.of_idle (hrun : w.running p = none) (h : A.idle p w.shared) : Part sys A w p := by
  unfold Part
  rw [hrun]
  exact h

theorem Part.of_running {x : Prog Call Answer α} (hrun : w.running p = some x)
    (h : Upholds sys A p (fun _ => A.idle p) x w.shared) : Part sys A w p := by
  unfold Part
  rw [hrun]
  exact h

theorem Part.upholds (h : Part sys A w p) {x : Prog Call Answer α} (hrun : w.running p = some x) :
    Upholds sys A p (fun _ => A.idle p) x w.shared := by
  unfold Part at h
  rwa [hrun] at h

/-- The others' steps leave `p` its part to do. -/
theorem Part.stable (h : Part sys A w p) (hrun : w'.running p = w.running p) (hr : A.rely p w.shared w'.shared)
    (hi : A.inv w'.shared) : Part sys A w' p := by
  unfold Part at h
  cases hx : w.running p with
  | none =>
    rw [hx] at h
    exact Part.of_idle (hrun.trans hx) (A.idle_stable p hr hi h)
  | some x =>
    rw [hx] at h
    exact Part.of_running (hrun.trans hx) (h.stable hr)

/-- An idle process is in an idle state. -/
theorem Part.idle (h : Part sys A w p) (hi : A.inv w.shared) (hidle : w.idle p = true) : A.idle p w.shared := by
  unfold World.idle at hidle
  cases hx : w.running p with
  | none =>
    unfold Part at h
    rwa [hx] at h
  | some x =>
    rw [hx] at hidle
    cases x with
    | done a => exact h.upholds hx _ hi (A.refl p _)
    | throw => cases hidle
    | call c next => cases hidle

/-- What a process is about to ask, it may ask. -/
theorem Part.asks (h : Part sys A w p) (hi : A.inv w.shared) {c : Call} {next : Answer c → Prog Call Answer α}
    (hx : w.running p = some (.call c next)) : A.ask p c w.shared :=
  (h.upholds hx _ hi (A.refl p _)).1

variable [DecidableEq P]

theorem proceed_same (w : World P Call Answer σ α) (p : P) (s : σ) (x : Option (Prog Call Answer α)) :
    (w.proceed p s x).running p = x := if_pos rfl

/-- An exception leaves `p`'s program in the state `t`. -/
theorem Part.quit (hsafe : QuitSafe sys A) (hk : A.Keeps p w.shared t) (hquit : A.quit p t) :
    A.Keeps p w.shared (sys.abort p t) ∧ Part sys A (w.proceed p (sys.abort p t) none) p := by
  obtain ⟨hkeeps, hidle⟩ := hsafe p t hk.inv hquit
  refine ⟨⟨hkeeps.inv, fun q hq => A.trans q (hk.others q hq) (hkeeps.others q hq)⟩, ?_⟩
  exact Part.of_idle (proceed_same w p _ none) hidle

theorem Part.serve (h : Part sys A w p) (hsafe : QuitSafe sys A) (hi : A.inv w.shared) :
    A.Keeps p w.shared (w.serve sys p).shared ∧ Part sys A (w.serve sys p) p := by
  have hstay : A.Keeps p w.shared w.shared ∧ Part sys A w p := ⟨A.keeps_refl hi p, h⟩
  unfold World.serve
  cases hx : w.running p with
  | none => exact hstay
  | some x =>
    have hp := h.upholds hx
    cases x with
    | done a => exact hstay
    | throw => exact Part.quit hsafe (A.keeps_refl hi p) (hp _ hi (A.refl p _))
    | call c next =>
      obtain ⟨-, -, hserve⟩ := hp _ hi (A.refl p _)
      dsimp only
      cases hs : sys.serve p c w.shared with
      | blocks => exact hstay
      | fails u =>
        rw [hs] at hserve
        exact Part.quit hsafe hserve.1 hserve.2
      | answers a u =>
        rw [hs] at hserve
        exact ⟨hserve.1, Part.of_running (proceed_same w p u (some (next a))) hserve.2.2⟩

theorem Part.fail (h : Part sys A w p) (hsafe : QuitSafe sys A) (hi : A.inv w.shared) (served : Bool) :
    A.Keeps p w.shared (w.fail sys p served).shared ∧ Part sys A (w.fail sys p served) p := by
  have hstay : A.Keeps p w.shared w.shared ∧ Part sys A w p := ⟨A.keeps_refl hi p, h⟩
  unfold World.fail
  cases hx : w.running p with
  | none => exact hstay
  | some x =>
    have hp := h.upholds hx
    cases x with
    | done a => exact hstay
    | throw => exact hstay
    | call c next =>
      obtain ⟨-, hquit, hserve⟩ := hp _ hi (A.refl p _)
      dsimp only
      cases hf : sys.fallible c with
      | false => exact hstay
      | true =>
        cases served with
        | false => exact Part.quit hsafe (A.keeps_refl hi p) (hquit hf)
        | true =>
          simp only [Bool.not_true, Bool.false_eq_true, if_false]
          cases hs : sys.serve p c w.shared with
          | blocks => exact hstay
          | fails u =>
            rw [hs] at hserve
            exact Part.quit hsafe hserve.1 hserve.2
          | answers a u =>
            rw [hs] at hserve
            exact Part.quit hsafe hserve.1 (hserve.2.1 hf)

theorem Part.start (h : Part sys A w p) (hi : A.inv w.shared) (x : Prog Call Answer α)
    (hx : A.idle p w.shared → Upholds sys A p (fun _ => A.idle p) x w.shared) :
    A.Keeps p w.shared (w.start p x).shared ∧ Part sys A (w.start p x) p := by
  unfold World.start
  cases hidle : w.idle p with
  | false => exact ⟨A.keeps_refl hi p, h⟩
  | true => exact ⟨A.keeps_refl hi p, Part.of_running (proceed_same w p _ (some x)) (hx (h.idle hi hidle))⟩

/-- What every call that is served keeps, and every exception, a move of `p` keeps. -/
theorem serve_preserves {R : σ → Prop} (habort : ∀ s, R s → R (sys.abort p s))
    (hserve : ∀ c next, w.running p = some (.call c next) → (sys.serve p c w.shared).After R)
    (h : R w.shared) : R (w.serve sys p).shared := by
  unfold World.serve
  cases hx : w.running p with
  | none => exact h
  | some x =>
    cases x with
    | done a => exact h
    | throw => exact habort _ h
    | call c next =>
      have hs := hserve c next hx
      dsimp only
      cases hsv : sys.serve p c w.shared with
      | blocks => exact h
      | fails u =>
        rw [hsv] at hs
        exact habort u hs
      | answers a u =>
        rw [hsv] at hs
        exact hs

theorem fail_preserves {R : σ → Prop} (habort : ∀ s, R s → R (sys.abort p s))
    (hserve : ∀ c next, w.running p = some (.call c next) → (sys.serve p c w.shared).After R)
    (h : R w.shared) (served : Bool) : R (w.fail sys p served).shared := by
  unfold World.fail
  cases hx : w.running p with
  | none => exact h
  | some x =>
    cases x with
    | done a => exact h
    | throw => exact h
    | call c next =>
      have hs := hserve c next hx
      dsimp only
      split
      · exact h
      split
      · exact habort _ h
      cases hsv : sys.serve p c w.shared with
      | blocks => exact h
      | fails u =>
        rw [hsv] at hs
        exact habort u hs
      | answers a u =>
        rw [hsv] at hs
        exact habort u hs

/-- No move of `p` touches the programs of the others. -/
theorem serve_other {q : P} (hq : q ≠ p) : (w.serve sys p).running q = w.running q := by
  unfold World.serve
  repeat' split
  all_goals first | rfl | exact if_neg hq

theorem fail_other {q : P} (hq : q ≠ p) (served : Bool) : (w.fail sys p served).running q = w.running q := by
  unfold World.fail
  repeat' split
  all_goals first | rfl | exact if_neg hq

theorem start_other {q : P} (hq : q ≠ p) (x : Prog Call Answer α) : (w.start p x).running q = w.running q := by
  unfold World.start
  split
  · exact if_neg hq
  · rfl

/-- A step of `p` that the others can live with, and `p` with them. -/
theorem Sound.of_part (h : Sound sys A w) (hrun : ∀ q, q ≠ p → w'.running q = w.running q)
    (hp : A.Keeps p w.shared w'.shared ∧ Part sys A w' p) : Sound sys A w' := by
  refine ⟨hp.1.inv, fun q => ?_⟩
  by_cases hq : q = p
  · rw [hq]
    exact hp.2
  · exact (h.part q).stable (hrun q hq) (hp.1.others q hq) hp.1.inv

theorem Sound.serve (h : Sound sys A w) (hsafe : QuitSafe sys A) (p : P) : Sound sys A (w.serve sys p) :=
  h.of_part (fun _ hq => serve_other hq) ((h.part p).serve hsafe h.inv)

theorem Sound.fail (h : Sound sys A w) (hsafe : QuitSafe sys A) (p : P) (served : Bool) :
    Sound sys A (w.fail sys p served) :=
  h.of_part (fun _ hq => fail_other hq served) ((h.part p).fail hsafe h.inv served)

theorem Sound.start (h : Sound sys A w) (p : P) (x : Prog Call Answer α)
    (hx : A.idle p w.shared → Upholds sys A p (fun _ => A.idle p) x w.shared) : Sound sys A (w.start p x) :=
  h.of_part (fun _ hq => start_other hq x) ((h.part p).start h.inv x hx)

omit [DecidableEq P] in
theorem Sound.outside (h : Sound sys A w) {f : σ → σ} (hinv : A.inv (f w.shared))
    (hr : ∀ p, A.rely p w.shared (f w.shared)) : Sound sys A (w.outside f) :=
  ⟨hinv, fun p => (h.part p).stable rfl (hr p) hinv⟩

/-! ## Exceptions -/

/-- From the state `s` an exception leaves the program of `p` in the state `u`. -/
inductive Throws (sys : System P Call Answer σ) (p : P) (s : σ) : Prog Call Answer α → σ → Prop where
  | throw : Throws sys p s .throw s
  /-- The call gets nowhere. -/
  | lost {c : Call} {next : Answer c → Prog Call Answer α} (hf : sys.fallible c = true) : Throws sys p s (.call c next) s
  | failed {c : Call} {next : Answer c → Prog Call Answer α} {u : σ} (h : sys.serve p c s = .fails u) :
      Throws sys p s (.call c next) u
  /-- The call is served, and its answer is lost. -/
  | unanswered {c : Call} {next : Answer c → Prog Call Answer α} {a : Answer c} {u : σ} (hf : sys.fallible c = true)
      (h : sys.serve p c s = .answers a u) : Throws sys p s (.call c next) u

/-- Run with nobody else about, `x` is left by an exception somewhere, in the state `u`. -/
inductive Crashes (sys : System P Call Answer σ) (p : P) : Prog Call Answer α → σ → σ → Prop where
  | here {x : Prog Call Answer α} {s u : σ} (h : Throws sys p s x u) : Crashes sys p x s u
  | later {c : Call} {next : Answer c → Prog Call Answer α} {a : Answer c} {s t u : σ} (hs : sys.serve p c s = .answers a t)
      (h : Crashes sys p (next a) t u) : Crashes sys p (.call c next) s u

omit [DecidableEq P] in
/-- The exception leaves the first program, or the second one after the first has returned. -/
theorem crashes_bind {u : σ} {x : Prog Call Answer α} {f : α → Prog Call Answer β} (h : Crashes sys p (x >>= f) s u) :
    Crashes sys p x s u ∨ ∃ a t, alone sys p x s = some (a, t) ∧ Crashes sys p (f a) t u := by
  induction x generalizing s with
  | done a => exact .inr ⟨a, s, rfl, h⟩
  | throw =>
    cases h with
    | here h =>
      cases h with
      | throw => exact .inl (.here .throw)
  | call c next ih =>
    rw [call_bind] at h
    cases h with
    | here h =>
      cases h with
      | lost hf => exact .inl (.here (.lost hf))
      | failed hs => exact .inl (.here (.failed hs))
      | unanswered hf hs => exact .inl (.here (.unanswered hf hs))
    | later hs h =>
      rcases ih _ h with h | h
      · exact .inl (.later hs h)
      · obtain ⟨b, t, halone, hcrash⟩ := h
        refine .inr ⟨b, t, ?_, hcrash⟩
        rw [alone, hs]
        exact halone

omit [DecidableEq P] in
theorem crashes_ask {c : Call} {u : σ} (h : Crashes sys p (ask c : Prog Call Answer (Answer c)) s u) :
    u = s ∨ sys.serve p c s = .fails u ∨ ∃ a, sys.serve p c s = .answers a u := by
  cases h with
  | here h =>
    cases h with
    | lost => exact .inl rfl
    | failed hs => exact .inr (.inl hs)
    | unanswered hf hs => exact .inr (.inr ⟨_, hs⟩)
  | later hs h =>
    cases h with
    | here h => cases h

omit [DecidableEq P] in
/-- A program that does its part is left where it may be left. -/
theorem Upholds.quits {u : σ} {x : Prog Call Answer α} (h : Upholds sys A p Q x s) (hi : A.inv s) (ht : Throws sys p s x u) :
    A.quit p u := by
  cases ht with
  | throw => exact h s hi (A.refl p s)
  | lost hf => exact (h s hi (A.refl p s)).2.1 hf
  | failed hs =>
    obtain ⟨-, -, hserve⟩ := h s hi (A.refl p s)
    rw [hs] at hserve
    exact hserve.2
  | unanswered hf hs =>
    obtain ⟨-, -, hserve⟩ := h s hi (A.refl p s)
    rw [hs] at hserve
    exact hserve.2.1 hf

/-- A program is gone only after an exception. -/
theorem serve_ends {x : Prog Call Answer α} (hrun : w.running p = some x) (hend : (w.serve sys p).running p = none) :
    ∃ u, Throws sys p w.shared x u ∧ (w.serve sys p).shared = sys.abort p u := by
  unfold World.serve at hend ⊢
  rw [hrun] at hend ⊢
  cases x with
  | done a => simp [hrun] at hend
  | throw => exact ⟨w.shared, .throw, rfl⟩
  | call c next =>
    dsimp only at hend ⊢
    cases hs : sys.serve p c w.shared with
    | blocks => simp [hs, hrun] at hend
    | fails u => exact ⟨u, .failed hs, rfl⟩
    | answers a u => simp [hs, World.proceed] at hend

theorem fail_ends {x : Prog Call Answer α} {served : Bool} (hrun : w.running p = some x)
    (hend : (w.fail sys p served).running p = none) :
    ∃ u, Throws sys p w.shared x u ∧ (w.fail sys p served).shared = sys.abort p u := by
  unfold World.fail at hend ⊢
  rw [hrun] at hend ⊢
  cases x with
  | done a => simp [hrun] at hend
  | throw => simp [hrun] at hend
  | call c next =>
    dsimp only at hend ⊢
    cases hf : sys.fallible c with
    | false => simp [hf, hrun] at hend
    | true =>
      cases served with
      | false => exact ⟨w.shared, .lost hf, rfl⟩
      | true =>
        simp only [hf, Bool.not_true, Bool.false_eq_true, if_false] at hend ⊢
        cases hs : sys.serve p c w.shared with
        | blocks => simp [hs, hrun] at hend
        | fails u => exact ⟨u, .failed hs, rfl⟩
        | answers a u => exact ⟨u, .unanswered hf hs, rfl⟩

theorem start_ends {q : P} {x : Prog Call Answer α} (hend : (w.start q x).running p = none) : w.running p = none := by
  unfold World.start World.proceed at hend
  split at hend
  · dsimp only at hend
    split at hend
    · cases hend
    · exact hend
  · exact hend

end HardwareMonitor.Lib.Interaction
