/-
  HardwareMonitor.Lib.Resumable — programs that fill a store which only grows at its end,
  and that can be run again after an exception.

  Such a program, left anywhere and run again, does the rest: it ends as if it had never
  been left (`Resumes`). Looking something up and adding it when it is not there is one
  (`Resumes.findOrAdd`), and one after another they are one (`Resumes.bind`): what the
  first has left and what the second has left are prefixes of one store, so one of them
  is a prefix of the other. Any number of restarts comes to the same (`Resumes.restarts`).
-/

import Mathlib.Logic.Relation
import HardwareMonitor.Lib.Interaction

namespace HardwareMonitor.Lib.Resumable

open HardwareMonitor.Lib.Interaction

variable {P Call ν α β : Type} {Answer : Call → Type} (sys : System P Call Answer (List ν)) (p : P)

structure Resumes (x : Prog Call Answer α) : Prop where
  grows : ∀ {s a u}, alone sys p x s = some (a, u) → s <+: u
  resumed : ∀ {s a u t}, alone sys p x s = some (a, u) → s <+: t → t <+: u → alone sys p x t = some (a, u)
  repeated : ∀ {s a u t}, alone sys p x s = some (a, u) → u <+: t → alone sys p x t = some (a, t)
  left : ∀ {s a u t}, alone sys p x s = some (a, u) → Crashes sys p x s t → s <+: t ∧ t <+: u

variable {sys p} {x : Prog Call Answer α} {s u : List ν} {a : α}

theorem Resumes.done (a : α) : Resumes sys p (.done a : Prog Call Answer α) where
  grows h := by
    obtain ⟨-, rfl⟩ := Prod.mk.inj (Option.some.inj h)
    exact List.prefix_refl _
  resumed h hst htu := by
    obtain ⟨rfl, rfl⟩ := Prod.mk.inj (Option.some.inj h)
    rw [htu.eq_of_length_le hst.length_le]
    rfl
  repeated h _ := by
    obtain ⟨rfl, -⟩ := Prod.mk.inj (Option.some.inj h)
    rfl
  left _ hcrash := by
    cases hcrash with
    | here h => cases h

theorem Resumes.bind {f : α → Prog Call Answer β} (hx : Resumes sys p x) (hf : ∀ a, Resumes sys p (f a)) :
    Resumes sys p (x >>= f) := by
  have hsplit : ∀ {s b u}, alone sys p (x >>= f) s = some (b, u) →
      ∃ a m, alone sys p x s = some (a, m) ∧ alone sys p (f a) m = some (b, u) := by
    intro s b u h
    rw [alone_bind, Option.bind_eq_some_iff] at h
    obtain ⟨⟨a, m⟩, hfirst, hsecond⟩ := h
    exact ⟨a, m, hfirst, hsecond⟩
  have hjoin : ∀ {s a m r}, alone sys p x s = some (a, m) → alone sys p (f a) m = r → alone sys p (x >>= f) s = r := by
    intro s a m r hfirst hsecond
    rw [alone_bind, hfirst]
    exact hsecond
  constructor
  · intro s b u h
    obtain ⟨a, m, hfirst, hsecond⟩ := hsplit h
    exact (hx.grows hfirst).trans ((hf a).grows hsecond)
  · intro s b u t h hst htu
    obtain ⟨a, m, hfirst, hsecond⟩ := hsplit h
    -- the first program was left, or the second
    rcases List.prefix_or_prefix_of_prefix htu ((hf a).grows hsecond) with htm | hmt
    · exact hjoin (hx.resumed hfirst hst htm) hsecond
    · exact hjoin (hx.repeated hfirst hmt) ((hf a).resumed hsecond hmt htu)
  · intro s b u t h hut
    obtain ⟨a, m, hfirst, hsecond⟩ := hsplit h
    exact hjoin (hx.repeated hfirst (((hf a).grows hsecond).trans hut)) ((hf a).repeated hsecond hut)
  · intro s b u t h hcrash
    obtain ⟨a, m, hfirst, hsecond⟩ := hsplit h
    rcases crashes_bind hcrash with hcrash | hcrash
    · obtain ⟨hst, htm⟩ := hx.left hfirst hcrash
      exact ⟨hst, htm.trans ((hf a).grows hsecond)⟩
    · obtain ⟨a', m', hfirst', hcrash⟩ := hcrash
      obtain ⟨rfl, rfl⟩ := Prod.mk.inj (Option.some.inj (hfirst.symm.trans hfirst'))
      obtain ⟨hmt, htu⟩ := (hf a).left hsecond hcrash
      exact ⟨(hx.grows hfirst).trans hmt, htu⟩

/-- Something is found, and stays found; or it is added, and then it is found. -/
theorem Resumes.findOrAdd (find : List ν → Option α) (node : ν)
    (hstays : ∀ {s t a}, s <+: t → find s = some a → find t = some a)
    (hfound : ∀ {s a}, find s = some a → alone sys p x s = some (a, s) ∧ ∀ t, Crashes sys p x s t → t = s)
    (hadded : ∀ {s}, find s = none → (∀ a u, alone sys p x s = some (a, u) → u = s ++ [node] ∧ find u = some a) ∧
      ∀ t, Crashes sys p x s t → t = s ∨ t = s ++ [node]) : Resumes sys p x := by
  -- where the program ends, there is what it returns
  have hends : ∀ {s a u}, alone sys p x s = some (a, u) → s <+: u ∧ find u = some a := by
    intro s a u h
    cases hfind : find s with
    | some b =>
      obtain ⟨rfl, rfl⟩ := Prod.mk.inj (Option.some.inj ((hfound hfind).1.symm.trans h))
      exact ⟨List.prefix_refl _, hfind⟩
    | none =>
      obtain ⟨rfl, hu⟩ := (hadded hfind).1 a u h
      exact ⟨List.prefix_append _ _, hu⟩
  have hbetween : ∀ {s a u t}, alone sys p x s = some (a, u) → s <+: t → t <+: u → t = s ∨ t = u := by
    intro s a u t h hst htu
    cases hfind : find s with
    | some b =>
      obtain ⟨rfl, rfl⟩ := Prod.mk.inj (Option.some.inj ((hfound hfind).1.symm.trans h))
      exact .inl (htu.eq_of_length_le hst.length_le)
    | none =>
      obtain ⟨rfl, -⟩ := (hadded hfind).1 a u h
      rcases List.prefix_concat_iff.mp htu with rfl | hts
      · exact .inr rfl
      · exact .inl (hts.eq_of_length_le hst.length_le)
  refine ⟨fun h => (hends h).1, fun h hst htu => ?_, fun h hut => ?_, fun h hcrash => ?_⟩
  · rcases hbetween h hst htu with rfl | rfl
    · exact h
    · exact (hfound (hends h).2).1
  · exact (hfound (hstays hut (hends h).2)).1
  · rename_i s a u t
    cases hfind : find s with
    | some b =>
      obtain rfl := (hfound hfind).2 t hcrash
      exact ⟨List.prefix_refl _, (hends h).1⟩
    | none =>
      obtain ⟨rfl, -⟩ := (hadded hfind).1 a u h
      rcases (hadded hfind).2 t hcrash with rfl | rfl
      · exact ⟨List.prefix_refl _, List.prefix_append _ _⟩
      · exact ⟨List.prefix_append _ _, List.prefix_refl _⟩

/-- After any number of restarts that were left, the program ends as it would have ended at
    once. -/
theorem Resumes.restarts (hx : Resumes sys p x) (h : alone sys p x s = some (a, u)) {t : List ν}
    (ht : Relation.ReflTransGen (Crashes sys p x) s t) : s <+: t ∧ t <+: u ∧ alone sys p x t = some (a, u) := by
  induction ht with
  | refl => exact ⟨List.prefix_refl _, hx.grows h, h⟩
  | tail _ hcrash ih =>
    obtain ⟨hst, -, halone⟩ := ih
    obtain ⟨htt', ht'u⟩ := hx.left halone hcrash
    exact ⟨hst.trans htt', ht'u, hx.resumed halone htt' ht'u⟩

end HardwareMonitor.Lib.Resumable
