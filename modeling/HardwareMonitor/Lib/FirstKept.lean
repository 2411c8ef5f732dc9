/-
  HardwareMonitor.Lib.FirstKept — a map filled with `insert`, which keeps what the map has
  for a key: of several items with one key the first stays.

  After a batch of insertions the map answers each key with the first item of the batch
  that has it (`lookup_insertAll_nil`), and holds an item exactly if it is that one
  (`mem_insertAll_nil`).
-/

import Mathlib.Data.List.Basic

namespace HardwareMonitor.Lib.FirstKept

variable {α κ : Type} [DecidableEq κ] (key : α → κ)

/-- The item the map has for a key. -/
def lookup (store : List α) (k : κ) : Option α := store.find? fun y => key y = k

def insertNew (store : List α) (x : α) : List α := if (lookup key store (key x)).isSome then store else store ++ [x]

def insertAll (xs store : List α) : List α := xs.foldl (insertNew key) store

theorem lookup_insertNew (store : List α) (x : α) (k : κ) :
    lookup key (insertNew key store x) k = (lookup key store k).or (if key x = k then some x else none) := by
  have happend : lookup key (store ++ [x]) k = (lookup key store k).or (if key x = k then some x else none) := by
    rw [lookup, List.find?_append, lookup]
    by_cases hx : key x = k <;> simp [hx]
  rw [insertNew]
  split
  · rename_i hfound
    obtain ⟨y, hy⟩ := Option.isSome_iff_exists.mp hfound
    by_cases hx : key x = k
    · rw [← hx, hy]
      rfl
    · rw [if_neg hx, Option.or_none]
  · exact happend

theorem lookup_insertAll (xs store : List α) (k : κ) :
    lookup key (insertAll key xs store) k = (lookup key store k).or (lookup key xs k) := by
  induction xs generalizing store with
  | nil => rw [insertAll, List.foldl_nil, lookup, lookup, List.find?_nil, Option.or_none]
  | cons x xs ih =>
    have hcons : lookup key (x :: xs) k = (if key x = k then some x else none).or (lookup key xs k) := by
      rw [lookup, List.find?_cons, lookup]
      by_cases hx : key x = k <;> simp [hx]
    show lookup key (insertAll key xs (insertNew key store x)) k = _
    rw [ih, lookup_insertNew, hcons, Option.or_assoc]

theorem lookup_insertAll_nil (xs : List α) (k : κ) : lookup key (insertAll key xs []) k = lookup key xs k := by
  rw [lookup_insertAll]
  rfl

theorem key_of_lookup {store : List α} {k : κ} {y : α} (h : lookup key store k = some y) : key y = k := by
  simpa using List.find?_some h

theorem mem_of_lookup {store : List α} {k : κ} {y : α} (h : lookup key store k = some y) : y ∈ store :=
  List.mem_of_find?_eq_some h

/-- What the map holds it answers with. -/
theorem lookup_of_mem_insertNew {store : List α} (h : ∀ y ∈ store, lookup key store (key y) = some y) (x : α) :
    ∀ y ∈ insertNew key store x, lookup key (insertNew key store x) (key y) = some y := by
  intro y hy
  rw [lookup_insertNew]
  rw [insertNew] at hy
  split at hy
  · rw [h y hy]
    rfl
  · rename_i hnew
    rcases List.mem_append.mp hy with hy | hy
    · rw [h y hy]
      rfl
    · rw [List.mem_singleton.mp hy, Option.not_isSome_iff_eq_none.mp hnew, if_pos rfl]
      rfl

theorem lookup_of_mem_insertAll (xs : List α) {store : List α} (h : ∀ y ∈ store, lookup key store (key y) = some y) :
    ∀ y ∈ insertAll key xs store, lookup key (insertAll key xs store) (key y) = some y := by
  induction xs generalizing store with
  | nil => exact h
  | cons x xs ih => exact ih (lookup_of_mem_insertNew key h x)

theorem mem_insertAll_nil (xs : List α) (x : α) : x ∈ insertAll key xs [] ↔ lookup key xs (key x) = some x := by
  rw [← lookup_insertAll_nil]
  constructor
  · exact fun hx => lookup_of_mem_insertAll key xs (List.forall_mem_nil _) x hx
  · exact mem_of_lookup key

end HardwareMonitor.Lib.FirstKept
