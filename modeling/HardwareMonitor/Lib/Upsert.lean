/-
  HardwareMonitor.Lib.Upsert — a list of keyed items that is only ever written by key: an
  item takes the place of the one with its key, or goes to the end. Nothing is removed.

  After a batch of writes the list holds the batch's items and what the batch left alone
  (`mem_upsertAll`), so everything in it is of the batch exactly if the batch has every
  key the list had (`all_written_iff`). A batch of new keys is appended as it is
  (`upsertAll_new`). Seen as a map, the list answers each key with its latest write
  (`find_upsertAll`), and lists the keys in order of first write (`keys_upsertAll_nil`).
-/

import Mathlib.Data.List.Induction
import Mathlib.Data.List.Nodup

namespace HardwareMonitor.Lib.Upsert

variable {α κ : Type} [DecidableEq κ] (key : α → κ)

def upsert (x : α) : List α → List α
  | [] => [x]
  | y :: ys => if key y = key x then x :: ys else y :: upsert x ys

def upsertAll (xs store : List α) : List α := xs.foldl (fun store x => upsert key x store) store

@[simp] theorem upsertAll_nil (store : List α) : upsertAll key [] store = store := rfl

theorem upsertAll_cons (x : α) (xs store : List α) :
    upsertAll key (x :: xs) store = upsertAll key xs (upsert key x store) := rfl

/-! ## One write -/

theorem upsert_new {x : α} {store : List α} (h : key x ∉ store.map key) : upsert key x store = store ++ [x] := by
  induction store with
  | nil => rfl
  | cons y ys ih =>
    rw [List.map_cons, List.mem_cons, not_or] at h
    rw [upsert, if_neg (Ne.symm h.1), ih h.2, List.cons_append]

/-- The keys of the list are in one order for good. -/
theorem keys_upsert (x : α) (store : List α) :
    (upsert key x store).map key = if key x ∈ store.map key then store.map key else store.map key ++ [key x] := by
  induction store with
  | nil => rfl
  | cons y ys ih =>
    by_cases hy : key y = key x
    · simp [upsert, hy]
    · simp only [upsert, if_neg hy, List.map_cons, ih, List.mem_cons, Ne.symm hy, false_or, List.cons_append]
      split <;> rfl

theorem nodup_upsert (x : α) {store : List α} (h : (store.map key).Nodup) : ((upsert key x store).map key).Nodup := by
  rw [keys_upsert]
  split
  · exact h
  · rename_i hx
    exact List.nodup_append.mpr ⟨h, List.nodup_singleton _, fun _ ha _ hb => by
      rw [List.mem_singleton.mp hb]
      intro heq
      obtain rfl := heq
      exact hx ha⟩

/-- What one write leaves behind: the item, and the others. -/
theorem mem_upsert {x y : α} {store : List α} (h : (store.map key).Nodup) :
    y ∈ upsert key x store ↔ y = x ∨ (y ∈ store ∧ key y ≠ key x) := by
  induction store with
  | nil => simp [upsert]
  | cons z zs ih =>
    rw [List.map_cons, List.nodup_cons] at h
    by_cases hz : key z = key x
    · have hother : ∀ w ∈ zs, key w ≠ key x := fun w hw e => h.1 (hz ▸ e ▸ List.mem_map_of_mem hw)
      simp only [upsert, if_pos hz, List.mem_cons]
      grind
    · simp only [upsert, if_neg hz, List.mem_cons, ih h.2]
      grind

/-! ## A batch of writes -/

theorem nodup_upsertAll (xs : List α) {store : List α} (h : (store.map key).Nodup) :
    ((upsertAll key xs store).map key).Nodup := by
  induction xs generalizing store with
  | nil => exact h
  | cons x xs ih => exact ih (nodup_upsert key x h)

/-- What a batch leaves behind: items of its own, and those whose key it does not have. -/
theorem mem_upsertAll {xs store : List α} {y : α} (h : (store.map key).Nodup) :
    y ∈ upsertAll key xs store → y ∈ xs ∨ (y ∈ store ∧ key y ∉ xs.map key) := by
  induction xs generalizing store with
  | nil => exact fun hy => Or.inr ⟨hy, List.not_mem_nil⟩
  | cons x xs ih =>
    intro hy
    rcases ih (nodup_upsert key x h) hy with hy | ⟨hy, hkey⟩
    · exact Or.inl (List.mem_cons_of_mem x hy)
    · rcases (mem_upsert key h).mp hy with rfl | ⟨hy, hx⟩
      · exact Or.inl List.mem_cons_self
      · exact Or.inr ⟨hy, by simp only [List.map_cons, List.mem_cons, not_or]; exact ⟨hx, hkey⟩⟩

/-- A batch leaves alone what has none of its keys. -/
theorem kept_upsertAll {xs store : List α} {y : α} (h : (store.map key).Nodup) (hy : y ∈ store)
    (hkey : key y ∉ xs.map key) : y ∈ upsertAll key xs store := by
  induction xs generalizing store with
  | nil => exact hy
  | cons x xs ih =>
    simp only [List.map_cons, List.mem_cons, not_or] at hkey
    exact ih (nodup_upsert key x h) ((mem_upsert key h).mpr (Or.inr ⟨hy, hkey.1⟩)) hkey.2

theorem all_written_iff {xs store : List α} (h : (store.map key).Nodup) :
    (∀ y ∈ upsertAll key xs store, y ∈ xs) ↔ store.map key ⊆ xs.map key := by
  constructor
  · intro hall k hk
    obtain ⟨y, hy, rfl⟩ := List.mem_map.mp hk
    by_contra hkey
    exact hkey (List.mem_map_of_mem (hall y (kept_upsertAll key h hy hkey)))
  · intro hsub y hy
    rcases mem_upsertAll key h hy with hy | ⟨hy, hkey⟩
    · exact hy
    · exact absurd (hsub (List.mem_map_of_mem hy)) hkey

theorem mem_keys_upsertAll (xs store : List α) (k : κ) :
    k ∈ (upsertAll key xs store).map key ↔ k ∈ store.map key ∨ k ∈ xs.map key := by
  induction xs generalizing store with
  | nil => simp
  | cons x xs ih =>
    rw [upsertAll_cons, ih, keys_upsert]
    split
    · rename_i hx
      simp only [List.map_cons, List.mem_cons]
      grind
    · simp only [List.map_cons, List.mem_cons, List.mem_append, List.not_mem_nil, or_false, or_assoc]

/-- New keys, no two of them the same, are appended in order. -/
theorem upsertAll_new {xs store : List α} (h : ((store ++ xs).map key).Nodup) : upsertAll key xs store = store ++ xs := by
  induction xs generalizing store with
  | nil => rw [upsertAll_nil, List.append_nil]
  | cons x xs ih =>
    have hx : key x ∉ store.map key := by
      rw [List.map_append, List.map_cons] at h
      exact fun hx => (List.nodup_append.mp h).2.2 _ hx _ List.mem_cons_self rfl
    rw [List.append_cons] at h ⊢
    rw [upsertAll_cons, upsert_new key hx]
    exact ih h

/-! ## As a map -/

/-- The item the list has for a key. -/
def find (store : List α) (k : κ) : Option α := store.find? fun y => key y = k

/-- The last item of a batch with a key. -/
def latest (xs : List α) (k : κ) : Option α := (xs.filter fun x => key x = k).getLast?

theorem find_upsert (x : α) (store : List α) (k : κ) :
    find key (upsert key x store) k = if key x = k then some x else find key store k := by
  induction store with
  | nil =>
    by_cases hx : key x = k
    · simp [upsert, find, hx]
    · simp [upsert, find, hx]
  | cons y ys ih =>
    simp only [find] at ih ⊢
    by_cases hy : key y = key x
    · rw [upsert, if_pos hy, List.find?_cons, List.find?_cons, hy]
      by_cases hx : key x = k <;> simp [hx]
    · rw [upsert, if_neg hy, List.find?_cons, List.find?_cons, ih]
      by_cases hx : key x = k
      · have hyk : key y ≠ k := fun h => hy (h.trans hx.symm)
        simp [hx, hyk]
      · simp [hx]

theorem latest_cons (x : α) (xs : List α) (k : κ) :
    latest key (x :: xs) k = (latest key xs k).or (if key x = k then some x else none) := by
  simp only [latest, List.filter_cons]
  by_cases hx : key x = k
  · simp only [hx, decide_true, if_true, List.getLast?_cons]
    cases (xs.filter fun x => key x = k).getLast? <;> rfl
  · simp [hx]

/-- A key is answered with the batch's last item for it, and where there is none with
    what the list had. -/
theorem find_upsertAll (xs store : List α) (k : κ) :
    find key (upsertAll key xs store) k = (latest key xs k).or (find key store k) := by
  induction xs generalizing store with
  | nil => rfl
  | cons x xs ih =>
    rw [upsertAll_cons, ih, find_upsert, latest_cons, Option.or_assoc]
    congr 1
    by_cases hx : key x = k <;> simp [hx]

theorem find_of_mem {store : List α} {y : α} (h : (store.map key).Nodup) (hy : y ∈ store) :
    find key store (key y) = some y := by
  induction store with
  | nil => exact absurd hy List.not_mem_nil
  | cons z zs ih =>
    rw [List.map_cons, List.nodup_cons] at h
    rw [find, List.find?_cons]
    rcases List.mem_cons.mp hy with rfl | hy
    · simp
    · have hz : key z ≠ key y := fun e => h.1 (e ▸ List.mem_map_of_mem hy)
      simpa [hz, find] using ih h.2 hy

theorem keys_upsertAll_nil [BEq κ] [LawfulBEq κ] (xs : List α) :
    (upsertAll key xs []).map key = (xs.map key).eraseDups := by
  induction xs using List.reverseRecOn with
  | nil => rfl
  | append_singleton xs x ih =>
    have hlast : upsertAll key (xs ++ [x]) [] = upsert key x (upsertAll key xs []) := List.foldl_concat ..
    have hmem : key x ∈ (upsertAll key xs []).map key ↔ key x ∈ xs.map key := by
      rw [ih, List.mem_eraseDups]
    rw [hlast, keys_upsert, List.map_append, List.eraseDups_append, ih, List.map_singleton]
    by_cases hx : key x ∈ xs.map key
    · rw [if_pos (ih ▸ hmem.mpr hx), List.removeAll, List.filter_cons_of_neg (by simpa using hx)]
      simp
    · rw [if_neg fun h => hx (hmem.mp (ih ▸ h)), List.removeAll, List.filter_cons_of_pos (by simpa using hx)]
      rfl

/-- Later writes add keys behind those there are. -/
theorem keys_prefix_upsertAll (xs store : List α) :
    store.map key <+: (upsertAll key xs store).map key := by
  induction xs generalizing store with
  | nil => exact List.prefix_rfl
  | cons x xs ih =>
    refine List.IsPrefix.trans ?_ (ih (upsert key x store))
    rw [keys_upsert]
    split
    · exact List.prefix_rfl
    · exact List.prefix_append ..

end HardwareMonitor.Lib.Upsert
