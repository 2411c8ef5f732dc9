/-
  HardwareMonitor.Drivers.SmnAccess — `ReadSmn` called by several threads at once.

  An address goes into the index register and its data comes out of the data register, so
  between the two nobody else may write the index: `smn_mutex` is held. Either access may
  fail, and may leave any index behind. Proved of every number of threads, every
  interleaving and every failure: a call that returns TRUE stored the data at its own
  address, and the mutex is free when every call has returned (`smn_paired`). Alone,
  `ReadSmn` is the function the helpers use (`readSmn_alone`).
-/

import Mathlib.Data.List.Induction
import HardwareMonitor.Drivers.Amd
import HardwareMonitor.Lib.Interaction

namespace HardwareMonitor.Drivers.Amd

open HardwareMonitor.Lib.Interaction

/-! ## The calls of `ReadSmn` -/

inductive SmnCall where
  /-- Not in the source: the date, when a call begins. -/
  | entered
  | acquireFastMutex
  | halSetBusData (address : UInt32)
  | halGetBusData
  | releaseFastMutex
  /-- Not in the source: the return of the call that began at `date`, as it is kept. -/
  | returned (address : UInt32) (date : Nat) (result : Option UInt32)

def SmnCall.Answer : SmnCall → Type
  | .entered => Nat
  | .acquireFastMutex => Unit
  | .halSetBusData _ => UInt32
  | .halGetBusData => UInt32 × UInt32
  | .releaseFastMutex => Unit
  | .returned _ _ _ => Unit

abbrev SmnProg := Prog SmnCall SmnCall.Answer

def entered : SmnProg Nat := ask SmnCall.entered
def exAcquireFastMutex : SmnProg Unit := ask SmnCall.acquireFastMutex
def halSetBusDataByOffset (address : UInt32) : SmnProg UInt32 := ask (SmnCall.halSetBusData address)
def halGetBusDataByOffset : SmnProg (UInt32 × UInt32) := ask SmnCall.halGetBusData
def exReleaseFastMutex : SmnProg Unit := ask SmnCall.releaseFastMutex
def returned (address : UInt32) (date : Nat) (result : Option UInt32) : SmnProg Unit :=
  ask (SmnCall.returned address date result)

/-- `ReadSmn`: `none` is FALSE, `some` the data stored in `*result`. -/
def readSmnProg (address : UInt32) : SmnProg (Option UInt32) := do
  exAcquireFastMutex
  let written ← halSetBusDataByOffset address
  if written ≠ 4 then
    exReleaseFastMutex
    return none
  else
    let (read, result) ← halGetBusDataByOffset
    if read ≠ 4 then
      exReleaseFastMutex
      return none
    else
      exReleaseFastMutex
      return some result

/-- One call, from its beginning to its return. -/
def callReadSmn (address : UInt32) : SmnProg Unit := do
  let date ← entered
  let result ← readSmnProg address
  returned address date result

/-! ## The bus -/

/-- A call that has returned, with the dates of its beginning and its return. -/
structure SmnReturn where
  address : UInt32
  entered : Nat
  left : Nat
  result : Option UInt32

structure SmnBus (P : Type) where
  /-- The number of hardware accesses made so far. -/
  reads : Nat
  index : UInt32
  /-- Who holds `smn_mutex`. -/
  holder : Option P
  returned : List SmnReturn

section

variable {P : Type} (m : Machine) (torn : Nat → UInt32)

/-- A write that fails leaves the index `torn` says. -/
def smnSystem : System P SmnCall SmnCall.Answer (SmnBus P) where
  serve p
    | .entered, s => .answers s.reads s
    | .acquireFastMutex, s =>
      match s.holder with
      | none => .answers () { s with holder := some p }
      | some _ => .blocks
    | .halSetBusData address, s =>
      let written := m.halSetBusData s.reads
      .answers written { s with reads := s.reads + 1, index := if written = 4 then address else torn s.reads }
    | .halGetBusData, s => .answers (m.halGetBusData s.reads s.index) { s with reads := s.reads + 1 }
    | .releaseFastMutex, s => .answers () { s with holder := none }
    | .returned address date result, s => .answers () { s with returned := ⟨address, date, s.reads, result⟩ :: s.returned }
  fallible _ := false
  abort _ s := s

abbrev SmnWorld (P : Type) := Lib.Interaction.World P SmnCall SmnCall.Answer (SmnBus P) Unit

/-- What may happen next: a thread that is in no call makes one; the call of a thread goes
    one step; other hardware is accessed. -/
inductive SmnMove (P : Type) where
  | start (p : P) (address : UInt32)
  | step (p : P)
  | elapse (accesses : Nat)

def SmnWorld.apply [DecidableEq P] (w : SmnWorld P) : SmnMove P → SmnWorld P
  | .start p address => w.start p (callReadSmn address)
  | .step p => w.serve (smnSystem m torn) p
  | .elapse accesses => w.outside fun s => { s with reads := s.reads + accesses }

/-- Nobody in a call, and any index. -/
def SmnWorld.initial (P : Type) (index : UInt32) : SmnWorld P := ⟨⟨0, index, none, []⟩, fun _ => none⟩

def smnAfter [DecidableEq P] (index : UInt32) (moves : List (SmnMove P)) : SmnWorld P :=
  moves.foldl (SmnWorld.apply m torn) (.initial P index)

end

/-! ## What the threads agree on -/

/-- What TRUE says: between the call's beginning and its return the data at its address was
    this. -/
def SmnReturn.Paired (m : Machine) (r : SmnReturn) : Prop :=
  ∀ value, r.result = some value → ∃ date, r.entered ≤ date ∧ date < r.left ∧ m.halGetBusData date r.address = (4, value)

section

variable {P : Type}

/-- While a thread holds the mutex nobody writes the index. -/
structure SmnRely (p : P) (s t : SmnBus P) : Prop where
  reads : s.reads ≤ t.reads
  holder : t.holder = some p ↔ s.holder = some p
  index : s.holder = some p → t.index = s.index

/-- Only the holder goes to the registers, and only the truth is kept. -/
def SmnMay (m : Machine) (p : P) (c : SmnCall) (s : SmnBus P) : Prop :=
  match c with
  | .entered => True
  | .acquireFastMutex => s.holder ≠ some p
  | .halSetBusData _ => s.holder = some p
  | .halGetBusData => s.holder = some p
  | .releaseFastMutex => s.holder = some p
  | .returned address date result => SmnReturn.Paired m ⟨address, date, s.reads, result⟩

def smnAccord (P : Type) (m : Machine) : Accord P SmnCall (SmnBus P) where
  inv s := ∀ r ∈ s.returned, r.Paired m
  rely := SmnRely
  refl _ _ := ⟨Nat.le_refl _, Iff.rfl, fun _ => rfl⟩
  trans _ _ _ _ h h' := ⟨Nat.le_trans h.reads h'.reads, h'.holder.trans h.holder,
    fun hs => (h'.index (h.holder.mpr hs)).trans (h.index hs)⟩
  ask := SmnMay m
  quit _ _ := False
  idle p s := s.holder ≠ some p
  idle_stable _ _ _ h _ hs := fun ht => hs (h.holder.mp ht)

variable {m : Machine} {torn : Nat → UInt32} {p : P} {s : SmnBus P}

theorem not_held_by_another {q : P} (hq : q ≠ p) {o : Option P} (ho : o = some p ∨ o = none) : ¬ o = some q := by
  intro h
  rcases ho with ho | ho
  · exact hq (Option.some.inj (h.symm.trans ho))
  · exact Option.some_ne_none _ (h.symm.trans ho)

/-- Where nobody but `p` holds the mutex, the others do not care what `p` does to the bus. -/
theorem smn_keeps {t u : SmnBus P} (hinv : (smnAccord P m).inv u) (ht : t.holder = some p ∨ t.holder = none)
    (hreads : t.reads ≤ u.reads) (hu : u.holder = some p ∨ u.holder = none) : (smnAccord P m).Keeps p t u := by
  refine ⟨hinv, fun q hq => ⟨hreads, ?_, ?_⟩⟩
  · exact iff_of_false (not_held_by_another hq hu) (not_held_by_another hq ht)
  · exact fun h => absurd h (not_held_by_another hq ht)

theorem acquire_upholds (hidle : s.holder ≠ some p) :
    Upholds (smnSystem m torn) (smnAccord P m) p (fun _ t => s.reads ≤ t.reads ∧ t.holder = some p) exAcquireFastMutex s := by
  refine Upholds.ask fun t ht hr => ⟨fun h => hidle (hr.holder.mp h), fun h => Bool.noConfusion h, ?_⟩
  simp only [smnSystem]
  cases hfree : t.holder with
  | some q => trivial
  | none =>
    refine ⟨smn_keeps ht (.inr hfree) (Nat.le_refl _) (.inl rfl), fun h => Bool.noConfusion h, fun v _ hv => ?_⟩
    exact ⟨Nat.le_trans hr.reads hv.reads, hv.holder.mpr rfl⟩

/-- After a write that has not failed the index is the address, as long as the mutex is
    held. -/
theorem setBusData_upholds (address : UInt32) (hholder : s.holder = some p) :
    Upholds (smnSystem m torn) (smnAccord P m) p
      (fun written t => s.reads ≤ t.reads ∧ t.holder = some p ∧ (written = 4 → t.index = address))
      (halSetBusDataByOffset address) s := by
  refine Upholds.ask fun t ht hr => ?_
  have hheld : t.holder = some p := hr.holder.mpr hholder
  refine ⟨hheld, fun h => Bool.noConfusion h, smn_keeps ht (.inl hheld) (Nat.le_succ _) (.inl hheld),
    fun h => Bool.noConfusion h, fun v _ hv => ?_⟩
  refine ⟨Nat.le_trans hr.reads (Nat.le_trans (Nat.le_succ _) hv.reads), hv.holder.mpr hheld, fun hwritten => ?_⟩
  rw [hv.index hheld]
  exact if_pos hwritten

/-- A read that has not failed is one of the data at the index. -/
theorem getBusData_upholds {address : UInt32} (hholder : s.holder = some p) (hindex : s.index = address) :
    Upholds (smnSystem m torn) (smnAccord P m) p
      (fun answer t => s.reads ≤ t.reads ∧ t.holder = some p ∧
        ∃ date, s.reads ≤ date ∧ date < t.reads ∧ m.halGetBusData date address = answer) halGetBusDataByOffset s := by
  refine Upholds.ask fun t ht hr => ?_
  have hheld : t.holder = some p := hr.holder.mpr hholder
  refine ⟨hheld, fun h => Bool.noConfusion h, smn_keeps ht (.inl hheld) (Nat.le_succ _) (.inl hheld),
    fun h => Bool.noConfusion h, fun v _ hv => ?_⟩
  refine ⟨Nat.le_trans hr.reads (Nat.le_trans (Nat.le_succ _) hv.reads), hv.holder.mpr hheld, t.reads, hr.reads, hv.reads, ?_⟩
  rw [hr.index hholder, hindex]

/-- Every exit releases the mutex. -/
theorem release_upholds {Q : Option UInt32 → SmnBus P → Prop} {result : Option UInt32} (hholder : s.holder = some p)
    (hQ : ∀ t, s.reads ≤ t.reads → t.holder ≠ some p → Q result t) :
    Upholds (smnSystem m torn) (smnAccord P m) p Q (exReleaseFastMutex >>= fun _ => pure result) s := by
  refine Upholds.bind (Q := fun _ t => s.reads ≤ t.reads ∧ t.holder ≠ some p) ?_ fun _ t _ h => ?_
  · refine Upholds.ask fun t ht hr => ?_
    have hheld : t.holder = some p := hr.holder.mpr hholder
    refine ⟨hheld, fun h => Bool.noConfusion h, smn_keeps ht (.inl hheld) (Nat.le_refl _) (.inr rfl),
      fun h => Bool.noConfusion h, fun v _ hv => ?_⟩
    exact ⟨Nat.le_trans hr.reads hv.reads, fun h => Option.some_ne_none _ (hv.holder.mp h).symm⟩
  · exact Upholds.done fun u _ hu => hQ u (Nat.le_trans h.1 hu.reads) fun hheld => h.2 (hu.holder.mp hheld)

theorem readSmnProg_upholds (address : UInt32) (hidle : s.holder ≠ some p) :
    Upholds (smnSystem m torn) (smnAccord P m) p
      (fun result t => t.holder ≠ some p ∧ s.reads ≤ t.reads ∧ SmnReturn.Paired m ⟨address, s.reads, t.reads, result⟩)
      (readSmnProg address) s := by
  unfold readSmnProg
  refine Upholds.bind (acquire_upholds hidle) fun _ t _ hacquired => ?_
  refine Upholds.bind (setBusData_upholds address hacquired.2) fun written u _ hset => ?_
  have hreads : s.reads ≤ u.reads := Nat.le_trans hacquired.1 hset.1
  have hfalse : ∀ {r v : SmnBus P}, s.reads ≤ r.reads → r.reads ≤ v.reads → v.holder ≠ some p → v.holder ≠ some p ∧
      s.reads ≤ v.reads ∧ SmnReturn.Paired m ⟨address, s.reads, v.reads, none⟩ := by
    intro r v hr hrv hv
    exact ⟨hv, Nat.le_trans hr hrv, fun value h => absurd h.symm (Option.some_ne_none _)⟩
  by_cases hwritten : written = 4
  · rw [if_neg (not_not.mpr hwritten)]
    refine Upholds.bind (getBusData_upholds hset.2.1 (hset.2.2 hwritten)) fun answer r _ hget => ?_
    obtain ⟨hur, hheld, date, hfrom, hto, hdata⟩ := hget
    obtain ⟨read, result⟩ := answer
    by_cases hread : read = 4
    · simp only [hread, ne_eq, not_true_eq_false, if_false]
      refine release_upholds hheld fun v hrv hv => ⟨hv, Nat.le_trans hreads (Nat.le_trans hur hrv), fun value hvalue => ?_⟩
      obtain rfl := Option.some.inj hvalue
      exact ⟨date, Nat.le_trans hreads hfrom, Nat.lt_of_lt_of_le hto hrv, hdata.trans (by rw [hread])⟩
    · simp only [ne_eq, hread, not_false_eq_true, if_true]
      exact release_upholds hheld fun v hrv hv => hfalse (Nat.le_trans hreads hur) hrv hv
  · rw [if_pos hwritten]
    exact release_upholds hset.2.1 fun v huv hv => hfalse hreads huv hv

theorem callReadSmn_upholds (address : UInt32) (hidle : s.holder ≠ some p) :
    Upholds (smnSystem m torn) (smnAccord P m) p (fun _ => (smnAccord P m).idle p) (callReadSmn address) s := by
  unfold callReadSmn
  refine Upholds.bind (Q := fun date t => date ≤ t.reads ∧ t.holder ≠ some p) ?_ fun date t _ ht => ?_
  · refine Upholds.ask fun t ht hr => ⟨trivial, fun h => Bool.noConfusion h, Accord.keeps_refl ht p,
      fun h => Bool.noConfusion h, fun v _ hv => ⟨hv.reads, ?_⟩⟩
    exact fun h => hidle (hr.holder.mp (hv.holder.mp h))
  refine Upholds.bind (readSmnProg_upholds address ht.2) fun result u _ hread => ?_
  obtain ⟨hfree, hreads, hpaired⟩ := hread
  refine Upholds.ask fun v hv hr => ?_
  -- the call may have begun before, and may return later
  have hreturn : SmnReturn.Paired m ⟨address, date, v.reads, result⟩ := by
    intro value hvalue
    obtain ⟨d, hfrom, hto, hdata⟩ := hpaired value hvalue
    exact ⟨d, Nat.le_trans ht.1 hfrom, Nat.lt_of_lt_of_le hto hr.reads, hdata⟩
  have hnot : v.holder ≠ some p := fun h => hfree (hr.holder.mp h)
  refine ⟨hreturn, fun h => Bool.noConfusion h, ⟨List.forall_mem_cons.mpr ⟨hreturn, hv⟩, fun q _ => ?_⟩,
    fun h => Bool.noConfusion h, fun w _ hw h => hnot (hw.holder.mp h)⟩
  exact ⟨Nat.le_refl _, Iff.rfl, fun _ => rfl⟩

/-! ## Runs -/

theorem smn_sound [DecidableEq P] (index : UInt32) (moves : List (SmnMove P)) :
    Sound (smnSystem m torn) (smnAccord P m) (smnAfter m torn index moves) := by
  have hsafe : QuitSafe (smnSystem m torn) (smnAccord P m) := fun _ _ _ h => h.elim
  induction moves using List.reverseRecOn with
  | nil => exact ⟨List.forall_mem_nil _, fun p => Part.of_idle rfl fun h => Option.some_ne_none _ h.symm⟩
  | append_singleton moves move ih =>
    rw [smnAfter, List.foldl_append]
    cases move with
    | start p address => exact ih.start p _ fun hidle => callReadSmn_upholds address hidle
    | step p => exact ih.serve hsafe p
    | elapse accesses =>
      exact ih.outside (f := fun s => { s with reads := s.reads + accesses }) ih.inv fun p =>
        ⟨Nat.le_add_right _ _, Iff.rfl, fun _ => rfl⟩

end

/-- Whatever threads call `ReadSmn` with whatever addresses, however their steps and other
    accesses interleave and whichever accesses fail: a call that returned TRUE stored the
    data that was at its own address at some date of the call, and when no call is under
    way the mutex is free. -/
theorem smn_paired {P : Type} [DecidableEq P] (m : Machine) (torn : Nat → UInt32) (index : UInt32)
    (moves : List (SmnMove P)) :
    let w := smnAfter m torn index moves
    (∀ r ∈ w.shared.returned, ∀ value, r.result = some value →
      ∃ date, r.entered ≤ date ∧ date < r.left ∧ m.halGetBusData date r.address = (4, value)) ∧
    ((∀ p, w.idle p = true) → w.shared.holder = none) := by
  intro w
  have h : Sound (smnSystem m torn) (smnAccord P m) w := smn_sound index moves
  refine ⟨h.inv, fun hidle => ?_⟩
  cases hholder : w.shared.holder with
  | none => rfl
  | some p => exact absurd hholder ((h.part p).idle h.inv (hidle p))

/-- Alone, `ReadSmn` is what the helpers call. -/
theorem readSmn_alone {P : Type} (m : Machine) (torn : Nat → UInt32) (p : P) (address : UInt32) (s : SmnBus P)
    (hfree : s.holder = none) (vars : Globals) :
    ∃ t, alone (smnSystem m torn) p (readSmnProg address) s = some ((readSmn m address ⟨s.reads, vars⟩).1, t) ∧
      t.reads = (readSmn m address ⟨s.reads, vars⟩).2.reads ∧ t.holder = none := by
  have hserved : (smnSystem m torn).serve p .acquireFastMutex s = .answers () { s with holder := some p } := by
    simp only [smnSystem]
    rw [hfree]
  have hacquire : alone (smnSystem m torn) p exAcquireFastMutex s = some ((), { s with holder := some p }) :=
    alone_ask hserved
  have hset : ∀ t : SmnBus P, alone (smnSystem m torn) p (halSetBusDataByOffset address) t =
      some (m.halSetBusData t.reads,
        { t with reads := t.reads + 1, index := if m.halSetBusData t.reads = 4 then address else torn t.reads }) :=
    fun t => alone_ask rfl
  have hget : ∀ t : SmnBus P, alone (smnSystem m torn) p halGetBusDataByOffset t =
      some (m.halGetBusData t.reads t.index, { t with reads := t.reads + 1 }) :=
    fun t => alone_ask rfl
  have hrelease : ∀ t : SmnBus P, alone (smnSystem m torn) p exReleaseFastMutex t = some ((), { t with holder := none }) :=
    fun t => alone_ask rfl
  rw [readSmnProg, alone_bind, hacquire, Option.bind_some, alone_bind, hset, Option.bind_some, readSmn]
  simp only [Clocked.halSetBusData, Clocked.halGetBusData]
  by_cases hwritten : m.halSetBusData s.reads = 4
  · simp only [hwritten, ne_eq, not_true_eq_false, if_false, if_true, alone_bind, hget, Option.bind_some]
    by_cases hread : (m.halGetBusData (s.reads + 1) address).1 = 4
    · simp only [hread, not_true_eq_false, if_false, alone_bind, hrelease]
      exact ⟨_, rfl, rfl, rfl⟩
    · simp only [hread, not_false_eq_true, if_true, alone_bind, hrelease]
      exact ⟨_, rfl, rfl, rfl⟩
  · simp only [hwritten, ne_eq, not_false_eq_true, if_true, alone_bind, hrelease]
    exact ⟨_, rfl, rfl, rfl⟩

end HardwareMonitor.Drivers.Amd
