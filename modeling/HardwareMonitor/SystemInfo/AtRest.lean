/-
  HardwareMonitor.SystemInfo.AtRest — what the server shows when the backends have come to
  rest.

  A process rests that was between two sends with nothing queued, and has had nothing
  pushed to it since. It may have entered its next send, whose `drain` waits. Nothing
  here closes a queue, as nothing in the source does, so the queue has accepted what the
  workers pushed (`accepted_pushed`), and with no exception all of it has been written:
  the variables of each device hold the newest snapshot pushed for it (`value_at_rest`).
-/

import HardwareMonitor.SystemInfo.Delivery
import HardwareMonitor.SystemInfo.NodeOrigins

namespace HardwareMonitor.SystemInfo

open HardwareMonitor.OpcUa
open HardwareMonitor.Lib.Interaction

/-! ## Pushes -/

/-- What the workers of `p` push, in order. -/
def pushedOf (p : Nat) (es : List Event) : List TelemetrySnapshot :=
  es.filterMap fun e =>
    match e with
    | .push q snapshot => if q = p then some snapshot else none
    | _ => none

/-- The newest of them with this key. -/
def newestPushed (p : Nat) (key : String) (es : List Event) : Option TelemetrySnapshot :=
  ((pushedOf p es).filter fun snapshot => snapshot.name = key).getLast?

theorem pushedOf_append (p : Nat) (es later : List Event) : pushedOf p (es ++ later) = pushedOf p es ++ pushedOf p later :=
  List.filterMap_append

theorem mem_pushedOf {p : Nat} {es : List Event} {snapshot : TelemetrySnapshot} :
    snapshot ∈ pushedOf p es ↔ .push p snapshot ∈ es := by
  simp only [pushedOf, List.mem_filterMap]
  constructor
  · intro h
    obtain ⟨e, he, hsome⟩ := h
    cases e with
    | push q pushed =>
      simp only [Option.ite_none_right_eq_some, Option.some.injEq] at hsome
      obtain ⟨rfl, rfl⟩ := hsome
      exact he
    | _ => cases hsome
  · intro h
    exact ⟨_, h, if_pos rfl⟩

theorem newestPushed_name {p : Nat} {key : String} {es : List Event} {snapshot : TelemetrySnapshot}
    (h : newestPushed p key es = some snapshot) : .push p snapshot ∈ es ∧ snapshot.name = key := by
  obtain ⟨hmem, hname⟩ := List.mem_filter.mp (List.mem_of_getLast? h)
  exact ⟨mem_pushedOf.mp hmem, of_decide_eq_true hname⟩

/-- Whatever has been pushed has a newest one of its key. -/
theorem newestPushed_isSome {p : Nat} {es : List Event} {snapshot : TelemetrySnapshot} (h : .push p snapshot ∈ es) :
    ∃ newest, newestPushed p snapshot.name es = some newest := by
  have hmem : snapshot ∈ (pushedOf p es).filter fun pushed => pushed.name = snapshot.name :=
    List.mem_filter.mpr ⟨mem_pushedOf.mpr h, decide_eq_true rfl⟩
  have hsome : (newestPushed p snapshot.name es).isSome := by
    rw [newestPushed, List.getLast?_isSome]
    exact List.ne_nil_of_mem hmem
  exact Option.isSome_iff_exists.mp hsome

/-! ## An open queue -/

/-- The queue of `p` is open, and has accepted these. -/
structure Open (p : Nat) (accepted : List TelemetrySnapshot) (s : Shared) : Prop where
  accepted : (s.backend p).accepted = accepted
  running : (s.backend p).queue.shuttingDown = false

variable {launch : Nat → Launch} {p q : Nat} {s : Shared} {accepted : List TelemetrySnapshot}

/-- What neither pushes nor closes leaves it so. -/
theorem Open.update (h : Open p accepted s) {f : Backend → Backend}
    (hf : ∀ b, (f b).accepted = b.accepted ∧ (f b).queue.shuttingDown = b.queue.shuttingDown) : Open p accepted (s.update q f) := by
  by_cases hq : p = q
  · subst hq
    refine ⟨?_, ?_⟩
    · rw [backend_update_same, (hf _).1, h.accepted]
    · rw [backend_update_same, (hf _).2, h.running]
  · refine ⟨?_, ?_⟩
    · rw [backend_update_other s f hq, h.accepted]
    · rw [backend_update_other s f hq, h.running]

theorem Open.serve (h : Open p accepted s) (c : Call) : ((system launch).serve q c s).After (Open p accepted) := by
  cases c with
  | addNode item =>
    dsimp only [system, SystemInfo.serve]
    cases (serverAfter telemetryClientsFolderId s.log).created _ _ _ <;> exact ⟨h.accepted, h.running⟩
  | writeValue id value =>
    dsimp only [system, SystemInfo.serve]
    cases s.has id with
    | false => exact h
    | true =>
      have hwritten : Open p accepted (s.write id value) := ⟨h.accepted, h.running⟩
      exact hwritten.update fun b => ⟨rfl, rfl⟩
  | drain =>
    dsimp only [system, SystemInfo.serve]
    cases (s.backend q).queue.ready with
    | false => trivial
    | true => exact h.update (f := fun b => { b with queue := b.queue.drain.2 }.mark (.drained b.queue.drain.1)) fun b => ⟨rfl, rfl⟩
  | setClientFolder id => exact h.update fun b => ⟨rfl, rfl⟩
  | emplaceDevice deviceKey ids => exact h.update fun b => ⟨rfl, rfl⟩
  | mark m => exact h.update fun b => ⟨rfl, rfl⟩
  | _ => exact h

/-- One event: a push to `p` is accepted. -/
theorem open_apply {w : Backends} (h : Open p accepted w.shared) (e : Event) (he : e ≠ .shutdown p) :
    Open p (accepted ++ pushedOf p [e]) (w.apply launch e).shared := by
  have habort : ∀ q s, Open p accepted s → Open p accepted ((system launch).abort q s) := fun q s h =>
    h.update (f := fun b => b.mark .threw) fun b => ⟨rfl, rfl⟩
  cases e with
  | call session o =>
    rw [show pushedOf p [.call session o] = [] from rfl, List.append_nil]
    exact ⟨h.accepted, h.running⟩
  | push q snapshot =>
    by_cases hq : q = p
    · subst hq
      rw [show pushedOf q [.push q snapshot] = [snapshot] by simp [pushedOf]]
      show Open q _ (w.shared.update q fun b => b.push snapshot)
      refine ⟨?_, ?_⟩
      · rw [backend_update_same, Backend.push, h.running, h.accepted]
        rfl
      · rw [backend_update_same, Backend.push, ClientQueue.push_shuttingDown, h.running]
    · rw [show pushedOf p [.push q snapshot] = [] by simp [pushedOf, hq], List.append_nil]
      show Open p _ (w.shared.update q fun b => b.push snapshot)
      refine ⟨?_, ?_⟩
      · rw [backend_update_other _ _ (Ne.symm hq), h.accepted]
      · rw [backend_update_other _ _ (Ne.symm hq), h.running]
  | shutdown q =>
    rw [show pushedOf p [.shutdown q] = [] from rfl, List.append_nil]
    have hq : p ≠ q := fun hq => he (by rw [hq])
    show Open p _ (w.shared.update q fun b => { b with queue := b.queue.shutdown })
    refine ⟨?_, ?_⟩
    · rw [backend_update_other _ _ hq, h.accepted]
    · rw [backend_update_other _ _ hq, h.running]
  | addNodes q =>
    rw [show pushedOf p [.addNodes q] = [] from rfl, List.append_nil]
    show Open p accepted (World.start q _ _).shared
    unfold World.start
    split <;> exact h
  | sendTelemetryPayload q =>
    rw [show pushedOf p [.sendTelemetryPayload q] = [] from rfl, List.append_nil]
    show Open p accepted (World.start q _ _).shared
    unfold World.start
    split <;> exact h
  | serve q =>
    rw [show pushedOf p [.serve q] = [] from rfl, List.append_nil]
    exact serve_preserves (habort q) (fun c _ _ => h.serve c) h
  | fail q served =>
    rw [show pushedOf p [.fail q served] = [] from rfl, List.append_nil]
    exact fail_preserves (habort q) (fun c _ _ => h.serve c) h served

/-- A queue that is never closed has accepted all that was pushed. -/
theorem accepted_pushed {es : List Event} (hopen : .shutdown p ∉ es) :
    Open p (pushedOf p es) (after launch es).shared := by
  induction es using List.reverseRecOn with
  | nil => exact ⟨rfl, rfl⟩
  | append_singleton es e ih =>
    rw [List.mem_append, List.mem_singleton, not_or] at hopen
    rw [after_snoc, pushedOf_append]
    exact open_apply (ih hopen.1) e (Ne.symm hopen.2)

/-! ## Rest -/

/-- Some time ago the process was between two sends with nothing queued; since then nothing
    has been pushed to it, and it has drained, written and ended nothing. -/
structure Rested (launch : Nat → Launch) (es : List Event) (p : Nat) : Prop where
  since : ∃ past later, es = past ++ later ∧ (after launch past).idle p = true ∧
    ((after launch past).shared.backend p).queue.queue = [] ∧ pushedOf p later = [] ∧
    ((after launch es).shared.backend p).trace = ((after launch past).shared.backend p).trace

/-- Each process that anything has been pushed to rests, has met no exception, and is alone
    of its name. No queue has been closed. -/
structure AtRest (launch : Nat → Launch) (es : List Event) : Prop where
  opened : ∀ p, .shutdown p ∉ es
  rested : ∀ p, pushedOf p es ≠ [] → Rested launch es p
  noneThrew : ∀ p, pushedOf p es ≠ [] → .threw ∉ ((after launch es).shared.backend p).trace
  alone : ∀ p, pushedOf p es ≠ [] → ∀ q, (launch q).clientName = (launch p).clientName → q = p

theorem pushedOf_ne_nil {es : List Event} {snapshot : TelemetrySnapshot} (h : .push p snapshot ∈ es) : pushedOf p es ≠ [] :=
  List.ne_nil_of_mem (mem_pushedOf.mpr h)

/-- A process at rest has written all that was pushed, and put nothing else. -/
theorem written_at_rest {es : List Event} (h : AtRest launch es) (hpushed : pushedOf p es ≠ []) :
    (writes ((after launch es).shared.backend p)).map (·.2) = pushedOf p es ∧
      ((after launch es).shared.backend p).puts = (writes ((after launch es).shared.backend p)).flatMap putsOf := by
  obtain ⟨past, later, hes, hidle, hempty, hnone, htrace⟩ := (h.rested p hpushed).since
  have hno := h.noneThrew p hpushed
  rw [htrace] at hno
  have hsettled : Settled ((after launch past).shared.backend p) := ((ledger_after launch past).part p).idle trivial hidle
  have horderly := hsettled.orderly hno
  have hopen : .shutdown p ∉ past := fun hmem => h.opened p (by rw [hes]; exact List.mem_append_left _ hmem)
  have haccepted : Open p (pushedOf p past) (after launch past).shared := accepted_pushed hopen
  -- what had been pushed by then had been accepted, and drained, and written
  have hpast : pushedOf p es = (writes ((after launch past).shared.backend p)).map (·.2) := by
    rw [hes, pushedOf_append, hnone, List.append_nil, ← haccepted.accepted, hsettled.conserved, hempty, List.append_nil,
      ← horderly.order, List.append_nil]
  have hwrites : writes ((after launch es).shared.backend p) = writes ((after launch past).shared.backend p) := by
    unfold writes
    rw [htrace]
  have hputs : ((after launch es).shared.backend p).puts = ((after launch past).shared.backend p).puts := by
    unfold Backend.puts
    rw [htrace]
  rw [hpast, hputs, hwrites]
  exact ⟨rfl, horderly.puts⟩

/-- The variables of a device hold the newest snapshot of its key. -/
theorem value_at_rest {es : List Event} (h : AtRest launch es) {key : String} {snapshot : TelemetrySnapshot}
    (hnewest : newestPushed p key es = some snapshot) :
    Filled (after launch es).shared.tree (launch p).clientName key ∧ ∀ f ∈ snapshotFields,
      (after launch es).shared.value (Place.field (launch p).clientName key f).id = fieldValue snapshot f := by
  obtain ⟨hpush, hname⟩ := newestPushed_name hnewest
  have hpushed := pushedOf_ne_nil hpush
  obtain ⟨hall, hputs⟩ := written_at_rest h hpushed
  have hsane := (sound_after launch (fun _ _ => True) es fun _ _ _ => trivial).inv
  have htrace : ∀ w ∈ writes ((after launch es).shared.backend p), w.1 = snapshotNodes (launch p).clientName w.2.name ∧
      Filled (after launch es).shared.tree (launch p).clientName w.2.name := fun w hw =>
    ⟨((hsane.backends p).trace _ (mem_writes.mp hw)).1, ((hsane.backends p).trace _ (mem_writes.mp hw)).2.2⟩
  have hfilled : Filled (after launch es).shared.tree (launch p).clientName key := by
    obtain ⟨w, hw, rfl⟩ := List.mem_map.mp (hall ▸ mem_pushedOf.mpr hpush)
    rw [← hname]
    exact (htrace w hw).2
  refine ⟨hfilled, fun f hf => current_after launch p (h.alone p hpushed) es _ _ ?_⟩
  rw [hputs, lastPut_writes hsane.tree.grounded hfilled hf _ htrace, hall]
  show Option.map _ (newestPushed p key es) = _
  rw [hnewest, Option.map_some]

/-- Every device's object stands for a key that has been pushed, and so has a newest
    snapshot. -/
theorem newest_of_object {es : List Event} {d key : String} (h : Present (after launch es).shared.tree (.object d key)) :
    ∃ p snapshot, (launch p).clientName = d ∧ newestPushed p key es = some snapshot := by
  obtain ⟨p, pushed, hname, hpush, hkey⟩ := object_was_pushed h
  obtain ⟨snapshot, hnewest⟩ := newestPushed_isSome hpush
  rw [hkey] at hnewest
  exact ⟨p, snapshot, hname, hnewest⟩

end HardwareMonitor.SystemInfo
