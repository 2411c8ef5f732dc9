/-
  HardwareMonitor.SystemInfo.Progress — a send ends, whatever the other processes do.

  The queue aside nothing in the backends' code waits: every call but the drain is served
  at once, and a send makes no more than `callsPerSnapshot` of them for each snapshot it has
  drained. So a send that is entered with something in the queue ends after a number of
  its process's own calls that only the snapshots pushed meanwhile can raise (`Stage`,
  `stage_apply`), and by then it has drained all that had been accepted before. With no
  exception it has put all of it on the server too (`accepted_gets_written`).
-/

import HardwareMonitor.Lib.Bounded
import HardwareMonitor.SystemInfo.AtRest

namespace HardwareMonitor.SystemInfo

open HardwareMonitor.OpcUa
open HardwareMonitor.ControlCenter (SnapshotNodeIds)
open HardwareMonitor.Lib.Interaction

/-! ## Bounds of the code -/

/-- The calls that nobody has to wait for. -/
def Prompt (c : Call) : Prop := c ≠ .drain

instance : DecidablePred Prompt := fun c => inferInstanceAs (Decidable (c ≠ .drain))

theorem served_of_prompt (launch : Nat → Launch) (p : Nat) (c : Call) (s : Shared) (hc : Prompt c) :
    (system launch).serve p c s ≠ .blocks := by
  cases c with
  | addNode item =>
    dsimp only [system, serve]
    split <;> exact fun h => by cases h
  | writeValue id value =>
    dsimp only [system, serve]
    split <;> exact fun h => by cases h
  | drain => exact absurd rfl hc
  | _ => exact fun h => by cases h

theorem perform_endsIn {c : Call} (hc : Prompt c) : EndsIn Prompt 1 (perform c) := .ask hc

theorem tryBrowseChild_endsIn (parent : NodeId) (ns : UInt16) (name : String) : EndsIn Prompt 1 (tryBrowseChild parent ns name) :=
  perform_endsIn fun h => by cases h

theorem addNode_endsIn (parent id : NodeId) (browseName : String) : EndsIn Prompt 1 (addNode parent id browseName) :=
  perform_endsIn fun h => by cases h

theorem ensureStringVar_endsIn (parent : NodeId) (deviceName deviceKey field : String) (ns : UInt16) :
    EndsIn Prompt 2 (ensureStringVar parent deviceName deviceKey field ns) := by
  refine EndsIn.bind (n := 1) (m := 1) (tryBrowseChild_endsIn _ _ _) fun existing => ?_
  cases existing with
  | none => exact addNode_endsIn _ _ _
  | some existing => exact .done 1 existing

theorem ensureObject_endsIn (clientFolder : NodeId) (deviceName deviceKey : String) (ns : UInt16) :
    EndsIn Prompt 2 (ensureObject clientFolder deviceName deviceKey ns) := by
  refine EndsIn.bind (n := 1) (m := 1) (tryBrowseChild_endsIn _ _ _) fun obj => ?_
  cases obj with
  | none => exact addNode_endsIn _ _ _
  | some obj => exact .done 1 obj

theorem ensureSnapshotNode_endsIn (clientFolder : NodeId) (deviceName deviceKey : String) (ns : UInt16) :
    EndsIn Prompt 10 (ensureSnapshotNode clientFolder deviceName deviceKey ns) := by
  refine EndsIn.bind (n := 2) (m := 8) (ensureObject_endsIn _ _ _ _) fun obj => ?_
  refine EndsIn.bind (n := 2) (m := 6) (ensureStringVar_endsIn _ _ _ _ _) fun name => ?_
  refine EndsIn.bind (n := 2) (m := 4) (ensureStringVar_endsIn _ _ _ _ _) fun vendor => ?_
  refine EndsIn.bind (n := 2) (m := 2) (ensureStringVar_endsIn _ _ _ _ _) fun hardwareType => ?_
  exact EndsIn.bind (n := 2) (m := 0) (ensureStringVar_endsIn _ _ _ _ _) fun sensors => .done 0 _

theorem writeSnapshot_endsIn (ids : SnapshotNodeIds) (store : TelemetryStore) : EndsIn Prompt 4 (writeSnapshot ids store) := by
  have hwrite : ∀ id value, EndsIn Prompt 1 (perform (.writeValue id value)) := fun _ _ => perform_endsIn fun h => by cases h
  refine EndsIn.bind (n := 1) (m := 3) (hwrite _ _) fun _ => ?_
  refine EndsIn.bind (n := 1) (m := 2) (hwrite _ _) fun _ => ?_
  exact EndsIn.bind (n := 1) (m := 1) (hwrite _ _) fun _ => hwrite _ _

theorem deviceNodes_endsIn (clientName : String) (clientFolder : NodeId) (deviceKey : String) :
    EndsIn Prompt 13 (deviceNodes clientName clientFolder deviceKey) := by
  refine EndsIn.bind (n := 1) (m := 12) (perform_endsIn fun h => by cases h) fun it => ?_
  cases it with
  | some ids => exact .done 12 ids
  | none =>
    refine EndsIn.bind (n := 1) (m := 11) (perform_endsIn fun h => by cases h) fun _ => ?_
    refine EndsIn.bind (n := 10) (m := 1) (ensureSnapshotNode_endsIn _ _ _ _) fun ids => ?_
    exact EndsIn.bind (n := 1) (m := 0) (perform_endsIn fun h => by cases h) fun _ => .done 0 ids

/-- Thirteen for the node set, four writes, and two marks. -/
def callsPerSnapshot : Nat := 19

theorem sendSnapshot_endsIn (clientName : String) (clientFolder : NodeId) (e : TelemetrySnapshot × TelemetryStore) :
    EndsIn Prompt callsPerSnapshot (sendSnapshot clientName clientFolder e) := by
  refine EndsIn.bind (n := 13) (m := 6) (deviceNodes_endsIn _ _ _) fun ids => ?_
  refine EndsIn.bind (n := 1) (m := 5) (perform_endsIn fun h => by cases h) fun _ => ?_
  exact EndsIn.bind (n := 4) (m := 1) (writeSnapshot_endsIn _ _) fun _ => perform_endsIn fun h => by cases h

/-- What `sendTelemetryPayload` does with what it has drained. -/
def sendDrained (clientName : String) (clientFolder : NodeId) (drained : List TelemetrySnapshot) : Code Bool :=
  if drained.isEmpty then do
    perform (.mark .returned)
    return true
  else do
    (drained.zip (buildTelemetryPayload drained)).forM (sendSnapshot clientName clientFolder)
    perform (.mark .returned)
    return true

/-- The program of a send, as an event starts it. -/
def send (clientName : String) : Code Unit := sendTelemetryPayload clientName >>= fun _ => .done ()

def atDrain (clientName : String) (clientFolder : NodeId) : Code Unit :=
  .call .drain fun drained => sendDrained clientName clientFolder drained >>= fun _ => .done ()

theorem send_eq (clientName : String) :
    send clientName = .call .clientFolder fun clientFolder =>
      match clientFolder with
      | none => .done ()
      | some clientFolder => atDrain clientName clientFolder := by
  show Prog.call Call.clientFolder _ = _
  congr 1
  funext clientFolder
  cases clientFolder with
  | none => rfl
  | some clientFolder => rfl

theorem sendDrained_endsIn (clientName : String) (clientFolder : NodeId) (drained : List TelemetrySnapshot) :
    EndsIn Prompt (callsPerSnapshot * drained.length + 1)
      (sendDrained clientName clientFolder drained >>= fun _ => (.done () : Code Unit)) := by
  have hreturn : EndsIn Prompt 1 (do perform (.mark .returned); return true : Code Bool) :=
    EndsIn.bind (n := 1) (m := 0) (perform_endsIn fun h => by cases h) fun _ => .done 0 true
  refine EndsIn.bind (n := callsPerSnapshot * drained.length + 1) (m := 0) ?_ fun _ => .done 0 ()
  unfold sendDrained
  split
  · exact hreturn.mono (Nat.le_add_left _ _)
  · have hturns := EndsIn.forM (drained.zip (buildTelemetryPayload drained)) fun e _ => sendSnapshot_endsIn clientName clientFolder e
    rw [zip_payload, List.length_map] at hturns
    rw [zip_payload]
    exact hturns.bind fun _ => hreturn

/-! ## How far a send has come -/

/-- A send of `p` that was entered when these had been accepted: `n` more of its calls end
    it, and `callsPerSnapshot` more for each snapshot that is pushed before it drains. -/
inductive Stage (launch : Nat → Launch) (p : Nat) (accepted : List TelemetrySnapshot) (w : Backends) : Nat → Prop where
  | entered {n : Nat} (hrun : w.running p = some (send (launch p).clientName))
      (hfolder : (w.shared.backend p).clientFolder.isSome = true) (hready : (w.shared.backend p).queue.ready = true)
      (haccepted : accepted <+: (w.shared.backend p).accepted)
      (hn : callsPerSnapshot * (w.shared.backend p).queue.queue.length + 3 ≤ n) : Stage launch p accepted w n
  | waiting {n : Nat} (clientFolder : NodeId) (hrun : w.running p = some (atDrain (launch p).clientName clientFolder))
      (hready : (w.shared.backend p).queue.ready = true) (haccepted : accepted <+: (w.shared.backend p).accepted)
      (hn : callsPerSnapshot * (w.shared.backend p).queue.queue.length + 2 ≤ n) : Stage launch p accepted w n
  | drained {n : Nat} (x : Code Unit) (hrun : w.running p = some x) (hends : EndsIn Prompt n x)
      (hdrained : accepted <+: (w.shared.backend p).drained) : Stage launch p accepted w n

/-- It has ended, and they have been drained. -/
structure Ended (p : Nat) (accepted : List TelemetrySnapshot) (w : Backends) : Prop where
  idle : w.idle p = true
  drained : accepted <+: (w.shared.backend p).drained

/-- What others may do to a process's memory: queue `k` more snapshots, or close the queue. -/
structure Fed (k : Nat) (b b' : Backend) : Prop where
  clientFolder : b'.clientFolder = b.clientFolder
  drained : b'.drained = b.drained
  accepted : b.accepted <+: b'.accepted
  ready : b.queue.ready = true → b'.queue.ready = true
  queued : b'.queue.queue.length ≤ b.queue.queue.length + k

theorem Fed.refl (b : Backend) : Fed 0 b b := ⟨rfl, rfl, List.prefix_refl _, fun h => h, Nat.le_refl _⟩

theorem fed_push (b : Backend) (snapshot : TelemetrySnapshot) : Fed 1 b (b.push snapshot) := by
  refine ⟨rfl, rfl, ?_, ?_, ?_⟩
  · simp only [Backend.push]
    split
    · exact List.prefix_refl _
    · exact List.prefix_append _ _
  · intro hready
    simp only [Backend.push, ClientQueue.push]
    split
    · exact hready
    · simp [ClientQueue.ready]
  · simp only [Backend.push, ClientQueue.push]
    split
    · exact Nat.le_add_right _ _
    · exact Nat.le_of_eq (List.length_append)

theorem fed_shutdown (b : Backend) : Fed 0 b { b with queue := b.queue.shutdown } :=
  ⟨rfl, rfl, List.prefix_refl _, fun _ => by simp [ClientQueue.ready, ClientQueue.shutdown], Nat.le_refl _⟩

variable {launch : Nat → Launch} {p : Nat} {accepted : List TelemetrySnapshot} {w w' : Backends} {n k : Nat}

/-- What others do leaves a send where it is. -/
theorem Stage.fed (h : Stage launch p accepted w n) (hrun' : w'.running p = w.running p)
    (hfed : Fed k (w.shared.backend p) (w'.shared.backend p)) : Stage launch p accepted w' (n + callsPerSnapshot * k) := by
  have hqueued := Nat.mul_le_mul_left callsPerSnapshot hfed.queued
  rw [Nat.mul_add] at hqueued
  cases h with
  | entered hrun hfolder hready haccepted hn =>
    refine .entered (hrun'.trans hrun) ?_ (hfed.ready hready) (haccepted.trans hfed.accepted) (by omega)
    rw [hfed.clientFolder]
    exact hfolder
  | waiting clientFolder hrun hready haccepted hn =>
    exact .waiting clientFolder (hrun'.trans hrun) (hfed.ready hready) (haccepted.trans hfed.accepted) (by omega)
  | drained x hrun hends hdrained =>
    refine .drained x (hrun'.trans hrun) (hends.mono (Nat.le_add_right _ _)) ?_
    rw [hfed.drained]
    exact hdrained

/-- No call of another process touches its memory. -/
theorem serve_leaves {q : Nat} (hq : q ≠ p) (b : Backend) (c : Call) (s : Shared) (h : s.backend p = b) :
    ((system launch).serve q c s).After fun t => t.backend p = b := by
  have hupdate : ∀ f, (s.update q f).backend p = b := fun f => (backend_update_other s f (Ne.symm hq)).trans h
  cases c with
  | addNode item =>
    dsimp only [system, serve]
    split <;> exact h
  | writeValue id value =>
    dsimp only [system, serve]
    split
    · exact (backend_update_other (s.write id value) _ (Ne.symm hq)).trans h
    · exact h
  | drain =>
    dsimp only [system, serve]
    split
    · exact hupdate _
    · trivial
  | setClientFolder id => exact hupdate _
  | emplaceDevice deviceKey ids => exact hupdate _
  | mark m => exact hupdate _
  | _ => exact h

/-- What a process has drained only grows with its calls. -/
theorem serve_drained (c : Call) (s : Shared) (h : accepted <+: (s.backend p).drained) :
    ((system launch).serve p c s).After fun t => accepted <+: (t.backend p).drained := by
  cases c with
  | addNode item =>
    dsimp only [system, serve]
    split <;> exact h
  | writeValue id value =>
    dsimp only [system, serve]
    split
    · show _ <+: (((s.write id value).update p _).backend p).drained
      rw [backend_update_same, drained_mark]
      exact h.trans (List.prefix_append _ _)
    · exact h
  | drain =>
    dsimp only [system, serve]
    split
    · show _ <+: ((s.update p _).backend p).drained
      rw [backend_update_same, drained_mark]
      exact h.trans (List.prefix_append _ _)
    · trivial
  | setClientFolder id =>
    show _ <+: ((s.update p _).backend p).drained
    rw [backend_update_same]
    exact h
  | emplaceDevice deviceKey ids =>
    show _ <+: ((s.update p _).backend p).drained
    rw [backend_update_same]
    exact h
  | mark m =>
    show _ <+: ((s.update p _).backend p).drained
    rw [backend_update_same, drained_mark]
    exact h.trans (List.prefix_append _ _)
  | _ => exact h

theorem abort_drained (s : Shared) (h : accepted <+: (s.backend p).drained) :
    accepted <+: (((system launch).abort p s).backend p).drained := by
  show accepted <+: ((s.update p fun b => b.mark .threw).backend p).drained
  rw [backend_update_same, drained_mark]
  exact h.trans (List.prefix_append _ _)

/-- A call of its own takes it further. -/
theorem Stage.serve (h : Stage launch p accepted w (n + 1)) (hconserved : Conserved (w.shared.backend p)) :
    Ended p accepted (w.serve (system launch) p) ∨ Stage launch p accepted (w.serve (system launch) p) n := by
  cases h with
  | entered hrun hfolder hready haccepted hn =>
    right
    obtain ⟨clientFolder, hfolder⟩ := Option.isSome_iff_exists.mp hfolder
    have hserve : w.serve (system launch) p = w.proceed p w.shared (some (atDrain (launch p).clientName clientFolder)) := by
      unfold World.serve
      rw [hrun, send_eq]
      dsimp only [system, SystemInfo.serve]
      rw [hfolder]
    have hleft : callsPerSnapshot * (w.shared.backend p).queue.queue.length + 2 ≤ n := by omega
    rw [hserve]
    exact .waiting clientFolder (proceed_same _ _ _ _) hready haccepted hleft
  | waiting clientFolder hrun hready haccepted hn =>
    right
    have hserve : w.serve (system launch) p = w.proceed p
        (w.shared.update p fun b => { b with queue := b.queue.drain.2 }.mark (.drained b.queue.drain.1))
        (some (sendDrained (launch p).clientName clientFolder (w.shared.backend p).queue.drain.1 >>= fun _ => .done ())) := by
      unfold World.serve
      rw [hrun, atDrain]
      dsimp only [system, SystemInfo.serve]
      rw [if_pos hready]
    rw [hserve]
    refine .drained _ (proceed_same _ _ _ _) ((sendDrained_endsIn _ _ _).mono ?_) ?_
    · rw [ClientQueue.drain_fst]
      omega
    · show accepted <+: ((w.shared.update p fun b =>
        { b with queue := b.queue.drain.2 }.mark (.drained b.queue.drain.1)).backend p).drained
      rw [backend_update_same, drained_mark]
      dsimp only
      rw [ClientQueue.drain_fst]
      exact hconserved ▸ haccepted
  | drained x hrun hends hdrained =>
    have hstill : accepted <+: ((w.serve (system launch) p).shared.backend p).drained :=
      serve_preserves abort_drained (fun c _ _ => serve_drained c _ hdrained) hdrained
    rcases hends.serve (fun c s hc => served_of_prompt launch p c s hc) hrun with hidle | ⟨y, hrun', hends'⟩
    · exact Or.inl ⟨hidle, hstill⟩
    · exact Or.inr (.drained y hrun' hends' hstill)

/-- Only a request can fail, and the drain has been made by then. -/
theorem Stage.fail (h : Stage launch p accepted w n) (served : Bool) :
    Ended p accepted (w.fail (system launch) p served) ∨ Stage launch p accepted (w.fail (system launch) p served) n := by
  cases h with
  | entered hrun hfolder hready haccepted hn =>
    right
    have hstays : w.fail (system launch) p served = w := by
      unfold World.fail
      rw [hrun, send_eq]
      rfl
    rw [hstays]
    exact .entered hrun hfolder hready haccepted hn
  | waiting clientFolder hrun hready haccepted hn =>
    right
    have hstays : w.fail (system launch) p served = w := by
      unfold World.fail
      rw [hrun, atDrain]
      rfl
    rw [hstays]
    exact .waiting clientFolder hrun hready haccepted hn
  | drained x hrun hends hdrained =>
    have hcases : (w.fail (system launch) p served).idle p = true ∨ w.fail (system launch) p served = w :=
      fail_ends_or_stays hrun served
    rcases hcases with hidle | hstays
    · exact Or.inl ⟨hidle, fail_preserves abort_drained (fun c _ _ => serve_drained c _ hdrained) hdrained served⟩
    · rw [hstays]
      exact Or.inr (.drained x hrun hends hdrained)

/-! ## Runs -/

theorem Stage.same (h : Stage launch p accepted w n) (hrun : w'.running p = w.running p)
    (hmemory : w'.shared.backend p = w.shared.backend p) : Stage launch p accepted w' n := by
  have hfed : Fed 0 (w.shared.backend p) (w'.shared.backend p) := by
    rw [hmemory]
    exact Fed.refl _
  exact h.fed hrun hfed

theorem Stage.serve_elsewhere {q : Nat} (h : Stage launch p accepted w n) (hq : q ≠ p) :
    Stage launch p accepted (w.serve (system launch) q) n := by
  have hmemory : (w.serve (system launch) q).shared.backend p = w.shared.backend p :=
    serve_preserves (R := fun t => t.backend p = w.shared.backend p)
      (fun s hs => (backend_update_other s (fun b => b.mark .threw) (Ne.symm hq)).trans hs)
      (fun c _ _ => serve_leaves hq _ c _ rfl) rfl
  exact h.same (serve_other (Ne.symm hq)) hmemory

theorem Stage.fail_elsewhere {q : Nat} (h : Stage launch p accepted w n) (hq : q ≠ p) (served : Bool) :
    Stage launch p accepted (w.fail (system launch) q served) n := by
  have hmemory : (w.fail (system launch) q served).shared.backend p = w.shared.backend p :=
    fail_preserves (R := fun t => t.backend p = w.shared.backend p)
      (fun s hs => (backend_update_other s (fun b => b.mark .threw) (Ne.symm hq)).trans hs)
      (fun c _ _ => serve_leaves hq _ c _ rfl) rfl served
  exact h.same (fail_other (Ne.symm hq) served) hmemory

/-- Entering a program changes no memory. -/
theorem start_shared (w : Backends) (q : Nat) (x : Code Unit) : (w.start q x).shared = w.shared := by
  unfold World.start
  split <;> rfl

theorem Stage.start (h : Stage launch p accepted w n) (hbusy : w.idle p = false) (q : Nat) (x : Code Unit) :
    Stage launch p accepted (w.start q x) n := by
  by_cases hq : q = p
  · rw [hq, start_of_running hbusy]
    exact h
  · exact h.same (start_other (Ne.symm hq) x) (congrArg (fun s => s.backend p) (start_shared w q x))

/-- One event. Only a call of its own takes the send further; only a push makes it longer. -/
theorem stage_apply {es : List Event} (h : Stage launch p accepted (after launch es) n)
    (hbusy : (after launch es).idle p = false) (e : Event) (he : e ≠ .serve p) :
    Ended p accepted (after launch (es ++ [e])) ∨
      Stage launch p accepted (after launch (es ++ [e])) (n + callsPerSnapshot * (pushedOf p [e]).length) := by
  rw [after_snoc]
  cases e with
  | call session o => exact Or.inr (h.same rfl rfl)
  | push q snapshot =>
    right
    by_cases hq : q = p
    · subst hq
      rw [show (pushedOf q [.push q snapshot]).length = 1 by simp [pushedOf]]
      refine h.fed rfl ?_
      show Fed 1 _ (((after launch es).shared.update q fun b => b.push snapshot).backend q)
      rw [backend_update_same]
      exact fed_push _ snapshot
    · rw [show (pushedOf p [.push q snapshot]).length = 0 by simp [pushedOf, hq]]
      have hmemory := backend_update_other (after launch es).shared (fun b => b.push snapshot) (Ne.symm hq)
      exact h.same rfl hmemory
  | shutdown q =>
    right
    by_cases hq : q = p
    · subst hq
      refine h.fed (k := 0) rfl ?_
      show Fed 0 _ (((after launch es).shared.update q fun b => { b with queue := b.queue.shutdown }).backend q)
      rw [backend_update_same]
      exact fed_shutdown _
    · have hmemory := backend_update_other (after launch es).shared (fun b => { b with queue := b.queue.shutdown }) (Ne.symm hq)
      exact h.same rfl hmemory
  | addNodes q => exact Or.inr (h.start hbusy q _)
  | sendTelemetryPayload q => exact Or.inr (h.start hbusy q _)
  | serve q => exact Or.inr (h.serve_elsewhere fun hq => he (by rw [hq]))
  | fail q served =>
    by_cases hq : q = p
    · subst hq
      exact h.fail served
    · exact Or.inr (h.fail_elsewhere hq served)

/-- A process that has no program left, or no call, is through with its send. -/
theorem Stage.ended (h : Stage launch p accepted w n) (hidle : w.idle p = true) : Ended p accepted w := by
  cases h with
  | entered hrun =>
    simp [World.idle, hrun, send_eq] at hidle
  | waiting clientFolder hrun =>
    simp [World.idle, hrun, atDrain] at hidle
  | drained x hrun hends hdrained => exact ⟨hidle, hdrained⟩

theorem Stage.idle_of_zero (h : Stage launch p accepted w 0) : w.idle p = true := by
  cases h with
  | entered _ _ _ _ hn => omega
  | waiting _ _ _ _ hn => omega
  | drained x hrun hends hdrained =>
    cases hends with
    | done _ a => simp only [World.idle, hrun]

/-- With enough calls of its own it ends, however they are mixed with what others do. -/
theorem stage_run {es : List Event} (later : List Event) (h : Stage launch p accepted (after launch es) n)
    (hserved : n + callsPerSnapshot * (pushedOf p later).length ≤ later.count (.serve p)) :
    ∃ k ≤ later.length, Ended p accepted (after launch (es ++ later.take k)) := by
  induction later generalizing es n with
  | nil =>
    obtain rfl : n = 0 := Nat.eq_zero_of_le_zero (Nat.le_trans (Nat.le_add_right _ _) hserved)
    refine ⟨0, Nat.le_refl _, ?_⟩
    rw [List.take_nil, List.append_nil]
    exact h.ended h.idle_of_zero
  | cons e later ih =>
    cases hidle : (after launch es).idle p with
    | true =>
      refine ⟨0, Nat.zero_le _, ?_⟩
      rw [List.take_zero, List.append_nil]
      exact h.ended hidle
    | false =>
      -- the event either ends the send, or the rest of the events is enough for what is left of it
      suffices hstep : Ended p accepted (after launch (es ++ [e])) ∨ ∃ m, Stage launch p accepted (after launch (es ++ [e])) m ∧
          m + callsPerSnapshot * (pushedOf p later).length ≤ later.count (.serve p) by
        rcases hstep with hended | ⟨m, hstage, hleft⟩
        · refine ⟨1, Nat.le_add_left _ _, ?_⟩
          rw [List.take_succ_cons, List.take_zero]
          exact hended
        · obtain ⟨k, hk, hended⟩ := ih hstage hleft
          refine ⟨k + 1, Nat.succ_le_succ hk, ?_⟩
          rw [List.take_succ_cons, List.append_cons]
          exact hended
      rw [show e :: later = [e] ++ later from rfl, pushedOf_append, List.length_append, Nat.mul_add, List.count_append] at hserved
      by_cases he : e = .serve p
      · subst he
        rw [show pushedOf p [.serve p] = [] from rfl, List.count_singleton_self, List.length_nil] at hserved
        cases n with
        | zero =>
          rw [h.idle_of_zero] at hidle
          cases hidle
        | succ n =>
          rw [after_snoc]
          rcases h.serve (upright_after launch es p).conserved with hended | hstage
          · exact Or.inl hended
          · exact Or.inr ⟨n, hstage, by omega⟩
      · rw [List.count_singleton, if_neg (by simpa using he)] at hserved
        rcases stage_apply h hidle e he with hended | hstage
        · exact Or.inl hended
        · exact Or.inr ⟨_, hstage, by omega⟩

/-- Between two sends that nothing has thrown out of, all that has been drained has been
    written out, and what has been put is that, each snapshot in whole on the node set of
    its key. -/
theorem puts_when_idle (launch : Nat → Launch) (es : List Event) (p : Nat) (hidle : (after launch es).idle p = true)
    (hno : .threw ∉ ((after launch es).shared.backend p).trace) :
    let b := (after launch es).shared.backend p
    b.wrote = b.drained.map (fun snapshot => (snapshotNodes (launch p).clientName snapshot.name, snapshot)) ∧
      b.puts = b.drained.flatMap (putsIn (launch p).clientName) := by
  intro b
  have hsettled : Settled b := ((ledger_after launch es).part p).idle trivial hidle
  have horderly := hsettled.orderly hno
  have hdrained : (writes b).map (·.2) = b.drained := by
    rw [← horderly.order, List.append_nil]
  have hsane := ((sound_after launch (fun _ _ => True) es fun _ _ _ => trivial).inv.backends p).trace
  have hnodes : ∀ w ∈ writes b, w.1 = snapshotNodes (launch p).clientName w.2.name := fun w hw =>
    (hsane _ (mem_writes.mp hw)).1
  constructor
  · rw [horderly.wrote, ← hdrained, List.map_map]
    refine (List.map_id _).symm.trans (List.map_congr_left fun w hw => ?_)
    exact Prod.ext (hnodes w hw) rfl
  · rw [horderly.puts, puts_in hnodes, hdrained]

/-- From any state that a run has led to: a process that is not in a program enters
    `sendTelemetryPayload`, with its folder published and something in its queue. Then,
    whatever it and the others do, as soon as it has made `callsPerSnapshot` calls for each
    snapshot in the queue or pushed meanwhile, and three, the send has ended; and unless an
    exception has ever left the process, `writeSnapshot` has returned by then for a list of
    snapshots that begins with all that had been accepted before the send, in order, and
    what has been put on the server is each of them in whole. -/
theorem accepted_gets_written (launch : Nat → Launch) (es : List Event) (p : Nat) (later : List Event)
    (hidle : (after launch es).idle p = true) (hfolder : ((after launch es).shared.backend p).clientFolder ≠ none)
    (hready : ((after launch es).shared.backend p).queue.ready = true)
    (hserved : callsPerSnapshot * (((after launch es).shared.backend p).queue.queue.length + (pushedOf p later).length) + 3 ≤
      later.count (.serve p)) :
    ∃ k ≤ later.length,
      let w := after launch (es ++ .sendTelemetryPayload p :: later.take k)
      let b := w.shared.backend p
      w.idle p = true ∧ (.threw ∉ b.trace → ∃ written, ((after launch es).shared.backend p).accepted <+: written ∧
        b.wrote = written.map (fun snapshot => (snapshotNodes (launch p).clientName snapshot.name, snapshot)) ∧
        b.puts = written.flatMap (putsIn (launch p).clientName)) := by
  have hentered : Stage launch p ((after launch es).shared.backend p).accepted (after launch (es ++ [.sendTelemetryPayload p]))
      (callsPerSnapshot * ((after launch es).shared.backend p).queue.queue.length + 3) := by
    have hstart : after launch (es ++ [.sendTelemetryPayload p]) =
        (after launch es).proceed p (after launch es).shared (some (send (launch p).clientName)) := by
      rw [after_snoc]
      show (after launch es).start p _ = _
      unfold World.start
      rw [if_pos hidle]
      rfl
    rw [hstart]
    exact .entered (proceed_same _ _ _ _) (Option.isSome_iff_ne_none.mpr hfolder) hready (List.prefix_refl _) (Nat.le_refl _)
  rw [Nat.mul_add] at hserved
  obtain ⟨k, hk, hended⟩ := stage_run later hentered (by omega)
  rw [List.append_assoc, List.singleton_append] at hended
  exact ⟨k, hk, hended.idle, fun hno => ⟨_, hended.drained, puts_when_idle launch _ p hended.idle hno⟩⟩

/-- `plc` has published its folder, and its worker has pushed. -/
def plcQueues : List Event := (soloRun "plc" [cpuSnapshot] 0).dropLast

/-- Twenty-two calls are enough for one snapshot. -/
theorem accepted_gets_written_plc :
    ∃ k ≤ 22, let w := after (solo "plc") (plcQueues ++ .sendTelemetryPayload 0 :: (List.replicate 22 (.serve 0)).take k)
      w.idle 0 = true ∧ (snapshotNodes "plc" "CPU", cpuSnapshot) ∈ (w.shared.backend 0).wrote ∧
        putsIn "plc" cpuSnapshot <+: (w.shared.backend 0).puts := by
  have hno : ∀ k ≤ 22, .threw ∉ ((after (solo "plc") (plcQueues ++ .sendTelemetryPayload 0 ::
      (List.replicate 22 (.serve 0)).take k)).shared.backend 0).trace := by
    decide +kernel
  have haccepted : ((after (solo "plc") plcQueues).shared.backend 0).accepted = [cpuSnapshot] := by decide +kernel
  obtain ⟨k, hk, hidle, hwritten⟩ := accepted_gets_written (solo "plc") plcQueues 0 (List.replicate 22 (.serve 0))
    (by decide +kernel) (by decide +kernel) (by decide +kernel) (by decide +kernel)
  obtain ⟨written, hfirst, hwrote, hputs⟩ := hwritten (hno k hk)
  rw [haccepted] at hfirst
  obtain ⟨later, rfl⟩ := hfirst
  refine ⟨k, hk, hidle, ?_, ?_⟩
  · rw [hwrote]
    exact List.mem_map_of_mem List.mem_cons_self
  · rw [hputs]
    exact List.prefix_append _ _

end HardwareMonitor.SystemInfo
