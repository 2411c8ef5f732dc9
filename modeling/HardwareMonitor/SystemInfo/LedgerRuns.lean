/-
  HardwareMonitor.SystemInfo.LedgerRuns — the programs of a backend over its ledger, and
  with them every run.

  Whatever the server answers and wherever a call throws, a program that starts from a
  settled ledger leaves a settled one, and is upright at each of its calls
  (`sendTelemetryPayload_settles`). The calls change a process's own memory only, so a run
  of any number of processes keeps each one's ledger (`ledger_after`).
-/

import HardwareMonitor.SystemInfo.Ledger

namespace HardwareMonitor.SystemInfo

open HardwareMonitor.OpcUa
open HardwareMonitor.ControlCenter (Variant SnapshotNodeIds)
open HardwareMonitor.Lib.Interaction

/-! ## The accord -/

/-- A process counts on its memory, to which workers may push. -/
def ledger : Accord Nat Call Shared where
  inv _ := True
  rely p s t := Pushed (s.backend p) (t.backend p)
  refl _ _ := Pushed.refl _
  trans _ _ _ _ := Pushed.trans
  ask p _ s := Upright (s.backend p)
  quit p s := Upright (s.backend p) ∧ Midway (s.backend p)
  idle p s := Settled (s.backend p)
  idle_stable _ _ _ hr _ h := h.pushed hr

variable {launch : Nat → Launch} {p : Nat} {s t u : Shared} {b : Backend}
  {sent : List (SnapshotNodeIds × TelemetrySnapshot)} {later : List TelemetrySnapshot}

/-- A step that leaves the memory of the others alone. -/
theorem keeps_of_others (h : ∀ q, q ≠ p → u.backend q = t.backend q) : ledger.Keeps p t u where
  inv := trivial
  others q hq := by
    show Pushed (t.backend q) (u.backend q)
    rw [h q hq]
    exact Pushed.refl _

@[simp] theorem backend_update_same (s : Shared) (p : Nat) (f : Backend → Backend) :
    (s.update p f).backend p = f (s.backend p) := if_pos rfl

theorem backend_update_other {q : Nat} (s : Shared) (f : Backend → Backend) (hq : q ≠ p) :
    (s.update p f).backend q = s.backend q := if_neg hq

/-! ## One call -/

/-- The process's memory is `b`, but for what has been pushed since. -/
def Holds (p : Nat) (b : Backend) (s : Shared) : Prop := Pushed b (s.backend p)

/-- A request that writes nothing. -/
theorem request_holds {c : Call} (hc : ∀ t, match serve launch p c t with
      | .blocks => True
      | .fails u => ∀ q, u.backend q = t.backend q
      | .answers _ u => ∀ q, u.backend q = t.backend q)
    (hb : Upright b) (hm : Midway b) (h : Holds p b s) :
    Upholds (system launch) ledger p (fun _ => Holds p b) (perform c) s := by
  refine Upholds.ask fun t _ hr => ?_
  have ht : Pushed b (t.backend p) := h.trans hr
  refine ⟨hb.pushed ht, fun _ => ⟨hb.pushed ht, hm.pushed ht⟩, ?_⟩
  have hserve := hc t
  rw [show (system launch).serve p c t = serve launch p c t from rfl]
  cases hs : serve launch p c t with
  | blocks => trivial
  | fails u =>
    rw [hs] at hserve
    refine ⟨keeps_of_others fun q _ => hserve q, ?_⟩
    show Upright (u.backend p) ∧ Midway (u.backend p)
    rw [hserve p]
    exact ⟨hb.pushed ht, hm.pushed ht⟩
  | answers a u =>
    rw [hs] at hserve
    have hu : Pushed b (u.backend p) := by rwa [hserve p]
    exact ⟨keeps_of_others fun q _ => hserve q, fun _ => ⟨hb.pushed hu, hm.pushed hu⟩, fun v _ hv => hu.trans hv⟩

theorem browse_holds {parent : NodeId} {ns : UInt16} {name : String} (hb : Upright b) (hm : Midway b) (h : Holds p b s) :
    Upholds (system launch) ledger p (fun _ => Holds p b) (tryBrowseChild parent ns name) s :=
  request_holds (fun _ _ => rfl) hb hm h

theorem addNode_holds {parent id : NodeId} {name : String} (hb : Upright b) (hm : Midway b) (h : Holds p b s) :
    Upholds (system launch) ledger p (fun _ => Holds p b) (addNode parent id name) s := by
  refine request_holds (fun t => ?_) hb hm h
  dsimp only [serve]
  cases (serverAfter telemetryClientsFolderId t.log).created _ _ _ <;> exact fun _ => rfl

/-- The next value of the snapshot that is being written. -/
theorem put_holds {w : SnapshotNodeIds × TelemetrySnapshot} {part : List (NodeId × Variant)} {id : NodeId} {value : Variant}
    (hb : Writing b sent w part later) (hnext : part ++ [(id, value)] <+: putsOf w) (h : Holds p b s) :
    Upholds (system launch) ledger p (fun _ => Holds p (b.mark (.put id value))) (perform (.writeValue id value)) s := by
  refine Upholds.ask fun t _ hr => ?_
  have ht : Pushed b (t.backend p) := h.trans hr
  have hquit : Upright (t.backend p) ∧ Midway (t.backend p) := ⟨hb.upright.pushed ht, hb.midway.pushed ht⟩
  refine ⟨hquit.1, fun _ => hquit, ?_⟩
  dsimp only [system, serve]
  cases t.has id with
  | false => exact ⟨keeps_of_others fun _ _ => rfl, hquit⟩
  | true =>
    have hput : Pushed (b.mark (.put id value)) (((t.write id value).update p fun b => b.mark (.put id value)).backend p) := by
      rw [backend_update_same]
      exact ht.mark _
    refine ⟨keeps_of_others fun q hq => backend_update_other _ _ hq, fun _ => ⟨?_, ?_⟩, fun v _ hv => hput.trans hv⟩
    · exact (hb.put id value hnext).upright.pushed hput
    · exact (hb.put id value hnext).midway.pushed hput

/-- An access to the process's own memory, which throws nothing. -/
theorem memory_holds (c : Call) (answer : Backend → c.Answer) (f : Backend → Backend) {b' : Backend} (hc : c.remote = false)
    (hserve : ∀ t, serve launch p c t = .answers (answer (t.backend p)) (t.update p f))
    (hf : ∀ b₁, Pushed b b₁ → Pushed b' (f b₁)) (hb : Upright b) (h : Holds p b s) :
    Upholds (system launch) ledger p (fun a t => (∃ b₁, Pushed b b₁ ∧ a = answer b₁) ∧ Holds p b' t) (perform c) s := by
  refine Upholds.ask fun t _ hr => ?_
  have ht : Pushed b (t.backend p) := h.trans hr
  have hsafe : (system launch).fallible c = true → False := fun hf => Bool.false_ne_true (hc.symm.trans hf)
  refine ⟨hb.pushed ht, fun hf => (hsafe hf).elim, ?_⟩
  rw [show (system launch).serve p c t = serve launch p c t from rfl, hserve t]
  refine ⟨keeps_of_others fun q hq => backend_update_other _ _ hq, fun hf => (hsafe hf).elim, fun v _ hv => ⟨?_, ?_⟩⟩
  · exact ⟨t.backend p, ht, rfl⟩
  · have hu : Pushed b' ((t.update p f).backend p) := by
      rw [backend_update_same]
      exact hf _ ht
    exact hu.trans hv

theorem update_id (s : Shared) (p : Nat) : s.update p (fun b => b) = s := by
  unfold Shared.update
  simp only [ite_self]

theorem mark_holds {m : Mark} (hb : Upright b) (h : Holds p b s) :
    Upholds (system launch) ledger p (fun _ => Holds p (b.mark m)) (perform (.mark m)) s :=
  Upholds.weaken (memory_holds (.mark m) (fun _ => ()) (fun b => b.mark m) rfl (fun _ => rfl) (fun _ h => h.mark m) hb h)
    fun _ _ _ h => h.2

/-- A member is read. -/
theorem read_holds (c : Call) (answer : Backend → c.Answer) (hc : c.remote = false)
    (hserve : ∀ t, serve launch p c t = .answers (answer (t.backend p)) t) (hb : Upright b) (h : Holds p b s) :
    Upholds (system launch) ledger p (fun a t => (∃ b₁, Pushed b b₁ ∧ a = answer b₁) ∧ Holds p b t) (perform c) s := by
  refine memory_holds c answer (fun b => b) hc (fun t => ?_) (fun _ h => h) hb h
  rw [update_id, hserve]

/-! ## A device's node set -/

theorem ensure_holds {parent id : NodeId} {ns : UInt16} {name : String} (hb : Upright b) (hm : Midway b) (h : Holds p b s) :
    Upholds (system launch) ledger p (fun _ => Holds p b)
      (tryBrowseChild parent ns name >>= fun existing =>
        match existing with
        | some existing => .done existing
        | none => addNode parent id name) s := by
  refine Upholds.bind (browse_holds hb hm h) fun existing t _ h => ?_
  cases existing with
  | some existing => exact Upholds.done fun u _ hr => h.trans hr
  | none => exact addNode_holds hb hm h

theorem ensureSnapshotNode_holds {clientFolder : NodeId} {deviceName deviceKey : String} {ns : UInt16} (hb : Upright b)
    (hm : Midway b) (h : Holds p b s) :
    Upholds (system launch) ledger p (fun _ => Holds p b) (ensureSnapshotNode clientFolder deviceName deviceKey ns) s := by
  refine Upholds.bind (ensure_holds hb hm h) fun obj t _ h => ?_
  refine Upholds.bind (ensure_holds hb hm h) fun name t _ h => ?_
  refine Upholds.bind (ensure_holds hb hm h) fun vendor t _ h => ?_
  refine Upholds.bind (ensure_holds hb hm h) fun hardwareType t _ h => ?_
  refine Upholds.bind (ensure_holds hb hm h) fun sensors t _ h => ?_
  exact Upholds.done fun u _ hr => h.trans hr

/-- Before the next snapshot is written, its key is known: it was, or is entered once. -/
theorem deviceNodes_sends {clientName : String} {clientFolder : NodeId} {snapshot : TelemetrySnapshot}
    {rest : List TelemetrySnapshot} (h : Sending (s.backend p) (snapshot :: rest)) :
    Upholds (system launch) ledger p
      (fun _ t => Sending (t.backend p) (snapshot :: rest) ∧ ((t.backend p).deviceNodes snapshot.name).isSome = true)
      (deviceNodes clientName clientFolder snapshot.name) s := by
  refine Upholds.bind (read_holds (.findDevice snapshot.name) (fun b => b.deviceNodes snapshot.name) rfl
    (fun _ => rfl) h.upright (Pushed.refl _)) fun it t _ ht => ?_
  obtain ⟨⟨b₁, hb₁, rfl⟩, ht⟩ := ht
  rw [hb₁.deviceNodes]
  cases hnode : (s.backend p).deviceNodes snapshot.name with
  | some ids =>
    refine Upholds.done fun u _ hr => ?_
    have hu : Pushed (s.backend p) (u.backend p) := ht.trans hr
    exact ⟨h.pushed hu, by rw [hu.deviceNodes, hnode, Option.isSome_some]⟩
  | none =>
    have hensures := h.ensures hnode
    refine Upholds.bind (mark_holds h.upright ht) fun _ t _ ht => ?_
    refine Upholds.bind (ensureSnapshotNode_holds hensures (h.midway.mark rfl rfl) ht) fun ids t _ ht => ?_
    refine Upholds.bind (memory_holds (.emplaceDevice snapshot.name ids) (fun _ => ())
      (fun b => b.emplace snapshot.name ids) rfl (fun _ => rfl) (fun _ h => h.emplace snapshot.name ids) hensures ht)
      fun _ t _ ht => Upholds.done fun u _ hr => ?_
    have hu : Pushed (((s.backend p).mark (.ensures snapshot.name)).emplace snapshot.name ids) (u.backend p) := ht.2.trans hr
    refine ⟨(h.emplace hnode ids).pushed hu, ?_⟩
    rw [hu.deviceNodes, isSome_emplace]
    exact Or.inl rfl

/-! ## Sending -/

theorem writeSnapshot_holds (ids : SnapshotNodeIds) (snapshot : TelemetrySnapshot)
    (hb : Writing b sent (ids, snapshot) [] later) (h : Holds p b s) :
    Upholds (system launch) ledger p
      (fun _ => Holds p ((putsOf (ids, snapshot)).foldl (fun b e => b.mark (.put e.1 e.2)) b))
      (writeSnapshot ids (buildTelemetryStore snapshot)) s := by
  have hparts (n : Nat) : (putsOf (ids, snapshot)).take n <+: putsOf (ids, snapshot) := List.take_prefix n _
  refine Upholds.bind (put_holds hb (hparts 1) h) fun _ t _ h => ?_
  have hb := hb.put ids.name (.string snapshot.name) (hparts 1)
  refine Upholds.bind (put_holds hb (hparts 2) h) fun _ t _ h => ?_
  have hb := hb.put ids.vendor (.string snapshot.vendor) (hparts 2)
  refine Upholds.bind (put_holds hb (hparts 3) h) fun _ t _ h => ?_
  have hb := hb.put ids.hardwareType (.string snapshot.hardwareType) (hparts 3)
  exact put_holds hb (hparts 4) h

theorem sendSnapshot_sends {clientName : String} {clientFolder : NodeId} {snapshot : TelemetrySnapshot}
    {rest : List TelemetrySnapshot} (h : Sending (s.backend p) (snapshot :: rest)) :
    Upholds (system launch) ledger p (fun _ t => Sending (t.backend p) rest)
      (sendSnapshot clientName clientFolder (snapshot, buildTelemetryStore snapshot)) s := by
  refine Upholds.bind (deviceNodes_sends h) fun ids t _ h => ?_
  obtain ⟨h, hknown⟩ := h
  obtain ⟨sent, hbegin⟩ := h.begin ids
  refine Upholds.bind (mark_holds h.upright (Pushed.refl (t.backend p))) fun _ u _ hu => ?_
  refine Upholds.bind (writeSnapshot_holds ids snapshot hbegin hu) fun _ v _ hv => ?_
  have hlast := (((hbegin.upright.put ids.name (.string snapshot.name)).put ids.vendor (.string snapshot.vendor)).put
    ids.hardwareType (.string snapshot.hardwareType)).put ids.sensors (.extensionObjects (snapshot.sensors.map sensorObject))
  exact Upholds.weaken (mark_holds hlast hv) fun _ v _ hv => (h.writeOut hknown ids).pushed hv

/-- A send leaves a settled ledger. -/
theorem sendTelemetryPayload_settles {clientName : String} (h : Settled (s.backend p)) :
    Upholds (system launch) ledger p (fun _ t => Settled (t.backend p)) (sendTelemetryPayload clientName) s := by
  have returned : ∀ {t : Shared}, Sending (t.backend p) [] →
      Upholds (system launch) ledger p (fun _ t => Settled (t.backend p)) (perform (.mark .returned) >>= fun _ => .done true) t :=
    fun h => Upholds.bind (mark_holds h.upright (Pushed.refl _)) fun _ u _ hu =>
      Upholds.done fun v _ hr => h.return.pushed (hu.trans hr)
  refine Upholds.bind (read_holds .clientFolder Backend.clientFolder rfl (fun _ => rfl) h.upright
    (Pushed.refl _)) fun folder t _ ht => ?_
  replace ht : Settled (t.backend p) := h.pushed ht.2
  cases folder with
  | none => exact Upholds.done fun u _ hr => ht.pushed hr
  | some clientFolder =>
    refine Upholds.bind (Q := fun drained u => Sending (u.backend p) drained) ?_ fun drained u _ hu => ?_
    · refine Upholds.ask fun u _ hr => ?_
      have hu : Settled (u.backend p) := ht.pushed hr
      refine ⟨hu.upright, fun hf => absurd hf Bool.false_ne_true, ?_⟩
      dsimp only [system, serve]
      cases (u.backend p).queue.ready with
      | false => trivial
      | true =>
        refine ⟨keeps_of_others fun q hq => backend_update_other _ _ hq, fun hf => absurd hf Bool.false_ne_true,
          fun v _ hr => ?_⟩
        have hdrain := hu.drain
        rw [← ClientQueue.drain_fst] at hdrain
        refine Sending.pushed hdrain ?_
        replace hr : Pushed _ (v.backend p) := hr
        rwa [backend_update_same] at hr
    · dsimp only
      cases hempty : drained.isEmpty with
      | true =>
        rw [List.isEmpty_iff.mp hempty] at hu
        exact returned hu
      | false =>
        let I : List (TelemetrySnapshot × TelemetryStore) → Shared → Prop := fun es t =>
          (∀ e ∈ es, e.2 = buildTelemetryStore e.1) ∧ Sending (t.backend p) (es.map (·.1))
        have hsend : I (drained.zip (buildTelemetryPayload drained)) u := by
          rw [zip_payload]
          refine ⟨fun e he => ?_, ?_⟩
          · obtain ⟨snapshot, -, rfl⟩ := List.mem_map.mp he
            rfl
          · rw [List.map_map]
            simpa [Function.comp_def] using hu
        refine Upholds.bind (Upholds.forM (I := I) (fun es _ _ _ hr h => ⟨h.1, h.2.pushed hr⟩) (fun e es s _ h => ?_) _ hsend)
          fun _ t _ h => returned h.2
        obtain ⟨snapshot, store⟩ := e
        obtain rfl : store = buildTelemetryStore snapshot := h.1 _ List.mem_cons_self
        exact Upholds.weaken (sendSnapshot_sends h.2) fun _ t _ ht => ⟨fun e he => h.1 e (List.mem_cons_of_mem _ he), ht⟩

theorem addNodes_settles {clientName : String} (h : Settled (s.backend p)) :
    Upholds (system launch) ledger p (fun _ t => Settled (t.backend p)) (addNodes clientName) s := by
  refine Upholds.bind (browse_holds h.upright h.midway (Pushed.refl (s.backend p))) fun clientsFolder t _ ht => ?_
  cases clientsFolder with
  | none =>
    intro u _ hr
    have hu := h.pushed (ht.trans hr)
    exact ⟨hu.upright, hu.midway⟩
  | some clientsFolder =>
    refine Upholds.bind (request_holds (c := .readBrowseName clientsFolder) (fun _ _ => rfl) h.upright h.midway ht)
      fun _ t _ ht => ?_
    refine Upholds.bind (ensure_holds h.upright h.midway ht) fun folder t _ ht => ?_
    let b' : Backend := { s.backend p with clientFolder := some folder }
    have hset (b₁) (hb₁ : Pushed (s.backend p) b₁) : Pushed b' { b₁ with clientFolder := some folder } :=
      ⟨rfl, hb₁.deviceNodes, hb₁.trace, hb₁.queue⟩
    refine Upholds.weaken (memory_holds (.setClientFolder folder) (fun _ => ())
      (fun b => { b with clientFolder := some folder }) rfl (fun _ => rfl) hset h.upright ht) fun _ t _ ht => ?_
    have hfolder : Settled b' :=
      ⟨h.conserved, h.closed, fun hno => ⟨(h.orderly hno).wrote, (h.orderly hno).order, (h.orderly hno).puts,
        (h.orderly hno).once, (h.orderly hno).known, (h.orderly hno).first⟩⟩
    exact hfolder.pushed ht.2

/-! ## Runs -/

theorem ledger_quitSafe : QuitSafe (system launch) ledger := fun p s _ hquit => by
  refine ⟨keeps_of_others fun q hq => backend_update_other s (fun b => b.mark .threw) hq, ?_⟩
  show Settled ((s.update p fun b => b.mark .threw).backend p)
  rw [backend_update_same]
  exact hquit.1.throw

/-- Every process keeps its ledger, whatever happens. -/
theorem ledger_after (launch : Nat → Launch) (es : List Event) : Sound (system launch) ledger (after launch es) := by
  induction es using List.reverseRecOn with
  | nil =>
    refine ⟨trivial, fun q => ?_⟩
    have hstart : Settled Backend.start :=
      ⟨rfl, rfl, fun _ => ⟨rfl, rfl, rfl, List.nodup_nil, fun key => by simp [Backend.start, Backend.ensured],
        fun w hw => nomatch hw⟩⟩
    exact hstart
  | append_singleton es e ih =>
    rw [after_snoc]
    -- what happens to one process's memory from outside
    have hmemory : ∀ (q : Nat) (f : Backend → Backend), (∀ b, Pushed b (f b)) →
        Sound (system launch) ledger ((after launch es).outside fun s => s.update q f) := by
      intro q f hf
      refine ih.outside trivial fun r => ?_
      show Pushed _ ((Shared.update _ q f).backend r)
      by_cases hr : r = q
      · rw [hr, backend_update_same]
        exact hf _
      · rw [backend_update_other _ _ hr]
        exact Pushed.refl _
    cases e with
    | call session o => exact ih.outside (f := fun s => s.call session o.1) trivial fun r => Pushed.refl _
    | push q snapshot =>
      refine hmemory q _ fun b => ⟨rfl, rfl, rfl, ?_⟩
      simp only [Backend.push, ClientQueue.push]
      cases b.queue.shuttingDown with
      | true => exact ⟨[], by simp⟩
      | false => exact ⟨[snapshot], by simp⟩
    | shutdown q => exact hmemory q _ fun b => ⟨rfl, rfl, rfl, [], (List.append_nil _).symm, (List.append_nil _).symm⟩
    | addNodes q => exact ih.start q _ addNodes_settles
    | sendTelemetryPayload q =>
      refine ih.start q _ fun h => Upholds.bind (sendTelemetryPayload_settles h) fun _ t _ ht => ?_
      exact Upholds.done fun u _ hr => ht.pushed hr
    | serve q => exact ih.serve ledger_quitSafe q
    | fail q served => exact ih.fail ledger_quitSafe q served

end HardwareMonitor.SystemInfo
