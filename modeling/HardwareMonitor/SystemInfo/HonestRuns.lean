/-
  HardwareMonitor.SystemInfo.HonestRuns — the programs of the backends under the accord of
  `HonestBackends`, and with them every run.

  (1) Each member function does its part from any state and whatever the others do, so
      after every run the tree is honest and each process remembers only its own
      (`sound_after`).
  (2) Each AddNodes request a run makes is for a place of the process's own name, below
      places of that name. The server admits it if the session was last activated under
      that name and the keys are not empty (`honest_client_admitted`).
-/

import HardwareMonitor.SystemInfo.HonestBackends

namespace HardwareMonitor.SystemInfo

open HardwareMonitor.OpcUa
open HardwareMonitor.ControlCenter (Variant SnapshotNodeIds)
open HardwareMonitor.Lib.Interaction

variable {launch : Nat → Launch} {ok : Nat → TelemetrySnapshot → Prop} {p : Nat} {pl : Place} {s t : Shared}

/-! ## The node of one place -/

/-- What `ensureClientFolder`, `ensureStringVar` and the other two have in common. -/
def ensureAt (pl : Place) : Code NodeId := do
  let existing ← tryBrowseChild (Place.idOf pl.above) telemetryNamespaceIndex pl.browseName
  match existing with
  | some existing => return existing
  | none => addNode (Place.idOf pl.above) pl.id pl.browseName

theorem ensureClientFolder_eq (d : String) :
    ensureClientFolder telemetryClientsFolderId d telemetryNamespaceIndex = ensureAt (.folder d) := rfl

theorem ensureObject_eq (d key : String) :
    ensureObject (Place.folder d).id d key telemetryNamespaceIndex = ensureAt (.object d key) := rfl

theorem ensureStringVar_eq (d key f : String) :
    ensureStringVar (Place.object d key).id d key f telemetryNamespaceIndex = ensureAt (.field d key f) := rfl

theorem ensureSensors_eq (d key : String) :
    ensureSensors (Place.object d key).id d key telemetryNamespaceIndex = ensureAt (.field d key "sensors") := rfl

theorem addNode_eq (pl : Place) : addNode (Place.idOf pl.above) pl.id pl.browseName = perform (.addNode (itemAt pl)) := by
  cases pl <;> rfl

/-- What nodes that stay cannot break holds afterwards too. -/
theorem Upholds.along {α : Type} {Q : α → Shared → Prop} {R : Shared → Prop} {x : Code α}
    (h : Upholds (system launch) (accord launch ok) p Q x s) (hR : ∀ t u, Grows t u → R t → R u) (hs : R s) :
    Upholds (system launch) (accord launch ok) p (fun a t => Q a t ∧ R t) x s :=
  h.frame hR (fun t u hk => hR t u (grows_of_keeps hk)) hs

/-- The node of a place is there afterwards, whether it was or had to be created. -/
theorem ensureAt_upholds (hmine : Mine (ok p) (launch p).clientName pl) (hready : Ready s.tree pl) :
    Upholds (system launch) (accord launch ok) p (fun id t => id = pl.id ∧ Present t.tree pl) (ensureAt pl) s := by
  refine Upholds.bind (Upholds.along (R := fun t => Ready t.tree pl) (browse_upholds hready.above)
    (fun t u hg h => h.mono hg) hready) fun existing t ht h => ?_
  cases existing with
  | some id => exact Upholds.done fun u hu hru => ⟨(h.1 id rfl).1, (h.1 id rfl).2.mono hru⟩
  | none =>
    show Upholds _ _ p _ (addNode (Place.idOf pl.above) pl.id pl.browseName) t
    rw [addNode_eq]
    exact addNode_upholds hmine h.2

/-- All these places are filled. -/
def AllPresent (nodes : List PublishedNode) (filled : List Place) : Prop := ∀ q ∈ filled, Present nodes q

theorem AllPresent.mono {filled : List Place} (h : AllPresent s.tree filled) (hg : Grows s t) : AllPresent t.tree filled :=
  fun q hq => (h q hq).mono hg

/-- The same after other places have been filled. -/
theorem ensureNext_upholds (hmine : Mine (ok p) (launch p).clientName pl) {filled : List Place}
    (hfilled : AllPresent s.tree filled) (hup : ∀ q, pl.above = some q → q ∈ filled)
    (hlast : ∀ d key, pl = .field d key "sensors" → ∀ f ∈ identityFields, Place.field d key f ∈ filled) :
    Upholds (system launch) (accord launch ok) p (fun id t => id = pl.id ∧ AllPresent t.tree (pl :: filled))
      (ensureAt pl) s := by
  have hready : Ready s.tree pl :=
    ⟨fun q hq => hfilled q (hup q hq), fun d key e f hf => hfilled _ (hlast d key e f hf)⟩
  refine Upholds.weaken (Upholds.along (R := fun t => AllPresent t.tree filled) (ensureAt_upholds hmine hready)
    (fun t u hg h => h.mono hg) hfilled) fun id t ht h => ⟨h.1.1, fun q hq => ?_⟩
  rcases List.mem_cons.mp hq with rfl | hq
  · exact h.1.2
  · exact h.2 q hq

/-! ## A device's node set -/

/-- The next field of a device's object; the sensors when the other fields are there. -/
theorem ensureField_upholds {d key f : String} (hmine : Mine (ok p) (launch p).clientName (.field d key f)) {filled : List Place}
    (hfilled : AllPresent s.tree filled) (hobject : .object d key ∈ filled)
    (hlast : f = "sensors" → ∀ g ∈ identityFields, Place.field d key g ∈ filled) :
    Upholds (system launch) (accord launch ok) p
      (fun id t => id = (Place.field d key f).id ∧ AllPresent t.tree (.field d key f :: filled))
      (ensureStringVar (Place.object d key).id d key f telemetryNamespaceIndex) s := by
  rw [ensureStringVar_eq]
  refine ensureNext_upholds hmine hfilled (fun q hq => ?_) fun d' key' e g hg => ?_
  · rwa [← Option.some.inj hq]
  · cases e
    exact hlast rfl g hg

theorem ensureSnapshotNode_upholds {snapshot : TelemetrySnapshot} (hok : ok p snapshot)
    (hfolder : Present s.tree (.folder (launch p).clientName)) :
    Upholds (system launch) (accord launch ok) p
      (fun ids t => ids = snapshotNodes (launch p).clientName snapshot.name ∧
        Filled t.tree (launch p).clientName snapshot.name)
      (ensureSnapshotNode (Place.folder (launch p).clientName).id (launch p).clientName snapshot.name telemetryNamespaceIndex)
      s := by
  have hstart : AllPresent s.tree [.folder (launch p).clientName] := fun q hq => by rwa [List.mem_singleton.mp hq]
  unfold ensureSnapshotNode
  rw [ensureObject_eq]
  refine Upholds.bind (ensureNext_upholds (.object hok) hstart (fun q hq => ?_) fun d key e => nomatch e)
    fun obj t ht h => ?_
  · rw [← Option.some.inj hq]
    exact List.mem_singleton.mpr rfl
  obtain ⟨rfl, h⟩ := h
  refine Upholds.bind (ensureField_upholds (.field hok _) h (by simp) (by simp)) fun name t ht h => ?_
  obtain ⟨rfl, h⟩ := h
  refine Upholds.bind (ensureField_upholds (.field hok _) h (by simp) (by simp)) fun vendor t ht h => ?_
  obtain ⟨rfl, h⟩ := h
  refine Upholds.bind (ensureField_upholds (.field hok _) h (by simp) (by simp)) fun hardwareType t ht h => ?_
  obtain ⟨rfl, h⟩ := h
  rw [ensureSensors_eq, ← ensureStringVar_eq]
  refine Upholds.bind (ensureField_upholds (.field hok _) h (by simp) (by simp [identityFields])) fun sensors t ht h => ?_
  obtain ⟨rfl, h⟩ := h
  refine Upholds.done fun u hu hru => ⟨rfl, fun f hf => (h _ ?_).mono hru⟩
  rcases List.mem_cons.mp hf with rfl | hf
  · simp
  · simp only [List.mem_cons, List.not_mem_nil, or_false] at hf
    rcases hf with rfl | rfl | rfl <;> simp

/-- The node set of a key, remembered or ensured. -/
theorem deviceNodes_upholds {snapshot : TelemetrySnapshot} (hok : ok p snapshot)
    (hfolder : Present s.tree (.folder (launch p).clientName)) :
    Upholds (system launch) (accord launch ok) p
      (fun ids t => ids = snapshotNodes (launch p).clientName snapshot.name ∧
        Filled t.tree (launch p).clientName snapshot.name)
      (deviceNodes (launch p).clientName (Place.folder (launch p).clientName).id snapshot.name) s := by
  refine Upholds.bind (Q := fun it t => (∀ ids, it = some ids → ids = snapshotNodes (launch p).clientName snapshot.name ∧
    Filled t.tree (launch p).clientName snapshot.name) ∧ Present t.tree (.folder (launch p).clientName)) ?_
    fun it t ht h => ?_
  · refine Upholds.ask fun t ht hr => ⟨trivial, fun _ => trivial, Accord.keeps_refl ht p, fun _ => trivial, ?_⟩
    intro u hu hru
    refine ⟨fun ids hids => ?_, (hfolder.mono hr).mono hru⟩
    exact ⟨((ht.backends p).deviceNodes _ ids hids).1, ((ht.backends p).deviceNodes _ ids hids).2.mono hru⟩
  · obtain ⟨hknown, hfolder⟩ := h
    cases it with
    | some ids => exact Upholds.done fun u hu hru => ⟨(hknown ids rfl).1, (hknown ids rfl).2.mono hru⟩
    | none =>
      refine Upholds.bind (Upholds.along (R := fun t => Present t.tree (.folder (launch p).clientName))
        (mark_upholds trivial fun _ _ e => nomatch e) (fun t u hg h => h.mono hg) hfolder) fun _ t ht h => ?_
      refine Upholds.bind (ensureSnapshotNode_upholds hok h.2) fun ids t ht h => ?_
      obtain ⟨rfl, hfilled⟩ := h
      refine Upholds.bind (Upholds.along (Q := fun _ _ => True)
        (R := fun t => Filled t.tree (launch p).clientName snapshot.name) ?_ (fun t u hg h => h.mono hg) hfilled)
        fun _ t ht h => Upholds.done fun u hu hru => ⟨rfl, h.2.mono hru⟩
      refine Upholds.ask fun t ht hr => ⟨trivial, fun _ => trivial, ?_, fun _ => trivial, fun _ _ _ => trivial⟩
      have hb := ht.backends p
      refine keeps_update ht ⟨hb.queue, hb.clientFolder, fun key ids hids => ?_, hb.trace⟩
      simp only [Backend.emplace] at hids
      split at hids
      · rename_i hkey
        rw [← Option.some.inj hids, hkey]
        cases hold : (t.backend p).deviceNodes snapshot.name with
        | none => exact ⟨rfl, hfilled.mono hr⟩
        | some ids => exact hb.deviceNodes _ ids hold
      · exact hb.deviceNodes key ids hids

/-! ## Sending -/

theorem writeSnapshot_upholds {snapshot : TelemetrySnapshot} (hok : ok p snapshot)
    (hfilled : Filled s.tree (launch p).clientName snapshot.name) :
    Upholds (system launch) (accord launch ok) p (fun _ t => Filled t.tree (launch p).clientName snapshot.name)
      (writeSnapshot (snapshotNodes (launch p).clientName snapshot.name) (buildTelemetryStore snapshot)) s := by
  -- each of the four writes, with the node set still there afterwards
  have hwrite : ∀ f ∈ snapshotFields, ∀ t : Shared, Filled t.tree (launch p).clientName snapshot.name →
      Upholds (system launch) (accord launch ok) p
        (fun _ u => True ∧ Filled u.tree (launch p).clientName snapshot.name)
        (perform (.writeValue (Place.field (launch p).clientName snapshot.name f).id (fieldValue snapshot f))) t :=
    fun f hf t ht => Upholds.along (R := fun t => Filled t.tree (launch p).clientName snapshot.name)
      (write_upholds hf hok (ht f hf)) (fun t u hg h => h.mono hg) ht
  refine Upholds.bind (hwrite "name" (by decide) s hfilled) fun _ t ht h => ?_
  refine Upholds.bind (hwrite "vendor" (by decide) t h.2) fun _ t ht h => ?_
  refine Upholds.bind (hwrite "hardware_type" (by decide) t h.2) fun _ t ht h => ?_
  exact Upholds.weaken (hwrite "sensors" (by decide) t h.2) fun _ u hu h => h.2

/-- What the loop of `sendTelemetryPayload` has still to send, and where. -/
def ToSend (ok : TelemetrySnapshot → Prop) (d : String) (es : List (TelemetrySnapshot × TelemetryStore))
    (s : Shared) : Prop :=
  Present s.tree (.folder d) ∧ ∀ e ∈ es, ok e.1 ∧ e.2 = buildTelemetryStore e.1

theorem sendSnapshot_upholds {e : TelemetrySnapshot × TelemetryStore} {es : List (TelemetrySnapshot × TelemetryStore)}
    (h : ToSend (ok p) (launch p).clientName (e :: es) s) :
    Upholds (system launch) (accord launch ok) p (fun _ => ToSend (ok p) (launch p).clientName es)
      (sendSnapshot (launch p).clientName (Place.folder (launch p).clientName).id e) s := by
  obtain ⟨hfolder, hes⟩ := h
  obtain ⟨hok, hstore⟩ := hes e List.mem_cons_self
  refine Upholds.weaken (Q := fun _ t => True ∧ Present t.tree (.folder (launch p).clientName))
    (Upholds.along ?_ (fun t u hg h => h.mono hg) hfolder)
    fun _ t ht h => ⟨h.2, fun e he => hes e (List.mem_cons_of_mem _ he)⟩
  refine Upholds.bind (deviceNodes_upholds hok hfolder) fun ids t ht h => ?_
  obtain ⟨rfl, hfilled⟩ := h
  have hgrow : ∀ t u : Shared, Grows t u → Filled t.tree (launch p).clientName e.1.name →
      Filled u.tree (launch p).clientName e.1.name := fun t u hg h => h.mono hg
  refine Upholds.bind (Upholds.along (mark_upholds ⟨rfl, hok, hfilled⟩ fun _ _ e => nomatch e) hgrow hfilled) fun _ t ht h => ?_
  rw [hstore]
  refine Upholds.bind (writeSnapshot_upholds hok h.2) fun _ t ht h => ?_
  exact mark_upholds ⟨rfl, hok, h⟩ fun _ _ e => nomatch e

theorem sendTelemetryPayload_upholds :
    Upholds (system launch) (accord launch ok) p (fun _ _ => True) (sendTelemetryPayload (launch p).clientName) s := by
  have returned : ∀ {t : Shared}, Upholds (system launch) (accord launch ok) p (fun _ _ => True)
      (perform (.mark .returned) >>= fun _ => .done true) t :=
    Upholds.bind (mark_upholds trivial fun _ _ e => nomatch e) fun _ t ht h => Upholds.done fun _ _ _ => trivial
  refine Upholds.bind (Q := fun folder t => ∀ id, folder = some id →
    id = (Place.folder (launch p).clientName).id ∧ Present t.tree (.folder (launch p).clientName)) ?_ fun folder t ht h => ?_
  · refine Upholds.ask fun t ht hr => ⟨trivial, fun _ => trivial, Accord.keeps_refl ht p, fun _ => trivial, ?_⟩
    intro u hu hru id hid
    exact ⟨((ht.backends p).clientFolder id hid).1, ((ht.backends p).clientFolder id hid).2.mono hru⟩
  cases folder with
  | none => exact Upholds.done fun _ _ _ => trivial
  | some id =>
    obtain ⟨rfl, hfolder⟩ := h id rfl
    refine Upholds.bind (Upholds.along (R := fun t => Present t.tree (.folder (launch p).clientName)) drain_upholds
      (fun t u hg h => h.mono hg) hfolder) fun drained t ht h => ?_
    dsimp only
    cases drained.isEmpty with
    | true => exact returned
    | false =>
      have hsend : ToSend (ok p) (launch p).clientName (drained.zip (buildTelemetryPayload drained)) t := by
        refine ⟨h.2, fun e he => ?_⟩
        rw [zip_payload, List.mem_map] at he
        obtain ⟨snapshot, hmem, rfl⟩ := he
        exact ⟨h.1 snapshot hmem, rfl⟩
      refine Upholds.bind (Upholds.forM (I := ToSend (ok p) (launch p).clientName) (fun es s t ht hr h => ⟨h.1.mono hr, h.2⟩)
        (fun e es s hs h => sendSnapshot_upholds h) _ hsend) fun _ t ht h => returned

theorem addNodes_upholds :
    Upholds (system launch) (accord launch ok) p (fun _ _ => True) (addNodes (launch p).clientName) s := by
  refine Upholds.bind (Q := fun clientsFolder _ => ∀ id, clientsFolder = some id → id = telemetryClientsFolderId) ?_
    fun clientsFolder t ht h => ?_
  · refine Upholds.ask fun t ht hr => ⟨trivial, fun _ => trivial, Accord.keeps_refl ht p, fun _ => trivial, ?_⟩
    intro u hu hru id hid
    exact (Option.some.inj hid).symm
  cases clientsFolder with
  | none => exact fun _ _ _ => trivial
  | some id =>
    obtain rfl := h id rfl
    refine Upholds.bind (Upholds.ask (Q := fun _ _ => True) fun t ht hr =>
      ⟨trivial, fun _ => trivial, Accord.keeps_refl ht p, fun _ => trivial, fun _ _ _ => trivial⟩) fun _ t ht h => ?_
    rw [ensureClientFolder_eq]
    refine Upholds.bind (ensureAt_upholds .folder ⟨fun q hq => (nomatch hq), fun d key e => (nomatch e)⟩) fun folder t ht h => ?_
    obtain ⟨rfl, hfolder⟩ := h
    refine Upholds.ask fun t ht hr => ⟨trivial, fun _ => trivial, ?_, fun _ => trivial, fun _ _ _ => trivial⟩
    have hb := ht.backends p
    refine keeps_update ht ⟨hb.queue, fun id hid => ?_, hb.deviceNodes, hb.trace⟩
    rw [← Option.some.inj hid]
    exact ⟨rfl, hfolder.mono hr⟩

/-! ## Runs -/

/-- The snapshots that a run's workers push are all `ok`. -/
def Pushes (ok : Nat → TelemetrySnapshot → Prop) (es : List Event) : Prop := ∀ q snapshot, .push q snapshot ∈ es → ok q snapshot

theorem quitSafe : QuitSafe (system launch) (accord launch ok) := fun p s hs _ => by
  have hb := (hs.backends p).mark (m := .threw) trivial
  exact ⟨keeps_update (f := fun b => b.mark .threw) hs hb, trivial⟩

/-- One event leaves every process doing its part. -/
theorem sound_apply {w : Backends} (h : Sound (system launch) (accord launch ok) w) (e : Event) (he : Pushes ok [e]) :
    Sound (system launch) (accord launch ok) (w.apply launch e) := by
  -- what changes one process's memory, and leaves it sane
  have hmemory : ∀ (q : Nat) (f : Backend → Backend),
      (f (w.shared.backend q)).Sane (ok q) w.shared.tree (launch q).clientName →
      Sound (system launch) (accord launch ok) (w.outside fun s => s.update q f) :=
    fun q f hf => h.outside (h.inv.update q hf) fun _ _ hn => hn
  cases e with
  | call session o =>
    refine h.outside (f := fun s => s.call session o.1) (h.inv.call session o.1 fun n hn => ?_)
      fun _ => grows_call _ session o.1
    obtain ⟨item, seat, ho, -⟩ := (created_eq_some_iff _ _ _ _ _).mp hn
    have hadds := o.2
    rw [ho] at hadds
    cases hadds
  | push q snapshot =>
    have hb := h.inv.backends q
    refine hmemory q _ ⟨fun x hx => ?_, hb.clientFolder, hb.deviceNodes, hb.trace⟩
    simp only [Backend.push, ClientQueue.push] at hx
    split at hx
    · exact hb.queue x hx
    · rcases List.mem_append.mp hx with hx | hx
      · exact hb.queue x hx
      · rw [List.mem_singleton.mp hx]
        exact he q snapshot (List.mem_singleton.mpr rfl)
  | shutdown q =>
    have hb := h.inv.backends q
    exact hmemory q _ ⟨hb.queue, hb.clientFolder, hb.deviceNodes, hb.trace⟩
  | addNodes q => exact h.start q _ fun _ => addNodes_upholds
  | sendTelemetryPayload q =>
    exact h.start q _ fun _ => Upholds.bind sendTelemetryPayload_upholds fun _ t ht h => Upholds.done fun _ _ _ => trivial
  | serve q => exact h.serve quitSafe q
  | fail q served => exact h.fail quitSafe q served

/-- After every run the tree is honest, each process remembers only its own, and each
    goes on doing its part. -/
theorem sound_after (launch : Nat → Launch) (ok : Nat → TelemetrySnapshot → Prop) (es : List Event) (hes : Pushes ok es) :
    Sound (system launch) (accord launch ok) (after launch es) := by
  induction es using List.reverseRecOn with
  | nil =>
    refine ⟨⟨Honest.empty, fun q => ⟨?_, ?_, ?_, ?_⟩, fun id hid => absurd rfl hid⟩, fun q => trivial⟩
    · exact fun _ h => nomatch h
    · exact fun _ h => nomatch h
    · exact fun _ _ h => nomatch h
    · exact fun _ h => nomatch h
  | append_singleton es e ih =>
    rw [after_snoc]
    exact sound_apply (ih fun q snapshot h => hes q snapshot (List.mem_append_left _ h)) e
      fun q snapshot h => hes q snapshot (List.mem_append_right _ h)

/-! ## The server admits an honest client -/

/-- The ids of a process's own places are its device's, if the keys are not empty. -/
theorem Mine.belongs {own : TelemetrySnapshot → Prop} {d : String} (h : Mine own d pl)
    (hkeys : ∀ snapshot, own snapshot → snapshot.name ≠ "") : nodeIdBelongsToDevice pl.id d = true := by
  rw [belongs_iff]
  cases h with
  | folder => exact Or.inl rfl
  | @object snapshot h => exact Or.inr ⟨snapshot.name, hkeys snapshot h, rfl⟩
  | @field snapshot h f =>
    refine Or.inr ⟨snapshot.name ++ "." ++ f, fun e => ?_, ?_⟩
    · have hlen := congrArg String.length e
      simp [String.length_append] at hlen
    · show Identifier.string (d ++ "." ++ snapshot.name ++ "." ++ f) = _
      simp only [String.append_assoc]

/-- So are those of the places above. -/
theorem Mine.above {own : TelemetrySnapshot → Prop} {d : String} (h : Mine own d pl) :
    ∀ q, pl.above = some q → Mine own d q := by
  intro q hq
  cases h with
  | folder => cases hq
  | object h =>
    rw [← Option.some.inj hq]
    exact .folder
  | field h f =>
    rw [← Option.some.inj hq]
    exact .object h

/-- A request for a place of its own is allowed to a session that was last activated
    under the device's name. -/
theorem itemAt_allowed {own : TelemetrySnapshot → Prop} {d : String} (h : Mine own d pl)
    (hkeys : ∀ snapshot, own snapshot → snapshot.name ≠ "") {es : Run} {session : NodeId} {a : Activation}
    (ha : lastActivation session es = some a) (hd : a.device = some d) :
    replyTo telemetryClientsFolderId es session (.allowAddNode (itemAt pl)) = .verdict true := by
  have hdev := seatAfter_device telemetryClientsFolderId es session
  rw [ha, Option.bind_some, hd] at hdev
  obtain ⟨seat, hseat, rfl⟩ := Option.map_eq_some_iff.mp hdev
  refine (addNode_allowed_iff _ _ _ _).mpr ⟨seat, hseat, h.belongs hkeys, ?_⟩
  cases hup : pl.above with
  | none => exact Or.inl (by simp [itemAt, hup, Place.idOf, NodeId.expanded])
  | some q =>
    refine Or.inr ?_
    rw [show (itemAt pl).parentNodeId.nodeId = q.id by simp [itemAt, hup, Place.idOf, NodeId.expanded], Seat.holds,
      (h.above q hup).belongs hkeys, Bool.or_true]

/-- Wherever a run stands, and whatever tree earlier lives of the backend have left: an
    AddNodes request it is about to make is allowed, if its session was last activated
    under its name and its workers push no empty key. -/
theorem honest_client_admitted (launch : Nat → Launch) (es : List Event) (p : Nat)
    (hkeys : ∀ snapshot, .push p snapshot ∈ es → snapshot.name ≠ "") (a : Activation)
    (ha : lastActivation (launch p).session (after launch es).shared.log = some a)
    (hd : a.device = some (launch p).clientName) (item : AddNodesItem)
    (hitem : (after launch es).pending p = some (.addNode item)) :
    replyTo telemetryClientsFolderId (after launch es).shared.log (launch p).session (.allowAddNode item) = .verdict true := by
  have hsound := sound_after launch (fun q snapshot => q = p → snapshot.name ≠ "") es
    fun q snapshot h hq => hkeys snapshot (hq ▸ h)
  unfold Backends.pending at hitem
  cases hrun : (after launch es).running p with
  | none => simp [hrun] at hitem
  | some x =>
    cases x with
    | done a => simp [hrun] at hitem
    | throw => simp [hrun] at hitem
    | call c next =>
      rw [hrun, Option.some.injEq] at hitem
      subst hitem
      obtain ⟨pl, hmine, -, rfl⟩ := (hsound.part p).asks hsound.inv hrun
      exact itemAt_allowed hmine (fun snapshot h => h rfl) ha hd

/-- One process, named `d`. -/
def solo (d : String) : Nat → Launch := fun _ => ⟨session 1, d⟩

/-- It logs in and publishes its folder; then the snapshots are pushed, and the first
    `calls` calls of a send are served. -/
def soloRun (d : String) (snapshots : List TelemetrySnapshot) (calls : Nat) : List Event :=
  [.call (session 1) ⟨.activateSession (presentedBy d [7]), rfl⟩, .addNodes 0] ++ List.replicate 5 (.serve 0) ++
    snapshots.map (.push 0) ++ [.sendTelemetryPayload 0] ++ List.replicate calls (.serve 0)

def cpuSnapshot : TelemetrySnapshot := ⟨"CPU", "INTEL", "CPU", [⟨"Package Power", 0, "mW"⟩], 0⟩

theorem soloRun_pushes {d : String} {snapshots : List TelemetrySnapshot} {calls : Nat} {q : Nat}
    {snapshot : TelemetrySnapshot} (h : .push q snapshot ∈ soloRun d snapshots calls) : snapshot ∈ snapshots := by
  simp only [soloRun, List.mem_append, List.mem_map, List.mem_cons, List.mem_replicate, reduceCtorEq, and_false,
    List.not_mem_nil, false_or, or_false, Event.push.injEq] at h
  obtain ⟨x, hx, -, rfl⟩ := h
  exact hx

/-- The object of `plc`'s processor. -/
theorem honest_client_admitted_cpu :
    replyTo telemetryClientsFolderId (after (solo "plc") (soloRun "plc" [cpuSnapshot] 5)).shared.log (session 1)
      (.allowAddNode (itemAt (.object "plc" "CPU"))) = .verdict true :=
  honest_client_admitted (solo "plc") (soloRun "plc" [cpuSnapshot] 5) 0
    (fun snapshot h => by rw [List.mem_singleton.mp (soloRun_pushes h)]; decide) (presentedBy "plc" [7])
    (by decide +kernel) (by decide) _ (by decide +kernel)

end HardwareMonitor.SystemInfo
