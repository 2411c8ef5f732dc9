/-
  HardwareMonitor.SystemInfo.NodeOrigins — what the published nodes are there for.

  The tree grows only where a process has an AddNodes request served, and a process asks
  for places of its own only: its client's folder, and those of a key that one of its
  workers has pushed (`owned_apply`, one event at a time). So in every run nothing is ever
  published that no backend has pushed a snapshot for (`published_was_pushed`).
-/

import HardwareMonitor.SystemInfo.HonestRuns

namespace HardwareMonitor.SystemInfo

open HardwareMonitor.OpcUa
open HardwareMonitor.Lib.Interaction

variable {launch : Nat → Launch} {ok : Nat → TelemetrySnapshot → Prop} {s : Shared}

/-- Every node is at some process's own place, and so are the nodes above it. -/
def OwnedTree (launch : Nat → Launch) (ok : Nat → TelemetrySnapshot → Prop) (s : Shared) : Prop :=
  ∀ n ∈ s.tree, ∃ p pl, At n pl ∧ Present s.tree pl ∧ Mine (ok p) (launch p).clientName pl

theorem Mine.mono {own own' : TelemetrySnapshot → Prop} (himp : ∀ snapshot, own snapshot → own' snapshot) {d : String} {pl : Place}
    (h : Mine own d pl) : Mine own' d pl := by
  cases h with
  | folder => exact .folder
  | object hown => exact .object (himp _ hown)
  | field hown f => exact .field (himp _ hown) f

theorem OwnedTree.mono {ok' : Nat → TelemetrySnapshot → Prop} (h : OwnedTree launch ok s)
    (himp : ∀ p snapshot, ok p snapshot → ok' p snapshot) : OwnedTree launch ok' s := by
  intro n hn
  obtain ⟨p, pl, hat, hpl, hmine⟩ := h n hn
  exact ⟨p, pl, hat, hpl, hmine.mono (himp p)⟩

/-- A call to the plug-in that creates no node, or one at a process's own place that is ready. -/
theorem OwnedTree.call (h : OwnedTree launch ok s) (session : NodeId) (o : Operation)
    (ho : ∀ n, (serverAfter telemetryClientsFolderId s.log).created telemetryClientsFolderId session o = some n →
      ∃ p pl, At n pl ∧ Ready s.tree pl ∧ Mine (ok p) (launch p).clientName pl) : OwnedTree launch ok (s.call session o) := by
  have hgrows := grows_call s session o
  intro n hn
  rcases List.mem_append.mp (tree_call s session o ▸ hn) with hold | hnew
  · obtain ⟨p, pl, hat, hpl, hmine⟩ := h n hold
    exact ⟨p, pl, hat, hpl.mono hgrows, hmine⟩
  · obtain ⟨p, pl, hat, hready, hmine⟩ := ho n (Option.mem_toList.mp hnew)
    exact ⟨p, pl, hat, .intro hn hat fun q hq => (hready.above q hq).mono hgrows, hmine⟩

/-- Of the calls only AddNodes touches the tree, and a process makes it for its own places. -/
theorem OwnedTree.serve (h : OwnedTree launch ok s) {q : Nat} (c : Call) (hask : mayAsk launch ok q c s) :
    ((system launch).serve q c s).After (OwnedTree launch ok) := by
  cases c with
  | addNode item =>
    obtain ⟨pl, hmine, hready, rfl⟩ := hask
    have hcalled : OwnedTree launch ok (s.call (launch q).session (.allowAddNode (itemAt pl))) := by
      refine h.call _ _ fun n hn => ?_
      obtain ⟨item, seat, hitem, -, rfl⟩ := (created_eq_some_iff _ _ _ _ _).mp hn
      rw [← Operation.allowAddNode.inj hitem]
      exact ⟨q, pl, ⟨rfl, rfl, rfl⟩, hready, hmine⟩
    dsimp only [system, SystemInfo.serve]
    cases (serverAfter telemetryClientsFolderId s.log).created _ _ _ <;> exact hcalled
  | writeValue id value =>
    dsimp only [system, SystemInfo.serve]
    cases s.has id <;> exact h
  | drain =>
    dsimp only [system, SystemInfo.serve]
    cases (s.backend q).queue.ready with
    | false => trivial
    | true => exact h
  | _ => exact h

theorem owned_apply {w : Backends} (h : OwnedTree launch ok w.shared) (hsound : Sound (system launch) (accord launch ok) w)
    (e : Event) : OwnedTree launch ok (w.apply launch e).shared := by
  have habort : ∀ q s, OwnedTree launch ok s → OwnedTree launch ok ((system launch).abort q s) := fun _ _ h => h
  have hserve : ∀ q c next, w.running q = some (.call c next) →
      ((system launch).serve q c w.shared).After (OwnedTree launch ok) :=
    fun q c next hrun => h.serve c ((hsound.part q).asks hsound.inv hrun)
  cases e with
  | call session o =>
    refine h.call session o.1 fun n hn => ?_
    obtain ⟨item, seat, ho, -⟩ := (created_eq_some_iff _ _ _ _ _).mp hn
    have hadds := o.2
    rw [ho] at hadds
    cases hadds
  | push q snapshot => exact h
  | shutdown q => exact h
  | addNodes q =>
    show OwnedTree launch ok (World.start q _ _).shared
    unfold World.start
    split <;> exact h
  | sendTelemetryPayload q =>
    show OwnedTree launch ok (World.start q _ _).shared
    unfold World.start
    split <;> exact h
  | serve q => exact serve_preserves (habort q) (hserve q) h
  | fail q served => exact fail_preserves (habort q) (hserve q) h served

theorem owned_after (launch : Nat → Launch) (es : List Event) :
    OwnedTree launch (fun p snapshot => .push p snapshot ∈ es) (after launch es).shared := by
  induction es using List.reverseRecOn with
  | nil => exact fun _ hn => nomatch hn
  | append_singleton es e ih =>
    rw [after_snoc]
    exact (owned_apply ih (sound_after launch _ es fun _ _ h => h) e).mono fun _ _ => List.mem_append_left _

/-- A device's object stands for a key that its own process has pushed. -/
theorem object_was_pushed {es : List Event} {d key : String} (h : Present (after launch es).shared.tree (.object d key)) :
    ∃ p snapshot, (launch p).clientName = d ∧ .push p snapshot ∈ es ∧ snapshot.name = key := by
  have hgrounded : Grounded (after launch es).shared.tree := grounded_serverAfter _
  obtain @⟨_, n, hn, hat, -⟩ := id h
  obtain ⟨p, pl, hat', hpl, hmine⟩ := owned_after launch es n hn
  obtain rfl := hpl.unique hgrounded h (hat'.nodeId.symm.trans hat.nodeId)
  cases hmine with
  | object hpush => exact ⟨p, _, rfl, hpush, rfl⟩

/-- In every run, whatever the order of the processes' calls and whichever of them throw:
    each published node is the client folder of a process, or stands for a key that a
    worker of that process has pushed; and a variable that holds anything holds a field of
    a snapshot that has been pushed for it. -/
theorem published_was_pushed (launch : Nat → Launch) (es : List Event) :
    (∀ n ∈ (after launch es).shared.tree, ∃ p, At n (.folder (launch p).clientName) ∨
      ∃ snapshot, .push p snapshot ∈ es ∧ (At n (.object (launch p).clientName snapshot.name) ∨
        ∃ f, At n (.field (launch p).clientName snapshot.name f))) ∧
    ∀ id, (after launch es).shared.value id ≠ .empty → ∃ p snapshot, .push p snapshot ∈ es ∧ ∃ f ∈ snapshotFields,
      id = (Place.field (launch p).clientName snapshot.name f).id ∧ (after launch es).shared.value id = fieldValue snapshot f := by
  constructor
  · intro n hn
    obtain ⟨p, pl, hat, -, hmine⟩ := owned_after launch es n hn
    refine ⟨p, ?_⟩
    cases hmine with
    | folder => exact Or.inl hat
    | object hpush => exact Or.inr ⟨_, hpush, Or.inl hat⟩
    | field hpush f => exact Or.inr ⟨_, hpush, Or.inr ⟨f, hat⟩⟩
  · intro id hid
    obtain ⟨p, snapshot, f, hf, hpush, hplace, -, hvalue⟩ :=
      (sound_after launch (fun p snapshot => .push p snapshot ∈ es) es fun _ _ h => h).inv.values id hid
    exact ⟨p, snapshot, hpush, f, hf, hplace, hvalue⟩

end HardwareMonitor.SystemInfo
