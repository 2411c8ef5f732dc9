/-
  HardwareMonitor.SystemInfo.Ledger — where each snapshot a backend has accepted is: in
  the queue, or drained, and of those which have been written and which have not.

  This concerns the memory of one process, which nobody else writes to but the workers
  that push to its queue (`Pushed`). So the accord asks nothing of the server:
  calls may fail and others do what they like. Between two sends a process is `Settled`;
  in a send, before a snapshot, it is `Sending` that one and the rest; in between it is
  `Upright`. Every run keeps the ledger (`ledger_after`).
-/

import HardwareMonitor.SystemInfo.Backends

namespace HardwareMonitor.SystemInfo

open HardwareMonitor.OpcUa
open HardwareMonitor.ControlCenter (Variant SnapshotNodeIds)
open HardwareMonitor.Lib.Interaction

/-! ## What a mark changes -/

section

variable (b : Backend) (m : Mark) (deviceKey : String) (ids : SnapshotNodeIds)

@[simp] theorem accepted_mark : (b.mark m).accepted = b.accepted := rfl
@[simp] theorem queue_mark : (b.mark m).queue = b.queue := rfl
@[simp] theorem deviceNodes_mark : (b.mark m).deviceNodes = b.deviceNodes := rfl

@[simp] theorem threw_mem_mark : .threw ∈ (b.mark m).trace ↔ .threw ∈ b.trace ∨ m = .threw := by
  simp [Backend.mark, eq_comm]

@[simp] theorem writes_mark :
    writes (b.mark m) = writes b ++ match m with
      | .writes ids snapshot => [(ids, snapshot)]
      | _ => [] := by
  cases m <;> simp [writes, Backend.mark]

@[simp] theorem wrote_mark :
    (b.mark m).wrote = b.wrote ++ match m with
      | .wrote ids snapshot => [(ids, snapshot)]
      | _ => [] := by
  cases m <;> simp [Backend.wrote, Backend.mark]

@[simp] theorem puts_mark :
    (b.mark m).puts = b.puts ++ match m with
      | .put id value => [(id, value)]
      | _ => [] := by
  cases m <;> simp [Backend.puts, Backend.mark]

@[simp] theorem ensured_mark :
    (b.mark m).ensured = b.ensured ++ match m with
      | .ensures deviceKey => [deviceKey]
      | _ => [] := by
  cases m <;> simp [Backend.ensured, Backend.mark]

@[simp] theorem drained_mark :
    (b.mark m).drained = b.drained ++ match m with
      | .drained snapshots => snapshots
      | _ => [] := by
  cases m <;> simp [Backend.drained, Backend.mark]

@[simp] theorem openSend_mark : (b.mark m).openSend = OpenSend.next b.openSend m := by
  simp [Backend.openSend, Backend.mark]

@[simp] theorem putsSinceDrain_mark : (b.mark m).putsSinceDrain = nextPuts b.putsSinceDrain m := by
  simp [Backend.putsSinceDrain, Backend.mark]

theorem isSome_emplace (key : String) :
    ((b.emplace deviceKey ids).deviceNodes key).isSome = true ↔ key = deviceKey ∨ (b.deviceNodes key).isSome = true := by
  unfold Backend.emplace
  by_cases h : key = deviceKey <;> simp [h]

end

/-! ## The states of a ledger -/

/-- A snapshot in whole, on its node set. -/
def putsOf (w : SnapshotNodeIds × TelemetrySnapshot) : List (NodeId × Variant) :=
  [(w.1.name, .string w.2.name), (w.1.vendor, .string w.2.vendor), (w.1.hardwareType, .string w.2.hardwareType),
    (w.1.sensors, .extensionObjects (w.2.sensors.map sensorObject))]

/-- No snapshot is lost between the queue and the drains. -/
def Conserved (b : Backend) : Prop := b.accepted = b.drained ++ b.queue.queue

/-- All has gone well so far, and of what has been drained `rest` is still to be written. -/
structure Orderly (b : Backend) (rest : List TelemetrySnapshot) : Prop where
  wrote : b.wrote = writes b
  order : (writes b).map (·.2) ++ rest = b.drained
  puts : b.puts = (writes b).flatMap putsOf
  once : b.ensured.Nodup
  known : ∀ key, key ∈ b.ensured ↔ (b.deviceNodes key).isSome = true
  first : ∀ w ∈ writes b, w.2.name ∈ b.ensured

/-- Between two sends. -/
structure Settled (b : Backend) : Prop where
  conserved : Conserved b
  closed : b.openSend = none
  orderly : .threw ∉ b.trace → Orderly b []

/-- A send that has written out `sent`, put `part` of what comes next, and nothing else since
    its drain. -/
structure Sent (b : Backend) (sent : List (SnapshotNodeIds × TelemetrySnapshot)) (part : List (NodeId × Variant))
    (rest : List TelemetrySnapshot) : Prop where
  isOpen : b.openSend = some ⟨sent.map (·.2) ++ rest, sent.map (·.2)⟩
  puts : b.putsSinceDrain = sent.flatMap putsOf ++ part
  wrote : ∀ w ∈ sent, w ∈ b.wrote

/-- In a send that has `rest` still to write, and is at no snapshot now. -/
structure Sending (b : Backend) (rest : List TelemetrySnapshot) : Prop where
  conserved : Conserved b
  sent : ∃ sent, Sent b sent [] rest
  orderly : .threw ∉ b.trace → Orderly b rest

/-- Anywhere in a program. -/
structure Upright (b : Backend) : Prop where
  conserved : Conserved b
  orderly : .threw ∉ b.trace → (writes b).map (·.2) <+: b.drained ∧ b.ensured.Nodup

/-- At `snapshot`, of which `part` is put; before its write has begun that is nothing. -/
structure PartSent (b : Backend) (sent : List (SnapshotNodeIds × TelemetrySnapshot)) (snapshot : TelemetrySnapshot)
    (part : List (NodeId × Variant)) (later : List TelemetrySnapshot) : Prop where
  sent : Sent b sent part (snapshot :: later)
  begun : part = [] ∨ ∃ ids, (ids, snapshot) ∈ writes b ∧ part <+: putsOf (ids, snapshot)

/-- In the write of `w`, of which `part` is put. -/
structure Writing (b : Backend) (sent : List (SnapshotNodeIds × TelemetrySnapshot)) (w : SnapshotNodeIds × TelemetrySnapshot)
    (part : List (NodeId × Variant)) (later : List TelemetrySnapshot) : Prop where
  upright : Upright b
  sent : Sent b sent part (w.2 :: later)
  begun : w ∈ writes b
  partly : part <+: putsOf w

/-- Where an exception may come from: the open send, if there is one, is at a snapshot. -/
def Midway (b : Backend) : Prop := b.openSend = none ∨ ∃ sent snapshot part later, PartSent b sent snapshot part later

variable {b b' c : Backend} {rest : List TelemetrySnapshot} {snapshot : TelemetrySnapshot}
  {sent : List (SnapshotNodeIds × TelemetrySnapshot)} {w : SnapshotNodeIds × TelemetrySnapshot} {part : List (NodeId × Variant)}

theorem Settled.upright (h : Settled b) : Upright b where
  conserved := h.conserved
  orderly hno := ⟨⟨[], (h.orderly hno).order⟩, (h.orderly hno).once⟩

theorem Sending.upright (h : Sending b rest) : Upright b where
  conserved := h.conserved
  orderly hno := ⟨⟨rest, (h.orderly hno).order⟩, (h.orderly hno).once⟩

theorem Settled.midway (h : Settled b) : Midway b := Or.inl h.closed

theorem PartSent.midway (h : PartSent b sent snapshot part rest) : Midway b := Or.inr ⟨sent, snapshot, part, rest, h⟩

theorem Sending.midway (h : Sending b (snapshot :: rest)) : Midway b := by
  obtain ⟨sent, hsent⟩ := h.sent
  exact PartSent.midway ⟨hsent, Or.inl rfl⟩

theorem Writing.midway (h : Writing b sent w part rest) : Midway b :=
  PartSent.midway ⟨h.sent, Or.inr ⟨w.1, h.begun, h.partly⟩⟩

/-! ## Pushes -/

/-- From `b`, by pushes of the workers and a shutdown. -/
structure Pushed (b b' : Backend) : Prop where
  clientFolder : b'.clientFolder = b.clientFolder
  deviceNodes : b'.deviceNodes = b.deviceNodes
  trace : b'.trace = b.trace
  queue : ∃ new, b'.queue.queue = b.queue.queue ++ new ∧ b'.accepted = b.accepted ++ new

theorem Pushed.refl (b : Backend) : Pushed b b := ⟨rfl, rfl, rfl, [], by simp, by simp⟩

theorem Pushed.trans (h : Pushed b b') (h' : Pushed b' c) : Pushed b c := by
  obtain ⟨new, hq, ha⟩ := h.queue
  obtain ⟨new', hq', ha'⟩ := h'.queue
  refine ⟨h'.clientFolder.trans h.clientFolder, h'.deviceNodes.trans h.deviceNodes, h'.trace.trans h.trace, new ++ new', ?_, ?_⟩
  · rw [hq', hq, List.append_assoc]
  · rw [ha', ha, List.append_assoc]

theorem Pushed.mark (h : Pushed b b') (m : Mark) : Pushed (b.mark m) (b'.mark m) :=
  ⟨h.clientFolder, h.deviceNodes, congrArg (· ++ [m]) h.trace, h.queue⟩

theorem Pushed.emplace (h : Pushed b b') (deviceKey : String) (ids : SnapshotNodeIds) :
    Pushed (b.emplace deviceKey ids) (b'.emplace deviceKey ids) := by
  refine ⟨h.clientFolder, ?_, h.trace, h.queue⟩
  unfold Backend.emplace
  rw [h.deviceNodes]

theorem Pushed.writes (h : Pushed b b') : writes b' = writes b := by
  unfold SystemInfo.writes
  rw [h.trace]

theorem Pushed.wrote (h : Pushed b b') : b'.wrote = b.wrote := by
  unfold Backend.wrote
  rw [h.trace]

theorem Pushed.puts (h : Pushed b b') : b'.puts = b.puts := by
  unfold Backend.puts
  rw [h.trace]

theorem Pushed.ensured (h : Pushed b b') : b'.ensured = b.ensured := by
  unfold Backend.ensured
  rw [h.trace]

theorem Pushed.drained (h : Pushed b b') : b'.drained = b.drained := by
  unfold Backend.drained
  rw [h.trace]

theorem Pushed.openSend (h : Pushed b b') : b'.openSend = b.openSend := by
  unfold Backend.openSend
  rw [h.trace]

theorem Pushed.putsSinceDrain (h : Pushed b b') : b'.putsSinceDrain = b.putsSinceDrain := by
  unfold Backend.putsSinceDrain
  rw [h.trace]

theorem Pushed.conserved (h : Pushed b b') (hb : Conserved b) : Conserved b' := by
  obtain ⟨new, hq, ha⟩ := h.queue
  unfold Conserved at hb ⊢
  rw [ha, hb, hq, h.drained, List.append_assoc]

theorem Orderly.pushed (hb : Orderly b rest) (h : Pushed b b') : Orderly b' rest where
  wrote := by rw [h.wrote, h.writes, hb.wrote]
  order := by rw [h.writes, h.drained, hb.order]
  puts := by rw [h.puts, h.writes, hb.puts]
  once := by rw [h.ensured]; exact hb.once
  known key := by rw [h.ensured, h.deviceNodes]; exact hb.known key
  first := by rw [h.writes, h.ensured]; exact hb.first

theorem Settled.pushed (hb : Settled b) (h : Pushed b b') : Settled b' where
  conserved := h.conserved hb.conserved
  closed := h.openSend.trans hb.closed
  orderly hno := (hb.orderly (h.trace ▸ hno)).pushed h

theorem Sent.pushed (hb : Sent b sent part rest) (h : Pushed b b') : Sent b' sent part rest where
  isOpen := h.openSend.trans hb.isOpen
  puts := h.putsSinceDrain.trans hb.puts
  wrote := h.wrote ▸ hb.wrote

theorem Sending.pushed (hb : Sending b rest) (h : Pushed b b') : Sending b' rest where
  conserved := h.conserved hb.conserved
  sent := by
    obtain ⟨sent, hsent⟩ := hb.sent
    exact ⟨sent, hsent.pushed h⟩
  orderly hno := (hb.orderly (h.trace ▸ hno)).pushed h

theorem Upright.pushed (hb : Upright b) (h : Pushed b b') : Upright b' where
  conserved := h.conserved hb.conserved
  orderly hno := by
    rw [h.writes, h.drained, h.ensured]
    exact hb.orderly (h.trace ▸ hno)

theorem Midway.pushed (hb : Midway b) (h : Pushed b b') : Midway b' := by
  rcases hb with hclosed | ⟨sent, failed, part, later, hpart⟩
  · exact Or.inl (h.openSend.trans hclosed)
  · exact PartSent.midway ⟨hpart.sent.pushed h, h.writes ▸ hpart.begun⟩

/-! ## Marks -/

/-- A mark that drains nothing leaves what is conserved. -/
theorem Conserved.mark (h : Conserved b) {m : Mark} (hm : ∀ snapshots, m ≠ .drained snapshots) : Conserved (b.mark m) := by
  unfold Conserved at h ⊢
  cases m with
  | drained snapshots => exact absurd rfl (hm snapshots)
  | _ => simpa using h

/-- So does one that neither puts a value nor ends a snapshot or the send. -/
theorem Sent.mark {m : Mark} (h : Sent b sent part rest) (hopen : OpenSend.next b.openSend m = b.openSend)
    (hputs : nextPuts b.putsSinceDrain m = b.putsSinceDrain) : Sent (b.mark m) sent part rest where
  isOpen := by rw [openSend_mark, hopen, h.isOpen]
  puts := by rw [putsSinceDrain_mark, hputs, h.puts]
  wrote w hw := by
    rw [wrote_mark]
    exact List.mem_append_left _ (h.wrote w hw)

theorem Midway.mark (h : Midway b) {m : Mark} (hopen : OpenSend.next b.openSend m = b.openSend)
    (hputs : nextPuts b.putsSinceDrain m = b.putsSinceDrain) : Midway (b.mark m) := by
  rcases h with hclosed | ⟨sent, failed, part, later, hpart⟩
  · refine Or.inl ?_
    rw [openSend_mark, hopen, hclosed]
  · refine PartSent.midway ⟨hpart.sent.mark hopen hputs, hpart.begun.imp_right fun hbegun => ?_⟩
    obtain ⟨ids, hmem, hpart⟩ := hbegun
    refine ⟨ids, ?_, hpart⟩
    rw [writes_mark]
    exact List.mem_append_left _ hmem

theorem Upright.put (h : Upright b) (id : NodeId) (value : Variant) : Upright (b.mark (.put id value)) where
  conserved := h.conserved.mark fun _ e => nomatch e
  orderly hno := by simpa using h.orderly (by simpa using hno)

/-- One more value of the snapshot is put. -/
theorem Writing.put (h : Writing b sent w part rest) (id : NodeId) (value : Variant)
    (hnext : part ++ [(id, value)] <+: putsOf w) : Writing (b.mark (.put id value)) sent w (part ++ [(id, value)]) rest where
  upright := h.upright.put id value
  sent := by
    refine ⟨?_, ?_, fun w hw => ?_⟩
    · rw [openSend_mark, h.sent.isOpen]
      rfl
    · rw [putsSinceDrain_mark, h.sent.puts, ← List.append_assoc]
      rfl
    · rw [wrote_mark, List.append_nil]
      exact h.sent.wrote w hw
  begun := by
    rw [writes_mark, List.append_nil]
    exact h.begun
  partly := hnext

/-- The key is entered once: it is not known yet. -/
theorem Sending.ensures (h : Sending b (snapshot :: rest)) (hnew : b.deviceNodes snapshot.name = none) :
    Upright (b.mark (.ensures snapshot.name)) where
  conserved := h.conserved.mark fun _ e => nomatch e
  orderly hno := by
    have horderly := h.orderly (by simpa using hno)
    have hnot : snapshot.name ∉ b.ensured := by
      rw [horderly.known, hnew]
      exact Bool.false_ne_true
    simp only [writes_mark, List.append_nil, drained_mark, ensured_mark]
    exact ⟨⟨_, horderly.order⟩, horderly.once.append (List.nodup_singleton _) (by simpa using hnot)⟩

/-- Its node set is known from then on. -/
theorem Sending.emplace (h : Sending b (snapshot :: rest)) (hnew : b.deviceNodes snapshot.name = none) (ids : SnapshotNodeIds) :
    Sending ((b.mark (.ensures snapshot.name)).emplace snapshot.name ids) (snapshot :: rest) where
  conserved := (h.ensures hnew).conserved
  sent := by
    obtain ⟨sent, hsent⟩ := h.sent
    have hmark := hsent.mark (m := .ensures snapshot.name) rfl rfl
    exact ⟨sent, hmark.isOpen, hmark.puts, hmark.wrote⟩
  orderly hno := by
    have hno : .threw ∉ (b.mark (.ensures snapshot.name)).trace := hno
    have horderly := h.orderly (by simpa using hno)
    obtain ⟨-, honce⟩ := (h.ensures hnew).orderly hno
    refine ⟨?_, ?_, ?_, honce, fun key => ?_, fun w hw => ?_⟩
    · show (b.mark _).wrote = writes (b.mark _)
      simpa using horderly.wrote
    · show (writes (b.mark _)).map _ ++ _ = (b.mark _).drained
      simpa using horderly.order
    · show (b.mark _).puts = (writes (b.mark _)).flatMap _
      simpa using horderly.puts
    · rw [isSome_emplace]
      show key ∈ (b.mark _).ensured ↔ _
      simp only [ensured_mark, List.mem_append, List.mem_singleton, deviceNodes_mark]
      rw [horderly.known, or_comm]
    · show _ ∈ (b.mark _).ensured
      rw [ensured_mark]
      have hw : w ∈ writes (b.mark (.ensures snapshot.name)) := hw
      exact List.mem_append_left _ (horderly.first w (by simpa using hw))

/-- The write of the next snapshot has begun. -/
theorem Sending.begin (h : Sending b (snapshot :: rest)) (ids : SnapshotNodeIds) :
    ∃ sent, Writing (b.mark (.writes ids snapshot)) sent (ids, snapshot) [] rest := by
  obtain ⟨sent, hsent⟩ := h.sent
  refine ⟨sent, ⟨h.conserved.mark fun _ => Mark.noConfusion, fun hno => ?_⟩, hsent.mark rfl rfl, ?_, List.nil_prefix⟩
  · have horderly := h.orderly (by simpa using hno)
    simp only [writes_mark, List.map_append, List.map_singleton, drained_mark, List.append_nil, ensured_mark]
    refine ⟨⟨rest, ?_⟩, horderly.once⟩
    rw [← horderly.order, List.append_assoc, List.singleton_append]
  · rw [writes_mark]
    exact List.mem_append_right _ (List.mem_singleton.mpr rfl)

/-- The marks of a whole `writeSnapshot`. -/
def Backend.writeOut (b : Backend) (w : SnapshotNodeIds × TelemetrySnapshot) : Backend :=
  ((putsOf w).foldl (fun b e => b.mark (.put e.1 e.2)) (b.mark (.writes w.1 w.2))).mark (.wrote w.1 w.2)

/-- One snapshot less to write. -/
theorem Sending.writeOut (h : Sending b (snapshot :: rest)) (hknown : (b.deviceNodes snapshot.name).isSome = true)
    (ids : SnapshotNodeIds) : Sending (b.writeOut (ids, snapshot)) rest where
  conserved := by
    have hb := h.conserved
    unfold Conserved at hb ⊢
    simpa [Backend.writeOut, putsOf] using hb
  sent := by
    obtain ⟨sent, hsent⟩ := h.sent
    refine ⟨sent ++ [(ids, snapshot)], ?_, ?_, fun w hw => ?_⟩
    · simp [Backend.writeOut, putsOf, hsent.isOpen, OpenSend.next]
    · simp [Backend.writeOut, putsOf, hsent.puts, nextPuts]
    · have hmem : w ∈ b.wrote ∨ w = (ids, snapshot) := (List.mem_append.mp hw).imp (hsent.wrote w) List.mem_singleton.mp
      simpa [Backend.writeOut, putsOf] using hmem
  orderly hno := by
    have horderly := h.orderly (by simpa [Backend.writeOut, putsOf] using hno)
    refine ⟨?_, ?_, ?_, ?_, fun key => ?_, fun w hw => ?_⟩
    · simp [Backend.writeOut, putsOf, horderly.wrote]
    · simp [Backend.writeOut, putsOf, ← horderly.order]
    · simp [Backend.writeOut, putsOf, horderly.puts]
    · simpa [Backend.writeOut, putsOf] using horderly.once
    · simpa [Backend.writeOut, putsOf] using horderly.known key
    · have hw : w ∈ writes b ∨ w = (ids, snapshot) := by simpa [Backend.writeOut, putsOf] using hw
      have hmem : w.2.name ∈ b.ensured := by
        rcases hw with hw | rfl
        · exact horderly.first w hw
        · exact (horderly.known _).mpr hknown
      simpa [Backend.writeOut, putsOf] using hmem

/-- The queue is drained. -/
theorem Settled.drain (h : Settled b) :
    Sending ({ b with queue := b.queue.drain.2 }.mark (.drained b.queue.drain.1)) b.queue.queue where
  conserved := by
    have hb := h.conserved
    unfold Conserved at hb ⊢
    simp only [accepted_mark, drained_mark, queue_mark, ClientQueue.drain_fst, ClientQueue.drain_snd, List.append_nil]
    exact hb
  sent := ⟨[], by simp [OpenSend.next], by simp [nextPuts], List.forall_mem_nil _⟩
  orderly hno := by
    have horderly := h.orderly (by simpa [Backend.mark] using hno)
    -- nothing here reads the queue
    have hempty : Orderly { b with queue := b.queue.drain.2 } [] :=
      ⟨horderly.wrote, horderly.order, horderly.puts, horderly.once, horderly.known, horderly.first⟩
    refine ⟨by simpa using hempty.wrote, ?_, by simpa using hempty.puts, by simpa using hempty.once,
      fun key => by simpa using hempty.known key, fun w hw => by simpa using hempty.first w (by simpa using hw)⟩
    have horder := hempty.order
    rw [List.append_nil] at horder
    simp only [writes_mark, List.append_nil, drained_mark, ClientQueue.drain_fst, horder]

/-- The send returns. -/
theorem Sending.return (h : Sending b []) : Settled (b.mark .returned) where
  conserved := h.conserved.mark fun _ e => nomatch e
  closed := openSend_mark b _
  orderly hno := by
    have horderly := h.orderly (by simpa using hno)
    exact ⟨by simpa using horderly.wrote, by simpa using horderly.order, by simpa using horderly.puts,
      by simpa using horderly.once, fun key => by simpa using horderly.known key,
      fun w hw => by simpa using horderly.first w (by simpa using hw)⟩

/-- An exception leaves the program: nothing is put back. -/
theorem Upright.throw (h : Upright b) : Settled (b.mark .threw) where
  conserved := h.conserved.mark fun _ e => nomatch e
  closed := openSend_mark b _
  orderly hno := absurd (by simp) hno

end HardwareMonitor.SystemInfo
