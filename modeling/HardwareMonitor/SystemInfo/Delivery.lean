/-
  HardwareMonitor.SystemInfo.Delivery — what becomes of the snapshots that the workers
  push.

  (1) With no exception, all of them are written, key by key in the order they were
      pushed, each key's node set is ensured once, and once the queue is empty the
      server's variables hold the last one of each key (`latest_published`).
  (2) An exception that leaves a send takes with it the snapshot being sent and the rest
      of the batch: of the one some values may have been put, of the others none, and they
      are not put back (`failed_send_takes_rest`). The queue has no operation that could put
      them back.

  The values need more than the ledger: that nobody else writes to a process's variables.
  Others write to present places of their own names, and a present place is known by its
  id.
-/

import HardwareMonitor.SystemInfo.HonestRuns
import HardwareMonitor.SystemInfo.LedgerRuns

namespace HardwareMonitor.SystemInfo

open HardwareMonitor.OpcUa
open HardwareMonitor.ControlCenter (Variant SnapshotNodeIds)
open HardwareMonitor.Lib.Interaction

/-! ## The last value put -/

def lastPut (puts : List (NodeId × Variant)) (id : NodeId) : Option Variant :=
  (puts.reverse.find? fun e => e.1 = id).map (·.2)

theorem lastPut_append (puts puts' : List (NodeId × Variant)) (id : NodeId) :
    lastPut (puts ++ puts') id = (lastPut puts' id).or (lastPut puts id) := by
  simp only [lastPut, List.reverse_append, List.find?_append]
  cases puts'.reverse.find? fun e => e.1 = id <;> rfl

theorem lastPut_snoc (puts : List (NodeId × Variant)) (id id' : NodeId) (value : Variant) :
    lastPut (puts ++ [(id', value)]) id = if id' = id then some value else lastPut puts id := by
  rw [lastPut_append]
  by_cases h : id' = id <;> simp [lastPut, h]

theorem mem_of_lastPut {puts : List (NodeId × Variant)} {id : NodeId} {value : Variant} (h : lastPut puts id = some value) :
    (id, value) ∈ puts := by
  obtain ⟨e, he, rfl⟩ := Option.map_eq_some_iff.mp h
  have hid : e.1 = id := by simpa using List.find?_some he
  rw [← hid]
  exact List.mem_reverse.mp (List.mem_of_find?_eq_some he)

/-! ## Values stay -/

/-- Whatever `p` has put last is what the variable holds. -/
def Current (p : Nat) (s : Shared) : Prop :=
  ∀ id value, lastPut (s.backend p).puts id = some value → s.value id = value

section

variable {launch : Nat → Launch} {p q : Nat} {s : Shared} {ok : Nat → TelemetrySnapshot → Prop}

theorem Current.update (h : Current p s) {f : Backend → Backend} (hf : (f (s.backend q)).puts = (s.backend q).puts) :
    Current p (s.update q f) := by
  intro id value hput
  refine h id value ?_
  by_cases hq : p = q
  · rw [← hq] at hf hput
    rwa [backend_update_same, hf] at hput
  · rwa [backend_update_other s f hq] at hput

/-- A write of `q` to one of its variables: `p`'s own write, or one to another variable. -/
theorem Current.write (h : Current p s) (hs : s.Sane launch ok)
    (halone : ∀ q, (launch q).clientName = (launch p).clientName → q = p) {key f : String} (value : Variant)
    (hpl : Present s.tree (.field (launch q).clientName key f)) :
    Current p ((s.write (Place.field (launch q).clientName key f).id value).update q fun b =>
      b.mark (.put (Place.field (launch q).clientName key f).id value)) := by
  intro id v hput
  by_cases hq : p = q
  · subst hq
    rw [backend_update_same, puts_mark, lastPut_snoc] at hput
    show (if id = _ then value else s.value id) = v
    by_cases hid : id = (Place.field (launch p).clientName key f).id
    · rw [if_pos hid.symm, Option.some.injEq] at hput
      rw [if_pos hid, hput]
    · rw [if_neg (Ne.symm hid)] at hput
      rw [if_neg hid]
      exact h id v hput
  · rw [backend_update_other _ _ hq] at hput
    -- a variable that `p` has put to is a place of `p`'s name
    have hmem := mem_of_lastPut hput
    simp only [Backend.puts, List.mem_filterMap] at hmem
    obtain ⟨m, hm, hmark⟩ := hmem
    have hne : id ≠ (Place.field (launch q).clientName key f).id := by
      intro hid
      cases m with
      | put id' v' =>
        simp only [Option.some.injEq, Prod.mk.injEq] at hmark
        obtain ⟨key', f', -, hid', hpl'⟩ := (hs.backends p).trace _ hm
        have hsame := hpl'.unique hs.tree.grounded hpl (hid'.symm.trans (hmark.1.trans hid))
        simp only [Place.field.injEq] at hsame
        exact hq (halone q hsame.1.symm).symm
      | _ => cases hmark
    show (if id = _ then value else s.value id) = v
    rw [if_neg hne]
    exact h id v hput

/-- A call that is served keeps the values. -/
theorem Current.serve (h : Current p s) (hs : s.Sane launch ok)
    (halone : ∀ q, (launch q).clientName = (launch p).clientName → q = p) (c : Call) (hask : mayAsk launch ok q c s) :
    ((system launch).serve q c s).After (Current p) := by
  cases c with
  | browseChild parent name => exact h
  | readBrowseName id => exact h
  | addNode item =>
    dsimp only [system, SystemInfo.serve]
    cases (serverAfter telemetryClientsFolderId s.log).created _ _ _ <;> exact h
  | writeValue id value =>
    dsimp only [system, SystemInfo.serve]
    cases s.has id with
    | false => exact h
    | true =>
      obtain ⟨snapshot, f, hf, -, rfl, hpl, -⟩ := hask
      exact h.write hs halone value hpl
  | drain =>
    dsimp only [system, SystemInfo.serve]
    cases (s.backend q).queue.ready with
    | false => trivial
    | true =>
      refine h.update (f := fun b => { b with queue := b.queue.drain.2 }.mark (.drained b.queue.drain.1)) ?_
      rw [puts_mark, List.append_nil]
      rfl
  | clientFolder => exact h
  | setClientFolder id => exact h.update rfl
  | findDevice deviceKey => exact h
  | emplaceDevice deviceKey ids => exact h.update rfl
  | mark m =>
    refine h.update (q := q) (f := fun b => b.mark m) ?_
    rw [puts_mark]
    cases m with
    | put id value => exact absurd rfl (hask id value)
    | _ => exact List.append_nil _

theorem current_after (launch : Nat → Launch) (p : Nat)
    (halone : ∀ q, (launch q).clientName = (launch p).clientName → q = p) (es : List Event) :
    Current p (after launch es).shared := by
  induction es using List.reverseRecOn with
  | nil => exact fun id value h => nomatch h
  | append_singleton es e ih =>
    rw [after_snoc]
    have hsound : Sound (system launch) (accord launch fun _ _ => True) (after launch es) := sound_after launch _ es fun _ _ _ => trivial
    have habort : ∀ q s, Current p s → Current p ((system launch).abort q s) := fun q s h =>
      h.update (f := fun b => b.mark .threw) (by simp)
    have hserve : ∀ q c next, (after launch es).running q = some (.call c next) →
        ((system launch).serve q c (after launch es).shared).After (Current p) :=
      fun q c next hrun => ih.serve hsound.inv halone c ((hsound.part q).asks hsound.inv hrun)
    cases e with
    | call session o => exact ih
    | push q snapshot => exact ih.update (f := fun b => b.push snapshot) rfl
    | shutdown q => exact ih.update (f := fun b => { b with queue := b.queue.shutdown }) rfl
    | addNodes q =>
      show Current p (World.start q _ _).shared
      unfold World.start
      split <;> exact ih
    | sendTelemetryPayload q =>
      show Current p (World.start q _ _).shared
      unfold World.start
      split <;> exact ih
    | serve q => exact serve_preserves (habort q) (hserve q) ih
    | fail q served => exact fail_preserves (habort q) (hserve q) ih served

/-! ## The snapshots of one key -/

/-- The snapshots whose write to this node set has begun, in order. -/
def Backend.writesTo (b : Backend) (ids : SnapshotNodeIds) : List TelemetrySnapshot :=
  ((writes b).filter fun w => w.1 = ids).map (·.2)

/-- The accepted pushes with this key. -/
def Backend.acceptedFor (b : Backend) (deviceKey : String) : List TelemetrySnapshot :=
  b.accepted.filter fun snapshot => snapshot.name = deviceKey

theorem snapshotNodes_inj {d key key' : String} (h : snapshotNodes d key = snapshotNodes d key') : key = key' := by
  have hs := Identifier.string.inj (congrArg NodeId.identifier (congrArg SnapshotNodeIds.object h))
  exact (String.append_right_inj _).mp hs

/-- A node set is written to with the snapshots of its key. -/
theorem writesTo_eq {b : Backend} {own : TelemetrySnapshot → Prop} {nodes : List PublishedNode} {d : String}
    (h : b.Sane own nodes d) (key : String) :
    b.writesTo (snapshotNodes d key) = ((writes b).map (·.2)).filter fun snapshot => snapshot.name = key := by
  rw [List.filter_map]
  refine congrArg _ (List.filter_congr fun w hw => ?_)
  obtain ⟨hids, -, -⟩ := h.trace _ (mem_writes.mp hw)
  rw [hids]
  simp only [Function.comp_apply, decide_eq_decide]
  exact ⟨snapshotNodes_inj, fun e => by rw [e]⟩

/-- What one snapshot puts to a variable: nothing, unless it is of its key. -/
theorem lastPut_putsOf {nodes : List PublishedNode} (hg : Grounded nodes) {d key f : String} {snapshot : TelemetrySnapshot}
    (hkey : Filled nodes d key) (hfilled : Filled nodes d snapshot.name) (hf : f ∈ snapshotFields) :
    lastPut (putsOf (snapshotNodes d snapshot.name, snapshot)) (Place.field d key f).id =
      if snapshot.name = key then some (fieldValue snapshot f) else none := by
  by_cases hname : snapshot.name = key
  · subst hname
    have hne : ∀ g, g ≠ f → ((Place.field d snapshot.name g).id = (Place.field d snapshot.name f).id) = False :=
      fun g hg => eq_false fun e => hg (field_id_inj e)
    simp only [snapshotFields, List.mem_cons, List.not_mem_nil, or_false] at hf
    rcases hf with rfl | rfl | rfl | rfl <;>
      simp [lastPut, putsOf, snapshotNodes, hne, fieldValue]
  · rw [if_neg hname, lastPut, Option.map_eq_none_iff, List.find?_eq_none]
    intro e he hid
    -- its node set and the key's have no variable in common
    have hown : e.1 ∈ variableIds (snapshotNodes d snapshot.name) :=
      List.mem_map_of_mem (f := Prod.fst) (List.mem_reverse.mp he)
    have hfield : e.1 ∈ variableIds (snapshotNodes d key) := mem_variableIds.mpr ⟨f, hf, of_decide_eq_true hid⟩
    exact variableIds_disjoint hg hfilled hkey hname e.1 hown hfield

/-- What a sequence of snapshots puts to a variable: the field of the last one of its key. -/
theorem lastPut_writes {nodes : List PublishedNode} (hg : Grounded nodes) {d key f : String} (hkey : Filled nodes d key)
    (hf : f ∈ snapshotFields) (ws : List (SnapshotNodeIds × TelemetrySnapshot))
    (hws : ∀ w ∈ ws, w.1 = snapshotNodes d w.2.name ∧ Filled nodes d w.2.name) :
    lastPut (ws.flatMap putsOf) (Place.field d key f).id =
      (((ws.map (·.2)).filter fun snapshot => snapshot.name = key).getLast?).map fun snapshot => fieldValue snapshot f := by
  induction ws using List.reverseRecOn with
  | nil => rfl
  | append_singleton ws w ih =>
    obtain ⟨ids, snapshot⟩ := w
    obtain ⟨hids, hfilled⟩ := hws _ (List.mem_append_right _ (List.mem_singleton.mpr rfl))
    obtain rfl : ids = snapshotNodes d snapshot.name := hids
    rw [List.flatMap_append, lastPut_append, List.flatMap_singleton, lastPut_putsOf hg hkey hfilled hf,
      ih fun w hw => hws w (List.mem_append_left _ hw), List.map_append, List.filter_append]
    by_cases hname : snapshot.name = key
    · simp [hname]
    · simp [hname]

/-! ## (1) No exception -/

/-- At any point of a run. -/
theorem upright_after (launch : Nat → Launch) (es : List Event) (p : Nat) : Upright ((after launch es).shared.backend p) := by
  have hsound := ledger_after launch es
  have hpart := hsound.part p
  cases hrun : (after launch es).running p with
  | none => exact Settled.upright (hpart.idle trivial (by rw [World.idle, hrun]))
  | some x =>
    cases x with
    | done a => exact Settled.upright (hpart.upholds hrun _ trivial (Pushed.refl _))
    | throw => exact (hpart.upholds hrun _ trivial (Pushed.refl _)).1
    | call c next => exact hpart.asks trivial hrun

/-- As long as no exception has left the process's programs: the writes to a key's node
    set are the accepted pushes with that key, as far as it has got, and the key's node
    set is ensured at most once. When it is idle and its queue empty, it has written all
    of them and ensured the node set once; and the variables hold the last one, if no other
    process goes by its name. -/
theorem latest_published (launch : Nat → Launch) (es : List Event) (p : Nat)
    (hno : .threw ∉ ((after launch es).shared.backend p).trace) (key : String) :
    let s := (after launch es).shared
    let ids := snapshotNodes (launch p).clientName key
    (s.backend p).writesTo ids <+: (s.backend p).acceptedFor key ∧ (s.backend p).ensured.count key ≤ 1 ∧
    ((after launch es).idle p = true → (s.backend p).queue.queue = [] →
      (s.backend p).writesTo ids = (s.backend p).acceptedFor key ∧
      ((s.backend p).acceptedFor key ≠ [] → (s.backend p).ensured.count key = 1) ∧
      ((∀ q, (launch q).clientName = (launch p).clientName → q = p) →
        ∀ snapshot, ((s.backend p).acceptedFor key).getLast? = some snapshot →
          ∀ f ∈ snapshotFields, s.value (Place.field (launch p).clientName key f).id = fieldValue snapshot f)) := by
  intro s ids
  have hsound : Sound (system launch) (accord launch fun _ _ => True) (after launch es) := sound_after launch _ es fun _ _ _ => trivial
  have hsane := hsound.inv.backends p
  have hupright := upright_after launch es p
  obtain ⟨horder, honce⟩ := hupright.orderly hno
  have haccepted : ((s.backend p).drained.filter fun snapshot => snapshot.name = key) <+: (s.backend p).acceptedFor key := by
    rw [Backend.acceptedFor, hupright.conserved, List.filter_append]
    exact List.prefix_append _ _
  refine ⟨?_, List.nodup_iff_count_le_one.mp honce key, fun hidle hempty => ?_⟩
  · rw [writesTo_eq hsane]
    exact (horder.filter _).trans haccepted
  · have hsettled : Settled (s.backend p) := ((ledger_after launch es).part p).idle trivial hidle
    have horderly := hsettled.orderly hno
    -- what was accepted has been drained, and what was drained has been written
    have hall : (s.backend p).accepted = (writes (s.backend p)).map (·.2) := by
      rw [hupright.conserved, hempty, List.append_nil, ← horderly.order, List.append_nil]
    have hwrites : (s.backend p).writesTo ids = (s.backend p).acceptedFor key := by
      rw [writesTo_eq hsane, Backend.acceptedFor, hall]
    refine ⟨hwrites, fun hsome => ?_, fun halone snapshot hlast f hf => ?_⟩
    · obtain ⟨snapshot, hmem⟩ := List.exists_mem_of_ne_nil _ hsome
      obtain ⟨hmem, hname⟩ := List.mem_filter.mp hmem
      rw [hall] at hmem
      obtain ⟨w, hw, rfl⟩ := List.mem_map.mp hmem
      have hensured := horderly.first w hw
      rw [of_decide_eq_true hname] at hensured
      exact List.count_eq_one_of_mem honce hensured
    · have htrace : ∀ w ∈ writes (s.backend p), w.1 = snapshotNodes (launch p).clientName w.2.name ∧
          Filled s.tree (launch p).clientName w.2.name := fun w hw =>
        ⟨(hsane.trace _ (mem_writes.mp hw)).1, (hsane.trace _ (mem_writes.mp hw)).2.2⟩
      obtain ⟨hmem, hname⟩ := List.mem_filter.mp (List.mem_of_getLast? hlast)
      rw [hall] at hmem
      obtain ⟨w, hw, rfl⟩ := List.mem_map.mp hmem
      have hfilled := (htrace w hw).2
      rw [of_decide_eq_true hname] at hfilled
      refine current_after launch p halone es _ _ ?_
      rw [horderly.puts, lastPut_writes hsound.inv.tree.grounded hfilled hf _ htrace, ← hall]
      show Option.map _ ((s.backend p).acceptedFor key).getLast? = _
      rw [hlast, Option.map_some]

/-- `plc`, and nobody else of that name. -/
def plcOnly : Nat → Launch := fun q => if q = 0 then ⟨session 1, "plc"⟩ else ⟨session 2, "hmi"⟩

/-- The processor's next snapshot. -/
def laterSnapshot : TelemetrySnapshot := ⟨"CPU", "INTEL", "CPU", [⟨"Package Power", 1, "mW"⟩], 0⟩

/-- Two snapshots of one device, sent in one batch. -/
theorem latest_published_plc :
    let s := (after plcOnly (soloRun "plc" [cpuSnapshot, laterSnapshot] 29)).shared
    (s.backend 0).writesTo (snapshotNodes "plc" "CPU") = [cpuSnapshot, laterSnapshot] ∧
      (s.backend 0).ensured.count "CPU" = 1 ∧
      s.value (Place.field "plc" "CPU" "sensors").id = fieldValue laterSnapshot "sensors" := by
  have haccepted : ((after plcOnly (soloRun "plc" [cpuSnapshot, laterSnapshot] 29)).shared.backend 0).acceptedFor "CPU" =
      [cpuSnapshot, laterSnapshot] := by decide +kernel
  have hdone := (latest_published plcOnly (soloRun "plc" [cpuSnapshot, laterSnapshot] 29) 0 (by decide +kernel) "CPU").2.2
    (by decide +kernel) (by decide +kernel)
  rw [haccepted] at hdone
  obtain ⟨hwrites, honce, hvalue⟩ := hdone
  refine ⟨hwrites, honce (List.cons_ne_nil _ _), hvalue (fun q hq => ?_) laterSnapshot rfl "sensors" (by decide)⟩
  by_contra hne
  simp [plcOnly, hne] at hq

/-! ## (2) An exception -/

/-- What a request leaves of its process's memory, served or not. -/
def Requested (b b' : Backend) : Prop := b' = b ∨ ∃ id value, b' = b.mark (.put id value)

theorem requested_of_serve (launch : Nat → Launch) (p : Nat) (s : Shared) {c : Call} (hc : c.remote = true) :
    ((system launch).serve p c s).After fun u => Requested (s.backend p) (u.backend p) := by
  cases c with
  | browseChild parent name => exact Or.inl rfl
  | readBrowseName id => exact Or.inl rfl
  | addNode item =>
    dsimp only [system, SystemInfo.serve]
    cases (serverAfter telemetryClientsFolderId s.log).created _ _ _ <;> exact Or.inl rfl
  | writeValue id value =>
    dsimp only [system, SystemInfo.serve]
    cases s.has id with
    | false => exact Or.inl rfl
    | true => exact Or.inr ⟨id, value, if_pos rfl⟩
  | _ => cases hc

/-- Only a request throws. -/
theorem remote_of_fails {c : Call} {u : Shared} (h : (system launch).serve p c s = .fails u) : c.remote = true := by
  cases c with
  | drain =>
    dsimp only [system, SystemInfo.serve] at h
    split at h <;> cases h
  | browseChild parent name => rfl
  | readBrowseName id => rfl
  | addNode item => rfl
  | writeValue id value => rfl
  | _ => cases h

/-- An exception finds the process's memory as it was, or with one more value put. -/
theorem requested_of_throws {x : Code Unit} {u : Shared} (h : Throws (system launch) p s x u) :
    Requested (s.backend p) (u.backend p) := by
  cases h with
  | throw => exact Or.inl rfl
  | lost hf => exact Or.inl rfl
  | failed hs =>
    have hserve := requested_of_serve launch p s (remote_of_fails hs)
    rw [hs] at hserve
    exact hserve
  | unanswered hf hs =>
    have hserve := requested_of_serve launch p s hf
    rw [hs] at hserve
    exact hserve

/-- The event by which an exception leaves `p`'s program. -/
theorem left_by_exception {es : List Event} {e : Event} {x : Code Unit} (hrun : (after launch es).running p = some x)
    (hend : (after launch (es ++ [e])).running p = none) :
    ∃ u, Throws (system launch) p (after launch es).shared x u ∧
      (after launch (es ++ [e])).shared = (system launch).abort p u := by
  rw [after_snoc] at hend ⊢
  -- an event of another process leaves `p`'s program as it was
  have hother : ((after launch es).apply launch e).running p ≠ (after launch es).running p := by
    rw [hend, hrun]
    exact fun h => nomatch h
  cases e with
  | call session o => exact absurd rfl hother
  | push q snapshot => exact absurd rfl hother
  | shutdown q => exact absurd rfl hother
  | addNodes q => exact absurd ((start_ends hend).symm.trans hrun) fun h => nomatch h
  | sendTelemetryPayload q => exact absurd ((start_ends hend).symm.trans hrun) fun h => nomatch h
  | serve q =>
    by_cases hq : p = q
    · subst hq
      exact serve_ends hrun hend
    · exact absurd (serve_other hq) hother
  | fail q served =>
    by_cases hq : p = q
    · subst hq
      exact fail_ends hrun hend
    · exact absurd (fail_other hq served) hother

/-- A snapshot in whole, on the node set of its key. -/
def putsIn (clientName : String) (snapshot : TelemetrySnapshot) : List (NodeId × Variant) :=
  putsOf (snapshotNodes clientName snapshot.name, snapshot)

/-- Node sets that are those of the snapshots' keys. -/
theorem puts_in {sent : List (SnapshotNodeIds × TelemetrySnapshot)} {d : String}
    (h : ∀ w ∈ sent, w.1 = snapshotNodes d w.2.name) : sent.flatMap putsOf = (sent.map (·.2)).flatMap (putsIn d) := by
  rw [List.flatMap_map]
  refine List.flatMap_congr fun w hw => ?_
  rw [putsIn, ← h w hw]

/-- Wherever an exception leaves a send that has drained its batch: since the drain the
    snapshots before the one it was at have been put in whole, each on the node set of its
    key, then some of that one's values, and nothing of the later ones. That one and the
    later ones are not back in the queue, which holds what was accepted after the drain. -/
theorem failed_send_takes_rest (launch : Nat → Launch) (es : List Event) (p : Nat) (e : Event) (o : OpenSend)
    (hopen : ((after launch es).shared.backend p).openSend = some o)
    (hend : (after launch (es ++ [e])).running p = none) :
    let b := (after launch es).shared.backend p
    let b' := (after launch (es ++ [e])).shared.backend p
    (∃ failed later part, o.batch = o.written ++ failed :: later ∧
      b'.putsSinceDrain = o.written.flatMap (putsIn (launch p).clientName) ++ part ∧
      part <+: putsIn (launch p).clientName failed) ∧
    b'.wrote = b.wrote ∧ b'.queue = b.queue ∧ b'.drained = b.drained ∧ b'.accepted = b'.drained ++ b'.queue.queue := by
  intro b b'
  have hsound := ledger_after launch es
  cases hrun : (after launch es).running p with
  | none =>
    -- no program, so no send is open
    have hclosed := Settled.closed ((hsound.part p).idle trivial (by rw [World.idle, hrun]))
    rw [hopen] at hclosed
    cases hclosed
  | some x =>
    obtain ⟨u, hthrows, hshared⟩ := left_by_exception hrun hend
    have hmidway : Midway (u.backend p) := (((hsound.part p).upholds hrun).quits trivial hthrows).2
    have hb' : b' = (u.backend p).mark .threw := by
      show (after launch (es ++ [e])).shared.backend p = _
      rw [hshared]
      exact if_pos rfl
    have hu : (u.backend p).openSend = b.openSend ∧ (u.backend p).wrote = b.wrote ∧ (u.backend p).queue = b.queue ∧
        (u.backend p).drained = b.drained := by
      rcases requested_of_throws hthrows with h | ⟨id, value, h⟩
      · rw [h]
        exact ⟨rfl, rfl, rfl, rfl⟩
      · rw [h]
        simp [OpenSend.next, b]
    refine ⟨?_, ?_, ?_, ?_, (upright_after launch (es ++ [e]) p).conserved⟩
    · rcases hmidway with hclosed | ⟨sent, failed, part, later, hpart⟩
      · rw [hu.1.trans hopen] at hclosed
        cases hclosed
      · obtain rfl := Option.some.inj ((hu.1.trans hopen).symm.trans hpart.sent.isOpen)
        -- the node sets are those of the marks, which are sane
        have hsane := ((sound_after launch (fun _ _ => True) (es ++ [e]) fun _ _ _ => trivial).inv.backends p).trace
        have htrace : ∀ m ∈ (u.backend p).trace, m ∈ b'.trace := by
          intro m hm
          rw [hb']
          exact List.mem_append_left _ hm
        have hsent : ∀ w ∈ sent, w.1 = snapshotNodes (launch p).clientName w.2.name := fun w hw =>
          (hsane _ (htrace _ (mem_wrote (hpart.sent.wrote w hw)))).1
        refine ⟨failed, later, part, rfl, ?_, ?_⟩
        · rw [hb', putsSinceDrain_mark, ← puts_in hsent, ← hpart.sent.puts]
          rfl
        · rcases hpart.begun with rfl | ⟨ids, hbegun, hvalues⟩
          · exact List.nil_prefix
          · obtain rfl : ids = snapshotNodes (launch p).clientName failed.name := (hsane _ (htrace _ (mem_writes.mp hbegun))).1
            exact hvalues
    · rw [hb', wrote_mark, List.append_nil, hu.2.1]
    · rw [hb', queue_mark, hu.2.2.1]
    · rw [hb', drained_mark, List.append_nil, hu.2.2.2]

/-- `plc` has put one of two snapshots in whole, and the name and the vendor of the other. -/
def plcHalfway : List Event := soloRun "plc" [cpuSnapshot, laterSnapshot] 25

/-- The write of the hardware type is served, and its answer is lost. -/
theorem failed_send_takes_rest_plc :
    ((after (solo "plc") plcHalfway).shared.backend 0).openSend = some ⟨[cpuSnapshot, laterSnapshot], [cpuSnapshot]⟩ ∧
    ∃ part, ((after (solo "plc") (plcHalfway ++ [.fail 0 true])).shared.backend 0).putsSinceDrain =
      putsIn "plc" cpuSnapshot ++ part ∧ part <+: putsIn "plc" laterSnapshot ∧ part.length = 3 := by
  have hopen : ((after (solo "plc") plcHalfway).shared.backend 0).openSend =
      some ⟨[cpuSnapshot, laterSnapshot], [cpuSnapshot]⟩ := by decide +kernel
  obtain ⟨⟨failed, later, part, hbatch, hputs, hpart⟩, -⟩ := failed_send_takes_rest (solo "plc") plcHalfway 0 (.fail 0 true)
    _ hopen (by decide +kernel)
  obtain ⟨rfl, rfl⟩ : laterSnapshot = failed ∧ [] = later := by simpa using hbatch
  refine ⟨hopen, part, hputs, hpart, ?_⟩
  have hlength : ((after (solo "plc") (plcHalfway ++ [.fail 0 true])).shared.backend 0).putsSinceDrain.length = 7 := by
    decide +kernel
  rw [hputs, List.length_append] at hlength
  exact Nat.add_left_cancel hlength

/-- `plc` has drained two snapshots and is about to create the device's object. -/
def plcDrained : List Event := soloRun "plc" [cpuSnapshot, laterSnapshot] 5

/-- Both are lost: the device has no variable to show them, and the queue is empty. -/
theorem failed_send_loses :
    ((after (solo "plc") plcDrained).pending 0).map Call.remote = some true ∧
      (after (solo "plc") (plcDrained ++ [.fail 0 false])).running 0 = none ∧
      ((after (solo "plc") (plcDrained ++ [.fail 0 false])).shared.backend 0).drained = [cpuSnapshot, laterSnapshot] ∧
      ((after (solo "plc") (plcDrained ++ [.fail 0 false])).shared.backend 0).queue.queue = [] ∧
      (after (solo "plc") (plcDrained ++ [.fail 0 false])).shared.has (Place.field "plc" "CPU" "sensors").id = false := by
  decide +kernel

end

end HardwareMonitor.SystemInfo
