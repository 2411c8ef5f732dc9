/-
  HardwareMonitor.ControlCenter.Visits — a discovery taken apart into its visits to
  devices.

  `discoverAndSubscribe` is a listing and a loop, and so is each turn of that loop; the
  turns of the inner one are the visits (`Visited`). Requests alone change nothing but
  the date, so what changes over any number of discoveries changes in one visit
  (`made_by_visit`). The requests of a visit are counted, so the dates of its reads are
  known (`nameDate`), and what it leaves, whether it returns or throws, is one of three
  things (`visitDevice_cases`).
-/

import HardwareMonitor.ControlCenter.Watching

namespace HardwareMonitor.ControlCenter

open HardwareMonitor.OpcUa
open HardwareMonitor.SystemInfo
open HardwareMonitor.Lib.Throwing

/-! ## Visits -/

section

variable (remote : Remote) (nodeIdToString : NodeId → String)

/-- `discoverAndSubscribe` up to its loop. -/
def listClientFolders : Task (List NodeId) := do
  let clientsFolder ← request fun date =>
    remote.browseChild date objectsFolder ⟨telemetryNamespaceIndex, telemetryClientsFolderName⟩
  if clientsFolder.isNull then
    return []
  else
    request fun date => remote.browseChildren date clientsFolder

/-- The turn for a client folder up to its own loop. -/
def listDevices (clientFolder : NodeId) : Task (String × List NodeId) := do
  let clientFolderName ← request fun date => remote.readBrowseName date clientFolder
  let deviceNodes ← request fun date => remote.browseChildren date clientFolder
  return (clientFolderName.name, deviceNodes)

theorem discoverAndSubscribe_eq :
    discoverAndSubscribe remote nodeIdToString = listClientFolders remote >>= fun clientFolders =>
      clientFolders.forM (visitClientFolder remote nodeIdToString) := by
  unfold discoverAndSubscribe listClientFolders
  rw [bind_assoc]
  congr 1
  funext clientsFolder
  split
  · rw [pure_bind]
    rfl
  · rfl

theorem visitClientFolder_eq (clientFolder : NodeId) :
    visitClientFolder remote nodeIdToString clientFolder = listDevices remote clientFolder >>= fun devices =>
      devices.2.forM (visitDevice remote nodeIdToString devices.1) := by
  unfold visitClientFolder listDevices
  simp only [bind_assoc, pure_bind]

/-- Within `n` discoveries a device node is visited, for a client folder of that name, by
    the client as `cc`. -/
structure Visited (n : Nat) (clientFolderName : String) (deviceNode : NodeId) (cc : Client) : Prop where
  path : ∃ m < n, ∃ clientFolders cc₁ clientFolder cc₂ deviceNodes cc₃,
    listClientFolders remote (afterPolls remote nodeIdToString m) = .ok clientFolders cc₁ ∧
    (clientFolder, cc₂) ∈ turns (visitClientFolder remote nodeIdToString) clientFolders cc₁ ∧
    listDevices remote clientFolder cc₂ = .ok (clientFolderName, deviceNodes) cc₃ ∧
    (deviceNode, cc) ∈ turns (visitDevice remote nodeIdToString clientFolderName) deviceNodes cc₃

end

variable {remote : Remote} {nodeIdToString : NodeId → String}

theorem stateOf_bind {α β : Type} {x : Task α} {f : α → Task β} (cc : Client) :
    stateOf ((x >>= f) cc) =
      match x cc with
      | .ok a cc' => stateOf (f a cc')
      | .error _ cc' => cc' := by
  show stateOf (EStateM.bind x f cc) = _
  unfold EStateM.bind
  cases x cc <;> rfl

/-- Requests made are never taken back. -/
def Forward {α : Type} (x : Task α) : Prop := ∀ cc, cc.requests ≤ (stateOf (x cc)).requests

theorem Forward.pure {α : Type} (a : α) : Forward (Pure.pure a) := fun _ => Nat.le_refl _

theorem Forward.bind {α β : Type} {x : Task α} {f : α → Task β} (hx : Forward x) (hf : ∀ a, Forward (f a)) :
    Forward (x >>= f) := by
  intro cc
  have h := hx cc
  rw [stateOf_bind]
  cases hr : x cc with
  | ok a cc' =>
    rw [hr] at h
    exact Nat.le_trans h (hf a cc')
  | error e cc' =>
    rw [hr] at h
    exact h

theorem Forward.request {α : Type} (answer : Nat → Option α) : Forward (request answer) := by
  intro cc
  unfold ControlCenter.request
  cases answer cc.requests <;> exact Nat.le_succ _

theorem Forward.foldlM {α β : Type} {f : β → α → Task β} (hf : ∀ b a, Forward (f b a)) (xs : List α) (b : β) :
    Forward (xs.foldlM f b) := by
  induction xs generalizing b with
  | nil => exact .pure b
  | cons x xs ih =>
    rw [List.foldlM_cons]
    exact .bind (hf b x) fun b' => ih b'

theorem Forward.forM {α : Type} {f : α → Task PUnit} (hf : ∀ a, Forward (f a)) (xs : List α) : Forward (xs.forM f) :=
  fun _ => (turn_le_end hf xs).1

theorem readDeviceInfo_forward (ids : SnapshotNodeIds) : Forward (readDeviceInfo remote ids) := by
  have hread : ∀ id, Forward (readStringNode remote id) := fun id => .bind (.request _) fun _ => .pure _
  exact .bind (hread _) fun _ => .bind (hread _) fun _ => .bind (hread _) fun _ => .pure _

theorem visitDevice_forward (clientFolderName : String) (deviceNode : NodeId) :
    Forward (visitDevice remote nodeIdToString clientFolderName deviceNode) := by
  intro cc
  rw [visitDevice_eq]
  split
  · exact Nat.le_refl _
  · refine Forward.bind (.bind (.request _) fun children => ?_) (fun found => ?_) cc
    · exact .foldlM (fun found child => .bind (.request _) fun _ => .pure _) _ _
    · unfold subscribeFound
      split
      · exact .pure _
      · refine .bind (readDeviceInfo_forward _) fun info => .bind (fun _ => Nat.le_refl _) fun _ => ?_
        exact .bind (.request _) fun _ => fun _ => Nat.le_refl _

theorem visitClientFolder_forward (clientFolder : NodeId) : Forward (visitClientFolder remote nodeIdToString clientFolder) :=
  .bind (.request _) fun _ => .bind (.request _) fun _ => .forM (visitDevice_forward _) _

/-- Listing changes nothing but the date. -/
theorem listClientFolders_keeps {P : Client → Prop} (hP : Timeless P) :
    Ensures P (listClientFolders remote) (fun _ => P) P := by
  unfold listClientFolders
  refine Ensures.bind (request_ensures _ hP fun _ h => h) fun clientsFolder => Ensures.assume fun _ => ?_
  split
  · exact Ensures.pure _ fun _ h => h
  · exact Ensures.weaken (request_ensures _ hP fun _ h => h) (fun _ h => h) fun _ _ h => h.2

theorem listDevices_keeps {P : Client → Prop} (hP : Timeless P) (clientFolder : NodeId) :
    Ensures P (listDevices remote clientFolder) (fun _ => P) P := by
  unfold listDevices
  refine Ensures.bind (request_ensures _ hP fun _ h => h) fun clientFolderName => Ensures.assume fun _ => ?_
  refine Ensures.bind (request_ensures _ hP fun _ h => h) fun deviceNodes => Ensures.assume fun _ => ?_
  exact Ensures.pure _ fun _ h => h

/-- What requests alone and every visit keep, a discovery keeps, whether it returns or throws. -/
theorem discoverAndSubscribe_keeps {P : Client → Prop} (hP : Timeless P)
    (hvisit : ∀ clientFolderName deviceNode, Ensures P (visitDevice remote nodeIdToString clientFolderName deviceNode)
      (fun _ => P) P) : Ensures P (discoverAndSubscribe remote nodeIdToString) (fun _ => P) P := by
  rw [discoverAndSubscribe_eq]
  refine Ensures.bind (listClientFolders_keeps hP) fun clientFolders => ?_
  refine Ensures.forM clientFolders fun clientFolder _ => ?_
  rw [visitClientFolder_eq]
  refine Ensures.bind (listDevices_keeps hP clientFolder) fun devices => ?_
  exact Ensures.forM devices.2 fun deviceNode _ => hvisit devices.1 deviceNode

/-- What a listing and a loop change, one turn of the loop changes. -/
theorem turn_after_listing {α β : Type} {P : Client → Prop} {x : Task α} {xs : α → List β} {f : α → β → Task PUnit}
    (hx : Ensures (fun cc => ¬ P cc) x (fun _ cc => ¬ P cc) fun cc => ¬ P cc) (hf : ∀ a b, Forward (f a b)) {cc : Client}
    (h : ¬ P cc) (h' : P (stateOf ((x >>= fun a => (xs a).forM (f a)) cc))) :
    ∃ a cc₁, x cc = .ok a cc₁ ∧ ∃ t ∈ turns (f a) (xs a) cc₁, ¬ P t.2 ∧ P (stateOf (f a t.1 t.2)) ∧
      (stateOf (f a t.1 t.2)).requests ≤ (stateOf ((x >>= fun a => (xs a).forM (f a)) cc)).requests := by
  have hx := hx cc h
  rw [stateOf_bind] at h' ⊢
  cases hr : x cc with
  | error e cc₁ =>
    rw [hr] at hx h'
    exact absurd h' hx
  | ok a cc₁ =>
    rw [hr] at hx h'
    obtain ⟨t, ht, hno, hyes⟩ := turn_of_change _ hx h'
    exact ⟨a, cc₁, rfl, t, ht, hno, hyes, (turn_le_end (μ := Client.requests) (hf a) _).2 t ht⟩

theorem poll_eq (remote : Remote) (nodeIdToString : NodeId → String) (cc : Client) :
    poll remote nodeIdToString cc = stateOf (discoverAndSubscribe remote nodeIdToString cc) := by
  unfold poll
  cases discoverAndSubscribe remote nodeIdToString cc <;> rfl

theorem afterPolls_succ (n : Nat) :
    afterPolls remote nodeIdToString (n + 1) =
      stateOf (discoverAndSubscribe remote nodeIdToString (afterPolls remote nodeIdToString n)) :=
  poll_eq remote nodeIdToString _

/-- What changes over any number of discoveries, but not by requests alone, changes in a
    visit to a device. -/
theorem made_by_visit {P : Client → Prop} (hP : Timeless fun cc => ¬ P cc) (hstart : ¬ P .start) (n : Nat)
    (hn : P (afterPolls remote nodeIdToString n)) :
    ∃ clientFolderName deviceNode cc, Visited remote nodeIdToString n clientFolderName deviceNode cc ∧ ¬ P cc ∧
      P (stateOf (visitDevice remote nodeIdToString clientFolderName deviceNode cc)) ∧
      (stateOf (visitDevice remote nodeIdToString clientFolderName deviceNode cc)).requests ≤
        (afterPolls remote nodeIdToString n).requests := by
  induction n with
  | zero => exact absurd hn hstart
  | succ n ih =>
    by_cases hbefore : P (afterPolls remote nodeIdToString n)
    · obtain ⟨name, deviceNode, cc, ⟨m, hm, hpath⟩, hno, hyes, hle⟩ := ih hbefore
      refine ⟨name, deviceNode, cc, ⟨m, Nat.lt_succ_of_lt hm, hpath⟩, hno, hyes, Nat.le_trans hle ?_⟩
      rw [afterPolls_succ, discoverAndSubscribe_eq]
      refine Forward.bind ?_ (fun _ => .forM visitClientFolder_forward _) _
      unfold listClientFolders
      refine .bind (.request _) fun clientsFolder => ?_
      split
      · exact .pure _
      · exact .request _
    rw [afterPolls_succ, discoverAndSubscribe_eq] at hn ⊢
    obtain ⟨clientFolders, cc₁, hlist, ⟨clientFolder, cc₂⟩, hmem, hno, hyes, hle⟩ :=
      turn_after_listing (listClientFolders_keeps hP) (fun _ => visitClientFolder_forward) hbefore hn
    rw [visitClientFolder_eq] at hyes hle
    obtain ⟨⟨name, deviceNodes⟩, cc₃, hdevices, ⟨deviceNode, cc⟩, hmem', hno', hyes', hle'⟩ :=
      turn_after_listing (listDevices_keeps hP clientFolder) (fun devices => visitDevice_forward devices.1) hno hyes
    exact ⟨name, deviceNode, cc, ⟨n, Nat.lt_succ_self n, clientFolders, cc₁, clientFolder, cc₂, deviceNodes, cc₃, hlist, hmem,
      hdevices, hmem'⟩, hno', hyes', Nat.le_trans hle' hle⟩

/-! ## The dates of a visit's reads -/

/-- The client after `k` more requests, and nothing else. -/
def Client.later (cc : Client) (k : Nat) : Client := { cc with requests := cc.requests + k }

/-- The date at which a visit by the client as `cc` reads the device's name, if it gets
    there: after the children and the BrowseName of each. -/
def nameDate (remote : Remote) (deviceNode : NodeId) (cc : Client) : Nat :=
  cc.requests + (1 + ((remote.browseChildren cc.requests deviceNode).getD []).length)

/-- The vendor is read in between. -/
def hardwareTypeDate (remote : Remote) (deviceNode : NodeId) (cc : Client) : Nat := nameDate remote deviceNode cc + 2

variable {E : Client → Prop} {cc : Client}

theorem request_later {α : Type} (answer : Nat → Option α) (k : Nat) (hE : ∀ j, E (cc.later j)) :
    Ensures (fun c => c = cc.later k) (request answer)
      (fun a c => answer (cc.requests + k) = some a ∧ c = cc.later (k + 1)) E := by
  intro c heq
  obtain rfl := heq
  unfold request
  rw [show (cc.later k).requests = cc.requests + k from rfl]
  cases ha : answer (cc.requests + k) with
  | none => exact hE (k + 1)
  | some a => exact ⟨rfl, rfl⟩

theorem readStringNode_later (id : NodeId) (k : Nat) (hE : ∀ j, E (cc.later j)) :
    Ensures (fun c => c = cc.later k) (readStringNode remote id)
      (fun str c => (∃ v, remote.readValue (cc.requests + k) id = some v ∧ str = stringOfValue v) ∧ c = cc.later (k + 1))
      E := by
  unfold readStringNode
  refine Ensures.bind (request_later _ k hE) fun val => Ensures.assume fun hval => ?_
  exact Ensures.pure _ fun c hc => ⟨⟨val, hval, rfl⟩, hc⟩

theorem readDeviceInfo_later (ids : SnapshotNodeIds) (k : Nat) (hE : ∀ j, E (cc.later j)) :
    Ensures (fun c => c = cc.later k) (readDeviceInfo remote ids)
      (fun info c => ((∃ v, remote.readValue (cc.requests + k) ids.name = some v ∧ info.name = stringOfValue v) ∧
        ∃ v, remote.readValue (cc.requests + (k + 2)) ids.hardwareType = some v ∧ info.hardwareType = stringOfValue v) ∧
        c = cc.later (k + 3)) E := by
  unfold readDeviceInfo
  refine Ensures.bind (readStringNode_later ids.name k hE) fun name => Ensures.assume fun hname => ?_
  refine Ensures.bind (readStringNode_later ids.vendor (k + 1) hE) fun vendor => Ensures.assume fun hvendor => ?_
  refine Ensures.bind (readStringNode_later ids.hardwareType (k + 2) hE) fun hardwareType => Ensures.assume fun htype => ?_
  exact Ensures.pure _ fun c hc => ⟨⟨hname, htype⟩, hc⟩

theorem inspectDevice_later (deviceNode : NodeId) (hE : ∀ j, E (cc.later j)) :
    Ensures (fun c => c = cc) (inspectDevice remote deviceNode)
      (fun _ c => c = cc.later (1 + ((remote.browseChildren cc.requests deviceNode).getD []).length)) E := by
  unfold inspectDevice
  refine Ensures.weaken (P := fun c => c = cc.later 0) (Ensures.bind (request_later _ 0 hE) fun children => ?_)
    (fun _ h => h) fun _ _ h => h
  refine Ensures.assume fun hchildren => ?_
  rw [Nat.add_zero] at hchildren
  rw [hchildren, Option.getD_some]
  refine Ensures.weaken (Ensures.foldlM_along (I := fun seen _ c => c = cc.later (1 + seen.length)) children ?_ [] _)
    (fun _ h => h) fun _ _ h => h
  intro seen found child _
  unfold noteChild
  refine Ensures.bind (request_later _ _ hE) fun childName => Ensures.assume fun _ => ?_
  refine Ensures.pure _ fun c hc => ?_
  rw [hc, List.length_append, List.length_singleton, Nat.add_assoc]

/-! ## What a visit leaves -/

/-- The visit to a device gets as far as `subscribeDataChange`, and that request throws. -/
structure RefusedAt (remote : Remote) (nodeIdToString : NodeId → String) (deviceNode : NodeId) (cc : Client) : Prop where
  uncached : cc.deviceCache (nodeIdToString deviceNode) = none
  path : ∃ found cc₁ info cc₂, inspectDevice remote deviceNode cc = .ok found cc₁ ∧ found.foundSensors = true ∧
    readDeviceInfo remote found.ids cc₁ = .ok info cc₂ ∧ remote.createMonitoredItem cc₂.requests found.sensorsNode = none

/-- Reading changes nothing but the date, whether it returns or throws. -/
theorem inspectDevice_dates (deviceNode : NodeId) (cc : Client) :
    Ensures (fun c => c = cc) (inspectDevice remote deviceNode) (fun _ c => ∃ k, c = cc.later k)
      (fun c => ∃ k, c = cc.later k) :=
  (inspectDevice_later deviceNode fun k => ⟨k, rfl⟩).weaken (fun _ h => h) fun _ _ h => ⟨_, h⟩

theorem readDeviceInfo_dates (ids : SnapshotNodeIds) (cc : Client) (k : Nat) :
    Ensures (fun c => c = cc.later k) (readDeviceInfo remote ids) (fun _ c => c = cc.later (k + 3))
      (fun c => ∃ j, c = cc.later j) :=
  (readDeviceInfo_later ids k fun j => ⟨j, rfl⟩).weaken (fun _ h => h) fun _ _ h => h.2

theorem request_answered {α : Type} {answer : Nat → Option α} {a : α} (cc : Client) (h : answer cc.requests = some a) :
    request answer cc = .ok a (cc.later 1) := by
  unfold request
  rw [h]
  rfl

theorem request_thrown {α : Type} {answer : Nat → Option α} (cc : Client) (h : answer cc.requests = none) :
    request answer cc = .error () (cc.later 1) := by
  unfold request
  rw [h]
  rfl

/-- The mark, then the request: if the request throws, the mark stays. -/
theorem mark_subscribe (cc : Client) (key : String) (cache : DeviceCache) (id : NodeId) :
    ((modify fun cc => cc.setCache key cache : Task Unit) >>= fun _ => subscribeDataChange remote id key) cc =
      match remote.createMonitoredItem cc.requests id with
      | some _ => .ok () { (cc.later 1).setCache key cache with monitoredItems := cc.monitoredItems ++ [⟨id, key⟩] }
      | none => .error () ((cc.later 1).setCache key cache) := by
  have hmark : (modify fun cc => cc.setCache key cache : Task Unit) cc = .ok () (cc.setCache key cache) := rfl
  rw [bind_of_ok hmark]
  unfold subscribeDataChange
  cases hcreate : remote.createMonitoredItem cc.requests id with
  | some u =>
    rw [bind_of_ok (request_answered (cc.setCache key cache) hcreate)]
    rfl
  | none => exact bind_of_error (request_thrown (cc.setCache key cache) hcreate)

/-- What a visit leaves: only the date has changed; or the device was not cached, and is
    now, with an item unless that was refused. -/
theorem visitDevice_cases (remote : Remote) (nodeIdToString : NodeId → String) (clientFolderName : String) (deviceNode : NodeId)
    (cc : Client) :
    (∃ k, stateOf (visitDevice remote nodeIdToString clientFolderName deviceNode cc) = cc.later k) ∨
      cc.deviceCache (nodeIdToString deviceNode) = none ∧ ∃ k cache,
        (RefusedAt remote nodeIdToString deviceNode cc ∧ visitDevice remote nodeIdToString clientFolderName deviceNode cc =
          .error () ((cc.later k).setCache (nodeIdToString deviceNode) cache)) ∨
        ∃ id, visitDevice remote nodeIdToString clientFolderName deviceNode cc =
          .ok () { (cc.later k).setCache (nodeIdToString deviceNode) cache with
            monitoredItems := cc.monitoredItems ++ [⟨id, nodeIdToString deviceNode⟩] } := by
  rw [visitDevice_eq]
  by_cases hcached : (cc.deviceCache (nodeIdToString deviceNode)).isSome = true
  · rw [if_pos hcached]
    exact Or.inl ⟨0, rfl⟩
  rw [if_neg hcached]
  cases hinspect : inspectDevice remote deviceNode cc with
  | error e₁ cc₁ =>
    rw [bind_of_error hinspect]
    exact Or.inl ((inspectDevice_dates deviceNode cc).of_error rfl hinspect)
  | ok found cc₁ =>
    obtain ⟨k, rfl⟩ := (inspectDevice_dates deviceNode cc).of_ok rfl hinspect
    rw [bind_of_ok hinspect]
    unfold subscribeFound
    by_cases hfound : found.foundSensors = true
    · simp only [hfound, Bool.not_true, Bool.false_eq_true, if_false]
      cases hinfo : readDeviceInfo remote found.ids (cc.later k) with
      | error e₂ cc₂ =>
        rw [bind_of_error hinfo]
        exact Or.inl ((readDeviceInfo_dates found.ids cc k).of_error rfl hinfo)
      | ok info cc₂ =>
        obtain rfl : cc₂ = cc.later (k + 3) := (readDeviceInfo_dates found.ids cc k).of_ok rfl hinfo
        have hnone := Option.not_isSome_iff_eq_none.mp hcached
        refine Or.inr ⟨hnone, k + 3 + 1, ⟨clientFolderName, info⟩, ?_⟩
        rw [bind_of_ok hinfo, mark_subscribe]
        cases hcreate : remote.createMonitoredItem (cc.later (k + 3)).requests found.sensorsNode with
        | none => exact Or.inl ⟨⟨hnone, found, _, info, _, hinspect, hfound, hinfo, hcreate⟩, rfl⟩
        | some u => exact Or.inr ⟨found.sensorsNode, rfl⟩
    · simp only [hfound, Bool.not_false, if_true]
      exact Or.inl ⟨k, rfl⟩

/-- A visit that throws was refused its subscription, or has changed nothing but the date. -/
theorem visitDevice_thrown {clientFolderName : String} {deviceNode : NodeId} {e : Unit} {cc' : Client}
    (h : visitDevice remote nodeIdToString clientFolderName deviceNode cc = .error e cc') :
    RefusedAt remote nodeIdToString deviceNode cc ∨ ∃ k, cc' = cc.later k := by
  have hcases := visitDevice_cases remote nodeIdToString clientFolderName deviceNode cc
  rw [h] at hcases
  rcases hcases with hdate | ⟨-, k, cache, ⟨hrefused, -⟩ | ⟨id, hok⟩⟩
  · exact Or.inr hdate
  · exact Or.inl hrefused
  · cases hok

/-- A refused visit throws with the device marked, and nothing else changed. -/
theorem visitDevice_of_refused {deviceNode : NodeId} (h : RefusedAt remote nodeIdToString deviceNode cc)
    (clientFolderName : String) :
    ∃ k cache, visitDevice remote nodeIdToString clientFolderName deviceNode cc =
      .error () ((cc.later k).setCache (nodeIdToString deviceNode) cache) := by
  obtain ⟨found, cc₁, info, cc₂, hinspect, hfound, hinfo, hcreate⟩ := h.path
  obtain ⟨k, rfl⟩ := (inspectDevice_dates deviceNode cc).of_ok rfl hinspect
  have hread := (readDeviceInfo_dates found.ids cc k).of_ok rfl hinfo
  refine ⟨k + 3 + 1, ⟨clientFolderName, info⟩, ?_⟩
  rw [visitDevice_eq, h.uncached, if_neg (by decide), bind_of_ok hinspect]
  unfold subscribeFound
  simp only [hfound, Bool.not_true, Bool.false_eq_true, if_false]
  rw [bind_of_ok hinfo, mark_subscribe, hcreate, hread]
  rfl

end HardwareMonitor.ControlCenter
