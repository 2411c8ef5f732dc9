/-
  HardwareMonitor.OpcUa.Sessions — runs of the access control over any number of
  sessions.

  A call for one session reads and writes that session's entry only (`step_local`), so
  after any run a session's entry stands for the seat its own calls made
  (`represents_seatAfter`). Proved of every run: authority follows the last activation
  (`authority_follows_activation`); a closed session keeps its authority unless an
  activation of it was refused (`closed_denied_iff`); the write level is the same on
  every node (`write_granted_iff`).
-/

import Mathlib.Data.List.Induction
import HardwareMonitor.Lib.KeyedMachine
import HardwareMonitor.OpcUa.Authority

namespace HardwareMonitor.OpcUa

open HardwareMonitor.Lib.KeyedMachine

/-! ## Sessions are independent -/

theorem activateSession_other {s s' : NodeId} (h : s' ≠ s) (a : Activation) (t : SessionAttributes) :
    (activateSession s a t).2 s' = t s' := by
  rcases activateSession_cases s a t with ⟨d, -, heq⟩ | ⟨-, code, attrs, -, -, -, heq⟩
  · rw [heq]
    exact SessionAttributes.set_other t _ h
  · rw [heq]
    exact SessionAttributes.set_other t _ h

/-- An activation does not look at the table. -/
theorem activateSession_congr (s : NodeId) (a : Activation) (t u : SessionAttributes) :
    (activateSession s a t).1 = (activateSession s a u).1 ∧ (activateSession s a t).2 s = (activateSession s a u).2 s := by
  unfold activateSession rejectSession
  repeat' split
  all_goals simp only [SessionAttributes.set_same, and_self]

theorem allowAddNode_other (folder : NodeId) {s s' : NodeId} (h : s' ≠ s) (item : AddNodesItem) (t : SessionAttributes) :
    (allowAddNode folder s item t).2 s' = t s' := by
  by_cases hrw : ∃ attrs, t s = some attrs ∧ attrs.accessLvl = AccessLevel.readWrite
  · obtain ⟨attrs, he, hrw⟩ := hrw
    rcases allowAddNode_cases folder item he hrw with ⟨-, -, heq⟩ | ⟨-, heq⟩
    · rw [heq]
      exact SessionAttributes.set_other t _ h
    · rw [heq]
  · rw [allowAddNode_denied folder item fun attrs he hl => hrw ⟨attrs, he, hl⟩]

theorem allowAddNode_congr (folder : NodeId) {s : NodeId} (item : AddNodesItem) {t u : SessionAttributes}
    (h : t s = u s) :
    (allowAddNode folder s item t).1 = (allowAddNode folder s item u).1 ∧
      (allowAddNode folder s item t).2 s = (allowAddNode folder s item u).2 s := by
  by_cases hrw : ∃ attrs, t s = some attrs ∧ attrs.accessLvl = AccessLevel.readWrite
  · obtain ⟨attrs, he, hrw⟩ := hrw
    rcases allowAddNode_cases folder item he hrw with ⟨hp, hr, heq⟩ | ⟨hno, heq⟩ <;>
      rcases allowAddNode_cases folder item (h ▸ he) hrw with ⟨hp', hr', heq'⟩ | ⟨hno', heq'⟩
    · simp only [heq, heq', SessionAttributes.set_same, and_self]
    · exact absurd ⟨hp, hr⟩ hno'
    · exact absurd ⟨hp', hr'⟩ hno
    · rw [heq, heq']
      exact ⟨rfl, h⟩
  · rw [allowAddNode_denied folder item fun attrs he hl => hrw ⟨attrs, he, hl⟩,
      allowAddNode_denied folder item fun attrs he hl => hrw ⟨attrs, h.trans he, hl⟩]
    exact ⟨rfl, h⟩

theorem subscript_congr {s : NodeId} {t u : SessionAttributes} (h : t s = u s) :
    (t.subscript s).1 = (u.subscript s).1 ∧ (t.subscript s).2 s = (u.subscript s).2 s := by
  rw [SessionAttributes.subscript_fst, SessionAttributes.subscript_fst, SessionAttributes.subscript_same,
    SessionAttributes.subscript_same, h]
  exact ⟨rfl, rfl⟩

theorem getUserRightsMask_eq (s n : NodeId) (t : SessionAttributes) :
    getUserRightsMask s n t =
      (if (t.subscript s).1.accessLvl = AccessLevel.readWrite then WriteMask.valueForVariableType else WriteMask.none,
        (t.subscript s).2) := by
  unfold getUserRightsMask
  dsimp only
  split <;> rfl

/-- A call for a session depends on that session's entry, and touches no other. -/
theorem step_local (folder : NodeId) : Local (step folder) where
  frame s o t s' h := by
    cases o with
    | activateSession a => exact activateSession_other h a t
    | closeSession => rfl
    | getUserRightsMask n =>
      simp only [step, getUserRightsMask_eq]
      exact SessionAttributes.subscript_other t h
    | getUserAccessLevel n => exact SessionAttributes.subscript_other t h
    | allowAddNode item => exact allowAddNode_other folder h item t
    | allowAddReference item => rfl
    | allowBrowseNode n => rfl
  reply s o t u h := by
    cases o with
    | activateSession a => exact congrArg Reply.status (activateSession_congr s a t u).1
    | closeSession => rfl
    | getUserRightsMask n => simp only [step, getUserRightsMask_eq, (subscript_congr h).1]
    | getUserAccessLevel n => exact congrArg (fun attrs => Reply.level attrs.accessLvl) (subscript_congr h).1
    | allowAddNode item => exact congrArg Reply.verdict (allowAddNode_congr folder item h).1
    | allowAddReference item => simp only [step, allowAddReference, h]
    | allowBrowseNode n => simp only [step, allowBrowseNode, h]
  cell s o t u h := by
    cases o with
    | activateSession a => exact (activateSession_congr s a t u).2
    | closeSession => exact h
    | getUserRightsMask n =>
      simp only [step, getUserRightsMask_eq]
      exact (subscript_congr h).2
    | getUserAccessLevel n => exact (subscript_congr h).2
    | allowAddNode item => exact (allowAddNode_congr folder item h).2
    | allowAddReference item => exact h
    | allowBrowseNode n => exact h

/-! ## Runs -/

/-- A run: calls in order, each with the session it is for. -/
abbrev Run := List (NodeId × Operation)

/-- `session_attributes_` after a run. -/
def tableAfter (folder : NodeId) (es : Run) : SessionAttributes := exec (step folder) SessionAttributes.empty es

/-- What a call made after a run is answered. -/
def replyTo (folder : NodeId) (es : Run) (s : NodeId) (o : Operation) : Reply := (step folder s o (tableAfter folder es)).1

/-- The seat a session's own calls have given it. -/
def seatAfter (folder : NodeId) (es : Run) (s : NodeId) : Option Seat :=
  (opsOf s es).foldl (Seat.after folder) none

theorem represents_seatAfter (folder : NodeId) (es : Run) (s : NodeId) :
    Represents (tableAfter folder es s) (seatAfter folder es s) :=
  exec_simulates (step_local folder) Represents (Seat.after folder) s
    (fun o t seat => step_represents s o t seat) es _ _ .absent

/-- The entry behind a seat. -/
theorem entry_of_seat {folder : NodeId} {es : Run} {s : NodeId} {seat : Seat} (h : seatAfter folder es s = some seat) :
    ∃ attrs, tableAfter folder es s = some attrs ∧ attrs.deviceName = seat.device ∧ attrs.deviceFolderId = seat.folder := by
  have hrep := represents_seatAfter folder es s
  rw [h] at hrep
  generalize tableAfter folder es s = e at hrep
  cases hrep with
  | seated attrs seat h1 h2 h3 h4 => exact ⟨attrs, rfl, h3, h4⟩

/-- After any run a query grants what the session's own seat admits. -/
theorem granted_iff_admitted (folder : NodeId) (es : Run) (s : NodeId) (o : Operation) :
    (replyTo folder es s o).granted = Seat.admits folder (seatAfter folder es s) o :=
  granted_eq_admits s o _ _ (represents_seatAfter folder es s)

theorem seatAfter_snoc_same (folder : NodeId) (es : Run) (s : NodeId) (o : Operation) :
    seatAfter folder (es ++ [(s, o)]) s = Seat.after folder (seatAfter folder es s) o := by
  rw [seatAfter, opsOf_snoc_same, List.foldl_append]
  rfl

theorem seatAfter_snoc_other (folder : NodeId) (es : Run) {s : NodeId} {e : NodeId × Operation} (h : e.1 ≠ s) :
    seatAfter folder (es ++ [e]) s = seatAfter folder es s := by
  rw [seatAfter, opsOf_snoc_other h]
  rfl

/-! ## Where a seat comes from -/

def Operation.activation : Operation → Option Activation
  | .activateSession a => some a
  | _ => none

def noteActivation (last : Option Activation) (o : Operation) : Option Activation := o.activation.or last

def noteAccepted (last : Option String) (o : Operation) : Option String := (o.activation.bind Activation.device).or last

/-- The most recent activation of a session, accepted or not. -/
def lastActivation (s : NodeId) (es : Run) : Option Activation := (opsOf s es).foldl noteActivation none

/-- The device of the most recent activation that was accepted. -/
def lastAccepted (s : NodeId) (es : Run) : Option String := (opsOf s es).foldl noteAccepted none

/-- An operation is an activation, which sets the seat, or leaves the seat's device. -/
theorem after_cases (folder : NodeId) (seat : Option Seat) (o : Operation) :
    (∃ a, o = .activateSession a ∧ Seat.after folder seat o = a.device.map Seat.fresh) ∨
      (o.activation = none ∧ (Seat.after folder seat o).map (·.device) = seat.map (·.device)) := by
  cases o with
  | activateSession a => exact Or.inl ⟨a, rfl, rfl⟩
  | allowAddNode item =>
    refine Or.inr ⟨rfl, ?_⟩
    cases seat with
    | none => rfl
    | some seat =>
      simp only [Seat.after, Option.map_some, Seat.remember]
      split <;> rfl
  | _ => exact Or.inr ⟨rfl, rfl⟩

/-- A seat is the device of the most recent activation, if that was accepted. -/
theorem seatAfter_device (folder : NodeId) (es : Run) (s : NodeId) :
    (seatAfter folder es s).map (·.device) = (lastActivation s es).bind Activation.device := by
  unfold seatAfter lastActivation
  generalize opsOf s es = ops
  suffices ∀ (seat : Option Seat) (last : Option Activation), seat.map (·.device) = last.bind Activation.device →
      (ops.foldl (Seat.after folder) seat).map (·.device) = (ops.foldl noteActivation last).bind Activation.device from
    this none none rfl
  induction ops with
  | nil => intro seat last h; exact h
  | cons o ops ih =>
    intro seat last h
    refine ih _ _ ?_
    rcases after_cases folder seat o with ⟨a, rfl, heq⟩ | ⟨ho, heq⟩
    · rw [heq, Option.map_map]
      exact congrFun Option.map_id _
    · rw [heq, h, noteActivation, ho, Option.none_or]

/-- A seated session is seated as the device it was last accepted as. -/
theorem lastAccepted_of_seat (folder : NodeId) (es : Run) (s : NodeId) (seat : Seat)
    (h : seatAfter folder es s = some seat) : lastAccepted s es = some seat.device := by
  unfold seatAfter at h
  unfold lastAccepted
  revert h
  generalize opsOf s es = ops
  suffices ∀ (x : Option Seat) (last : Option String), (∀ y, x = some y → last = some y.device) →
      ops.foldl (Seat.after folder) x = some seat → ops.foldl noteAccepted last = some seat.device from
    this none none (fun _ h => nomatch h)
  induction ops with
  | nil => intro x last h hx; exact h seat hx
  | cons o ops ih =>
    intro x last h hx
    refine ih _ _ ?_ hx
    intro y hy
    rcases after_cases folder x o with ⟨a, rfl, heq⟩ | ⟨ho, heq⟩
    · rw [heq] at hy
      obtain ⟨d, hd, rfl⟩ := Option.map_eq_some_iff.mp hy
      simp only [noteAccepted, Operation.activation, Option.bind_some, hd, Option.some_or]
      rfl
    · rw [hy] at heq
      obtain ⟨x', rfl, hdev⟩ := Option.map_eq_some_iff.mp heq.symm
      rw [noteAccepted, ho, Option.bind_none, Option.none_or, h x' rfl, hdev]

/-- A seat goes back to an accepted activation of that session, its most recent one. -/
theorem seat_origin (folder : NodeId) (es : Run) (s : NodeId) (seat : Seat) (h : seatAfter folder es s = some seat) :
    ∃ pre a post, es = pre ++ (s, .activateSession a) :: post ∧
      (∀ e ∈ post, e.1 = s → e.2.activation = none) ∧ a.device = some seat.device := by
  induction es using List.reverseRecOn generalizing seat with
  | nil => simp [seatAfter, opsOf] at h
  | append_singleton es e ih =>
    -- an event that is no activation of `s` leaves the device to the run before it
    have carry : ∀ seat', seatAfter folder es s = some seat' → seat'.device = seat.device →
        (e.1 = s → e.2.activation = none) →
        ∃ pre a post, es ++ [e] = pre ++ (s, .activateSession a) :: post ∧
          (∀ e ∈ post, e.1 = s → e.2.activation = none) ∧ a.device = some seat.device := by
      intro seat' hseat hdev he
      obtain ⟨pre, a, post, rfl, hpost, ha⟩ := ih seat' hseat
      refine ⟨pre, a, post ++ [e], by simp, ?_, hdev ▸ ha⟩
      intro e' hmem
      rcases List.mem_append.mp hmem with hmem | hmem
      · exact hpost e' hmem
      · rw [List.mem_singleton.mp hmem]
        exact he
    by_cases hs : e.1 = s
    · obtain ⟨s', o⟩ := e
      subst hs
      rw [seatAfter_snoc_same] at h
      rcases after_cases folder (seatAfter folder es s') o with ⟨a, rfl, heq⟩ | ⟨ho, heq⟩
      · rw [heq] at h
        obtain ⟨d, hd, rfl⟩ := Option.map_eq_some_iff.mp h
        exact ⟨es, a, [], rfl, fun _ hmem => absurd hmem List.not_mem_nil, hd⟩
      · rw [h] at heq
        obtain ⟨seat', hseat, hdev⟩ := Option.map_eq_some_iff.mp heq.symm
        exact carry seat' hseat hdev fun _ => ho
    · rw [seatAfter_snoc_other folder es hs] at h
      exact carry seat h rfl fun e => absurd e hs

/-! ## Authority follows the last activation -/

/-- A query granted to a session goes back to that session's most recent activation,
    which was accepted on a certificate of the device on record; and calls made for
    other sessions do not show in any reply. -/
theorem authority_follows_activation (folder : NodeId) (es : Run) (s : NodeId) (o : Operation) :
    ((replyTo folder es s o).granted = true →
      ∃ pre a post d, es = pre ++ (s, .activateSession a) :: post ∧
        (∀ e ∈ post, e.1 = s → e.2.activation = none) ∧
        replyTo folder pre s (.activateSession a) = .status statusGood ∧
        (tableAfter folder es s).map (·.deviceName) = some d ∧ a.Proves d) ∧
    replyTo folder es s o = replyTo folder (es.filter fun e => e.1 = s) s o := by
  refine ⟨fun h => ?_, reply_filter (step_local folder) s o es _⟩
  rw [granted_iff_admitted] at h
  cases hseat : seatAfter folder es s with
  | none => simp [hseat, Seat.admits] at h
  | some seat =>
    obtain ⟨pre, a, post, hes, hpost, ha⟩ := seat_origin folder es s seat hseat
    refine ⟨pre, a, post, seat.device, hes, hpost, ?_, ?_, a.proves_of_device ha⟩
    · rcases activateSession_cases s a (tableAfter folder pre) with ⟨d, -, heq⟩ | ⟨hnone, -⟩
      · simp only [replyTo, step, heq]
      · rw [hnone] at ha
        cases ha
    · obtain ⟨attrs, hattrs, hdev, -⟩ := entry_of_seat hseat
      rw [hattrs, Option.map_some, hdev]

/-- An activation in which a device directory `d` holds the certificate presented. -/
def presentedBy (d : String) (cert : ByteString) : Activation where
  devicesDir := ⟨true, [⟨d, true, true, some cert⟩]⟩
  secureChannelRemoteCertificate := cert
  userIdentityToken := some ⟨x509TokenPolicyId, cert⟩

def session (n : UInt32) : NodeId := ⟨1, .numeric n⟩

theorem authority_follows_activation_plc :
    ∃ pre a post d, [(session 1, Operation.activateSession (presentedBy "plc" [7]))] =
      pre ++ (session 1, .activateSession a) :: post ∧ a.Proves d := by
  obtain ⟨pre, a, post, d, hes, -, -, -, hd⟩ := (authority_follows_activation telemetryClientsFolderId
    [(session 1, .activateSession (presentedBy "plc" [7]))] (session 1) (.allowBrowseNode objectsFolder)).1 (by decide)
  exact ⟨pre, a, post, d, hes, hd⟩

/-! ## Closing a session -/

theorem lastActivation_append (s : NodeId) (es fs : Run) :
    lastActivation s (es ++ fs) = (lastActivation s fs).or (lastActivation s es) := by
  unfold lastActivation
  rw [opsOf_append, List.foldl_append]
  generalize (opsOf s es).foldl noteActivation none = last
  suffices ∀ x, (opsOf s fs).foldl noteActivation (x.or last) = ((opsOf s fs).foldl noteActivation x).or last from
    this none
  induction opsOf s fs with
  | nil => intro x; rfl
  | cons o ops ih =>
    intro x
    rw [List.foldl_cons, List.foldl_cons, noteActivation, noteActivation, ← Option.or_assoc]
    exact ih _

/-- A most recent activation is one of the run's. -/
theorem mem_of_lastActivation {s : NodeId} {es : Run} {a : Activation} (h : lastActivation s es = some a) :
    (s, .activateSession a) ∈ es := by
  induction es using List.reverseRecOn with
  | nil => simp [lastActivation, opsOf] at h
  | append_singleton es e ih =>
    rw [lastActivation_append] at h
    rcases Option.or_eq_some_iff.mp h with h | ⟨-, h⟩
    · refine List.mem_append_right _ ?_
      unfold lastActivation at h
      by_cases hs : e.1 = s
      · obtain ⟨s', o⟩ := e
        subst hs
        cases o <;> simp [opsOf, noteActivation, Operation.activation] at h ⊢
        exact h.symm
      · simp [opsOf, hs] at h
    · exact List.mem_append_left _ (ih h)

theorem lastActivation_isSome {s : NodeId} {es : Run} {a : Activation} (h : (s, .activateSession a) ∈ es) :
    (lastActivation s es).isSome = true := by
  obtain ⟨pre, post, rfl⟩ := List.append_of_mem h
  rw [lastActivation_append, show (s, Operation.activateSession a) :: post = [(s, .activateSession a)] ++ post from rfl,
    lastActivation_append]
  have hone : lastActivation s [(s, .activateSession a)] = some a := by
    simp [lastActivation, opsOf, noteActivation, Operation.activation]
  rw [hone]
  cases lastActivation s post <;> rfl

/-- Every query is denied to a session exactly if its most recent activation was not
    accepted. -/
theorem denied_iff (folder : NodeId) (es : Run) (s : NodeId) :
    (∀ o, (replyTo folder es s o).granted = false) ↔ (lastActivation s es).bind Activation.device = none := by
  rw [← seatAfter_device folder]
  constructor
  · intro h
    have hb := h (.allowBrowseNode NodeId.null)
    rw [granted_iff_admitted] at hb
    cases hseat : seatAfter folder es s with
    | none => rfl
    | some seat => simp [hseat, Seat.admits] at hb
  · intro h o
    rw [granted_iff_admitted, Option.map_eq_none_iff.mp h]
    rfl

/-- Closing a session denies it nothing by itself: until its next accepted activation
    every query is denied exactly if it held no authority before it was closed, or an
    activation of it has been refused since. -/
theorem closed_denied_iff (folder : NodeId) (pre post : Run) (s : NodeId)
    (hpost : ∀ a, (s, .activateSession a) ∈ post → a.device = none) :
    (∀ o, (replyTo folder (pre ++ (s, .closeSession) :: post) s o).granted = false) ↔
      (lastActivation s pre).bind Activation.device = none ∨ ∃ a, (s, .activateSession a) ∈ post := by
  have hclose : lastActivation s [(s, .closeSession)] = none := by
    simp [lastActivation, opsOf, noteActivation, Operation.activation]
  rw [denied_iff, show pre ++ (s, Operation.closeSession) :: post = pre ++ [(s, .closeSession)] ++ post by simp,
    lastActivation_append, lastActivation_append, hclose, Option.none_or]
  cases hlast : lastActivation s post with
  | none =>
    rw [Option.none_or]
    constructor
    · intro h
      exact Or.inl h
    · intro hcase
      rcases hcase with h | ⟨a, ha⟩
      · exact h
      · have := lastActivation_isSome ha
        rw [hlast] at this
        cases this
  | some a =>
    have ha := mem_of_lastActivation hlast
    rw [Option.some_or, Option.bind_some, hpost a ha]
    exact ⟨fun _ => Or.inr ⟨a, ha⟩, fun _ => rfl⟩

/-- A session closed and refused on its return may not browse. -/
theorem closed_denied_refused :
    (replyTo telemetryClientsFolderId
      ([(session 1, .activateSession (presentedBy "plc" [7]))] ++ (session 1, .closeSession) ::
        [(session 1, .activateSession (presentedBy "server" [7]))]) (session 1)
      (.allowBrowseNode objectsFolder)).granted = false :=
  (closed_denied_iff telemetryClientsFolderId _ _ (session 1) (by
    intro a ha
    rw [List.mem_singleton, Prod.mk.injEq, Operation.activateSession.injEq] at ha
    rw [ha.2]
    decide)).mpr (.inr ⟨_, List.mem_singleton.mpr rfl⟩) _

/-- A session that is merely closed may still browse, write and publish. -/
theorem closed_still_granted :
    let es := [(session 1, .activateSession (presentedBy "plc" [7])), (session 1, .closeSession)]
    replyTo telemetryClientsFolderId es (session 1) (.allowBrowseNode objectsFolder) = .verdict true ∧
      replyTo telemetryClientsFolderId es (session 1) (.getUserAccessLevel objectsFolder) = .level AccessLevel.readWrite ∧
      replyTo telemetryClientsFolderId es (session 1) (.allowAddNode
        ⟨telemetryClientsFolderId.expanded, NodeId.expanded ⟨1, .string "plc"⟩, ⟨1, "plc"⟩⟩) = .verdict true := by
  decide

/-! ## The write level -/

/-- `getUserAccessLevel` has the CurrentWrite bit. -/
def mayWrite (folder : NodeId) (es : Run) (s nodeId : NodeId) : Bool :=
  match replyTo folder es s (.getUserAccessLevel nodeId) with
  | .level mask => decide (mask &&& AccessLevel.currentWrite ≠ 0)
  | _ => false

/-- A session may write exactly if its most recent activation was accepted: to every
    node, whoever created it. -/
theorem write_granted_iff (folder : NodeId) (es : Run) (s nodeId : NodeId) :
    mayWrite folder es s nodeId = true ↔ ∃ a d, lastActivation s es = some a ∧ a.device = some d := by
  have hlvl := accessLvl_eq (represents_seatAfter folder es s)
  have hseat := seatAfter_device folder es s
  simp only [mayWrite, replyTo, step, getUserAccessLevel, SessionAttributes.subscript_fst, hlvl]
  rw [← Option.isSome_map (f := fun seat : Seat => seat.device), hseat]
  constructor
  · intro h
    cases hlast : (lastActivation s es).bind Activation.device with
    | none =>
      rw [hlast] at h
      exact absurd h (by decide)
    | some d =>
      obtain ⟨a, ha, hd⟩ := Option.bind_eq_some_iff.mp hlast
      exact ⟨a, d, ha, hd⟩
  · intro hfound
    obtain ⟨a, d, ha, hd⟩ := hfound
    rw [ha, Option.bind_some, hd, Option.isSome_some, if_pos rfl]
    decide

/-- Two devices: `plc` publishes its folder, then `hmi` logs in. -/
def twoDevices : Run :=
  [(session 1, .activateSession (presentedBy "plc" [7])),
    (session 1, .allowAddNode ⟨telemetryClientsFolderId.expanded, NodeId.expanded ⟨1, .string "plc"⟩, ⟨1, "plc"⟩⟩),
    (session 2, .activateSession (presentedBy "hmi" [9]))]

/-- `hmi` may write to the folder whose creation was allowed for `plc`. -/
theorem another_device_may_write :
    replyTo telemetryClientsFolderId (twoDevices.take 1) (session 1) (.allowAddNode
        ⟨telemetryClientsFolderId.expanded, NodeId.expanded ⟨1, .string "plc"⟩, ⟨1, "plc"⟩⟩) = .verdict true ∧
      lastAccepted (session 1) (twoDevices.take 1) = some "plc" ∧ lastAccepted (session 2) twoDevices = some "hmi" ∧
      ¬ DottedPrefix "plc" "hmi" ∧ ¬ DottedPrefix "hmi" "plc" ∧
      mayWrite telemetryClientsFolderId twoDevices (session 2) ⟨1, .string "plc"⟩ = true := by
  decide

end HardwareMonitor.OpcUa
