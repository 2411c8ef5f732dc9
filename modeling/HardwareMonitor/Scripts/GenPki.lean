/-
  HardwareMonitor.Scripts.GenPki — the certificates `gen_pki.py` makes: `init_ca` and
  `add_device`, each a few steps of openssl that write one file each. A step that fails
  ends the command, and may leave anything where its file goes.

  `init_ca` asks for the key of the CA only, which its first step writes; `add_device` for
  the directory of the device, which it makes before its first step. So a command that
  fails behind these is refused when it is run again, and the same `pki/` can have a CA for
  `init_ca` and none for `add_device`. Proved of every run of commands: all that fails can
  be run again exactly if nothing fails but the first step of `init_ca`, and that leaves no
  key (`retryable_iff`).
-/

import Mathlib.Data.List.Induction
import Mathlib.Logic.Function.Basic

namespace HardwareMonitor.Scripts.GenPki

/-! ## Files and steps -/

inductive File where
  | absent
  | partly
  | whole
  deriving DecidableEq, Repr

/-- `path.exists()` -/
def File.exists : File → Bool
  | .absent => false
  | _ => true

/-- `pki/devices/<name>/` -/
structure DeviceDir where
  key : File
  csr : File
  crt : File
  deriving DecidableEq, Repr

/-- `pki/`. A device name is one component of a path. -/
structure Pki where
  caKey : File
  caCert : File
  devices : String → Option DeviceDir

def Pki.empty : Pki := ⟨.absent, .absent, fun _ => none⟩

/-- What openssl does in a step: its job, if the files it reads are whole, or it fails and
    leaves this where its file goes. -/
inductive Outcome where
  | works
  | fails (left : File)
  deriving DecidableEq, Repr

/-- `_run`: whether it returns, and the file the step writes. -/
def runStep (outcome : Outcome) (readsWhole : Bool) (old : File) : Bool × File :=
  match outcome with
  | .works => if readsWhole then (true, .whole) else (false, old)
  | .fails left => (false, left)

/-- The steps of a command; `init_ca` has no `x509` of its own. -/
structure Openssl where
  genpkey : Outcome
  req : Outcome
  x509 : Outcome
  deriving DecidableEq, Repr

def Openssl.working : Openssl := ⟨.works, .works, .works⟩

/-! ## The commands -/

inductive Result where
  /-- The last line is printed: the files are there. -/
  | created
  /-- "CA already exists at ... Use --force to regenerate." -/
  | caExists
  /-- "No CA found. Run 'init-ca' first." -/
  | noCa
  /-- "Error: Device '...' already exists. ..." -/
  | deviceExists
  /-- `ipaddress.ip_address` raises. -/
  | badIp
  /-- "Command failed: ..." -/
  | commandFailed
  deriving DecidableEq, Repr

def initCa (force : Bool) (openssl : Openssl) (pki : Pki) : Result × Pki :=
  if pki.caKey.exists && !force then (.caExists, pki)
  else
    let key := runStep openssl.genpkey true pki.caKey
    let pki := { pki with caKey := key.2 }
    if !key.1 then (.commandFailed, pki)
    else
      let crt := runStep openssl.req (pki.caKey = .whole) pki.caCert
      let pki := { pki with caCert := crt.2 }
      if !crt.1 then (.commandFailed, pki) else (.created, pki)

/-- The steps of `add_device` in the directory it has made. -/
def makeDevice (openssl : Openssl) (pki : Pki) : Result × DeviceDir :=
  let dir : DeviceDir := ⟨.absent, .absent, .absent⟩
  let key := runStep openssl.genpkey true dir.key
  let dir := { dir with key := key.2 }
  if !key.1 then (.commandFailed, dir)
  else
    let csr := runStep openssl.req (dir.key = .whole) dir.csr
    let dir := { dir with csr := csr.2 }
    if !csr.1 then (.commandFailed, dir)
    else
      let crt := runStep openssl.x509 (dir.csr = .whole ∧ pki.caCert = .whole ∧ pki.caKey = .whole) dir.crt
      -- `finally`: the request goes whether the step fails or not
      let dir := { dir with crt := crt.2, csr := .absent }
      if !crt.1 then (.commandFailed, dir) else (.created, dir)

/-- `ipOk` is whether `ipaddress.ip_address` takes the address. -/
def addDevice (ipOk : String → Bool) (name : String) (ipAddrs : List String) (openssl : Openssl) (pki : Pki) :
    Result × Pki :=
  if !pki.caKey.exists || !pki.caCert.exists then (.noCa, pki)
  else if (pki.devices name).isSome then (.deviceExists, pki)
  else if !ipAddrs.all ipOk then (.badIp, pki)
  else
    let made := makeDevice openssl pki
    (made.1, { pki with devices := Function.update pki.devices name (some made.2) })

inductive Command where
  | initCa
  | addDevice (name : String) (ipAddrs : List String)
  deriving DecidableEq, Repr

/-- `main`, without `--force`. -/
def Command.exec (ipOk : String → Bool) (openssl : Openssl) (pki : Pki) : Command → Result × Pki
  | .initCa => GenPki.initCa false openssl pki
  | .addDevice name ipAddrs => GenPki.addDevice ipOk name ipAddrs openssl pki

/-- A command, and what openssl does in its steps. -/
structure Event where
  command : Command
  openssl : Openssl
  deriving DecidableEq, Repr

variable (ipOk : String → Bool)

def Event.exec (e : Event) (pki : Pki) : Result × Pki := e.command.exec ipOk e.openssl pki

/-- `pki/` after these commands. -/
def after (events : List Event) : Pki := events.foldl (fun pki e => (e.exec ipOk pki).2) Pki.empty

/-! ## Running a command again -/

/-- The two commands do not agree on whether there is a CA. -/
def Pki.Stuck (pki : Pki) : Prop :=
  (initCa false .working pki).1 = .caExists ∧ ∃ name ipAddrs, (addDevice ipOk name ipAddrs .working pki).1 = .noCa

/-- Whenever a step of a command of the run fails, running the command again with a working
    openssl creates what it is for, and the commands agree on whether there is a CA. -/
def Retryable (events : List Event) : Prop :=
  (∀ before e rest, events = before ++ e :: rest → (e.exec ipOk (after ipOk before)).1 = .commandFailed →
    (e.command.exec ipOk .working (after ipOk (before ++ [e]))).1 = .created) ∧
  ∀ before, before <+: events → ¬ (after ipOk before).Stuck ipOk

/-- The command gets to its steps. -/
def Command.Proceeds (pki : Pki) : Command → Prop
  | .initCa => pki.caKey = .absent
  | .addDevice name ipAddrs =>
    pki.caKey.exists ∧ pki.caCert.exists ∧ pki.devices name = none ∧ ipAddrs.all ipOk

/-- No step of the command fails, or only the first one of `init_ca`, leaving no key. -/
def Openssl.Harmless (openssl : Openssl) : Command → Prop
  | .initCa => openssl.genpkey = .fails .absent ∨ (openssl.genpkey = .works ∧ openssl.req = .works)
  | .addDevice _ _ => openssl = .working

/-! ## What a command does -/

variable {ipOk} {pki : Pki}

/-- The CA has both its files or none. -/
def Pki.Settled (pki : Pki) : Prop :=
  (pki.caKey = .absent ∧ pki.caCert = .absent) ∨ (pki.caKey = .whole ∧ pki.caCert = .whole)

theorem initCa_exists {openssl : Openssl} (h : pki.caKey ≠ .absent) : initCa false openssl pki = (.caExists, pki) := by
  have hexists : pki.caKey.exists = true := by
    cases hkey : pki.caKey with
    | absent => exact absurd hkey h
    | partly => rfl
    | whole => rfl
  rw [initCa, hexists]
  rfl

/-- Without a key the steps decide. -/
theorem initCa_proceeds (h : pki.caKey = .absent) (openssl : Openssl) :
    initCa false openssl pki =
      match openssl.genpkey, openssl.req with
      | .fails left, _ => (.commandFailed, { pki with caKey := left })
      | .works, .fails left => (.commandFailed, { pki with caKey := .whole, caCert := left })
      | .works, .works => (.created, { pki with caKey := .whole, caCert := .whole }) := by
  rw [initCa, h]
  cases openssl.genpkey with
  | fails left => simp [File.exists, runStep]
  | works =>
    cases openssl.req with
    | fails left => simp [File.exists, runStep]
    | works => simp [File.exists, runStep]

/-- Where the command gets to its steps, they decide, and the directory is there. -/
theorem addDevice_proceeds {openssl : Openssl} {name : String} {ipAddrs : List String}
    (h : (Command.addDevice name ipAddrs).Proceeds ipOk pki) :
    addDevice ipOk name ipAddrs openssl pki =
      ((makeDevice openssl pki).1,
        { pki with devices := Function.update pki.devices name (some (makeDevice openssl pki).2) }) := by
  obtain ⟨hkey, hcert, hnew, hips⟩ := h
  simp [addDevice, hkey, hcert, hnew, hips]

/-- Where it does not, it is refused, and nothing changes. -/
theorem addDevice_refused {openssl : Openssl} {name : String} {ipAddrs : List String}
    (h : ¬ (Command.addDevice name ipAddrs).Proceeds ipOk pki) :
    (addDevice ipOk name ipAddrs openssl pki).1 ≠ .commandFailed ∧ (addDevice ipOk name ipAddrs openssl pki).2 = pki := by
  rw [addDevice]
  split
  · simp
  · split
    · simp
    · split
      · simp
      · rename_i hca hnew hips
        refine absurd ⟨?_, ?_, ?_, ?_⟩ h
        all_goals simp_all

theorem makeDevice_working (hkey : pki.caKey = .whole) (hcert : pki.caCert = .whole) :
    (makeDevice .working pki).1 = .created := by
  simp [makeDevice, runStep, Openssl.working, hkey, hcert]

theorem makeDevice_fails {openssl : Openssl} (h : openssl ≠ .working) : (makeDevice openssl pki).1 = .commandFailed := by
  obtain ⟨genpkey, req, x509⟩ := openssl
  cases genpkey with
  | fails left => rfl
  | works =>
    cases req with
    | fails left => rfl
    | works =>
      cases x509 with
      | fails left => rfl
      | works => exact absurd rfl h

/-- The steps end in one of two ways. -/
theorem makeDevice_result (openssl : Openssl) (pki : Pki) :
    (makeDevice openssl pki).1 = .created ∨ (makeDevice openssl pki).1 = .commandFailed := by
  simp only [makeDevice]
  split
  · exact Or.inr rfl
  · split
    · exact Or.inr rfl
    · split
      · exact Or.inr rfl
      · exact Or.inl rfl

/-- A device is made without touching the CA. -/
theorem addDevice_ca (ipOk : String → Bool) (openssl : Openssl) (name : String) (ipAddrs : List String) (pki : Pki) :
    (addDevice ipOk name ipAddrs openssl pki).2.caKey = pki.caKey ∧
      (addDevice ipOk name ipAddrs openssl pki).2.caCert = pki.caCert := by
  by_cases h : (Command.addDevice name ipAddrs).Proceeds ipOk pki
  · rw [addDevice_proceeds h]
    exact ⟨rfl, rfl⟩
  · rw [(addDevice_refused h).2]
    exact ⟨rfl, rfl⟩

/-! ## One event -/

/-- The event does no harm where it is run. -/
def Event.HarmlessAt (ipOk : String → Bool) (e : Event) (pki : Pki) : Prop :=
  e.command.Proceeds ipOk pki → e.openssl.Harmless e.command

theorem settled_exec (hs : pki.Settled) {e : Event} (he : e.HarmlessAt ipOk pki) : (e.exec ipOk pki).2.Settled := by
  obtain ⟨command, openssl⟩ := e
  cases command with
  | initCa =>
    rcases hs with ⟨hkey, hcert⟩ | ⟨hkey, hcert⟩
    · show (initCa false openssl pki).2.Settled
      rcases he hkey with hfails | ⟨hworks, hreq⟩
      · rw [initCa_proceeds hkey, hfails]
        exact Or.inl ⟨rfl, hcert⟩
      · rw [initCa_proceeds hkey, hworks, hreq]
        exact Or.inr ⟨rfl, rfl⟩
    · show (initCa false openssl pki).2.Settled
      rw [initCa_exists (by rw [hkey]; decide)]
      exact Or.inr ⟨hkey, hcert⟩
  | addDevice name ipAddrs =>
    obtain ⟨hkey, hcert⟩ := addDevice_ca ipOk openssl name ipAddrs pki
    show (addDevice ipOk name ipAddrs openssl pki).2.Settled
    rw [Pki.Settled, hkey, hcert]
    exact hs

/-- What fails without harm can be run again. -/
theorem retry_of_harmless (hs : pki.Settled) {e : Event} (he : e.HarmlessAt ipOk pki)
    (hfailed : (e.exec ipOk pki).1 = .commandFailed) :
    (e.command.exec ipOk .working (e.exec ipOk pki).2).1 = .created := by
  obtain ⟨command, openssl⟩ := e
  cases command with
  | initCa =>
    change (initCa false openssl pki).1 = _ at hfailed
    show (initCa false .working (initCa false openssl pki).2).1 = _
    by_cases hkey : pki.caKey = .absent
    · rcases he hkey with hfails | ⟨hworks, hreq⟩
      · rw [initCa_proceeds hkey, hfails, initCa_proceeds rfl]
        rfl
      · rw [initCa_proceeds hkey, hworks, hreq] at hfailed
        cases hfailed
    · rw [initCa_exists hkey] at hfailed
      cases hfailed
  | addDevice name ipAddrs =>
    change (addDevice ipOk name ipAddrs openssl pki).1 = _ at hfailed
    by_cases h : (Command.addDevice name ipAddrs).Proceeds ipOk pki
    · -- With the CA whole and every step working the device is created.
      obtain rfl : openssl = .working := he h
      have hca : pki.caKey = .whole ∧ pki.caCert = .whole := by
        rcases hs with ⟨hkey, -⟩ | hca
        · have hexists := h.1
          rw [hkey] at hexists
          cases hexists
        · exact hca
      rw [addDevice_proceeds h, makeDevice_working hca.1 hca.2] at hfailed
      cases hfailed
    · exact absurd hfailed (addDevice_refused h).1

/-- What fails with harm is refused. -/
theorem no_retry_of_harm {e : Event} (he : ¬ e.HarmlessAt ipOk pki) :
    (e.exec ipOk pki).1 = .commandFailed ∧ (e.command.exec ipOk .working (e.exec ipOk pki).2).1 ≠ .created := by
  obtain ⟨command, openssl⟩ := e
  rw [Event.HarmlessAt, Classical.not_imp] at he
  obtain ⟨hproceeds, hharm⟩ := he
  cases command with
  | initCa =>
    change pki.caKey = .absent at hproceeds
    show (initCa false openssl pki).1 = _ ∧ (initCa false .working (initCa false openssl pki).2).1 ≠ _
    rw [Openssl.Harmless, not_or, not_and] at hharm
    obtain ⟨hkey, hreq⟩ := hharm
    cases hgenpkey : openssl.genpkey with
    | fails left =>
      have hleft : left ≠ .absent := by
        intro hleft
        exact hkey (by rw [hgenpkey, hleft])
      rw [initCa_proceeds hproceeds, hgenpkey, initCa_exists hleft]
      exact ⟨rfl, Result.noConfusion⟩
    | works =>
      cases hr : openssl.req with
      | works => exact absurd hr (hreq hgenpkey)
      | fails left =>
        rw [initCa_proceeds hproceeds, hgenpkey, hr, initCa_exists File.noConfusion]
        exact ⟨rfl, Result.noConfusion⟩
  | addDevice name ipAddrs =>
    show (addDevice ipOk name ipAddrs openssl pki).1 = _ ∧
      (addDevice ipOk name ipAddrs .working (addDevice ipOk name ipAddrs openssl pki).2).1 ≠ _
    rw [addDevice_proceeds hproceeds]
    refine ⟨makeDevice_fails hharm, ?_⟩
    -- The directory is there, so the second attempt is refused.
    obtain ⟨hkey, hcert, -, -⟩ := hproceeds
    simp [addDevice, hkey, hcert]

theorem not_stuck_of_settled (hs : pki.Settled) : ¬ pki.Stuck ipOk := by
  intro hstuck
  obtain ⟨hexists, name, ipAddrs, hno⟩ := hstuck
  rcases hs with ⟨hkey, -⟩ | ⟨hkey, hcert⟩
  · rw [initCa_proceeds hkey] at hexists
    cases hexists
  · rw [addDevice, hkey, hcert] at hno
    split at hno
    · rename_i hca
      exact absurd hca (by decide)
    · split at hno
      · cases hno
      · split at hno
        · cases hno
        · rcases makeDevice_result .working pki with hmade | hmade
          · rw [hmade] at hno
            cases hno
          · rw [hmade] at hno
            cases hno

/-! ## Runs -/

theorem after_concat (before : List Event) (e : Event) :
    after ipOk (before ++ [e]) = (e.exec ipOk (after ipOk before)).2 := by
  rw [after, List.foldl_append]
  rfl

/-- A run without harm has a whole CA or none, at every step. -/
theorem settled_after {events : List Event}
    (h : ∀ before e rest, events = before ++ e :: rest → e.HarmlessAt ipOk (after ipOk before)) :
    (after ipOk events).Settled := by
  induction events using List.reverseRecOn with
  | nil => exact Or.inl ⟨rfl, rfl⟩
  | append_singleton events e ih =>
    rw [after_concat]
    refine settled_exec (ih fun before e' rest heq => ?_) (h events e [] rfl)
    refine h before e' (rest ++ [e]) ?_
    rw [heq, List.append_assoc, List.cons_append]

/-- A run can be resumed after every failure, and its commands agree on the CA, exactly if
    in no command that gets to its steps one of them fails, but for the first of `init_ca`
    where it leaves no key. -/
theorem retryable_iff (ipOk : String → Bool) (events : List Event) :
    Retryable ipOk events ↔
      ∀ before e rest, events = before ++ e :: rest → e.command.Proceeds ipOk (after ipOk before) →
        e.openssl.Harmless e.command := by
  constructor
  · intro hretry before e rest heq
    by_contra hharm
    obtain ⟨hfailed, hagain⟩ := no_retry_of_harm hharm
    have hcreated := hretry.1 before e rest heq hfailed
    rw [after_concat] at hcreated
    exact hagain hcreated
  · intro h
    have hsettled : ∀ before, before <+: events → (after ipOk before).Settled := by
      intro before hbefore
      obtain ⟨rest, hrest⟩ := hbefore
      refine settled_after fun earlier e later heq => ?_
      refine h earlier e (later ++ rest) ?_
      rw [← hrest, heq, List.append_assoc, List.cons_append]
    refine ⟨fun before e rest heq hfailed => ?_, fun before hbefore => not_stuck_of_settled (hsettled before hbefore)⟩
    rw [after_concat]
    exact retry_of_harmless (hsettled before ⟨e :: rest, heq.symm⟩) (h before e rest heq) hfailed

/-- `init_ca`, whose second step fails. -/
def failedReq : Event := ⟨.initCa, ⟨.works, .fails .absent, .works⟩⟩

/-- `init_ca` has a CA then, and `add_device` has none; and a device whose first step fails
    cannot be created again. -/
theorem failed_commands_are_refused :
    (after (fun _ => true) [failedReq]).Stuck (fun _ => true) ∧
    (((Command.addDevice "server" []).exec (fun _ => true) .working
      (after (fun _ => true) [⟨.initCa, .working⟩, ⟨.addDevice "server" [], ⟨.fails .absent, .works, .works⟩⟩])).1 =
        .deviceExists) ∧
    ¬ ∀ ipOk events, Retryable ipOk events := by
  have hstuck : (after (fun _ => true) [failedReq]).Stuck (fun _ => true) := ⟨by decide, "server", [], by decide⟩
  refine ⟨hstuck, by decide, fun h => ?_⟩
  exact (h (fun _ => true) [failedReq]).2 [failedReq] (List.prefix_refl _) hstuck

end HardwareMonitor.Scripts.GenPki
