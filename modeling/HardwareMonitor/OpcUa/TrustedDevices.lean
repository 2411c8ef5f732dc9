/-
  HardwareMonitor.OpcUa.TrustedDevices — what `findTrustedDevice` finds.

  The certificate an entry of the devices directory stands for is that of its file
  `<name>/<name>.crt`, if the entry is a directory other than `server` and the file is a
  regular one with something in it (`DeviceEntry.stored`). The search returns the first
  entry that stands for the certificate presented twice, passing over all others
  (`findTrustedEntry_eq`). With the stored certificates told apart there is one such
  entry at most, and the order in which the directory is listed does not matter.
-/

import Mathlib.Data.List.Nodup
import HardwareMonitor.OpcUa.Authority

namespace HardwareMonitor.OpcUa

/-! ## Stored certificates -/

/-- The certificate that proves to be this device, if there is one. -/
def DeviceEntry.stored (e : DeviceEntry) : Option ByteString :=
  if e.isDirectory = true ∧ e.filename ≠ "server" ∧ e.certIsRegularFile = true then e.cert.filter (· ≠ []) else none

theorem stored_eq_some {e : DeviceEntry} {cert : ByteString} :
    e.stored = some cert ↔
      e.isDirectory = true ∧ e.filename ≠ "server" ∧ e.certIsRegularFile = true ∧ e.cert = some cert ∧ cert ≠ [] := by
  simp only [DeviceEntry.stored, Option.ite_none_right_eq_some, Option.filter_eq_some_iff, decide_eq_true_eq, and_assoc]

/-- An entry is trusted if it stands for the certificate that is presented twice. -/
theorem trusts_iff_stored {e : DeviceEntry} {usr channel : ByteString} :
    e.Trusts usr channel ↔ e.stored = some usr ∧ channel = usr := by
  rw [stored_eq_some]
  constructor
  · intro h
    have hcert : e.cert = some usr := by
      have hnonempty := h.nonempty
      rw [h.user]
      cases hc : e.cert with
      | none => simp [parsePki, hc] at hnonempty
      | some cert => rfl
    exact ⟨⟨h.directory, h.notServer, h.regular, hcert, h.user ▸ h.nonempty⟩, h.channel.trans h.user.symm⟩
  · intro h
    obtain ⟨⟨hdir, hserver, hregular, hcert, hne⟩, rfl⟩ := h
    have hparsed : parsePki e.cert = channel := by rw [hcert]; rfl
    exact ⟨hdir, hserver, hregular, hparsed ▸ hne, hparsed.symm, hparsed.symm⟩

/-! ## The search -/

variable {usr channel : ByteString}

/-- The entry stands for the certificate that is presented twice. -/
def DeviceEntry.presented (usr channel : ByteString) (e : DeviceEntry) : Bool :=
  decide (e.stored = some usr ∧ channel = usr)

theorem presented_iff {e : DeviceEntry} : e.presented usr channel = true ↔ e.stored = some usr ∧ channel = usr :=
  decide_eq_true_iff

theorem findTrustedEntry_trusts {e : DeviceEntry} (h : e.Trusts usr channel) (es : List DeviceEntry) :
    findTrustedEntry usr channel (e :: es) = some e.filename := by
  obtain ⟨hdir, hserver, hregular, hne, rfl, rfl⟩ := h
  simp [findTrustedEntry, hdir, hserver, hregular, hne]

/-- The loop is a search for the first entry with the certificate. -/
theorem findTrustedEntry_eq (es : List DeviceEntry) :
    findTrustedEntry usr channel es =
      (es.find? (DeviceEntry.presented usr channel)).map DeviceEntry.filename := by
  induction es with
  | nil => rfl
  | cons e es ih =>
    by_cases htrusts : e.Trusts usr channel
    · rw [findTrustedEntry_trusts htrusts, List.find?_cons_of_pos (presented_iff.mpr (trusts_iff_stored.mp htrusts))]
      rfl
    · rw [List.find?_cons_of_neg fun h => htrusts (trusts_iff_stored.mpr (presented_iff.mp h)), ← ih]
      rcases findTrustedEntry_cons usr channel e es with ⟨h, -⟩ | h
      · exact absurd h htrusts
      · exact h

/-- Certificates that are told apart tell their entries apart. -/
theorem eq_of_stored {es : List DeviceEntry} (hapart : (es.filterMap DeviceEntry.stored).Nodup) {e e' : DeviceEntry}
    {cert : ByteString} (he : e ∈ es) (he' : e' ∈ es) (hs : e.stored = some cert) (hs' : e'.stored = some cert) : e = e' := by
  have hpairs := List.pairwise_filterMap.mp hapart
  induction hpairs with
  | nil => cases he
  | cons hfirst hlater ih =>
    rcases List.mem_cons.mp he with rfl | hin <;> rcases List.mem_cons.mp he' with rfl | hin'
    · rfl
    · exact absurd rfl (hfirst e' hin' cert hs cert hs')
    · exact absurd rfl (hfirst e hin cert hs' cert hs)
    · exact ih (List.pairwise_filterMap.mpr hlater) hin hin'

/-- Two listings of one directory give the same answer. -/
theorem findTrustedEntry_perm {es es' : List DeviceEntry} (hperm : es.Perm es')
    (hapart : (es.filterMap DeviceEntry.stored).Nodup) : findTrustedEntry usr channel es' = findTrustedEntry usr channel es := by
  rw [findTrustedEntry_eq, findTrustedEntry_eq]
  congr 1
  cases hfound : es.find? (DeviceEntry.presented usr channel) with
  | none =>
    rw [List.find?_eq_none] at hfound
    apply List.find?_eq_none.mpr
    intro e he
    exact hfound e (hperm.mem_iff.mpr he)
  | some e =>
    have he := List.mem_of_find?_eq_some hfound
    have hs := List.find?_some hfound
    cases hfound' : es'.find? (DeviceEntry.presented usr channel) with
    | none =>
      rw [List.find?_eq_none] at hfound'
      exact absurd hs (hfound' e (hperm.mem_iff.mp he))
    | some e' =>
      have he' := hperm.mem_iff.mpr (List.mem_of_find?_eq_some hfound')
      have hs' := List.find?_some hfound'
      rw [eq_of_stored hapart he' he (presented_iff.mp hs').1 (presented_iff.mp hs).1]

/-- Sound and complete, whatever the directory holds and in whatever order it is listed:
    a device is found exactly if some entry stands for the certificate presented by both,
    and the name found is that of such an entry. An empty certificate is no device's. The
    order matters only where two devices store the same certificate. -/
theorem found_iff_stored (dir : DevicesDir) (usr channel : ByteString) :
    ((∃ d, findTrustedDevice dir usr channel = some d) ↔
      dir.isDirectory = true ∧ ∃ e ∈ dir.entries, e.stored = some usr ∧ channel = usr) ∧
    (∀ d, findTrustedDevice dir usr channel = some d →
      ∃ e ∈ dir.entries, e.filename = d ∧ e.stored = some usr ∧ channel = usr) ∧
    (usr = [] ∨ channel = [] → findTrustedDevice dir usr channel = none) ∧
    ((dir.entries.filterMap DeviceEntry.stored).Nodup → ∀ entries, dir.entries.Perm entries →
      findTrustedDevice ⟨dir.isDirectory, entries⟩ usr channel = findTrustedDevice dir usr channel) := by
  have hname : ∀ d, findTrustedDevice dir usr channel = some d →
      dir.isDirectory = true ∧ ∃ e ∈ dir.entries, e.filename = d ∧ e.stored = some usr ∧ channel = usr := by
    intro d h
    simp only [findTrustedDevice, Option.ite_none_left_eq_some, Bool.not_eq_true', Bool.not_eq_false] at h
    obtain ⟨hdir, hfound⟩ := h
    obtain ⟨e, he, hd, htrusts⟩ := findTrustedEntry_some hfound
    exact ⟨hdir, e, he, hd, trusts_iff_stored.mp htrusts⟩
  refine ⟨⟨?_, ?_⟩, ?_, ?_, ?_⟩
  · intro h
    obtain ⟨d, hd⟩ := h
    obtain ⟨hdir, e, he, -, hs⟩ := hname d hd
    exact ⟨hdir, e, he, hs⟩
  · intro h
    obtain ⟨hdir, e, he, hs⟩ := h
    have hfound : (dir.entries.find? (DeviceEntry.presented usr channel)).isSome = true :=
      List.find?_isSome.mpr ⟨e, he, presented_iff.mpr hs⟩
    obtain ⟨e', he'⟩ := Option.isSome_iff_exists.mp hfound
    exact ⟨e'.filename, by simp [findTrustedDevice, hdir, findTrustedEntry_eq, he']⟩
  · intro d hd
    exact (hname d hd).2
  · intro hempty
    by_contra hsome
    obtain ⟨d, hd⟩ := Option.ne_none_iff_exists'.mp hsome
    obtain ⟨-, e, -, -, hs, hchannel⟩ := hname d hd
    have hne := (stored_eq_some.mp hs).2.2.2.2
    rcases hempty with h | h
    · exact hne h
    · exact hne (hchannel.symm.trans h)
  · intro hapart entries hperm
    simp only [findTrustedDevice, findTrustedEntry_perm hperm hapart]

end HardwareMonitor.OpcUa
