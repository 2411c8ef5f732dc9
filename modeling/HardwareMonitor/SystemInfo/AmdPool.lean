/-
  HardwareMonitor.SystemInfo.AmdPool — `AMDPool::enumerateADL`: which device objects the
  adapters of the ADL library become. One card can be several adapters; they have its bus
  number in common.

  An adapter becomes a device exactly if it is active and no active adapter before it has
  its bus number (`loop_eq`). So there is one device for each bus with an active adapter,
  made of the first of them, in the order of the adapters (`one_device_per_card`). The
  names are those `Devices.enumerateADL` has (`names_enumerateADL`).
-/

import HardwareMonitor.SystemInfo.AdlMetrics
import HardwareMonitor.SystemInfo.Devices

namespace HardwareMonitor.SystemInfo.AmdPool

open HardwareMonitor.SystemInfo.AdlMetrics (AdlSdk Answer Answers fetchADLMetrics)

/-! ## The enumeration -/

/-- What is read of an element of `adapter_info`. -/
structure AdapterEntry where
  iBusNumber : Int
  strAdapterName : String
  deriving DecidableEq, Repr

/-- What the library answers to the enumeration. -/
structure Library (sdk : AdlSdk) where
  adl2AdapterNumberofadaptersGet : Answer Int
  /-- Only the first `adapter_cnt` elements are read. -/
  adl2AdapterAdapterinfoGet : Answer (Nat → AdapterEntry)
  adl2AdapterActiveGet : Nat → Answer Int
  /-- The answers to the first poll of the adapter's device. -/
  poll : Nat → Answers sdk

/-- `AMDLiveGPUMetrics`, of the ADL path. -/
structure AmdDevice where
  adlAdapterIdx : Nat
  name : String
  devSensors : List (DeviceSensor Rat)
  deriving DecidableEq, Repr

variable {sdk : AdlSdk} (lib : Library sdk)

namespace Library

/-- `adapter_info`, which the call fills in. -/
def adapterInfo (i : Nat) : AdapterEntry := lib.adl2AdapterAdapterinfoGet.value i

def bus (i : Nat) : Int := (lib.adapterInfo i).iBusNumber

/-- The query succeeds, and says that the adapter is active. -/
def Active (i : Nat) : Prop := (lib.adl2AdapterActiveGet i).result = sdk.adlOk ∧ (lib.adl2AdapterActiveGet i).value ≠ 0

instance : DecidablePred lib.Active := fun _ => inferInstanceAs (Decidable (_ ∧ _))

/-- The device of an adapter, with its metrics fetched. -/
def device (i : Nat) : AmdDevice := ⟨i, (lib.adapterInfo i).strAdapterName, fetchADLMetrics (lib.poll i) []⟩

end Library

/-- `seen_bus_numbers` and `devices_`. -/
structure Loop where
  seenBusNumbers : List Int
  devices : List AmdDevice

/-- The body of the loop over the adapters. -/
def adapterStep (s : Loop) (i : Nat) : Loop :=
  if ¬ lib.Active i then s
  else
    let bus := lib.bus i
    if bus ∈ s.seenBusNumbers then s
    else ⟨s.seenBusNumbers ++ [bus], s.devices ++ [lib.device i]⟩

/-- `enumerateADL`, with what it leaves in `devices_`. -/
def enumerateADL (devices : List AmdDevice) : List AmdDevice :=
  if lib.adl2AdapterNumberofadaptersGet.result ≠ sdk.adlOk ∨ lib.adl2AdapterNumberofadaptersGet.value ≤ 0 then devices
  else if lib.adl2AdapterAdapterinfoGet.result ≠ sdk.adlOk then devices
  else ((List.range lib.adl2AdapterNumberofadaptersGet.value.toNat).foldl (adapterStep lib) ⟨[], devices⟩).devices

/-! ## The adapters that become devices -/

/-- The first active adapter on its bus. -/
def First (i : Nat) : Prop := lib.Active i ∧ ∀ j < i, lib.Active j → lib.bus j ≠ lib.bus i

instance : DecidablePred (First lib) := fun i => inferInstanceAs (Decidable (_ ∧ ∀ j < i, _))

/-- A bus with an active adapter has a first one. -/
theorem exists_first {i : Nat} (h : lib.Active i) : ∃ j ≤ i, First lib j ∧ lib.bus j = lib.bus i := by
  induction i using Nat.strongRecOn with
  | ind i ih =>
    by_cases hfirst : First lib i
    · exact ⟨i, Nat.le_refl i, hfirst, rfl⟩
    · simp only [First, h, true_and, not_forall, not_not] at hfirst
      obtain ⟨j, hj, hactive, hbus⟩ := hfirst
      obtain ⟨k, hk, hkfirst, hkbus⟩ := ih j hj hactive
      exact ⟨k, Nat.le_trans hk (Nat.le_of_lt hj), hkfirst, hkbus.trans hbus⟩

theorem first_unique {i j : Nat} (hi : First lib i) (hj : First lib j) (hbus : lib.bus i = lib.bus j) : i = j := by
  rcases Nat.lt_trichotomy i j with h | h | h
  · exact absurd hbus (hj.2 i h hi.1)
  · exact h
  · exact absurd hbus.symm (hi.2 j h hj.1)

/-- The adapters before `n` that become devices. -/
def firsts (n : Nat) : List Nat := (List.range n).filter (First lib)

theorem mem_firsts (n i : Nat) : i ∈ firsts lib n ↔ i < n ∧ First lib i := by
  simp [firsts]

theorem firsts_succ (n : Nat) : firsts lib (n + 1) = firsts lib n ++ if First lib n then [n] else [] := by
  rw [firsts, List.range_succ, List.filter_append]
  by_cases h : First lib n
  · simp [firsts, h]
  · simp [firsts, h]

/-- A bus is seen exactly if an active adapter has had it. -/
theorem mem_bus_firsts (n : Nat) (bus : Int) :
    bus ∈ (firsts lib n).map lib.bus ↔ ∃ i < n, lib.Active i ∧ lib.bus i = bus := by
  simp only [List.mem_map, mem_firsts]
  constructor
  · intro hmem
    obtain ⟨i, ⟨hi, hfirst⟩, hbus⟩ := hmem
    exact ⟨i, hi, hfirst.1, hbus⟩
  · intro hmem
    obtain ⟨i, hi, hactive, hbus⟩ := hmem
    obtain ⟨j, hj, hfirst, hjbus⟩ := exists_first lib hactive
    exact ⟨j, ⟨Nat.lt_of_le_of_lt hj hi, hfirst⟩, hjbus.trans hbus⟩

/-- One adapter: it is appended if it is the first active one on its bus. -/
theorem adapterStep_eq (n : Nat) (devices : List AmdDevice) :
    adapterStep lib ⟨(firsts lib n).map lib.bus, devices⟩ n =
      ⟨(firsts lib (n + 1)).map lib.bus, devices ++ (if First lib n then [lib.device n] else [])⟩ := by
  have hfirst : First lib n ↔ lib.Active n ∧ lib.bus n ∉ (firsts lib n).map lib.bus := by
    rw [mem_bus_firsts, First]
    simp only [not_exists, not_and, ne_eq]
  rw [adapterStep, firsts_succ]
  by_cases hactive : lib.Active n
  · by_cases hseen : lib.bus n ∈ (firsts lib n).map lib.bus
    · have hnot : ¬ First lib n := fun h => (hfirst.mp h).2 hseen
      simp [hactive, hseen, hnot]
    · have his : First lib n := hfirst.mpr ⟨hactive, hseen⟩
      simp [hactive, hseen, his]
  · have hnot : ¬ First lib n := fun h => hactive h.1
    simp [hactive, hnot]

/-- The loop, after `n` adapters. -/
theorem loop_eq (n : Nat) (devices : List AmdDevice) :
    (List.range n).foldl (adapterStep lib) ⟨[], devices⟩ =
      ⟨(firsts lib n).map lib.bus, devices ++ (firsts lib n).map lib.device⟩ := by
  induction n with
  | zero => simp [firsts]
  | succ n ih =>
    rw [List.range_succ, List.foldl_concat, ih, adapterStep_eq, firsts_succ]
    by_cases h : First lib n
    · simp [h]
    · simp [h]

/-- How many adapters the loop goes over: none if a call before it fails. -/
def Library.adapterCnt : Nat :=
  if lib.adl2AdapterNumberofadaptersGet.result = sdk.adlOk ∧ lib.adl2AdapterAdapterinfoGet.result = sdk.adlOk then
    lib.adl2AdapterNumberofadaptersGet.value.toNat
  else 0

theorem enumerateADL_eq (devices : List AmdDevice) :
    enumerateADL lib devices = devices ++ (firsts lib lib.adapterCnt).map lib.device := by
  rw [enumerateADL, Library.adapterCnt]
  by_cases hnumber : lib.adl2AdapterNumberofadaptersGet.result = sdk.adlOk
  · by_cases hcnt : lib.adl2AdapterNumberofadaptersGet.value ≤ 0
    · simp [hcnt, Int.toNat_of_nonpos hcnt, firsts]
    · by_cases hinfo : lib.adl2AdapterAdapterinfoGet.result = sdk.adlOk
      · simp [hnumber, hcnt, hinfo, loop_eq]
      · simp [hnumber, hcnt, hinfo, firsts]
  · simp [hnumber, firsts]

/-- The enumeration appends one device for each bus that has an active adapter, and it is
    that of the first of them; the devices are in the order of their adapters. -/
theorem one_device_per_card (devices : List AmdDevice) :
    ∃ appended, enumerateADL lib devices = devices ++ appended ∧
      (∀ bus : Int, (∃ i < lib.adapterCnt, lib.Active i ∧ lib.bus i = bus) ↔
        ∃ device ∈ appended, lib.bus device.adlAdapterIdx = bus) ∧
      (appended.map fun device => lib.bus device.adlAdapterIdx).Nodup ∧
      (∀ device ∈ appended, ∃ i < lib.adapterCnt, device = lib.device i ∧ lib.Active i ∧
        ∀ j < i, lib.Active j → lib.bus j ≠ lib.bus i) ∧
      appended.Pairwise fun earlier later => earlier.adlAdapterIdx < later.adlAdapterIdx := by
  have hsorted : (firsts lib lib.adapterCnt).Pairwise (· < ·) := List.pairwise_lt_range.filter _
  refine ⟨(firsts lib lib.adapterCnt).map lib.device, enumerateADL_eq lib devices, fun bus => ?_, ?_, ?_, ?_⟩
  · rw [← mem_bus_firsts]
    simp only [List.mem_map, exists_exists_and_eq_and, Library.device]
  · rw [List.map_map, List.nodup_map_iff_inj_on (hsorted.imp Nat.ne_of_lt)]
    intro i hi j hj hbus
    exact first_unique lib ((mem_firsts lib _ i).mp hi).2 ((mem_firsts lib _ j).mp hj).2 hbus
  · intro device hdevice
    obtain ⟨i, hi, rfl⟩ := List.mem_map.mp hdevice
    obtain ⟨hlt, hfirst⟩ := (mem_firsts lib _ i).mp hi
    exact ⟨i, hlt, rfl, hfirst⟩
  · rw [List.pairwise_map]
    exact hsorted

/-! ## The devices of the machine -/

/-- The adapter, as `Machine` has it. -/
def Library.machineAdapter (i : Nat) : AdapterInfo := ⟨decide (lib.Active i), lib.bus i, (lib.adapterInfo i).strAdapterName⟩

theorem names_loop (is : List Nat) (s : Loop) :
    (is.foldl (adapterStep lib) s).devices.map (·.name) =
      s.devices.map (·.name) ++ SystemInfo.enumerateADL s.seenBusNumbers (is.map lib.machineAdapter) := by
  induction is generalizing s with
  | nil => simp [SystemInfo.enumerateADL]
  | cons i is ih =>
    rw [List.foldl_cons, ih, adapterStep, List.map_cons, SystemInfo.enumerateADL]
    by_cases hactive : lib.Active i
    · by_cases hseen : lib.bus i ∈ s.seenBusNumbers
      · simp [hactive, hseen, Library.machineAdapter]
      · simp [hactive, hseen, Library.machineAdapter, Library.device]
    · simp [hactive, Library.machineAdapter]

/-- The names of the devices are those of the machine's model. -/
theorem names_enumerateADL : (enumerateADL lib []).map (·.name) =
    SystemInfo.enumerateADL [] ((List.range lib.adapterCnt).map lib.machineAdapter) := by
  have hnames := names_loop lib (List.range lib.adapterCnt) ⟨[], []⟩
  rw [loop_eq] at hnames
  rw [enumerateADL_eq, hnames]
  rfl

end HardwareMonitor.SystemInfo.AmdPool
