/-
  HardwareMonitor.SystemInfo.StorageInventory — the storage devices of the machine: the
  rows of WMI's storage classes, as `HardwareQueries` keeps them, and how
  `HardwareManager::infoPhysicalDrive` joins them.

  The partitions of a disk are looked up under the numbers 0, 1, 2 and so on, up to how
  many there are, and its physical disk under the last digit of a `DeviceId`. So the join
  is complete exactly if each disk is the first with its `UniqueId`, its partitions have
  these numbers, and no `DeviceId` of another disk ends in its number (`joined_iff`).
-/

import Mathlib.Data.List.Find
import Mathlib.Data.List.Nodup
import Mathlib.Data.List.Perm.Basic
import HardwareMonitor.Lib.Decimal
import HardwareMonitor.Lib.FirstKept

namespace HardwareMonitor.SystemInfo.StorageInventory

open HardwareMonitor.Lib.Decimal HardwareMonitor.Lib.FirstKept

/-! ## Rows -/

/-- `Disk`: a row of `MSFT_Disk`. -/
structure Disk where
  unqId : String
  diskNum : Nat
  fname : String
  manufacturer : String
  numPartitions : Nat
  model : String
  sz : Nat
  deriving DecidableEq, Repr

/-- `Partition::partition_id` -/
structure PartitionId where
  diskNum : Nat
  partNum : Nat
  deriving DecidableEq, Repr

/-- `Partition`: a row of `MSFT_Partition`. -/
structure Partition where
  id : PartitionId
  drvLtr : UInt16
  sz : Nat
  deriving DecidableEq, Repr

/-- `Volume`: a row of `MSFT_Volume`. -/
structure Volume where
  drvLtr : UInt16
  sz : Nat
  szRmng : Nat
  hstatus : Nat
  deriving DecidableEq, Repr

/-- A row of `MSFT_PhysicalDisk`. -/
structure PhysicalDiskRow where
  deviceId : String
  unqIdFrmt : Nat
  spindleSpeed : Nat
  deriving DecidableEq, Repr

/-- `PhysDisk`: the row, with the number read from its `DeviceId`. -/
structure PhysDisk where
  diskNum : Nat
  row : PhysicalDiskRow
  deriving DecidableEq, Repr

structure Rows where
  disks : List Disk
  partitions : List Partition
  volumes : List Volume
  physicalDisks : List PhysicalDiskRow
  deriving DecidableEq, Repr

/-! ## The queries -/

/-- `find_last_of(L"0123456789")` -/
def findLastDigit (s : List Char) : Option Nat := (s.reverse.findIdx? Char.isDigit).map (s.length - 1 - ·)

/-- `std::stoi`, of a text that begins with a digit; it throws where there is none. -/
def stoi (s : List Char) : Option Nat :=
  match s.takeWhile Char.isDigit with
  | [] => none
  | digits => some (Nat.ofDigitChars 10 digits 0)

/-- `extractIndex`; `substr` throws if there is no digit. -/
def extractIndex (devId : String) : Option Nat := do
  let pos ← findLastDigit devId.toList
  stoi (devId.toList.drop pos)

/-- The maps of `HardwareManager`. -/
structure Maps where
  disks : List Disk
  partitions : List Partition
  volumes : List Volume
  physDisks : List PhysDisk

/-- `bstrEqual` compares what a `bstr_t` gives as `char*`. -/
def queryDisks (ansi : String → String) (rows : List Disk) : List Disk := insertAll (fun disk => ansi disk.unqId) rows []

def queryPartitions (rows : List Partition) : List Partition := insertAll (·.id) rows []

def queryVolumes (rows : List Volume) : List Volume := insertAll (·.drvLtr) rows []

def queryPhysicalDisks (rows : List PhysicalDiskRow) : Option (List PhysDisk) :=
  rows.foldlM (fun pdHmap row => do
    let diskNum ← extractIndex row.deviceId
    return insertNew (·.diskNum) pdHmap ⟨diskNum, row⟩) []

/-- `QueryWmiHardware`, of the storage. -/
def queryStorage (ansi : String → String) (rows : Rows) : Option Maps := do
  let physDisks ← queryPhysicalDisks rows.physicalDisks
  return ⟨queryDisks ansi rows.disks, queryPartitions rows.partitions, queryVolumes rows.volumes, physDisks⟩

/-! ## The join -/

structure StorageDevice where
  disk : Disk
  partitions : List Partition
  volumes : List Volume
  physicalDisk : Option PhysDisk
  deriving DecidableEq, Repr

/-- The body of the loop over the numbers of the partitions. -/
def joinPartition (maps : Maps) (device : StorageDevice) (i : Nat) : StorageDevice :=
  match lookup (·.id) maps.partitions ⟨device.disk.diskNum, i⟩ with
  | none => device
  | some partition =>
    let device := { device with partitions := device.partitions ++ [partition] }
    match lookup (·.drvLtr) maps.volumes partition.drvLtr with
    | some volume => if partition.drvLtr ≠ 0 then { device with volumes := device.volumes ++ [volume] } else device
    | none => device

def joinDisk (maps : Maps) (disk : Disk) : StorageDevice :=
  let device := (List.range disk.numPartitions).foldl (joinPartition maps) ⟨disk, [], [], none⟩
  { device with physicalDisk := lookup (·.diskNum) maps.physDisks disk.diskNum }

/-- `infoPhysicalDrive`; `visited` is `disks_` in the order of the iteration. -/
def infoPhysicalDrive (maps : Maps) (visited : List Disk) : List StorageDevice := visited.map (joinDisk maps)

/-! ## What the join should be -/

namespace Rows

variable (rows : Rows)

def partitionsOf (disk : Disk) : List Partition := rows.partitions.filter fun partition => partition.id.diskNum = disk.diskNum

/-- The record of the disk: its `DeviceId` is the disk number. -/
def physicalDiskOf (disk : Disk) : Option PhysicalDiskRow :=
  rows.physicalDisks.find? fun row => row.deviceId = Nat.repr disk.diskNum

/-- The device has the partitions of the disk, each once, and its record. -/
structure Complete (disk : Disk) (device : StorageDevice) : Prop where
  own : device.disk = disk
  all : device.partitions.Perm (rows.partitionsOf disk)
  record : device.physicalDisk.map (·.row) = rows.physicalDiskOf disk

/-- Every disk has its device, in whatever order the map is gone through. -/
def Joined (ansi : String → String) : Prop :=
  ∃ maps, queryStorage ansi rows = some maps ∧ ∀ visited, visited.Perm maps.disks →
    ∀ disk ∈ rows.disks, ∃ device ∈ infoPhysicalDrive maps visited, rows.Complete disk device

/-- What the code relies on for a disk. -/
structure Fits (ansi : String → String) (disk : Disk) : Prop where
  /-- The disk is the first with its `UniqueId`. -/
  first : rows.disks.find? (fun other => ansi other.unqId = ansi disk.unqId) = some disk
  /-- Its partitions are numbered from 0 on. -/
  numbered : ((rows.partitionsOf disk).map (·.id.partNum)).Perm (List.range disk.numPartitions)
  /-- The first `DeviceId` that ends in its number is its number. -/
  oneDigit : disk.diskNum < 10 → ∀ row,
    rows.physicalDisks.find? (fun row => row.deviceId.toList.getLast? = some (Nat.digitChar disk.diskNum)) = some row →
      row.deviceId = Nat.repr disk.diskNum
  /-- A number of two digits or more is no `DeviceId`. -/
  moreDigits : 10 ≤ disk.diskNum → ∀ row ∈ rows.physicalDisks, row.deviceId ≠ Nat.repr disk.diskNum

end Rows

/-! ## The number of a physical disk -/

/-- Of a decimal number the last digit is read. -/
theorem extractIndex_repr (n : Nat) : extractIndex (Nat.repr n) = some (n % 10) := by
  obtain ⟨hdigit, hvalue⟩ := digitChar_digit (n % 10) (Nat.mod_lt n (by decide))
  have hpos : ∀ init, findLastDigit (init ++ [Nat.digitChar (n % 10)]) = some init.length := by
    intro init
    rw [findLastDigit, List.reverse_append, List.reverse_singleton, List.singleton_append, List.findIdx?_cons, hdigit]
    simp
  rw [extractIndex, Nat.toList_repr, toDigits_eq, hpos]
  simp only [Option.bind_eq_bind, Option.bind_some, List.drop_left, stoi, List.takeWhile_cons, hdigit, if_true,
    List.takeWhile_nil, hvalue]

/-- The row with its number; where none can be read there is no map. -/
def readRow (row : PhysicalDiskRow) : PhysDisk := ⟨(extractIndex row.deviceId).getD 0, row⟩

theorem queryPhysicalDisks_eq {rows : List PhysicalDiskRow} (h : ∀ row ∈ rows, (extractIndex row.deviceId).isSome) :
    queryPhysicalDisks rows = some (insertAll (·.diskNum) (rows.map readRow) []) := by
  have hloop : ∀ (rows : List PhysicalDiskRow) (store : List PhysDisk),
      (∀ row ∈ rows, (extractIndex row.deviceId).isSome) →
      rows.foldlM (fun pdHmap row => do
        let diskNum ← extractIndex row.deviceId
        return insertNew (·.diskNum) pdHmap ⟨diskNum, row⟩) store =
        some (insertAll (·.diskNum) (rows.map readRow) store) := by
    intro rows
    induction rows with
    | nil => exact fun store _ => rfl
    | cons row rows ih =>
      intro store hsome
      obtain ⟨diskNum, hnum⟩ := Option.isSome_iff_exists.mp (hsome row List.mem_cons_self)
      have hread : readRow row = ⟨diskNum, row⟩ := by rw [readRow, hnum]; rfl
      rw [List.foldlM_cons, hnum, List.map_cons, hread]
      exact ih _ fun row' hrow' => hsome row' (List.mem_cons_of_mem row hrow')
  exact hloop rows [] h

theorem lookup_physDisks {rows : List PhysicalDiskRow} (h : ∀ row ∈ rows, (extractIndex row.deviceId).isSome) (k : Nat) :
    (lookup (·.diskNum) (insertAll (·.diskNum) (rows.map readRow) []) k).map (·.row) =
      rows.find? fun row => extractIndex row.deviceId = some k := by
  rw [lookup_insertAll_nil, lookup, List.find?_map, Option.map_map]
  have hself : (fun d : PhysDisk => d.row) ∘ readRow = id := rfl
  rw [hself, Option.map_id, id]
  refine List.find?_congr fun row hrow => ?_
  obtain ⟨diskNum, hnum⟩ := Option.isSome_iff_exists.mp (h row hrow)
  simp [readRow, hnum]

/-! ## The partitions of a device -/

theorem joinPartition_spec (maps : Maps) (device : StorageDevice) (i : Nat) :
    (joinPartition maps device i).disk = device.disk ∧
      (joinPartition maps device i).partitions =
        device.partitions ++ (lookup (·.id) maps.partitions ⟨device.disk.diskNum, i⟩).toList := by
  rw [joinPartition]
  cases lookup (·.id) maps.partitions ⟨device.disk.diskNum, i⟩ with
  | none => simp
  | some partition =>
    cases hvolume : lookup (·.drvLtr) maps.volumes partition.drvLtr with
    | none => simp [hvolume]
    | some volume =>
      simp only [hvolume]
      split <;> simp

/-- The loop finds the partitions with the numbers below its bound. -/
theorem joinDisk_spec (maps : Maps) (disk : Disk) :
    (joinDisk maps disk).disk = disk ∧
      (joinDisk maps disk).partitions =
        (List.range disk.numPartitions).filterMap (fun i => lookup (·.id) maps.partitions ⟨disk.diskNum, i⟩) := by
  have hloop : ∀ n, ((List.range n).foldl (joinPartition maps) ⟨disk, [], [], none⟩).disk = disk ∧
      ((List.range n).foldl (joinPartition maps) ⟨disk, [], [], none⟩).partitions =
        (List.range n).filterMap (fun i => lookup (·.id) maps.partitions ⟨disk.diskNum, i⟩) := by
    intro n
    induction n with
    | zero => exact ⟨rfl, rfl⟩
    | succ n ih =>
      obtain ⟨hdisk, hparts⟩ := ih
      obtain ⟨hstep, hfound⟩ := joinPartition_spec maps ((List.range n).foldl (joinPartition maps) ⟨disk, [], [], none⟩) n
      rw [List.range_succ, List.foldl_append, List.foldl_cons, List.foldl_nil, List.filterMap_append]
      refine ⟨hstep.trans hdisk, ?_⟩
      rw [hfound, hparts, hdisk, List.filterMap_cons, List.filterMap_nil]
      cases lookup (·.id) maps.partitions ⟨disk.diskNum, n⟩ <;> rfl
  exact hloop disk.numPartitions

/-- What is found under the numbers below `n`, by the key of a partition. -/
theorem found_partNum (store : List Partition) (diskNum n : Nat) :
    (((List.range n).filterMap fun i => lookup (·.id) store ⟨diskNum, i⟩).map (·.id.partNum)).Sublist (List.range n) := by
  have hnum : ((List.range n).filterMap fun i => lookup (·.id) store ⟨diskNum, i⟩).map (·.id.partNum) =
      (List.range n).filter fun i => (lookup (·.id) store ⟨diskNum, i⟩).isSome := by
    rw [List.map_filterMap, ← List.filterMap_eq_filter]
    refine List.filterMap_congr fun i _ => ?_
    cases hfound : lookup (·.id) store ⟨diskNum, i⟩ with
    | none => simp [Option.guard, hfound]
    | some partition =>
      have hkey := key_of_lookup Partition.id hfound
      simp [Option.guard, hfound, hkey]
  rw [hnum]
  exact List.filter_sublist

/-- With as many numbers as the disk has partitions, all are found exactly if these are
    the numbers they have. -/
theorem found_perm_iff {store : List Partition} {diskNum n : Nat}
    (hn : n = (store.filter fun partition => partition.id.diskNum = diskNum).length) :
    ((List.range n).filterMap fun i => lookup (·.id) store ⟨diskNum, i⟩).Perm
        (store.filter fun partition => partition.id.diskNum = diskNum) ↔
      ((store.filter fun partition => partition.id.diskNum = diskNum).map (·.id.partNum)).Perm (List.range n) := by
  generalize hown : (store.filter fun partition => partition.id.diskNum = diskNum) = own at hn ⊢
  have hmem : ∀ partition, partition ∈ own ↔ partition ∈ store ∧ partition.id.diskNum = diskNum := by
    intro partition
    rw [← hown, List.mem_filter, decide_eq_true_iff]
  constructor
  · intro hperm
    have hsub := found_partNum store diskNum n
    have heq := hsub.eq_of_length (by rw [List.length_map, hperm.length_eq, List.length_range, hn])
    rw [← heq]
    exact (hperm.map _).symm
  · intro hnumbered
    -- No two of them have one number, so each is the first with its key.
    have hnodup : (own.map (·.id.partNum)).Nodup := hnumbered.nodup_iff.mpr List.nodup_range
    have hself : own.filterMap (fun partition => lookup (·.id) store ⟨diskNum, partition.id.partNum⟩) = own := by
      conv_rhs => rw [← List.filterMap_some (l := own)]
      refine List.filterMap_congr fun partition hpartition => ?_
      obtain ⟨hstore, hnum⟩ := (hmem partition).mp hpartition
      have hid : partition.id = ⟨diskNum, partition.id.partNum⟩ := by rw [← hnum]
      cases hfound : lookup (·.id) store ⟨diskNum, partition.id.partNum⟩ with
      | none => exact absurd hid (by simpa using List.find?_eq_none.mp hfound partition hstore)
      | some other =>
        have hkey := key_of_lookup Partition.id hfound
        have hother : other ∈ own := (hmem other).mpr ⟨mem_of_lookup _ hfound, by rw [hkey]⟩
        rw [List.inj_on_of_nodup_map hnodup hother hpartition (by rw [hkey])]
    rw [← hself]
    have hfound := hnumbered.symm.filterMap fun i => lookup (·.id) store ⟨diskNum, i⟩
    rwa [List.filterMap_map] at hfound

/-! ## The record of a device -/

theorem repr_last (n : Nat) : (Nat.repr n).toList.getLast? = some (Nat.digitChar (n % 10)) := by
  rw [Nat.toList_repr, toDigits_eq, List.getLast?_append, List.getLast?_singleton]
  rfl

/-- A narrower search ends where the wider one does, if that has what it is for. -/
theorem find?_of_imp {α : Type} {p q : α → Bool} {l : List α} (himp : ∀ x ∈ l, q x = true → p x = true) :
    (∀ x, l.find? p = some x → q x = true) ↔ l.find? p = l.find? q := by
  induction l with
  | nil => simp
  | cons y l ih =>
    have ih := ih fun x hx => himp x (List.mem_cons_of_mem y hx)
    rw [List.find?_cons, List.find?_cons]
    cases hp : p y with
    | true =>
      cases hq : q y with
      | true => simp [hq]
      | false =>
        refine iff_of_false (fun h => ?_) fun h => ?_
        · exact absurd (h y rfl) (by simp [hq])
        · exact absurd (List.find?_some h.symm) (by simp [hq])
    | false =>
      have hq : q y = false := by
        rw [Bool.eq_false_iff]
        exact fun hq => absurd (himp y List.mem_cons_self hq) (by simp [hp])
      rw [hq]
      exact ih

/-- Which record is found under the number `k`. -/
theorem record_iff {rows : List PhysicalDiskRow} (h : ∀ row ∈ rows, ∃ n, row.deviceId = Nat.repr n) (k : Nat) :
    (rows.find? fun row => extractIndex row.deviceId = some k) = (rows.find? fun row => row.deviceId = Nat.repr k) ↔
      (k < 10 → ∀ row, rows.find? (fun row => row.deviceId.toList.getLast? = some (Nat.digitChar k)) = some row →
        row.deviceId = Nat.repr k) ∧
      (10 ≤ k → ∀ row ∈ rows, row.deviceId ≠ Nat.repr k) := by
  by_cases hk : k < 10
  · have hlast : (rows.find? fun row => extractIndex row.deviceId = some k) =
        rows.find? fun row => row.deviceId.toList.getLast? = some (Nat.digitChar k) := by
      refine List.find?_congr fun row hrow => ?_
      obtain ⟨n, hn⟩ := h row hrow
      have hmod : n % 10 < 10 := Nat.mod_lt n (by decide)
      simp only [hn, extractIndex_repr, repr_last, Option.some.injEq, decide_eq_decide]
      exact ⟨fun e => e ▸ rfl, digitChar_inj hmod hk⟩
    rw [hlast, ← find?_of_imp]
    · simp [hk]
    · intro row _ hrow
      rw [decide_eq_true_iff] at hrow ⊢
      rw [hrow, repr_last, Nat.mod_eq_of_lt hk]
  · have hnone : (rows.find? fun row => extractIndex row.deviceId = some k) = none := by
      rw [List.find?_eq_none]
      intro row hrow
      obtain ⟨n, hn⟩ := h row hrow
      have hmod : n % 10 < 10 := Nat.mod_lt n (by decide)
      simp only [hn, extractIndex_repr, Option.some.injEq, decide_eq_true_iff]
      omega
    rw [hnone, eq_comm, List.find?_eq_none]
    simp [hk, Nat.le_of_not_lt hk]

/-! ## The whole inventory -/

/-- The maps the queries fill. -/
def mapsOf (ansi : String → String) (rows : Rows) : Maps :=
  ⟨queryDisks ansi rows.disks, queryPartitions rows.partitions, queryVolumes rows.volumes,
    insertAll (·.diskNum) (rows.physicalDisks.map readRow) []⟩

variable {ansi : String → String} {rows : Rows}

theorem queryStorage_eq (hids : ∀ row ∈ rows.physicalDisks, ∃ n, row.deviceId = Nat.repr n) :
    queryStorage ansi rows = some (mapsOf ansi rows) := by
  have hsome : ∀ row ∈ rows.physicalDisks, (extractIndex row.deviceId).isSome := by
    intro row hrow
    obtain ⟨n, hn⟩ := hids row hrow
    rw [hn, extractIndex_repr]
    rfl
  rw [queryStorage, queryPhysicalDisks_eq hsome]
  rfl

theorem joined_iff_each (hids : ∀ row ∈ rows.physicalDisks, ∃ n, row.deviceId = Nat.repr n) :
    rows.Joined ansi ↔ ∀ disk ∈ rows.disks,
      disk ∈ (mapsOf ansi rows).disks ∧ rows.Complete disk (joinDisk (mapsOf ansi rows) disk) := by
  have hdevice : ∀ visited disk, (∃ device ∈ infoPhysicalDrive (mapsOf ansi rows) visited, rows.Complete disk device) ↔
      disk ∈ visited ∧ rows.Complete disk (joinDisk (mapsOf ansi rows) disk) := by
    intro visited disk
    constructor
    · intro hfound
      obtain ⟨device, hdevice, hcomplete⟩ := hfound
      obtain ⟨other, hother, rfl⟩ := List.mem_map.mp hdevice
      obtain rfl : other = disk := (joinDisk_spec _ other).1.symm.trans hcomplete.own
      exact ⟨hother, hcomplete⟩
    · intro hfound
      exact ⟨_, List.mem_map_of_mem hfound.1, hfound.2⟩
  constructor
  · intro hjoined disk hdisk
    obtain ⟨maps, hmaps, hall⟩ := hjoined
    obtain rfl := Option.some.inj ((queryStorage_eq hids).symm.trans hmaps)
    exact (hdevice _ disk).mp (hall _ (List.Perm.refl _) disk hdisk)
  · intro heach
    refine ⟨mapsOf ansi rows, queryStorage_eq hids, fun visited hvisited disk hdisk => (hdevice visited disk).mpr ?_⟩
    obtain ⟨hmem, hcomplete⟩ := heach disk hdisk
    exact ⟨hvisited.mem_iff.mpr hmem, hcomplete⟩

theorem joinDisk_partitions (ansi : String → String) (rows : Rows) (disk : Disk) :
    (joinDisk (mapsOf ansi rows) disk).partitions =
      (List.range disk.numPartitions).filterMap fun i => lookup (·.id) rows.partitions ⟨disk.diskNum, i⟩ := by
  rw [(joinDisk_spec _ disk).2]
  refine List.filterMap_congr fun i _ => ?_
  exact lookup_insertAll_nil (·.id) rows.partitions _

theorem joinDisk_record (ansi : String → String) (hids : ∀ row ∈ rows.physicalDisks, ∃ n, row.deviceId = Nat.repr n)
    (disk : Disk) :
    (joinDisk (mapsOf ansi rows) disk).physicalDisk.map (·.row) =
      rows.physicalDisks.find? fun row => extractIndex row.deviceId = some disk.diskNum := by
  refine lookup_physDisks (fun row hrow => ?_) disk.diskNum
  obtain ⟨n, hn⟩ := hids row hrow
  rw [hn, extractIndex_repr]
  rfl

/-- One disk: its device is complete exactly if the disk fits. -/
theorem complete_iff {disk : Disk} (hcount : disk.numPartitions = (rows.partitionsOf disk).length)
    (hids : ∀ row ∈ rows.physicalDisks, ∃ n, row.deviceId = Nat.repr n) :
    (disk ∈ (mapsOf ansi rows).disks ∧ rows.Complete disk (joinDisk (mapsOf ansi rows) disk)) ↔ rows.Fits ansi disk := by
  have hfirst : disk ∈ (mapsOf ansi rows).disks ↔
      rows.disks.find? (fun other => ansi other.unqId = ansi disk.unqId) = some disk :=
    mem_insertAll_nil (fun disk : Disk => ansi disk.unqId) rows.disks disk
  have hparts : (joinDisk (mapsOf ansi rows) disk).partitions.Perm (rows.partitionsOf disk) ↔
      ((rows.partitionsOf disk).map (·.id.partNum)).Perm (List.range disk.numPartitions) := by
    rw [joinDisk_partitions]
    exact found_perm_iff hcount
  have hrecord := record_iff hids disk.diskNum
  rw [← joinDisk_record ansi hids] at hrecord
  constructor
  · intro h
    obtain ⟨hmem, hcomplete⟩ := h
    obtain ⟨hone, hmore⟩ := hrecord.mp hcomplete.record
    exact ⟨hfirst.mp hmem, hparts.mp hcomplete.all, hone, hmore⟩
  · intro h
    exact ⟨hfirst.mpr h.first, (joinDisk_spec _ disk).1, hparts.mpr h.numbered, hrecord.mpr ⟨h.oneDigit, h.moreDigits⟩⟩

/-- The join gives every disk its partitions and its record exactly if every disk fits. -/
theorem joined_iff (ansi : String → String) (rows : Rows)
    (hcount : ∀ disk ∈ rows.disks, disk.numPartitions = (rows.partitionsOf disk).length)
    (hids : ∀ row ∈ rows.physicalDisks, ∃ n, row.deviceId = Nat.repr n) :
    rows.Joined ansi ↔ ∀ disk ∈ rows.disks, rows.Fits ansi disk := by
  rw [joined_iff_each hids]
  exact forall₂_congr fun disk hdisk => complete_iff (hcount disk hdisk) hids

/-- One disk with two partitions, numbered like this. -/
def oneDisk (diskNum i j : Nat) : Rows where
  disks := [⟨"disk", diskNum, "", "", 2, "", 0⟩]
  partitions := [⟨⟨diskNum, i⟩, 0, 1⟩, ⟨⟨diskNum, j⟩, 67, 2⟩]
  volumes := [⟨67, 2, 1, 0⟩]
  physicalDisks := [⟨Nat.repr diskNum, 0, 0⟩]

/-- Numbered from 0 on, both are found. -/
theorem joined_from_zero : (oneDisk 3 0 1).Joined id := by
  have hids : ∀ row ∈ (oneDisk 3 0 1).physicalDisks, ∃ n, row.deviceId = Nat.repr n := by
    intro row hrow
    exact ⟨3, by rw [List.mem_singleton.mp hrow]⟩
  refine (joined_iff id (oneDisk 3 0 1) (by decide) hids).mpr fun disk hdisk => ?_
  obtain rfl := List.mem_singleton.mp hdisk
  refine ⟨by decide, by decide, fun _ row hrow => ?_, fun hmore => absurd hmore (by decide)⟩
  rw [List.mem_singleton.mp (List.mem_of_find?_eq_some hrow)]

/-- Numbered from 1 on, as Windows numbers them, the second one is not found; and a disk
    with a number of two digits does not get its record. -/
theorem second_partition_not_found :
    ((joinDisk (mapsOf id (oneDisk 0 1 2)) ⟨"disk", 0, "", "", 2, "", 0⟩).partitions = [⟨⟨0, 1⟩, 0, 1⟩]) ∧
      ((joinDisk (mapsOf id (oneDisk 12 0 1)) ⟨"disk", 12, "", "", 2, "", 0⟩).physicalDisk = none) ∧
      ¬ ∀ (ansi : String → String) (rows : Rows),
        (∀ disk ∈ rows.disks, disk.numPartitions = (rows.partitionsOf disk).length) →
        (∀ row ∈ rows.physicalDisks, ∃ n, row.deviceId = Nat.repr n) → rows.Joined ansi := by
  refine ⟨by decide, by decide, fun h => ?_⟩
  have hids : ∀ row ∈ (oneDisk 0 1 2).physicalDisks, ∃ n, row.deviceId = Nat.repr n := by
    intro row hrow
    exact ⟨0, by rw [List.mem_singleton.mp hrow]⟩
  obtain ⟨-, hcomplete⟩ := (joined_iff_each hids).mp (h id (oneDisk 0 1 2) (by decide) hids) _ List.mem_cons_self
  exact absurd hcomplete.all.length_eq (by decide)

end HardwareMonitor.SystemInfo.StorageInventory
