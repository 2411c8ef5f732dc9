/-
  HardwareMonitor.SystemInfo.SensorRoundtrip — `buildTelemetryStore` over memory, and
  what `decodeSensorDtos` makes of the array it builds (`OPC_UA/utils.cpp`, `utils.h`).

  The array is built of decoded extension objects. On its way it may stay what it is, be
  encoded, or be decoded again into objects or into one array of structs; whichever it
  is, the reader finds the same sensors, and they are those of the snapshot
  (`telemetry_roundtrip`).
-/

import HardwareMonitor.ControlCenter.SensorMemory
import HardwareMonitor.Drivers.SharedInfo
import HardwareMonitor.SystemInfo.Publishing

namespace HardwareMonitor.SystemInfo

open HardwareMonitor.OpcUa
open HardwareMonitor.ControlCenter
open HardwareMonitor.Lib.Layout

/-! ## Building -/

/-- `TelemetryStore`; `devSensors` is the array of `dev_sensors_size` elements. -/
structure RawTelemetryStore where
  name : UaString
  vendor : UaString
  hardwareType : UaString
  devSensors : List RawExtensionObject

/-- A `SensorDto` with these members. -/
def storeSensorDto (layout : SensorDtoLayout) (name : UaString) (value : UInt32) (unit sensorType : UaString) : Memory :=
  fun off =>
    if off = layout.name then some (.uaString name)
    else if off = layout.value then some (.uaFloat value)
    else if off = layout.unit then some (.uaString unit)
    else if off = layout.sensorType then some (.uaString sensorType)
    else none

variable (lib : UaLibrary) (layout : SensorDtoLayout)

/-- The loop of `buildTelemetryStore`; `news` counts the calls of `UA_new`. A copy to NULL
    is undefined. -/
def buildSensors (news : Nat) : List SensorSnapshot → Option (List RawExtensionObject)
  | [] => some []
  | sensor :: rest =>
    -- `sensor_type` stays as constructed: no bytes, and no pointer
    let dto := storeSensorDto layout (lib.uaString sensor.name) sensor.value (lib.uaString sensor.unit) ⟨0, none⟩
    match lib.new news with
    | none => none
    | some decoded => do return .decoded (some (lib.copy dto decoded)) :: (← buildSensors (news + 1) rest)

def buildRawTelemetryStore (snapshot : TelemetrySnapshot) : Option RawTelemetryStore := do
  -- the elements of an array that was not allocated are not there to be assigned
  if lib.arrayNew snapshot.sensors.length = false ∧ snapshot.sensors ≠ [] then none
  let devSensors ← buildSensors lib layout 0 snapshot.sensors
  return {
    name := lib.uaString snapshot.name
    vendor := lib.uaString snapshot.vendor
    hardwareType := lib.uaString snapshot.hardwareType
    devSensors := devSensors }

/-! ## The library -/

/-- What the code relies on: strings hold their text, there is memory, and a copy holds
    what the original holds. -/
structure Documented : Prop where
  uaString : ∀ s, (lib.uaString s).IsText s
  arrayNew : ∀ n, lib.arrayNew n = true
  new : ∀ n, (lib.new n).isSome
  copy : ∀ raw memory dto, HoldsDto layout raw dto → HoldsDto layout (lib.copy raw memory) dto

/-- `UA_decodeBinary` undoes `UA_encodeBinary`. -/
def Inverts (dto : SensorDto) : Prop :=
  ∀ raw, HoldsDto layout raw dto → Decodes lib layout (lib.encodeBinary raw) (some dto)

/-- What may become of an extension object on its way: nothing, or it is not the reader's
    to delete, or it is encoded, or it is encoded and decoded again. -/
inductive Forwarded : RawExtensionObject → RawExtensionObject → Prop where
  | same (ext : RawExtensionObject) : Forwarded ext ext
  | noDelete (raw : Memory) : Forwarded (.decoded (some raw)) (.decodedNoDelete (some raw))
  | encoded (raw : Memory) : Forwarded (.decoded (some raw)) (.encodedByteString (lib.encodeBinary raw))
  | recoded (raw memory : Memory) :
      Forwarded (.decoded (some raw)) (.decoded (some (lib.decodeBinary (lib.encodeBinary raw) memory).2))

/-- How an array of extension objects may arrive: as such, or, where all of them have been
    decoded, as one array of their structs. -/
inductive Arrives (devSensors : List RawExtensionObject) : RawVariant → Prop where
  | extensionObjects {array : List RawExtensionObject} (h : List.Forall₂ (Forwarded lib) devSensors array) :
      Arrives devSensors (.extensionObjects array)
  | sensorDtos {blocks : List Memory}
      (h : List.Forall₂ (Forwarded lib) devSensors (blocks.map fun raw => .decoded (some raw))) :
      Arrives devSensors (.sensorDtos (packed layout.size blocks) blocks.length)

/-- The `SensorDto` of a sensor. -/
def sensorDto (sensor : SensorSnapshot) : SensorDto := ⟨sensor.name, sensor.value, sensor.unit, ""⟩

variable {lib layout}

theorem holds_stored {name unit sensorType : UaString} {dto : SensorDto} (hname : name.IsText dto.name)
    (hunit : unit.IsText dto.unit) (hsensorType : sensorType.IsText dto.sensorType) :
    HoldsDto layout (storeSensorDto layout name dto.value unit sensorType) dto := by
  have hsensorType' := layout.sensorType_after
  have hunit' := layout.unit_after
  have hvalue' := layout.value_after
  unfold sizeofUaString sizeofUaFloat sizeofUaByteString at *
  refine ⟨⟨name, ?_, hname⟩, ?_, ⟨unit, ?_, hunit⟩, ⟨sensorType, ?_, hsensorType⟩⟩
  · rw [storeSensorDto, if_pos rfl]
  · rw [storeSensorDto, if_neg (by omega), if_pos rfl]
  · rw [storeSensorDto, if_neg (by omega), if_neg (by omega), if_pos rfl]
  · rw [storeSensorDto, if_neg (by omega), if_neg (by omega), if_neg (by omega), if_pos rfl]

/-- A decoded object whose memory holds a sensor. -/
def HoldsSensor (layout : SensorDtoLayout) (sensor : SensorSnapshot) (ext : RawExtensionObject) : Prop :=
  ∃ raw, ext = .decoded (some raw) ∧ HoldsDto layout raw (sensorDto sensor)

theorem buildSensors_holds (hlib : Documented lib layout) (news : Nat) (sensors : List SensorSnapshot) :
    ∃ exts, buildSensors lib layout news sensors = some exts ∧ List.Forall₂ (HoldsSensor layout) sensors exts := by
  induction sensors generalizing news with
  | nil => exact ⟨[], rfl, .nil⟩
  | cons sensor rest ih =>
    obtain ⟨memory, hmemory⟩ := Option.isSome_iff_exists.mp (hlib.new news)
    obtain ⟨exts, hexts, hrest⟩ := ih (news + 1)
    have hname : (lib.uaString sensor.name).IsText (sensorDto sensor).name := hlib.uaString sensor.name
    have hunit : (lib.uaString sensor.unit).IsText (sensorDto sensor).unit := hlib.uaString sensor.unit
    have htype : UaString.IsText ⟨0, none⟩ (sensorDto sensor).sensorType := ⟨rfl, fun h => absurd rfl h⟩
    refine ⟨_, ?_, .cons ⟨_, rfl, hlib.copy _ memory _ (holds_stored hname hunit htype)⟩ hrest⟩
    simp only [buildSensors, hmemory, hexts]
    rfl

theorem buildRawTelemetryStore_holds (hlib : Documented lib layout) (snapshot : TelemetrySnapshot) :
    ∃ store, buildRawTelemetryStore lib layout snapshot = some store ∧
      List.Forall₂ (HoldsSensor layout) snapshot.sensors store.devSensors := by
  obtain ⟨exts, hexts, hholds⟩ := buildSensors_holds hlib 0 snapshot.sensors
  refine ⟨⟨lib.uaString snapshot.name, lib.uaString snapshot.vendor, lib.uaString snapshot.hardwareType, exts⟩, ?_, hholds⟩
  simp [buildRawTelemetryStore, hlib.arrayNew, hexts]

/-- The array in memory is the array of values. -/
theorem buildTelemetryStore_refines (hlib : Documented lib layout) (snapshot : TelemetrySnapshot)
    (decodeBinary : ByteString → Option SensorDto) :
    ∃ store, buildRawTelemetryStore lib layout snapshot = some store ∧
      List.Forall₂ (ObjectRefines lib layout decodeBinary) store.devSensors (buildTelemetryStore snapshot).devSensors := by
  obtain ⟨store, hstore, hholds⟩ := buildRawTelemetryStore_holds hlib snapshot
  refine ⟨store, hstore, ?_⟩
  rw [buildTelemetryStore, List.forall₂_map_right_iff]
  refine hholds.flip.imp fun ext sensor h => ?_
  obtain ⟨raw, rfl, hraw⟩ := h
  exact .decoded hraw

/-! ## Arriving -/

theorem text_unique {raw : Memory} {off : Nat} {s t : String} (hs : ∃ u, raw off = some (.uaString u) ∧ u.IsText s)
    (ht : ∃ u, raw off = some (.uaString u) ∧ u.IsText t) : s = t :=
  Option.some.inj ((readUaString_text hs).symm.trans (readUaString_text ht))

/-- Memory holds one `SensorDto` at most. -/
theorem holds_unique {raw : Memory} {dto dto' : SensorDto} (h : HoldsDto layout raw dto) (h' : HoldsDto layout raw dto') :
    dto = dto' := by
  obtain ⟨name, value, unit, sensorType⟩ := dto
  have hvalue := Option.some.inj (h.value.symm.trans h'.value)
  obtain rfl := text_unique h.name h'.name
  obtain rfl := Cell.uaFloat.inj hvalue
  obtain rfl := text_unique h.unit h'.unit
  obtain rfl := text_unique h.sensorType h'.sensorType
  rfl

open Classical in
/-- The `SensorDto` a body is the encoding of. -/
noncomputable def denotes (lib : UaLibrary) (layout : SensorDtoLayout) (body : ByteString) : Option SensorDto :=
  if h : ∃ dto, Decodes lib layout body (some dto) then some h.choose else none

theorem denotes_of_decodes {body : ByteString} {dto : SensorDto} (h : Decodes lib layout body (some dto)) :
    denotes lib layout body = some dto := by
  have hexists : ∃ dto, Decodes lib layout body (some dto) := ⟨dto, h⟩
  obtain ⟨raw, hraw, hholds⟩ := h fun _ => none
  obtain ⟨raw', hraw', hholds'⟩ := hexists.choose_spec fun _ => none
  obtain rfl : raw = raw' := congrArg Prod.snd (hraw.symm.trans hraw')
  rw [denotes, dif_pos hexists, holds_unique hholds' hholds]

/-- An object is read as its sensor, whatever became of it on its way. -/
theorem forwarded_refines {raw : Memory} {dto : SensorDto} {ext : RawExtensionObject} (hbinary : Inverts lib layout dto)
    (hraw : HoldsDto layout raw dto) (h : Forwarded lib (.decoded (some raw)) ext) :
    ∃ value, ObjectRefines lib layout (denotes lib layout) ext value ∧
      decodeSensorDtos (denotes lib layout) (.extensionObjects [value]) = [extractSensor dto] := by
  cases h with
  | same => exact ⟨.decoded (some dto), .decoded hraw, rfl⟩
  | noDelete => exact ⟨.decodedNoDelete (some dto), .decodedNoDelete hraw, rfl⟩
  | encoded =>
    have hbody := denotes_of_decodes (hbinary raw hraw)
    refine ⟨.encodedByteString (lib.encodeBinary raw), .encoded ?_, ?_⟩
    · rw [hbody]
      exact hbinary raw hraw
    · simp [decodeSensorDtos, hbody]
  | recoded _ memory =>
    obtain ⟨raw', hdecoded, hraw'⟩ := hbinary raw hraw memory
    rw [hdecoded]
    exact ⟨.decoded (some dto), .decoded hraw', rfl⟩

theorem objects_refine {sensors : List SensorSnapshot} {exts array : List RawExtensionObject}
    (hbinary : ∀ sensor ∈ sensors, Inverts lib layout (sensorDto sensor))
    (hholds : List.Forall₂ (HoldsSensor layout) sensors exts) (h : List.Forall₂ (Forwarded lib) exts array) :
    ∃ values, List.Forall₂ (ObjectRefines lib layout (denotes lib layout)) array values ∧
      decodeSensorDtos (denotes lib layout) (.extensionObjects values) =
        sensors.map fun sensor => extractSensor (sensorDto sensor) := by
  induction hholds generalizing array with
  | nil =>
    cases h
    exact ⟨[], .nil, rfl⟩
  | @cons sensor _ _ _ hsensor _ ih =>
    obtain ⟨raw, rfl, hraw⟩ := hsensor
    cases h with
    | cons hext hrest =>
      obtain ⟨value, hvalue, hshown⟩ := forwarded_refines (hbinary sensor List.mem_cons_self) hraw hext
      obtain ⟨values, hvalues, hrestShown⟩ := ih (fun sensor h => hbinary sensor (List.mem_cons_of_mem _ h)) hrest
      refine ⟨value :: values, .cons hvalue hvalues, ?_⟩
      rw [List.map_cons, ← hrestShown, ← List.singleton_append (l := decodeSensorDtos _ _), ← hshown]
      simp only [decodeSensorDtos, ← List.filterMap_append, List.singleton_append]

theorem decoded_holds {raw block : Memory} {dto : SensorDto} (hbinary : Inverts lib layout dto)
    (hraw : HoldsDto layout raw dto) (h : Forwarded lib (.decoded (some raw)) (.decoded (some block))) : HoldsDto layout block dto := by
  cases h with
  | same => exact hraw
  | recoded _ memory =>
    obtain ⟨raw', hdecoded, hraw'⟩ := hbinary raw hraw memory
    rw [hdecoded]
    exact hraw'

/-- The structs of an array, where all objects have been decoded. -/
theorem structs_hold {sensors : List SensorSnapshot} {exts : List RawExtensionObject} {blocks : List Memory}
    (hbinary : ∀ sensor ∈ sensors, Inverts lib layout (sensorDto sensor))
    (hholds : List.Forall₂ (HoldsSensor layout) sensors exts)
    (h : List.Forall₂ (Forwarded lib) exts (blocks.map fun raw => .decoded (some raw))) :
    List.Forall₂ (fun sensor raw => HoldsDto layout raw (sensorDto sensor)) sensors blocks := by
  induction hholds generalizing blocks with
  | nil =>
    cases blocks with
    | nil => exact .nil
    | cons raw blocks => cases h
  | @cons sensor _ _ _ hsensor _ ih =>
    obtain ⟨raw, rfl, hraw⟩ := hsensor
    cases blocks with
    | nil => cases h
    | cons block blocks =>
      rw [List.map_cons, List.forall₂_cons] at h
      have hblock := decoded_holds (hbinary sensor List.mem_cons_self) hraw h.1
      exact .cons hblock (ih (fun sensor h => hbinary sensor (List.mem_cons_of_mem _ h)) h.2)

/-- Whichever way the array arrives, it is the value of the snapshot's sensors. -/
theorem arrives_refines {sensors : List SensorSnapshot} {exts : List RawExtensionObject} {value : RawVariant}
    (hbinary : ∀ sensor ∈ sensors, Inverts lib layout (sensorDto sensor))
    (hholds : List.Forall₂ (HoldsSensor layout) sensors exts) (h : Arrives lib layout exts value) :
    ∃ v, VariantRefines lib layout (denotes lib layout) value v ∧
      decodeSensorDtos (denotes lib layout) v = sensors.map fun sensor => extractSensor (sensorDto sensor) := by
  cases h with
  | extensionObjects harray =>
    obtain ⟨values, hvalues, hshown⟩ := objects_refine hbinary hholds harray
    exact ⟨.extensionObjects values, .extensionObjects hvalues, hshown⟩
  | @sensorDtos blocks hblocks =>
    have hstructs := structs_hold hbinary hholds hblocks
    have hlength : blocks.length = (sensors.map sensorDto).length := by
      rw [List.length_map, hstructs.length_eq]
    refine ⟨.sensorDtos (sensors.map sensorDto), ?_, ?_⟩
    · rw [hlength]
      refine .sensorDtos fun i dto hi => ?_
      rw [List.getElem?_map, Option.map_eq_some_iff] at hi
      obtain ⟨sensor, hsensor, rfl⟩ := hi
      obtain ⟨hlt, rfl⟩ := List.getElem?_eq_some_iff.mp hsensor
      have hlt' : i < blocks.length := hstructs.length_eq ▸ hlt
      exact holds_element (List.getElem?_eq_getElem hlt') (hstructs.get hlt hlt')
    · rw [decodeSensorDtos, List.map_map]
      rfl

/-- The array made of a snapshot is decoded, however it arrives, to one and the same list:
    the snapshot's sensors, each with its name, value and unit. -/
theorem telemetry_roundtrip (lib : UaLibrary) (dt : DataType) (layout : SensorDtoLayout) (snapshot : TelemetrySnapshot)
    (hdt : dt.Describes layout) (hlib : Documented lib layout)
    (hbinary : ∀ sensor ∈ snapshot.sensors, Inverts lib layout (sensorDto sensor)) :
    ∃ store, buildRawTelemetryStore lib layout snapshot = some store ∧
      ∃ sensors : List DecodedSensor,
        sensors.map (fun s => (s.name, s.value, s.unit)) = snapshot.sensors.map (fun s => (s.name, s.value, s.unit)) ∧
        ∀ value, Arrives lib layout store.devSensors value → decodeRawSensorDtos lib dt value = some sensors := by
  obtain ⟨store, hstore, hholds⟩ := buildRawTelemetryStore_holds hlib snapshot
  refine ⟨store, hstore, snapshot.sensors.map fun sensor => extractSensor (sensorDto sensor), ?_, fun value hvalue => ?_⟩
  · rw [List.map_map]
    rfl
  · obtain ⟨v, hv, hshown⟩ := arrives_refines hbinary hholds hvalue
    rw [decode_refines hdt hlib.new hv, hshown]

/-! ## A library -/

/-- The layout of `SensorDto` where pointers and `size_t` have 8 bytes. -/
def layout64 : SensorDtoLayout where
  name := 0
  value := 16
  unit := 24
  sensorType := 40
  size := 56
  value_after := by decide
  unit_after := by decide
  sensorType_after := by decide
  size_after := by decide

def dataType64 : DataType := ⟨56, fun i => if i = 2 then 4 else 0⟩

theorem dataType64_describes : dataType64.Describes layout64 := ⟨rfl, rfl⟩

def uint32Of (b0 b1 b2 b3 : UInt8) : UInt32 :=
  b0.toUInt32 ||| b1.toUInt32 <<< 8 ||| b2.toUInt32 <<< 16 ||| b3.toUInt32 <<< 24

/-- The binary encoding of a string: its length and its bytes, or -1 without a pointer. -/
def encodeString (s : UaString) : ByteString :=
  match s.data with
  | none => Drivers.memoryOf 0xFFFFFFFF
  | some data => Drivers.memoryOf s.length.toUInt32 ++ (data.take s.length).map fun c => c.toNat.toUInt8

def decodeString : ByteString → Option (UaString × ByteString)
  | b0 :: b1 :: b2 :: b3 :: rest =>
    let length := uint32Of b0 b1 b2 b3
    if length = 0xFFFFFFFF then some (⟨0, none⟩, rest)
    else if length.toNat ≤ rest.length then
      some (⟨length.toNat, some ((rest.take length.toNat).map fun b => Char.ofNat b.toNat)⟩, rest.drop length.toNat)
    else none
  | _ => none

def decodeFloat : ByteString → Option (UInt32 × ByteString)
  | b0 :: b1 :: b2 :: b3 :: rest => some (uint32Of b0 b1 b2 b3, rest)
  | _ => none

/-- The members one after the other. -/
def encodeSensorDto (raw : Memory) : ByteString :=
  match raw layout64.name, raw layout64.value, raw layout64.unit, raw layout64.sensorType with
  | some (.uaString name), some (.uaFloat value), some (.uaString unit), some (.uaString sensorType) =>
    encodeString name ++ Drivers.memoryOf value ++ encodeString unit ++ encodeString sensorType
  | _, _, _, _ => []

def decodeSensorDto (body : ByteString) : Option Memory := do
  let (name, body) ← decodeString body
  let (value, body) ← decodeFloat body
  let (unit, body) ← decodeString body
  let (sensorType, _) ← decodeString body
  return storeSensorDto layout64 name value unit sensorType

def statusBadDecodingError : StatusCode := 0x80070000

/-- A library with room for everything. -/
def library64 : UaLibrary where
  uaString s := ⟨s.toList.length, some s.toList⟩
  arrayNew _ := true
  new _ := some fun _ => none
  copy raw _ := raw
  encodeBinary := encodeSensorDto
  decodeBinary body memory :=
    match decodeSensorDto body with
    | some raw => (statusGood, raw)
    | none => (statusBadDecodingError, memory)

theorem library64_documented : Documented library64 layout64 where
  uaString _ := ⟨rfl, fun _ => rfl⟩
  arrayNew _ := rfl
  new _ := rfl
  copy _ _ _ h := h

def packagePower : SensorSnapshot := ⟨"Package Power", 0x42280000, "W"⟩

/-- A text that takes one byte a character, and not too many. -/
def Latin1 (s : String) : Prop := s.toList.length < 0xFFFFFFFF ∧ ∀ c ∈ s.toList, c.toNat < 256

instance (s : String) : Decidable (Latin1 s) := @instDecidableAnd _ _ (Nat.decLt _ _) (List.decidableBAll _ _)

theorem uint32Of_memoryOf (r : UInt32) : uint32Of r.toUInt8 (r >>> 8).toUInt8 (r >>> 16).toUInt8 (r >>> 24).toUInt8 = r := by
  apply UInt32.toBitVec_inj.mp
  ext i hi
  simp only [uint32Of, UInt32.toBitVec_or, UInt32.toBitVec_shiftLeft, UInt8.toBitVec_toUInt32, UInt32.toBitVec_toUInt8,
    UInt32.toBitVec_shiftRight]
  simp [BitVec.getLsbD_setWidth]
  rw [← BitVec.getLsbD_eq_getElem]
  grind

theorem decodeFloat_memoryOf (r : UInt32) (rest : ByteString) : decodeFloat (Drivers.memoryOf r ++ rest) = some (r, rest) := by
  show some (uint32Of _ _ _ _, rest) = _
  rw [uint32Of_memoryOf]

/-- An empty text is encoded with or without its pointer. -/
theorem decodeString_encodeString {u : UaString} {s : String} (h : u.IsText s) (hs : Latin1 s) (rest : ByteString) :
    ∃ v : UaString, v.IsText s ∧ decodeString (encodeString u ++ rest) = some (v, rest) := by
  obtain ⟨length, data⟩ := u
  obtain ⟨hlength, hdata⟩ := h
  dsimp only at hlength hdata
  subst hlength
  cases data with
  | none =>
    have hempty : s = "" := by
      by_contra hne
      cases hdata hne
    refine ⟨⟨0, none⟩, ⟨by rw [hempty]; rfl, fun hne => absurd hempty hne⟩, ?_⟩
    simp only [encodeString, Drivers.memoryOf, List.cons_append, List.nil_append, decodeString, uint32Of_memoryOf, if_true]
  | some data =>
    have hbytes : data.take s.toList.length = s.toList := by
      by_cases hempty : s = ""
      · rw [hempty]
        rfl
      · rw [Option.some.inj (hdata hempty), List.take_length]
    have hshort := hs.1
    have hnat : s.toList.length.toUInt32.toNat = s.toList.length := by
      show (UInt32.ofNat _).toNat = _
      rw [UInt32.toNat_ofNat', Nat.mod_eq_of_lt (by omega)]
    have hpointer : s.toList.length.toUInt32 ≠ 0xFFFFFFFF := by
      intro heq
      rw [← hnat, heq] at hshort
      exact absurd hshort (by decide)
    have hchars : (s.toList.map fun c => c.toNat.toUInt8).map (fun b => Char.ofNat b.toNat) = s.toList := by
      rw [List.map_map]
      refine (List.map_congr_left fun c hc => ?_).trans (List.map_id _)
      show Char.ofNat (UInt8.ofNat c.toNat).toNat = c
      rw [UInt8.toNat_ofNat', Nat.mod_eq_of_lt (hs.2 c hc), Char.ofNat_toNat]
    refine ⟨⟨s.toList.length, some s.toList⟩, ⟨rfl, fun _ => rfl⟩, ?_⟩
    simp only [encodeString, Drivers.memoryOf, List.cons_append, List.nil_append, decodeString, uint32Of_memoryOf, if_neg hpointer,
      hnat, hbytes]
    simp [hchars]

/-- The library reads back what it has written of such texts. -/
theorem library64_inverts {dto : SensorDto} (hname : Latin1 dto.name) (hunit : Latin1 dto.unit)
    (hsensorType : Latin1 dto.sensorType) : Inverts library64 layout64 dto := by
  intro raw h memory
  obtain ⟨name, hnameCell, hnameText⟩ := h.name
  obtain ⟨unit, hunitCell, hunitText⟩ := h.unit
  obtain ⟨sensorType, htypeCell, htypeText⟩ := h.sensorType
  have hbody : encodeSensorDto raw =
      encodeString name ++ (Drivers.memoryOf dto.value ++ (encodeString unit ++ (encodeString sensorType ++ []))) := by
    simp only [encodeSensorDto, hnameCell, h.value, hunitCell, htypeCell, List.append_assoc, List.append_nil]
  obtain ⟨name', hname', hnameRead⟩ := decodeString_encodeString hnameText hname
    (Drivers.memoryOf dto.value ++ (encodeString unit ++ (encodeString sensorType ++ [])))
  obtain ⟨unit', hunit', hunitRead⟩ := decodeString_encodeString hunitText hunit (encodeString sensorType ++ [])
  obtain ⟨sensorType', htype', htypeRead⟩ := decodeString_encodeString htypeText hsensorType []
  have hdecoded : decodeSensorDto (encodeSensorDto raw) = some (storeSensorDto layout64 name' dto.value unit' sensorType') := by
    simp only [hbody, decodeSensorDto, hnameRead, decodeFloat_memoryOf, hunitRead, htypeRead, Option.bind_eq_bind, Option.bind_some]
    rfl
  refine ⟨storeSensorDto layout64 name' dto.value unit' sensorType', ?_, holds_stored hname' hunit' htype'⟩
  show (match decodeSensorDto (encodeSensorDto raw) with
    | some raw => (statusGood, raw)
    | none => (statusBadDecodingError, memory)) = _
  rw [hdecoded]

/-- A load has no unit. -/
def coreLoad : SensorSnapshot := ⟨"Core 0 Load", 0x41200000, ""⟩

def cpuSensors : TelemetrySnapshot := ⟨"CPU", "INTEL", "CPU", [packagePower, coreLoad], 0⟩

/-- The power of a package and the load of a core, over that library. -/
theorem telemetry_roundtrip_power :
    ∃ store, buildRawTelemetryStore library64 layout64 cpuSensors = some store ∧
      ∃ sensors : List DecodedSensor,
        sensors.map (fun s => (s.name, s.value, s.unit)) = [("Package Power", 0x42280000, "W"), ("Core 0 Load", 0x41200000, "")] ∧
        ∀ value, Arrives library64 layout64 store.devSensors value →
          decodeRawSensorDtos library64 dataType64 value = some sensors :=
  telemetry_roundtrip library64 dataType64 layout64 cpuSensors dataType64_describes library64_documented fun sensor hsensor => by
    rcases List.mem_cons.mp hsensor with rfl | hsensor
    · exact library64_inverts (by decide +kernel) (by decide +kernel) (by decide +kernel)
    · rw [List.mem_singleton.mp hsensor]
      exact library64_inverts (by decide +kernel) (by decide +kernel) (by decide +kernel)

end HardwareMonitor.SystemInfo
