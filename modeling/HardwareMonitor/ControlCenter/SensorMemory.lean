/-
  HardwareMonitor.ControlCenter.SensorMemory — `decodeSensorDtos` over the memory it
  walks (`OPC_UA/utils.h`).

  The data type's description gives the gap before each member of `SensorDto`; the
  reader adds gaps and member sizes up and casts the address it comes to. Memory is typed
  here: a cell holds a `UA_String` or a `float` where one begins, and reading anything
  else there is undefined (`none`). With the gaps the compiler left, every read is
  defined, and the result is that of `decodeSensorDtos` on values (`decode_refines`).
-/

import Mathlib.Data.List.Forall2
import HardwareMonitor.ControlCenter.Discovery
import HardwareMonitor.Lib.Layout

namespace HardwareMonitor.ControlCenter

open HardwareMonitor.OpcUa
open HardwareMonitor.Lib.Layout

/-! ## Memory -/

/-- `UA_String` and `UA_ByteString`, with the bytes `data` points to; `none` is NULL. -/
structure UaString where
  length : Nat
  data : Option (List Char)
  deriving DecidableEq, Repr

inductive Cell where
  | uaString (s : UaString)
  | uaFloat (bits : UInt32)
  deriving DecidableEq, Repr

abbrev Memory := Block Cell

def sizeofUaString : Nat := 16
def sizeofUaFloat : Nat := 4
def sizeofUaByteString : Nat := 16

/-- Where the compiler puts the members of `SensorDto`: in order, one after the other. -/
structure SensorDtoLayout where
  name : Nat
  value : Nat
  unit : Nat
  sensorType : Nat
  size : Nat
  value_after : name + sizeofUaString ≤ value
  unit_after : value + sizeofUaFloat ≤ unit
  sensorType_after : unit + sizeofUaByteString ≤ sensorType
  size_after : sensorType + sizeofUaString ≤ size

def SensorDtoLayout.members (layout : SensorDtoLayout) : List Member :=
  [⟨layout.name, sizeofUaString⟩, ⟨layout.value, sizeofUaFloat⟩, ⟨layout.unit, sizeofUaByteString⟩,
    ⟨layout.sensorType, sizeofUaString⟩]

theorem SensorDtoLayout.inOrder (layout : SensorDtoLayout) : InOrder 0 layout.members :=
  ⟨Nat.zero_le _, layout.value_after, layout.unit_after, layout.sensorType_after, trivial⟩

/-- `UA_DataType`; `padding i` is `members[i].padding`. -/
structure DataType where
  memSize : Nat
  padding : Nat → Nat

/-- What `DataTypeBuilder` makes of the struct: its size, and the gap before each member. -/
structure DataType.Describes (dt : DataType) (layout : SensorDtoLayout) : Prop where
  memSize : dt.memSize = layout.size
  padding : [dt.padding 0, dt.padding 1, dt.padding 2, dt.padding 3] = gaps 0 layout.members

/-! ## Reading -/

/-- `read_ua_string`: the `std::string` of what is there. Fewer bytes than `length` says
    would be read past their end. -/
def UaString.toStdString (s : UaString) : Option String :=
  match s.data with
  | none => some ""
  | some data =>
    if s.length > 0 then
      if s.length ≤ data.length then some (String.ofList (data.take s.length)) else none
    else some ""

def readUaString (base : Memory) (off : Nat) : Option String :=
  match base off with
  | some (.uaString s) => s.toStdString
  | _ => none

/-- `*reinterpret_cast<const float*>(raw + off)` -/
def readFloat (base : Memory) (off : Nat) : Option UInt32 :=
  match base off with
  | some (.uaFloat bits) => some bits
  | _ => none

/-- `extractSensor` -/
def extractSensorAt (dt : DataType) (raw : Memory) : Option DecodedSensor := do
  let off := dt.padding 0
  let name ← readUaString raw off
  let off := off + (sizeofUaString + dt.padding 1)
  let value ← readFloat raw off
  let off := off + (sizeofUaFloat + dt.padding 2)
  let unit ← readUaString raw off
  let off := off + (sizeofUaByteString + dt.padding 3)
  let sensorType ← readUaString raw off
  return { name := name, value := value, unit := unit, sensorType := sensorType }

/-- `UA_ExtensionObject`: `decoded.data` is a pointer, `none` for NULL. -/
inductive RawExtensionObject where
  | decoded (data : Option Memory)
  | decodedNoDelete (data : Option Memory)
  | encodedByteString (body : ByteString)
  | otherwise

/-- `opcua::Variant`: without data, an array of the data type, or else read as an array of
    extension objects. -/
inductive RawVariant where
  | empty
  | sensorDtos (data : Memory) (arrayLength : Nat)
  | extensionObjects (array : List RawExtensionObject)

/-- The functions of the OPC UA library that work on a `SensorDto`'s memory. `uaString` is
    `opcua::String(…)` and `opcua::ByteString(…)`; `arrayNew` says whether `UA_Array_new`
    finds room; `new` is `UA_new`, call by call; `copy` and `decodeBinary` get the memory
    they write to as it was. -/
structure UaLibrary where
  uaString : String → UaString
  arrayNew : Nat → Bool
  new : Nat → Option Memory
  copy : Memory → Memory → Memory
  encodeBinary : Memory → ByteString
  decodeBinary : ByteString → Memory → StatusCode × Memory

variable (lib : UaLibrary) (dt : DataType)

/-- The loop over an array of the data type. -/
def decodeArray (data : Memory) (count : Nat) : Option (List DecodedSensor) :=
  (List.range count).mapM fun i => extractSensorAt dt (data.shift (i * dt.memSize))

/-- The loop over extension objects; `news` counts the calls of `UA_new`. -/
def decodeExtensionObjects (news : Nat) : List RawExtensionObject → Option (List DecodedSensor)
  | [] => some []
  | .decoded none :: rest => decodeExtensionObjects news rest
  | .decodedNoDelete none :: rest => decodeExtensionObjects news rest
  | .decoded (some raw) :: rest => do
    let sensor ← extractSensorAt dt raw
    return sensor :: (← decodeExtensionObjects news rest)
  | .decodedNoDelete (some raw) :: rest => do
    let sensor ← extractSensorAt dt raw
    return sensor :: (← decodeExtensionObjects news rest)
  | .encodedByteString body :: rest =>
    match lib.new news with
    | none => decodeExtensionObjects (news + 1) rest
    | some decoded =>
      let (ret, decoded) := lib.decodeBinary body decoded
      if ret = statusGood then do
        let sensor ← extractSensorAt dt decoded
        return sensor :: (← decodeExtensionObjects (news + 1) rest)
      else decodeExtensionObjects (news + 1) rest
  | .otherwise :: rest => decodeExtensionObjects news rest

/-- `decodeSensorDtos` -/
def decodeRawSensorDtos : RawVariant → Option (List DecodedSensor)
  | .empty => some []
  | .sensorDtos data arrayLength => decodeArray dt data arrayLength
  | .extensionObjects array => decodeExtensionObjects lib dt 0 array

/-! ## What memory holds -/

/-- The text of a `UA_String`; where it is empty, the pointer may be anything. -/
structure UaString.IsText (u : UaString) (s : String) : Prop where
  length : u.length = s.toList.length
  data : s ≠ "" → u.data = some s.toList

/-- The members of a `SensorDto`, each where the compiler puts it. -/
structure HoldsDto (layout : SensorDtoLayout) (raw : Memory) (dto : SensorDto) : Prop where
  name : ∃ u, raw layout.name = some (.uaString u) ∧ u.IsText dto.name
  value : raw layout.value = some (.uaFloat dto.value)
  unit : ∃ u, raw layout.unit = some (.uaString u) ∧ u.IsText dto.unit
  sensorType : ∃ u, raw layout.sensorType = some (.uaString u) ∧ u.IsText dto.sensorType

variable {lib : UaLibrary} {dt : DataType} {layout : SensorDtoLayout} {raw : Memory} {dto : SensorDto}

theorem toStdString_text {u : UaString} {s : String} (h : u.IsText s) : u.toStdString = some s := by
  by_cases hs : s = ""
  · subst hs
    have hlength : u.length = 0 := h.length
    simp only [UaString.toStdString, hlength]
    cases u.data <;> rfl
  · have hpos : 0 < s.toList.length := List.length_pos_iff.mpr fun h => hs (String.toList_eq_nil_iff.mp h)
    simp only [UaString.toStdString, h.data hs, h.length, gt_iff_lt, hpos, if_true, Nat.le_refl, List.take_length,
      String.ofList_toList]

theorem readUaString_text {off : Nat} {s : String} (h : ∃ u, raw off = some (.uaString u) ∧ u.IsText s) :
    readUaString raw off = some s := by
  obtain ⟨u, hcell, htext⟩ := h
  rw [readUaString, hcell]
  exact toStdString_text htext

/-- The addresses the reader comes to are those of the members. -/
theorem DataType.Describes.offsets (h : dt.Describes layout) :
    dt.padding 0 = layout.name ∧ dt.padding 0 + (sizeofUaString + dt.padding 1) = layout.value ∧
      dt.padding 0 + (sizeofUaString + dt.padding 1) + (sizeofUaFloat + dt.padding 2) = layout.unit ∧
      dt.padding 0 + (sizeofUaString + dt.padding 1) + (sizeofUaFloat + dt.padding 2) + (sizeofUaByteString + dt.padding 3) =
        layout.sensorType := by
  have hwalk := walk_gaps layout.inOrder
  rw [← h.padding] at hwalk
  simpa only [SensorDtoLayout.members, List.map_cons, List.map_nil, List.zip_cons_cons, List.zip_nil_right, walk,
    Nat.zero_add, Nat.add_assoc, List.cons.injEq, and_true] using hwalk

theorem extractSensorAt_holds (hdt : dt.Describes layout) (h : HoldsDto layout raw dto) :
    extractSensorAt dt raw = some (extractSensor dto) := by
  obtain ⟨hname, hvalue, hunit, hsensorType⟩ := hdt.offsets
  have hfloat : readFloat raw layout.value = some dto.value := by rw [readFloat, h.value]
  simp only [extractSensorAt]
  rw [hsensorType, hunit, hvalue, hname, readUaString_text h.name, hfloat, readUaString_text h.unit,
    readUaString_text h.sensorType]
  rfl

/-- An element of an array of structs. -/
theorem holds_element {blocks : List Memory} {i : Nat} (hi : blocks[i]? = some raw) (h : HoldsDto layout raw dto) :
    HoldsDto layout (Block.shift (packed layout.size blocks) (i * layout.size)) dto := by
  have hsize := layout.size_after
  have hsensorType := layout.sensorType_after
  have hunit := layout.unit_after
  have hvalue := layout.value_after
  unfold sizeofUaString sizeofUaFloat sizeofUaByteString at *
  have hcell : ∀ off < layout.size, Block.shift (packed layout.size blocks) (i * layout.size) off = raw off := by
    intro off hoff
    rw [Block.shift, packed_element hoff, hi]
    rfl
  exact ⟨by rw [hcell _ (by omega)]; exact h.name, by rw [hcell _ (by omega)]; exact h.value,
    by rw [hcell _ (by omega)]; exact h.unit, by rw [hcell _ (by omega)]; exact h.sensorType⟩

/-! ## Memory refines values -/

/-- What `UA_decodeBinary` does with a body: a `SensorDto` into any memory, or a failure. -/
def Decodes (lib : UaLibrary) (layout : SensorDtoLayout) (body : ByteString) : Option SensorDto → Prop
  | some dto => ∀ memory, ∃ raw, lib.decodeBinary body memory = (statusGood, raw) ∧ HoldsDto layout raw dto
  | none => ∀ memory, (lib.decodeBinary body memory).1 ≠ statusGood

variable (lib layout) (decodeBinary : ByteString → Option SensorDto)

inductive ObjectRefines : RawExtensionObject → ExtensionObject → Prop where
  | null : ObjectRefines (.decoded none) (.decoded none)
  | decoded {raw : Memory} {dto : SensorDto} (h : HoldsDto layout raw dto) :
      ObjectRefines (.decoded (some raw)) (.decoded (some dto))
  | nullNoDelete : ObjectRefines (.decodedNoDelete none) (.decodedNoDelete none)
  | decodedNoDelete {raw : Memory} {dto : SensorDto} (h : HoldsDto layout raw dto) :
      ObjectRefines (.decodedNoDelete (some raw)) (.decodedNoDelete (some dto))
  | encoded {body : ByteString} (h : Decodes lib layout body (decodeBinary body)) :
      ObjectRefines (.encodedByteString body) (.encodedByteString body)
  | otherwise : ObjectRefines .otherwise .otherwise

inductive VariantRefines : RawVariant → Variant → Prop where
  | empty : VariantRefines .empty .empty
  | string (s : String) : VariantRefines (.extensionObjects []) (.string s)
  | sensorDtos {data : Memory} {array : List SensorDto}
      (h : ∀ i dto, array[i]? = some dto → HoldsDto layout (data.shift (i * layout.size)) dto) :
      VariantRefines (.sensorDtos data array.length) (.sensorDtos array)
  | extensionObjects {raws array} (h : List.Forall₂ (ObjectRefines lib layout decodeBinary) raws array) :
      VariantRefines (.extensionObjects raws) (.extensionObjects array)

variable {lib layout decodeBinary}

theorem decodeArray_refines (hdt : dt.Describes layout) {data : Memory} {array : List SensorDto}
    (h : ∀ i dto, array[i]? = some dto → HoldsDto layout (data.shift (i * layout.size)) dto) :
    decodeArray dt data array.length = some (array.map extractSensor) := by
  refine mapM_range fun i dto hi => ?_
  rw [hdt.memSize]
  exact extractSensorAt_holds hdt (h i dto hi)

theorem decodeExtensionObjects_refines (hdt : dt.Describes layout) (hnew : ∀ n, (lib.new n).isSome)
    {raws : List RawExtensionObject} {array : List ExtensionObject}
    (h : List.Forall₂ (ObjectRefines lib layout decodeBinary) raws array) (news : Nat) :
    decodeExtensionObjects lib dt news raws = some (decodeSensorDtos decodeBinary (.extensionObjects array)) := by
  induction h generalizing news with
  | nil => rfl
  | cons hobject _ ih =>
    cases hobject with
    | null => exact ih news
    | decoded hraw =>
      simp only [decodeExtensionObjects, extractSensorAt_holds hdt hraw, ih news]
      rfl
    | nullNoDelete => exact ih news
    | decodedNoDelete hraw =>
      simp only [decodeExtensionObjects, extractSensorAt_holds hdt hraw, ih news]
      rfl
    | @encoded body hdecodes =>
      obtain ⟨memory, hmemory⟩ := Option.isSome_iff_exists.mp (hnew news)
      simp only [decodeExtensionObjects, hmemory]
      cases hbody : decodeBinary body with
      | none =>
        rw [hbody] at hdecodes
        rw [if_neg (hdecodes memory), ih]
        simp [decodeSensorDtos, hbody]
      | some dto =>
        rw [hbody] at hdecodes
        obtain ⟨raw, hraw, hholds⟩ := hdecodes memory
        simp only [hraw, if_true, extractSensorAt_holds hdt hholds, ih]
        simp [decodeSensorDtos, hbody]
    | otherwise => exact ih news

/-- With the gaps the compiler left and memory to decode into, every read is defined, and
    the sensors are those that the values have. -/
theorem decode_refines (hdt : dt.Describes layout) (hnew : ∀ n, (lib.new n).isSome) {raw : RawVariant} {value : Variant}
    (h : VariantRefines lib layout decodeBinary raw value) :
    decodeRawSensorDtos lib dt raw = some (decodeSensorDtos decodeBinary value) := by
  cases h with
  | empty => rfl
  | string s => rfl
  | sensorDtos h => exact decodeArray_refines hdt h
  | extensionObjects h => exact decodeExtensionObjects_refines hdt hnew h 0

end HardwareMonitor.ControlCenter
