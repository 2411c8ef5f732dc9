/-
  HardwareMonitor.ControlCenter.SensorTypes — `decodeSensorDtos` on values that say of
  what type they are (`OPC_UA/utils.h`).

  An array is asked for its type before it is read as structs of `SensorDto`. No element
  of an array of extension objects is: what is decoded is read as such a struct, and what
  is encoded is decoded as one, whatever its type id says. So the sensors are those of the
  declared elements exactly if nothing of another type can be read that way
  (`decode_type_safe_iff`).
-/

import HardwareMonitor.SystemInfo.SensorRoundtrip

namespace HardwareMonitor.ControlCenter

open HardwareMonitor.OpcUa
open HardwareMonitor.SystemInfo

/-! ## Typed values -/

/-- `UA_ExtensionObject` with the type it declares: that of the decoded data, or the id in
    front of the body. -/
inductive TypedObject where
  | decoded (type : NodeId) (data : Option Memory)
  | decodedNoDelete (type : NodeId) (data : Option Memory)
  | encodedByteString (typeId : NodeId) (body : ByteString)
  | otherwise (typeId : NodeId)

/-- `opcua::Variant`; `array` is one of any type but extension objects. -/
inductive TypedVariant where
  | empty
  | array (type : NodeId) (data : Memory) (arrayLength : Nat)
  | extensionObjects (objects : List TypedObject)

/-- The ids of `buildSensorDtoType`. -/
def sensorDtoType (ns : UInt16) : NodeId := ⟨ns, .string "SensorDto"⟩

def sensorDtoEncoding (ns : UInt16) : NodeId := ⟨ns, .string "SensorDto_Encoding_Default"⟩

/-- What the loop over extension objects looks at. -/
def TypedObject.raw : TypedObject → RawExtensionObject
  | .decoded _ data => .decoded data
  | .decodedNoDelete _ data => .decodedNoDelete data
  | .encodedByteString _ body => .encodedByteString body
  | .otherwise _ => .otherwise

/-- What `decodeSensorDtos` takes the value for: anything but an array of the data type is
    read as extension objects, and there are none in an array of another type. -/
def TypedVariant.raw (ns : UInt16) : TypedVariant → Option RawVariant
  | .empty => some .empty
  | .array type data arrayLength =>
    if type = sensorDtoType ns then some (.sensorDtos data arrayLength)
    else if arrayLength = 0 then some (.extensionObjects [])
    else none
  | .extensionObjects objects => some (.extensionObjects (objects.map TypedObject.raw))

/-- `decodeSensorDtos` -/
def decodeTypedSensorDtos (lib : UaLibrary) (dt : DataType) (ns : UInt16) (value : TypedVariant) : Option (List DecodedSensor) :=
  (value.raw ns).bind (decodeRawSensorDtos lib dt)

/-! ## Declared sensors -/

section

variable (lib : UaLibrary) (layout : SensorDtoLayout) (ns : UInt16)

/-- The sensor an object declares: its data, or what its body decodes to, when it says that
    it is a `SensorDto`. -/
inductive Declares : TypedObject → Option SensorDto → Prop where
  | decoded {raw : Memory} {dto : SensorDto} (h : HoldsDto layout raw dto) :
      Declares (.decoded (sensorDtoType ns) (some raw)) (some dto)
  | null (type : NodeId) : Declares (.decoded type none) none
  | other {type : NodeId} (h : type ≠ sensorDtoType ns) (raw : Memory) : Declares (.decoded type (some raw)) none
  | decodedNoDelete {raw : Memory} {dto : SensorDto} (h : HoldsDto layout raw dto) :
      Declares (.decodedNoDelete (sensorDtoType ns) (some raw)) (some dto)
  | nullNoDelete (type : NodeId) : Declares (.decodedNoDelete type none) none
  | otherNoDelete {type : NodeId} (h : type ≠ sensorDtoType ns) (raw : Memory) :
      Declares (.decodedNoDelete type (some raw)) none
  | encoded {body : ByteString} {dto : Option SensorDto} (h : Decodes lib layout body dto) :
      Declares (.encodedByteString (sensorDtoEncoding ns) body) dto
  | otherEncoded {typeId : NodeId} (h : typeId ≠ sensorDtoEncoding ns) (body : ByteString) :
      Declares (.encodedByteString typeId body) none
  | otherwise (typeId : NodeId) : Declares (.otherwise typeId) none

inductive VariantDeclares : TypedVariant → List SensorDto → Prop where
  | empty : VariantDeclares .empty []
  | sensorDtos {data : Memory} {array : List SensorDto}
      (h : ∀ i dto, array[i]? = some dto → HoldsDto layout (data.shift (i * layout.size)) dto) :
      VariantDeclares (.array (sensorDtoType ns) data array.length) array
  | other {type : NodeId} (h : type ≠ sensorDtoType ns) (data : Memory) (arrayLength : Nat) :
      VariantDeclares (.array type data arrayLength) []
  | extensionObjects {objects : List TypedObject} {dtos : List (Option SensorDto)}
      (h : List.Forall₂ (Declares lib layout ns) objects dtos) :
      VariantDeclares (.extensionObjects objects) (dtos.filterMap id)

/-- An object of another type that the loop reads as a `SensorDto`. -/
def TypedObject.Foreign : TypedObject → Prop
  | .decoded type data => type ≠ sensorDtoType ns ∧ data.isSome
  | .decodedNoDelete type data => type ≠ sensorDtoType ns ∧ data.isSome
  | .encodedByteString typeId body => typeId ≠ sensorDtoEncoding ns ∧ ∃ memory, (lib.decodeBinary body memory).1 = statusGood
  | .otherwise _ => False

/-- Nothing of another type can be read as a `SensorDto`. -/
def TypedVariant.Unmixed : TypedVariant → Prop
  | .empty => True
  | .array type _ arrayLength => type = sensorDtoType ns ∨ arrayLength = 0
  | .extensionObjects objects => ∀ object ∈ objects, ¬ object.Foreign lib ns

end

/-! ## One object of the array -/

section

variable {lib : UaLibrary} {dt : DataType} {layout : SensorDtoLayout} {ns : UInt16}

theorem decodes_good {body : ByteString} {dto : SensorDto} (h : Decodes lib layout body (some dto)) (memory : Memory) :
    (lib.decodeBinary body memory).1 = statusGood := by
  obtain ⟨raw, hraw, -⟩ := h memory
  rw [hraw]

/-- An encoded object is skipped or read, as its body decodes. -/
theorem decode_encoded (hdt : dt.Describes layout) (hnew : ∀ n, (lib.new n).isSome) {body : ByteString} {dto : Option SensorDto}
    (h : Decodes lib layout body dto) (news : Nat) (rest : List RawExtensionObject) :
    decodeExtensionObjects lib dt news (.encodedByteString body :: rest) =
      (decodeExtensionObjects lib dt (news + 1) rest).map ((dto.toList.map extractSensor) ++ ·) := by
  obtain ⟨memory, hmemory⟩ := Option.isSome_iff_exists.mp (hnew news)
  simp only [decodeExtensionObjects, hmemory]
  cases dto with
  | none =>
    rw [if_neg (h memory)]
    simp
  | some dto =>
    obtain ⟨raw, hraw, hholds⟩ := h memory
    simp only [hraw, if_true, extractSensorAt_holds hdt hholds]
    cases decodeExtensionObjects lib dt (news + 1) rest <;> rfl

/-- An object that is not foreign adds the sensor it declares. -/
theorem decode_own (hdt : dt.Describes layout) (hnew : ∀ n, (lib.new n).isSome)
    (hbinary : ∀ body, ∃ dto, Decodes lib layout body dto) {object : TypedObject} {dto : Option SensorDto}
    (h : Declares lib layout ns object dto) (hown : ¬ object.Foreign lib ns) (news : Nat) (rest : List RawExtensionObject) :
    ∃ news', decodeExtensionObjects lib dt news (object.raw :: rest) =
      (decodeExtensionObjects lib dt news' rest).map ((dto.toList.map extractSensor) ++ ·) := by
  have hskip : ∀ result : Option (List DecodedSensor),
      result = result.map (((none : Option SensorDto).toList.map extractSensor) ++ ·) := by
    intro result
    cases result <;> rfl
  cases h with
  | decoded hraw =>
    refine ⟨news, ?_⟩
    simp only [TypedObject.raw, decodeExtensionObjects, extractSensorAt_holds hdt hraw]
    cases decodeExtensionObjects lib dt news rest <;> rfl
  | null type => exact ⟨news, hskip _⟩
  | other htype raw => exact absurd ⟨htype, rfl⟩ hown
  | decodedNoDelete hraw =>
    refine ⟨news, ?_⟩
    simp only [TypedObject.raw, decodeExtensionObjects, extractSensorAt_holds hdt hraw]
    cases decodeExtensionObjects lib dt news rest <;> rfl
  | nullNoDelete type => exact ⟨news, hskip _⟩
  | otherNoDelete htype raw => exact absurd ⟨htype, rfl⟩ hown
  | encoded hbody => exact ⟨news + 1, decode_encoded hdt hnew hbody news rest⟩
  | otherEncoded htype body =>
    obtain ⟨dto, hbody⟩ := hbinary body
    cases dto with
    | none => exact ⟨news + 1, decode_encoded hdt hnew hbody news rest⟩
    | some dto => exact absurd ⟨htype, fun _ => none, decodes_good hbody _⟩ hown
  | otherwise typeId => exact ⟨news, hskip _⟩

/-- A foreign object declares nothing and adds a sensor, if its memory can be read at all. -/
theorem decode_foreign (hdt : dt.Describes layout) (hnew : ∀ n, (lib.new n).isSome)
    (hbinary : ∀ body, ∃ dto, Decodes lib layout body dto) {object : TypedObject} {dto : Option SensorDto}
    (h : Declares lib layout ns object dto) (hforeign : object.Foreign lib ns) {news : Nat} {rest : List RawExtensionObject}
    {sensors : List DecodedSensor} (hsensors : decodeExtensionObjects lib dt news (object.raw :: rest) = some sensors) :
    dto = none ∧ ∃ news' sensor others, decodeExtensionObjects lib dt news' rest = some others ∧ sensors = sensor :: others := by
  cases h with
  | decoded => exact absurd rfl hforeign.1
  | null => exact absurd hforeign.2 Bool.false_ne_true
  | other htype raw =>
    simp only [TypedObject.raw, decodeExtensionObjects, Option.bind_eq_bind, Option.bind_eq_some_iff] at hsensors
    obtain ⟨sensor, -, others, hothers, heq⟩ := hsensors
    exact ⟨rfl, news, sensor, others, hothers, (Option.some.inj heq).symm⟩
  | decodedNoDelete => exact absurd rfl hforeign.1
  | nullNoDelete => exact absurd hforeign.2 Bool.false_ne_true
  | otherNoDelete htype raw =>
    simp only [TypedObject.raw, decodeExtensionObjects, Option.bind_eq_bind, Option.bind_eq_some_iff] at hsensors
    obtain ⟨sensor, -, others, hothers, heq⟩ := hsensors
    exact ⟨rfl, news, sensor, others, hothers, (Option.some.inj heq).symm⟩
  | encoded => exact absurd rfl hforeign.1
  | otherEncoded htype body =>
    obtain ⟨-, memory, hgood⟩ := hforeign
    obtain ⟨dto, hbody⟩ := hbinary body
    cases dto with
    | none => exact absurd hgood (hbody memory)
    | some dto =>
      rw [TypedObject.raw, decode_encoded hdt hnew hbody, Option.map_eq_some_iff] at hsensors
      obtain ⟨others, hothers, heq⟩ := hsensors
      exact ⟨rfl, news + 1, extractSensor dto, others, hothers, heq.symm⟩
  | otherwise => exact hforeign.elim

/-! ## Arrays -/

theorem decode_objects (hdt : dt.Describes layout) (hnew : ∀ n, (lib.new n).isSome)
    (hbinary : ∀ body, ∃ dto, Decodes lib layout body dto) {objects : List TypedObject} {dtos : List (Option SensorDto)}
    (h : List.Forall₂ (Declares lib layout ns) objects dtos) (hown : ∀ object ∈ objects, ¬ object.Foreign lib ns) (news : Nat) :
    decodeExtensionObjects lib dt news (objects.map TypedObject.raw) = some ((dtos.filterMap id).map extractSensor) := by
  induction h generalizing news with
  | nil => rfl
  | @cons object dto objects dtos hobject _ ih =>
    obtain ⟨hfirst, hrest⟩ := List.forall_mem_cons.mp hown
    obtain ⟨news', hstep⟩ := decode_own hdt hnew hbinary hobject hfirst news (objects.map TypedObject.raw)
    rw [List.map_cons, hstep, ih hrest news']
    cases dto <;> rfl

/-- The loop never finds fewer sensors than are declared, and with a foreign object it
    finds more. -/
theorem decode_count (hdt : dt.Describes layout) (hnew : ∀ n, (lib.new n).isSome)
    (hbinary : ∀ body, ∃ dto, Decodes lib layout body dto) {objects : List TypedObject} {dtos : List (Option SensorDto)}
    (h : List.Forall₂ (Declares lib layout ns) objects dtos) {news : Nat} {sensors : List DecodedSensor}
    (hsensors : decodeExtensionObjects lib dt news (objects.map TypedObject.raw) = some sensors) :
    (dtos.filterMap id).length ≤ sensors.length ∧
      ((∃ object ∈ objects, object.Foreign lib ns) → (dtos.filterMap id).length < sensors.length) := by
  induction h generalizing news sensors with
  | nil => exact ⟨Nat.zero_le _, fun ⟨_, hmem, _⟩ => absurd hmem List.not_mem_nil⟩
  | @cons object dto objects dtos hobject _ ih =>
    rw [List.map_cons] at hsensors
    by_cases hforeign : object.Foreign lib ns
    · obtain ⟨rfl, news', sensor, others, hothers, rfl⟩ := decode_foreign hdt hnew hbinary hobject hforeign hsensors
      have hcount := (ih hothers).1
      rw [List.filterMap_cons_none rfl, List.length_cons]
      exact ⟨by omega, fun _ => by omega⟩
    · obtain ⟨news', hstep⟩ := decode_own hdt hnew hbinary hobject hforeign news (objects.map TypedObject.raw)
      rw [hstep, Option.map_eq_some_iff] at hsensors
      obtain ⟨others, hothers, rfl⟩ := hsensors
      obtain ⟨hle, hlt⟩ := ih hothers
      have hlength : (List.filterMap id (dto :: dtos)).length = (dto.toList.map extractSensor).length + (dtos.filterMap id).length := by
        cases dto with
        | none => simp
        | some dto => simp [Nat.add_comm]
      rw [hlength, List.length_append]
      refine ⟨by omega, fun ⟨object', hmem, hobject'⟩ => ?_⟩
      rcases List.mem_cons.mp hmem with rfl | hmem
      · exact absurd hobject' hforeign
      · have hmore := hlt ⟨object', hmem, hobject'⟩
        omega

end

/-- Whatever is delivered, as long as `UA_new` finds memory (`hnew`), the result is the list
    of the sensors declared, in order, exactly if nothing of another type can be read as a
    `SensorDto`. -/
theorem decode_type_safe_iff (lib : UaLibrary) (dt : DataType) (layout : SensorDtoLayout) (ns : UInt16)
    (hdt : dt.Describes layout) (hnew : ∀ n, (lib.new n).isSome) (hbinary : ∀ body, ∃ dto, Decodes lib layout body dto)
    (value : TypedVariant) (declared : List SensorDto) (h : VariantDeclares lib layout ns value declared) :
    decodeTypedSensorDtos lib dt ns value = some (declared.map extractSensor) ↔ value.Unmixed lib ns := by
  cases h with
  | empty => exact ⟨fun _ => trivial, fun _ => rfl⟩
  | sensorDtos hdata =>
    refine ⟨fun _ => .inl rfl, fun _ => ?_⟩
    rw [decodeTypedSensorDtos, TypedVariant.raw, if_pos rfl]
    exact decodeArray_refines hdt hdata
  | other htype data arrayLength =>
    rw [decodeTypedSensorDtos, TypedVariant.raw, if_neg htype]
    by_cases hlength : arrayLength = 0
    · rw [if_pos hlength]
      exact ⟨fun _ => .inr hlength, fun _ => rfl⟩
    · rw [if_neg hlength]
      exact ⟨fun hnone => absurd hnone.symm (Option.some_ne_none _), fun hunmixed => absurd hunmixed (not_or.mpr ⟨htype, hlength⟩)⟩
  | extensionObjects hobjects =>
    constructor
    · intro hsensors object hobject hforeign
      have hmore := (decode_count hdt hnew hbinary hobjects hsensors).2 ⟨object, hobject, hforeign⟩
      rw [List.length_map] at hmore
      exact Nat.lt_irrefl _ hmore
    · intro hunmixed
      exact decode_objects hdt hnew hbinary hobjects hunmixed 0

/-! ## Over a library -/

theorem decodeString_text {body rest : ByteString} {u : UaString} (h : decodeString body = some (u, rest)) :
    ∃ s, u.IsText s := by
  unfold decodeString at h
  split at h
  · simp only at h
    split at h
    · obtain ⟨rfl, -⟩ := Prod.mk.inj (Option.some.inj h)
      exact ⟨"", rfl, fun hne => absurd rfl hne⟩
    · split at h
      · rename_i hlength
        obtain ⟨rfl, -⟩ := Prod.mk.inj (Option.some.inj h)
        refine ⟨String.ofList _, ?_, fun _ => congrArg some String.toList_ofList.symm⟩
        rw [String.toList_ofList, List.length_map, List.length_take, Nat.min_eq_left hlength]
      · cases h
  · cases h

/-- A body decodes to a `SensorDto`, or fails, whatever memory it is decoded into. -/
theorem library64_decodes (body : ByteString) : ∃ dto, Decodes library64 layout64 body dto := by
  cases hbody : decodeSensorDto body with
  | none =>
    refine ⟨none, fun memory => ?_⟩
    have hfails : library64.decodeBinary body memory = (statusBadDecodingError, memory) := by
      simp only [library64, hbody]
    rw [hfails]
    exact (by decide : statusBadDecodingError ≠ statusGood)
  | some raw =>
    have hgood : ∀ memory, library64.decodeBinary body memory = (statusGood, raw) := by
      intro memory
      simp only [library64, hbody]
    simp only [decodeSensorDto, Option.bind_eq_bind, Option.bind_eq_some_iff, Prod.exists] at hbody
    obtain ⟨name, _, hname, value, _, -, unit, _, hunit, sensorType, _, hsensorType, hraw⟩ := hbody
    obtain ⟨nameText, hname⟩ := decodeString_text hname
    obtain ⟨unitText, hunit⟩ := decodeString_text hunit
    obtain ⟨typeText, hsensorType⟩ := decodeString_text hsensorType
    obtain rfl := Option.some.inj hraw
    let dto : SensorDto := ⟨nameText, value, unitText, typeText⟩
    have hname : name.IsText dto.name := hname
    have hunit : unit.IsText dto.unit := hunit
    have hsensorType : sensorType.IsText dto.sensorType := hsensorType
    exact ⟨some dto, fun memory => ⟨_, hgood memory, holds_stored hname hunit hsensorType⟩⟩

/-- The encoding of a `SensorDto`. -/
def powerBody : ByteString :=
  library64.encodeBinary
    (storeSensorDto layout64 (library64.uaString "Package Power") 0x42280000 (library64.uaString "W") (library64.uaString ""))

theorem powerBody_decodes : Decodes library64 layout64 powerBody (some (sensorDto packagePower)) := by
  have hname : (library64.uaString "Package Power").IsText (sensorDto packagePower).name := library64_documented.uaString _
  have hunit : (library64.uaString "W").IsText (sensorDto packagePower).unit := library64_documented.uaString _
  have hsensorType : (library64.uaString "").IsText (sensorDto packagePower).sensorType := library64_documented.uaString _
  exact library64_inverts (by decide +kernel) (by decide +kernel) (by decide +kernel) _ (holds_stored hname hunit hsensorType)

/-- A sensor, and an object of no type and no data. -/
theorem decode_type_safe_power :
    decodeTypedSensorDtos library64 dataType64 2
      (.extensionObjects [.encodedByteString (sensorDtoEncoding 2) powerBody, .decoded NodeId.null none]) =
        some [extractSensor (sensorDto packagePower)] :=
  (decode_type_safe_iff library64 dataType64 layout64 2 dataType64_describes library64_documented.new library64_decodes _
    [sensorDto packagePower] (.extensionObjects (.cons (.encoded powerBody_decodes) (.cons (.null _) .nil)))).mpr
      (List.forall_mem_cons.mpr ⟨fun h => h.1 rfl, List.forall_mem_singleton.mpr fun h => Bool.false_ne_true h.2⟩)

/-- An object that says it is something else, with the bytes of a `SensorDto`. -/
def foreignObject : TypedObject := .encodedByteString ⟨2, .string "FanDto_Encoding_Default"⟩ powerBody

theorem foreign_body_is_read :
    VariantDeclares library64 layout64 2 (.extensionObjects [foreignObject]) [] ∧
      decodeTypedSensorDtos library64 dataType64 2 (.extensionObjects [foreignObject]) =
        some [extractSensor (sensorDto packagePower)] ∧
      decodeTypedSensorDtos library64 dataType64 2 (.extensionObjects [foreignObject]) ≠
        some (([] : List SensorDto).map extractSensor) := by
  have hread : decodeTypedSensorDtos library64 dataType64 2 (.extensionObjects [foreignObject]) =
      some [extractSensor (sensorDto packagePower)] :=
    decode_encoded dataType64_describes library64_documented.new powerBody_decodes 0 []
  refine ⟨.extensionObjects (.cons (.otherEncoded (by decide) _) .nil), hread, ?_⟩
  rw [hread]
  simp

end HardwareMonitor.ControlCenter
