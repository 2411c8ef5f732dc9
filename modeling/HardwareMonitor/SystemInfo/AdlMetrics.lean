/-
  HardwareMonitor.SystemInfo.AdlMetrics — `AMDLiveGPUMetrics::fetchADLMetrics`: what a poll
  of an AMD card stores, whatever the ADL library has and answers. Values are exact
  rationals.

  The levels OD5, OD6, ODN and OD8 are tried one after the other, each value is checked
  before it is stored, and a later level stores over an earlier one. What a poll has to
  read is stated of the calls' answers themselves, with a table of the PMLog sensors
  (`readings`). The poll writes the valid ones in that order and nothing else
  (`fetchADLMetrics_eq`), and over any run of polls a sensor has the last valid reading for
  it, in the range of its type (`waterfall`).
-/

import HardwareMonitor.SystemInfo.CpuMetrics

namespace HardwareMonitor.SystemInfo.AdlMetrics

open HardwareMonitor.Lib.Upsert

/-! ## What the library answers -/

/-- The cases of `switch (sensor_id)`. -/
inductive PmLog where
  | clkGfxclk
  | clkMemclk
  | clkSocclk
  | clkUvdclk1
  | clkUvdclk2
  | clkVceclk
  | clkVcnclk
  | clkVcn1clk1
  | clkVcn1clk2
  | clkFclk
  | clkCpuclk
  | busSpeed
  | temperatureEdge
  | temperatureMem
  | temperatureLiquid
  | temperatureHotspot
  | temperatureGfx
  | temperatureSoc
  | temperatureCpu
  | temperatureHotspotGcd
  | temperatureHotspotMcd
  | fanRpm
  | infoActivityGfx
  | infoActivityMem
  | socVoltage
  | gfxVoltage
  | memVoltage
  | asicPower
  | socPower
  | gfxPower
  | cpuPower
  | boardPower
  | sstotalPowerlimit
  | ssapuPowerlimit
  | ssdgpuPowerlimit
  | throttlePercentageTempGfx
  | throttlePercentageTempMem
  | throttlePercentageTempVr
  | throttlePercentagePower
  | throttlePercentageTdc
  | throttlePercentageVmax
  deriving DecidableEq, Repr

/-- What the SDK's headers define. -/
structure AdlSdk where
  /-- `ADL_OK` -/
  adlOk : Int
  /-- `ADL_ERR_NOT_SUPPORTED` -/
  adlErrNotSupported : Int
  /-- `ADL_OD6_FANSPEED_TYPE_RPM` -/
  fanspeedTypeRpm : Int32
  /-- The length of `ADLPMLogDataOutput::sensors`. -/
  sensors : Nat
  /-- The label with this value, if one has it. -/
  pmlog : Nat → Option PmLog

/-- The result of a call, and what its out-parameters hold after it. -/
structure Answer (α : Type) where
  result : Int
  value : α
  deriving DecidableEq, Repr

/-- What is read of `ADLPMActivity`, `ADLOD6CurrentStatus` and `ADLODNPerformanceStatus`. -/
structure Activity where
  engineClock : Int
  memoryClock : Int
  activityPercent : Int
  deriving DecidableEq, Repr

/-- `ADLOD6FanSpeedInfo` -/
structure FanSpeedInfo where
  iSpeedType : Int32
  iFanSpeedRPM : Int
  deriving DecidableEq, Repr

/-- An element of `ADLPMLogDataOutput::sensors`. -/
structure SingleSensorData where
  supported : Int
  value : Int
  deriving DecidableEq, Repr

/-- The answers to the calls of one poll. A call whose function pointer is null has none;
    of `stop` and `destroy` only the pointer counts. The ids of `sensor_list` index into
    `sensors`. -/
structure Answers (sdk : AdlSdk) where
  adl2OverdriveCaps : Answer Int
  adlOverdriveCaps : Answer Int
  adl2Od5TemperatureGet : Option (Answer Int)
  adl2Od5CurrentactivityGet : Option (Answer Activity)
  adl2Od5FanspeedGet : Option (Answer Int)
  adl2Od6TemperatureGet : Option (Answer Int)
  adl2Od6CurrentstatusGet : Option (Answer Activity)
  adl2Od6CurrentpowerGet : Option (Answer Int)
  adl2Od6FanspeedGet : Option (Answer FanSpeedInfo)
  adl2OverdrivenTemperatureGet : Option (Answer Int)
  adl2OverdrivenPerformancestatusGet : Option (Answer Activity)
  adl2Od8PmlogSharememorySupport : Option (Answer Int)
  adl2Od8PmlogSharememoryStart : Option (Answer Unit)
  adl2Od8PmlogSharememoryRead : Option (Answer (Fin sdk.sensors → SingleSensorData))
  adl2Od8PmlogSharememoryStop : Bool
  adl2DevicePmlogDeviceCreate : Option (Answer Unit)
  adl2DevicePmlogDeviceDestroy : Bool
  adl2Od8PmlogsenortypeSupportGet : Option (Answer (List (Fin sdk.sensors)))

variable {sdk : AdlSdk} {α : Type}

/-- What a call that is there and returns `ADL_OK` gives. -/
def Answer.ok (sdk : AdlSdk) (answer : Answer α) : Option α := if answer.result = sdk.adlOk then some answer.value else none

/-- `od_version`: a call that fails may have written it too. -/
def Answers.odVersion (a : Answers sdk) : Int :=
  if a.adl2OverdriveCaps.result = sdk.adlOk then a.adl2OverdriveCaps.value else a.adlOverdriveCaps.value

/-! ## The poll -/

def validTemp (v : Rat) : Bool := v > 0 && v < 150
def validClock (v : Rat) : Bool := v > 0 && v < 10000
def validPct (v : Rat) : Bool := v ≥ 0 && v ≤ 100
def validPower (v : Rat) : Bool := v ≥ 0 && v < 1000
def validFan (v : Rat) : Bool := v ≥ 0 && v < 20000
def validVolt (v : Rat) : Bool := v ≥ 0 && v < 3

/-- `if (valid(v)) addSensor<type>(name, v);` -/
def addValid (valid : Rat → Bool) (type : SensorType) (name : String) (v : Rat) (devSensors : List (DeviceSensor Rat)) :
    List (DeviceSensor Rat) :=
  if valid v then addSensor type name v devSensors else devSensors

def addTemperature (milli : Option Int) (devSensors : List (DeviceSensor Rat)) : List (DeviceSensor Rat) :=
  match milli with
  | some milli => addValid validTemp .temperature "Average Core Temperature" (milli / 1000) devSensors
  | none => devSensors

def addActivity (activity : Option Activity) (devSensors : List (DeviceSensor Rat)) : List (DeviceSensor Rat) :=
  match activity with
  | some activity =>
    let core : Rat := activity.engineClock * (1 / 100)
    let mem : Rat := activity.memoryClock * (1 / 100)
    let util : Rat := activity.activityPercent
    let devSensors := addValid validClock .clock "Core / Graphics Clock Speed" core devSensors
    let devSensors := addValid validClock .clock "Memory Clock Speed" mem devSensors
    addValid validPct .usage "Core / Graphics Utilization" util devSensors
  | none => devSensors

def addPower (powerMw : Option Int) (devSensors : List (DeviceSensor Rat)) : List (DeviceSensor Rat) :=
  match powerMw with
  | some powerMw => addValid validPower .power "GPU Power Draw" (powerMw / 1000) devSensors
  | none => devSensors

def addFanSpeed (rpm : Option Int) (devSensors : List (DeviceSensor Rat)) : List (DeviceSensor Rat) :=
  match rpm with
  | some rpm => addValid validFan .fanSpeed "Fan Speed" rpm devSensors
  | none => devSensors

/-- `if (fan.iSpeedType & ADL_OD6_FANSPEED_TYPE_RPM)` -/
def FanSpeedInfo.rpm (sdk : AdlSdk) (fan : FanSpeedInfo) : Option Int :=
  if fan.iSpeedType &&& sdk.fanspeedTypeRpm ≠ 0 then some fan.iFanSpeedRPM else none

def fetchOd5 (a : Answers sdk) (devSensors : List (DeviceSensor Rat)) : List (DeviceSensor Rat) :=
  let devSensors := addTemperature (a.adl2Od5TemperatureGet.bind (·.ok sdk)) devSensors
  let devSensors := addActivity (a.adl2Od5CurrentactivityGet.bind (·.ok sdk)) devSensors
  addFanSpeed (a.adl2Od5FanspeedGet.bind (·.ok sdk)) devSensors

def fetchOd6 (a : Answers sdk) (devSensors : List (DeviceSensor Rat)) : List (DeviceSensor Rat) :=
  let devSensors := addTemperature (a.adl2Od6TemperatureGet.bind (·.ok sdk)) devSensors
  let devSensors := addActivity (a.adl2Od6CurrentstatusGet.bind (·.ok sdk)) devSensors
  let devSensors := addPower (a.adl2Od6CurrentpowerGet.bind (·.ok sdk)) devSensors
  addFanSpeed ((a.adl2Od6FanspeedGet.bind (·.ok sdk)).bind (·.rpm sdk)) devSensors

def fetchOdn (a : Answers sdk) (devSensors : List (DeviceSensor Rat)) : List (DeviceSensor Rat) :=
  let devSensors := addTemperature (a.adl2OverdrivenTemperatureGet.bind (·.ok sdk)) devSensors
  addActivity (a.adl2OverdrivenPerformancestatusGet.bind (·.ok sdk)) devSensors

/-- The check, the sensor type and the name of a case. -/
def PmLog.case : PmLog → (Rat → Bool) × SensorType × String
  | .clkGfxclk => (validClock, .clock, "Core Clock Speed")
  | .clkMemclk => (validClock, .clock, "Memory Clock Speed")
  | .clkSocclk => (validClock, .clock, "SoC Clock Speed")
  | .clkUvdclk1 => (validClock, .clock, "UVD Clock 1")
  | .clkUvdclk2 => (validClock, .clock, "UVD Clock 2")
  | .clkVceclk => (validClock, .clock, "VCE Clock Speed")
  | .clkVcnclk => (validClock, .clock, "VCN Clock Speed")
  | .clkVcn1clk1 => (validClock, .clock, "VCN1 Clock 1")
  | .clkVcn1clk2 => (validClock, .clock, "VCN1 Clock 2")
  | .clkFclk => (validClock, .clock, "Fabric Clock Speed")
  | .clkCpuclk => (validClock, .clock, "CPU Clock Speed")
  | .busSpeed => (validClock, .clock, "PCIe Bus Speed")
  | .temperatureEdge => (validTemp, .temperature, "GPU Edge Temperature")
  | .temperatureMem => (validTemp, .temperature, "Memory Temperature")
  | .temperatureLiquid => (validTemp, .temperature, "Liquid Cooling Temperature")
  | .temperatureHotspot => (validTemp, .temperature, "GPU Hotspot Temperature")
  | .temperatureGfx => (validTemp, .temperature, "GFX Temperature")
  | .temperatureSoc => (validTemp, .temperature, "SoC Temperature")
  | .temperatureCpu => (validTemp, .temperature, "CPU Temperature")
  | .temperatureHotspotGcd => (validTemp, .temperature, "Hotspot GCD Temperature")
  | .temperatureHotspotMcd => (validTemp, .temperature, "Hotspot MCD Temperature")
  | .fanRpm => (validFan, .fanSpeed, "Fan Speed")
  | .infoActivityGfx => (validPct, .usage, "GPU Utilization")
  | .infoActivityMem => (validPct, .usage, "Memory Utilization")
  | .socVoltage => (validVolt, .voltage, "SoC Voltage")
  | .gfxVoltage => (validVolt, .voltage, "GFX Voltage")
  | .memVoltage => (validVolt, .voltage, "Memory Voltage")
  | .asicPower => (validPower, .power, "ASIC Power")
  | .socPower => (validPower, .power, "SoC Power")
  | .gfxPower => (validPower, .power, "GFX Power")
  | .cpuPower => (validPower, .power, "CPU Power")
  | .boardPower => (validPower, .power, "Board Power")
  | .sstotalPowerlimit => (validPower, .power, "Total Power Limit")
  | .ssapuPowerlimit => (validPower, .power, "APU Power Limit")
  | .ssdgpuPowerlimit => (validPower, .power, "dGPU Power Limit")
  | .throttlePercentageTempGfx => (validPct, .usage, "Throttle % (GFX Temp)")
  | .throttlePercentageTempMem => (validPct, .usage, "Throttle % (Mem Temp)")
  | .throttlePercentageTempVr => (validPct, .usage, "Throttle % (VR Temp)")
  | .throttlePercentagePower => (validPct, .usage, "Throttle % (Power)")
  | .throttlePercentageTdc => (validPct, .usage, "Throttle % (TDC)")
  | .throttlePercentageVmax => (validPct, .usage, "Throttle % (Vmax)")

/-- The body of the loop over `sensor_list`. -/
def fetchPmLog (data : Fin sdk.sensors → SingleSensorData) (devSensors : List (DeviceSensor Rat))
    (sensorId : Fin sdk.sensors) : List (DeviceSensor Rat) :=
  if (data sensorId).supported = 0 then devSensors
  else
    match sdk.pmlog sensorId with
    | some label => addValid label.case.1 label.case.2.1 label.case.2.2 (data sensorId).value devSensors
    | none => devSensors

/-- `sensor_list` and `data`, where all the calls up to the loop succeed. -/
def Answers.od8Data (a : Answers sdk) : Option (List (Fin sdk.sensors) × (Fin sdk.sensors → SingleSensorData)) := do
  guard (a.odVersion ≥ 8)
  let support ← a.adl2Od8PmlogSharememorySupport
  let start ← a.adl2Od8PmlogSharememoryStart
  let read ← a.adl2Od8PmlogSharememoryRead
  guard a.adl2Od8PmlogSharememoryStop
  let create ← a.adl2DevicePmlogDeviceCreate
  guard a.adl2DevicePmlogDeviceDestroy
  let senortype ← a.adl2Od8PmlogsenortypeSupportGet
  let sharememorySupported ← support.ok sdk
  guard (sharememorySupported ≠ sdk.adlErrNotSupported)
  create.ok sdk
  start.ok sdk
  let sensorList ← senortype.ok sdk
  let data ← read.ok sdk
  return (sensorList, data)

def fetchOd8 (a : Answers sdk) (devSensors : List (DeviceSensor Rat)) : List (DeviceSensor Rat) :=
  match a.od8Data with
  | some (sensorList, data) => sensorList.foldl (fetchPmLog data) devSensors
  | none => devSensors

def fetchADLMetrics (a : Answers sdk) (devSensors : List (DeviceSensor Rat)) : List (DeviceSensor Rat) :=
  fetchOd8 a (fetchOdn a (fetchOd6 a (fetchOd5 a devSensors)))

/-- The sensors after these polls, of a device that begins without any. -/
def afterPolls (polls : List (Answers sdk)) : List (DeviceSensor Rat) :=
  polls.foldl (fun devSensors a => fetchADLMetrics a devSensors) []

/-! ## Readings -/

/-- The values a sensor of a type may have. -/
def InRange : SensorType → Rat → Prop
  | .temperature, v => 0 < v ∧ v < 150
  | .clock, v => 0 < v ∧ v < 10000
  | .usage, v => 0 ≤ v ∧ v ≤ 100
  | .power, v => 0 ≤ v ∧ v < 1000
  | .fanSpeed, v => 0 ≤ v ∧ v < 20000
  | .voltage, v => 0 ≤ v ∧ v < 3
  | .memory, _ => True

instance (type : SensorType) (v : Rat) : Decidable (InRange type v) := by
  cases type <;> unfold InRange <;> infer_instance

/-- The reading is in the range of its type. -/
def Valid (reading : DeviceSensor Rat) : Prop := InRange reading.type reading.value

instance : DecidablePred Valid := fun reading => inferInstanceAs (Decidable (InRange reading.type reading.value))

/-- The readings of a call that has a function pointer and returns `ADL_OK`. -/
def answered (sdk : AdlSdk) (call : Option (Answer α)) (f : α → List (DeviceSensor Rat)) : List (DeviceSensor Rat) :=
  match call with
  | some ⟨result, value⟩ => if result = sdk.adlOk then f value else []
  | none => []

def temperatureReadings (milli : Int) : List (DeviceSensor Rat) := [⟨"Average Core Temperature", .temperature, milli / 1000⟩]

/-- Clocks are in steps of 10 kHz. -/
def activityReadings (activity : Activity) : List (DeviceSensor Rat) :=
  [⟨"Core / Graphics Clock Speed", .clock, activity.engineClock / 100⟩,
    ⟨"Memory Clock Speed", .clock, activity.memoryClock / 100⟩,
    ⟨"Core / Graphics Utilization", .usage, activity.activityPercent⟩]

def powerReadings (milliwatts : Int) : List (DeviceSensor Rat) := [⟨"GPU Power Draw", .power, milliwatts / 1000⟩]

def fanReadings (rpm : Int) : List (DeviceSensor Rat) := [⟨"Fan Speed", .fanSpeed, rpm⟩]

/-- The readings OD5 has, valid or not. -/
def od5Readings (a : Answers sdk) : List (DeviceSensor Rat) :=
  answered sdk a.adl2Od5TemperatureGet temperatureReadings ++ answered sdk a.adl2Od5CurrentactivityGet activityReadings ++
    answered sdk a.adl2Od5FanspeedGet fanReadings

/-- A fan speed of OD6 counts if it is in RPM. -/
def od6Readings (a : Answers sdk) : List (DeviceSensor Rat) :=
  answered sdk a.adl2Od6TemperatureGet temperatureReadings ++ answered sdk a.adl2Od6CurrentstatusGet activityReadings ++
    answered sdk a.adl2Od6CurrentpowerGet powerReadings ++
    answered sdk a.adl2Od6FanspeedGet fun fan =>
      if fan.iSpeedType &&& sdk.fanspeedTypeRpm = 0 then [] else fanReadings fan.iFanSpeedRPM

def odnReadings (a : Answers sdk) : List (DeviceSensor Rat) :=
  answered sdk a.adl2OverdrivenTemperatureGet temperatureReadings ++
    answered sdk a.adl2OverdrivenPerformancestatusGet activityReadings

/-- The PMLog sensors of each type, with their names. -/
def pmLogNames : List (SensorType × List (PmLog × String)) :=
  [(.clock, [(.clkGfxclk, "Core Clock Speed"), (.clkMemclk, "Memory Clock Speed"), (.clkSocclk, "SoC Clock Speed"),
      (.clkUvdclk1, "UVD Clock 1"), (.clkUvdclk2, "UVD Clock 2"), (.clkVceclk, "VCE Clock Speed"),
      (.clkVcnclk, "VCN Clock Speed"), (.clkVcn1clk1, "VCN1 Clock 1"), (.clkVcn1clk2, "VCN1 Clock 2"),
      (.clkFclk, "Fabric Clock Speed"), (.clkCpuclk, "CPU Clock Speed"), (.busSpeed, "PCIe Bus Speed")]),
    (.temperature, [(.temperatureEdge, "GPU Edge Temperature"), (.temperatureMem, "Memory Temperature"),
      (.temperatureLiquid, "Liquid Cooling Temperature"), (.temperatureHotspot, "GPU Hotspot Temperature"),
      (.temperatureGfx, "GFX Temperature"), (.temperatureSoc, "SoC Temperature"), (.temperatureCpu, "CPU Temperature"),
      (.temperatureHotspotGcd, "Hotspot GCD Temperature"), (.temperatureHotspotMcd, "Hotspot MCD Temperature")]),
    (.fanSpeed, [(.fanRpm, "Fan Speed")]),
    (.voltage, [(.socVoltage, "SoC Voltage"), (.gfxVoltage, "GFX Voltage"), (.memVoltage, "Memory Voltage")]),
    (.power, [(.asicPower, "ASIC Power"), (.socPower, "SoC Power"), (.gfxPower, "GFX Power"), (.cpuPower, "CPU Power"),
      (.boardPower, "Board Power"), (.sstotalPowerlimit, "Total Power Limit"), (.ssapuPowerlimit, "APU Power Limit"),
      (.ssdgpuPowerlimit, "dGPU Power Limit")]),
    (.usage, [(.infoActivityGfx, "GPU Utilization"), (.infoActivityMem, "Memory Utilization"),
      (.throttlePercentageTempGfx, "Throttle % (GFX Temp)"), (.throttlePercentageTempMem, "Throttle % (Mem Temp)"),
      (.throttlePercentageTempVr, "Throttle % (VR Temp)"), (.throttlePercentagePower, "Throttle % (Power)"),
      (.throttlePercentageTdc, "Throttle % (TDC)"), (.throttlePercentageVmax, "Throttle % (Vmax)")])]

/-- The readings of an id of the list: one if it is supported and a PMLog sensor. -/
def pmLogReadings (data : Fin sdk.sensors → SingleSensorData) (sensorId : Fin sdk.sensors) : List (DeviceSensor Rat) :=
  if (data sensorId).supported = 0 then []
  else pmLogNames.flatMap fun group =>
    (group.2.filter fun e => sdk.pmlog sensorId = some e.1).map fun e => ⟨e.2, group.1, (data sensorId).value⟩

/-- The caps say version 8 or higher: those of ADL2, or if that call fails those of ADL. -/
def capsAllowOd8 (a : Answers sdk) : Prop :=
  (a.adl2OverdriveCaps.result = sdk.adlOk ∧ 8 ≤ a.adl2OverdriveCaps.value) ∨
    (a.adl2OverdriveCaps.result ≠ sdk.adlOk ∧ 8 ≤ a.adlOverdriveCaps.value)

instance (a : Answers sdk) : Decidable (capsAllowOd8 a) := inferInstanceAs (Decidable (_ ∨ _))

/-- OD8 has readings if the caps allow it, the library has all its functions, and each call
    up to the read returns `ADL_OK`, the first one not with `ADL_ERR_NOT_SUPPORTED`. -/
def od8Readings (a : Answers sdk) : List (DeviceSensor Rat) :=
  match a.adl2Od8PmlogSharememorySupport, a.adl2DevicePmlogDeviceCreate, a.adl2Od8PmlogSharememoryStart,
    a.adl2Od8PmlogsenortypeSupportGet, a.adl2Od8PmlogSharememoryRead with
  | some support, some create, some start, some sensorList, some data =>
    if capsAllowOd8 a ∧ a.adl2Od8PmlogSharememoryStop = true ∧ a.adl2DevicePmlogDeviceDestroy = true ∧
        support.result = sdk.adlOk ∧ support.value ≠ sdk.adlErrNotSupported ∧ create.result = sdk.adlOk ∧
        start.result = sdk.adlOk ∧ sensorList.result = sdk.adlOk ∧ data.result = sdk.adlOk then
      sensorList.value.flatMap (pmLogReadings data.value)
    else []
  | _, _, _, _, _ => []

/-- The readings of a poll, in the order of the levels. -/
def readings (a : Answers sdk) : List (DeviceSensor Rat) :=
  od5Readings a ++ od6Readings a ++ odnReadings a ++ od8Readings a

/-- Stores the valid ones of these readings. -/
def store (rs devSensors : List (DeviceSensor Rat)) : List (DeviceSensor Rat) :=
  upsertAll DeviceSensor.key (rs.filter Valid) devSensors

/-! ## A poll stores its valid readings -/

section

variable (devSensors : List (DeviceSensor Rat))

theorem store_append (rs rs' : List (DeviceSensor Rat)) :
    store (rs ++ rs') devSensors = store rs' (store rs devSensors) := by
  rw [store, List.filter_append, upsertAll, List.foldl_append]
  rfl

/-- A checked `addSensor` stores the one reading, if the check is that of its type. -/
theorem addValid_eq {valid : Rat → Bool} {type : SensorType} (hvalid : ∀ v, valid v = true ↔ InRange type v)
    (name : String) (v : Rat) : addValid valid type name v devSensors = store [⟨name, type, v⟩] devSensors := by
  rw [addValid, store]
  by_cases hv : InRange type v
  · rw [if_pos ((hvalid v).mpr hv), List.filter_cons_of_pos (by rwa [decide_eq_true_iff]), addSensor_eq]
    rfl
  · rw [if_neg (mt (hvalid v).mp hv), List.filter_cons_of_neg (by rwa [decide_eq_true_iff])]
    rfl

theorem validTemp_iff (v : Rat) : validTemp v = true ↔ InRange .temperature v := by simp [validTemp, InRange]
theorem validClock_iff (v : Rat) : validClock v = true ↔ InRange .clock v := by simp [validClock, InRange]
theorem validPct_iff (v : Rat) : validPct v = true ↔ InRange .usage v := by simp [validPct, InRange]
theorem validPower_iff (v : Rat) : validPower v = true ↔ InRange .power v := by simp [validPower, InRange]
theorem validFan_iff (v : Rat) : validFan v = true ↔ InRange .fanSpeed v := by simp [validFan, InRange]
theorem validVolt_iff (v : Rat) : validVolt v = true ↔ InRange .voltage v := by simp [validVolt, InRange]

/-- Every case of the switch has the check of its sensor type. -/
theorem case_valid (label : PmLog) (v : Rat) : label.case.1 v = true ↔ InRange label.case.2.1 v := by
  cases label <;>
    simp only [PmLog.case, validTemp_iff, validClock_iff, validPct_iff, validPower_iff, validFan_iff, validVolt_iff]

theorem addTemperature_eq (milli : Int) :
    addTemperature (some milli) devSensors = store (temperatureReadings milli) devSensors :=
  addValid_eq devSensors validTemp_iff ..

theorem addActivity_eq (activity : Activity) :
    addActivity (some activity) devSensors = store (activityReadings activity) devSensors := by
  have hsteps (v : Rat) : v * (1 / 100) = v / 100 := by rw [Rat.div_def, Rat.div_def, Rat.one_mul]
  simp only [addActivity, hsteps, addValid_eq _ validClock_iff, addValid_eq _ validPct_iff, ← store_append]
  rfl

theorem addPower_eq (powerMw : Int) : addPower (some powerMw) devSensors = store (powerReadings powerMw) devSensors :=
  addValid_eq devSensors validPower_iff ..

theorem addFanSpeed_eq (rpm : Int) : addFanSpeed (some rpm) devSensors = store (fanReadings rpm) devSensors :=
  addValid_eq devSensors validFan_iff ..

/-- What stores the readings of a value, and nothing for no value, stores those of an answer. -/
theorem add_answered (add : Option α → List (DeviceSensor Rat) → List (DeviceSensor Rat)) {f : α → List (DeviceSensor Rat)}
    (hnone : add none devSensors = devSensors) (hsome : ∀ v, add (some v) devSensors = store (f v) devSensors)
    (call : Option (Answer α)) : add (call.bind (·.ok sdk)) devSensors = store (answered sdk call f) devSensors := by
  cases call with
  | none => exact hnone
  | some answer =>
    simp only [Option.bind_some, Answer.ok, answered]
    by_cases hok : answer.result = sdk.adlOk
    · rw [if_pos hok, if_pos hok, hsome]
    · rw [if_neg hok, if_neg hok, hnone]
      rfl

theorem fetchOd5_eq (a : Answers sdk) : fetchOd5 a devSensors = store (od5Readings a) devSensors := by
  rw [fetchOd5, add_answered _ addTemperature rfl (addTemperature_eq _), add_answered _ addActivity rfl (addActivity_eq _),
    add_answered _ addFanSpeed rfl (addFanSpeed_eq _), od5Readings, store_append, store_append]

theorem fetchOd6_eq (a : Answers sdk) : fetchOd6 a devSensors = store (od6Readings a) devSensors := by
  have hfan : ∀ devSensors (fan : FanSpeedInfo), addFanSpeed ((some fan).bind fun fan => fan.rpm sdk) devSensors =
      store (if fan.iSpeedType &&& sdk.fanspeedTypeRpm = 0 then [] else fanReadings fan.iFanSpeedRPM) devSensors := by
    intro devSensors fan
    rw [Option.bind_some, FanSpeedInfo.rpm]
    by_cases hrpm : fan.iSpeedType &&& sdk.fanspeedTypeRpm = 0
    · rw [if_pos hrpm, if_neg (not_not.mpr hrpm)]
      rfl
    · rw [if_neg hrpm, if_pos hrpm, addFanSpeed_eq]
  rw [fetchOd6, add_answered _ addTemperature rfl (addTemperature_eq _), add_answered _ addActivity rfl (addActivity_eq _),
    add_answered _ addPower rfl (addPower_eq _)]
  rw [od6Readings, store_append, store_append, store_append]
  exact add_answered _ (fun fan => addFanSpeed (fan.bind (FanSpeedInfo.rpm sdk))) rfl (hfan _) _

theorem fetchOdn_eq (a : Answers sdk) : fetchOdn a devSensors = store (odnReadings a) devSensors := by
  rw [fetchOdn, add_answered _ addTemperature rfl (addTemperature_eq _), add_answered _ addActivity rfl (addActivity_eq _),
    odnReadings, store_append]

/-- The table has each case of the switch once, under its name and type. -/
theorem pmLogNames_case (label : PmLog) (v : Rat) :
    (pmLogNames.flatMap fun group =>
      (group.2.filter fun e => some label = some e.1).map fun e => (⟨e.2, group.1, v⟩ : DeviceSensor Rat)) =
      [⟨label.case.2.2, label.case.2.1, v⟩] := by
  cases label <;> rfl

theorem fetchPmLog_eq (data : Fin sdk.sensors → SingleSensorData) (sensorId : Fin sdk.sensors) :
    fetchPmLog data devSensors sensorId = store (pmLogReadings data sensorId) devSensors := by
  rw [fetchPmLog, pmLogReadings]
  by_cases hsupported : (data sensorId).supported = 0
  · rw [if_pos hsupported, if_pos hsupported]
    rfl
  · rw [if_neg hsupported, if_neg hsupported]
    cases sdk.pmlog sensorId with
    | none => rfl
    | some label =>
      rw [pmLogNames_case]
      exact addValid_eq devSensors (case_valid label) ..

/-- The loop, id after id. -/
theorem fetchPmLogs_eq (data : Fin sdk.sensors → SingleSensorData) (sensorList : List (Fin sdk.sensors)) :
    sensorList.foldl (fetchPmLog data) devSensors = store (sensorList.flatMap (pmLogReadings data)) devSensors := by
  induction sensorList generalizing devSensors with
  | nil => rfl
  | cons sensorId sensorList ih => rw [List.foldl_cons, ih, fetchPmLog_eq, ← store_append, List.flatMap_cons]

theorem odVersion_iff (a : Answers sdk) : a.odVersion ≥ 8 ↔ capsAllowOd8 a := by
  unfold Answers.odVersion capsAllowOd8
  by_cases hok : a.adl2OverdriveCaps.result = sdk.adlOk <;> simp [hok]

theorem guard_bind {β : Type} (p : Prop) [Decidable p] (f : Unit → Option β) :
    (guard p >>= f) = if p then f () else none := by
  by_cases hp : p
  · rw [guard, if_pos hp, if_pos hp]
    rfl
  · rw [guard, if_neg hp, if_neg hp]
    rfl

theorem ok_bind {β : Type} (answer : Answer α) (f : α → Option β) :
    (answer.ok sdk >>= f) = if answer.result = sdk.adlOk then f answer.value else none := by
  rw [Answer.ok]
  split <;> rfl

/-- The block goes as far as its loop exactly where OD8 has readings. -/
theorem fetchOd8_eq (a : Answers sdk) : fetchOd8 a devSensors = store (od8Readings a) devSensors := by
  rw [fetchOd8, od8Readings, Answers.od8Data]
  simp only [↓guard_bind, odVersion_iff]
  cases a.adl2Od8PmlogSharememorySupport with
  | none => simp [store]
  | some support =>
  cases a.adl2Od8PmlogSharememoryStart with
  | none => simp [store]
  | some start =>
  cases a.adl2Od8PmlogSharememoryRead with
  | none => simp [store]
  | some data =>
  cases a.adl2DevicePmlogDeviceCreate with
  | none => simp [store]
  | some create =>
  cases a.adl2Od8PmlogsenortypeSupportGet with
  | none => simp [store]
  | some sensorList =>
    simp only [ok_bind, Option.bind_eq_bind, Option.bind_some, ← ite_and]
    split_ifs
    · exact fetchPmLogs_eq devSensors data.value sensorList.value
    · rfl

theorem fetchADLMetrics_eq (a : Answers sdk) : fetchADLMetrics a devSensors = store (readings a) devSensors := by
  rw [fetchADLMetrics, fetchOd8_eq, fetchOdn_eq, fetchOd6_eq, fetchOd5_eq, readings, store_append, store_append,
    store_append]

end

/-! ## Runs -/

/-- The sensors are in their ranges, and no name and type occurs twice. -/
structure Sound (devSensors : List (DeviceSensor Rat)) : Prop where
  valid : ∀ sensor ∈ devSensors, Valid sensor
  nodup : (devSensors.map DeviceSensor.key).Nodup

theorem sound_store {devSensors : List (DeviceSensor Rat)} (h : Sound devSensors) (rs : List (DeviceSensor Rat)) :
    Sound (store rs devSensors) where
  valid sensor hsensor := by
    rcases mem_upsertAll DeviceSensor.key h.nodup hsensor with hnew | ⟨hold, -⟩
    · simpa using (List.mem_filter.mp hnew).2
    · exact h.valid sensor hold
  nodup := nodup_upsertAll DeviceSensor.key _ h.nodup

theorem afterPolls_concat (polls : List (Answers sdk)) (a : Answers sdk) :
    afterPolls (polls ++ [a]) = fetchADLMetrics a (afterPolls polls) := List.foldl_concat ..

theorem sound_afterPolls (polls : List (Answers sdk)) : Sound (afterPolls polls) := by
  induction polls using List.reverseRecOn with
  | nil => exact ⟨List.forall_mem_nil _, List.nodup_nil⟩
  | append_singleton polls a ih =>
    rw [afterPolls_concat, fetchADLMetrics_eq]
    exact sound_store ih (readings a)

/-- After each poll of any run a name and type has the last valid reading that poll had
    for it, and what it had before if there was none; so the sensors are always in their
    ranges and never doubled. -/
theorem waterfall (polls : List (Answers sdk)) :
    (∀ (a : Answers sdk) (k : String × SensorType), find DeviceSensor.key (afterPolls (polls ++ [a])) k =
      (latest DeviceSensor.key ((readings a).filter Valid) k).or (find DeviceSensor.key (afterPolls polls) k)) ∧
    (∀ sensor ∈ afterPolls polls, InRange sensor.type sensor.value) ∧
    ((afterPolls polls).map fun sensor => (sensor.name, sensor.type)).Nodup := by
  refine ⟨fun a k => ?_, (sound_afterPolls polls).valid, (sound_afterPolls polls).nodup⟩
  rw [afterPolls_concat, fetchADLMetrics_eq]
  exact find_upsertAll DeviceSensor.key _ _ k

/-! ## Two polls -/

/-- Four PMLog ids, of which the last has no case. -/
def fourSensors : AdlSdk where
  adlOk := 0
  adlErrNotSupported := -8
  fanspeedTypeRpm := 1
  sensors := 4
  pmlog id := [PmLog.clkGfxclk, .temperatureEdge, .asicPower][id]?

/-- ADL2's caps fail and ADL's say 8. OD5, OD6 and ODN each have a temperature, but OD6's call
    fails; OD5's fan is too fast. OD8 has a clock, a temperature out of range, a power that
    is not supported, and an id without a case. -/
def fullPoll : Answers fourSensors where
  adl2OverdriveCaps := ⟨-1, 5⟩
  adlOverdriveCaps := ⟨0, 8⟩
  adl2Od5TemperatureGet := some ⟨0, 45000⟩
  adl2Od5CurrentactivityGet := some ⟨0, ⟨150000, 80000, 30⟩⟩
  adl2Od5FanspeedGet := some ⟨0, 20000⟩
  adl2Od6TemperatureGet := some ⟨-1, 46000⟩
  adl2Od6CurrentstatusGet := none
  adl2Od6CurrentpowerGet := some ⟨0, 125500⟩
  adl2Od6FanspeedGet := some ⟨0, ⟨3, 1800⟩⟩
  adl2OverdrivenTemperatureGet := some ⟨0, 47000⟩
  adl2OverdrivenPerformancestatusGet := none
  adl2Od8PmlogSharememorySupport := some ⟨0, 1⟩
  adl2Od8PmlogSharememoryStart := some ⟨0, ()⟩
  adl2Od8PmlogSharememoryRead := some ⟨0, fun id => [⟨1, 2400⟩, ⟨1, 160⟩, ⟨0, 90⟩].getD id ⟨1, 7⟩⟩
  adl2Od8PmlogSharememoryStop := true
  adl2DevicePmlogDeviceCreate := some ⟨0, ()⟩
  adl2DevicePmlogDeviceDestroy := true
  adl2Od8PmlogsenortypeSupportGet := some ⟨0, List.finRange 4⟩

/-- The caps say 7, so that OD8 is left out, and ODN's temperature is out of range. -/
def nextPoll : Answers fourSensors :=
  { fullPoll with adl2OverdriveCaps := ⟨0, 7⟩, adl2Od5TemperatureGet := none, adl2OverdrivenTemperatureGet := some ⟨0, 0⟩,
                  adl2Od6CurrentpowerGet := some ⟨0, 130000⟩ }

/-- What the two polls leave of the sensors they have something to say about. -/
theorem waterfall_two_polls :
    let sensor (polls : List (Answers fourSensors)) (type : SensorType) (name : String) :=
      (find DeviceSensor.key (afterPolls polls) (name, type)).map DeviceSensor.value
    sensor [fullPoll] .clock "Core Clock Speed" = some 2400 ∧ sensor [fullPoll] .temperature "Average Core Temperature" = some 47 ∧
      sensor [fullPoll] .temperature "GPU Edge Temperature" = none ∧ sensor [fullPoll] .power "ASIC Power" = none ∧
      sensor [fullPoll] .fanSpeed "Fan Speed" = some 1800 ∧
      sensor [fullPoll, nextPoll] .clock "Core Clock Speed" = some 2400 ∧
      sensor [fullPoll, nextPoll] .temperature "Average Core Temperature" = some 47 ∧
      sensor [fullPoll, nextPoll] .power "GPU Power Draw" = some 130 := by
  intro sensor
  have hfirst (k : String × SensorType) := (waterfall ([] : List (Answers fourSensors))).1 fullPoll k
  have hnext (k : String × SensorType) := (waterfall [fullPoll]).1 nextPoll k
  simp only [List.nil_append, List.cons_append] at hfirst hnext
  simp only [sensor, hnext, hfirst]
  decide +kernel

end HardwareMonitor.SystemInfo.AdlMetrics
