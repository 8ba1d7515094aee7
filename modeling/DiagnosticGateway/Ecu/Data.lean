import DiagnosticGateway.Uds.Authority

/-! The application of the virtual ECU (`ecu_data.c`): simulated values, fault
codes, and the providers the server calls.
-/

set_option autoImplicit false

namespace DiagnosticGateway.Ecu
open BigEndian Uds

abbrev didVin : UInt16 := 0xF190
abbrev didEcuSoftwareVersion : UInt16 := 0xF189
abbrev didEcuSerialNumber : UInt16 := 0xF18C
abbrev didEngineRpm : UInt16 := 0x0100
abbrev didVehicleSpeed : UInt16 := 0x0101
abbrev didCoolantTemperature : UInt16 := 0x0102
abbrev didBatteryVoltage : UInt16 := 0x0103

abbrev dtcStatusTestFailed : UInt8 := 0x01
abbrev dtcStatusConfirmed : UInt8 := 0x08
abbrev dtcGroupAll : UInt32 := 0xFFFFFF

def vin : Bytes :=
  [0x56, 0x46, 0x31, 0x48, 0x44, 0x47, 0x32, 0x41, 0x58, 0x34, 0x37, 0x31, 0x32, 0x39, 0x33, 0x30, 0x35]

def softwareVersion : Bytes := [0x01, 0x04, 0x02]

def serialNumber : Bytes := [0x48, 0x44, 0x47, 0x01]

structure Dtc where
  code : UInt32
  status : UInt8
  active : Bool
  deriving DecidableEq, Repr

structure Data where
  engineRpm : UInt16
  vehicleSpeedKph : UInt8
  coolantTempC : Int16
  batteryMv : UInt16
  tick : UInt32
  dtc : List Dtc
  resetCount : UInt8
  deriving DecidableEq, Repr

def Data.init : Data where
  engineRpm := 800
  vehicleSpeedKph := 0
  coolantTempC := 21
  batteryMv := 12600
  tick := 0
  dtc :=
    [⟨0x011700, dtcStatusTestFailed ||| dtcStatusConfirmed, true⟩, ⟨0xC12345, dtcStatusConfirmed, true⟩,
     ⟨0x016200, 0, false⟩, ⟨0x010100, 0, false⟩]
  resetCount := 0

def raiseUndervoltage (batteryMv : UInt16) (dtc : Dtc) : Dtc :=
  if batteryMv < 12400 ∧ dtc.active = false then
    { dtc with status := dtcStatusTestFailed ||| dtcStatusConfirmed, active := true }
  else dtc

def tick (data : Data) : Data :=
  let tick := data.tick + 1
  let batteryMv := (12300 + (tick * 11) % 900).toUInt16
  { data with
    tick := tick
    engineRpm := (800 + (tick * 137) % 4200).toUInt16
    vehicleSpeedKph := ((tick * 7) % 180).toUInt8
    batteryMv := batteryMv
    coolantTempC := if data.coolantTempC < 90 then data.coolantTempC + 1 else data.coolantTempC
    dtc := data.dtc.modify 2 (raiseUndervoltage batteryMv) }

/-! ## Providers -/

/-- The records of the faults the mask selects, if they fit. -/
def collectDtc (statusMask : UInt8) (outCapacity : Nat) : List Dtc → Bytes → Option Bytes
  | [], out => some out
  | dtc :: rest, out =>
    if dtc.active = false ∨ dtc.status &&& statusMask = 0 then collectDtc statusMask outCapacity rest out
    else if out.length + 4 > outCapacity then none
    else
      collectDtc statusMask outCapacity rest
        (out ++ [(dtc.code >>> 16).toUInt8, (dtc.code >>> 8).toUInt8, dtc.code.toUInt8, dtc.status])

def readDtc (statusMask : UInt8) (outCapacity : Nat) (data : Data) : Result × Bytes × Data :=
  match collectDtc statusMask outCapacity data.dtc [] with
  | none => (.errBufferTooSmall, [], data)
  | some out => (.ok, out, data)

def clearDtc (groupOfDtc : UInt32) (data : Data) : Result × Data :=
  let selects := fun dtc : Dtc => groupOfDtc == dtcGroupAll || dtc.code == groupOfDtc
  let cleared := data.dtc.map fun dtc => if selects dtc then { dtc with active := false, status := 0 } else dtc
  (if data.dtc.any selects then .ok else .errDidNotFound, { data with dtc := cleared })

def reset (_resetType : UInt8) (data : Data) : Result × Data :=
  (.ok, { Data.init with resetCount := data.resetCount + 1 })

def emitBytes (src : Bytes) (outCapacity : Nat) : Result × Bytes :=
  if src.length > outCapacity then (.errBufferTooSmall, []) else (.ok, src)

def emitU16 (value : UInt16) (outCapacity : Nat) : Result × Bytes :=
  emitBytes [(value >>> 8).toUInt8, value.toUInt8] outCapacity

def readDid (did : UInt16) (outCapacity : Nat) (data : Data) : Result × Bytes × Data :=
  let (res, out) :=
    if did = didVin then emitBytes vin outCapacity
    else if did = didEcuSoftwareVersion then emitBytes softwareVersion outCapacity
    else if did = didEcuSerialNumber then emitBytes serialNumber outCapacity
    else if did = didEngineRpm then emitU16 data.engineRpm outCapacity
    else if did = didVehicleSpeed then emitBytes [data.vehicleSpeedKph] outCapacity
    else if did = didCoolantTemperature then emitU16 data.coolantTempC.toUInt16 outCapacity
    else if did = didBatteryVoltage then emitU16 data.batteryMv outCapacity
    else (.errDidNotFound, [])
  (res, out, data)

def application : Application Data where
  didRead := some readDid
  dtcRead := some readDtc
  dtcClear := some clearDtc
  ecuReset := some reset

theorem application_resets : application.Resets := ⟨reset, rfl, fun _ _ => rfl⟩

end DiagnosticGateway.Ecu
