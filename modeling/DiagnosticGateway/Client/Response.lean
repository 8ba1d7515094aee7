import DiagnosticGateway.Ecu.Data
import DiagnosticGateway.Library.Readout

/-! What the two clients share when they print a response: the names of things
(`uds.c`, `ecu_data.c`) and the shape of their decoders.
-/

set_option autoImplicit false

namespace DiagnosticGateway.Client
open Uds Ecu Readout

def sessionToString (session : UInt8) : String :=
  match session with
  | 0x01 => "Default Session"
  | 0x02 => "Programming Session"
  | 0x03 => "Extended Diagnostic Session"
  | _ => "session inconnue"

def nrcToString (nrc : UInt8) : String :=
  if nrc = nrcGeneralReject then "generalReject"
  else if nrc = nrcServiceNotSupported then "serviceNotSupported"
  else if nrc = nrcSubFunctionNotSupported then "subFunctionNotSupported"
  else if nrc = nrcIncorrectMessageLength then "incorrectMessageLengthOrInvalidFormat"
  else if nrc = nrcResponseTooLong then "responseTooLong"
  else if nrc = nrcConditionsNotCorrect then "conditionsNotCorrect"
  else if nrc = nrcRequestOutOfRange then "requestOutOfRange"
  else if nrc = nrcSecurityAccessDenied then "securityAccessDenied"
  else if nrc = nrcInvalidKey then "invalidKey"
  else if nrc = nrcExceedNumberOfAttempts then "exceedNumberOfAttempts"
  else if nrc = nrcRequiredTimeDelayNotExpired then "requiredTimeDelayNotExpired"
  else if nrc = nrcSubFunctionNotSupportedInSession then "subFunctionNotSupportedInActiveSession"
  else if nrc = nrcServiceNotSupportedInSession then "serviceNotSupportedInActiveSession"
  else "NRC inconnu"

def sidToString (sid : UInt8) : String :=
  if sid = sidDiagnosticSessionControl then "DiagnosticSessionControl"
  else if sid = sidEcuReset then "ECUReset"
  else if sid = sidClearDiagnosticInformation then "ClearDiagnosticInformation"
  else if sid = sidReadDtcInformation then "ReadDTCInformation"
  else if sid = sidReadDataByIdentifier then "ReadDataByIdentifier"
  else if sid = sidSecurityAccess then "SecurityAccess"
  else if sid = sidTesterPresent then "TesterPresent"
  else "service inconnu"

def dtcToString (code : Nat) : String :=
  match code with
  | 0x011700 => "capteur de temperature moteur"
  | 0xC12345 => "defaut de communication reseau"
  | 0x016200 => "sous-tension batterie"
  | 0x010100 => "debitmetre d'air"
  | _ => "defaut inconnu"

def didToString (did : UInt16) : String :=
  if did = didVin then "VIN"
  else if did = didEcuSoftwareVersion then "ECU software version"
  else if did = didEcuSerialNumber then "ECU serial number"
  else if did = didEngineRpm then "engine RPM"
  else if did = didVehicleSpeed then "vehicle speed"
  else if did = didCoolantTemperature then "coolant temperature"
  else if did = didBatteryVoltage then "battery voltage"
  else "identifiant inconnu"

/-! ## Decoders -/

inductive Arg where
  | number (value : Int)
  | text (value : String)
  deriving DecidableEq, Repr

/-- The globals of `diagcli.c` that follow the server. -/
inductive Global where
  | session
  | security
  | lastSeed
  | haveSeed
  deriving DecidableEq, Repr

inductive Effect where
  | print (format : String) (args : List Arg)
  | assign (global : Global) (value : Arg)
  deriving DecidableEq, Repr

/-- A decoder reads the bytes of the response, and those behind it if it goes too far. -/
abbrev Decoder (A : Type) : Type := Program UInt8 Effect A

def print (format : String) (args : List Arg) : Decoder Unit := effect (.print format args)

def assign (global : Global) (value : Arg) : Decoder Unit := effect (.assign global value)

def byte (index : Nat) : Decoder Arg := do
  let value ← read index
  pure (.number value.toNat)

def halfword (index : Nat) : Decoder Nat := do
  let high ← read index
  let low ← read (index + 1)
  pure (high.toNat <<< 8 ||| low.toNat)

def dataLength (len : Nat) : Decoder Nat := do
  let left ← difference 0x100000000 len 3
  pure (left % 0x10000)

def recordCount (len : Nat) : Decoder Nat := do
  let left ← difference 0x100000000 len 3
  pure (left / 4 % 0x10000)

def printHex (offset len : Nat) : Decoder Unit :=
  loop len fun index => do
    let value ← byte (offset + index)
    print "%02X " [value]

def printText (opening : String) (offset len : Nat) : Decoder Unit := do
  print opening []
  loop len fun index => do
    let character ← byte (offset + index)
    print "%c" [character]
  print "\"" []

def printCodes (format : String) (count : Nat) : Decoder Unit :=
  loop count fun index => do
    let record := 3 + index * 4
    let high ← read record
    let middle ← read (record + 1)
    let low ← read (record + 2)
    let code := high.toNat <<< 16 ||| middle.toNat <<< 8 ||| low.toNat
    let status ← byte (record + 3)
    print format [.number code, status, .text (dtcToString code)]

/-- The data of the identifiers with a unit; `otherwise` prints what has none. -/
def printQuantity (did : UInt16) (dataLen : Nat) (otherwise : Decoder Unit) : Decoder Unit :=
  if did = didEngineRpm ∧ dataLen = 2 then do
    let rpm ← halfword 3
    print " = %u tr/min" [.number rpm]
  else if did = didVehicleSpeed ∧ dataLen = 1 then do
    let speed ← byte 3
    print " = %u km/h" [speed]
  else if did = didCoolantTemperature ∧ dataLen = 2 then do
    let temperature ← halfword 3
    print " = %d C" [.number (BitVec.ofNat 16 temperature).toInt]
  else if did = didBatteryVoltage ∧ dataLen = 2 then do
    let millivolts ← halfword 3
    print " = %u.%03u V" [.number (millivolts / 1000 : Nat), .number (millivolts % 1000 : Nat)]
  else otherwise

end DiagnosticGateway.Client
