import DiagnosticGateway.Client.Response

/-! How the scripted client prints a response (`print_uds_response` of `tester.c`). -/

set_option autoImplicit false

namespace DiagnosticGateway.Client.Tester
open Uds Ecu Readout

def startsWith (length : Bool) (sid : UInt8) : Decoder Bool :=
  andThen length do
    let first ← read 0
    pure (first = sid)

def printable : Nat → Nat → Decoder Bool
  | 0, _ => pure true
  | count + 1, index => do
    let value ← read index
    if value < 0x20 then pure false
    else do
      let value ← read index
      if value > 0x7E then pure false else printable count (index + 1)

def printAsciiIfPrintable (offset len : Nat) : Decoder Unit := do
  let readable ← printable len offset
  if readable then printText "  \"" offset len else pure ()

def printRefusal : Decoder Unit := do
  let service ← byte 1
  let nrc ← read 2
  print "  -> REFUS  service 0x%02X, NRC 0x%02X (%s)\n" [service, .number nrc.toNat, .text (nrcToString nrc)]

def printSession (len : Nat) : Decoder Unit := do
  let level ← read 1
  print "  -> OK     session active : %s\n" [.text (sessionToString level)]
  if len ≥ 6 then do
    let p2 ← halfword 2
    let p2Star ← halfword 4
    print "            P2Server_max %u ms, P2*Server_max %u ms\n" [.number p2, .number (p2Star * 10 : Nat)]
  else pure ()

def printData (len : Nat) : Decoder Unit := do
  let did ← halfword 1
  let dataLen ← dataLength len
  print "  -> OK     DID 0x%04X (%s) = " [.number did, .text (didToString did.toUInt16)]
  printHex 3 dataLen
  printQuantity did.toUInt16 dataLen (printAsciiIfPrintable 3 dataLen)
  print "\n" []

def printTroubleCodes (len : Nat) : Decoder Unit := do
  let count ← recordCount len
  print "  -> OK     %u code(s) defaut\n" [.number count]
  printCodes "            %06X  statut %02X  %s\n" count

def printSecurity (len : Nat) : Decoder Unit := do
  let subfunction ← read 1
  if subfunction = securityRequestSeed ∧ len ≥ 6 then do
    let high ← halfword 2
    let low ← halfword 4
    print "  -> OK     graine recue : %08X\n" [.number (high <<< 16 ||| low : Nat)]
  else do
    let subfunction ← read 1
    if subfunction = securitySendKey then print "  -> OK     ACCES DEVERROUILLE\n" []
    else print "  -> OK     SecurityAccess\n" []

def printReset : Decoder Unit := do
  let kind ← byte 1
  print "  -> OK     calculateur reinitialise (type 0x%02X)\n" [kind]

/-- The tests in the order of the source: the first that holds decides. -/
def printUdsResponse (len : Nat) : Decoder Unit := do
  if len = 0 then print "  -> reponse vide\n" []
  else if ← startsWith (len = negativeResponseLen) negativeResponseSid then printRefusal
  else if ← startsWith (len ≥ 2) (sidDiagnosticSessionControl + positiveResponseOffset) then printSession len
  else if ← startsWith (len ≥ 3) (sidReadDataByIdentifier + positiveResponseOffset) then printData len
  else if ← startsWith (len ≥ 3) (sidReadDtcInformation + positiveResponseOffset) then printTroubleCodes len
  else if ← startsWith (len ≥ 2) (sidSecurityAccess + positiveResponseOffset) then printSecurity len
  else if ← startsWith (len = 1) (sidClearDiagnosticInformation + positiveResponseOffset) then
    print "  -> OK     defauts effaces\n" []
  else if ← startsWith (len ≥ 2) (sidEcuReset + positiveResponseOffset) then printReset
  else if ← startsWith (len ≥ 1) (sidTesterPresent + positiveResponseOffset) then print "  -> OK     TesterPresent\n" []
  else print "  -> reponse non interpretee (%u octets)\n" [.number len]

end DiagnosticGateway.Client.Tester
