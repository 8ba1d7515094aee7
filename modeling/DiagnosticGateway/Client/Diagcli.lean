import DiagnosticGateway.Client.Response

/-! How the interactive client prints a response (`show_response` of `diagcli.c`). -/

set_option autoImplicit false

namespace DiagnosticGateway.Client.Diagcli
open Uds Ecu Readout

/-- The test of a negative response, with the `&&` of the source. -/
def isNegative (len : Nat) : Decoder Bool :=
  andThen (len = negativeResponseLen) do
    let first ← read 0
    pure (first = negativeResponseSid)

def showRefusal : Decoder Unit := do
  let service ← read 1
  let nrc ← read 2
  print "      REFUS  %s -> NRC 0x%02X  %s\n"
    [.text (sidToString service), .number nrc.toNat, .text (nrcToString nrc)]

def showSession (len : Nat) : Decoder Unit := do
  let level ← read 1
  let session := if level = 0x03 then "EXTENDED" else "DEFAULT"
  assign .session (.text session)
  let level ← read 1
  if level ≠ 0x03 then assign .security (.text "LOCKED") else pure ()
  print "      OK     session %s\n" [.text session]
  if len ≥ 6 then do
    let p2 ← halfword 2
    let p2Star ← halfword 4
    print "             P2 %u ms, P2* %u ms\n" [.number p2, .number (p2Star * 10 : Nat)]
  else pure ()

def showReset : Decoder Unit := do
  assign .session (.text "DEFAULT")
  assign .security (.text "LOCKED")
  print "      OK     calculateur reinitialise\n" []

/-- `0x59`. A header that is not whole has no records. -/
def showCodes (len : Nat) : Decoder Unit := do
  let count ← if len ≥ 3 then recordCount len else pure 0
  print "      OK     %u code(s) defaut\n" [.number count]
  printCodes "             %06X  statut %02X  %s\n" count

def printable (dlen : Nat) : Decoder Bool :=
  fold (fun index result => do
    let value ← read (3 + index)
    if value < 0x20 then pure false
    else do
      let value ← read (3 + index)
      if value > 0x7E then pure false else pure result) dlen 0 true

/-- `0x62`. Nothing says that there are three bytes. -/
def showData (len : Nat) : Decoder Unit := do
  let did ← halfword 1
  let dlen ← dataLength len
  print "      OK     DID %04X  %s\n" [.number did, .text (didToString did.toUInt16)]
  print "             " []
  printHex 3 dlen
  let readable ← printable dlen
  printQuantity did.toUInt16 dlen (if readable ∧ dlen > 0 then printText " = \"" 3 dlen else pure ())
  print "\n" []

/-- `0x67`. The subfunction is read before the length is looked at. -/
def showSecurity (len : Nat) : Decoder Unit := do
  let subfunction ← read 1
  if subfunction = securityRequestSeed ∧ len ≥ 6 then do
    let high ← halfword 2
    let low ← halfword 4
    let seed := (high <<< 16 ||| low).toUInt32
    assign .lastSeed (.number seed.toNat)
    assign .haveSeed (.number 1)
    print "      OK     graine %08X\n" [.number seed.toNat]
    print "             cle attendue : %08X   (\"key\" pour l'envoyer)\n" [.number (demoKeyFromSeed seed).toNat]
  else do
    assign .security (.text "UNLOCKED")
    print "      OK     ACCES DEVERROUILLE\n" []

def showPositive (len : Nat) : Decoder Unit := do
  let first ← read 0
  if first = 0x50 then showSession len
  else if first = 0x51 then showReset
  else if first = 0x54 then print "      OK     defauts effaces\n" []
  else if first = 0x59 then showCodes len
  else if first = 0x62 then showData len
  else if first = 0x67 then showSecurity len
  else if first = 0x7E then print "      OK     TesterPresent\n" []
  else print "      reponse non interpretee\n" []

def showResponse (len : Nat) : Decoder Unit := do
  print "  RX  " []
  printHex 0 len
  print "\n" []
  if len = 0 then print "      reponse vide\n" []
  else do
    let negative ← isNegative len
    if negative then showRefusal else showPositive len

end DiagnosticGateway.Client.Diagcli
