import DiagnosticGateway.Library.Hexadecimal
import DiagnosticGateway.Client.Diagcli

/-! The command line of the interactive client (`diagcli.c`): words, numbers, and the
request a command stands for.

The words of a line are at most thirty-two, so that `raw` sends thirty-one bytes at most:
what it is given beyond them is dropped without a word.
-/

set_option autoImplicit false

namespace DiagnosticGateway.Client.Diagcli
open BigEndian Uds Ecu Hexadecimal

def isBlank (c : Char) : Bool := c = ' ' || c = '\t'

def inWord (c : Char) : Bool := !isBlank c

def split : Nat → List Char → List String
  | 0, _ => []
  | max + 1, line =>
    match line.dropWhile isBlank with
    | [] => []
    | c :: rest =>
      -- The blank behind a word becomes its end.
      String.ofList ((c :: rest).takeWhile inWord) :: split max ((rest.dropWhile inWord).drop 1)

abbrev argvMax : Nat := 32

abbrev ulongMax : Nat := 0xFFFFFFFFFFFFFFFF

def isSpace (c : Char) : Bool := c = ' ' || (9 ≤ c.toNat && c.toNat ≤ 13)

def isDigit (c : Char) : Bool := (digit c).isSome

def behindPrefix (text : List Char) : List Char :=
  match text with
  | '0' :: x :: c :: rest => if (x = 'x' ∨ x = 'X') ∧ isDigit c then c :: rest else text
  | _ => text

def numeral (digits : List Char) : Nat := digits.foldl (fun value c => value * 16 + (digit c).getD 0) 0

/-- `strtoul` to the base of sixteen, with 64-bit `unsigned long`: the value and what is
left of the text, all of it where there is no number. -/
def strtoul16 (text : List Char) : Nat × List Char :=
  let body := text.dropWhile isSpace
  let negative := body.head? = some '-'
  let body := behindPrefix (if body.head? = some '-' ∨ body.head? = some '+' then body.drop 1 else body)
  let digits := body.takeWhile isDigit
  if digits = [] then (0, text)
  else
    let value := numeral digits
    (if value > ulongMax then ulongMax else if negative then (ulongMax + 1 - value) % (ulongMax + 1) else value,
      body.dropWhile isDigit)

def didAliases : List (String × UInt16) :=
  [("vin", didVin), ("sw", didEcuSoftwareVersion), ("serial", didEcuSerialNumber), ("rpm", didEngineRpm),
    ("speed", didVehicleSpeed), ("temp", didCoolantTemperature), ("battery", didBatteryVoltage)]

def resolveDid (arg : String) : Option UInt16 :=
  match didAliases.find? fun entry => arg = entry.1 with
  | some entry => some entry.2
  | none =>
    let parsed := strtoul16 arg.toList
    if parsed.2 ≠ arg.toList ∧ parsed.2 = [] ∧ parsed.1 ≤ 0xFFFF then some parsed.1.toUInt16 else none

structure State where
  session : String
  security : String
  lastSeed : UInt32
  haveSeed : Int
  deriving DecidableEq, Repr

def State.init : State := ⟨"DEFAULT", "LOCKED", 0, 0⟩

/-- What `execute` does with the words of a line. -/
inductive Command where
  | nothing
  | quit
  | help
  | stats
  | say (printed : Effect)
  | send (payload : Bytes)
  deriving DecidableEq, Repr

def sessionCommand (args : List String) : Bytes :=
  [sidDiagnosticSessionControl,
    if args.head? = some "extended" then 0x03 else if args.head? = some "programming" then 0x02 else 0x01]

def readCommand (args : List String) : Command :=
  match args with
  | [] => .say (.print "      usage : read <nom|DID hexa>\n" [])
  | name :: _ =>
    match resolveDid name with
    | none => .say (.print "      identifiant inconnu : %s\n" [.text name])
    | some did => .send [sidReadDataByIdentifier, (did >>> 8).toUInt8, did.toUInt8]

def keyCommand (state : State) (args : List String) : Command :=
  match args with
  | given :: _ => .send ([sidSecurityAccess, securitySendKey] ++ writeWord (strtoul16 given.toList).1.toUInt32)
  | [] =>
    if state.haveSeed ≠ 0 then
      .send ([sidSecurityAccess, securitySendKey] ++ writeWord (demoKeyFromSeed state.lastSeed))
    else .say (.print "      aucune graine connue : lancez \"seed\" d'abord\n" [])

abbrev maxPayload : Nat := 64

def rawCommand (args : List String) : Command :=
  let payload := (args.take maxPayload).map fun arg => (strtoul16 arg.toList).1.toUInt8
  if payload.length = 0 then .say (.print "      usage : raw 22 F1 90\n" []) else .send payload

def execute (state : State) (argv : List String) : Command :=
  match argv with
  | [] => .nothing
  | name :: args =>
    if name = "quit" ∨ name = "exit" then .quit
    else if name = "help" then .help
    else if name = "stats" then .stats
    else if name = "session" then .send (sessionCommand args)
    else if name = "read" then readCommand args
    else if name = "dtc" then .send [sidReadDtcInformation, 0x02, 0x09]
    else if name = "clear" then .send [sidClearDiagnosticInformation, 0xFF, 0xFF, 0xFF]
    else if name = "seed" then .send [sidSecurityAccess, securityRequestSeed]
    else if name = "key" then keyCommand state args
    else if name = "reset" then .send [sidEcuReset, 0x01]
    else if name = "present" then .send [sidTesterPresent, 0x00]
    else if name = "raw" then rawCommand args
    else .say (.print "      commande inconnue : %s   (\"help\")\n" [.text name])

/-- A line of the input, without its end. Empty lines and comments are passed over. -/
def runLine (state : State) (line : List Char) : Command :=
  if line.head? = none ∨ line.head? = some '#' then .nothing else execute state (split argvMax line)

theorem split_word (max : Nat) {word : List Char} (solid : ∀ c ∈ word, isBlank c = false) (some : word ≠ [])
    (rest : List Char) : split (max + 1) (word ++ ' ' :: rest) = String.ofList word :: split max rest := by
  cases word with
  | nil => exact absurd rfl some
  | cons c word =>
    have first : isBlank c = false := solid c List.mem_cons_self
    have others : ∀ d ∈ word, inWord d = true := fun d member => by
      rw [inWord, solid d (List.mem_cons_of_mem _ member)]
      rfl
    have blank : ¬ inWord ' ' = true := by decide
    have start : List.dropWhile isBlank (c :: word ++ ' ' :: rest) = c :: (word ++ ' ' :: rest) := by
      rw [List.cons_append, List.dropWhile_cons_of_neg (by rw [first]; decide)]
    rw [split, start]
    dsimp only
    rw [List.takeWhile_cons_of_pos (by rw [inWord, first]; rfl), List.takeWhile_append_of_pos others,
      List.takeWhile_cons_of_neg blank, List.append_nil, List.dropWhile_append_of_pos others,
      List.dropWhile_cons_of_neg blank, List.drop_one, List.tail_cons]

theorem split_length (max : Nat) (line : List Char) : (split max line).length ≤ max := by
  induction max generalizing line with
  | zero => exact Nat.le_refl 0
  | succ max ih =>
    rw [split]
    split
    · exact Nat.zero_le _
    · exact Nat.succ_le_succ (ih _)

def hexLine (bytes : Bytes) : List Char := bytes.flatMap fun byte => spell byte ++ [' ']

theorem upper_plain {value : Nat} (small : value < 16) : isBlank (upper value) = false ∧ isSpace (upper value) = false ∧
    upper value ≠ '-' ∧ upper value ≠ '+' ∧ isDigit (upper value) = true := by
  interval_cases value <;> decide

theorem split_hexLine (max : Nat) (bytes : Bytes) :
    split max (hexLine bytes) = (bytes.take max).map fun byte => String.ofList (spell byte) := by
  induction max generalizing bytes with
  | zero => rfl
  | succ max ih =>
    cases bytes with
    | nil => rfl
    | cons byte bytes =>
      have solid : ∀ c ∈ spell byte, isBlank c = false := by
        intro c member
        rcases List.mem_cons.mp member with rfl | rest
        · exact (upper_plain (high_lt byte)).1
        · rw [List.mem_singleton.mp rest]
          exact (upper_plain (low_lt byte)).1
      have line : hexLine (byte :: bytes) = spell byte ++ ' ' :: hexLine bytes := by
        rw [hexLine, List.flatMap_cons, List.append_assoc]
        rfl
      rw [line, split_word max solid (List.cons_ne_nil _ _), ih, List.take_succ_cons, List.map_cons]

theorem behindPrefix_pair (first second : Char) : behindPrefix [first, second] = [first, second] := by
  unfold behindPrefix
  split
  · rename_i long
    simp at long
  · rfl

theorem strtoul16_spell (byte : UInt8) : strtoul16 (spell byte) = (byte.toNat, []) := by
  obtain ⟨-, space, minus, plus, first⟩ := upper_plain (high_lt byte)
  obtain ⟨-, -, -, -, second⟩ := upper_plain (low_lt byte)
  have body : (spell byte).dropWhile isSpace = spell byte := List.dropWhile_cons_of_neg (by rw [space]; decide)
  have unsigned : ¬ ((spell byte).head? = some '-' ∨ (spell byte).head? = some '+') := by
    rintro (sign | sign)
    · exact minus (Option.some.inj sign)
    · exact plus (Option.some.inj sign)
  have digits : (spell byte).takeWhile isDigit = spell byte := by
    rw [spell, List.takeWhile_cons_of_pos first, List.takeWhile_cons_of_pos second, List.takeWhile_nil]
  have rest : (spell byte).dropWhile isDigit = [] := by
    rw [spell, List.dropWhile_cons_of_pos first, List.dropWhile_cons_of_pos second, List.dropWhile_nil]
  have value : numeral (spell byte) = byte.toNat := by
    rw [numeral, spell, List.foldl_cons, List.foldl_cons, List.foldl_nil, digit_upper (high_lt byte),
      digit_upper (low_lt byte), Nat.zero_mul, Nat.zero_add]
    exact spell_value byte
  have small : ¬ byte.toNat > ulongMax := Nat.not_lt.mpr (Nat.le_trans (Nat.le_of_lt byte.toNat_lt) (by decide))
  rw [strtoul16]
  dsimp only
  rw [body, if_neg unsigned, show behindPrefix (spell byte) = spell byte from behindPrefix_pair _ _, digits,
    if_neg (show spell byte ≠ [] from List.cons_ne_nil _ _), value, rest, if_neg small, if_neg fun sign => unsigned (.inl sign)]

/-! ## What a line sends -/

def Command.Sends (good : Bytes → Prop) (command : Command) : Prop := ∀ payload, command = .send payload → good payload

section
variable {good : Bytes → Prop}

theorem sends_send {payload : Bytes} (holds : good payload) : (Command.send payload).Sends good := by
  intro sent same
  cases same
  exact holds

theorem sends_ite {condition : Prop} [Decidable condition] {yes no : Command} (taken : condition → yes.Sends good)
    (rest : no.Sends good) : (if condition then yes else no).Sends good := by
  split
  · exact taken ‹_›
  · exact rest

theorem readCommand_sends (args : List String)
    (each : ∀ did : UInt16, good [sidReadDataByIdentifier, (did >>> 8).toUInt8, did.toUInt8]) :
    (readCommand args).Sends good := by
  unfold readCommand
  split
  · exact nofun
  · split
    · exact nofun
    · exact sends_send (each _)

def fixedRequests : List Bytes :=
  [[sidReadDtcInformation, 0x02, 0x09], [sidClearDiagnosticInformation, 0xFF, 0xFF, 0xFF],
    [sidSecurityAccess, securityRequestSeed], [sidEcuReset, 0x01], [sidTesterPresent, 0x00]]

theorem execute_sends {state : State} {name : String} {args : List String} (session : good (sessionCommand args))
    (read : (readCommand args).Sends good) (fixed : ∀ payload ∈ fixedRequests, good payload)
    (key : name = "key" → (keyCommand state args).Sends good) (raw : name = "raw" → (rawCommand args).Sends good) :
    (execute state (name :: args)).Sends good := by
  have dtc := fixed [sidReadDtcInformation, 0x02, 0x09] (by decide)
  have clear := fixed [sidClearDiagnosticInformation, 0xFF, 0xFF, 0xFF] (by decide)
  have seed := fixed [sidSecurityAccess, securityRequestSeed] (by decide)
  have reset := fixed [sidEcuReset, 0x01] (by decide)
  have present := fixed [sidTesterPresent, 0x00] (by decide)
  exact sends_ite (fun _ => nofun) <| sends_ite (fun _ => nofun) <| sends_ite (fun _ => nofun) <|
    sends_ite (fun _ => sends_send session) <| sends_ite (fun _ => read) <| sends_ite (fun _ => sends_send dtc) <|
    sends_ite (fun _ => sends_send clear) <| sends_ite (fun _ => sends_send seed) <| sends_ite key <|
    sends_ite (fun _ => sends_send reset) <| sends_ite (fun _ => sends_send present) <| sends_ite raw nofun

end

/-- A request the link takes. -/
def Fits (payload : Bytes) : Prop := 0 < payload.length ∧ payload.length < argvMax

instance (payload : Bytes) : Decidable (Fits payload) := inferInstanceAs (Decidable (_ ∧ _))

theorem keyCommand_fits (state : State) (args : List String) : (keyCommand state args).Sends Fits := by
  have key : 0 < 6 ∧ 6 < argvMax := by decide
  unfold keyCommand
  split
  · exact sends_send key
  · exact sends_ite (fun _ => sends_send key) nofun

theorem rawCommand_fits {args : List String} (few : args.length < argvMax) : (rawCommand args).Sends Fits := by
  unfold rawCommand
  dsimp only
  split
  · exact nofun
  · rename_i filled
    refine sends_send ⟨Nat.pos_of_ne_zero filled, ?_⟩
    rw [List.length_map]
    exact Nat.lt_of_le_of_lt (List.length_take_le' ..) few

theorem execute_fits (state : State) {argv : List String} (few : argv.length ≤ argvMax) :
    (execute state argv).Sends Fits := by
  cases argv with
  | nil => exact nofun
  | cons name args =>
    have pair : 0 < 2 ∧ 2 < argvMax := by decide
    have triple : 0 < 3 ∧ 3 < argvMax := by decide
    exact execute_sends pair (readCommand_sends args fun _ => triple) (by decide) (fun _ => keyCommand_fits state args)
      fun _ => rawCommand_fits few

/-- Every request a line sends has between one and thirty-one bytes. The bytes `raw` is
given, as `print_hex` prints them, are sent as they are, up to the thirty-first. -/
theorem runLine_sends (state : State) :
    (∀ line payload, runLine state line = .send payload → 0 < payload.length ∧ payload.length < argvMax) ∧
      ∀ bytes : Bytes, bytes ≠ [] →
        runLine state (['r', 'a', 'w', ' '] ++ hexLine bytes) = .send (bytes.take (argvMax - 1)) := by
  constructor
  · intro line payload sends
    unfold runLine at sends
    split at sends
    · cases sends
    · exact execute_fits state (split_length _ _) payload sends
  · intro bytes filled
    have words : split argvMax (['r', 'a', 'w', ' '] ++ hexLine bytes) =
        "raw" :: (bytes.take 31).map fun byte => String.ofList (spell byte) := by
      have solid : ∀ c ∈ ['r', 'a', 'w'], isBlank c = false := by
        simp only [List.forall_mem_cons]
        exact ⟨rfl, rfl, rfl, nofun⟩
      rw [← split_hexLine]
      exact split_word 31 solid (List.cons_ne_nil _ _) (hexLine bytes)
    have payload : (((bytes.take 31).map fun byte => String.ofList (spell byte)).take maxPayload).map
        (fun arg => (strtoul16 arg.toList).1.toUInt8) = bytes.take 31 := by
      rw [List.take_of_length_le (by rw [List.length_map]; exact Nat.le_trans (List.length_take_le ..) (by decide)),
        List.map_map]
      conv_rhs => rw [← List.map_id (bytes.take 31)]
      refine List.map_congr_left fun byte _ => ?_
      rw [Function.comp_apply, String.toList_ofList, strtoul16_spell]
      exact UInt8.ofNat_toNat
    have kept : ¬ (bytes.take 31).length = 0 := by
      rw [List.length_eq_zero_iff, List.take_eq_nil_iff]
      simpa using filled
    have started : ¬ ((['r', 'a', 'w', ' '] ++ hexLine bytes).head? = none ∨
        (['r', 'a', 'w', ' '] ++ hexLine bytes).head? = some '#') := by
      rw [List.cons_append, List.head?_cons]
      decide
    rw [runLine, if_neg started, words]
    simp only [execute, String.reduceEq, or_self, if_false, if_true]
    rw [rawCommand, payload]
    exact if_neg kept

end DiagnosticGateway.Client.Diagcli
