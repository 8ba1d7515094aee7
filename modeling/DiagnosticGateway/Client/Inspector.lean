import DiagnosticGateway.Library.Hexadecimal
import DiagnosticGateway.Ecu.Faults
import DiagnosticGateway.Fuzz.Confinement
import DiagnosticGateway.Isotp.Segmentation

/-! The WebAssembly entry points (`ahdg_wasm.c`): bytes as text, the inspector of Single
Frames, and the server behind the page with its verdict on every request.

A JSON object is the list of its fields. A text comes without the NUL that ends it.
-/

set_option autoImplicit false

namespace DiagnosticGateway.Client.Inspector
open BigEndian Hexadecimal Isotp

/-- The digits in pairs, whatever stands between them; at most `cap` bytes. `hi` is a
first digit still without its second. -/
def parseFrom (cap : Nat) (hi : Option Nat) : List Char → Bytes
  | [] => []
  | c :: rest =>
    if cap = 0 then []
    else
      match digit c, hi with
      | none, _ => parseFrom cap hi rest
      | some v, none => parseFrom cap (some v) rest
      | some v, some h => (h <<< 4 ||| v).toUInt8 :: parseFrom (cap - 1) none rest

def parseHex (s : List Char) (cap : Nat) : Bytes := parseFrom cap none s

/-- The bytes that fit behind the first `p` characters, each with a blank behind it. -/
def hexFrom (cap : Nat) : Nat → Bytes → List Char
  | _, [] => []
  | p, byte :: rest => if p + 3 < cap then spell byte ++ ' ' :: hexFrom cap (p + 3) rest else []

def bytesToHex (bytes : Bytes) (cap : Nat) : List Char := (hexFrom cap 0 bytes).dropLast

theorem parseFrom_zero (hi : Option Nat) (s : List Char) : parseFrom 0 hi s = [] := by
  cases s with
  | nil => rfl
  | cons c rest => exact if_pos rfl

section
variable {cap : Nat} (room : cap ≠ 0) {c : Char} (rest : List Char)

include room

theorem parseFrom_skip (hi : Option Nat) (other : digit c = none) : parseFrom cap hi (c :: rest) = parseFrom cap hi rest := by
  simp only [parseFrom, if_neg room, other]

theorem parseFrom_high {v : Nat} (found : digit c = some v) :
    parseFrom cap none (c :: rest) = parseFrom cap (some v) rest := by
  simp only [parseFrom, if_neg room, found]

theorem parseFrom_low {h v : Nat} (found : digit c = some v) :
    parseFrom cap (some h) (c :: rest) = (h <<< 4 ||| v).toUInt8 :: parseFrom (cap - 1) none rest := by
  simp only [parseFrom, if_neg room, found]

end

theorem parseFrom_blank (cap : Nat) (hi : Option Nat) (s : List Char) :
    parseFrom cap hi (s ++ [' ']) = parseFrom cap hi s := by
  induction s generalizing cap hi with
  | nil =>
    by_cases full : cap = 0
    · rw [full, parseFrom_zero, parseFrom_zero]
    · exact parseFrom_skip full [] hi (by decide)
  | cons c rest ih =>
    by_cases full : cap = 0
    · rw [full, parseFrom_zero, parseFrom_zero]
    rw [List.cons_append]
    cases found : digit c with
    | none => rw [parseFrom_skip full _ hi found, parseFrom_skip full _ hi found, ih]
    | some v =>
      cases hi with
      | none => rw [parseFrom_high full _ found, parseFrom_high full _ found, ih]
      | some h => rw [parseFrom_low full _ found, parseFrom_low full _ found, ih]

theorem byte_of_digits (byte : UInt8) : ((byte.toNat / 16) <<< 4 ||| byte.toNat % 16).toUInt8 = byte := by
  have low : byte.toNat % 16 < 2 ^ 4 := low_lt byte
  have whole : byte.toNat / 16 * 2 ^ 4 + byte.toNat % 16 = byte.toNat := spell_value byte
  rw [← Nat.shiftLeft_add_eq_or_of_lt low, Nat.shiftLeft_eq, whole]
  exact UInt8.ofNat_toNat

theorem parseFrom_spell (cap : Nat) (byte : UInt8) (rest : List Char) :
    parseFrom (cap + 1) none (spell byte ++ ' ' :: rest) = byte :: parseFrom cap none rest := by
  have room : cap + 1 ≠ 0 := Nat.succ_ne_zero cap
  rw [spell, List.cons_append, List.cons_append, List.nil_append, parseFrom_high room _ (digit_upper (high_lt byte)),
    parseFrom_low room _ (digit_upper (low_lt byte)), byte_of_digits, Nat.add_sub_cancel]
  by_cases full : cap = 0
  · rw [full, parseFrom_zero, parseFrom_zero]
  · rw [parseFrom_skip full rest none (by decide)]

theorem parseFrom_hexFrom {room p : Nat} {bytes : Bytes} (fits : p + 3 * bytes.length < room) (cap : Nat) :
    parseFrom cap none (hexFrom room p bytes) = bytes.take cap := by
  induction bytes generalizing p cap with
  | nil => rw [List.take_nil]; rfl
  | cons byte rest ih =>
    rw [List.length_cons] at fits
    have space : p + 3 < room := by omega
    cases cap with
    | zero => rw [parseFrom_zero, List.take_zero]
    | succ cap => rw [hexFrom, if_pos space, parseFrom_spell, ih (by omega), List.take_succ_cons]

theorem hexFrom_ends (room p : Nat) (bytes : Bytes) :
    hexFrom room p bytes = [] ∨ ∃ text, hexFrom room p bytes = text ++ [' '] := by
  induction bytes generalizing p with
  | nil => exact .inl rfl
  | cons byte rest ih =>
    rw [hexFrom]
    split
    · rcases ih (p + 3) with none | ⟨text, more⟩
      · exact .inr ⟨spell byte, by rw [none]⟩
      · exact .inr ⟨spell byte ++ ' ' :: text, by rw [more, List.append_assoc, List.cons_append]⟩
    · exact .inl rfl

theorem parseHex_bytesToHex {room : Nat} {bytes : Bytes} (fits : 3 * bytes.length < room) (cap : Nat) :
    parseHex (bytesToHex bytes room) cap = bytes.take cap := by
  have read : parseFrom cap none (hexFrom room 0 bytes) = bytes.take cap := parseFrom_hexFrom (by omega) cap
  rw [parseHex, bytesToHex]
  rcases hexFrom_ends room 0 bytes with none | ⟨text, blank⟩
  · rw [none] at read ⊢
    exact read
  · rw [blank] at read ⊢
    rw [List.dropLast_concat, ← parseFrom_blank, read]

def resultToString : Isotp.Result → String
  | .ok => "OK"
  | .errNullPointer => "null pointer"
  | .errBufferTooSmall => "buffer too small"
  | .errInvalidLength => "invalid length"
  | .errNotSingleFrame => "unexpected frame type"
  | .errTruncatedFrame => "truncated frame — it announces more payload than it carries"
  | .errUnexpectedFrame => "frame unexpected in this state"
  | .errSequenceNumber => "wrong sequence number"
  | .errOverflow => "message larger than the reassembly buffer"
  | .errTimeout => "deadline expired"
  | .errAborted => "transfer aborted by the peer"
  | .errBusy => "a transfer is already in progress"

def frameTypeToString : FrameType → String
  | .single => "Single Frame"
  | .first => "First Frame"
  | .consecutive => "Consecutive Frame"
  | .flowControl => "Flow Control"
  | .reserved => "unknown frame type"

/-- The object `ahdg_isotp_decode` returns. -/
inductive FrameView where
  | failed (type : Option String) (reason : String)
  | single (length : Nat) (payload : List Char)
  | other (type : String)
  deriving DecidableEq, Repr

def isotpDecode (hex : List Char) : FrameView :=
  let frame := parseHex hex 8
  if frame.length = 0 then .failed none "empty frame"
  else
    match getFrameType frame with
    | .error res => .failed none (resultToString res)
    | .ok type =>
      if type = .single then
        match decodeSingleFrame frame with
        | .ok payload => .single payload.length (bytesToHex payload 64)
        | .error res => .failed (some (frameTypeToString .single)) (resultToString res)
      else .other (frameTypeToString type)

def isotpEncode (hex : List Char) : List Char :=
  let payload := parseHex hex 8
  if payload.length = 0 ∨ payload.length > sfMaxPayload.toNat then "(1 a 7 octets requis)".toList
  else
    match encodeSingleFrame payload canFrameSize with
    | .ok frame => bytesToHex frame 512
    | .error res => "(".toList ++ (resultToString res).toList ++ ")".toList

theorem isotpEncode_single {hex : List Char} (filled : (parseHex hex 8).length ≠ 0) (short : (parseHex hex 8).length ≤ 7) :
    isotpEncode hex = bytesToHex (canonicalSingle (parseHex hex 8)) 512 := by
  have bounds : ¬ ((parseHex hex 8).length = 0 ∨ (parseHex hex 8).length > sfMaxPayload.toNat) :=
    not_or.mpr ⟨filled, Nat.not_lt.mpr short⟩
  simp only [isotpEncode, if_neg bounds, encodeSingleFrame_canonical filled short]

theorem isotpDecode_single {hex : List Char} {payload : Bytes} (decoded : decodeSingleFrame (parseHex hex 8) = .ok payload)
    (filled : (parseHex hex 8).length ≠ 0) : isotpDecode hex = .single payload.length (bytesToHex payload 64) := by
  obtain ⟨single, -⟩ := decodeSingleFrame_ok decoded
  have typed : getFrameType (parseHex hex 8) = .ok .single := by
    rw [getFrameType, if_neg (by omega), single]
  simp only [isotpDecode, if_neg filled, typed, decoded, if_true]

/-- The inspector shows of an encoded frame what went into it, and encodes what it shows
into the same frame, however the digits were typed. -/
theorem inspector_round_trip (text : List Char) (filled : (parseHex text 8).length ≠ 0)
    (short : (parseHex text 8).length ≤ 7) :
    ∃ shown, isotpDecode (isotpEncode text) = .single (parseHex text 8).length shown ∧
      parseHex shown 8 = parseHex text 8 ∧ isotpEncode shown = isotpEncode text := by
  have encoded := isotpEncode_single filled short
  have frame : parseHex (isotpEncode text) 8 = canonicalSingle (parseHex text 8) := by
    have length := canonicalSingle_length short
    rw [encoded, parseHex_bytesToHex (by omega), List.take_of_length_le (by omega)]
  have shown : parseHex (bytesToHex (parseHex text 8) 64) 8 = parseHex text 8 := by
    rw [parseHex_bytesToHex (by omega), List.take_of_length_le (by omega)]
  have decoded := decodeSingleFrame_encodeSingleFrame (encodeSingleFrame_canonical filled short)
  refine ⟨_, isotpDecode_single (by rw [frame]; exact decoded) ?_, shown, ?_⟩
  · rw [frame, canonicalSingle_length short]
    decide
  · rw [isotpEncode_single (by rwa [shown]) (by rwa [shown]), shown, encoded]

theorem inspector_round_trip_version :
    ∃ shown, isotpDecode (isotpEncode "22f1 89".toList) = .single 3 shown ∧ parseHex shown 8 = [0x22, 0xF1, 0x89] ∧
      isotpEncode shown = isotpEncode "22f1 89".toList :=
  inspector_round_trip "22f1 89".toList (by decide) (by decide)

/-! ## The server behind the page -/

open Traces
open Uds (Server Context Valid handleRequest maxResponseSize)

/-- `g_uds` with `g_data`, `g_clock` and `g_ready`. -/
structure Page where
  uds : Server Ecu.Data
  clock : UInt32
  ready : Bool

def ensureReady (page : Page) : Page :=
  if page.ready = false then ⟨.init .init, 1000, true⟩ else page

/-- The object of `state_json`. -/
structure StateView where
  session : UInt8
  security : Uds.SecurityLevel
  seedPending : Bool
  failedAttempts : UInt8
  lockedOut : Bool
  deriving DecidableEq, Repr

def stateJson (page : Page) : StateView :=
  ⟨page.uds.ctx.session.code, page.uds.ctx.securityLevel, page.uds.ctx.seedPending, page.uds.ctx.failedAttempts,
    page.uds.ctx.lockedOut⟩

inductive Verdict where
  | allow
  | drop (invariant : Int)
  deriving DecidableEq, Repr

/-- The object `ahdg_request` returns. -/
structure RequestView where
  result : Uds.Result
  response : List Char
  responseLen : Nat
  verdict : Verdict
  state : StateView
  deriving DecidableEq, Repr

def ahdgReset (page : Page) : Page := ensureReady { page with ready := false }

def ahdgRequest (page : Page) (hex : List Char) : Page × RequestView :=
  let page := ensureReady page
  let pre := Fuzz.ahdgSnapshot page.uds.ctx
  let outcome := handleRequest Ecu.application page.uds.ctx page.uds.user (parseHex hex 64) page.clock maxResponseSize
  let page := { page with uds := ⟨outcome.ctx, outcome.user⟩, clock := page.clock + 5 }
  let viol := if outcome.result = .ok then Fuzz.ahdgCheck pre outcome.ctx .readDid outcome.response else -1
  (page, ⟨outcome.result, bytesToHex outcome.response 512, outcome.response.length,
    if viol ≥ 0 then .drop viol else .allow, stateJson page⟩)

inductive Call where
  | reset
  | state
  | request (hex : List Char)
  deriving DecidableEq, Repr

def step (page : Page) : Call → Page × Option RequestView
  | .reset => (ahdgReset page, none)
  | .state => (ensureReady page, none)
  | .request hex => ((ahdgRequest page hex).1, some (ahdgRequest page hex).2)

def Tabled (data : Ecu.Data) : Prop := data.dtc.length = 4

theorem readDid_length (did : UInt16) (room : Nat) (data : Ecu.Data) : (Ecu.readDid did room data).2.1.length ≤ 17 := by
  have emitted : ∀ src : Bytes, src.length ≤ 17 → (Ecu.emitBytes src room).2.length ≤ 17 := by
    intro src short
    unfold Ecu.emitBytes
    split
    · exact Nat.zero_le _
    · exact short
  unfold Ecu.readDid Ecu.emitU16
  dsimp only
  split_ifs
  · exact emitted _ (by decide)
  · exact emitted _ (by decide)
  · exact emitted _ (by decide)
  · exact emitted [_, _] (by decide : 2 ≤ 17)
  · exact emitted [_] (by decide : 1 ≤ 17)
  · exact emitted [_, _] (by decide : 2 ≤ 17)
  · exact emitted [_, _] (by decide : 2 ≤ 17)
  · exact Nat.zero_le _

theorem readDtc_length {data : Ecu.Data} (tabled : Tabled data) (mask : UInt8) (room : Nat) :
    (Ecu.readDtc mask room data).2.1.length ≤ 16 := by
  rw [Ecu.readDtc_eq]
  split
  · have few : (Ecu.selected mask data.dtc).length ≤ data.dtc.length := List.length_filter_le _ _
    rw [Tabled] at tabled
    rw [Ecu.report_length]
    omega
  · exact Nat.zero_le _

theorem Tabled.run {data : Ecu.Data} (tabled : Tabled data) (effects : List Uds.Effect) :
    Tabled (Uds.runEffects Ecu.application data effects) := by
  induction effects generalizing data with
  | nil => exact tabled
  | cons effect rest ih =>
    refine ih ?_
    cases effect with
    | dtcClear => exact (List.length_map _).trans tabled
    | ecuReset => rfl
    | didRead | dtcRead | seedDrawn | keyCompared => exact tabled

section
variable {c : Context} {data : Ecu.Data} {request : Bytes} {nowMs : UInt32} {outcome : Uds.Outcome Ecu.Data}

theorem refuse_length (user : Ecu.Data) (sid nrc : UInt8) (effects : List Uds.Effect) :
    (Uds.Outcome.refuse c user sid nrc maxResponseSize effects).response.length ≤ 20 := by
  have three : 3 ≤ 20 := by decide
  exact three

theorem headed_length {bytes : Bytes} (short : bytes.length ≤ 17) (first second third : UInt8) (limit : Nat) :
    ((first :: second :: third :: bytes).take limit).length ≤ 20 := by
  refine Nat.le_trans (List.length_take_le' ..) ?_
  simp only [List.length_cons]
  omega

theorem dispatch_length (tabled : Tabled data)
    (ends : Uds.DispatchEnds Ecu.application c data request nowMs maxResponseSize outcome) : outcome.response.length ≤ 20 := by
  have empty : ([] : Bytes).length ≤ 20 := Nat.zero_le _
  cases ends with
  | control sid ends =>
    have answered : ∀ level suppress, (Uds.answerSessionChange level suppress maxResponseSize).2.length ≤ 20 := by
      intro level suppress
      cases suppress with
      | true => exact empty
      | false => exact (by decide : 6 ≤ 20)
    cases ends with
    | rejected => exact refuse_length _ _ _ _
    | toDefault | toExtended => exact answered _ _
  | reset sid ends =>
    cases ends with
    | rejected | failed => exact refuse_length _ _ _ _
    | reset => exact (by decide : 2 ≤ 20)
  | clear sid ends =>
    cases ends with
    | rejected | failed => exact refuse_length _ _ _ _
    | cleared => exact (by decide : 1 ≤ 20)
  | report sid ends =>
    cases ends with
    | rejected | failed => exact refuse_length _ _ _ _
    | noRoom => exact empty
    | reported dtcRead bytes next _ installed reads =>
      cases installed
      have short := readDtc_length tabled (byteAt request 2) (maxResponseSize - 3)
      rw [reads] at short
      exact headed_length (Nat.le_succ_of_le short) _ _ _ _
  | read sid ends =>
    cases ends with
    | rejected | failed => exact refuse_length _ _ _ _
    | noRoom => exact empty
    | read didRead bytes next _ installed reads =>
      cases installed
      have short := readDid_length (Uds.didOf request) (maxResponseSize - Uds.rdbiHeaderLen) data
      rw [reads] at short
      exact headed_length short _ _ _ _
  | access sid ends =>
    cases ends with
    | malformed | delayed | keyUnexpected | keyWrong | keyExceeded => exact refuse_length _ _ _ _
    | seedNoRoom => exact empty
    | seedZero | seedIssued => exact (by decide : 6 ≤ 20)
    | keyAccepted => exact (by decide : 2 ≤ 20)
  | present sid ends =>
    cases ends with
    | rejected => exact refuse_length _ _ _ _
    | silent | noRoom => exact empty
    | answered => exact (by decide : 2 ≤ 20)
  | unknown => exact refuse_length _ _ _ _

theorem request_length (tabled : Tabled data)
    (ends : Uds.RequestEnds Ecu.application c data request nowMs maxResponseSize outcome) : outcome.response.length ≤ 20 := by
  cases ends with
  | empty => exact Nat.zero_le _
  | unknown | outsideSession | denied => exact refuse_length _ _ _ _
  | dispatched _ _ _ _ ends => exact dispatch_length tabled ends

end

structure Sound (page : Page) : Prop where
  valid : Valid page.uds.ctx
  tabled : Tabled page.uds.user

theorem sound_ready {page : Page} (sound : page.ready = true → Sound page) : Sound (ensureReady page) := by
  unfold ensureReady
  split
  · exact ⟨Uds.valid_init, rfl⟩
  · rename_i warm
    exact sound (by simpa using warm)

theorem sound_step {page : Page} (sound : page.ready = true → Sound page) (call : Call) : Sound (step page call).1 := by
  cases call with
  | reset =>
    have cold : ({ page with ready := false } : Page).ready = true → Sound { page with ready := false } :=
      fun ready => Bool.noConfusion ready
    exact sound_ready cold
  | state => exact sound_ready sound
  | request hex =>
    obtain ⟨valid, tabled⟩ := sound_ready sound
    have handled := Uds.handleRequest_handled Ecu.application (ensureReady page).uds.ctx (ensureReady page).uds.user
      (parseHex hex 64) (ensureReady page).clock maxResponseSize
    have accounted : Uds.Accounted Ecu.application (ensureReady page).uds.user (handleRequest Ecu.application
        (ensureReady page).uds.ctx (ensureReady page).uds.user (parseHex hex 64) (ensureReady page).clock maxResponseSize) :=
      Uds.handleRequest_accounted Fuzz.onlyReads
    simp only [step, ahdgRequest]
    generalize handleRequest Ecu.application (ensureReady page).uds.ctx (ensureReady page).uds.user (parseHex hex 64)
      (ensureReady page).clock maxResponseSize = outcome at handled accounted ⊢
    refine ⟨(valid.poll _).handled handled, ?_⟩
    have kept := tabled.run outcome.effects
    rw [Uds.Accounted] at accounted
    rwa [← accounted] at kept

theorem request_view {page : Page} (sound : page.ready = true → Sound page) (hex : List Char) :
    let view := (ahdgRequest page hex).2
    view.verdict = .allow ∧ (parseHex view.response view.responseLen).length = view.responseLen := by
  obtain ⟨valid, tabled⟩ := sound_ready sound
  have lawful := Uds.lawful_request Ecu.application valid (ensureReady page).uds.user (parseHex hex 64)
    (ensureReady page).clock (by decide : 2 ≤ maxResponseSize)
  have short := request_length tabled (Uds.handleRequest_ends Ecu.application (ensureReady page).uds.ctx
    (ensureReady page).uds.user (parseHex hex 64) (ensureReady page).clock maxResponseSize)
  simp only [ahdgRequest]
  generalize handleRequest Ecu.application (ensureReady page).uds.ctx (ensureReady page).uds.user (parseHex hex 64)
    (ensureReady page).clock maxResponseSize = outcome at lawful short ⊢
  have passed : (if outcome.result = .ok then
      Fuzz.ahdgCheck (Fuzz.ahdgSnapshot (ensureReady page).uds.ctx) outcome.ctx .readDid outcome.response else -1) = -1 := by
    split
    · exact Fuzz.ahdgCheck_lawful lawful .readDid
    · rfl
  refine ⟨by rw [passed]; rfl, ?_⟩
  rw [parseHex_bytesToHex (by omega), List.take_length]

/-- Whatever is typed into the page, and however often it is reset: every request is
allowed, and the text of its response holds all the bytes its length says. -/
theorem page_requests_allowed (uds : Server Ecu.Data) (clock : UInt32) (calls : List Call) :
    ∀ view ∈ (trace step ⟨uds, clock, false⟩ calls).filterMap Event.output,
      view.verdict = .allow ∧ (parseHex view.response view.responseLen).length = view.responseLen := by
  have cold : (Page.mk uds clock false).ready = true → Sound ⟨uds, clock, false⟩ := nofun
  intro view member
  obtain ⟨e, run, shown⟩ := List.mem_filterMap.mp member
  obtain ⟨done, call, rest, -, rfl⟩ := mem_trace step run
  have sound : (final step ⟨uds, clock, false⟩ done).ready = true → Sound (final step ⟨uds, clock, false⟩ done) :=
    state_invariant step (fun page => page.ready = true → Sound page) cold
      (fun page call sound _ => sound_step sound call) done
  cases call with
  | reset | state => cases shown
  | request hex =>
    cases shown
    exact request_view sound hex

/-- The identification number, from a page just loaded. -/
theorem page_requests_allowed_vin :
    let view := (ahdgRequest ⟨.init .init, 0, false⟩ "22 F1 90".toList).2
    view.verdict = .allow ∧ (parseHex view.response view.responseLen).length = view.responseLen :=
  page_requests_allowed (.init .init) 0 [.request "22 F1 90".toList] _ (List.mem_singleton_self _)

end DiagnosticGateway.Client.Inspector
