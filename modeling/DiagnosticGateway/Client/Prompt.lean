import DiagnosticGateway.Client.Commands
import DiagnosticGateway.Ecu.Data
import DiagnosticGateway.Uds.Answers
import DiagnosticGateway.Uds.Invariant

/-! The prompt of the interactive client (`diagcli.c`) beside the server it talks to.

The prompt is what the responses have said. It never claims less than the server
grants; it claims more when the session has run out, and goes on doing so until it
shows the default session again.
-/

set_option autoImplicit false

namespace DiagnosticGateway.Client.Diagcli
open BigEndian Uds Readout Traces

/-- The assignments of `show_response`. -/
def State.assign (state : State) : Effect → State
  | .assign .session (.text name) => { state with session := name }
  | .assign .security (.text name) => { state with security := name }
  | .assign .lastSeed (.number value) => { state with lastSeed := value.toNat.toUInt32 }
  | .assign .haveSeed (.number value) => { state with haveSeed := value }
  | _ => state

def State.hear (state : State) (response : Bytes) : State :=
  replay State.assign (byteAt response) (showResponse response.length) state

abbrev Mute {A : Type} (memory : Nat → UInt8) (decoder : Decoder A) : Prop := Obeys (Silent State.assign) memory decoder

section
variable {memory : Nat → UInt8}

@[simp] theorem mute_print (format : String) (args : List Arg) : Mute memory (print format args) := by
  simp [print, State.assign]

@[simp] theorem mute_byte (index : Nat) : Mute memory (byte index) := by
  simp [byte]

@[simp] theorem mute_halfword (index : Nat) : Mute memory (halfword index) := by
  simp [halfword]

theorem mute_printHex (offset len : Nat) : Mute memory (printHex offset len) := obeys_loop fun index _ => by simp

theorem mute_printText (opening : String) (offset len : Nat) : Mute memory (printText opening offset len) := by
  have characters : Mute memory (loop len fun index => do
      let character ← byte (offset + index)
      print "%c" [character]) := obeys_loop fun index _ => by simp
  simp [printText, characters]

theorem mute_printCodes (format : String) (count : Nat) : Mute memory (printCodes format count) :=
  obeys_loop fun index _ => by simp

theorem mute_printQuantity {did : UInt16} {dataLen : Nat} {otherwise : Decoder Unit} (rest : Mute memory otherwise) :
    Mute memory (printQuantity did dataLen otherwise) := by
  simp only [printQuantity, Mute, obeys_ite, obeys_bind, mute_halfword, mute_byte, mute_print, and_true, implies_true,
    true_and]
  exact fun _ _ _ _ => rest

theorem mute_printable (dlen : Nat) : Mute memory (printable dlen) :=
  obeys_fold (fun index result _ _ => by simp [obeys_ite]) true

theorem mute_isNegative (len : Nat) : Mute memory (isNegative len) := by
  simp [isNegative]

theorem mute_showRefusal : Mute memory showRefusal := by
  simp [showRefusal]

theorem mute_dataLength (len : Nat) : Mute memory (dataLength len) := by
  simp [dataLength]

theorem mute_recordCount (len : Nat) : Mute memory (recordCount len) := by
  simp [recordCount]

theorem mute_showCodes (len : Nat) : Mute memory (showCodes len) := by
  rw [showCodes]
  split
  · refine (obeys_bind _ _).mpr ⟨mute_recordCount len, (obeys_bind _ _).mpr ⟨mute_print _ _, ?_⟩⟩
    exact mute_printCodes _ _
  · refine (obeys_bind _ _).mpr ⟨obeys_pure _, (obeys_bind _ _).mpr ⟨mute_print _ _, ?_⟩⟩
    exact mute_printCodes _ _

theorem mute_showData (len : Nat) : Mute memory (showData len) := by
  have quoted : ∀ readable dlen, Mute memory (if readable = true ∧ dlen > 0 then printText " = \"" 3 dlen else pure ()) :=
    fun readable dlen => (obeys_ite _ _).mpr ⟨fun _ => mute_printText _ _ _, fun _ => obeys_pure ()⟩
  simp only [showData, Mute, obeys_bind, mute_halfword, mute_dataLength, mute_print, mute_printHex, mute_printable,
    mute_printQuantity (quoted _ _), and_self]

/-- The first bytes that move the prompt. -/
def Telling (first : UInt8) : Prop := first = 0x50 ∨ first = 0x51 ∨ first = 0x67

instance (first : UInt8) : Decidable (Telling first) := inferInstanceAs (Decidable (_ ∨ _ ∨ _))

theorem mute_showPositive (len : Nat) (untold : ¬ Telling (memory 0)) : Mute memory (showPositive len) := by
  simp only [Telling, not_or] at untold
  simp only [showPositive, Mute, obeys_bind, obeys_read, silent_read, read_value, obeys_ite, untold.1, untold.2.1,
    untold.2.2, mute_print, mute_showCodes, mute_showData, false_implies, not_false_eq_true, implies_true, and_self]

theorem mute_showResponse (len : Nat) (untold : ¬ Telling (memory 0)) : Mute memory (showResponse len) := by
  simp only [showResponse, Mute, obeys_bind, obeys_ite, mute_print, mute_printHex, mute_isNegative, mute_showRefusal,
    mute_showPositive len untold, implies_true, and_self]

end

theorem hear_untold (state : State) {response : Bytes} (untold : ¬ Telling (byteAt response 0)) :
    state.hear response = state := replay_silent (mute_showResponse _ untold) state

theorem hear_told (state : State) {response : Bytes} (filled : response ≠ [])
    (told : Telling (byteAt response 0)) :
    state.hear response = replay State.assign (byteAt response) (showPositive response.length) state := by
  have positive : ¬ (isNegative response.length (byteAt response)).1 = true := by
    have known : byteAt response 0 ≠ negativeResponseSid := by
      intro negative
      rw [negative] at told
      exact absurd told (by decide)
    simp [isNegative, known]
  have bare : ∀ state, replay State.assign (byteAt response) (printHex 0 response.length) state = state :=
    replay_silent (mute_printHex _ _)
  have tested : ∀ state, replay State.assign (byteAt response) (isNegative response.length) state = state :=
    replay_silent (mute_isNegative _)
  rw [State.hear, showResponse]
  simp only [replay_bind, print, replay_effect, State.assign, bare, if_neg (List.length_eq_zero_iff.not.mpr filled), tested, if_neg positive]

theorem hear_sessionResponse (state : State) (session : Session) :
    state.hear (sessionResponse session) =
      if session = .extended then { state with session := "EXTENDED" }
      else { state with session := "DEFAULT", security := "LOCKED" } := by
  have filled : sessionResponse session ≠ [] := List.cons_ne_nil _ _
  rw [hear_told state filled (.inl rfl)]
  cases session <;> rfl

theorem hear_reset (state : State) (resetType : UInt8) :
    state.hear [sidEcuReset + positiveResponseOffset, resetType] =
      { state with session := "DEFAULT", security := "LOCKED" } := by
  have filled : [sidEcuReset + positiveResponseOffset, resetType] ≠ [] := List.cons_ne_nil _ _
  rw [hear_told state filled (.inr (.inl rfl))]
  rfl

theorem word_of_halves (seed : UInt32) :
    (((seed >>> 24).toUInt8.toNat <<< 8 ||| (seed >>> 16).toUInt8.toNat) <<< 16 |||
      ((seed >>> 8).toUInt8.toNat <<< 8 ||| seed.toUInt8.toNat)).toUInt32 = seed := by
  have small : ∀ byte : UInt8, byte.toNat < 2 ^ 8 := UInt8.toNat_lt
  have bound := seed.toNat_lt
  have low : ((seed >>> 8).toUInt8.toNat <<< 8 ||| seed.toUInt8.toNat) < 2 ^ 16 := by
    rw [← Nat.shiftLeft_add_eq_or_of_lt (small _), Nat.shiftLeft_eq]
    have high := small (seed >>> 8).toUInt8
    have rest := small seed.toUInt8
    omega
  rw [← Nat.shiftLeft_add_eq_or_of_lt low, ← Nat.shiftLeft_add_eq_or_of_lt (small _),
    ← Nat.shiftLeft_add_eq_or_of_lt (small _)]
  apply UInt32.toNat_inj.mp
  simp only [Nat.shiftLeft_eq, UInt32.toNat_toUInt8, UInt32.toNat_shiftRight, Nat.shiftRight_eq_div_pow,
    UInt32.reduceToNat, Nat.reduceMod]
  show _ % 2 ^ 32 = _
  omega

theorem hear_seedResponse (state : State) (seed : UInt32) :
    state.hear (seedResponse seed) = { state with lastSeed := seed, haveSeed := 1 } := by
  have filled : seedResponse seed ≠ [] := List.cons_ne_nil _ _
  have heard : state.hear (seedResponse seed) =
      { state with
        lastSeed := (((seed >>> 24).toUInt8.toNat <<< 8 ||| (seed >>> 16).toUInt8.toNat) <<< 16 |||
          ((seed >>> 8).toUInt8.toNat <<< 8 ||| seed.toUInt8.toNat)).toUInt32.toNat.toUInt32
        haveSeed := 1 } := by
    rw [hear_told state filled (.inr (.inr rfl))]
    rfl
  have whole : seed.toNat.toUInt32 = seed := UInt32.ofNat_toNat
  rw [heard, word_of_halves, whole]

theorem hear_keyAccepted (state : State) :
    state.hear [sidSecurityAccess + positiveResponseOffset, securitySendKey] = { state with security := "UNLOCKED" } := by
  have filled : [sidSecurityAccess + positiveResponseOffset, securitySendKey] ≠ [] := List.cons_ne_nil _ _
  rw [hear_told state filled (.inr (.inr rfl))]
  rfl

/-! ## The console

A client in front of a server. Lines are typed and the server is polled at any time; an
answer comes while the client waits for it, or is never seen.
-/

variable {σ : Type}

structure Console (σ : Type) where
  client : State
  server : Server σ

/-- `quit` ends a run, so no line comes behind it. -/
inductive Input where
  | line (text : List Char) (nowMs : UInt32) (heard : Bool)
  | poll (nowMs : UInt32)
  deriving DecidableEq, Repr

/-- `send_uds` and `diag_link_recv`: the server sends what it answers with `UDS_OK`. -/
def State.receive (state : State) (heard : Bool) (result : Result) (response : Bytes) : State :=
  if heard = true ∧ result = .ok then state.hear response else state

/-- One step; the output is the request. `advance` is what the main loop of the server
does to the data before a request (`ecu_data_tick`). -/
def step (app : Application σ) (advance : σ → σ) (console : Console σ) : Input → Console σ × Option Bytes
  | .poll nowMs => (⟨console.client, Uds.poll console.server.ctx nowMs, console.server.user⟩, none)
  | .line text nowMs heard =>
    match runLine console.client text with
    | .send payload =>
      let outcome :=
        handleRequest app console.server.ctx (advance console.server.user) payload nowMs maxResponseSize
      (⟨console.client.receive heard outcome.result outcome.response, outcome.ctx, outcome.user⟩, some payload)
    | _ => (console, none)

def Console.init (user : σ) (entropy : UInt32) : Console σ := ⟨.init, seedEntropy Uds.init entropy, user⟩

abbrev Turn (σ : Type) : Type := Event (Console σ) Input (Option Bytes)

def Moving (sid : UInt8) : Prop := sid = sidDiagnosticSessionControl ∨ sid = sidEcuReset ∨ sid = sidSecurityAccess

def Heard (e : Turn σ) : Prop :=
  ∀ text nowMs heard payload, e.action = .line text nowMs heard → e.output = some payload →
    Moving (byteAt payload 0) →
    heard = true ∧ (byteAt payload 0 = sidDiagnosticSessionControl → ¬ AsksSilence payload)

/-- The prompt claims all the server grants, and the client holds the seed that is
waited for. -/
structure Covers (client : State) (ctx : Context) : Prop where
  session : ctx.session ≠ .default → client.session = "EXTENDED"
  security : ctx.securityLevel ≠ .locked → client.security = "UNLOCKED"
  seed : ctx.seedPending = true → client.haveSeed ≠ 0 ∧ client.lastSeed = ctx.currentSeed
  fallen : client.session = "DEFAULT" → client.security = "LOCKED"

def sessionShown : Session → String
  | .extended => "EXTENDED"
  | _ => "DEFAULT"

def securityShown : SecurityLevel → String
  | .locked => "LOCKED"
  | .level1 => "UNLOCKED"

structure Exact (client : State) (ctx : Context) : Prop where
  session : client.session = sessionShown ctx.session
  security : client.security = securityShown ctx.securityLevel

section
variable {client : State} {c : Context} {heard : Bool}

theorem receive_untold {result : Result} {response : Bytes} (first : UInt8) (starts : byteAt response 0 = first)
    (untold : ¬ Telling first) : client.receive heard result response = client := by
  unfold State.receive
  split
  · exact hear_untold client (starts ▸ untold)
  · rfl

theorem receive_told {response : Bytes} (heard' : heard = true) :
    client.receive heard .ok response = client.hear response := if_pos ⟨heard', rfl⟩

theorem receive_refuse (ctx : Context) (user : σ) (sid nrc : UInt8) (effects : List Uds.Effect) :
    client.receive heard (Outcome.refuse ctx user sid nrc maxResponseSize effects).result
      (Outcome.refuse ctx user sid nrc maxResponseSize effects).response = client := by
  exact receive_untold negativeResponseSid rfl (by decide)

/-- What a request makes of the client and of the server, as far as the prompt goes. -/
inductive Moves (client : State) (c : Context) : State → Context → Prop where
  | still {ctx : Context} (session : ctx.session = c.session) (security : ctx.securityLevel = c.securityLevel)
      (seed : ctx.seedPending = true → c.seedPending = true ∧ ctx.currentSeed = c.currentSeed) : Moves client c client ctx
  | relocked {ctx : Context} (session : ctx.session = .default) (security : ctx.securityLevel = .locked)
      (idle : ctx.seedPending = false) : Moves client c { client with session := "DEFAULT", security := "LOCKED" } ctx
  | extended {ctx : Context} (session : ctx.session = .extended) (security : ctx.securityLevel = c.securityLevel)
      (seed : ctx.seedPending = true → c.seedPending = true ∧ ctx.currentSeed = c.currentSeed) :
      Moves client c { client with session := "EXTENDED" } ctx
  | seeded {ctx : Context} (seed : UInt32) (session : ctx.session = c.session)
      (security : ctx.securityLevel = c.securityLevel) (awaited : ctx.seedPending = true → ctx.currentSeed = seed) :
      Moves client c { client with lastSeed := seed, haveSeed := 1 } ctx
  | unlocked {ctx : Context} (privileged : c.session ≠ .default) (session : ctx.session = c.session)
      (security : ctx.securityLevel = .level1) (idle : ctx.seedPending = false) :
      Moves client c { client with security := "UNLOCKED" } ctx

variable {app : Application σ} {user : σ} {request : Bytes} {nowMs : UInt32} {outcome : Outcome σ}

theorem sessionControl_moves (ends : SessionControlEnds (c.touch nowMs) user request maxResponseSize outcome)
    (told : heard = true) (audible : ¬ AsksSilence request) :
    Moves client c (client.receive heard outcome.result outcome.response) outcome.ctx := by
  have plain : decide (byteAt request 1 &&& suppressPosRspBit ≠ 0) = false := decide_eq_false audible
  cases ends with
  | rejected nrc =>
    rw [receive_refuse]
    exact .still rfl rfl fun pending => ⟨pending, rfl⟩
  | toDefault =>
    rw [plain, answerSessionChange_positive .default (by decide)]
    dsimp only [Outcome.reply]
    rw [receive_told told, hear_sessionResponse]
    exact .relocked rfl rfl rfl
  | toExtended =>
    rw [plain, answerSessionChange_positive .extended (by decide)]
    dsimp only [Outcome.reply]
    rw [receive_told told, hear_sessionResponse]
    exact .extended rfl rfl fun pending => ⟨pending, rfl⟩

theorem securityAccess_moves (ends : SecurityAccessEnds (c.touch nowMs) user request nowMs maxResponseSize outcome)
    (told : heard = true) (privileged : c.session ≠ .default) :
    Moves client c (client.receive heard outcome.result outcome.response) outcome.ctx := by
  cases ends with
  | malformed | delayed | keyUnexpected =>
    rw [receive_refuse]
    exact .still rfl rfl fun pending => ⟨pending, rfl⟩
  | keyWrong | keyExceeded =>
    rw [receive_refuse]
    exact .still rfl rfl nofun
  | seedNoRoom _ _ small => exact absurd small (by decide)
  | seedZero =>
    dsimp only [Outcome.reply]
    rw [receive_told told, hear_seedResponse]
    exact .seeded 0 rfl rfl nofun
  | seedIssued =>
    dsimp only [Outcome.reply]
    rw [receive_told told, hear_seedResponse]
    exact .seeded _ rfl rfl fun _ => rfl
  | keyAccepted =>
    dsimp only [Outcome.reply]
    rw [if_neg (by decide), receive_told told, hear_keyAccepted]
    exact .unlocked privileged rfl rfl rfl

theorem ecuReset_moves (ends : EcuResetEnds app (c.touch nowMs) user request maxResponseSize outcome)
    (told : heard = true) : Moves client c (client.receive heard outcome.result outcome.response) outcome.ctx := by
  cases ends with
  | rejected | failed =>
    rw [receive_refuse]
    exact .still rfl rfl fun pending => ⟨pending, rfl⟩
  | reset =>
    dsimp only [Outcome.reply]
    rw [if_neg (by decide), receive_told told, hear_reset]
    exact .relocked rfl rfl rfl

theorem still_touch {ctx : Context} (same : ctx = c.touch nowMs) {result : Result} {response : Bytes} (first : UInt8)
    (starts : byteAt response 0 = first) (untold : ¬ Telling first) :
    Moves client c (client.receive heard result response) ctx := by
  rw [receive_untold first starts untold, same]
  exact .still rfl rfl fun pending => ⟨pending, rfl⟩

theorem still_cut {ctx : Context} (same : ctx = c.touch nowMs) {result : Result} {first : UInt8} (rest : Bytes) (size : Nat)
    (untold : ¬ Telling first) : Moves client c (client.receive heard result ((first :: rest).take size)) ctx := by
  cases size with
  | zero => exact still_touch same 0 rfl (by decide)
  | succ size => exact still_touch same first rfl untold

theorem dispatch_moves (ends : DispatchEnds app (c.touch nowMs) user request nowMs maxResponseSize outcome)
    (told : Moving (byteAt request 0) → heard = true ∧
      (byteAt request 0 = sidDiagnosticSessionControl → ¬ AsksSilence request))
    (session : NeedsExtended (byteAt request 0) → c.session ≠ .default) :
    Moves client c (client.receive heard outcome.result outcome.response) outcome.ctx := by
  have refused : ¬ Telling negativeResponseSid := by decide
  have silent : ¬ Telling 0 := by decide
  cases ends with
  | control sid ends => exact sessionControl_moves ends (told (.inl sid)).1 ((told (.inl sid)).2 sid)
  | reset sid ends => exact ecuReset_moves ends (told (.inr (.inl sid))).1
  | access sid ends => exact securityAccess_moves ends (told (.inr (.inr sid))).1 (session (.inl sid))
  | clear sid ends =>
    cases ends with
    | rejected | failed => exact still_touch rfl _ rfl refused
    | cleared => exact still_touch rfl 0x54 rfl (by decide)
  | report sid ends =>
    cases ends with
    | rejected | failed => exact still_touch rfl _ rfl refused
    | noRoom => exact still_touch rfl 0 rfl silent
    | reported => exact still_cut rfl _ _ (by decide)
  | read sid ends =>
    cases ends with
    | rejected | failed => exact still_touch rfl _ rfl refused
    | noRoom => exact still_touch rfl 0 rfl silent
    | read => exact still_cut rfl _ _ (by decide)
  | present sid ends =>
    cases ends with
    | rejected => exact still_touch rfl _ rfl refused
    | silent | noRoom => exact still_touch rfl 0 rfl silent
    | answered => exact still_touch rfl 0x7E rfl (by decide)
  | unknown => exact still_touch rfl _ rfl refused

theorem request_moves (ends : RequestEnds app c user request nowMs maxResponseSize outcome)
    (told : Moving (byteAt request 0) → heard = true ∧
      (byteAt request 0 = sidDiagnosticSessionControl → ¬ AsksSilence request)) :
    Moves client c (client.receive heard outcome.result outcome.response) outcome.ctx := by
  cases ends with
  | empty =>
    rw [receive_untold 0 rfl (by decide)]
    exact .still rfl rfl fun pending => ⟨pending, rfl⟩
  | unknown | outsideSession | denied =>
    rw [receive_refuse]
    exact .still rfl rfl fun pending => ⟨pending, rfl⟩
  | dispatched _ _ session _ ends => exact dispatch_moves ends told session

end

section
variable {client next : State} {c ctx : Context}

theorem Covers.exact (covers : Covers client c) (shown : client.session = "DEFAULT") : Exact client c := by
  have session : c.session = .default := by
    by_contra privileged
    rw [covers.session privileged] at shown
    exact absurd shown (by decide)
  have security : c.securityLevel = .locked := by
    by_contra unlocked
    have locked := covers.fallen shown
    rw [covers.security unlocked] at locked
    exact absurd locked (by decide)
  exact ⟨by rw [shown, session]; rfl, by rw [covers.fallen shown, security]; rfl⟩

theorem Covers.poll (covers : Covers client c) (nowMs : UInt32) : Covers client (Uds.poll c nowMs) := by
  by_cases expired : Expired c nowMs
  · rw [poll_expired expired]
    exact ⟨fun privileged => absurd rfl privileged, fun unlocked => absurd rfl unlocked, nofun, covers.fallen⟩
  · rw [poll_alive expired]
    exact ⟨by simpa using covers.session, by simpa using covers.security, by simpa using covers.seed, covers.fallen⟩

theorem Covers.moves (covers : Covers client c) (moves : Moves client c next ctx) : Covers next ctx := by
  cases moves with
  | still session security seed =>
    refine ⟨session ▸ covers.session, security ▸ covers.security, fun pending => ?_, covers.fallen⟩
    obtain ⟨before, same⟩ := seed pending
    exact same ▸ covers.seed before
  | relocked session security idle =>
    exact ⟨fun privileged => absurd session privileged, fun unlocked => absurd security unlocked,
      fun pending => absurd (idle.symm.trans pending) (by decide), fun _ => rfl⟩
  | extended session security seed =>
    have other : "EXTENDED" ≠ "DEFAULT" := by decide
    refine ⟨fun _ => rfl, security ▸ covers.security, fun pending => ?_, fun shown => absurd shown other⟩
    obtain ⟨before, same⟩ := seed pending
    exact same ▸ covers.seed before
  | seeded seed session security awaited =>
    exact ⟨session ▸ covers.session, security ▸ covers.security,
      fun pending => ⟨Int.one_ne_zero, (awaited pending).symm⟩, covers.fallen⟩
  | unlocked privileged session security idle =>
    refine ⟨session ▸ covers.session, fun _ => rfl, fun pending => absurd (idle.symm.trans pending) (by decide), ?_⟩
    intro shown
    exact absurd ((covers.session privileged).symm.trans shown) (by decide)

theorem Exact.poll (exact : Exact client c) {nowMs : UInt32} (alive : ¬ Expired c nowMs) :
    Exact client (Uds.poll c nowMs) := by
  rw [poll_alive alive]
  exact ⟨by simpa using exact.session, by simpa using exact.security⟩

theorem Exact.moves (exact : Exact client c) (moves : Moves client c next ctx) : Exact next ctx := by
  cases moves with
  | still session security => exact ⟨session ▸ exact.session, security ▸ exact.security⟩
  | relocked session security =>
    exact ⟨by rw [session]; rfl, by rw [security]; rfl⟩
  | extended session security => exact ⟨by rw [session]; rfl, security ▸ exact.security⟩
  | seeded _ session security => exact ⟨session ▸ exact.session, security ▸ exact.security⟩
  | unlocked _ session security => exact ⟨session ▸ exact.session, by rw [security]; rfl⟩

end

variable {app : Application σ} {advance : σ → σ}

theorem step_line (app : Application σ) (advance : σ → σ) (console : Console σ) (text : List Char) (nowMs : UInt32) (heard : Bool) :
    step app advance console (.line text nowMs heard) = (console, none) ∨
      ∃ payload, runLine console.client text = .send payload ∧
        let outcome :=
          handleRequest app console.server.ctx (advance console.server.user) payload nowMs maxResponseSize
        step app advance console (.line text nowMs heard) =
          (⟨console.client.receive heard outcome.result outcome.response, outcome.ctx, outcome.user⟩, some payload) := by
  cases sent : runLine console.client text with
  | send payload => exact .inr ⟨payload, rfl, by rw [step, sent]⟩
  | _ => exact .inl (by rw [step, sent])

def polledAt (e : Turn σ) : Option UInt32 :=
  match e.action with
  | .poll nowMs => some nowMs
  | .line _ nowMs _ => if e.output.isSome then some nowMs else none

def Lapses (e : Turn σ) : Prop := ∃ nowMs, polledAt e = some nowMs ∧ Expired e.before.server.ctx nowMs

/-- What a run of heard answers keeps. -/
structure Followed (past : List (Turn σ)) (console : Console σ) : Prop where
  valid : Valid console.server.ctx
  covers : Covers console.client console.server.ctx
  lapsed : ¬ Exact console.client console.server.ctx →
    Since (fun e => e.after.client.session ≠ "DEFAULT") (fun _ e => Lapses e) past

theorem followed_init (user : σ) (entropy : UInt32) : Followed [] (.init user entropy) where
  valid := valid_init.seedEntropy entropy
  covers := ⟨fun privileged => absurd rfl privileged, fun unlocked => absurd rfl unlocked, nofun, fun _ => rfl⟩
  lapsed := fun wrong => absurd ⟨rfl, rfl⟩ wrong

theorem Followed.polled {past : List (Turn σ)} {console : Console σ} (followed : Followed past console) (input : Input)
    {nowMs : UInt32} (polls : polledAt (event (step app advance) console input) = some nowMs)
    (valid : Valid (step app advance console input).1.server.ctx)
    (moves : Moves console.client (Uds.poll console.server.ctx nowMs) (step app advance console input).1.client
      (step app advance console input).1.server.ctx) :
    Followed (past ++ [event (step app advance) console input]) (step app advance console input).1 := by
  have covers := (followed.covers.poll nowMs).moves moves
  refine ⟨valid, covers, fun wrong => ?_⟩
  by_cases expired : Expired console.server.ctx nowMs
  · exact .now ⟨nowMs, polls, expired⟩
  · refine (followed.lapsed fun exact => wrong ((exact.poll expired).moves moves)).step ?_
    exact fun shown => wrong (covers.exact shown)

theorem Followed.step {past : List (Turn σ)} {console : Console σ} (followed : Followed past console) (input : Input)
    (told : Heard (event (step app advance) console input)) :
    Followed (past ++ [event (step app advance) console input]) (step app advance console input).1 := by
  cases input with
  | poll nowMs =>
    exact followed.polled (.poll nowMs) rfl (followed.valid.poll nowMs) (.still rfl rfl fun pending => ⟨pending, rfl⟩)
  | line text nowMs heard =>
    rcases step_line app advance console text nowMs heard with same | ⟨payload, sends, same⟩
    · have after : (Diagcli.step app advance console (.line text nowMs heard)).1 = console := by rw [same]
      rw [after]
      refine ⟨followed.valid, followed.covers, fun wrong => (followed.lapsed wrong).step fun shown => ?_⟩
      exact wrong (followed.covers.exact (after ▸ shown))
    · have valid := (followed.valid.poll nowMs).handled
        (handleRequest_handled app console.server.ctx (advance console.server.user) payload nowMs maxResponseSize)
      have ends := handleRequest_ends app console.server.ctx (advance console.server.user) payload nowMs maxResponseSize
      have told := told text nowMs heard payload rfl (congrArg Prod.snd same)
      refine followed.polled (.line text nowMs heard) ?_ (by rw [same]; exact valid) (by rw [same]; exact request_moves ends told)
      change (if (Diagcli.step app advance console (.line text nowMs heard)).2.isSome then some nowMs else none) = _
      rw [same]
      rfl

/-- No request is spelled out byte by byte, and every answer comes. -/
def Input.Named : Input → Prop
  | .poll _ => True
  | .line text _ heard => heard = true ∧ (split argvMax text).head? ≠ some "raw"

def Input.Keyless : Input → Prop
  | .poll _ => True
  | .line text _ _ => (split argvMax text).head? = some "key" → (split argvMax text).length = 1

instance : DecidablePred Input.Named
  | .poll _ => inferInstanceAs (Decidable True)
  | .line _ _ _ => inferInstanceAs (Decidable (_ ∧ _))

instance : DecidablePred Input.Keyless
  | .poll _ => inferInstanceAs (Decidable True)
  | .line _ _ _ => inferInstanceAs (Decidable (_ → _))

theorem runLine_named {good : Bytes → Prop} {state : State} {text : List Char} {payload : Bytes}
    (sends : runLine state text = .send payload) (named : (split argvMax text).head? ≠ some "raw")
    (session : ∀ args, good (sessionCommand args))
    (read : ∀ did : UInt16, good [sidReadDataByIdentifier, (did >>> 8).toUInt8, did.toUInt8])
    (fixed : ∀ payload ∈ fixedRequests, good payload)
    (key : ∀ args, split argvMax text = "key" :: args → (keyCommand state args).Sends good) : good payload := by
  unfold runLine at sends
  split at sends
  · cases sends
  · cases words : split argvMax text with
    | nil =>
      rw [words] at sends
      cases sends
    | cons name args =>
      rw [words] at sends named
      refine execute_sends (session args) (readCommand_sends args read) fixed (fun same => ?_) (fun same => ?_) payload sends
      · exact key args (by rw [words, same])
      · exact absurd (congrArg some same) named

theorem heard_of_named (app : Application σ) (advance : σ → σ) (console : Console σ) {input : Input} (named : input.Named) :
    Heard (event (step app advance) console input) := by
  intro text nowMs heard payload typed output moving
  cases typed
  refine ⟨named.1, ?_⟩
  rcases step_line app advance console text nowMs heard with same | ⟨sent, sends, same⟩
  · exact absurd ((congrArg Prod.snd same).symm.trans output) nofun
  · obtain rfl : sent = payload := Option.some.inj ((congrArg Prod.snd same).symm.trans output)
    have read : sidReadDataByIdentifier ≠ sidDiagnosticSessionControl := by decide
    have access : sidSecurityAccess ≠ sidDiagnosticSessionControl := by decide
    refine @runLine_named (fun request => byteAt request 0 = sidDiagnosticSessionControl → ¬ AsksSilence request) _ _ _ sends
      named.2 (fun args _ => ?_) (fun _ sid => absurd sid read) (by decide) fun args _ => ?_
    · have plain : ∀ level : UInt8, level = 0x03 ∨ level = 0x02 ∨ level = 0x01 → ¬ AsksSilence [0x10, level] := by
        rintro level (rfl | rfl | rfl) <;> decide
      refine plain _ ?_
      split
      · exact .inl rfl
      · split
        · exact .inr (.inl rfl)
        · exact .inr (.inr rfl)
    · unfold keyCommand
      split
      · exact sends_send fun sid => absurd sid access
      · exact sends_ite (fun _ => sends_send fun sid => absurd sid access) nofun

theorem keyOf_named {state : State} {text : List Char} {payload : Bytes} (sends : runLine state text = .send payload)
    (named : (split argvMax text).head? ≠ some "raw")
    (keyless : (split argvMax text).head? = some "key" → (split argvMax text).length = 1) (key : IsKey payload) : keyOf payload = demoKeyFromSeed state.lastSeed := by
  have read : sidReadDataByIdentifier ≠ sidSecurityAccess := by decide
  have control : sidDiagnosticSessionControl ≠ sidSecurityAccess := by decide
  refine @runLine_named (fun request => IsKey request → keyOf request = demoKeyFromSeed state.lastSeed) _ _ _ sends named
    (fun _ key => absurd key.2.1 control) (fun _ key => absurd key.2.1 read) ?_ (fun args words => ?_) key
  · intro request member key
    have none : ∀ request ∈ fixedRequests, ¬ IsKey request := by decide
    exact absurd key (none request member)
  · cases args with
    | cons given rest =>
      rw [words] at keyless
      exact absurd (keyless rfl) (by simp)
    | nil => exact sends_ite (fun _ => sends_send fun _ => (key_of_writeWord _).2) nofun

/-- No attempt is spent. -/
def Unspent (ctx : Context) : Prop := ctx.failedAttempts = 0 ∧ ctx.lockedOut = false

theorem Unspent.poll {c : Context} (unspent : Unspent c) (nowMs : UInt32) : Unspent (Uds.poll c nowMs) := by
  have same : pollLockout c nowMs = c := by
    rw [pollLockout, if_neg fun out => absurd (unspent.2.symm.trans out.1) (by decide)]
  by_cases expired : Expired c nowMs
  · rw [poll_expired expired, same]
    exact unspent
  · rw [poll_alive expired, same]
    exact unspent

theorem Unspent.handled {c : Context} {user : σ} {request : Bytes} {nowMs : UInt32} {capacity : Nat} {outcome : Outcome σ}
    (unspent : Unspent c) (handled : Handled app c user request nowMs capacity outcome)
    (right : IsKey request → c.seedPending = true → keyOf request = demoKeyFromSeed c.currentSeed) :
    Unspent outcome.ctx := by
  cases handled with
  | keyWrong key _ _ pending wrong => exact absurd (right key pending) wrong
  | keyExceeded key _ _ pending wrong => exact absurd (right key pending) wrong
  | keyAccepted _ _ free => exact ⟨rfl, free⟩
  | _ => exact unspent

theorem Followed.unspent {past : List (Turn σ)} {console : Console σ} (followed : Followed past console)
    (unspent : Unspent console.server.ctx) {input : Input} (named : input.Named) (keyless : input.Keyless) :
    Unspent (Diagcli.step app advance console input).1.server.ctx := by
  cases input with
  | poll nowMs => exact unspent.poll nowMs
  | line text nowMs heard =>
    rcases step_line app advance console text nowMs heard with same | ⟨payload, sends, same⟩
    · rw [same]
      exact unspent
    · rw [same]
      refine (unspent.poll nowMs).handled (handleRequest_handled app _ _ _ _ _) fun key pending => ?_
      obtain ⟨-, held⟩ := (followed.covers.poll nowMs).seed pending
      rw [keyOf_named sends named.2 keyless key, held]

section
variable (app : Application σ) (advance : σ → σ) (user : σ) (entropy : UInt32) (inputs : List Input)

theorem run_followed (told : ∀ e ∈ trace (step app advance) (.init user entropy) inputs, Heard e) :
    Followed (trace (step app advance) (.init user entropy) inputs)
      (final (step app advance) (.init user entropy) inputs) :=
  guarded_run (step app advance) (fun _ => Heard) Followed (followed_init user entropy)
    (fun _ _ input followed told => followed.step input told) inputs ((allEvents_forall _ _).mpr told)

variable {inputs} in
theorem run_heard (named : ∀ input ∈ inputs, input.Named) :
    ∀ e ∈ trace (step app advance) (.init user entropy) inputs, Heard e := by
  intro e member
  have typed := List.mem_map_of_mem (f := Event.action) member
  rw [trace_actions] at typed
  rw [eq_event_of_mem (step app advance) member]
  exact heard_of_named app advance e.before (named _ typed)

/-- The prompt never claims less than the server grants. Where it claims more, the
session has run out, and the prompt has not shown the default session since. -/
theorem prompt_followed (told : ∀ e ∈ trace (step app advance) (.init user entropy) inputs, Heard e) :
    let console := final (step app advance) (.init user entropy) inputs
    (console.server.ctx.session ≠ .default → console.client.session = "EXTENDED") ∧
      (console.server.ctx.securityLevel ≠ .locked → console.client.security = "UNLOCKED") ∧
      (¬ Exact console.client console.server.ctx → Since (fun e => e.after.client.session ≠ "DEFAULT")
        (fun _ e => Lapses e) (trace (step app advance) (.init user entropy) inputs)) :=
  have followed := run_followed app advance user entropy inputs told
  ⟨followed.covers.session, followed.covers.security, followed.lapsed⟩

def unlockThen (tail : List Input) : List Input :=
  [.line "session extended".toList 10 true, .line "seed".toList 20 true, .line "key".toList 30 true] ++ tail

/-- S3server runs out behind it, and the prompt is wrong. -/
theorem prompt_followed_lapsed :
    let run := trace (step Ecu.application Ecu.tick) (.init .init 7) (unlockThen [.poll 5030])
    let console := final (step Ecu.application Ecu.tick) (.init .init 7) (unlockThen [.poll 5030])
    (console.server.ctx.session ≠ .default → console.client.session = "EXTENDED") ∧
      (console.server.ctx.securityLevel ≠ .locked → console.client.security = "UNLOCKED") ∧
      (¬ Exact console.client console.server.ctx →
        Since (fun e => e.after.client.session ≠ "DEFAULT") (fun _ e => Lapses e) run) :=
  prompt_followed Ecu.application Ecu.tick .init 7 (unlockThen [.poll 5030])
    (run_heard Ecu.application Ecu.tick .init 7 (by decide))

/-- Whoever types neither `raw` nor a key, and sees all answers, is never locked out,
at whatever times the lines come. -/
theorem named_commands_unspent (named : ∀ input ∈ inputs, input.Named) (keyless : ∀ input ∈ inputs, input.Keyless) :
    let ctx := (final (step app advance) (.init user entropy) inputs).server.ctx
    ctx.failedAttempts = 0 ∧ ctx.lockedOut = false := by
  -- From the end: the client has followed all the lines before.
  induction inputs using List.reverseRecOn with
  | nil => exact ⟨rfl, rfl⟩
  | append_singleton inputs input ih =>
    have earlier : ∀ other ∈ inputs, other ∈ inputs ++ [input] := fun other member => List.mem_append_left _ member
    have last : input ∈ inputs ++ [input] := List.mem_append_right _ (List.mem_singleton_self input)
    have followed := run_followed app advance user entropy inputs
      (run_heard app advance user entropy fun other member => named other (earlier other member))
    have unspent := ih (fun other member => named other (earlier other member))
      fun other member => keyless other (earlier other member)
    rw [final_concat]
    exact followed.unspent unspent (named input last) (keyless input last)

theorem named_commands_unspent_once :
    let ctx := (final (step Ecu.application Ecu.tick) (.init .init 7) (unlockThen [.line "reset".toList 40 true])).server.ctx
    ctx.failedAttempts = 0 ∧ ctx.lockedOut = false :=
  named_commands_unspent Ecu.application Ecu.tick .init 7 (unlockThen [.line "reset".toList 40 true]) (by decide) (by decide)

/-- While a seed is awaited, `key` alone unlocks the server, and the prompt says so. -/
theorem key_unlocks (told : ∀ e ∈ trace (step app advance) (.init user entropy) inputs, Heard e) (nowMs : UInt32)
    (pending : (Uds.poll (final (step app advance) (.init user entropy) inputs).server.ctx nowMs).seedPending = true) :
    let console := (step app advance (final (step app advance) (.init user entropy) inputs)
      (.line ['k', 'e', 'y'] nowMs true)).1
    console.server.ctx.securityLevel = .level1 ∧ console.client.session = "EXTENDED" ∧
      console.client.security = "UNLOCKED" := by
  have followed := run_followed app advance user entropy inputs told
  generalize final (step app advance) (.init user entropy) inputs = console at followed pending ⊢
  have valid := followed.valid.poll nowMs
  have covers := followed.covers.poll nowMs
  obtain ⟨have', held⟩ := covers.seed pending
  have privileged := valid.privileged (.inr pending)
  have types : runLine console.client ['k', 'e', 'y'] =
      .send ([sidSecurityAccess, securitySendKey] ++ writeWord (demoKeyFromSeed console.client.lastSeed)) := by
    have words : split argvMax ['k', 'e', 'y'] = ["key"] := by decide
    have typed : ¬ ((['k', 'e', 'y'] : List Char).head? = none ∨ (['k', 'e', 'y'] : List Char).head? = some '#') := by decide
    rw [runLine, if_neg typed, words]
    simp only [execute, String.reduceEq, or_self, if_false, if_true]
    rw [keyCommand, if_pos have']
  obtain ⟨key, right⟩ := key_of_writeWord (demoKeyFromSeed console.client.lastSeed)
  have accepts : AcceptsKey (Uds.poll console.server.ctx nowMs)
      ([sidSecurityAccess, securitySendKey] ++ writeWord (demoKeyFromSeed console.client.lastSeed)) :=
    ⟨key, privileged, (valid.pendingLocked pending).2, pending, by rw [← held]; exact right⟩
  simp only [step, types]
  rw [handleRequest_key app _ accepts (by decide)]
  dsimp only [Outcome.reply]
  rw [receive_told rfl, hear_keyAccepted]
  exact ⟨rfl, covers.session privileged, rfl⟩

theorem key_unlocks_seeded :
    let console := (step Ecu.application Ecu.tick (final (step Ecu.application Ecu.tick) (.init .init 7)
      [.line "session extended".toList 10 true, .line "seed".toList 20 true]) (.line ['k', 'e', 'y'] 30 true)).1
    console.server.ctx.securityLevel = .level1 ∧ console.client.session = "EXTENDED" ∧
      console.client.security = "UNLOCKED" :=
  key_unlocks Ecu.application Ecu.tick .init 7 [.line "session extended".toList 10 true, .line "seed".toList 20 true]
    (run_heard Ecu.application Ecu.tick .init 7 (by decide)) 30 (by decide)

end

end DiagnosticGateway.Client.Diagcli
