import DiagnosticGateway.Gateway.Loop
import DiagnosticGateway.Isotp.Frame

/-! Requests and responses on the trusted link of `gateway_main.c`.

The loop waits `ECU_TIMEOUT_MS` for the response to the request it has just
forwarded. Nothing in a response names its request, so it takes the first message
that comes, and an ECU that is later than that is heard under the next request.
-/

set_option autoImplicit false

namespace DiagnosticGateway.Pairing
open BigEndian Gateway Traces

abbrev ecuTimeoutMs : UInt32 := 1000

/-- Where the loop stands: in `diag_link_poll` on the external link, or on the
trusted one in `diag_link_send` or `diag_link_recv` for a given request. -/
inductive Phase where
  | polling
  | sending (number : Nat) (request : Bytes)
  | receiving (number : Nat) (startMs : UInt32)
  deriving DecidableEq, Repr

structure Answer where
  number : Nat
  response : Bytes
  deriving DecidableEq, Repr

/-- The requests are numbered as they are admitted. `pending` are those the ECU
has not dealt with and `inbox` the responses not read yet, oldest first. -/
structure Network where
  gateway : Gateway
  phase : Phase
  admitted : Nat
  pending : List Nat
  inbox : List Answer
  deriving DecidableEq, Repr

inductive Polled where
  | error
  | nothing
  | message
  deriving DecidableEq, Repr

inductive Action where
  | request (bytes : Bytes) (nowMs : UInt32)
  | sendTurn
  | sent (ok delivered : Bool) (startMs : UInt32)
  | recvTurn (polled : Polled) (laterMs : UInt32)
  | ecuAnswers (response : Bytes)
  | ecuSilent
  deriving DecidableEq, Repr

namespace Network

def init : Network where
  gateway := .init
  phase := .polling
  admitted := 0
  pending := []
  inbox := []

variable (n : Network)

def request (bytes : Bytes) (nowMs : UInt32) : Network :=
  match n.phase with
  | .polling =>
    let decision := n.gateway.gwAdmit bytes nowMs
    match decision.verdict with
    | .allow =>
      { n with gateway := decision.gateway, phase := .sending n.admitted bytes, admitted := n.admitted + 1 }
    | .drop => { n with gateway := decision.gateway }
  | .sending _ _ | .receiving _ _ => n

/-- A turn of `diag_link_send` that completes a message, which it ignores. Only a
request in several frames takes such turns. -/
def sendTurn : Network :=
  match n.phase with
  | .sending _ request => if Isotp.sfMaxPayload.toNat < request.length then { n with inbox := n.inbox.tail } else n
  | .polling | .receiving _ _ => n

/-- `diag_link_send` returns. Also one that fails may have delivered the request. -/
def sent (ok delivered : Bool) (startMs : UInt32) : Network :=
  match n.phase with
  | .sending number _ =>
    { n with
      phase := if ok then .receiving number startMs else .polling
      pending := if delivered then n.pending ++ [number] else n.pending }
  | .polling | .receiving _ _ => n

def recvTurn (polled : Polled) (laterMs : UInt32) : Network × Option Answer :=
  match n.phase with
  | .receiving _ startMs =>
    match polled, n.inbox with
    | .error, _ => ({ n with phase := .polling }, none)
    | .message, answer :: rest =>
      ({ n with gateway := n.gateway.observeResponse answer.response, phase := .polling, inbox := rest }, some answer)
    | .message, [] | .nothing, _ =>
      (if laterMs - startMs ≥ ecuTimeoutMs then { n with phase := .polling } else n, none)
  | .polling | .sending _ _ => (n, none)

def ecuAnswers (response : Bytes) : Network :=
  match n.pending with
  | [] => n
  | number :: rest => { n with pending := rest, inbox := n.inbox ++ [⟨number, response⟩] }

end Network

def step (n : Network) : Action → Network × Option Answer
  | .request bytes nowMs => (n.request bytes nowMs, none)
  | .sendTurn => (n.sendTurn, none)
  | .sent ok delivered startMs => (n.sent ok delivered startMs, none)
  | .recvTurn polled laterMs => n.recvTurn polled laterMs
  | .ecuAnswers response => (n.ecuAnswers response, none)
  | .ecuSilent => ({ n with pending := n.pending.tail }, none)

abbrev Step : Type := Event Network Action (Option Answer)

inductive Stepped (n : Network) : Action → Network × Option Answer → Prop where
  | idle {action : Action} : Stepped n action (n, none)
  | dropped {bytes : Bytes} {nowMs : UInt32} : n.phase = .polling →
      (n.gateway.gwAdmit bytes nowMs).verdict = .drop →
      Stepped n (.request bytes nowMs) ({ n with gateway := (n.gateway.gwAdmit bytes nowMs).gateway }, none)
  | admitted {bytes : Bytes} {nowMs : UInt32} : n.phase = .polling →
      (n.gateway.gwAdmit bytes nowMs).verdict = .allow →
      Stepped n (.request bytes nowMs)
        ({ n with
          gateway := (n.gateway.gwAdmit bytes nowMs).gateway
          phase := .sending n.admitted bytes
          admitted := n.admitted + 1 }, none)
  | ignored : Stepped n .sendTurn ({ n with inbox := n.inbox.tail }, none)
  | sent {number : Nat} {request : Bytes} {ok delivered : Bool} {startMs : UInt32} : n.phase = .sending number request →
      Stepped n (.sent ok delivered startMs)
        ({ n with
          phase := if ok then .receiving number startMs else .polling
          pending := if delivered then n.pending ++ [number] else n.pending }, none)
  -- On an error of the link, or when the time is over.
  | gaveUp {number : Nat} {startMs laterMs : UInt32} {polled : Polled} : n.phase = .receiving number startMs →
      Stepped n (.recvTurn polled laterMs) ({ n with phase := .polling }, none)
  | relayed {number : Nat} {startMs laterMs : UInt32} {answer : Answer} {rest : List Answer} :
      n.phase = .receiving number startMs → n.inbox = answer :: rest →
      Stepped n (.recvTurn .message laterMs)
        ({ n with gateway := n.gateway.observeResponse answer.response, phase := .polling, inbox := rest }, some answer)
  | answered {response : Bytes} {number : Nat} {rest : List Nat} : n.pending = number :: rest →
      Stepped n (.ecuAnswers response) ({ n with pending := rest, inbox := n.inbox ++ [⟨number, response⟩] }, none)
  | silent : Stepped n .ecuSilent ({ n with pending := n.pending.tail }, none)

theorem step_stepped (n : Network) (action : Action) : Stepped n action (step n action) := by
  cases action with
  | request bytes nowMs =>
    cases phase : n.phase with
    | polling =>
      cases verdict : (n.gateway.gwAdmit bytes nowMs).verdict with
      | allow => simpa only [step, Network.request, phase, verdict] using Stepped.admitted phase verdict
      | drop => simpa only [step, Network.request, phase, verdict] using Stepped.dropped phase verdict
    | sending | receiving => simpa only [step, Network.request, phase] using Stepped.idle
  | sendTurn =>
    simp only [step, Network.sendTurn]
    split
    · split
      · exact .ignored
      · exact .idle
    · exact .idle
    · exact .idle
  | sent ok delivered startMs =>
    cases phase : n.phase with
    | sending number request => simpa only [step, Network.sent, phase] using Stepped.sent phase
    | polling | receiving => simpa only [step, Network.sent, phase] using Stepped.idle
  | recvTurn polled laterMs =>
    simp only [step, Network.recvTurn]
    split
    next number startMs phase =>
      split
      next => exact .gaveUp phase
      next answer rest inbox => exact .relayed phase inbox
      all_goals
        split
        · exact .gaveUp phase
        · exact .idle
    all_goals exact .idle
  | ecuAnswers response =>
    simp only [step, Network.ecuAnswers]
    split
    next => exact .idle
    next number rest pending => exact .answered pending
  | ecuSilent => exact .silent

def Reflects (n : Network) (gw : Gateway) : Prop :=
  match n.phase with
  | .polling => n.gateway = gw
  | .sending _ _ | .receiving _ _ =>
    ∃ request nowMs, (gw.gwAdmit request nowMs).verdict = .allow ∧ n.gateway = (gw.gwAdmit request nowMs).gateway

theorem reflects_step {n : Network} {gw : Gateway} (reflects : Reflects n gw) (action : Action) :
    ∃ exchanges, Reflects (step n action).1 (final Loop.step gw exchanges) := by
  have stepped := step_stepped n action
  generalize step n action = outcome at stepped ⊢
  unfold Reflects at reflects
  cases stepped with
  | idle | ignored | answered | silent => exact ⟨[], reflects⟩
  | @dropped bytes nowMs phase verdict =>
    simp only [phase] at reflects
    subst reflects
    refine ⟨[⟨bytes, nowMs, .failed⟩], ?_⟩
    simp [Reflects, phase, final, Loop.step, verdict]
  | @admitted bytes nowMs phase verdict =>
    simp only [phase] at reflects
    subst reflects
    exact ⟨[], bytes, nowMs, verdict, rfl⟩
  | @sent number _ ok _ _ phase =>
    simp only [phase] at reflects
    obtain ⟨request, nowMs, verdict, same⟩ := reflects
    cases ok with
    | true => exact ⟨[], request, nowMs, verdict, same⟩
    | false =>
      refine ⟨[⟨request, nowMs, .failed⟩], ?_⟩
      simp [Reflects, final, Loop.step, verdict, same]
  | gaveUp phase =>
    simp only [phase] at reflects
    obtain ⟨request, nowMs, verdict, same⟩ := reflects
    refine ⟨[⟨request, nowMs, .silent⟩], ?_⟩
    simp [Reflects, final, Loop.step, verdict, same]
  | @relayed _ _ _ answer _ phase _ =>
    simp only [phase] at reflects
    obtain ⟨request, nowMs, verdict, same⟩ := reflects
    refine ⟨[⟨request, nowMs, .answered answer.response⟩], ?_⟩
    simp [Reflects, final, Loop.step, verdict, same]

/-- Every run does to the gateway what the loop of whole turns does to it. -/
theorem reflects_run (actions : List Action) :
    ∃ exchanges, Reflects (final step .init actions) (final Loop.step .init exchanges) := by
  apply state_invariant step (fun n => ∃ exchanges, Reflects n (final Loop.step .init exchanges))
  · exact ⟨[], rfl⟩
  · rintro n action ⟨exchanges, reflects⟩
    obtain ⟨more, reached⟩ := reflects_step reflects action
    exact ⟨exchanges ++ more, by rwa [final_append]⟩

/-! ## Answers in time are paired -/

/-- What is relayed while a request is served is the response to that request. -/
def Paired (e : Step) : Prop :=
  ∀ answer, e.output = some answer → ∃ startMs, e.before.phase = .receiving answer.number startMs

/-- When a request has been sent no response is left unread, and while its response
is awaited the ECU answers no earlier request. -/
def InTime (n : Network) (action : Action) : Prop :=
  match action, n.phase with
  | .sent true _ _, .sending _ _ => n.inbox = []
  | .ecuAnswers _, .receiving number _ => ∀ oldest ∈ n.pending.head?, oldest = number
  | _, _ => True

/-- The invariant: what can be read while a request is served answers that request. -/
def Current (n : Network) : Prop :=
  ∀ number startMs, n.phase = .receiving number startMs → ∀ answer ∈ n.inbox, answer.number = number

theorem current_step {n : Network} (current : Current n) {action : Action} (inTime : InTime n action) :
    Current (step n action).1 := by
  have stepped := step_stepped n action
  generalize step n action = outcome at stepped ⊢
  intro number startMs serving answer member
  cases stepped with
  | idle | silent => exact current number startMs serving answer member
  | dropped phase => exact Phase.noConfusion (phase.symm.trans serving)
  | admitted | gaveUp | relayed => exact Phase.noConfusion serving
  | ignored => exact current number startMs serving answer (List.mem_of_mem_tail member)
  | @sent _ request ok _ _ phase =>
    cases ok with
    | false => exact Phase.noConfusion serving
    | true =>
      simp only [InTime, phase] at inTime
      rw [inTime] at member
      cases member
  | @answered response oldest rest pending =>
    rcases List.mem_append.mp member with earlier | now
    · exact current number startMs serving answer earlier
    · replace serving : n.phase = .receiving number startMs := serving
      simp only [InTime, serving, pending] at inTime
      rw [List.mem_singleton.mp now]
      exact inTime oldest rfl

theorem paired_of_current {n : Network} (current : Current n) (action : Action) : Paired (event step n action) := by
  intro answer relayed
  have stepped := step_stepped n action
  change (step n action).2 = some answer at relayed
  generalize step n action = outcome at stepped relayed
  cases stepped with
  | @relayed number startMs _ _ _ phase inbox =>
    cases relayed
    have same : answer.number = number := current number startMs phase answer (by rw [inbox]; exact List.mem_cons_self)
    exact ⟨startMs, same ▸ phase⟩
  | _ => cases relayed

theorem current_init : Current .init := fun _ _ serving => Phase.noConfusion serving

/-- In every run in which the ECU answers in time, every response that is relayed
and observed is the one to the request being served. -/
theorem responses_paired (actions : List Action)
    (inTime : ∀ e ∈ trace step .init actions, InTime e.before e.action) : ∀ e ∈ trace step .init actions, Paired e :=
  (allEvents_forall _ _).mp <|
    guarded_events step (fun _ e => InTime e.before e.action) (fun _ => Current) current_init
      (fun _ _ _ current inTime => current_step current inTime)
      (fun _ _ action current _ => paired_of_current current action) actions ((allEvents_forall _ _).mpr inTime)

def punctual : List Action :=
  [.request [0x22, 0xF1, 0x89] 0, .sent true true 0, .ecuAnswers [0x62, 0xF1, 0x89, 0x01, 0x04, 0x02],
   .recvTurn .message 500, .request [0x3E, 0x00] 501]

/-- The response is relayed while its request is served. -/
theorem responses_paired_punctual :
    (step (final step .init (punctual.take 3)) (.recvTurn .message 500)).2 =
        some ⟨0, [0x62, 0xF1, 0x89, 0x01, 0x04, 0x02]⟩ ∧
      Paired (event step (final step .init (punctual.take 3)) (.recvTurn .message 500)) := by
  have inTime : ∀ e ∈ trace step .init punctual, InTime e.before e.action := by
    simp only [punctual, trace, List.forall_mem_cons]
    refine ⟨trivial, ?_, ?_, trivial, trivial, by simp⟩
    · exact (rfl : (step .init (.request [0x22, 0xF1, 0x89] 0)).1.inbox = [])
    · have pending : (final step .init (punctual.take 2)).pending.head? = some 0 := by decide
      intro oldest member
      exact (Option.some.inj (pending.symm.trans member)).symm
  have fourth : event step (final step .init (punctual.take 3)) (.recvTurn .message 500) ∈ trace step .init punctual :=
    List.mem_of_getElem? (rfl : (trace step .init punctual)[3]? = _)
  exact ⟨by decide, responses_paired punctual inTime _ fourth⟩

def late : List Action :=
  [.request [0x22, 0xF1, 0x89] 0, .sent true true 0, .recvTurn .nothing 1000, .request [0x3E, 0x00] 1001,
   .sent true true 1001, .ecuAnswers [0x62, 0xF1, 0x89, 0x01, 0x04, 0x02]]

theorem late_response_relayed : ¬ ∀ actions, ∀ e ∈ trace step .init actions, Paired e := by
  intro paired
  have last := paired (late ++ [.recvTurn .message 1002])
    (event step (final step .init late) (.recvTurn .message 1002)) (by simp [trace_concat])
  obtain ⟨startMs, serving⟩ := last ⟨0, [0x62, 0xF1, 0x89, 0x01, 0x04, 0x02]⟩ (by decide)
  have second : (final step .init late).phase = .receiving 1 1001 := by decide
  cases second.symm.trans serving

def Network.numbers (n : Network) : List Nat := n.inbox.map Answer.number ++ n.pending

structure Ordered (n : Network) : Prop where
  increasing : n.numbers.Pairwise (· < ·)
  below : ∀ m ∈ n.numbers, m < n.admitted
  sending : ∀ number request, n.phase = .sending number request → n.admitted = number + 1 ∧ ∀ m ∈ n.numbers, m < number
  receiving : ∀ number startMs, n.phase = .receiving number startMs → n.admitted = number + 1

theorem ordered_init : Ordered .init := ⟨.nil, by simp [Network.numbers, Network.init], nofun, nofun⟩

section
variable {n : Network}

theorem Ordered.sublist (ordered : Ordered n) {next : Network} (fewer : next.numbers.Sublist n.numbers)
    (admitted : next.admitted = n.admitted) (phase : next.phase = n.phase ∨ next.phase = .polling) : Ordered next where
  increasing := ordered.increasing.sublist fewer
  below := fun m member => admitted ▸ ordered.below m (fewer.subset member)
  sending := by
    intro number request sending
    rcases phase with same | polling
    · obtain ⟨last, before⟩ := ordered.sending number request (same ▸ sending)
      exact ⟨admitted.trans last, fun m member => before m (fewer.subset member)⟩
    · exact Phase.noConfusion (polling.symm.trans sending)
  receiving := by
    intro number startMs receiving
    rcases phase with same | polling
    · exact admitted.trans (ordered.receiving number startMs (same ▸ receiving))
    · exact Phase.noConfusion (polling.symm.trans receiving)

theorem ordered_step (ordered : Ordered n) (action : Action) : Ordered (step n action).1 := by
  have stepped := step_stepped n action
  generalize step n action = outcome at stepped ⊢
  cases stepped with
  | idle => exact ordered
  | dropped => exact ordered.sublist (.refl _) rfl (.inl rfl)
  | admitted =>
    refine ⟨ordered.increasing, fun m member => Nat.lt_succ_of_lt (ordered.below m member), ?_, nofun⟩
    rintro number request ⟨⟩
    exact ⟨rfl, ordered.below⟩
  | ignored => exact ordered.sublist (((List.tail_sublist _).map _).append_right _) rfl (.inl rfl)
  | @sent number request ok delivered startMs phase =>
    obtain ⟨last, before⟩ := ordered.sending number request phase
    have served : ∀ m start, (if ok then Phase.receiving number startMs else .polling) = .receiving m start →
        n.admitted = m + 1 := by
      cases ok with
      | false => nofun
      | true =>
        rintro m start ⟨⟩
        exact last
    have ended : ∀ m request, (if ok then Phase.receiving number startMs else .polling) ≠ .sending m request := by
      cases ok <;> nofun
    cases delivered with
    | false => exact ⟨ordered.increasing, ordered.below, fun m request sending => absurd sending (ended m request), served⟩
    | true =>
      have numbers : n.inbox.map Answer.number ++ (n.pending ++ [number]) = n.numbers ++ [number] :=
        (List.append_assoc _ _ _).symm
      refine ⟨?_, ?_, fun m request sending => absurd sending (ended m request), served⟩
      · change (n.inbox.map Answer.number ++ (n.pending ++ [number])).Pairwise (· < ·)
        rw [numbers]
        refine List.pairwise_append.mpr ⟨ordered.increasing, List.pairwise_singleton _ _, ?_⟩
        intro m member other isLast
        exact List.mem_singleton.mp isLast ▸ before m member
      · intro m member
        change m ∈ n.inbox.map Answer.number ++ (n.pending ++ [number]) at member
        change m < n.admitted
        rw [numbers, List.mem_append, List.mem_singleton] at member
        rcases member with earlier | rfl
        · exact ordered.below m earlier
        · rw [last]
          exact Nat.lt_succ_self m
  | gaveUp => exact ordered.sublist (.refl _) rfl (.inr rfl)
  | relayed _ inbox =>
    refine ordered.sublist ?_ rfl (.inr rfl)
    simp [Network.numbers, inbox]
  | answered pending => exact ordered.sublist (by simp [Network.numbers, pending]) rfl (.inl rfl)
  | silent => exact ordered.sublist ((List.tail_sublist _).append_left _) rfl (.inl rfl)

theorem not_paired_of_late (current : Current n) (ordered : Ordered n) {action : Action} (late : ¬ InTime n action)
    (laterMs : UInt32) : ¬ Paired (event step (step n action).1 (.recvTurn .message laterMs)) := by
  unfold InTime at late
  split at late
  next delivered startMs number request phase =>
    obtain ⟨answer, rest, inbox⟩ := List.exists_cons_of_ne_nil late
    have earlier : answer.number < number :=
      (ordered.sending number request phase).2 answer.number (by simp [Network.numbers, inbox])
    intro paired
    obtain ⟨_, serving⟩ := paired answer (by simp [event, step, Network.sent, Network.recvTurn, phase, inbox])
    simp only [event, step, Network.sent, phase, if_true, Phase.receiving.injEq] at serving
    exact absurd earlier (serving.1 ▸ Nat.lt_irrefl _)
  next response number startMs phase =>
    obtain ⟨oldest, first, other⟩ : ∃ oldest, n.pending.head? = some oldest ∧ oldest ≠ number := by
      by_contra none
      exact late (fun oldest first => by_contra fun other => none ⟨oldest, first, other⟩)
    obtain ⟨rest, pending⟩ := List.head?_eq_some_iff.mp first
    have earlier : oldest < number := by
      have below := ordered.below oldest (by simp [Network.numbers, pending])
      have last := ordered.receiving number startMs phase
      omega
    -- A response already there would be the one to the request being served, and come after this one.
    have unread : n.inbox = [] := by
      apply List.eq_nil_iff_forall_not_mem.mpr
      intro answer member
      have served : answer.number = number := current number startMs phase answer member
      have before : answer.number < oldest :=
        (List.pairwise_append.mp ordered.increasing).2.2 _ (List.mem_map_of_mem member) oldest (by simp [pending])
      omega
    intro paired
    obtain ⟨_, serving⟩ := paired ⟨oldest, response⟩
      (by simp [event, step, Network.ecuAnswers, Network.recvTurn, phase, pending, unread])
    simp only [event, step, Network.ecuAnswers, pending, phase, Phase.receiving.injEq] at serving
    exact other serving.1.symm
  next => exact absurd trivial late

end

/-- The condition leaves out nothing else: where a run first fails it, the next
message that is read is relayed as the response to another request. -/
theorem late_responses_mispaired (actions : List Action) (action : Action) (laterMs : UInt32)
    (inTime : ∀ e ∈ trace step .init actions, InTime e.before e.action)
    (late : ¬ InTime (final step .init actions) action) :
    ¬ Paired (event step (final step .init (actions ++ [action])) (.recvTurn .message laterMs)) := by
  have current : Current (final step .init actions) :=
    guarded_run step (fun _ e => InTime e.before e.action) (fun _ => Current) current_init
      (fun _ _ _ current inTime => current_step current inTime) actions ((allEvents_forall _ _).mpr inTime)
  have ordered : Ordered (final step .init actions) :=
    state_invariant step Ordered ordered_init (fun _ action ordered => ordered_step ordered action) actions
  rw [final_concat]
  exact not_paired_of_late current ordered late laterMs

end DiagnosticGateway.Pairing
