import ParacordFederation.Gateway.Transcript
import ParacordFederation.Gateway.Backlog
import Mathlib.Tactic.Linarith
import Mathlib.Data.List.Chain

/-!
When `_maybe_heartbeat` sends a heartbeat. `connect` checks for one before it has received
HELLO, against the `last_heartbeat_at` of 0 that `__init__` sets, so the identify frame is the
first frame sent only while the clock reads less than `41.25 * 0.9`; within and across
`wait_dispatch` calls, heartbeats are spaced by the interval, the 0.9 threshold and the 0.5 s
poll timeout.
-/

namespace ParacordFederation

open GatewayClient

/-! ## Before HELLO -/

theorem recvJsonLoop_beats_first (deadline : ℚ) (fuel : Nat) (session : Session)
    (early : session.wire.now < deadline) :
    Continues (heartbeatStep session) (recvJsonLoop deadline (fuel + 1) session).state := by
  rw [recvJsonLoop, bind_apply, fields_apply]
  dsimp only
  rw [bind_apply, monotonic_apply]
  dsimp only
  rw [if_pos early, bind_apply, maybeHeartbeat_eq]
  refine keeps_recv.bind (fun received => ?_) _
  split
  · exact keeps_throw _
  · split
    · exact keeps_pure _
    · exact keeps_recvJsonLoop deadline fuel
  · exact keeps_recvJsonLoop deadline fuel

theorem recvJsonBlocking_beats_first (timeoutS : ℚ) (session : Session)
    (connected : session.client.ws = true) (positive : 0 < timeoutS) :
    Continues (heartbeatStep session) (recvJsonBlocking timeoutS session).state := by
  simp only [recvJsonBlocking, bind_apply, fields_apply, connected, Bool.not_true,
    Bool.false_eq_true, ↓reduceIte, pure_apply, monotonic_apply, inboxBudget_apply]
  exact recvJsonLoop_beats_first _ _ session (lt_add_of_pos_right _ positive)

/-- A fresh client whose monotonic clock reads at least `41.25 * 0.9` seconds when `connect`
runs sends a heartbeat before it receives anything: the transcript `connect` leaves starts
with that heartbeat, ahead of HELLO and of the identify frame. -/
theorem connect_heartbeat_precedes_hello (ofStr : String → Option ℚ) (name token : String)
    (wire : Wire) (reachable : wire.reachable = true) (late : 41.25 * 0.9 ≤ wire.now)
    (sendOk : wire.sendFaults.head? ≠ some true) :
    wire.traffic ++ [.sent wire.now heartbeatFrame] <+:
      (connect ofStr ⟨GatewayClient.init name token, wire⟩).state.wire.traffic := by
  obtain ⟨greet, kept, unfolded⟩ := connect_greets ofStr
  let opened : Session :=
    { client := { GatewayClient.init name token with ws := true }, wire := { wire with isOpen := true } }
  have exact : Double.round (297 / 8) = 297 / 8 :=
    Double.round_of_grid (by norm_num : (-1074 : ℤ) ≤ -3)
      (show (297 / 8 : ℚ) = (297 : ℤ) * 2 ^ (-3 : ℤ) by norm_num) (by norm_num [abs_of_pos])
  have due : heartbeatThreshold 41.25 ≤ Double.sub wire.now 0 := by
    norm_num only [heartbeatThreshold_default] at late ⊢
    exact Double.le_round_of_le (by norm_num) exact (by simpa using late)
  have beat : (heartbeatStep opened).wire.traffic = wire.traffic ++ [.sent wire.now heartbeatFrame] := by
    simp [heartbeatStep, opened, GatewayClient.init, due, sendOk]
  have greeted := recvJsonBlocking_beats_first 12 opened rfl (by norm_num)
  rw [unfolded, bind_apply, createConnection_apply, if_pos reachable]
  exact beat ▸ (Keeps.continues_bind kept greeted).traffic

def helloFrame : Json := .obj [("op", .num 10), ("d", .obj [("heartbeat_interval", .num 41250)])]

def readyFrame : Json := .obj [("op", .num 0), ("t", .str "READY"), ("d", .obj [])]

def bootedWire : Wire :=
  { now := 100, reachable := true, isOpen := false
    inbox := [.instant (.payload (some helloFrame)), .instant (.payload (some readyFrame))]
    sendFaults := [], traffic := [] }

theorem connect_heartbeat_precedes_hello_after_boot :
    bootedWire.reachable = true ∧ 41.25 * 0.9 ≤ bootedWire.now ∧
      bootedWire.sendFaults.head? ≠ some true ∧
      [.sent 100 heartbeatFrame] <+:
        (connect (fun _ => none) ⟨GatewayClient.init "guest2" "token", bootedWire⟩).state.wire.traffic :=
  ⟨rfl, by norm_num [bootedWire], by simp [bootedWire],
    connect_heartbeat_precedes_hello (fun _ => none) "guest2" "token" bootedWire rfl
      (by norm_num [bootedWire]) (by simp [bootedWire])⟩

/-! ## Spacing within one `wait_dispatch` call -/

def sentTimes : List Traffic → List ℚ
  | [] => []
  | .sent time _ :: rest => time :: sentTimes rest
  | .received _ _ :: rest => sentTimes rest

@[simp] theorem sentTimes_append (first second : List Traffic) :
    sentTimes (first ++ second) = sentTimes first ++ sentTimes second := by
  induction first with
  | nil => rfl
  | cons entry rest ih => cases entry <;> simp [sentTimes, ih]

/-- How far apart two consecutive heartbeats are for an interval of `interval` seconds: the
rounded difference the code tests reaches its threshold `interval * 0.9`, a double, and the
exact one stays below that threshold plus one 0.5 s poll timeout. -/
def Spaced (interval earlier later : ℚ) : Prop :=
  heartbeatThreshold interval ≤ Double.sub later earlier ∧
    later - earlier < heartbeatThreshold interval + 0.5

/-- The environment the pacing law assumes: every send succeeds, and every receive returns
within the 0.5 s timeout `_poll_once` sets. -/
structure Punctual (session : Session) : Prop where
  sendsSucceed : ∀ fault ∈ session.wire.sendFaults, fault = false
  prompt : ∀ delivery ∈ session.wire.inbox, delivery.elapsed ≤ 0.5

/-- The frames sent since the transcript had `start` entries: all heartbeats, consecutive ones
spaced, the last of them `last_heartbeat_at` and less than the threshold plus `slack` before
the clock. -/
structure Paced (interval slack : ℚ) (start : Nat) (session : Session) : Prop where
  interval_eq : session.client.heartbeatIntervalS = interval
  started : start ≤ session.wire.traffic.length
  onlyHeartbeats : ∀ time frame, Traffic.sent time frame ∈ session.wire.traffic.drop start →
    frame = heartbeatFrame
  spaced : (sentTimes (session.wire.traffic.drop start)).Chain' (Spaced interval)
  latest : ∀ time ∈ (sentTimes (session.wire.traffic.drop start)).getLast?,
    time = session.client.lastHeartbeatAt ∧
      session.wire.now - time < heartbeatThreshold interval + slack

theorem Paced.initial {interval slack : ℚ} {session : Session}
    (announced : session.client.heartbeatIntervalS = interval) :
    Paced interval slack session.wire.traffic.length session :=
  ⟨announced, le_refl _, by simp, by simp [sentTimes], by simp [sentTimes]⟩

theorem Punctual.sendOk {session : Session} (punctual : Punctual session) :
    session.wire.sendFaults.head? ≠ some true := fun first => by
  simpa using punctual.sendsSucceed _ (List.mem_of_mem_head? first)

section Pacing

variable {interval : ℚ} {start : Nat} {session : Session}

theorem heartbeatStep_paced (atLeastOne : 1 ≤ interval) (connected : session.client.ws = true)
    (punctual : Punctual session) (paced : Paced interval 0.5 start session) :
    Paced interval 0 start (heartbeatStep session) ∧ Punctual (heartbeatStep session) := by
  have kept : Punctual { session with wire := { session.wire with
      sendFaults := session.wire.sendFaults.tail } } :=
    ⟨fun fault held => punctual.sendsSucceed fault (List.mem_of_mem_tail held), punctual.prompt⟩
  unfold heartbeatStep
  split_ifs with due fault
  · exact absurd fault punctual.sendOk
  · have dropped : (session.wire.traffic ++ [Traffic.sent session.wire.now heartbeatFrame]).drop start =
        session.wire.traffic.drop start ++ [Traffic.sent session.wire.now heartbeatFrame] :=
      List.drop_append_of_le_length paced.started
    refine ⟨⟨paced.interval_eq, ?_, ?_, ?_, ?_⟩, ⟨kept.sendsSucceed, punctual.prompt⟩⟩
    all_goals dsimp only
    · simp only [List.length_append, List.length_singleton]
      exact paced.started.trans (Nat.le_succ _)
    · intro time frame sent
      rcases List.mem_append.mp (dropped ▸ sent) with old | fresh
      · exact paced.onlyHeartbeats time frame old
      · simp only [List.mem_singleton, Traffic.sent.injEq] at fresh
        exact fresh.2
    · rw [dropped, sentTimes_append]
      refine List.chain'_append.mpr ⟨paced.spaced, List.chain'_singleton _, ?_⟩
      intro last held now beat
      obtain ⟨rfl, recent⟩ := paced.latest last held
      simp only [sentTimes, List.head?_cons, Option.mem_def, Option.some.injEq] at beat
      subst beat
      exact ⟨paced.interval_eq ▸ due.2, recent⟩
    · simp only [dropped, sentTimes_append, sentTimes, List.getLast?_concat, Option.mem_def,
        Option.some.injEq]
      rintro _ rfl
      exact ⟨rfl, by simpa using heartbeatThreshold_pos atLeastOne⟩
  · refine ⟨⟨paced.interval_eq, paced.started, paced.onlyHeartbeats, paced.spaced, ?_⟩, punctual⟩
    intro time held
    obtain ⟨rfl, -⟩ := paced.latest time held
    refine ⟨rfl, ?_⟩
    simp only [connected, true_and, ge_iff_le, not_le, paced.interval_eq] at due
    have nonneg : (0 : ℚ) ≤ interval := zero_le_one.trans atLeastOne
    simpa using Double.lt_of_round_lt (heartbeatThreshold_nonneg nonneg)
      (round_heartbeatThreshold nonneg) due

theorem Paced.received (paced : Paced interval 0 start session) {wire : Wire} {time : ℚ}
    {item : Received} (grown : wire.traffic = session.wire.traffic ++ [.received time item])
    (soon : wire.now ≤ session.wire.now + 0.5) : Paced interval 0.5 start { session with wire } := by
  have dropped : wire.traffic.drop start = session.wire.traffic.drop start ++ [.received time item] :=
    grown ▸ List.drop_append_of_le_length paced.started
  refine ⟨paced.interval_eq, ?_, ?_, ?_, ?_⟩
  all_goals dsimp only
  · simp only [grown, List.length_append, List.length_singleton]
    exact paced.started.trans (Nat.le_succ _)
  · intro time frame sent
    rcases List.mem_append.mp (dropped ▸ sent) with old | fresh
    · exact paced.onlyHeartbeats time frame old
    · simp at fresh
  · simpa [dropped, sentTimes] using paced.spaced
  · intro last held
    simp only [dropped, sentTimes_append, sentTimes, List.append_nil] at held
    obtain ⟨same, recent⟩ := paced.latest last held
    exact ⟨same, by linarith⟩

theorem recv_paced (punctual : Punctual session) (paced : Paced interval 0 start session) :
    Paced interval 0.5 start (recv session).state ∧ Punctual (recv session).state := by
  rw [recv_apply]
  split
  · exact ⟨paced.received rfl (by norm_num), punctual.sendsSucceed, punctual.prompt⟩
  · rename_i delivery rest arrived
    have prompt := punctual.prompt delivery (arrived ▸ List.mem_cons_self _ _)
    refine ⟨paced.received rfl (by dsimp only; linarith), punctual.sendsSucceed, ?_⟩
    intro later held
    exact punctual.prompt later (arrived ▸ List.mem_cons_of_mem _ held)

theorem pollOnce_paced (atLeastOne : 1 ≤ interval) (punctual : Punctual session)
    (paced : Paced interval 0.5 start session) :
    Paced interval 0.5 start (pollOnce session).state ∧ Punctual (pollOnce session).state := by
  rw [pollOnce_state]
  split
  · obtain ⟨checked, still⟩ := heartbeatStep_paced atLeastOne ‹_› punctual paced
    exact recv_paced still checked
  · exact ⟨paced, punctual⟩

theorem waitDispatch_paced (eventType : String) (predicate : Option Predicate) (timeoutS : ℚ)
    (atLeastOne : 1 ≤ interval) (punctual : Punctual session)
    (paced : Paced interval 0.5 start session) :
    Paced interval 0.5 start (waitDispatch eventType predicate timeoutS session).state ∧
      Punctual (waitDispatch eventType predicate timeoutS session).state :=
  waitDispatch_preserves (fun session => Paced interval 0.5 start session ∧ Punctual session)
    (fun _ held => pollOnce_paced atLeastOne held.2 held.1)
    (fun _ _ ⟨⟨a, b, c, d, e⟩, ⟨f, g⟩⟩ => ⟨⟨a, b, c, d, e⟩, ⟨f, g⟩⟩)
    eventType predicate timeoutS session ⟨paced, punctual⟩

end Pacing

def callTraffic (before after : Session) : List Traffic :=
  after.wire.traffic.drop before.wire.traffic.length

/-- Within one `wait_dispatch` call on a client whose server announced `heartbeat_interval`
`h`, so that `heartbeat_interval_s` is `I = max(1.0, float(h) / 1000.0)`, with every send
succeeding and every receive returning within its 0.5 s timeout: the call sends only
heartbeats, and consecutive ones are spaced for `I`, at least the double threshold `I * 0.9`
apart as the code measures and less than that threshold plus 0.5 s apart. -/
theorem waitDispatch_heartbeat_spacing (h : ℚ) (eventType : String) (predicate : Option Predicate)
    (timeoutS : ℚ) (session : Session)
    (announced : session.client.heartbeatIntervalS = max 1 (Double.div h 1000))
    (punctual : Punctual session) :
    (∀ time frame, Traffic.sent time frame ∈
        callTraffic session (waitDispatch eventType predicate timeoutS session).state →
      frame = heartbeatFrame) ∧
    (sentTimes (callTraffic session (waitDispatch eventType predicate timeoutS session).state)).Chain'
      (Spaced (max 1 (Double.div h 1000))) := by
  have paced := (waitDispatch_paced eventType predicate timeoutS
    (le_max_left 1 (Double.div h 1000)) punctual (Paced.initial announced)).1
  exact ⟨paced.onlyHeartbeats, paced.spaced⟩

def slowTimeout : Delivery := ⟨.timedOut, 0.5, by norm_num⟩

/-- A client whose server announced `heartbeat_interval` 500, so that `connect` clamped the
interval to 1 s; its last heartbeat was 1 s ago, and two receives time out before the socket
reports the connection closed. -/
def pacedSession : Session :=
  { client := { name := "guest1", token := "token", ws := true, heartbeatIntervalS := 1
                lastHeartbeatAt := 0, backlog := [] }
    wire := { now := 1, reachable := true, isOpen := true, inbox := [slowTimeout, slowTimeout]
              sendFaults := [], traffic := [] } }

theorem pacedSession_punctual : Punctual pacedSession :=
  ⟨by simp [pacedSession], by norm_num [pacedSession, slowTimeout]⟩

theorem round_half : Double.round (1 / 2) = 1 / 2 :=
  Double.round_of_grid (by norm_num : (-1074 : ℤ) ≤ -1)
    (show (1 / 2 : ℚ) = (1 : ℤ) * 2 ^ (-1 : ℤ) by norm_num) (by norm_num [abs_of_pos])

theorem pacedSession_announced :
    pacedSession.client.heartbeatIntervalS = max 1 (Double.div 500 1000) := by
  norm_num [pacedSession, Double.div, round_half]

theorem waitDispatch_heartbeat_spacing_at_half_second :
    pacedSession.client.heartbeatIntervalS = max 1 (Double.div 500 1000) ∧ Punctual pacedSession ∧
      (sentTimes (callTraffic pacedSession (waitDispatch "READY" none 20 pacedSession).state)).Chain'
        (Spaced (max 1 (Double.div 500 1000))) :=
  ⟨pacedSession_announced, pacedSession_punctual,
    (waitDispatch_heartbeat_spacing 500 "READY" none 20 pacedSession pacedSession_announced
      pacedSession_punctual).2⟩

/-- `1.0 * 0.9` in doubles: the double nearest 0.9, a little above it. -/
theorem heartbeatThreshold_one : heartbeatThreshold 1 = 8106479329266893 * 2 ^ (-53 : ℤ) := by
  rw [heartbeatThreshold, Double.mul, one_mul, Double.round_round (by norm_num), round_pointNine]

/-- With `heartbeat_interval` 500, a `wait_dispatch` call whose receives time out sends
heartbeats 1 s apart, twice the 0.5 s the server announced. -/
theorem heartbeats_exceed_announced_interval :
    pacedSession.client.heartbeatIntervalS = max 1 (Double.div 500 1000) ∧ Punctual pacedSession ∧
      sentTimes (callTraffic pacedSession (waitDispatch "READY" none 20 pacedSession).state) =
        [1, 2] ∧ (500 / 1000 : ℚ) < 2 - 1 := by
  refine ⟨pacedSession_announced, pacedSession_punctual, ?_, by norm_num⟩
  have budget : pacedSession.wire.inbox.length = 0 + 1 + 1 := rfl
  have scanned : findInBacklog "READY" none pacedSession = .ok none pacedSession := rfl
  have early : pacedSession.wire.now < pacedSession.wire.now + 20 := by norm_num [pacedSession]
  have delivered : ¬(none : Option Bool) = some true := nofun
  have one : Double.round 1 = 1 := by exact_mod_cast Double.round_intCast 1 (by norm_num)
  simp only [waitDispatch, bind_apply, scanned, monotonic_apply, inboxBudget_apply, budget,
    waitLoop_succ, early, ↓reduceIte]
  norm_num [pacedSession, slowTimeout, pollOnce, maybeHeartbeat_eq, heartbeatStep,
    EStateM.Result.state, callTraffic, sentTimes, delivered, Double.sub, heartbeatThreshold_one,
    one, round_half]

end ParacordFederation
