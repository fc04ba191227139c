import ParacordFederation.Gateway.Steps
import Mathlib.Tactic.NormNum

/-!
The backlog of a `GatewayClient` refines one ordered queue with a take-first-matching
operation: the frames the client holds, followed by the dispatch frames still to arrive.
-/

namespace ParacordFederation

open GatewayClient

/-- Take-first-matching: the first frame `wanted` accepts, and the queue without it. -/
def takeFirst (wanted : Json → Bool) (frames : List Json) : Option (Json × List Json) :=
  (frames.find? wanted).map fun frame => (frame, frames.eraseP wanted)

/-- The ordered queue a session stands for: its backlog, then the dispatch frames to come. -/
def queue (session : Session) : List Json :=
  session.client.backlog ++ pendingDispatches session.wire.inbox

/-- One `await` on the abstract queue: a returned frame is the first match and leaves the queue
without that occurrence; a call that raises leaves the queue as it was. -/
def QueueStep (wanted : Json → Bool) (before : List Json) :
    EStateM.Result GatewayError Session Json → Prop
  | .ok frame after => takeFirst wanted before = some (frame, queue after)
  | .error _ after => queue after = before

theorem takeFirst_after_misses {wanted : Json → Bool} {frame : Json} (skipped rest : List Json)
    (misses : ∀ other ∈ skipped, wanted other = false) (hit : wanted frame = true) :
    takeFirst wanted (skipped ++ frame :: rest) = some (frame, skipped ++ rest) := by
  have skippedNone : skipped.find? wanted = none := by simpa using misses
  have erased : (skipped ++ frame :: rest).eraseP wanted = skipped ++ rest := by
    rw [List.eraseP_append_right _ (by simpa using misses), List.eraseP_cons_of_pos (by simpa using hit)]
  simp [takeFirst, skippedNone, hit, erased]

/-- The dispatch frames read between two sessions sit in the later backlog, after the earlier
backlog and in arrival order. -/
def Retains (before after : Session) : Prop :=
  ∃ consumed, before.wire.inbox = consumed ++ after.wire.inbox ∧
    after.client.backlog = before.client.backlog ++ pendingDispatches consumed

theorem Retains.refl (session : Session) : Retains session session :=
  ⟨[], rfl, by simp [pendingDispatches]⟩

theorem Retains.trans {first second third : Session} (early : Retains first second)
    (late : Retains second third) : Retains first third := by
  obtain ⟨read, inbox, backlog⟩ := early
  obtain ⟨later, laterInbox, laterBacklog⟩ := late
  exact ⟨read ++ later, by simp [inbox, laterInbox],
    by simp [laterBacklog, backlog, pendingDispatches_append]⟩

theorem Retains.queue_eq {before after : Session} (retained : Retains before after) :
    queue after = queue before := by
  obtain ⟨consumed, inbox, backlog⟩ := retained
  simp [queue, inbox, backlog, pendingDispatches_append]

/-! ## One pass of the `wait_dispatch` loop -/

section Passes

variable (eventType : String) (predicate : Option Predicate)

/-- Passes of the `wait_dispatch` loop from a session and its `seen` list to later ones: they
read the answers `consumed` of the environment, claimed none of the dispatch frames among them,
kept those in the backlog and recorded their types. -/
def Reads (before : Session) (seen : List String) (after : Session) (recent : List String) : Prop :=
  ∃ consumed, before.wire.inbox = consumed ++ after.wire.inbox ∧
    after.client.backlog = before.client.backlog ++ pendingDispatches consumed ∧
    after.client.name = before.client.name ∧
    (∀ msg ∈ pendingDispatches consumed,
      ∃ t, dispatchType msg = some t ∧ claims eventType predicate t msg = .ok false) ∧
    recent = ((pendingDispatches consumed).filterMap dispatchType).foldl recordSeen seen

variable {eventType predicate}

theorem Reads.refl (session : Session) (seen : List String) :
    Reads eventType predicate session seen session seen :=
  ⟨[], rfl, by simp [pendingDispatches], rfl, by simp [pendingDispatches], by simp [pendingDispatches]⟩

theorem Reads.trans {first second third : Session} {seen middle recent : List String}
    (early : Reads eventType predicate first seen second middle)
    (late : Reads eventType predicate second middle third recent) :
    Reads eventType predicate first seen third recent := by
  obtain ⟨read, inbox, backlog, named, unclaimed, recorded⟩ := early
  obtain ⟨later, laterInbox, laterBacklog, laterNamed, laterUnclaimed, laterRecorded⟩ := late
  refine ⟨read ++ later, by simp [inbox, laterInbox],
    by simp [laterBacklog, backlog, pendingDispatches_append], laterNamed.trans named, ?_, ?_⟩
  · simp only [pendingDispatches_append, List.mem_append]
    rintro msg (old | new)
    exacts [unclaimed msg old, laterUnclaimed msg new]
  · simp [laterRecorded, recorded, pendingDispatches_append]

theorem Reads.retains {before after : Session} {seen recent : List String}
    (reads : Reads eventType predicate before seen after recent) : Retains before after :=
  let ⟨consumed, inbox, backlog, _⟩ := reads
  ⟨consumed, inbox, backlog⟩

theorem Reads.named {before after : Session} {seen recent : List String}
    (reads : Reads eventType predicate before seen after recent) :
    after.client.name = before.client.name :=
  let ⟨_, _, _, named, _⟩ := reads
  named

theorem Reads.of_unread {before after : Session} {seen : List String} {consumed : List Delivery}
    (inbox : before.wire.inbox = consumed ++ after.wire.inbox)
    (unread : pendingDispatches consumed = [])
    (backlog : after.client.backlog = before.client.backlog)
    (named : after.client.name = before.client.name) :
    Reads eventType predicate before seen after seen :=
  ⟨consumed, inbox, by simp [backlog, unread], named, by simp [unread], by simp [unread]⟩

variable (eventType predicate)

/-- What one pass of the `wait_dispatch` loop can do: go on after reading and keeping an
unclaimed frame or none, time out, raise what the poll raised, raise what the predicate raised,
or return the frame the predicate claimed, which it read and did not keep. -/
theorem waitLoop_pass (deadline : ℚ) (fuel : Nat) (seen : List String) (session : Session) :
    (∃ next recent, Reads eventType predicate session seen next recent ∧
      waitLoop eventType predicate deadline (fuel + 1) seen session =
        waitLoop eventType predicate deadline fuel recent next) ∨
    waitLoop eventType predicate deadline (fuel + 1) seen session =
      .error (.dispatchTimedOut session.client.name eventType seen) session ∨
    (∃ error next, waitLoop eventType predicate deadline (fuel + 1) seen session = .error error next ∧
      Reads eventType predicate session seen next seen ∧
      (error = .notConnected session.client.name ∨ error = .closedUnexpectedly session.client.name)) ∨
    (∃ raised next, waitLoop eventType predicate deadline (fuel + 1) seen session =
        .error (.predicateRaised raised) next ∧
      ∃ msg t, dispatchType msg = some t ∧ claims eventType predicate t msg = .error raised) ∨
    ∃ msg t next, waitLoop eventType predicate deadline (fuel + 1) seen session = .ok msg next ∧
      dispatchType msg = some t ∧ claims eventType predicate t msg = .ok true ∧
      ∃ consumed, session.wire.inbox = consumed ++ next.wire.inbox ∧
        pendingDispatches consumed = [msg] ∧ next.client.backlog = session.client.backlog := by
  obtain ⟨consumed, inbox, reads, backlog⟩ := pollOnce_reads session
  have named := pollOnce_name session
  rw [waitLoop_succ]
  split
  · rcases polled : pollOnce session with ⟨_ | msg, next⟩ | ⟨error, next⟩
    all_goals
      simp only [polled, EStateM.Result.state, pollReads, dispatchesOf] at inbox reads backlog named ⊢
    · exact .inl ⟨next, seen, Reads.of_unread inbox reads backlog named, rfl⟩
    · rcases typed : dispatchType msg with _ | t
      all_goals simp only [typed, Option.isSome_none, Option.isSome_some, Bool.false_eq_true,
        ↓reduceIte] at reads ⊢
      · exact .inl ⟨next, seen, Reads.of_unread inbox reads backlog named, rfl⟩
      · rcases verdict : claims eventType predicate t msg with raised | _ | _
        · exact .inr (.inr (.inr (.inl ⟨raised, next, rfl, msg, t, typed, verdict⟩)))
        · have refiled : Reads eventType predicate session seen
              { next with client := { next.client with backlog := next.client.backlog ++ [msg] } }
              (recordSeen seen t) :=
            ⟨consumed, inbox, by simp [backlog, reads], named, by simp [reads, typed, verdict],
              by simp [reads, typed]⟩
          exact .inl ⟨_, _, refiled, rfl⟩
        · exact .inr (.inr (.inr (.inr ⟨msg, t, next, rfl, typed, verdict, consumed, inbox, reads,
            backlog⟩)))
    · exact .inr (.inr (.inl ⟨error, next, rfl,
        Reads.of_unread inbox reads backlog named, pollOnce_raises polled⟩))
  · exact .inr (.inl rfl)

end Passes

theorem Reads.misses {eventType : String} {predicate : Option (Json → Bool)}
    {session next : Session} {seen recent : List String}
    (reads : Reads eventType (predicate.map lift) session seen next recent)
    (misses : ∀ frame ∈ session.client.backlog,
      awaits eventType (predicate.getD fun _ => true) frame = false) :
    ∀ frame ∈ next.client.backlog, awaits eventType (predicate.getD fun _ => true) frame = false := by
  obtain ⟨consumed, -, backlog, -, unclaimed, -⟩ := reads
  intro frame held
  rcases List.mem_append.mp (backlog ▸ held) with old | read
  · exact misses frame old
  · obtain ⟨t, typed, verdict⟩ := unclaimed frame read
    rw [claims_lift eventType predicate typed] at verdict
    exact Except.ok.inj verdict

section Refinement

variable (eventType : String) (predicate : Option (Json → Bool))

theorem waitLoop_refines (deadline : ℚ) :
    ∀ (fuel : Nat) (seen : List String) (session : Session),
      (∀ frame ∈ session.client.backlog, awaits eventType (predicate.getD fun _ => true) frame = false) →
      QueueStep (awaits eventType (predicate.getD fun _ => true)) (queue session)
        (waitLoop eventType (predicate.map lift) deadline fuel seen session) := by
  intro fuel
  induction fuel with
  | zero => intro seen session _; rfl
  | succ fuel ih =>
      intro seen session misses
      rcases waitLoop_pass eventType (predicate.map lift) deadline fuel seen session with
        ⟨next, recent, reads, same⟩ | timedOut | ⟨error, next, raised, reads, -⟩ |
          ⟨raised, next, -, msg, t, typed, verdict⟩ |
          ⟨msg, t, next, returned, typed, verdict, consumed, inbox, read, kept⟩
      · rw [same, ← reads.retains.queue_eq]
        exact ih recent next (reads.misses misses)
      · rw [timedOut]; rfl
      · rw [raised]; exact reads.retains.queue_eq
      · rw [claims_lift eventType predicate typed] at verdict; cases verdict
      · rw [claims_lift eventType predicate typed, Except.ok.injEq] at verdict
        rw [returned]
        show takeFirst _ (queue session) = some (msg, queue next)
        rw [queue, queue, inbox, pendingDispatches_append, read, kept, List.singleton_append]
        exact takeFirst_after_misses _ _ misses verdict

/-- `wait_dispatch` with a predicate that never raises refines one take-first step. -/
theorem waitDispatch_refines (timeoutS : ℚ) (session : Session) :
    QueueStep (awaits eventType (predicate.getD fun _ => true)) (queue session)
      (waitDispatch eventType (predicate.map lift) timeoutS session) := by
  simp only [waitDispatch, bind_apply, findInBacklog_lift]
  cases found : session.client.backlog.find? (awaits eventType (predicate.getD fun _ => true)) with
  | none =>
      simp only [bind_apply, monotonic_apply, inboxBudget_apply]
      exact waitLoop_refines eventType predicate _ _ _ session (by simpa using found)
  | some frame =>
      have erased := List.eraseP_append_left (List.find?_some found)
        (pendingDispatches session.wire.inbox) (List.mem_of_find?_eq_some found)
      simp [QueueStep, takeFirst, queue, found, erased]

end Refinement

def messageCreate : Json := .obj [("op", .num 0), ("t", .str "MESSAGE_CREATE"), ("d", .obj [])]

/-- A connected client with an empty backlog, whose socket delivers one dispatch frame. -/
def listeningSession : Session :=
  { client := { name := "guest1", token := "token", ws := true, heartbeatIntervalS := 41.25
                lastHeartbeatAt := 0, backlog := [] }
    wire := { now := 0, reachable := true, isOpen := true
              inbox := [.instant (.payload (some messageCreate))], sendFaults := [], traffic := [] } }

theorem listeningSession_quiet : heartbeatStep listeningSession = listeningSession :=
  heartbeatStep_quiet (by norm_num [listeningSession, Double.sub, heartbeatThreshold_default])

section FailedCalls

variable (eventType : String) (predicate : Option Predicate)

theorem waitLoop_keeps_read_frames (deadline : ℚ) :
    ∀ (fuel : Nat) (seen : List String) (session after : Session) (error : GatewayError),
      waitLoop eventType predicate deadline fuel seen session = .error error after →
      (∀ raised, error ≠ .predicateRaised raised) → Retains session after := by
  intro fuel
  induction fuel with
  | zero =>
      intro seen session after error stopped _
      cases stopped
      exact Retains.refl session
  | succ fuel ih =>
      intro seen session after error stopped notPredicate
      rcases waitLoop_pass eventType predicate deadline fuel seen session with
        ⟨next, recent, reads, same⟩ | timedOut | ⟨failure, next, raised, reads, -⟩ |
          ⟨raised, next, predicateRaised, -⟩ | ⟨msg, t, next, returned, -⟩
      · rw [same] at stopped
        exact reads.retains.trans (ih recent next after error stopped notPredicate)
      · rw [timedOut] at stopped; cases stopped; exact Retains.refl session
      · rw [raised] at stopped; cases stopped; exact reads.retains
      · rw [predicateRaised] at stopped; cases stopped; exact absurd rfl (notPredicate raised)
      · rw [returned] at stopped; cases stopped

theorem waitLoop_timeout_reads (deadline : ℚ) :
    ∀ (fuel : Nat) (seen : List String) (session after : Session) (name wanted : String)
      (recent : List String),
      waitLoop eventType predicate deadline fuel seen session =
          .error (.dispatchTimedOut name wanted recent) after →
      Reads eventType predicate session seen after recent ∧ name = session.client.name ∧
        wanted = eventType := by
  intro fuel
  induction fuel with
  | zero =>
      intro seen session after name wanted recent stopped
      cases stopped
      exact ⟨Reads.refl session seen, rfl, rfl⟩
  | succ fuel ih =>
      intro seen session after name wanted recent stopped
      rcases waitLoop_pass eventType predicate deadline fuel seen session with
        ⟨next, reached, reads, same⟩ | timedOut | ⟨failure, next, raised, -, kind⟩ |
          ⟨raised, next, predicateRaised, -⟩ | ⟨msg, t, next, returned, -⟩
      · rw [same] at stopped
        obtain ⟨later, named, awaited⟩ := ih reached next after name wanted recent stopped
        exact ⟨reads.trans later, named.trans reads.named, awaited⟩
      · rw [timedOut] at stopped; cases stopped
        exact ⟨Reads.refl session seen, rfl, rfl⟩
      · rw [raised] at stopped; cases stopped
        rcases kind with kind | kind <;> cases kind
      · rw [predicateRaised] at stopped; cases stopped
      · rw [returned] at stopped; cases stopped

/-- A `wait_dispatch` call that times out or loses its socket keeps every dispatch frame it
read, after the old backlog and in arrival order. -/
theorem waitDispatch_keeps_read_frames (timeoutS : ℚ) (session after : Session)
    (error : GatewayError)
    (raised : waitDispatch eventType predicate timeoutS session = .error error after)
    (notPredicate : ∀ raised, error ≠ .predicateRaised raised) :
    ∃ consumed, session.wire.inbox = consumed ++ after.wire.inbox ∧
      after.client.backlog = session.client.backlog ++ pendingDispatches consumed := by
  simp only [waitDispatch, bind_apply, findInBacklog_eq] at raised
  rcases scanned : scanBacklog eventType predicate 0 session.client.backlog with failure | _ | idx
  all_goals simp only [scanned, monotonic_apply, inboxBudget_apply, bind_apply] at raised
  · cases raised
    exact absurd rfl (notPredicate failure)
  · exact waitLoop_keeps_read_frames eventType predicate _ _ _ _ _ _ raised notPredicate
  · have bound := scanBacklog_bound eventType predicate _ 0 idx scanned
    simp [List.getElem?_eq_getElem (by omega : idx < session.client.backlog.length)] at raised

/-- Awaiting `READY` there reads the `MESSAGE_CREATE` frame, keeps it, and then meets the closed
socket: the frame is in the backlog when the call raises. -/
theorem waitDispatch_keeps_frame_when_socket_closes :
    waitDispatch "READY" none 20 listeningSession =
        .error (.closedUnexpectedly "guest1") (waitDispatch "READY" none 20 listeningSession).state ∧
      ∃ consumed, listeningSession.wire.inbox =
          consumed ++ (waitDispatch "READY" none 20 listeningSession).state.wire.inbox ∧
        (waitDispatch "READY" none 20 listeningSession).state.client.backlog =
          listeningSession.client.backlog ++ pendingDispatches consumed := by
  have raised : waitDispatch "READY" none 20 listeningSession =
      .error (.closedUnexpectedly "guest1") (waitDispatch "READY" none 20 listeningSession).state := by
    have budget : listeningSession.wire.inbox.length = 0 + 1 := rfl
    have scanned : findInBacklog "READY" none listeningSession = .ok none listeningSession := rfl
    have early : listeningSession.wire.now < listeningSession.wire.now + 20 := by
      simp [listeningSession]
    have typed : dispatchType messageCreate = some "MESSAGE_CREATE" := rfl
    have dict : messageCreate.isDict = true := rfl
    have other : claims "READY" none "MESSAGE_CREATE" messageCreate = .ok false := rfl
    have connected : listeningSession.client.ws = true := rfl
    have arrived : listeningSession.wire.inbox = [.instant (.payload (some messageCreate))] := rfl
    simp only [waitDispatch, bind_apply, scanned, monotonic_apply, inboxBudget_apply,
      budget, waitLoop_succ, early, ↓reduceIte]
    norm_num [listeningSession, pollOnce, maybeHeartbeat_eq, heartbeatStep, typed, dict, other,
      EStateM.Result.state, Double.sub, heartbeatThreshold_default]
  exact ⟨raised, waitDispatch_keeps_read_frames "READY" none 20 listeningSession _ _ raised
    (by simp)⟩

/-- When `wait_dispatch` times out, its `TimeoutError` names the client and the awaited type,
and reports as recently seen the types of the last fifteen dispatch frames the call read from
the socket, oldest first; the call claimed none of those frames and kept them all in the
backlog. -/
theorem waitDispatch_timeout_reports_recent (timeoutS : ℚ) (session after : Session)
    (name wanted : String) (recent : List String)
    (timedOut : waitDispatch eventType predicate timeoutS session =
      .error (.dispatchTimedOut name wanted recent) after) :
    name = session.client.name ∧ wanted = eventType ∧
      ∃ consumed, session.wire.inbox = consumed ++ after.wire.inbox ∧
        after.client.backlog = session.client.backlog ++ pendingDispatches consumed ∧
        (∀ msg ∈ pendingDispatches consumed,
          ∃ t, dispatchType msg = some t ∧ claims eventType predicate t msg = .ok false) ∧
        recent = lastFifteen ((pendingDispatches consumed).filterMap dispatchType) := by
  simp only [waitDispatch, bind_apply, findInBacklog_eq] at timedOut
  rcases scanned : scanBacklog eventType predicate 0 session.client.backlog with failure | _ | idx
  all_goals simp only [scanned, monotonic_apply, inboxBudget_apply, bind_apply] at timedOut
  · cases timedOut
  · obtain ⟨⟨consumed, inbox, backlog, -, unclaimed, recorded⟩, named, awaited⟩ :=
      waitLoop_timeout_reads eventType predicate _ _ _ _ _ _ _ _ timedOut
    refine ⟨named, awaited, consumed, inbox, backlog, unclaimed, ?_⟩
    rw [recorded, foldl_recordSeen _ [] (Nat.zero_le _), List.nil_append]
  · have bound := scanBacklog_bound eventType predicate _ 0 idx scanned
    simp [List.getElem?_eq_getElem (by omega : idx < session.client.backlog.length)] at timedOut

def lateSession : Session :=
  { listeningSession with wire := { listeningSession.wire with
      inbox := [⟨.payload (some messageCreate), 30, by norm_num⟩] } }

/-- Awaiting `READY` for 20 s there reads the `MESSAGE_CREATE` frame at 30 s, keeps it, and times
out reporting its type. -/
theorem waitDispatch_timeout_reports_recent_on_lateSession :
    waitDispatch "READY" none 20 lateSession =
        .error (.dispatchTimedOut "guest1" "READY" ["MESSAGE_CREATE"])
          (waitDispatch "READY" none 20 lateSession).state ∧
      "guest1" = lateSession.client.name ∧ "READY" = "READY" ∧
      ∃ consumed, lateSession.wire.inbox =
          consumed ++ (waitDispatch "READY" none 20 lateSession).state.wire.inbox ∧
        (waitDispatch "READY" none 20 lateSession).state.client.backlog =
          lateSession.client.backlog ++ pendingDispatches consumed ∧
        (∀ msg ∈ pendingDispatches consumed,
          ∃ t, dispatchType msg = some t ∧ claims "READY" none t msg = .ok false) ∧
        ["MESSAGE_CREATE"] = lastFifteen ((pendingDispatches consumed).filterMap dispatchType) := by
  have timedOut : waitDispatch "READY" none 20 lateSession =
      .error (.dispatchTimedOut "guest1" "READY" ["MESSAGE_CREATE"])
        (waitDispatch "READY" none 20 lateSession).state := by
    have budget : lateSession.wire.inbox.length = 0 + 1 := rfl
    have scanned : findInBacklog "READY" none lateSession = .ok none lateSession := rfl
    have early : lateSession.wire.now < lateSession.wire.now + 20 := by
      simp [lateSession, listeningSession]
    have typed : dispatchType messageCreate = some "MESSAGE_CREATE" := rfl
    have dict : messageCreate.isDict = true := rfl
    have other : claims "READY" none "MESSAGE_CREATE" messageCreate = .ok false := rfl
    simp only [waitDispatch, bind_apply, scanned, monotonic_apply, inboxBudget_apply,
      budget, waitLoop_succ, early, ↓reduceIte]
    have settled : Double.round 30 = 30 := by exact_mod_cast Double.round_intCast 30 (by norm_num)
    norm_num [lateSession, listeningSession, pollOnce, maybeHeartbeat_eq, heartbeatStep, typed,
      dict, other, EStateM.Result.state, recordSeen, Double.sub, heartbeatThreshold_default, settled]
  exact ⟨timedOut, waitDispatch_timeout_reports_recent "READY" none 20 lateSession _ _ _ _ timedOut⟩

end FailedCalls

/-- A predicate that raises, as `lambda d: d["id"] == ...` does on a payload without `id`. -/
def keyErrorPredicate : Predicate := fun _ => .error ⟨"KeyError", "\x27id\x27"⟩

/-- When the predicate raises on a frame read from the socket, `wait_dispatch` raises with that
frame neither returned nor kept: the socket has nothing left and the backlog is still empty. -/
theorem waitDispatch_drops_frame_when_predicate_raises :
    pendingDispatches listeningSession.wire.inbox = [messageCreate] ∧
      (waitDispatch "MESSAGE_CREATE" (some keyErrorPredicate) 20 listeningSession).outcome =
        .error (.predicateRaised ⟨"KeyError", "\x27id\x27"⟩) ∧
      (waitDispatch "MESSAGE_CREATE" (some keyErrorPredicate) 20 listeningSession).state.wire.inbox =
        [] ∧
      (waitDispatch "MESSAGE_CREATE" (some keyErrorPredicate) 20 listeningSession).state.client.backlog =
        [] := by
  have scanned : findInBacklog "MESSAGE_CREATE" (some keyErrorPredicate) listeningSession =
      .ok none listeningSession := rfl
  have early : listeningSession.wire.now < listeningSession.wire.now + 20 := by
    simp [listeningSession]
  have verdict : claims "MESSAGE_CREATE" (some keyErrorPredicate) "MESSAGE_CREATE" messageCreate =
      .error ⟨"KeyError", "\x27id\x27"⟩ := rfl
  have typed : dispatchType messageCreate = some "MESSAGE_CREATE" := rfl
  have dict : messageCreate.isDict = true := rfl
  have connected : listeningSession.client.ws = true := rfl
  have arrived : listeningSession.wire.inbox = [.instant (.payload (some messageCreate))] := rfl
  have empty : listeningSession.client.backlog = [] := rfl
  simp only [waitDispatch, bind_apply, scanned, monotonic_apply, inboxBudget_apply, waitLoop_succ,
    early, ↓reduceIte]
  simp [pollOnce, maybeHeartbeat_eq, listeningSession_quiet, connected, arrived, empty, typed, dict, verdict,
    EStateM.Result.outcome, EStateM.Result.state, pendingDispatches]

/-- An `await` whose predicate never raises: `wait_dispatch(event_type, predicate, timeout_s)`,
with `None` for no predicate. -/
structure WaitCall where
  eventType : String
  predicate : Option (Json → Bool)
  timeoutS : ℚ

def WaitCall.wanted (call : WaitCall) : Json → Bool :=
  awaits call.eventType (call.predicate.getD fun _ => true)

def WaitCall.run (call : WaitCall) : GatewayM Json :=
  waitDispatch call.eventType (call.predicate.map lift) call.timeoutS

/-- A sequence of calls on one client, each raised exception caught by the caller. -/
def runWaits : List WaitCall → Session → List (Except GatewayError Json) × Session
  | [], session => ([], session)
  | call :: calls, session =>
      ((call.run session).outcome :: (runWaits calls (call.run session).state).1,
        (runWaits calls (call.run session).state).2)

/-- The runs of the abstract queue: a call takes its first match, or takes nothing and raises. -/
inductive QueueTrace : List WaitCall → List Json → List (Except GatewayError Json) → List Json → Prop
  | done (frames : List Json) : QueueTrace [] frames [] frames
  | taken {call : WaitCall} {calls : List WaitCall} {frames rest final : List Json} {frame : Json}
      {outcomes : List (Except GatewayError Json)} :
      takeFirst call.wanted frames = some (frame, rest) → QueueTrace calls rest outcomes final →
      QueueTrace (call :: calls) frames (.ok frame :: outcomes) final
  | failed {call : WaitCall} {calls : List WaitCall} {frames final : List Json}
      {error : GatewayError} {outcomes : List (Except GatewayError Json)} :
      QueueTrace calls frames outcomes final →
      QueueTrace (call :: calls) frames (.error error :: outcomes) final

def returned (outcomes : List (Except GatewayError Json)) : List Json :=
  outcomes.filterMap Except.toOption

theorem takeFirst_perm {wanted : Json → Bool} {frames rest : List Json} {frame : Json}
    (taken : takeFirst wanted frames = some (frame, rest)) : (frame :: rest).Perm frames := by
  simp only [takeFirst, Option.map_eq_some', Prod.mk.injEq] at taken
  obtain ⟨_, found, rfl, rfl⟩ := taken
  obtain ⟨hit, before, after, rfl, misses⟩ := List.find?_eq_some.mp found
  rw [List.eraseP_append_right _ (by simpa using misses), List.eraseP_cons_of_pos hit]
  exact List.perm_middle.symm

/-- Along an abstract run, the returned frames and the queue left are the queue it started
with, reordered: nothing is lost and nothing is returned twice. -/
theorem QueueTrace.perm {calls : List WaitCall} {frames final : List Json}
    {outcomes : List (Except GatewayError Json)} (trace : QueueTrace calls frames outcomes final) :
    (returned outcomes ++ final).Perm frames := by
  induction trace with
  | done => rfl
  | taken taken _ ih =>
      simpa [returned, Except.toOption] using ((ih.cons _).trans (takeFirst_perm taken))
  | failed _ ih => simpa [returned, Except.toOption] using ih

/-- Every sequence of `wait_dispatch` calls with predicates that never raise is a run of one
ordered queue under take-first-matching; so the returned frames and the queue left are the
starting queue, reordered. -/
theorem runWaits_refines_queue (calls : List WaitCall) (session : Session) :
    QueueTrace calls (queue session) (runWaits calls session).1 (queue (runWaits calls session).2) ∧
      (returned (runWaits calls session).1 ++ queue (runWaits calls session).2).Perm
        (queue session) := by
  have trace : QueueTrace calls (queue session) (runWaits calls session).1
      (queue (runWaits calls session).2) := by
    induction calls generalizing session with
    | nil => exact .done _
    | cons call calls ih =>
        have step : QueueStep call.wanted (queue session) (call.run session) :=
          waitDispatch_refines call.eventType call.predicate call.timeoutS session
        simp only [runWaits]
        rcases ran : call.run session with ⟨frame, next⟩ | ⟨error, next⟩
        all_goals simp only [ran, QueueStep, EStateM.Result.outcome, EStateM.Result.state] at step ⊢
        · exact .taken step (ih next)
        · exact .failed (step ▸ ih next)
  exact ⟨trace, trace.perm⟩

end ParacordFederation
