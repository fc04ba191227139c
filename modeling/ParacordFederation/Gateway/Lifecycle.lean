import ParacordFederation.Gateway.Backlog

/-!
The client across calls. A script makes a sequence of calls on a `GatewayClient` (`connect`,
`send`, `wait_dispatch`, `close`), each of which may return or raise; the fields and the socket
carry over to the next call either way. Over every such sequence the backlog only ever holds
dispatch frames the server delivered, each at most once and in arrival order.
-/

namespace ParacordFederation

open GatewayClient

/-- `Files before after`: between the two sessions the client took some answers off the socket,
and its backlog is a sub-list of its old backlog followed by the dispatch frames among them. -/
def Files (before after : Session) : Prop :=
  ∃ consumed, before.wire.inbox = consumed ++ after.wire.inbox ∧
    after.client.backlog.Sublist (before.client.backlog ++ pendingDispatches consumed)

theorem Files.refl (session : Session) : Files session session :=
  ⟨[], rfl, by simp [pendingDispatches]⟩

theorem Files.trans {first second third : Session} (early : Files first second)
    (late : Files second third) : Files first third := by
  obtain ⟨read, inbox, kept⟩ := early
  obtain ⟨later, laterInbox, laterKept⟩ := late
  refine ⟨read ++ later, by rw [inbox, laterInbox, List.append_assoc], ?_⟩
  rw [pendingDispatches_append, ← List.append_assoc]
  exact laterKept.trans (kept.append (List.Sublist.refl _))

theorem files_of_same {before after : Session} (inbox : after.wire.inbox = before.wire.inbox)
    (backlog : after.client.backlog = before.client.backlog) : Files before after :=
  ⟨[], by simp [inbox], by simp [backlog, pendingDispatches]⟩

/-- A computation that, from every session, leaves one that files only what it read. -/
def Filing {α : Type} (m : GatewayM α) : Prop :=
  ∀ session, Files session (m session).state

section Combinators

variable {α β : Type}

theorem filing_of_state {m : GatewayM α} (same : ∀ session, (m session).state = session) :
    Filing m := fun session => by rw [same session]; exact Files.refl session

theorem Filing.bind {m : GatewayM α} {f : α → GatewayM β} (first : Filing m)
    (rest : ∀ value, Filing (f value)) : Filing (m >>= f) := fun session => by
  have filed := first session
  rw [bind_apply]
  rcases ran : m session with ⟨value, next⟩ | ⟨error, next⟩
  all_goals simp only [ran, EStateM.Result.state] at filed ⊢
  exacts [filed.trans (rest value next), filed]

theorem filing_unless {ok : Prop} [Decidable ok] (error : GatewayError) {rest : PUnit → GatewayM α}
    (filed : ∀ done, Filing (rest done)) :
    Filing (if ok then throw error >>= rest else pure PUnit.unit >>= rest) := by
  split <;> exact Filing.bind (filing_of_state fun _ => rfl) filed

theorem filing_pure (value : α) : Filing (pure value : GatewayM α) := filing_of_state fun _ => rfl

theorem filing_throw (error : GatewayError) : Filing (throw error : GatewayM α) :=
  filing_of_state fun _ => rfl

end Combinators

theorem filing_fields : Filing fields := filing_of_state fun _ => rfl

theorem filing_monotonic : Filing monotonic := filing_of_state fun _ => rfl

theorem filing_inboxBudget : Filing inboxBudget := filing_of_state fun _ => rfl

theorem filing_modifyClient (change : GatewayClient → GatewayClient)
    (kept : ∀ client, (change client).backlog = client.backlog) : Filing (modifyClient change) :=
  fun session => files_of_same rfl (kept session.client)

theorem filing_createConnection : Filing createConnection := fun session => by
  rw [createConnection_apply]
  split
  · exact files_of_same rfl rfl
  · exact Files.refl session

theorem filing_recv : Filing recv := fun session => by
  rw [recv_apply]
  split
  · exact files_of_same rfl rfl
  · rename_i delivery rest inbox
    exact ⟨[delivery], by simp [inbox, EStateM.Result.state], List.sublist_append_left _ _⟩

theorem filing_wsSend (frame : Json) : Filing (wsSend frame) := fun session => by
  rw [wsSend_apply]
  split <;> exact files_of_same rfl rfl

theorem filing_send (payload : Json) : Filing (send payload) :=
  filing_fields.bind fun _ => filing_unless _ fun _ => filing_wsSend payload

theorem filing_maybeHeartbeat : Filing maybeHeartbeat := fun session => by
  rw [maybeHeartbeat_eq]
  exact files_of_same (heartbeatStep_inbox session) (heartbeatStep_backlog session)

theorem filing_recvJsonLoop (deadline : ℚ) : ∀ fuel, Filing (recvJsonLoop deadline fuel)
  | 0 => filing_fields.bind fun _ => filing_throw _
  | fuel + 1 => by
      refine filing_fields.bind fun client => filing_monotonic.bind fun now => ?_
      dsimp only
      split
      · refine filing_maybeHeartbeat.bind fun _ => filing_recv.bind fun received => ?_
        split
        · exact filing_throw _
        · split
          · exact filing_pure _
          · exact filing_recvJsonLoop deadline fuel
        · exact filing_recvJsonLoop deadline fuel
      · exact filing_throw _

theorem filing_recvJsonBlocking (timeoutS : ℚ) : Filing (recvJsonBlocking timeoutS) :=
  filing_fields.bind fun _ => filing_unless _ fun _ =>
    filing_monotonic.bind fun now => filing_inboxBudget.bind (filing_recvJsonLoop (now + timeoutS))

theorem filing_findInBacklog (eventType : String) (predicate : Option Predicate) :
    Filing (findInBacklog eventType predicate) := fun session => by
  rw [findInBacklog_eq]
  split
  · exact ⟨[], rfl, by simpa [pendingDispatches] using List.eraseIdx_sublist _ _⟩
  · exact Files.refl session
  · exact Files.refl session

theorem pollOnce_files (session : Session) :
    Files session (pollOnce session).state ∧
      ∀ msg next, pollOnce session = .ok (some msg) next → (dispatchType msg).isSome →
        Files session
          { next with client := { next.client with backlog := next.client.backlog ++ [msg] } } := by
  obtain ⟨consumed, inbox, reads, backlog⟩ := pollOnce_reads session
  refine ⟨⟨consumed, inbox, by simp [backlog]⟩, fun msg next polled typed => ?_⟩
  simp only [polled, EStateM.Result.state, pollReads, dispatchesOf, typed, ↓reduceIte]
    at inbox reads backlog
  exact ⟨consumed, inbox, by simp [backlog, reads]⟩

theorem filing_waitLoop (eventType : String) (predicate : Option Predicate) (deadline : ℚ) :
    ∀ fuel seen, Filing (waitLoop eventType predicate deadline fuel seen)
  | 0, _ => filing_fields.bind fun _ => filing_throw _
  | fuel + 1, seen => fun session => by
      obtain ⟨polledFiles, refiledFiles⟩ := pollOnce_files session
      rw [waitLoop_succ]
      split
      · rcases polled : pollOnce session with ⟨_ | msg, next⟩ | ⟨error, next⟩
        all_goals simp only [polled, EStateM.Result.state] at polledFiles; dsimp only
        · exact polledFiles.trans (filing_waitLoop eventType predicate deadline fuel seen next)
        · rcases typed : dispatchType msg with _ | t <;> dsimp only
          · exact polledFiles.trans (filing_waitLoop eventType predicate deadline fuel seen next)
          · rcases claims eventType predicate t msg with _ | _ | _ <;> dsimp only
            · exact polledFiles
            · exact (refiledFiles msg next polled (by simp [typed])).trans
                (filing_waitLoop eventType predicate deadline fuel _ _)
            · exact polledFiles
        · exact polledFiles
      · exact Files.refl session

theorem filing_waitDispatch (eventType : String) (predicate : Option Predicate) (timeoutS : ℚ) :
    Filing (waitDispatch eventType predicate timeoutS) :=
  (filing_findInBacklog eventType predicate).bind fun found => by
    split
    · exact filing_pure _
    · exact filing_monotonic.bind fun now =>
        filing_inboxBudget.bind fun fuel => filing_waitLoop eventType predicate _ fuel []

theorem filing_connect (ofStr : String → Option ℚ) : Filing (connect ofStr) := by
  refine filing_createConnection.bind fun _ => (filing_recvJsonBlocking 12).bind fun hello => ?_
  refine filing_fields.bind fun client => filing_unless _ fun _ => ?_
  have identified := filing_monotonic.bind fun now =>
    (filing_modifyClient (fun c => { c with lastHeartbeatAt := now }) fun _ => rfl).bind fun _ =>
      (filing_send (identifyFrame client.token)).bind fun _ =>
        (filing_waitDispatch "READY" none 25).bind fun _ => filing_pure ()
  dsimp only
  split
  · exact Filing.bind (filing_modifyClient _ fun _ => rfl) fun _ => identified
  · exact (filing_throw _).bind fun _ => identified

theorem filing_close : Filing close := fun session => by
  by_cases connected : session.client.ws = true
  · simp only [close, bind_apply, fields_apply, connected, ↓reduceIte, wsClose_apply,
      modifyClient_apply, EStateM.Result.state]
    exact files_of_same rfl rfl
  · simp only [close, bind_apply, fields_apply, connected, Bool.false_eq_true, ↓reduceIte,
      pure_apply, EStateM.Result.state]
    exact Files.refl session

/-! ## Calls -/

inductive ClientCall where
  | connect
  | send (payload : Json)
  | waitDispatch (eventType : String) (predicate : Option Predicate) (timeoutS : ℚ)
  | close

def ClientCall.run (ofStr : String → Option ℚ) : ClientCall → GatewayM Unit
  | .connect => GatewayClient.connect ofStr
  | .send payload => GatewayClient.send payload
  | .waitDispatch eventType predicate timeoutS => do
      let _ ← GatewayClient.waitDispatch eventType predicate timeoutS
  | .close => GatewayClient.close

/-- The session after a sequence of calls, each made on what the one before left, whether it
returned or raised. -/
def runCalls (ofStr : String → Option ℚ) : List ClientCall → Session → Session
  | [], session => session
  | call :: rest, session => runCalls ofStr rest (call.run ofStr session).state

theorem filing_run (ofStr : String → Option ℚ) : ∀ call : ClientCall, Filing (call.run ofStr)
  | .connect => filing_connect ofStr
  | .send payload => filing_send payload
  | .waitDispatch eventType predicate timeoutS =>
      (filing_waitDispatch eventType predicate timeoutS).bind fun _ => filing_pure ()
  | .close => filing_close

/-- Over any sequence of calls, the client's backlog holds only dispatch frames the server
delivered meanwhile, each at most once and in arrival order, after what it held before. -/
theorem runCalls_files (ofStr : String → Option ℚ) :
    ∀ (calls : List ClientCall) (session : Session), Files session (runCalls ofStr calls session)
  | [], session => Files.refl session
  | call :: rest, session =>
      (filing_run ofStr call session).trans (runCalls_files ofStr rest _)

end ParacordFederation
