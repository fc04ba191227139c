import ParacordFederation.Gateway.Steps

/-!
What the client's methods do to the socket as a whole, whatever the server sends: the
transcript only grows, the clock never goes back, and an open socket stays open and held by
`self.ws`. Of the methods of `GatewayClient`, only `close` closes the socket.
-/

namespace ParacordFederation

open GatewayClient

/-- The session after a computation that closes nothing, compared with the session before. -/
structure Continues (before after : Session) : Prop where
  traffic : before.wire.traffic <+: after.wire.traffic
  clock : before.wire.now ≤ after.wire.now
  stillOpen : before.wire.isOpen = true → after.wire.isOpen = true
  stillHeld : before.client.ws = true → after.client.ws = true

theorem Continues.refl (session : Session) : Continues session session :=
  ⟨List.prefix_refl _, le_refl _, id, id⟩

theorem Continues.trans {first second third : Session} (early : Continues first second)
    (late : Continues second third) : Continues first third :=
  ⟨early.traffic.trans late.traffic, early.clock.trans late.clock,
    late.stillOpen ∘ early.stillOpen, late.stillHeld ∘ early.stillHeld⟩

/-- A computation that, from every session, leaves a session continuing the one it started on. -/
def Keeps {α : Type} (m : GatewayM α) : Prop :=
  ∀ session, Continues session (m session).state

section Combinators

variable {α β : Type}

theorem keeps_of_state {m : GatewayM α} (same : ∀ session, (m session).state = session) :
    Keeps m := fun session => by rw [same session]; exact Continues.refl session

theorem Keeps.continues_bind {m : GatewayM α} {f : α → GatewayM β} (rest : ∀ value, Keeps (f value))
    {start session : Session} (first : Continues start (m session).state) :
    Continues start ((m >>= f) session).state := by
  rw [bind_apply]
  rcases ran : m session with ⟨value, next⟩ | ⟨error, next⟩
  all_goals simp only [ran, EStateM.Result.state] at first ⊢
  exacts [first.trans (rest value next), first]

theorem Keeps.bind {m : GatewayM α} {f : α → GatewayM β} (first : Keeps m)
    (rest : ∀ value, Keeps (f value)) : Keeps (m >>= f) :=
  fun session => Keeps.continues_bind rest (first session)

theorem Keeps.tryCatch {m : GatewayM α} {handle : GatewayError → GatewayM α} (first : Keeps m)
    (handler : ∀ error, Keeps (handle error)) : Keeps (tryCatch m handle) := by
  intro session
  have := first session
  rw [tryCatch_apply]
  rcases ran : m session with ⟨value, next⟩ | ⟨error, next⟩
  all_goals simp only [ran, EStateM.Result.state] at this ⊢
  exacts [this, this.trans (handler error next)]

theorem keeps_unless {ok : Prop} [Decidable ok] (error : GatewayError) {rest : PUnit → GatewayM α}
    (kept : ∀ done, Keeps (rest done)) :
    Keeps (if ok then throw error >>= rest else pure PUnit.unit >>= rest) := by
  split
  · exact Keeps.bind (keeps_of_state fun _ => rfl) kept
  · exact Keeps.bind (keeps_of_state fun _ => rfl) kept

theorem keeps_pure (value : α) : Keeps (pure value : GatewayM α) := keeps_of_state fun _ => rfl

theorem keeps_throw (error : GatewayError) : Keeps (throw error : GatewayM α) :=
  keeps_of_state fun _ => rfl

end Combinators

theorem keeps_fields : Keeps fields := keeps_of_state fun _ => rfl

theorem keeps_modifyClient (change : GatewayClient → GatewayClient)
    (held : ∀ client, (change client).ws = client.ws) : Keeps (modifyClient change) :=
  fun _ => ⟨List.prefix_refl _, le_refl _, id, fun connected => (held _).trans connected⟩

theorem keeps_monotonic : Keeps monotonic := keeps_of_state fun _ => rfl

theorem keeps_inboxBudget : Keeps inboxBudget := keeps_of_state fun _ => rfl

theorem keeps_recv : Keeps recv := by
  intro session
  rw [recv_apply]
  cases session.wire.inbox with
  | nil => exact ⟨List.prefix_append _ _, le_refl _, id, id⟩
  | cons delivery rest =>
      exact ⟨List.prefix_append _ _, le_add_of_nonneg_right delivery.elapsed_nonneg, id, id⟩

theorem keeps_wsSend (frame : Json) : Keeps (wsSend frame) := by
  intro session
  rw [wsSend_apply]
  split
  · exact ⟨List.prefix_refl _, le_refl _, id, id⟩
  · exact ⟨List.prefix_append _ _, le_refl _, id, id⟩

theorem keeps_send (payload : Json) : Keeps (send payload) :=
  keeps_fields.bind fun _ => keeps_unless _ fun _ => keeps_wsSend payload

theorem heartbeatStep_continues (session : Session) : Continues session (heartbeatStep session) := by
  unfold heartbeatStep
  split_ifs
  · exact ⟨List.prefix_refl _, le_refl _, id, id⟩
  · exact ⟨List.prefix_append _ _, le_refl _, id, id⟩
  · exact Continues.refl _

theorem keeps_maybeHeartbeat : Keeps maybeHeartbeat := fun session => by
  simpa only [maybeHeartbeat_eq] using heartbeatStep_continues session

theorem keeps_recvJsonLoop (deadline : ℚ) : ∀ fuel, Keeps (recvJsonLoop deadline fuel)
  | 0 => keeps_fields.bind fun _ => keeps_throw _
  | fuel + 1 => by
      refine keeps_fields.bind fun client => keeps_monotonic.bind fun now => ?_
      dsimp only
      split
      · refine keeps_maybeHeartbeat.bind fun _ => keeps_recv.bind fun received => ?_
        split
        · exact keeps_throw _
        · split
          · exact keeps_pure _
          · exact keeps_recvJsonLoop deadline fuel
        · exact keeps_recvJsonLoop deadline fuel
      · exact keeps_throw _

theorem keeps_recvJsonBlocking (timeoutS : ℚ) : Keeps (recvJsonBlocking timeoutS) :=
  keeps_fields.bind fun _ => keeps_unless _ fun _ =>
    keeps_monotonic.bind fun now => keeps_inboxBudget.bind (keeps_recvJsonLoop (now + timeoutS))

theorem keeps_pollOnce : Keeps pollOnce :=
  keeps_fields.bind fun client => keeps_unless _ fun _ =>
    keeps_maybeHeartbeat.bind fun _ => keeps_recv.bind fun received => by
      split
      · exact keeps_throw _
      all_goals exact keeps_pure _

theorem keeps_findInBacklog (eventType : String) (predicate : Option Predicate) :
    Keeps (findInBacklog eventType predicate) :=
  keeps_fields.bind fun client => by
    split
    · exact Keeps.bind (keeps_modifyClient _ fun _ => rfl) fun _ => keeps_pure _
    · exact keeps_pure _
    · exact keeps_throw _

theorem keeps_waitLoop (eventType : String) (predicate : Option Predicate) (deadline : ℚ) :
    ∀ fuel seen, Keeps (waitLoop eventType predicate deadline fuel seen)
  | 0, _ => keeps_fields.bind fun _ => keeps_throw _
  | fuel + 1, seen => keeps_fields.bind fun _ => keeps_monotonic.bind fun now => by
      split
      · refine keeps_pollOnce.bind fun polled => ?_
        split
        · exact keeps_waitLoop eventType predicate deadline fuel seen
        · split
          · exact keeps_waitLoop eventType predicate deadline fuel seen
          · split
            · exact keeps_pure _
            · exact Keeps.bind (keeps_modifyClient _ fun _ => rfl) fun _ =>
                keeps_waitLoop eventType predicate deadline fuel _
            · exact keeps_throw _
      · exact keeps_throw _

theorem keeps_waitDispatch (eventType : String) (predicate : Option Predicate) (timeoutS : ℚ) :
    Keeps (waitDispatch eventType predicate timeoutS) :=
  (keeps_findInBacklog eventType predicate).bind fun found => by
    split
    · exact keeps_pure _
    · exact keeps_monotonic.bind fun now =>
        keeps_inboxBudget.bind fun fuel => keeps_waitLoop eventType predicate _ fuel []

theorem connect_greets (ofStr : String → Option ℚ) :
    ∃ greet : Json → GatewayM Unit, (∀ hello, Keeps (greet hello)) ∧
      connect ofStr = createConnection >>= fun _ => recvJsonBlocking 12 >>= greet := by
  refine ⟨_, fun hello => ?_, rfl⟩
  exact keeps_fields.bind fun client => keeps_unless _ fun _ => by
      have identified := keeps_monotonic.bind fun now =>
        (keeps_modifyClient (fun c => { c with lastHeartbeatAt := now }) fun _ => rfl).bind fun _ =>
          (keeps_send (identifyFrame client.token)).bind fun _ =>
            (keeps_waitDispatch "READY" none 25).bind fun _ => keeps_pure ()
      dsimp only
      split
      · exact Keeps.bind (keeps_modifyClient _ fun _ => rfl) fun _ => identified
      · exact (keeps_throw _).bind fun _ => identified

/-- Once `create_connection` succeeds, `connect` leaves the socket open and held by `self.ws`,
whether it returns or raises. -/
theorem connect_holds_socket (ofStr : String → Option ℚ) (session : Session)
    (reachable : session.wire.reachable = true) :
    (connect ofStr session).state.client.ws = true ∧ (connect ofStr session).state.wire.isOpen = true := by
  obtain ⟨greet, kept, unfolded⟩ := connect_greets ofStr
  rw [unfolded, bind_apply, createConnection_apply, if_pos reachable]
  have held := (keeps_recvJsonBlocking 12).bind kept
    { client := { session.client with ws := true }, wire := { session.wire with isOpen := true } }
  exact ⟨held.stillHeld rfl, held.stillOpen rfl⟩

theorem connect_ok_holds_socket (ofStr : String → Option ℚ) (session after : Session)
    (connected : connect ofStr session = .ok () after) :
    after.client.ws = true ∧ after.wire.isOpen = true := by
  by_cases reachable : session.wire.reachable = true
  · simpa [connected, EStateM.Result.state] using connect_holds_socket ofStr session reachable
  · obtain ⟨greet, -, unfolded⟩ := connect_greets ofStr
    simp [unfolded, reachable] at connected

end ParacordFederation
