import ParacordFederation.Python
import Mathlib.Algebra.Order.Field.Rat

/-!
The state a `GatewayClient` of `federation_live_fundamentals_validation.py` works on: its own
fields, and the websocket and monotonic clock it talks to. The server, the network and the clock
are the environment. A socket answers a finite list of receives, each taking some time, and then
reports the connection closed; each send succeeds or raises as the environment says.
-/

def EStateM.Result.state {ε σ α : Type} : EStateM.Result ε σ α → σ
  | .ok _ state => state
  | .error _ state => state

def EStateM.Result.outcome {ε σ α : Type} : EStateM.Result ε σ α → Except ε α
  | .ok value _ => .ok value
  | .error raised _ => .error raised

theorem EStateM.Result.eq_error {ε σ α : Type} {result : EStateM.Result ε σ α} {raised : ε}
    (failed : result.outcome = .error raised) : result = .error raised result.state := by
  cases result <;> simp_all [EStateM.Result.outcome, EStateM.Result.state]

namespace ParacordFederation

/-- What one `ws.recv()` produces. -/
inductive Received where
  /-- Raised `websocket.WebSocketTimeoutException`. -/
  | timedOut
  /-- Raised `websocket.WebSocketConnectionClosedException`. -/
  | closed
  /-- Returned `None`. -/
  | nothing
  /-- Returned a text or binary message, with what `json.loads` made of it (`none` when it
raised). -/
  | payload (parsed : Option Json)

/-- One receive as the environment answers it: its result, and the seconds from the call until
the client next reads the clock. -/
structure Delivery where
  received : Received
  elapsed : ℚ
  elapsed_nonneg : 0 ≤ elapsed

def Delivery.instant (received : Received) : Delivery := ⟨received, 0, le_refl 0⟩

@[simp] theorem Delivery.instant_received (received : Received) :
    (Delivery.instant received).received = received := rfl

@[simp] theorem Delivery.instant_elapsed (received : Received) :
    (Delivery.instant received).elapsed = 0 := rfl

/-- One entry of the connection's transcript, stamped with the monotonic clock. -/
inductive Traffic where
  | sent (time : ℚ) (frame : Json)
  | received (time : ℚ) (item : Received)

/-- The socket and the clock. `now` is what `time.monotonic()` returns; `reachable` is whether
`websocket.create_connection` succeeds; `inbox` answers the coming receives and `sendFaults`
says, for each coming send, whether it raises; `traffic` is the transcript, oldest first. -/
structure Wire where
  now : ℚ
  reachable : Bool
  isOpen : Bool
  inbox : List Delivery
  sendFaults : List Bool
  traffic : List Traffic

/-- The fields of a `GatewayClient`; `ws` says whether `self.ws` holds the socket. The `url`
field is read only by `create_connection`, whose outcome `Wire.reachable` decides. -/
structure GatewayClient where
  name : String
  token : String
  ws : Bool
  heartbeatIntervalS : ℚ
  lastHeartbeatAt : ℚ
  backlog : List Json

def GatewayClient.init (name token : String) : GatewayClient :=
  { name, token, ws := false, heartbeatIntervalS := 41.25, lastHeartbeatAt := 0, backlog := [] }

structure Session where
  client : GatewayClient
  wire : Wire

/-- The exceptions the client's methods raise, with the source's class and message. -/
inductive GatewayError where
  /-- Raised as `RuntimeError(f"{self.name}: websocket not connected")`. -/
  | notConnected (name : String)
  /-- Raised as `RuntimeError(f"{self.name}: websocket closed while waiting for event")`. -/
  | closedWhileWaiting (name : String)
  /-- Raised as `TimeoutError(f"{self.name}: timed out waiting for websocket payload")`. -/
  | payloadTimedOut (name : String)
  /-- Raised as `RuntimeError(f"{self.name}: websocket closed unexpectedly")`. -/
  | closedUnexpectedly (name : String)
  /-- Raised as `RuntimeError(f"{self.name}: expected HELLO, got: {hello}")`. -/
  | expectedHello (name : String) (got : Json)
  /-- Raised as
  `TimeoutError(f"{self.name}: timed out waiting for {event_type}; recently seen: {seen}")`. -/
  | dispatchTimedOut (name eventType : String) (seen : List String)
  /-- Raised by `websocket.create_connection`. -/
  | connectRaised
  /-- Raised by `ws.send`. -/
  | sendRaised
  /-- Raised by `float(interval_ms)`. -/
  | floatRaised (error : PyException)
  /-- Raised by the caller's predicate. -/
  | predicateRaised (error : PyException)

/-- The client's methods run in a state monad whose state survives a raised exception, as a
Python object's fields do. -/
abbrev GatewayM := EStateM GatewayError Session

section Plumbing

variable {α β : Type}

@[simp] theorem bind_apply (x : GatewayM α) (f : α → GatewayM β) (session : Session) :
    (x >>= f) session = match x session with
      | .ok value next => f value next
      | .error error next => .error error next := by
  rcases h : x session <;> simp [bind, EStateM.bind, h]

@[simp] theorem map_apply (f : α → β) (x : GatewayM α) (session : Session) :
    (f <$> x) session = match x session with
      | .ok value next => .ok (f value) next
      | .error error next => .error error next := by
  rcases h : x session <;> simp [Functor.map, EStateM.map, h]

@[simp] theorem pure_apply (value : α) (session : Session) :
    (pure value : GatewayM α) session = .ok value session := rfl

@[simp] theorem throw_apply (error : GatewayError) (session : Session) :
    (throw error : GatewayM α) session = .error error session := rfl

@[simp] theorem tryCatch_apply (x : GatewayM α) (handle : GatewayError → GatewayM α)
    (session : Session) :
    (tryCatch x handle) session = match x session with
      | .error error next => handle error next
      | .ok value next => .ok value next := by
  rcases h : x session <;> simp [tryCatch, tryCatchThe, MonadExceptOf.tryCatch, EStateM.tryCatch,
    EStateM.Backtrackable.save, EStateM.Backtrackable.restore, EStateM.dummySave,
    EStateM.dummyRestore, h]

end Plumbing

namespace GatewayClient

def fields : GatewayM GatewayClient := fun session => .ok session.client session

def modifyClient (change : GatewayClient → GatewayClient) : GatewayM Unit :=
  fun session => .ok () { session with client := change session.client }

def monotonic : GatewayM ℚ := fun session => .ok session.wire.now session

def createConnection : GatewayM Unit := fun session =>
  if session.wire.reachable then
    .ok () { client := { session.client with ws := true },
             wire := { session.wire with isOpen := true } }
  else .error .connectRaised session

/-- Models `self.ws.recv()`: the next answer of the environment, or a closed connection once
the environment has no more. -/
def recv : GatewayM Received := fun session =>
  match session.wire.inbox with
  | [] => .ok .closed { session with wire := { session.wire with
      traffic := session.wire.traffic ++ [.received session.wire.now .closed] } }
  | delivery :: rest => .ok delivery.received { session with wire := { session.wire with
      now := session.wire.now + delivery.elapsed
      inbox := rest
      traffic := session.wire.traffic ++
        [.received (session.wire.now + delivery.elapsed) delivery.received] } }

def wsSend (frame : Json) : GatewayM Unit := fun session =>
  if session.wire.sendFaults.head? = some true then
    .error .sendRaised { session with wire := { session.wire with
      sendFaults := session.wire.sendFaults.tail } }
  else .ok () { session with wire := { session.wire with
      sendFaults := session.wire.sendFaults.tail
      traffic := session.wire.traffic ++ [.sent session.wire.now frame] } }

def wsClose : GatewayM Unit := fun session =>
  .ok () { session with wire := { session.wire with isOpen := false } }

/-- How many more passes a receive loop can make: one per answer the environment still has,
and one that meets the closed connection. Every pass of the client's loops receives once. -/
def inboxBudget : GatewayM Nat := fun session => .ok (session.wire.inbox.length + 1) session

section Primitives

variable (session : Session)

@[simp] theorem fields_apply : fields session = .ok session.client session := rfl

@[simp] theorem modifyClient_apply (change : GatewayClient → GatewayClient) :
    modifyClient change session = .ok () { session with client := change session.client } := rfl

@[simp] theorem monotonic_apply : monotonic session = .ok session.wire.now session := rfl

@[simp] theorem inboxBudget_apply :
    inboxBudget session = .ok (session.wire.inbox.length + 1) session := rfl

@[simp] theorem createConnection_apply : createConnection session =
    if session.wire.reachable then
      .ok () { client := { session.client with ws := true },
               wire := { session.wire with isOpen := true } }
    else .error .connectRaised session := rfl

@[simp] theorem recv_apply : recv session =
    match session.wire.inbox with
    | [] => .ok .closed { session with wire := { session.wire with
        traffic := session.wire.traffic ++ [.received session.wire.now .closed] } }
    | delivery :: rest => .ok delivery.received { session with wire := { session.wire with
        now := session.wire.now + delivery.elapsed
        inbox := rest
        traffic := session.wire.traffic ++
          [.received (session.wire.now + delivery.elapsed) delivery.received] } } := rfl

@[simp] theorem wsSend_apply (frame : Json) : wsSend frame session =
    if session.wire.sendFaults.head? = some true then
      .error .sendRaised { session with wire := { session.wire with
        sendFaults := session.wire.sendFaults.tail } }
    else .ok () { session with wire := { session.wire with
        sendFaults := session.wire.sendFaults.tail
        traffic := session.wire.traffic ++ [.sent session.wire.now frame] } } := rfl

@[simp] theorem wsClose_apply :
    wsClose session = .ok () { session with wire := { session.wire with isOpen := false } } := rfl

end Primitives

end GatewayClient

end ParacordFederation
