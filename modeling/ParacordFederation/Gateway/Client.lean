import ParacordFederation.Gateway.Wire

/-!
The methods of `GatewayClient` (`federation_live_fundamentals_validation.py`, lines 402-548),
statement by statement. A `while time.monotonic() < deadline` loop takes its pass budget from
`inboxBudget`: every pass receives once, so the budget is never the reason a loop stops.
-/

namespace ParacordFederation

/-- A predicate passed to `wait_dispatch`: its truth value, or the exception it raises. -/
abbrev Predicate := Json → Except PyException Bool

def heartbeatFrame : Json := .obj [("op", .num 1), ("d", .null)]

def identifyFrame (token : String) : Json := .obj [("op", .num 2), ("d", .obj [("token", .str token)])]

/-- The type of a dispatch frame: `msg.get("op") == 0 and isinstance(msg.get("t"), str)`. -/
def dispatchType (msg : Json) : Option String :=
  if pyEqInt (msg.get? "op") 0 then asStr (msg.get? "t") else none

/-- The test `isinstance(data, dict) and (predicate is None or predicate(data))`. -/
def accepts (predicate : Option Predicate) : Option Json → Except PyException Bool
  | some (.obj fields) =>
      match predicate with
      | none => .ok true
      | some holds => holds (.obj fields)
  | _ => .ok false

/-- What `wait_dispatch` tests on a dispatch frame of type `t`:
`t == event_type and isinstance(data, dict)`, then the predicate. -/
def claims (eventType : String) (predicate : Option Predicate) (t : String) (msg : Json) :
    Except PyException Bool :=
  if t = eventType then accepts predicate (msg.get? "d") else .ok false

/-- The `seen` list after `seen.append(t)` and `if len(seen) > 15: seen = seen[-15:]`. -/
def recordSeen (seen : List String) (t : String) : List String :=
  if (seen ++ [t]).length > 15 then (seen ++ [t]).drop ((seen ++ [t]).length - 15) else seen ++ [t]

/-- `self.heartbeat_interval_s * 0.9`: the product of two doubles, rounded. -/
def heartbeatThreshold (interval : ℚ) : ℚ := Double.mul interval (Double.round 0.9)

namespace GatewayClient

def send (payload : Json) : GatewayM Unit := do
  let client ← fields
  if !client.ws then throw (.notConnected client.name)
  wsSend payload

/-- Python's `GatewayClient._maybe_heartbeat`: a heartbeat whose send raises is dropped and
leaves `last_heartbeat_at` as it was. -/
def maybeHeartbeat : GatewayM Unit := do
  let client ← fields
  if client.ws then
    let now ← monotonic
    if Double.sub now client.lastHeartbeatAt ≥ heartbeatThreshold client.heartbeatIntervalS then
      tryCatch
        (do send heartbeatFrame; modifyClient fun c => { c with lastHeartbeatAt := now })
        fun _ => pure ()

def recvJsonLoop (deadline : ℚ) : Nat → GatewayM Json
  | 0 => do throw (.payloadTimedOut (← fields).name)
  | fuel + 1 => do
      let client ← fields
      if (← monotonic) < deadline then
        maybeHeartbeat
        match ← recv with
        | .closed => throw (.closedWhileWaiting client.name)
        | .payload (some msg) => if msg.isDict then pure msg else recvJsonLoop deadline fuel
        | _ => recvJsonLoop deadline fuel
      else throw (.payloadTimedOut client.name)

def recvJsonBlocking (timeoutS : ℚ) : GatewayM Json := do
  let client ← fields
  if !client.ws then throw (.notConnected client.name)
  let deadline := (← monotonic) + timeoutS
  recvJsonLoop deadline (← inboxBudget)

def pollOnce : GatewayM (Option Json) := do
  let client ← fields
  if !client.ws then throw (.notConnected client.name)
  maybeHeartbeat
  match ← recv with
  | .closed => throw (.closedUnexpectedly client.name)
  | .payload (some payload) => pure (if payload.isDict then some payload else none)
  | _ => pure none

/-- The `for idx, item in enumerate(self.backlog)` scan of `_find_in_backlog`: the index of the
first entry that is a dispatch frame of the awaited type passing the test. -/
def scanBacklog (eventType : String) (predicate : Option Predicate) :
    Nat → List Json → Except PyException (Option Nat)
  | _, [] => .ok none
  | idx, item :: rest =>
      if !pyEqInt (item.get? "op") 0 || !pyEqStr (item.get? "t") eventType then
        scanBacklog eventType predicate (idx + 1) rest
      else
        match accepts predicate (item.get? "d") with
        | .ok true => .ok (some idx)
        | .ok false => scanBacklog eventType predicate (idx + 1) rest
        | .error error => .error error

def findInBacklog (eventType : String) (predicate : Option Predicate) :
    GatewayM (Option Json) := do
  let client ← fields
  match scanBacklog eventType predicate 0 client.backlog with
  | .ok (some idx) =>
      modifyClient fun c => { c with backlog := c.backlog.eraseIdx idx }
      pure client.backlog[idx]?
  | .ok none => pure none
  | .error error => throw (.predicateRaised error)

def waitLoop (eventType : String) (predicate : Option Predicate) (deadline : ℚ) :
    Nat → List String → GatewayM Json
  | 0, seen => do throw (.dispatchTimedOut (← fields).name eventType seen)
  | fuel + 1, seen => do
      let client ← fields
      if (← monotonic) < deadline then
        match ← pollOnce with
        | none => waitLoop eventType predicate deadline fuel seen
        | some msg =>
            match dispatchType msg with
            | none => waitLoop eventType predicate deadline fuel seen
            | some t =>
                match claims eventType predicate t msg with
                | .ok true => pure msg
                | .ok false => do
                    modifyClient fun c => { c with backlog := c.backlog ++ [msg] }
                    waitLoop eventType predicate deadline fuel (recordSeen seen t)
                | .error error => throw (.predicateRaised error)
      else throw (.dispatchTimedOut client.name eventType seen)

def waitDispatch (eventType : String) (predicate : Option Predicate := none)
    (timeoutS : ℚ := 20) : GatewayM Json := do
  match ← findInBacklog eventType predicate with
  | some cached => pure cached
  | none =>
      let deadline := (← monotonic) + timeoutS
      waitLoop eventType predicate deadline (← inboxBudget) []

/-- The heartbeat interval of a HELLO frame:
`hello.get("d", {}).get("heartbeat_interval", 41250)` when `d` is a dict, else `41250`. -/
def helloInterval (hello : Json) : Json :=
  if isDictMember (hello.get? "d") then
    (hello.getD "d" (.obj [])).getD "heartbeat_interval" (.num 41250)
  else .num 41250

/-- Python's `GatewayClient.connect`; `ofStr` is how `float` parses a string. -/
def connect (ofStr : String → Option ℚ) : GatewayM Unit := do
  createConnection
  let hello ← recvJsonBlocking 12
  let client ← fields
  if !pyEqInt (hello.get? "op") 10 then throw (.expectedHello client.name hello)
  match pyFloat ofStr (helloInterval hello) with
  | .ok intervalMs =>
      modifyClient fun c => { c with heartbeatIntervalS := max 1 (Double.div intervalMs 1000) }
  | .error error => throw (.floatRaised error)
  let now ← monotonic
  modifyClient fun c => { c with lastHeartbeatAt := now }
  send (identifyFrame client.token)
  let _ ← waitDispatch "READY" none 25

/-- Python's `GatewayClient.close`; `ws.close()` closes the socket whatever it raises, and
the `try` swallows it. -/
def close : GatewayM Unit := do
  let client ← fields
  if client.ws then
    wsClose
    modifyClient fun c => { c with ws := false }

end GatewayClient

end ParacordFederation
