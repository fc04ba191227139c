import ParacordFederation.Gateway.Transcript
import Mathlib.Tactic.NormNum

/-!
The `try`/`finally` of `main` in `federation_live_fundamentals_validation.py`. The body is a
sequence of steps, of which only those that acquire something matter to the `finally` block:
opening a log file, starting a server, and opening a gateway client. The block closes the
clients of `gateway_clients`, stops the servers, and closes the log files.
-/

namespace ParacordFederation

open GatewayClient

inductive Signal where
  | term
  | kill
  deriving DecidableEq, Repr

/-- A server started with `subprocess.Popen`. `running` is whether `proc.poll()` returned `None`
when `main` last asked, `exitsOnTerm` whether SIGTERM ends it within the grace period, and
`signals` what `main` sent it. A killed child is reaped, and `poll()` stops returning `None`,
only some time after `kill()`, which the model leaves open: `kill()` changes no `running`. -/
structure ServerProcess where
  running : Bool
  exitsOnTerm : Bool
  signals : List Signal

/-- A file opened with `open(log_path, "w")`; `closeRaises` is whether its `close()` raises,
as a failed final flush does after the file is closed. -/
structure LogFile where
  isOpen : Bool
  closeRaises : Bool

/-- What `main` holds: its lists `procs`, `log_files` and `gateway_clients`, and the clients
whose `connect` raised, which no list holds. -/
structure MainState where
  procs : List ServerProcess
  logFiles : List LogFile
  gatewayClients : List Session
  strayClients : List Session

def MainState.empty : MainState := ⟨[], [], [], []⟩

inductive MainError where
  | step (error : PyException)
  | gateway (error : GatewayError)

/-- A step of `main`'s body; `raised` is the exception a step raises, if any. -/
inductive MainStep where
  /-- A step that acquires nothing: an HTTP request, a `wait_until`, an assertion, or a
  `wait_dispatch` on a connected client. -/
  | work (raised : Option PyException)
  /-- `fh = open(log_path, "w")` and `log_files.append(fh)`. -/
  | openLog (raised : Option PyException) (closeRaises : Bool)
  /-- `proc = subprocess.Popen(...)` and `procs.append(proc)`; `running` is whether the server
  still runs when the `finally` block starts. -/
  | startNode (raised : Option PyException) (running exitsOnTerm : Bool)
  /-- `client = GatewayClient(name, url, token)`, `client.connect()` and
  `gateway_clients.append(client)`, on the socket `wire`. -/
  | openGateway (name token : String) (wire : Wire)

def MainStep.run (ofStr : String → Option ℚ) :
    MainStep → MainState → Except MainError Unit × MainState
  | .work (some error), state => (.error (.step error), state)
  | .work none, state => (.ok (), state)
  | .openLog (some error) _, state => (.error (.step error), state)
  | .openLog none closeRaises, state =>
      (.ok (), { state with logFiles := state.logFiles ++ [⟨true, closeRaises⟩] })
  | .startNode (some error) _ _, state => (.error (.step error), state)
  | .startNode none running exitsOnTerm, state =>
      (.ok (), { state with procs := state.procs ++ [⟨running, exitsOnTerm, []⟩] })
  | .openGateway name token wire, state =>
      match connect ofStr ⟨GatewayClient.init name token, wire⟩ with
      | .ok () session => (.ok (), { state with gatewayClients := state.gatewayClients ++ [session] })
      | .error error session =>
          (.error (.gateway error), { state with strayClients := state.strayClients ++ [session] })

def runBody (ofStr : String → Option ℚ) : List MainStep → MainState → Except MainError Unit × MainState
  | [], state => (.ok (), state)
  | step :: steps, state =>
      match step.run ofStr state with
      | (.ok (), next) => runBody ofStr steps next
      | (.error error, next) => (.error error, next)

/-- `except Exception: pass` around a call that leaves its object as `after` when it raises. -/
def swallow {α : Type} (call : Except PyException α) (after : α) : Except PyException α :=
  match call with
  | .ok value => .ok value
  | .error _ => .ok after

def ServerProcess.terminate (proc : ServerProcess) : ServerProcess :=
  if proc.running then { proc with signals := proc.signals ++ [.term] } else proc

/-- What `time.sleep(1.0)` leaves: a server that got SIGTERM and honours it has exited. -/
def ServerProcess.afterGrace (proc : ServerProcess) : ServerProcess :=
  if proc.exitsOnTerm && proc.signals.contains .term then { proc with running := false } else proc

/-- `if proc.poll() is None: proc.kill()`. The SIGKILL is sent, but `main` never waits for the
child, so `poll()` would still read `None`: `running` stays as it was. -/
def ServerProcess.forceKill (proc : ServerProcess) : ServerProcess :=
  if proc.running then { proc with signals := proc.signals ++ [.kill] } else proc

def LogFile.close (fh : LogFile) : Except PyException LogFile :=
  if fh.closeRaises then .error ⟨"OSError", "[Errno 28] No space left on device"⟩
  else .ok { fh with isOpen := false }

def teardown (state : MainState) : Except MainError MainState := do
  let clients ← state.gatewayClients.mapM fun client =>
    match close client with
    | .ok () closed => .ok closed
    | .error error _ => .error (.gateway error)
  let procs := ((state.procs.map ServerProcess.terminate).map ServerProcess.afterGrace).map
    ServerProcess.forceKill
  let logFiles ← state.logFiles.mapM fun fh =>
    (swallow fh.close { fh with isOpen := false }).mapError .step
  pure { state with gatewayClients := clients, procs, logFiles }

/-- `main`: the body, then the `finally` block, whose own exception would replace the body's. -/
def runMain (ofStr : String → Option ℚ) (steps : List MainStep) : Except MainError Unit × MainState :=
  match teardown (runBody ofStr steps MainState.empty).2 with
  | .ok released => ((runBody ofStr steps MainState.empty).1, released)
  | .error error => (.error error, (runBody ofStr steps MainState.empty).2)

/-! ## The `finally` block -/

theorem mapM_ok {α β ε : Type} (f : α → Except ε β) (g : α → β) (ok : ∀ x, f x = .ok (g x)) :
    ∀ items : List α, items.mapM f = .ok (items.map g)
  | [] => rfl
  | item :: items => by rw [List.mapM_cons, ok, mapM_ok f g ok items]; rfl

theorem close_eq (session : Session) :
    close session = if session.client.ws then
      .ok () { client := { session.client with ws := false }
               wire := { session.wire with isOpen := false } }
    else .ok () session := by
  by_cases connected : session.client.ws = true <;> simp [close, connected]

theorem ServerProcess.stopped (proc : ServerProcess) :
    (proc.terminate.afterGrace.forceKill.running = false ∨
      Signal.kill ∈ proc.terminate.afterGrace.forceKill.signals) ∧
      proc.terminate.afterGrace.forceKill.signals =
        if proc.running then proc.signals ++ .term :: (if proc.exitsOnTerm then [] else [.kill])
        else proc.signals := by
  rcases proc with ⟨_ | _, _ | _, signals⟩ <;> by_cases signalled : Signal.term ∈ signals <;>
    simp [ServerProcess.terminate, ServerProcess.afterGrace, ServerProcess.forceKill, signalled]

theorem teardown_eq (state : MainState) :
    teardown state = .ok { state with
      gatewayClients := state.gatewayClients.map fun client => (close client).state
      procs := state.procs.map fun proc => proc.terminate.afterGrace.forceKill
      logFiles := state.logFiles.map fun fh => { fh with isOpen := false } } := by
  simp only [teardown]
  rw [mapM_ok _ (fun client => (close client).state) ?closed,
    mapM_ok _ (fun fh => { fh with isOpen := false }) ?filed]
  case closed =>
    intro client
    by_cases connected : client.client.ws = true <;> simp [close_eq, connected, EStateM.Result.state]
  case filed => intro fh; unfold LogFile.close; split <;> rfl
  simp only [List.map_map]
  rfl

theorem teardown_releases (state : MainState)
    (held : ∀ client ∈ state.gatewayClients, client.client.ws = true) :
    ∃ released, teardown state = .ok released ∧
      (∀ client ∈ released.gatewayClients, client.wire.isOpen = false) ∧
      (∀ fh ∈ released.logFiles, fh.isOpen = false) ∧
      released.procs = state.procs.map (fun proc => proc.terminate.afterGrace.forceKill) ∧
      released.strayClients = state.strayClients := by
  refine ⟨_, teardown_eq state, ?_, by simp, rfl, rfl⟩
  simp only [List.mem_map]
  rintro _ ⟨client, member, rfl⟩
  simp [close_eq, held client member, EStateM.Result.state]

/-! ## The body -/

/-- Every client of `gateway_clients` holds its socket in `self.ws`. -/
def MainState.Held (state : MainState) : Prop := ∀ client ∈ state.gatewayClients, client.client.ws = true

theorem MainState.empty_held : MainState.empty.Held := by simp [MainState.Held, MainState.empty]

section Body

variable (ofStr : String → Option ℚ)

theorem MainStep.run_held (step : MainStep) (state : MainState) (held : state.Held) :
    (step.run ofStr state).2.Held := by
  cases step with
  | work raised => cases raised <;> exact held
  | openLog raised => cases raised <;> exact held
  | startNode raised => cases raised <;> exact held
  | openGateway name token wire =>
      simp only [MainStep.run]
      split
      · rename_i session connected
        intro client member
        rcases List.mem_append.mp member with old | fresh
        · exact held client old
        · rw [List.mem_singleton.mp fresh]
          exact (connect_ok_holds_socket ofStr _ session connected).1
      · exact held

theorem runBody_held : ∀ (steps : List MainStep) (state : MainState), state.Held →
    (runBody ofStr steps state).2.Held
  | [], _, held => held
  | step :: steps, state, held => by
      have next := step.run_held ofStr state held
      simp only [runBody]
      split
      · rename_i after ran
        rw [ran] at next
        exact runBody_held steps after next
      · rename_i ran
        rw [ran] at next
        exact next

theorem runBody_append (steps rest : List MainStep) (state : MainState)
    (settled : (runBody ofStr steps state).1 = .ok ()) :
    runBody ofStr (steps ++ rest) state = runBody ofStr rest (runBody ofStr steps state).2 := by
  induction steps generalizing state with
  | nil => rfl
  | cons step steps ih =>
      simp only [runBody, List.cons_append] at settled ⊢
      split at settled <;> simp_all

end Body

/-! ## Every exit path of `main` -/

theorem runMain_outcome (ofStr : String → Option ℚ) (steps : List MainStep) :
    (runMain ofStr steps).1 = (runBody ofStr steps MainState.empty).1 ∧
      (runMain ofStr steps).2.strayClients = (runBody ofStr steps MainState.empty).2.strayClients := by
  obtain ⟨released, ok, -, -, -, strays⟩ :=
    teardown_releases _ (runBody_held ofStr steps _ MainState.empty_held)
  simp only [runMain, ok, true_and]
  exact strays

/-- On every exit path of `main`, whatever its body raised: `main` reports the body's outcome,
every client of `gateway_clients` has closed its socket, every log file is closed, and every
server has exited or got a SIGKILL, with SIGTERM if it was running and SIGKILL only if it did
not exit within the grace period. -/
theorem runMain_releases (ofStr : String → Option ℚ) (steps : List MainStep) :
    (runMain ofStr steps).1 = (runBody ofStr steps MainState.empty).1 ∧
      (∀ client ∈ (runMain ofStr steps).2.gatewayClients, client.wire.isOpen = false) ∧
      (∀ fh ∈ (runMain ofStr steps).2.logFiles, fh.isOpen = false) ∧
      (runMain ofStr steps).2.procs =
        (runBody ofStr steps MainState.empty).2.procs.map
          (fun proc => proc.terminate.afterGrace.forceKill) ∧
      ∀ proc ∈ (runBody ofStr steps MainState.empty).2.procs,
        (proc.terminate.afterGrace.forceKill.running = false ∨
          Signal.kill ∈ proc.terminate.afterGrace.forceKill.signals) ∧
        proc.terminate.afterGrace.forceKill.signals =
          if proc.running then proc.signals ++ .term :: (if proc.exitsOnTerm then [] else [.kill])
          else proc.signals := by
  obtain ⟨released, ok, clients, files, procs, -⟩ :=
    teardown_releases _ (runBody_held ofStr steps _ MainState.empty_held)
  have reported := (runMain_outcome ofStr steps).1
  simp only [runMain, ok] at reported ⊢
  exact ⟨reported, clients, files, procs, fun proc _ => proc.stopped⟩

/-- When `connect` raises after `create_connection` has opened the socket, `main` raises that
exception with the socket still open: the client was never appended to `gateway_clients`, so
the `finally` block never closes it. -/
theorem runMain_leaves_socket_open (ofStr : String → Option ℚ) (before after : List MainStep)
    (name token : String) (wire : Wire) (error : GatewayError)
    (settled : (runBody ofStr before MainState.empty).1 = .ok ())
    (reachable : wire.reachable = true)
    (raised : (connect ofStr ⟨GatewayClient.init name token, wire⟩).outcome = .error error) :
    (runMain ofStr (before ++ .openGateway name token wire :: after)).1 = .error (.gateway error) ∧
      ∃ stray ∈ (runMain ofStr (before ++ .openGateway name token wire :: after)).2.strayClients,
        stray.wire.isOpen = true := by
  obtain ⟨reported, strays⟩ := runMain_outcome ofStr (before ++ .openGateway name token wire :: after)
  have body := runBody_append ofStr before (.openGateway name token wire :: after) _ settled
  have opened := (connect_holds_socket ofStr ⟨GatewayClient.init name token, wire⟩ reachable).2
  have failed := EStateM.Result.eq_error raised
  generalize (connect ofStr ⟨GatewayClient.init name token, wire⟩).state = session at failed opened
  rw [reported, strays, body]
  simp only [runBody, MainStep.run, failed, true_and]
  exact ⟨_, List.mem_append_right _ (List.mem_singleton_self _), opened⟩

def ackFrame : Json := .obj [("op", .num 11), ("d", .null)]

def ackFirstWire : Wire :=
  { now := 0, reachable := true, isOpen := false, inbox := [.instant (.payload (some ackFrame))]
    sendFaults := [], traffic := [] }

theorem connect_rejects_ackFrame :
    (connect (fun _ => none) ⟨GatewayClient.init "guest2" "token", ackFirstWire⟩).outcome =
      .error (.expectedHello "guest2" ackFrame) := by
  have dict : ackFrame.isDict = true := rfl
  have other : pyEqInt (ackFrame.get? "op") 10 = false := rfl
  simp only [connect, bind_apply, createConnection_apply, recvJsonBlocking, fields_apply,
    monotonic_apply, inboxBudget_apply]
  norm_num [ackFirstWire, GatewayClient.init, recvJsonLoop, maybeHeartbeat_eq, heartbeatStep, dict,
    other, EStateM.Result.outcome, Double.sub, heartbeatThreshold_default]

theorem runMain_leaves_socket_open_on_ackFrame :
    (runBody (fun _ => none) [.openLog none false, .startNode none true true] MainState.empty).1 =
        .ok () ∧ ackFirstWire.reachable = true ∧
      (connect (fun _ => none) ⟨GatewayClient.init "guest2" "token", ackFirstWire⟩).outcome =
        .error (.expectedHello "guest2" ackFrame) ∧
      (runMain (fun _ => none) ([.openLog none false, .startNode none true true] ++
          .openGateway "guest2" "token" ackFirstWire :: [.work none])).1 =
        .error (.gateway (.expectedHello "guest2" ackFrame)) ∧
      ∃ stray ∈ (runMain (fun _ => none) ([.openLog none false, .startNode none true true] ++
          .openGateway "guest2" "token" ackFirstWire :: [.work none])).2.strayClients,
        stray.wire.isOpen = true :=
  ⟨rfl, rfl, connect_rejects_ackFrame,
    runMain_leaves_socket_open (fun _ => none) [.openLog none false, .startNode none true true]
      [.work none] "guest2" "token" ackFirstWire _ rfl rfl connect_rejects_ackFrame⟩

end ParacordFederation
