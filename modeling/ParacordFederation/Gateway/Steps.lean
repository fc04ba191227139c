import ParacordFederation.Gateway.Client

/-!
One specification lemma per method of `GatewayClient`: what a heartbeat check, a poll and a
backlog scan do to the session. The loops are reasoned about through these lemmas only.
-/

namespace ParacordFederation

open GatewayClient

def heartbeatStep (session : Session) : Session :=
  if session.client.ws = true ∧ Double.sub session.wire.now session.client.lastHeartbeatAt ≥
      heartbeatThreshold session.client.heartbeatIntervalS then
    if session.wire.sendFaults.head? = some true then
      { session with wire := { session.wire with sendFaults := session.wire.sendFaults.tail } }
    else
      { client := { session.client with lastHeartbeatAt := session.wire.now }
        wire := { session.wire with
          sendFaults := session.wire.sendFaults.tail
          traffic := session.wire.traffic ++ [.sent session.wire.now heartbeatFrame] } }
  else session

theorem maybeHeartbeat_eq (session : Session) :
    maybeHeartbeat session = .ok () (heartbeatStep session) := by
  unfold maybeHeartbeat heartbeatStep
  by_cases connected : session.client.ws = true
  · by_cases due : Double.sub session.wire.now session.client.lastHeartbeatAt ≥
        heartbeatThreshold session.client.heartbeatIntervalS
    · by_cases fault : session.wire.sendFaults.head? = some true <;>
        simp [send, connected, due, fault]
    · simp [connected, due]
  · simp [connected]

theorem heartbeatStep_quiet {session : Session}
    (early : Double.sub session.wire.now session.client.lastHeartbeatAt <
      heartbeatThreshold session.client.heartbeatIntervalS) : heartbeatStep session = session := by
  simp [heartbeatStep, not_le.mpr early]

theorem round_pointNine : Double.round 0.9 = 8106479329266893 * 2 ^ (-53 : ℤ) :=
  Double.round_eq (by norm_num) (.inl (by norm_num [abs_of_pos])) (by norm_num [abs_of_pos])
    (by norm_num [abs_of_pos])

/-- `41.25 * 0.9`, the threshold of the interval `__init__` sets, is `37.125` in doubles too. -/
theorem heartbeatThreshold_default : heartbeatThreshold (165 / 4) = 297 / 8 := by
  rw [heartbeatThreshold, Double.mul, round_pointNine,
    @Double.round_eq _ (-47) (297 * 2 ^ 44) (by norm_num) (.inl (by norm_num [abs_of_pos]))
      (by norm_num [abs_of_pos]) (by norm_num [abs_of_pos])]
  norm_num

theorem heartbeatThreshold_nonneg {interval : ℚ} (nonneg : 0 ≤ interval) :
    0 ≤ heartbeatThreshold interval :=
  Double.round_nonneg (mul_nonneg nonneg (Double.round_nonneg (by norm_num)))

theorem heartbeatThreshold_pos {interval : ℚ} (atLeastOne : 1 ≤ interval) :
    0 < heartbeatThreshold interval := by
  have point : 0 < Double.round 0.9 := by rw [round_pointNine]; norm_num
  calc 0 < Double.round (Double.round 0.9) := by rwa [Double.round_round (by norm_num)]
    _ ≤ heartbeatThreshold interval :=
      Double.round_mono point.le (le_mul_of_one_le_left point.le atLeastOne)

theorem round_heartbeatThreshold {interval : ℚ} (nonneg : 0 ≤ interval) :
    Double.round (heartbeatThreshold interval) = heartbeatThreshold interval :=
  Double.round_round (mul_nonneg nonneg (Double.round_nonneg (by norm_num)))

section HeartbeatFrame

variable (session : Session)

@[simp] theorem heartbeatStep_backlog :
    (heartbeatStep session).client.backlog = session.client.backlog := by
  unfold heartbeatStep; split_ifs <;> rfl

@[simp] theorem heartbeatStep_ws : (heartbeatStep session).client.ws = session.client.ws := by
  unfold heartbeatStep; split_ifs <;> rfl

@[simp] theorem heartbeatStep_name : (heartbeatStep session).client.name = session.client.name := by
  unfold heartbeatStep; split_ifs <;> rfl

@[simp] theorem heartbeatStep_interval :
    (heartbeatStep session).client.heartbeatIntervalS = session.client.heartbeatIntervalS := by
  unfold heartbeatStep; split_ifs <;> rfl

@[simp] theorem heartbeatStep_now : (heartbeatStep session).wire.now = session.wire.now := by
  unfold heartbeatStep; split_ifs <;> rfl

@[simp] theorem heartbeatStep_inbox : (heartbeatStep session).wire.inbox = session.wire.inbox := by
  unfold heartbeatStep; split_ifs <;> rfl

end HeartbeatFrame

/-- The dispatch frames among answers of the environment, in arrival order: the frames a
receive loop would see with `op == 0` and a string `t`. -/
def pendingDispatches : List Delivery → List Json
  | [] => []
  | delivery :: rest =>
      match delivery.received with
      | .payload (some msg) => if (dispatchType msg).isSome then msg :: pendingDispatches rest
          else pendingDispatches rest
      | _ => pendingDispatches rest

theorem pendingDispatches_append (first second : List Delivery) :
    pendingDispatches (first ++ second) = pendingDispatches first ++ pendingDispatches second := by
  induction first with
  | nil => rfl
  | cons delivery rest ih =>
      simp only [List.cons_append, pendingDispatches]
      split
      · split <;> simp [ih]
      · exact ih

def dispatchesOf : Option Json → List Json
  | some msg => if (dispatchType msg).isSome then [msg] else []
  | none => []

def pollReads : EStateM.Result GatewayError Session (Option Json) → List Json
  | .ok polled _ => dispatchesOf polled
  | .error _ _ => []

theorem dispatchType_isDict {msg : Json} (typed : (dispatchType msg).isSome) : msg.isDict := by
  cases msg <;> simp_all [dispatchType, Json.get?, Json.isDict]

/-- A poll consumes at most the first answer of the environment, reads its dispatch frame if it
has one, and leaves the backlog alone. -/
theorem pollOnce_reads (session : Session) :
    ∃ consumed, session.wire.inbox = consumed ++ (pollOnce session).state.wire.inbox ∧
      pendingDispatches consumed = pollReads (pollOnce session) ∧
      (pollOnce session).state.client.backlog = session.client.backlog := by
  by_cases connected : session.client.ws = true
  · have inbox := heartbeatStep_inbox session
    have backlog := heartbeatStep_backlog session
    cases hinbox : session.wire.inbox with
    | nil =>
        refine ⟨[], ?_⟩
        simp [pollOnce, connected, maybeHeartbeat_eq, hinbox, inbox, backlog,
          EStateM.Result.state, pollReads, pendingDispatches]
    | cons delivery rest =>
        refine ⟨[delivery], ?_⟩
        rcases delivery with ⟨received, elapsed, nonneg⟩
        rcases received with _ | _ | _ | _ | msg
        all_goals simp [pollOnce, connected, maybeHeartbeat_eq, hinbox, inbox, backlog,
          EStateM.Result.state, pollReads, pendingDispatches, dispatchesOf]
        by_cases dict : msg.isDict
        · simp [dict]
        · have untyped : (dispatchType msg).isSome = false :=
            Bool.eq_false_iff.mpr fun typed => dict (dispatchType_isDict typed)
          simp [dict, untyped]
  · exact ⟨[], by simp [pollOnce, connected, EStateM.Result.state, pollReads, pendingDispatches]⟩

theorem pollOnce_state (session : Session) :
    (pollOnce session).state =
      if session.client.ws then (recv (heartbeatStep session)).state else session := by
  by_cases connected : session.client.ws = true
  · simp only [pollOnce, bind_apply, fields_apply, connected, Bool.not_true, Bool.false_eq_true,
      ↓reduceIte, pure_apply, maybeHeartbeat_eq]
    rcases recv (heartbeatStep session) with ⟨_ | _ | _ | _ | _, _⟩ | ⟨_, _⟩ <;> rfl
  · simp [pollOnce, connected, EStateM.Result.state]

theorem pollOnce_client (session : Session) :
    (pollOnce session).state.client =
      if session.client.ws then (heartbeatStep session).client else session.client := by
  rw [pollOnce_state]
  split
  · rw [recv_apply]; split <;> rfl
  · rfl

theorem pollOnce_name (session : Session) :
    (pollOnce session).state.client.name = session.client.name := by
  rw [pollOnce_client]; split <;> simp

theorem pollOnce_raises {session next : Session} {error : GatewayError}
    (raised : pollOnce session = .error error next) :
    error = .notConnected session.client.name ∨ error = .closedUnexpectedly session.client.name := by
  by_cases connected : session.client.ws = true
  · simp only [pollOnce, bind_apply, fields_apply, connected, Bool.not_true, Bool.false_eq_true,
      ↓reduceIte, pure_apply, maybeHeartbeat_eq] at raised
    split at raised
    · split at raised <;> cases raised
      exact .inr rfl
    · rename_i failed
      rw [recv_apply] at failed
      split at failed <;> cases failed
  · simp only [pollOnce, bind_apply, fields_apply, connected, Bool.not_false, ↓reduceIte,
      throw_apply] at raised
    cases raised
    exact .inl rfl

theorem waitLoop_succ (eventType : String) (predicate : Option Predicate) (deadline : ℚ)
    (fuel : Nat) (seen : List String) (session : Session) :
    waitLoop eventType predicate deadline (fuel + 1) seen session =
      if session.wire.now < deadline then
        match pollOnce session with
        | .ok none next => waitLoop eventType predicate deadline fuel seen next
        | .ok (some msg) next =>
            match dispatchType msg with
            | none => waitLoop eventType predicate deadline fuel seen next
            | some t =>
                match claims eventType predicate t msg with
                | .ok true => .ok msg next
                | .ok false => waitLoop eventType predicate deadline fuel (recordSeen seen t)
                    { next with client := { next.client with backlog := next.client.backlog ++ [msg] } }
                | .error error => .error (.predicateRaised error) next
        | .error error next => .error error next
      else .error (.dispatchTimedOut session.client.name eventType seen) session := by
  simp only [waitLoop, bind_apply, fields_apply, monotonic_apply]
  split
  · simp only [bind_apply]
    rcases pollOnce session with ⟨_ | msg, next⟩ | ⟨error, next⟩ <;> dsimp only
    · rcases dispatchType msg with _ | t <;> dsimp only
      rcases claims eventType predicate t msg with _ | _ | _ <;> rfl
  · rfl

def lastFifteen (xs : List String) : List String := xs.drop (xs.length - 15)

theorem recordSeen_eq (seen : List String) (t : String) :
    recordSeen seen t = lastFifteen (seen ++ [t]) := by
  unfold recordSeen lastFifteen
  split_ifs with long
  · rfl
  · rw [Nat.sub_eq_zero_of_le (Nat.le_of_not_lt long), List.drop_zero]

theorem lastFifteen_append (xs ys : List String) :
    lastFifteen (lastFifteen xs ++ ys) = lastFifteen (xs ++ ys) := by
  unfold lastFifteen
  rw [← List.drop_append_of_le_length (Nat.sub_le xs.length 15), List.drop_drop]
  congr 1
  simp only [List.length_append, List.length_drop]
  omega

theorem foldl_recordSeen (types : List String) : ∀ seen : List String, seen.length ≤ 15 →
    types.foldl recordSeen seen = lastFifteen (seen ++ types) := by
  induction types with
  | nil => intro seen short; simp [lastFifteen, Nat.sub_eq_zero_of_le short]
  | cons t types ih =>
      intro seen _
      rw [List.foldl_cons, ih _ (by rw [recordSeen_eq]; simp [lastFifteen]; omega), recordSeen_eq,
        lastFifteen_append, List.append_assoc, List.singleton_append]

def lift (predicate : Json → Bool) : Predicate := fun data => .ok (predicate data)

/-- The frames an `await` of `eventType` with a non-raising predicate takes: dispatch frames of
that type whose `d` is a dict satisfying the predicate. -/
def awaits (eventType : String) (predicate : Json → Bool) (frame : Json) : Bool :=
  dispatchType frame == some eventType &&
    match frame.get? "d" with
    | some (.obj fields) => predicate (.obj fields)
    | _ => false

section PurePredicate

variable (eventType : String) (predicate : Option (Json → Bool))

theorem accepts_lift (data : Option Json) :
    accepts (predicate.map lift) data =
      .ok (match data with
        | some (.obj fields) => predicate.getD (fun _ => true) (.obj fields)
        | _ => false) := by
  rcases data with _ | (_ | _ | _ | _ | _ | _) <;> cases predicate <;> rfl

theorem claims_lift {t : String} {msg : Json} (typed : dispatchType msg = some t) :
    claims eventType (predicate.map lift) t msg =
      .ok (awaits eventType (predicate.getD fun _ => true) msg) := by
  by_cases same : t = eventType
  · subst same
    simp [claims, awaits, typed, accepts_lift]
  · simp [claims, awaits, typed, same]

theorem scanBacklog_test (item : Json) :
    (!pyEqInt (item.get? "op") 0 || !pyEqStr (item.get? "t") eventType) =
      !(dispatchType item == some eventType) := by
  by_cases zero : pyEqInt (item.get? "op") 0 <;>
    cases typed : asStr (item.get? "t") <;> simp_all [dispatchType, pyEqStr_eq]

theorem scanBacklog_lift (backlog : List Json) (idx : Nat) :
    scanBacklog eventType (predicate.map lift) idx backlog =
      .ok (backlog.findIdx? (awaits eventType (predicate.getD fun _ => true)) idx) := by
  induction backlog generalizing idx with
  | nil => rfl
  | cons item rest ih =>
      simp only [scanBacklog, scanBacklog_test, List.findIdx?_cons, awaits]
      by_cases typed : dispatchType item = some eventType
      · simp only [typed, accepts_lift, beq_self_eq_true, Bool.not_true, Bool.false_eq_true,
          ↓reduceIte, Bool.true_and]
        split <;> simp_all
      · simp [typed, ih]

end PurePredicate

theorem pop_findIdx {α : Type} (wanted : α → Bool) :
    ∀ (xs : List α) (k : Nat), xs.findIdx? wanted = some k →
      xs[k]? = xs.find? wanted ∧ xs.eraseIdx k = xs.eraseP wanted
  | [], k, found => by simp at found
  | x :: xs, k, found => by
      by_cases hit : wanted x
      · simp only [List.findIdx?_cons, hit, ↓reduceIte, Option.some.injEq] at found
        subst found
        simp [hit]
      · simp only [List.findIdx?_cons, hit, Bool.false_eq_true, ↓reduceIte,
          List.findIdx?_start_succ, Option.map_eq_some'] at found
        obtain ⟨j, tail, rfl⟩ := found
        obtain ⟨get, erase⟩ := pop_findIdx wanted xs j tail
        simp [hit, get, erase]

theorem scanBacklog_bound (eventType : String) (predicate : Option Predicate) :
    ∀ (backlog : List Json) (idx found : Nat),
      scanBacklog eventType predicate idx backlog = .ok (some found) →
        found < idx + backlog.length
  | [], _, _, scanned => by simp [scanBacklog] at scanned
  | item :: rest, idx, found, scanned => by
      simp only [scanBacklog] at scanned
      split at scanned
      · have := scanBacklog_bound eventType predicate rest (idx + 1) found scanned
        simp only [List.length_cons]; omega
      · split at scanned
        · cases scanned; simp
        · have := scanBacklog_bound eventType predicate rest (idx + 1) found scanned
          simp only [List.length_cons]; omega
        · cases scanned

theorem findInBacklog_eq (eventType : String) (predicate : Option Predicate) (session : Session) :
    findInBacklog eventType predicate session =
      match scanBacklog eventType predicate 0 session.client.backlog with
      | .ok (some idx) => .ok session.client.backlog[idx]? { session with client := { session.client with
          backlog := session.client.backlog.eraseIdx idx } }
      | .ok none => .ok none session
      | .error error => .error (.predicateRaised error) session := by
  simp only [findInBacklog, bind_apply, fields_apply]
  rcases scanBacklog eventType predicate 0 session.client.backlog with _ | _ | _ <;> rfl

theorem findInBacklog_lift (eventType : String) (predicate : Option (Json → Bool))
    (session : Session) :
    findInBacklog eventType (predicate.map lift) session =
      match session.client.backlog.find? (awaits eventType (predicate.getD fun _ => true)) with
      | some frame => .ok (some frame) { session with client := { session.client with
          backlog := session.client.backlog.eraseP (awaits eventType (predicate.getD fun _ => true)) } }
      | none => .ok none session := by
  rw [findInBacklog_eq, scanBacklog_lift]
  cases found : session.client.backlog.findIdx? (awaits eventType (predicate.getD fun _ => true)) with
  | none =>
      have missing : session.client.backlog.find? (awaits eventType (predicate.getD fun _ => true)) =
          none := by
        simp only [List.findIdx?_eq_none_iff] at found
        simpa using found
      simp [missing]
  | some k =>
      obtain ⟨get, erase⟩ := pop_findIdx _ _ k found
      have bound := (List.findIdx?_eq_some_iff_findIdx_eq.mp found).1
      rw [← get, List.getElem?_eq_getElem bound]
      simp [erase]

/-! ## The pass budget -/

theorem recv_shortens {session next : Session} {item : Received}
    (ran : recv session = .ok item next) (notClosed : item ≠ .closed) :
    next.wire.inbox.length + 1 = session.wire.inbox.length := by
  rw [recv_apply] at ran
  split at ran
  · cases ran; exact absurd rfl notClosed
  · rename_i delivery rest inbox
    cases ran
    simp [inbox]

theorem pollOnce_shortens {session next : Session} {polled : Option Json}
    (ran : pollOnce session = .ok polled next) :
    next.wire.inbox.length + 1 = session.wire.inbox.length := by
  by_cases connected : session.client.ws = true
  · simp only [pollOnce, bind_apply, fields_apply, connected, Bool.not_true, Bool.false_eq_true,
      ↓reduceIte, pure_apply, maybeHeartbeat_eq] at ran
    rcases received : recv (heartbeatStep session) with ⟨item, after⟩ | ⟨_, _⟩
    all_goals simp only [received] at ran
    · have shorter := recv_shortens received
      rcases item with _ | _ | _ | _ | msg
      all_goals simp only [throw_apply, pure_apply] at ran
      all_goals cases ran
      all_goals simpa using shorter nofun
    · cases ran
  · simp [pollOnce, connected] at ran

/-- The pass budget is never what stops the `wait_dispatch` loop: a pass that goes on has
consumed one answer, so any budget above their number gives the same run. -/
theorem waitLoop_fuel (eventType : String) (predicate : Option Predicate) (deadline : ℚ) :
    ∀ (fuel extra : Nat) (seen : List String) (session : Session),
      session.wire.inbox.length < fuel →
      waitLoop eventType predicate deadline (fuel + extra) seen session =
        waitLoop eventType predicate deadline fuel seen session
  | 0, _, _, _, short => absurd short (Nat.not_lt_zero _)
  | fuel + 1, extra, seen, session, short => by
      rw [Nat.add_right_comm, waitLoop_succ, waitLoop_succ]
      by_cases early : session.wire.now < deadline
      · simp only [early, ↓reduceIte]
        rcases polled : pollOnce session with ⟨_ | msg, next⟩ | ⟨error, next⟩ <;> dsimp only
        · have shorter := pollOnce_shortens polled
          exact waitLoop_fuel eventType predicate deadline fuel extra seen next (by omega)
        · have shorter := pollOnce_shortens polled
          rcases dispatchType msg with _ | t <;> dsimp only
          · exact waitLoop_fuel eventType predicate deadline fuel extra seen next (by omega)
          · rcases claims eventType predicate t msg with _ | _ | _ <;> dsimp only
            exact waitLoop_fuel eventType predicate deadline fuel extra _ _ (by simp only; omega)
      · simp only [early, ↓reduceIte]

theorem recvJsonLoop_fuel (deadline : ℚ) :
    ∀ (fuel extra : Nat) (session : Session), session.wire.inbox.length < fuel →
      recvJsonLoop deadline (fuel + extra) session = recvJsonLoop deadline fuel session
  | 0, _, _, short => absurd short (Nat.not_lt_zero _)
  | fuel + 1, extra, session, short => by
      rw [Nat.add_right_comm, recvJsonLoop, recvJsonLoop]
      simp only [bind_apply, fields_apply, monotonic_apply]
      by_cases early : session.wire.now < deadline
      · simp only [early, ↓reduceIte, bind_apply, maybeHeartbeat_eq]
        rcases received : recv (heartbeatStep session) with ⟨item, next⟩ | ⟨_, _⟩
        · have shorter := recv_shortens received
          simp only [heartbeatStep_inbox] at shorter
          dsimp only
          split
          · rfl
          · split
            · rfl
            · exact recvJsonLoop_fuel deadline fuel extra next (by have := shorter nofun; omega)
          · exact recvJsonLoop_fuel deadline fuel extra next (by have := shorter ‹_›; omega)
        · rfl
      · simp only [early, ↓reduceIte]

/-- Both receive loops stop by their own tests: with `n` answers left on the socket a loop ends
within `n + 1` passes, and any larger pass budget gives the same run. -/
theorem receiveLoops_stop_within_inbox (eventType : String) (predicate : Option Predicate)
    (deadline : ℚ) :
    (∀ (fuel extra : Nat) (seen : List String) (session : Session),
      session.wire.inbox.length < fuel →
      waitLoop eventType predicate deadline (fuel + extra) seen session =
        waitLoop eventType predicate deadline fuel seen session) ∧
    ∀ (fuel extra : Nat) (session : Session), session.wire.inbox.length < fuel →
      recvJsonLoop deadline (fuel + extra) session = recvJsonLoop deadline fuel session :=
  ⟨waitLoop_fuel eventType predicate deadline, recvJsonLoop_fuel deadline⟩

section Invariant

variable (Inv : Session → Prop)
  (polled : ∀ session, Inv session → Inv (pollOnce session).state)
  (refiled : ∀ session backlog, Inv session → Inv { session with client := { session.client with backlog } })

include polled refiled

theorem waitLoop_preserves (eventType : String) (predicate : Option Predicate) (deadline : ℚ) :
    ∀ fuel seen session, Inv session →
      Inv (waitLoop eventType predicate deadline fuel seen session).state := by
  intro fuel
  induction fuel with
  | zero => exact fun _ _ => id
  | succ fuel ih =>
      intro seen session holds
      rw [waitLoop_succ]
      split
      · have next := polled session holds
        rcases ran : pollOnce session with ⟨_ | msg, after⟩ | ⟨error, after⟩
        all_goals rw [ran] at next; dsimp only
        · exact ih seen after next
        · rcases dispatchType msg with _ | t <;> dsimp only
          · exact ih seen after next
          · rcases claims eventType predicate t msg with _ | _ | _ <;> dsimp only
            exacts [next, ih _ _ (refiled after _ next), next]
        · exact next
      · exact holds

theorem waitDispatch_preserves (eventType : String) (predicate : Option Predicate) (timeoutS : ℚ)
    (session : Session) (holds : Inv session) :
    Inv (waitDispatch eventType predicate timeoutS session).state := by
  simp only [waitDispatch, bind_apply, findInBacklog_eq]
  rcases scanBacklog eventType predicate 0 session.client.backlog with _ | _ | idx <;> dsimp only
  · exact holds
  · exact waitLoop_preserves Inv polled refiled eventType predicate _ _ _ session holds
  · have popped := refiled session (session.client.backlog.eraseIdx idx) holds
    cases session.client.backlog[idx]?
    · exact waitLoop_preserves Inv polled refiled eventType predicate _ _ _ _ popped
    · exact popped

end Invariant

end ParacordFederation
