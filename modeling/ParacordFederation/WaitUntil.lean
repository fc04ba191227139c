import ParacordFederation.Python
import Mathlib.Data.Rat.Floor
import Mathlib.Tactic.Linarith

/-!
The two copies of `wait_until`: `federation_e2e_validation.py` polls every 0.5 s and
`federation_live_fundamentals_validation.py` every 0.4 s, reporting the last error. Both run
one loop, `pollLoop`, against an environment that says what `time.time()` reads and what each
call of `fn` does.
-/

namespace ParacordFederation

inductive Evaluation where
  | truthy
  | falsy
  | raised (error : PyException)
  deriving DecidableEq, Repr

/-- The environment of one `wait_until` call. `start` is what `time.time()` returns when the
deadline is computed and `lag` the time until the first check; the `k`-th evaluation of `fn`
has outcome `fn k` and takes `cost k` seconds, and the `k`-th `time.sleep(p)` lasts `p + drift k`.
The clock never goes back and a sleep lasts at least what it asks. -/
structure PollEnv where
  start : ℚ
  lag : ℚ
  cost : Nat → ℚ
  drift : Nat → ℚ
  fn : Nat → Evaluation
  lag_nonneg : 0 ≤ lag
  cost_nonneg : ∀ k, 0 ≤ cost k
  drift_nonneg : ∀ k, 0 ≤ drift k

/-- What `time.time()` reads at the `k`-th check of `while time.time() < deadline`. -/
def PollEnv.checkTime (env : PollEnv) (p : ℚ) : Nat → ℚ
  | 0 => env.start + env.lag
  | k + 1 => env.checkTime p k + env.cost k + p + env.drift k

inductive PollEnd where
  | returned (index : Nat)
  | timedOut (lastError : Option PyException)

/-- The loop of `wait_until` with sleep `p`, from the evaluation `k` on; `none` when the fuel
runs out, which `pollBudget` fuel never does. -/
def pollLoop (p : ℚ) (env : PollEnv) (deadline : ℚ) :
    Nat → Nat → Option PyException → Option PollEnd
  | 0, _, _ => none
  | fuel + 1, k, lastError =>
      if env.checkTime p k < deadline then
        match env.fn k with
        | .truthy => some (.returned k)
        | .falsy => pollLoop p env deadline fuel (k + 1) lastError
        | .raised error => pollLoop p env deadline fuel (k + 1) (some error)
      else some (.timedOut lastError)

def pollBudget (p span : ℚ) : Nat := ⌈span / p⌉₊ + 1

/-- `deadline = time.time() + timeout_s`: the sum of two doubles, rounded. -/
def PollEnv.deadline (env : PollEnv) (timeoutS : ℚ) : ℚ := Double.add env.start timeoutS

def timedOutMessage (desc : String) : String := "Timed out waiting for: " ++ desc

namespace E2e

/-- Python's `wait_until` of `federation_e2e_validation.py`; `ok index` returns after the
evaluation `index`. -/
def waitUntil (desc : String) (env : PollEnv) (timeoutS : ℚ := 30) :
    Option (Except PyException Nat) :=
  (pollLoop 0.5 env (env.deadline timeoutS) (pollBudget 0.5 (env.deadline timeoutS - env.start)) 0
      none).map fun
    | .returned index => .ok index
    | .timedOut _ => .error ⟨"TimeoutError", timedOutMessage desc⟩

end E2e

namespace Live

/-- Python's `wait_until` of `federation_live_fundamentals_validation.py`, which names the
last error in its message. -/
def waitUntil (desc : String) (env : PollEnv) (timeoutS : ℚ := 30) :
    Option (Except PyException Nat) :=
  (pollLoop 0.4 env (env.deadline timeoutS) (pollBudget 0.4 (env.deadline timeoutS - env.start)) 0
      none).map fun
    | .returned index => .ok index
    | .timedOut (some lastError) =>
        .error ⟨"TimeoutError", timedOutMessage desc ++ " (last error: " ++ lastError.message ++ ")"⟩
    | .timedOut none => .error ⟨"TimeoutError", timedOutMessage desc⟩

end Live

section Clock

variable (env : PollEnv) (p : ℚ)

@[simp] theorem checkTime_succ (k : Nat) :
    env.checkTime p (k + 1) = env.checkTime p k + env.cost k + p + env.drift k := rfl

theorem checkTime_step (k : Nat) :
    env.checkTime p k + p ≤ env.checkTime p (k + 1) := by
  have := env.cost_nonneg k
  have := env.drift_nonneg k
  simp only [checkTime_succ]
  linarith

theorem checkTime_mono (nonneg : 0 ≤ p) {j k : Nat} (le : j ≤ k) :
    env.checkTime p j ≤ env.checkTime p k :=
  monotone_nat_of_le_succ (fun k => by linarith [checkTime_step env p k]) le

end Clock

/-- What `last_error` holds when the loop reaches its `k`-th check: the exception of the last
evaluation before it that raised. -/
def PollEnv.lastRaised (env : PollEnv) : Nat → Option PyException
  | 0 => none
  | k + 1 =>
      match env.fn k with
      | .raised error => some error
      | _ => env.lastRaised k

/-- What the loop promises about how it ended, for the evaluations from the `first`-th on: it
returned at the first truthy one, which started before the deadline, or none of those that
started before the deadline was truthy. -/
def Settles (p : ℚ) (env : PollEnv) (deadline : ℚ) (first : Nat) : PollEnd → Prop
  | .returned index => first ≤ index ∧ env.checkTime p index < deadline ∧
      env.fn index = .truthy ∧ ∀ j, first ≤ j → j < index → env.fn j ≠ .truthy
  | .timedOut _ => ∀ j, first ≤ j → env.checkTime p j < deadline → env.fn j ≠ .truthy

section Loop

variable {p : ℚ} {env : PollEnv} {deadline : ℚ}

theorem Settles.of_succ {k : Nat} {outcome : PollEnd} (missed : env.fn k ≠ .truthy)
    (rest : Settles p env deadline (k + 1) outcome) : Settles p env deadline k outcome := by
  cases outcome with
  | returned index =>
      obtain ⟨after, early, hit, misses⟩ := rest
      refine ⟨by omega, early, hit, fun j first before => ?_⟩
      rcases Nat.eq_or_lt_of_le first with rfl | later
      exacts [missed, misses j later before]
  | timedOut _ =>
      intro j first early
      rcases Nat.eq_or_lt_of_le first with rfl | later
      exacts [missed, rest j later early]

theorem pollLoop_settles (nonneg : 0 ≤ p) :
    ∀ fuel k lastError outcome, pollLoop p env deadline fuel k lastError = some outcome →
      Settles p env deadline k outcome
  | 0, _, _, _, ran => by cases ran
  | fuel + 1, k, lastError, outcome, ran => by
      simp only [pollLoop] at ran
      split at ran
      · rcases evaluated : env.fn k with _ | _ | error
        all_goals simp only [evaluated, Option.some.injEq] at ran
        · subst ran
          exact ⟨le_refl k, ‹_›, evaluated, fun j first before => absurd before (by omega)⟩
        · exact (pollLoop_settles nonneg fuel _ _ outcome ran).of_succ (by simp [evaluated])
        · exact (pollLoop_settles nonneg fuel _ _ outcome ran).of_succ (by simp [evaluated])
      · cases ran
        intro j first early
        exact absurd ((checkTime_mono env p nonneg first).trans_lt early) ‹_›

theorem pollLoop_lastError :
    ∀ fuel k last, pollLoop p env deadline fuel k (env.lastRaised k) = some (.timedOut last) →
      ∃ stop, k ≤ stop ∧ (∀ j, k ≤ j → j < stop → env.checkTime p j < deadline) ∧
        ¬env.checkTime p stop < deadline ∧ last = env.lastRaised stop
  | 0, _, _, ran => by cases ran
  | fuel + 1, k, last, ran => by
      simp only [pollLoop] at ran
      split at ran
      · rename_i before
        have carried : ∀ lastError, env.lastRaised (k + 1) = lastError →
            pollLoop p env deadline fuel (k + 1) lastError = some (.timedOut last) →
            ∃ stop, k ≤ stop ∧ (∀ j, k ≤ j → j < stop → env.checkTime p j < deadline) ∧
              ¬env.checkTime p stop < deadline ∧ last = env.lastRaised stop := by
          rintro _ rfl later
          obtain ⟨stop, after, early, late, reported⟩ := pollLoop_lastError fuel (k + 1) last later
          refine ⟨stop, by omega, fun j first below => ?_, late, reported⟩
          rcases Nat.eq_or_lt_of_le first with rfl | beyond
          exacts [before, early j beyond below]
        rcases evaluated : env.fn k with _ | _ | error
        all_goals simp only [evaluated] at ran
        · cases ran
        · exact carried _ (by simp [PollEnv.lastRaised, evaluated]) ran
        · exact carried _ (by simp [PollEnv.lastRaised, evaluated]) ran
      · cases ran
        exact ⟨k, le_refl k, fun j first below => absurd below (by omega), ‹_›, rfl⟩

theorem pollLoop_isSome (positive : 0 < p) :
    ∀ (fuel k : Nat) lastError, deadline ≤ env.checkTime p k + fuel * p →
      (pollLoop p env deadline (fuel + 1) k lastError).isSome
  | 0, k, lastError, covered => by
      have late : ¬env.checkTime p k < deadline := by simpa using covered
      simp [pollLoop, late]
  | fuel + 1, k, lastError, covered => by
      have later : deadline ≤ env.checkTime p (k + 1) + fuel * p := by
        push_cast at covered
        linarith [checkTime_step env p k]
      simp only [pollLoop]
      split
      · rcases env.fn k with _ | _ | error
        · rfl
        · exact pollLoop_isSome positive fuel (k + 1) lastError later
        · exact pollLoop_isSome positive fuel (k + 1) _ later
      · rfl

theorem pollLoop_budget (positive : 0 < p) (deadline : ℚ) :
    ∃ outcome, pollLoop p env deadline (pollBudget p (deadline - env.start)) 0 none = some outcome ∧
      Settles p env deadline 0 outcome := by
  have covered : deadline ≤ env.checkTime p 0 + ⌈(deadline - env.start) / p⌉₊ * p := by
    have ceiling := (div_le_iff₀ positive).mp (Nat.le_ceil ((deadline - env.start) / p))
    have := env.lag_nonneg
    simp only [PollEnv.checkTime]
    linarith
  obtain ⟨outcome, ran⟩ := Option.isSome_iff_exists.mp (pollLoop_isSome positive _ 0 none covered)
  exact ⟨outcome, ran, pollLoop_settles positive.le _ 0 none outcome ran⟩

end Loop

/-- What a `wait_until` call promises: it returned right after the first truthy evaluation,
which started before the deadline; or it raised a `TimeoutError` of its own whose message
names `desc`, and no evaluation that started before the deadline was truthy. -/
def WaitContract (p : ℚ) (env : PollEnv) (desc : String) (deadline : ℚ) :
    Except PyException Nat → Prop
  | .ok index => env.checkTime p index < deadline ∧ env.fn index = .truthy ∧
      ∀ j < index, env.fn j ≠ .truthy
  | .error raised => (∃ detail, raised = ⟨"TimeoutError", timedOutMessage desc ++ detail⟩) ∧
      ∀ j, env.checkTime p j < deadline → env.fn j ≠ .truthy

def PollEnv.Exact (env : PollEnv) : Prop := env.lag = 0 ∧ ∀ k, env.cost k = 0 ∧ env.drift k = 0

def PollEnv.TruthyFrom (env : PollEnv) (p T : ℚ) : Prop :=
  ∀ k, env.start + T ≤ env.checkTime p k → env.fn k = .truthy

section Contract

variable {p : ℚ} {env : PollEnv} {desc : String} {deadline : ℚ}

theorem waitUntil_of_report (positive : 0 < p) (report : PollEnd → Except PyException Nat)
    (returned : ∀ index, report (.returned index) = .ok index)
    (timedOut : ∀ lastError, ∃ detail,
      report (.timedOut lastError) = .error ⟨"TimeoutError", timedOutMessage desc ++ detail⟩) :
    ∃ result, (pollLoop p env deadline (pollBudget p (deadline - env.start)) 0 none).map report =
      some result ∧ WaitContract p env desc deadline result := by
  obtain ⟨outcome, ran, settles⟩ := @pollLoop_budget p env positive deadline
  rw [ran]
  cases outcome with
  | returned index =>
      obtain ⟨-, early, hit, misses⟩ := settles
      exact ⟨_, rfl, by simpa [returned, WaitContract] using
        ⟨early, hit, fun j before => misses j (Nat.zero_le j) before⟩⟩
  | timedOut lastError =>
      obtain ⟨detail, reported⟩ := timedOut lastError
      exact ⟨_, rfl, by simpa [reported, WaitContract] using fun j => settles j (Nat.zero_le j)⟩

theorem exact_checkTime (exact : env.Exact) (k : Nat) : env.checkTime p k = env.start + k * p := by
  induction k with
  | zero => simp [PollEnv.checkTime, exact.1]
  | succ k ih =>
      simp only [checkTime_succ, ih, (exact.2 k).1, (exact.2 k).2]
      push_cast
      ring

theorem truthy_before_deadline (positive : 0 < p) (exact : env.Exact) {T : ℚ} (after : 0 ≤ T)
    (fits : env.start + T + p ≤ deadline) (truthy : env.TruthyFrom p T) :
    ∃ k, env.checkTime p k < deadline ∧ env.fn k = .truthy := by
  have reached : T ≤ ⌈T / p⌉₊ * p := (div_le_iff₀ positive).mp (Nat.le_ceil _)
  have within : ⌈T / p⌉₊ * p < T + p := by
    have := Nat.ceil_lt_add_one (div_nonneg after positive.le)
    have := (mul_lt_mul_right positive).mpr this
    rwa [add_mul, div_mul_cancel₀ _ positive.ne', one_mul] at this
  refine ⟨⌈T / p⌉₊, ?_, truthy _ ?_⟩
  all_goals rw [exact_checkTime exact]
  all_goals linarith

theorem WaitContract.returns {run : Option (Except PyException Nat)} (positive : 0 < p)
    (kept : ∃ result, run = some result ∧ WaitContract p env desc deadline result)
    (exact : env.Exact) {T : ℚ} (after : 0 ≤ T) (fits : env.start + T + p ≤ deadline)
    (truthy : env.TruthyFrom p T) : ∃ index, run = some (.ok index) := by
  obtain ⟨result, ran, contract⟩ := kept
  obtain ⟨k, early, hit⟩ := truthy_before_deadline positive exact after fits truthy
  cases result with
  | ok index => exact ⟨index, ran⟩
  | error raised => exact absurd hit (contract.2 k early)

end Contract

/-- Both copies of `wait_until` end, for every behaviour of the clock that never goes back and
of `fn`. Each returns right after the first truthy evaluation that started before the
deadline `time.time() + timeout_s`, a double, or raises a `TimeoutError` naming `desc` when
there is none, never what `fn` raised. With exact sleeps, a condition truthy from `T` on makes
both return when `T + p` falls before that deadline. -/
theorem waitUntil_contract (desc : String) (env : PollEnv) (timeoutS : ℚ) :
    (∃ result, E2e.waitUntil desc env timeoutS = some result ∧
      WaitContract 0.5 env desc (env.deadline timeoutS) result) ∧
    (∃ result, Live.waitUntil desc env timeoutS = some result ∧
      WaitContract 0.4 env desc (env.deadline timeoutS) result) ∧
    (env.Exact → ∀ T, 0 ≤ T → env.start + T + 0.5 ≤ env.deadline timeoutS → env.TruthyFrom 0.5 T →
      ∃ index, E2e.waitUntil desc env timeoutS = some (.ok index)) ∧
    (env.Exact → ∀ T, 0 ≤ T → env.start + T + 0.4 ≤ env.deadline timeoutS → env.TruthyFrom 0.4 T →
      ∃ index, Live.waitUntil desc env timeoutS = some (.ok index)) := by
  have e2e : ∃ result, E2e.waitUntil desc env timeoutS = some result ∧
      WaitContract 0.5 env desc (env.deadline timeoutS) result :=
    waitUntil_of_report (by norm_num) _ (fun _ => rfl) fun _ => ⟨"", by simp⟩
  have live : ∃ result, Live.waitUntil desc env timeoutS = some result ∧
      WaitContract 0.4 env desc (env.deadline timeoutS) result := by
    refine waitUntil_of_report (by norm_num) _ (fun _ => rfl) fun lastError => ?_
    cases lastError with
    | none => exact ⟨"", by simp⟩
    | some lastError => exact ⟨" (last error: " ++ lastError.message ++ ")", by simp [String.append_assoc]⟩
  exact ⟨e2e, live, fun exact _ after fits => WaitContract.returns (by norm_num) e2e exact after fits,
    fun exact _ after fits => WaitContract.returns (by norm_num) live exact after fits⟩

/-- A health check started at a `time.time()` of 1794211200, with exact sleeps, that turns truthy
at 1.0 s: at `T = timeout_s - 0.5` for a `timeout_s` of `1.0000001`. -/
def boundaryEnv : PollEnv :=
  { start := 1794211200, lag := 0, cost := fun _ => 0, drift := fun _ => 0
    fn := fun k => if k < 2 then .falsy else .truthy
    lag_nonneg := le_refl 0, cost_nonneg := fun _ => le_refl 0, drift_nonneg := fun _ => le_refl 0 }

theorem round_timeout : Double.round 1.0000001 = 4503600077730459 * 2 ^ (-52 : ℤ) :=
  Double.round_eq (by norm_num) (.inl (by norm_num [abs_of_pos])) (by norm_num [abs_of_pos])
    (by norm_num [abs_of_pos])

/-- `1794211200.0 + 1.0000001` rounds to `1794211201.0`: the deadline falls on the third check. -/
theorem boundaryEnv_deadline : boundaryEnv.deadline (Double.round 1.0000001) = 1794211201 := by
  rw [PollEnv.deadline, Double.add, round_timeout, boundaryEnv,
    @Double.round_eq _ (-22) 7525467217199104 (by norm_num) (.inl (by norm_num [abs_of_pos]))
      (by norm_num [abs_of_pos]) (by norm_num [abs_of_pos])]
  norm_num

/-- A condition truthy from `T` on with `T + p = timeout_s` can still time out: the deadline is
the double nearest `time.time() + timeout_s`, here below it, and the evaluation at `T + p` no
longer starts before it. -/
theorem waitUntil_times_out_at_rounded_deadline :
    boundaryEnv.Exact ∧ boundaryEnv.TruthyFrom 0.5 (Double.round 1.0000001 - 0.5) ∧
      0 ≤ Double.round 1.0000001 - 0.5 ∧
      Double.round 1.0000001 - 0.5 + 0.5 ≤ Double.round 1.0000001 ∧
      E2e.waitUntil "node health" boundaryEnv (Double.round 1.0000001) =
        some (.error ⟨"TimeoutError", timedOutMessage "node health"⟩) := by
  have exact : boundaryEnv.Exact := ⟨rfl, fun _ => ⟨rfl, rfl⟩⟩
  refine ⟨exact, ?_, by rw [round_timeout]; norm_num, by norm_num, ?_⟩
  · intro k reached
    rw [exact_checkTime exact, round_timeout] at reached
    have past : (1 : ℚ) < k := by norm_num at reached; linarith
    have late : ¬k < 2 := by
      have : 1 < k := by exact_mod_cast past
      omega
    simp [boundaryEnv, late]
  · have ceiling : ⌈((1794211201 : ℚ) - 1794211200) / 0.5⌉₊ = 2 := by
      rw [Nat.ceil_eq_iff (by norm_num)]; norm_num
    rw [E2e.waitUntil, boundaryEnv_deadline, show boundaryEnv.start = 1794211200 from rfl,
      pollBudget, ceiling]
    simp only [pollLoop, boundaryEnv, PollEnv.checkTime]
    norm_num

/-- The live copy's timeout names the exception of the last evaluation of `fn` that raised among
those that started before the deadline, and stays silent when none raised. -/
theorem Live.waitUntil_reports_last_error (desc : String) (env : PollEnv) (timeoutS : ℚ)
    (error : PyException) (timedOut : Live.waitUntil desc env timeoutS = some (.error error)) :
    ∃ stop, (∀ j < stop, env.checkTime 0.4 j < env.deadline timeoutS) ∧
      env.deadline timeoutS ≤ env.checkTime 0.4 stop ∧
      error = ⟨"TimeoutError", timedOutMessage desc ++
        match env.lastRaised stop with
        | some last => " (last error: " ++ last.message ++ ")"
        | none => ""⟩ := by
  obtain ⟨outcome, ran, reported⟩ := Option.map_eq_some'.1 timedOut
  cases outcome with
  | returned index => cases reported
  | timedOut last =>
      obtain ⟨stop, -, early, late, rfl⟩ := pollLoop_lastError _ 0 last ran
      refine ⟨stop, fun j below => early j (Nat.zero_le j) below, not_lt.1 late, ?_⟩
      cases lastError : env.lastRaised stop <;> simp_all [String.append_assoc]

def lockedEnv : PollEnv :=
  { start := 0, lag := 0, cost := fun _ => 0, drift := fun _ => 0
    fn := fun k => if k = 0 then .raised ⟨"OperationalError", "database is locked"⟩ else .falsy
    lag_nonneg := le_refl 0, cost_nonneg := fun _ => le_refl 0, drift_nonneg := fun _ => le_refl 0 }

theorem waitUntil_reports_last_error_on_lockedEnv :
    Live.waitUntil "message on B" lockedEnv 1 = some (.error ⟨"TimeoutError",
      "Timed out waiting for: message on B (last error: database is locked)"⟩) ∧
    ∃ stop, (∀ j < stop, lockedEnv.checkTime 0.4 j < lockedEnv.deadline 1) ∧
      lockedEnv.deadline 1 ≤ lockedEnv.checkTime 0.4 stop ∧
      (⟨"TimeoutError", "Timed out waiting for: message on B (last error: database is locked)"⟩ :
        PyException) = ⟨"TimeoutError", timedOutMessage "message on B" ++
        match lockedEnv.lastRaised stop with
        | some last => " (last error: " ++ last.message ++ ")"
        | none => ""⟩ :=
  have timedOut : Live.waitUntil "message on B" lockedEnv 1 = some (.error ⟨"TimeoutError",
      "Timed out waiting for: message on B (last error: database is locked)"⟩) := by
    have deadline : lockedEnv.deadline 1 = 1 := by
      simpa [PollEnv.deadline, Double.add, lockedEnv] using Double.round_intCast 1 (by norm_num)
    have ceiling : ⌈(1 - 0 : ℚ) / 0.4⌉₊ = 3 := by rw [Nat.ceil_eq_iff (by norm_num)]; norm_num
    rw [Live.waitUntil, deadline, show lockedEnv.start = 0 from rfl, pollBudget, ceiling]
    simp only [pollLoop, lockedEnv, PollEnv.checkTime]
    norm_num [timedOutMessage]
    rfl
  ⟨timedOut, Live.waitUntil_reports_last_error "message on B" lockedEnv 1 _ timedOut⟩

def recoveringEnv : PollEnv :=
  { start := 0, lag := 0, cost := fun _ => 0, drift := fun _ => 0
    fn := fun k => if k < 3 then .raised ⟨"ConnectionRefusedError", "[Errno 111] Connection refused"⟩
      else .truthy
    lag_nonneg := le_refl 0, cost_nonneg := fun _ => le_refl 0, drift_nonneg := fun _ => le_refl 0 }

theorem recoveringEnv_exact : recoveringEnv.Exact := ⟨rfl, fun _ => ⟨rfl, rfl⟩⟩

theorem waitUntil_contract_on_recovery :
    recoveringEnv.Exact ∧ recoveringEnv.TruthyFrom 0.5 1.5 ∧
      recoveringEnv.start + 1.5 + 0.5 ≤ recoveringEnv.deadline 30 ∧
      ∃ index, E2e.waitUntil "node health" recoveringEnv 30 = some (.ok index) := by
  have truthy : recoveringEnv.TruthyFrom 0.5 1.5 := by
    intro k reached
    rw [exact_checkTime recoveringEnv_exact] at reached
    have late : (3 : ℚ) ≤ k := by simp only [recoveringEnv] at reached; linarith
    have : ¬k < 3 := by exact_mod_cast not_lt.mpr late
    simp [recoveringEnv, this]
  have fits : recoveringEnv.start + 1.5 + 0.5 ≤ recoveringEnv.deadline 30 := by
    have deadline : recoveringEnv.deadline 30 = 30 := by
      simpa [PollEnv.deadline, Double.add, recoveringEnv] using Double.round_intCast 30 (by norm_num)
    rw [deadline]
    norm_num [recoveringEnv]
  exact ⟨recoveringEnv_exact, truthy, fits,
    (waitUntil_contract "node health" recoveringEnv 30).2.2.1 recoveringEnv_exact 1.5 (by norm_num)
      fits truthy⟩

end ParacordFederation
