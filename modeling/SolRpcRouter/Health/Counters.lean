import SolRpcRouter.Health.Hysteresis
import SolRpcRouter.Health.Loop

/-! # The streak counters over long runs

`consecutive_failures` and `consecutive_successes` are `u32`s that every
iteration of `health_check_loop` bumps with a plain `+= 1`, and nothing bounds
how long a streak lasts. The model's `UInt32` addition is the release build's
wrapping `+=`; a debug build panics on the same increment.

* `runLoop` — `n` iterations of the loop over a snapshot that no hot reload
  replaces, the environment choosing every iteration's probe results;
* `runLoop_single` — over a one-backend snapshot, the backend's record after `n`
  iterations is `statusAfter` of its `n` probes: the loop refines the
  per-backend fold of `Hysteresis`;
* `statusAfter_streak` — a streak of `n` outcomes of one kind leaves that kind's
  counter at `n mod 2^32`.

So a backend that fails `2^32 - 1` probes in a row holds `u32::MAX` failures, and
the next failure's `+= 1` goes past it; the same holds of successes.
-/

namespace SolRpcRouter.Health

open Hysteresis

/-- `n` iterations of `health_check_loop` from the published `currentState`, with
no hot reload in between: iteration `k` reads what the one before it wrote, its
probes return `rounds k`, and `clocks k` is its clock. `none` is a panic of an
iteration. -/
def runLoop (rounds : Nat → (snapshot : RouterState) → CheckRound snapshot.backends)
    (clocks : Nat → Nat → Nat) : Nat → RouterState → Option RouterState
  | 0, currentState => some currentState
  | n + 1, currentState => (runLoop rounds clocks n currentState).bind fun snapshot =>
      healthCheckCycle snapshot (rounds n snapshot) (clocks n)

/-- Every backend's probe returns `result`. -/
def uniformRound (result : CheckResult) (snapshot : RouterState) :
    CheckRound snapshot.backends :=
  ⟨snapshot.backends.map fun _ => result, List.length_map _ _⟩

/-- The counter an outcome bumps: `consecutive_failures` for a bad one,
`consecutive_successes` for a good one. -/
def BackendHealthStatus.streak (status : BackendHealthStatus) : Bool → UInt32
  | true => status.consecutiveFailures
  | false => status.consecutiveSuccesses

/-! ## The loop over one backend -/

/-- One iteration over a snapshot with one backend: its record and its flag take
the update with its result. -/
theorem healthCheckCycle_single {currentState : RouterState} {backend : RuntimeBackend}
    (single : currentState.backends = [backend]) (round : CheckRound currentState.backends)
    {result : CheckResult} (answered : round.results = [result]) (clock : Nat → Nat) :
    healthCheckCycle currentState round clock =
      let status := publishedStatus currentState.healthCheckConfig
        (maxSlot [(backend.config.label, result)]) (clock 0) currentState.healthState
        backend.config.label result
      some { currentState with
        healthState := currentState.healthState.updateStatus backend.config.label status
        backends := [{ backend with healthy := status.healthy }] } := by
  unfold healthCheckCycle CheckRound.labelled
  rw [answered]
  simp only [single, List.zip_cons_cons, List.zip_nil_right, List.map_cons, List.map_nil]
  rfl

/-- Over a one-backend snapshot fresh from `HealthState::new`, the backend's record
after `n` iterations is `statusAfter` of the `n` probes it made. -/
theorem runLoop_single {start : RouterState} {backend : RuntimeBackend}
    (single : start.backends = [backend])
    (fresh : start.healthState.getStatus backend.config.label = some .default)
    (results : Nat → CheckResult) (clocks : Nat → Nat → Nat) :
    ∀ n, ∃ snapshot, runLoop (fun k => uniformRound (results k)) clocks n start = some snapshot ∧
      snapshot.healthCheckConfig = start.healthCheckConfig ∧
      (∃ healthy, snapshot.backends = [{ backend with healthy := healthy }]) ∧
      snapshot.healthState.getStatus backend.config.label =
        some (statusAfter start.healthCheckConfig ((List.range n).map fun k =>
          ⟨maxSlot [(backend.config.label, results k)], clocks k 0, results k⟩))
  | 0 => ⟨start, rfl, rfl, ⟨backend.healthy, single⟩, fresh⟩
  | n + 1 => by
    obtain ⟨snapshot, ran, sameConfig, ⟨healthy, backends⟩, recorded⟩ :=
      runLoop_single single fresh results clocks n
    have answered : (uniformRound (results n) snapshot).results = [results n] := by
      simp [uniformRound, backends]
    let status := publishedStatus snapshot.healthCheckConfig
      (maxSlot [(backend.config.label, results n)]) (clocks n 0) snapshot.healthState
      backend.config.label (results n)
    refine ⟨{ snapshot with
        healthState := snapshot.healthState.updateStatus backend.config.label status
        backends := [{ backend with healthy := status.healthy }] },
      by rw [runLoop, ran, Option.some_bind, healthCheckCycle_single backends _ answered],
      sameConfig, ⟨_, rfl⟩, ?_⟩
    unfold status
    rw [HealthState.getStatus_updateStatus_same, publishedStatus, recorded, Option.getD_some,
      sameConfig, List.range_succ, List.map_append, List.map_singleton,
      statusAfter_append_singleton]

/-! ## A streak wraps at `2^32` -/

/-- A run of `n` outcomes of one kind from the default record leaves that kind's
counter at `n mod 2^32`. -/
theorem statusAfter_streak (healthConfig : HealthCheckConfig) (verdict : Bool)
    (probes : List Probe)
    (uniform : ∀ probe ∈ probes,
      countsAsFailure healthConfig.maxSlotLag probe.maxSlot probe.checkResult = verdict) :
    ((statusAfter healthConfig probes).streak verdict).toNat = probes.length % 2 ^ 32 := by
  induction probes using List.reverseRecOn with
  | nil => cases verdict <;> rfl
  | append_singleton probes probe inductionHypothesis =>
    have earlier := inductionHypothesis fun p member => uniform p (List.mem_append_left _ member)
    have last := uniform probe (List.mem_append_right _ (List.mem_singleton_self _))
    rw [statusAfter_append_singleton, List.length_append, List.length_singleton]
    cases verdict with
    | true =>
      obtain ⟨error, updated⟩ :=
        @updateCurrentStatus_of_failure _ _ probe.now (statusAfter healthConfig probes) _ last
      rw [updated]
      exact counter_succ_toNat _ earlier
    | false =>
      rw [updateCurrentStatus_of_success last]
      exact counter_succ_toNat _ earlier

/-! ## A backend under one outcome forever -/

/-- One backend, fresh from `HealthState::new`, probed with `getSlot`. -/
def soloSnapshot : RouterState where
  backends := [⟨⟨"solo", "http://localhost:8899"⟩, true⟩]
  healthCheckConfig := ⟨"getSlot", 5, 20, 3, 2⟩
  healthState := HealthState.new ["solo"]

/-- The record of `solo` after `n` iterations whose probes all return `result`. -/
def soloAfter (result : CheckResult) (n : Nat) : Option BackendHealthStatus :=
  (runLoop (fun _ => uniformRound result) (fun _ _ => 0) n soloSnapshot).bind fun snapshot =>
    snapshot.healthState.getStatus "solo"

/-- The counter of the outcome `result` stands at `n mod 2^32` after `n`
iterations. -/
theorem soloAfter_streak {result : CheckResult} {verdict : Bool} {n : Nat} {counter : UInt32}
    (outcome : countsAsFailure 20 (maxSlot [("solo", result)]) result = verdict)
    (wrapped : n % 2 ^ 32 = counter.toNat) :
    (soloAfter result n).map (fun status => status.streak verdict) = some counter := by
  have fresh : soloSnapshot.healthState.getStatus "solo" = some .default := by
    simp [soloSnapshot, HealthState.getStatus_new]
  obtain ⟨snapshot, ran, -, -, recorded⟩ :=
    @runLoop_single soloSnapshot ⟨⟨"solo", "http://localhost:8899"⟩, true⟩ rfl fresh
      (fun _ => result) (fun _ _ => 0) n
  rw [soloAfter, ran, Option.some_bind, recorded, Option.map_some', Option.some.injEq]
  apply UInt32.toNat.inj
  rw [statusAfter_streak _ verdict _ ?uniform, List.length_map, List.length_range, wrapped]
  simp only [List.mem_map, List.mem_range]
  rintro _ ⟨_, _, rfl⟩
  exact outcome

/-- A backend that fails `2^32 - 1` probes in a row holds `u32::MAX` failures, and
the next failure's `+= 1` goes past it: the release build stores `0`, where a debug
build panics. A backend that answers every probe does the same with its
successes. -/
theorem soloAfter_counters_overflow :
    (soloAfter (.error "Health check request failed: connection refused") (2 ^ 32 - 1)).map
        BackendHealthStatus.consecutiveFailures = some 4294967295 ∧
      (soloAfter (.error "Health check request failed: connection refused") (2 ^ 32)).map
        BackendHealthStatus.consecutiveFailures = some 0 ∧
      (soloAfter (.ok (some 100)) (2 ^ 32 - 1)).map BackendHealthStatus.consecutiveSuccesses =
        some 4294967295 ∧
      (soloAfter (.ok (some 100)) (2 ^ 32)).map BackendHealthStatus.consecutiveSuccesses =
        some 0 :=
  ⟨@soloAfter_streak _ true _ _ rfl rfl, @soloAfter_streak _ true _ _ rfl rfl,
    @soloAfter_streak _ false _ _ rfl rfl, @soloAfter_streak _ false _ _ rfl rfl⟩

end SolRpcRouter.Health
