import SolRpcRouter.Health.Update
import Mathlib.Data.List.Basic
import Mathlib.Algebra.Group.Nat.Basic

/-! # Hysteresis of the health flag

What the two thresholds promise, stated over whole runs of one backend's probes
and proved for the code's `u32` counters.

* `FlaggedUnhealthy` — the specification: some outcome ended a run of at least
  `failuresThreshold` bad outcomes, and no later outcome ended a run of at least
  `successesThreshold` good ones.
* `Streaks` — an abstract machine with unbounded streak counters; its flag is
  `false` exactly when `FlaggedUnhealthy` holds (`run_healthy_eq_false_iff`).
* `Tracks` — the refinement: the per-backend update of `health_check_loop`, folded
  from `BackendHealthStatus.default`, keeps the abstract flag and the abstract
  counters modulo `2^32`.

The refinement needs `Streaks.Calibrated`: a counter at or past its threshold
already carries the matching flag. It is what makes a wrapped `u32` counter
harmless — when `consecutive_failures + 1` wraps below the threshold, the flag
is already `false`.
-/

namespace SolRpcRouter.Health.Hysteresis

/-! ## The specification -/

/-- Outcome `k` (counting from `1`) ends a run of at least `length` consecutive
outcomes equal to `verdict`. -/
def EndsRun (outcomes : List Bool) (verdict : Bool) (length k : Nat) : Prop :=
  length ≤ k ∧ ∀ j < k, k - length ≤ j → outcomes[j]? = some verdict

instance (outcomes : List Bool) (verdict : Bool) (length k : Nat) :
    Decidable (EndsRun outcomes verdict length k) :=
  inferInstanceAs (Decidable (length ≤ k ∧ ∀ j < k, k - length ≤ j → outcomes[j]? = some verdict))

/-- The flag the thresholds call for after `outcomes` (`true` is a bad outcome) is
`false`. -/
def FlaggedUnhealthy (failuresThreshold successesThreshold : Nat) (outcomes : List Bool) : Prop :=
  ∃ k ≤ outcomes.length, EndsRun outcomes true failuresThreshold k ∧
    ∀ k' ≤ outcomes.length, k < k' → ¬ EndsRun outcomes false successesThreshold k'

instance (failuresThreshold successesThreshold : Nat) (outcomes : List Bool) :
    Decidable (FlaggedUnhealthy failuresThreshold successesThreshold outcomes) :=
  inferInstanceAs (Decidable (∃ k ≤ outcomes.length, EndsRun outcomes true failuresThreshold k ∧
    ∀ k' ≤ outcomes.length, k < k' → ¬ EndsRun outcomes false successesThreshold k'))

section Runs

variable {outcomes : List Bool} {last verdict : Bool} {length k : Nat}

theorem endsRun_append_of_le (within : k ≤ outcomes.length) :
    EndsRun (outcomes ++ [last]) verdict length k ↔ EndsRun outcomes verdict length k := by
  have same : ∀ j < k, (outcomes ++ [last])[j]? = outcomes[j]? := fun j below =>
    List.getElem?_append_left (by omega)
  exact and_congr_right fun _ => forall₂_congr fun j below => by rw [same j below]

theorem endsRun_append_last :
    EndsRun (outcomes ++ [last]) verdict length (outcomes.length + 1) ↔
      length = 0 ∨ (last = verdict ∧ EndsRun outcomes verdict (length - 1) outcomes.length) := by
  have lastEntry := List.getElem?_concat_length outcomes last
  have earlier : ∀ j < outcomes.length, (outcomes ++ [last])[j]? = outcomes[j]? := fun j below =>
    List.getElem?_append_left below
  constructor
  · rintro ⟨bound, run⟩
    by_cases empty : length = 0
    · exact .inl empty
    · have atLast := run outcomes.length (by omega) (by omega)
      rw [lastEntry, Option.some.injEq] at atLast
      refine .inr ⟨atLast, by omega, fun j below start => ?_⟩
      rw [← earlier j below]
      exact run j (by omega) (by omega)
  · rintro (empty | ⟨rfl, bound, run⟩)
    · exact ⟨by omega, fun j below start => absurd below (by omega)⟩
    · refine ⟨by omega, fun j below start => ?_⟩
      by_cases isLast : j = outcomes.length
      · rw [isLast, lastEntry]
      · rw [earlier j (by omega)]
        exact run j (by omega) (by omega)

/-- The specification one outcome later: the new outcome ends a bad run, or the
flag was already down and the new outcome ends no good run. -/
theorem flaggedUnhealthy_append {failuresThreshold successesThreshold : Nat} :
    FlaggedUnhealthy failuresThreshold successesThreshold (outcomes ++ [last]) ↔
      EndsRun (outcomes ++ [last]) true failuresThreshold (outcomes.length + 1) ∨
        (FlaggedUnhealthy failuresThreshold successesThreshold outcomes ∧
          ¬ EndsRun (outcomes ++ [last]) false successesThreshold (outcomes.length + 1)) := by
  simp only [FlaggedUnhealthy, List.length_append, List.length_singleton]
  constructor
  · rintro ⟨k, within, bad, noGood⟩
    by_cases isLast : k = outcomes.length + 1
    · exact .inl (isLast ▸ bad)
    · refine .inr ⟨⟨k, by omega, (endsRun_append_of_le (by omega)).mp bad, ?_⟩,
        noGood _ le_rfl (by omega)⟩
      intro k' within' later
      rw [← endsRun_append_of_le within']
      exact noGood k' (by omega) later
  · rintro (bad | ⟨⟨k, within, bad, noGood⟩, lastNotGood⟩)
    · exact ⟨_, le_rfl, bad, fun k' within' later => absurd later (by omega)⟩
    · refine ⟨k, by omega, (endsRun_append_of_le within).mpr bad, fun k' within' later => ?_⟩
      by_cases isLast : k' = outcomes.length + 1
      · exact isLast ▸ lastNotGood
      · rw [endsRun_append_of_le (by omega)]
        exact noGood k' (by omega) later

end Runs

/-! ## The abstract machine -/

/-- The flag with unbounded counts of the current bad and good streaks. -/
structure Streaks where
  healthy : Bool
  failures : Nat
  successes : Nat
deriving Repr, DecidableEq

namespace Streaks

def initial : Streaks := ⟨true, 0, 0⟩

/-- One outcome (`true` is bad) under the two thresholds. -/
def step (failuresThreshold successesThreshold : Nat) (streaks : Streaks) : Bool → Streaks
  | true => ⟨if streaks.failures + 1 ≥ failuresThreshold then false else streaks.healthy,
      streaks.failures + 1, 0⟩
  | false => ⟨if streaks.successes + 1 ≥ successesThreshold then true else streaks.healthy,
      0, streaks.successes + 1⟩

def run (failuresThreshold successesThreshold : Nat) (outcomes : List Bool) : Streaks :=
  outcomes.foldl (step failuresThreshold successesThreshold) initial

/-- The streak counter of `verdict`'s outcomes. -/
def count (streaks : Streaks) : Bool → Nat
  | true => streaks.failures
  | false => streaks.successes

/-- A counter at or past its threshold carries the matching flag. -/
structure Calibrated (failuresThreshold successesThreshold : Nat) (streaks : Streaks) : Prop where
  failing : failuresThreshold ≤ streaks.failures → streaks.healthy = false
  succeeding : successesThreshold ≤ streaks.successes → streaks.healthy = true

section Run

variable {failuresThreshold successesThreshold : Nat}

@[simp] theorem run_nil : run failuresThreshold successesThreshold [] = initial := rfl

@[simp] theorem run_append_singleton (outcomes : List Bool) (last : Bool) :
    run failuresThreshold successesThreshold (outcomes ++ [last]) =
      (run failuresThreshold successesThreshold outcomes).step
        failuresThreshold successesThreshold last := by
  simp [run, List.foldl_append]

/-- A counter is the length of the run of its verdict that ends the outcomes. -/
theorem endsRun_iff_le_count (failuresThreshold successesThreshold : Nat) (outcomes : List Bool)
    (verdict : Bool) (length : Nat) :
    EndsRun outcomes verdict length outcomes.length ↔
      length ≤ (run failuresThreshold successesThreshold outcomes).count verdict := by
  induction outcomes using List.reverseRecOn generalizing length with
  | nil => cases verdict <;> simp [EndsRun, initial, count]
  | append_singleton outcomes last inductionHypothesis =>
    rw [List.length_append, List.length_singleton, endsRun_append_last, inductionHypothesis,
      run_append_singleton]
    cases last <;> cases verdict <;> simp [step, count] <;> omega

theorem calibrated_step (failuresPositive : 1 ≤ failuresThreshold)
    (successesPositive : 1 ≤ successesThreshold) (streaks : Streaks) (outcome : Bool) :
    (streaks.step failuresThreshold successesThreshold outcome).Calibrated
      failuresThreshold successesThreshold := by
  cases outcome with
  | true =>
    refine ⟨fun reached => ?_, fun reached => ?_⟩ <;> simp only [step] at reached ⊢
    · rw [if_pos reached]
    · omega
  | false =>
    refine ⟨fun reached => ?_, fun reached => ?_⟩ <;> simp only [step] at reached ⊢
    · omega
    · rw [if_pos reached]

theorem calibrated_run (failuresPositive : 1 ≤ failuresThreshold)
    (successesPositive : 1 ≤ successesThreshold) (outcomes : List Bool) :
    (run failuresThreshold successesThreshold outcomes).Calibrated
      failuresThreshold successesThreshold := by
  induction outcomes using List.reverseRecOn with
  | nil => exact ⟨fun reached => absurd reached (by simp [initial]; omega),
      fun reached => absurd reached (by simp [initial]; omega)⟩
  | append_singleton outcomes last _ =>
    rw [run_append_singleton]
    exact calibrated_step failuresPositive successesPositive _ _

/-- The abstract machine meets the specification. -/
theorem run_healthy_eq_false_iff (failuresPositive : 1 ≤ failuresThreshold)
    (successesPositive : 1 ≤ successesThreshold) (outcomes : List Bool) :
    (run failuresThreshold successesThreshold outcomes).healthy = false ↔
      FlaggedUnhealthy failuresThreshold successesThreshold outcomes := by
  induction outcomes using List.reverseRecOn with
  | nil =>
    simp only [run_nil, initial, Bool.true_eq_false, false_iff]
    rintro ⟨k, within, ⟨bound, _⟩, _⟩
    simp at within
    omega
  | append_singleton outcomes last inductionHypothesis =>
    rw [flaggedUnhealthy_append, endsRun_append_last, endsRun_append_last, ← inductionHypothesis,
      endsRun_iff_le_count failuresThreshold successesThreshold,
      endsRun_iff_le_count failuresThreshold successesThreshold, run_append_singleton]
    have failuresNonzero : failuresThreshold ≠ 0 := by omega
    have successesNonzero : successesThreshold ≠ 0 := by omega
    cases last <;> simp only [step, count]
    · by_cases reached :
        successesThreshold ≤ (run failuresThreshold successesThreshold outcomes).successes + 1
        <;> simp [reached, failuresNonzero, successesNonzero]
    · by_cases reached :
        failuresThreshold ≤ (run failuresThreshold successesThreshold outcomes).failures + 1
        <;> simp [reached, failuresNonzero, successesNonzero]

end Run

end Streaks

/-! ## The code refines the machine -/

/-- A code record tracks an abstract state: the same flag, and counters equal
modulo `2^32`. -/
structure Tracks (status : BackendHealthStatus) (streaks : Streaks) : Prop where
  healthy : status.healthy = streaks.healthy
  failures : status.consecutiveFailures.toNat = streaks.failures % 2 ^ 32
  successes : status.consecutiveSuccesses.toNat = streaks.successes % 2 ^ 32

section Refinement

variable {failuresThreshold successesThreshold : UInt32}
  {status : BackendHealthStatus} {streaks : Streaks}

theorem counter_succ_toNat (counter : UInt32) {count : Nat}
    (tracked : counter.toNat = count % 2 ^ 32) : (counter + 1).toNat = (count + 1) % 2 ^ 32 := by
  have wraps : (counter + 1).toNat = (counter.toNat + 1) % 2 ^ 32 := rfl
  rw [wraps, tracked, Nat.add_mod, Nat.mod_mod, ← Nat.add_mod]

theorem tracks_recordFailure (tracks : Tracks status streaks)
    (calibrated : streaks.Calibrated failuresThreshold.toNat successesThreshold.toNat)
    (error : String) :
    Tracks (recordFailure failuresThreshold error status)
      (streaks.step failuresThreshold.toNat successesThreshold.toNat true) := by
  have next := counter_succ_toNat _ tracks.failures
  have bound : failuresThreshold.toNat < 2 ^ 32 := failuresThreshold.toNat_lt_size
  refine ⟨?_, by simpa [Streaks.step] using next, by simp [Streaks.step]⟩
  simp only [recordFailure_healthy, Streaks.step, ge_iff_le, tracks.healthy]
  change (if failuresThreshold.toNat ≤ (status.consecutiveFailures + 1).toNat then _ else _) = _
  rw [next]
  by_cases wrapped : failuresThreshold.toNat ≤ (streaks.failures + 1) % 2 ^ 32
  · rw [if_pos wrapped, if_pos (le_trans wrapped (Nat.mod_le _ _))]
  · rw [if_neg wrapped]
    by_cases reached : failuresThreshold.toNat ≤ streaks.failures + 1
    · rw [if_pos reached, calibrated.failing (by omega)]
    · rw [if_neg reached]

theorem tracks_recordSuccess (tracks : Tracks status streaks)
    (calibrated : streaks.Calibrated failuresThreshold.toNat successesThreshold.toNat) :
    Tracks (recordSuccess successesThreshold status)
      (streaks.step failuresThreshold.toNat successesThreshold.toNat false) := by
  have next := counter_succ_toNat _ tracks.successes
  have bound : successesThreshold.toNat < 2 ^ 32 := successesThreshold.toNat_lt_size
  refine ⟨?_, by simp [Streaks.step], by simpa [Streaks.step] using next⟩
  simp only [recordSuccess_healthy, Streaks.step, ge_iff_le, tracks.healthy]
  change (if successesThreshold.toNat ≤ (status.consecutiveSuccesses + 1).toNat then _ else _) = _
  rw [next]
  by_cases wrapped : successesThreshold.toNat ≤ (streaks.successes + 1) % 2 ^ 32
  · rw [if_pos wrapped, if_pos (le_trans wrapped (Nat.mod_le _ _))]
  · rw [if_neg wrapped]
    by_cases reached : successesThreshold.toNat ≤ streaks.successes + 1
    · rw [if_pos reached, calibrated.succeeding (by omega)]
    · rw [if_neg reached]

theorem Tracks.stamp (tracks : Tracks status streaks) (time : Option Nat) :
    Tracks { status with lastCheckTime := time } streaks :=
  ⟨tracks.healthy, tracks.failures, tracks.successes⟩

/-- One probe of the code moves in step with one outcome of the machine. -/
theorem tracks_updateCurrentStatus {healthConfig : HealthCheckConfig} (maxSlot : Option UInt64)
    (now : Nat) (checkResult : CheckResult) (tracks : Tracks status streaks)
    (calibrated : streaks.Calibrated healthConfig.consecutiveFailuresThreshold.toNat
      healthConfig.consecutiveSuccessesThreshold.toNat) :
    Tracks (updateCurrentStatus healthConfig maxSlot now status checkResult)
      (streaks.step healthConfig.consecutiveFailuresThreshold.toNat
        healthConfig.consecutiveSuccessesThreshold.toNat
        (countsAsFailure healthConfig.maxSlotLag maxSlot checkResult)) := by
  cases bad : countsAsFailure healthConfig.maxSlotLag maxSlot checkResult with
  | true =>
    obtain ⟨error, updated⟩ := @updateCurrentStatus_of_failure _ _ now status _ bad
    rw [updated]
    exact (tracks_recordFailure tracks calibrated error).stamp _
  | false =>
    rw [updateCurrentStatus_of_success bad]
    exact (tracks_recordSuccess tracks calibrated).stamp _

end Refinement

/-! ## One backend over a run of cycles -/

/-- One backend's check in one cycle: the cycle's tip, its clock, and the result. -/
structure Probe where
  maxSlot : Option UInt64
  now : Nat
  checkResult : CheckResult

/-- The record after `probes`, from `BackendHealthStatus::default`: the
per-backend update of `health_check_loop`, folded. -/
def statusAfter (healthConfig : HealthCheckConfig) (probes : List Probe) : BackendHealthStatus :=
  probes.foldl (fun status probe =>
    updateCurrentStatus healthConfig probe.maxSlot probe.now status probe.checkResult) .default

theorem statusAfter_append_singleton (healthConfig : HealthCheckConfig) (probes : List Probe)
    (probe : Probe) :
    statusAfter healthConfig (probes ++ [probe]) =
      updateCurrentStatus healthConfig probe.maxSlot probe.now (statusAfter healthConfig probes)
        probe.checkResult := by
  rw [statusAfter, List.foldl_append]
  rfl

/-- The probes' outcomes, `true` for one that counts as a failure. -/
def outcomes (healthConfig : HealthCheckConfig) (probes : List Probe) : List Bool :=
  probes.map fun probe => countsAsFailure healthConfig.maxSlotLag probe.maxSlot probe.checkResult

theorem tracks_statusAfter (healthConfig : HealthCheckConfig)
    (failuresPositive : 1 ≤ healthConfig.consecutiveFailuresThreshold.toNat)
    (successesPositive : 1 ≤ healthConfig.consecutiveSuccessesThreshold.toNat)
    (probes : List Probe) :
    Tracks (statusAfter healthConfig probes)
      (Streaks.run healthConfig.consecutiveFailuresThreshold.toNat
        healthConfig.consecutiveSuccessesThreshold.toNat (outcomes healthConfig probes)) := by
  induction probes using List.reverseRecOn with
  | nil => exact ⟨rfl, rfl, rfl⟩
  | append_singleton probes probe inductionHypothesis =>
    rw [statusAfter, List.foldl_append, outcomes, List.map_append, List.map_singleton,
      Streaks.run_append_singleton]
    exact tracks_updateCurrentStatus _ _ _ inductionHypothesis
      (Streaks.calibrated_run failuresPositive successesPositive _)

/-- The health flag of a backend is down exactly when some probe ended a run of
at least `consecutive_failures_threshold` bad outcomes and no later probe ended a
run of at least `consecutive_successes_threshold` good ones. -/
theorem statusAfter_healthy_eq_false_iff (healthConfig : HealthCheckConfig) (probes : List Probe)
    (failuresPositive : 1 ≤ healthConfig.consecutiveFailuresThreshold)
    (successesPositive : 1 ≤ healthConfig.consecutiveSuccessesThreshold) :
    (statusAfter healthConfig probes).healthy = false ↔
      FlaggedUnhealthy healthConfig.consecutiveFailuresThreshold.toNat
        healthConfig.consecutiveSuccessesThreshold.toNat (outcomes healthConfig probes) := by
  rw [(tracks_statusAfter healthConfig failuresPositive successesPositive probes).healthy]
  exact Streaks.run_healthy_eq_false_iff failuresPositive successesPositive _

/-- A configuration with thresholds `2` and `3`. -/
def sampleConfig : HealthCheckConfig :=
  ⟨"getSlot", 5, 20, 2, 3⟩

theorem statusAfter_healthy_eq_false_iff_sample :
    (1 ≤ sampleConfig.consecutiveFailuresThreshold ∧
      1 ≤ sampleConfig.consecutiveSuccessesThreshold) ∧
    ((statusAfter sampleConfig [⟨none, 0, .error "down"⟩, ⟨none, 1, .error "down"⟩]).healthy =
        false ↔
      FlaggedUnhealthy 2 3 (outcomes sampleConfig
        [⟨none, 0, .error "down"⟩, ⟨none, 1, .error "down"⟩])) :=
  ⟨⟨by decide, by decide⟩, statusAfter_healthy_eq_false_iff sampleConfig _ (by decide) (by decide)⟩

/-- One good outcome between two short bad runs keeps the flag up. -/
example : (statusAfter sampleConfig
    [⟨none, 0, .error "down"⟩, ⟨none, 1, .ok none⟩, ⟨none, 2, .error "down"⟩]).healthy = true := by
  decide

end SolRpcRouter.Health.Hysteresis
