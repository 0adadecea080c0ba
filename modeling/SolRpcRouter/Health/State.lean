import Mathlib.Logic.Function.Basic

/-! # Backend health records and the shared health map

The data model of `health.rs`:

* `BackendHealthStatus` — the per-backend record, with the optimistic
  `BackendHealthStatus.default` (`healthy := true`, both counters at `0`);
* `HealthState` — the `RwLock<HashMap<String, BackendHealthStatus>>`, as a
  finite map from labels; `HealthState.new`, `getStatus`, `updateStatus`.

The lock never changes a result (a poisoned lock is entered anyway through
`unwrap_or_else(|e| e.into_inner())`), so the map is modelled without it.
`config::HealthCheckConfig` and `config::Backend` are not under `src/`; they are
modelled from the spec, with the field widths fixed by how `health.rs` uses them.
Counters are `u32` and slots `u64`: `UInt32` and `UInt64`, whose `+` and `-`
wrap as a release build of the code does.
-/

namespace SolRpcRouter.Health

/-- Modelled from the spec: the health-check section of the configuration
(`config::HealthCheckConfig`), with the fields the modelled code reads; the
loop's `interval_secs` only sets the sleep between iterations, which is not
modelled. The thresholds are compared with the `u32` counters and
`max_slot_lag` with a `u64` slot difference, which fixes their widths. -/
structure HealthCheckConfig where
  method : String
  timeoutSecs : UInt64
  maxSlotLag : UInt64
  consecutiveFailuresThreshold : UInt32
  consecutiveSuccessesThreshold : UInt32
deriving Repr, DecidableEq

/-- Modelled from the spec: one configured upstream node (`config::Backend`),
with the two fields the health loop reads. -/
structure Backend where
  label : String
  url : String
deriving Repr, DecidableEq

/-- `BackendHealthStatus`; `last_check_time` is the clock reading of the last
check. -/
structure BackendHealthStatus where
  healthy : Bool
  lastCheckTime : Option Nat
  consecutiveFailures : UInt32
  consecutiveSuccesses : UInt32
  lastError : Option String
deriving Repr, DecidableEq

/-- `BackendHealthStatus::default`: optimistic, so a fresh backend takes traffic
before its first check. -/
def BackendHealthStatus.default : BackendHealthStatus where
  healthy := true
  lastCheckTime := none
  consecutiveFailures := 0
  consecutiveSuccesses := 0
  lastError := none

/-- `HealthState`: the status map behind the lock. -/
structure HealthState where
  statuses : String → Option BackendHealthStatus

namespace HealthState

/-- The map with no entry. -/
def empty : HealthState := ⟨fun _ => none⟩

/-- `HealthState::get_status`. -/
def getStatus (healthState : HealthState) (label : String) : Option BackendHealthStatus :=
  healthState.statuses label

/-- `HealthState::update_status`: overwrite the entry, or insert it for a label
added by a hot reload. Both branches of the source leave the same map. -/
def updateStatus (healthState : HealthState) (label : String) (status : BackendHealthStatus) :
    HealthState :=
  ⟨Function.update healthState.statuses label (some status)⟩

/-- `HealthState::new`: one default entry per configured label. -/
def new (backendLabels : List String) : HealthState :=
  backendLabels.foldl (fun statuses label => statuses.updateStatus label .default) empty

@[simp] theorem getStatus_empty (label : String) : empty.getStatus label = none := rfl

@[simp] theorem getStatus_updateStatus_same (healthState : HealthState) (label : String)
    (status : BackendHealthStatus) :
    (healthState.updateStatus label status).getStatus label = some status := by
  simp [getStatus, updateStatus]

@[simp] theorem getStatus_updateStatus_other {healthState : HealthState} {label other : String}
    (status : BackendHealthStatus) (different : other ≠ label) :
    (healthState.updateStatus label status).getStatus other = healthState.getStatus other := by
  simp [getStatus, updateStatus, different]

theorem getStatus_updateStatus (healthState : HealthState) (label other : String)
    (status : BackendHealthStatus) :
    (healthState.updateStatus label status).getStatus other =
      if other = label then some status else healthState.getStatus other := by
  split <;> simp_all

/-- Every entry of `HealthState::new` is the default record. -/
theorem getStatus_new (backendLabels : List String) (label : String) :
    (new backendLabels).getStatus label =
      if label ∈ backendLabels then some .default else none := by
  suffices general : ∀ start : HealthState,
      (backendLabels.foldl (fun statuses label => statuses.updateStatus label .default) start).getStatus
        label = if label ∈ backendLabels then some .default else start.getStatus label from
    (general empty).trans (by simp)
  induction backendLabels with
  | nil => simp
  | cons first rest inductionHypothesis =>
    intro start
    rw [List.foldl_cons, inductionHypothesis, getStatus_updateStatus]
    by_cases inRest : label ∈ rest <;> by_cases isFirst : label = first <;> simp [inRest, isFirst]

end HealthState

end SolRpcRouter.Health
