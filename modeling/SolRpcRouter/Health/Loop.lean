import SolRpcRouter.Health.Update
import Mathlib.Logic.Relation
import Mathlib.Data.List.Nodup

/-! # One iteration of `health_check_loop`

The loop body over a published snapshot:

* `CheckRound` — what `join_all(check_futures)` hands back: one result per
  backend, in backend order, each labelled with its backend's label;
* `publishResults` — the `for (i, (label, check_result))` loop: read the record,
  update it, write it back with `update_status`, store the flag into
  `backends[i]`;
* `healthCheckCycle` — one iteration: `max_slot`, then the loop.

`publishResults_spec` is the loop's contract when the labels are distinct: every
backend's record and flag come from its own previous record and result, and no
other label is touched. Consistency of the counters (`HealthState.Consistent`)
needs no such condition and holds in every reachable health state, through any
sequence of cycles and hot reloads (`HealthStep`).
-/

namespace SolRpcRouter.Health

/-- Modelled from the spec: an entry of `RouterState::backends`, a backend's
configuration and its lock-free health flag. -/
structure RuntimeBackend where
  config : Backend
  healthy : Bool
deriving Repr, DecidableEq

/-- Modelled from the spec: the fields of the published `RouterState` that the
health loop reads. -/
structure RouterState where
  backends : List RuntimeBackend
  healthCheckConfig : HealthCheckConfig
  healthState : HealthState

/-- What `future::join_all(check_futures)` returns for a snapshot's backends: one
result per backend, in backend order. -/
structure CheckRound (backends : List RuntimeBackend) where
  results : List CheckResult
  length_eq : results.length = backends.length

/-- The `(label, result)` pairs: each future returns the label of the backend it
probed with its result. -/
def CheckRound.labelled {backends : List RuntimeBackend} (round : CheckRound backends) :
    List (String × CheckResult) :=
  (backends.zip round.results).map fun (backend, result) => (backend.config.label, result)

/-- The record the loop writes for `label`: its current record, or the default,
updated with the check result. -/
def publishedStatus (healthConfig : HealthCheckConfig) (maxSlot : Option UInt64) (now : Nat)
    (healthState : HealthState) (label : String) (checkResult : CheckResult) :
    BackendHealthStatus :=
  updateCurrentStatus healthConfig maxSlot now ((healthState.getStatus label).getD .default)
    checkResult

/-- The `for (i, (label, check_result)) in results.into_iter().enumerate()` loop.
`none` is the panic of an out-of-bounds `current_state.backends[i]`; `clock i` is
the `SystemTime::now()` read for the `i`-th backend. -/
def publishResults (healthConfig : HealthCheckConfig) (maxSlot : Option UInt64)
    (clock : Nat → Nat) : Nat → List (String × CheckResult) → HealthState →
      List RuntimeBackend → Option (HealthState × List RuntimeBackend)
  | _, [], healthState, backends => some (healthState, backends)
  | i, (label, checkResult) :: rest, healthState, backends =>
    match backends[i]? with
    | none => none
    | some backend =>
      let status := publishedStatus healthConfig maxSlot (clock i) healthState label checkResult
      publishResults healthConfig maxSlot clock (i + 1) rest (healthState.updateStatus label status)
        (backends.set i { backend with healthy := status.healthy })

/-- One iteration of `health_check_loop` on the snapshot `currentState`, whose
probes returned `round`. -/
def healthCheckCycle (currentState : RouterState) (round : CheckRound currentState.backends)
    (clock : Nat → Nat) : Option RouterState :=
  let results := round.labelled
  (publishResults currentState.healthCheckConfig (maxSlot results) clock 0 results
      currentState.healthState currentState.backends).map
    fun (healthState, backends) =>
      { currentState with healthState := healthState, backends := backends }

/-! ## The labelled results -/

section Labelled

variable {backends : List RuntimeBackend} (round : CheckRound backends)

theorem CheckRound.labelled_labels :
    round.labelled.map Prod.fst = backends.map fun backend => backend.config.label := by
  conv_rhs => rw [← List.map_fst_zip backends round.results round.length_eq.ge, List.map_map]
  rw [CheckRound.labelled, List.map_map]
  rfl

theorem CheckRound.labelled_length : round.labelled.length = backends.length := by
  simp [CheckRound.labelled, round.length_eq]

theorem CheckRound.labelled_getElem? {i : Nat} {backend : RuntimeBackend} {result : CheckResult}
    (backendAt : backends[i]? = some backend) (resultAt : round.results[i]? = some result) :
    round.labelled[i]? = some (backend.config.label, result) := by
  have zipped : (backends.zip round.results)[i]? = some (backend, result) :=
    List.getElem?_zip_eq_some.mpr ⟨backendAt, resultAt⟩
  simp [CheckRound.labelled, zipped]

end Labelled

/-! ## The loop's contract -/

section Publish

variable {healthConfig : HealthCheckConfig} {maxSlot : Option UInt64} {clock : Nat → Nat}

/-- With distinct labels and enough backends, the loop never indexes past the
end; each entry's record and flag come from its own previous record, and the
other flags and records are untouched. -/
theorem publishResults_spec (entries : List (String × CheckResult)) :
    ∀ (i : Nat) (healthState : HealthState) (backends : List RuntimeBackend),
      i + entries.length ≤ backends.length → (entries.map Prod.fst).Nodup →
      ∃ healthState' backends',
        publishResults healthConfig maxSlot clock i entries healthState backends =
          some (healthState', backends') ∧
        backends'.length = backends.length ∧
        (∀ j label checkResult, entries[j]? = some (label, checkResult) →
          healthState'.getStatus label =
            some (publishedStatus healthConfig maxSlot (clock (i + j)) healthState label
              checkResult) ∧
          backends'[i + j]? = backends[i + j]?.map fun backend =>
            { backend with
              healthy := (publishedStatus healthConfig maxSlot (clock (i + j)) healthState label
                checkResult).healthy }) ∧
        (∀ j, j < i ∨ i + entries.length ≤ j → backends'[j]? = backends[j]?) ∧
        (∀ label, label ∉ entries.map Prod.fst →
          healthState'.getStatus label = healthState.getStatus label) := by
  induction entries with
  | nil =>
    intro i healthState backends _ _
    exact ⟨healthState, backends, rfl, rfl, fun j _ _ found => by simp at found,
      fun _ _ => rfl, fun _ _ => rfl⟩
  | cons entry rest inductionHypothesis =>
    obtain ⟨label, checkResult⟩ := entry
    intro i healthState backends fits distinct
    rw [List.length_cons] at fits
    rw [List.map_cons, List.nodup_cons] at distinct
    have inBounds : i < backends.length := by omega
    obtain ⟨backend, backendAt⟩ : ∃ backend, backends[i]? = some backend :=
      ⟨backends[i], List.getElem?_eq_getElem inBounds⟩
    let status := publishedStatus healthConfig maxSlot (clock i) healthState label checkResult
    obtain ⟨healthState', backends', ran, lengths, written, framed, untouched⟩ :=
      inductionHypothesis (i + 1) (healthState.updateStatus label status)
        (backends.set i { backend with healthy := status.healthy })
        (by rw [List.length_set]; omega) distinct.2
    refine ⟨healthState', backends', by simp [publishResults, backendAt, ran],
      by rw [lengths, List.length_set], ?_, ?_, ?_⟩
    · intro j label' checkResult' found
      cases j with
      | zero =>
        simp only [List.getElem?_cons_zero, Option.some.injEq, Prod.mk.injEq] at found
        obtain ⟨rfl, rfl⟩ := found
        rw [Nat.add_zero]
        refine ⟨by rw [untouched label distinct.1, HealthState.getStatus_updateStatus_same], ?_⟩
        rw [framed i (.inl (Nat.lt_succ_self i)), backendAt, List.getElem?_set_self inBounds]
        rfl
      | succ j =>
        rw [List.getElem?_cons_succ] at found
        have different : label' ≠ label := fun same =>
          distinct.1 (same ▸ List.mem_map.mpr ⟨_, List.getElem?_mem found, rfl⟩)
        obtain ⟨recorded, flagged⟩ := written j label' checkResult' found
        have shifted : i + 1 + j = i + (j + 1) := by omega
        have earlier : (healthState.updateStatus label status).getStatus label' =
            healthState.getStatus label' :=
          HealthState.getStatus_updateStatus_other _ different
        refine ⟨by rw [recorded, shifted, publishedStatus, publishedStatus, earlier], ?_⟩
        rw [← shifted, flagged, List.getElem?_set_ne (by omega), publishedStatus,
          publishedStatus, earlier]
    · intro j outside
      rw [List.length_cons] at outside
      rw [framed j (by omega), List.getElem?_set_ne (by omega)]
    · intro label' absent
      rw [List.map_cons, List.mem_cons, not_or] at absent
      rw [untouched _ absent.2, HealthState.getStatus_updateStatus_other _ absent.1]

end Publish

/-! ## One cycle -/

/-- What a cycle over `currentState` with probe results `round` must leave: the
configuration and the backend list in place; each backend's record is its
previous record (or the default) updated with its own result under the cycle's
`max_slot`, and its lock-free flag is that record's `healthy`; every flag agrees
with its record; the records of labels outside the snapshot are unchanged. -/
structure CyclePublished (currentState : RouterState) (round : CheckRound currentState.backends)
    (clock : Nat → Nat) (newState : RouterState) : Prop where
  sameConfig : newState.healthCheckConfig = currentState.healthCheckConfig
  sameLength : newState.backends.length = currentState.backends.length
  published : ∀ i backend result, currentState.backends[i]? = some backend →
    round.results[i]? = some result →
    newState.healthState.getStatus backend.config.label =
      some (updateCurrentStatus currentState.healthCheckConfig (maxSlot round.labelled) (clock i)
        ((currentState.healthState.getStatus backend.config.label).getD .default) result) ∧
    newState.backends[i]? = some { backend with
      healthy := (updateCurrentStatus currentState.healthCheckConfig (maxSlot round.labelled)
        (clock i) ((currentState.healthState.getStatus backend.config.label).getD .default)
          result).healthy }
  flagsAgree : ∀ (i : Nat) (backend : RuntimeBackend), newState.backends[i]? = some backend →
    (newState.healthState.getStatus backend.config.label).map BackendHealthStatus.healthy =
      some backend.healthy
  othersUnchanged : ∀ label, label ∉ currentState.backends.map (fun backend => backend.config.label) →
    newState.healthState.getStatus label = currentState.healthState.getStatus label

/-- One health-check cycle over a snapshot whose labels are distinct never indexes
past the backend list, and publishes every backend's outcome to its own record
and flag. -/
theorem healthCheckCycle_publishes (currentState : RouterState)
    (round : CheckRound currentState.backends) (clock : Nat → Nat)
    (distinct : (currentState.backends.map fun backend => backend.config.label).Nodup) :
    ∃ newState, healthCheckCycle currentState round clock = some newState ∧
      CyclePublished currentState round clock newState := by
  obtain ⟨healthState', backends', ran, lengths, written, _, untouched⟩ :=
    @publishResults_spec currentState.healthCheckConfig (maxSlot round.labelled) clock
      round.labelled 0 currentState.healthState currentState.backends
      (by rw [round.labelled_length, Nat.zero_add]) (by rw [round.labelled_labels]; exact distinct)
  have publishes : ∀ i backend result, currentState.backends[i]? = some backend →
      round.results[i]? = some result →
      healthState'.getStatus backend.config.label =
        some (publishedStatus currentState.healthCheckConfig (maxSlot round.labelled) (clock i)
          currentState.healthState backend.config.label result) ∧
      backends'[i]? = some { backend with
        healthy := (publishedStatus currentState.healthCheckConfig (maxSlot round.labelled)
          (clock i) currentState.healthState backend.config.label result).healthy } := by
    intro i backend result backendAt resultAt
    have entry := written i _ _ (round.labelled_getElem? backendAt resultAt)
    rw [Nat.zero_add, backendAt] at entry
    exact entry
  refine ⟨{ currentState with healthState := healthState', backends := backends' },
    by simp [healthCheckCycle, ran], rfl, lengths, publishes, ?_, ?_⟩
  · intro i backend' flagAt
    have inBounds : i < currentState.backends.length := by
      rw [← lengths]
      exact (List.getElem?_eq_some_iff.mp flagAt).1
    have resultBound : i < round.results.length := by rw [round.length_eq]; exact inBounds
    obtain ⟨recorded, flagged⟩ := publishes i _ _ (List.getElem?_eq_getElem inBounds)
      (List.getElem?_eq_getElem resultBound)
    rw [flagAt, Option.some.injEq] at flagged
    subst flagged
    simp [recorded]
  · intro label absent
    exact untouched label (by rw [round.labelled_labels]; exact absent)

/-- Two backends fresh from `HealthState::new`, checked with `getSlot`. -/
def sampleSnapshot : RouterState where
  backends := [⟨⟨"primary", "http://localhost:8899"⟩, true⟩,
    ⟨⟨"fallback", "http://localhost:8900"⟩, true⟩]
  healthCheckConfig := ⟨"getSlot", 5, 20, 3, 2⟩
  healthState := HealthState.new ["primary", "fallback"]

/-- The probes of `sampleSnapshot`: the fallback is 30 slots behind. -/
def sampleRound : CheckRound sampleSnapshot.backends := ⟨[.ok (some 100), .ok (some 70)], rfl⟩

theorem healthCheckCycle_publishes_sample :
    (sampleSnapshot.backends.map fun backend => backend.config.label).Nodup ∧
    ∃ newState, healthCheckCycle sampleSnapshot sampleRound (fun _ => 0) = some newState ∧
      CyclePublished sampleSnapshot sampleRound (fun _ => 0) newState :=
  ⟨by decide, healthCheckCycle_publishes sampleSnapshot sampleRound (fun _ => 0) (by decide)⟩

/-! ## Consistency over every run -/

/-- Every record of the map keeps its counters and its error consistent. -/
def HealthState.Consistent (healthState : HealthState) : Prop :=
  ∀ label status, healthState.getStatus label = some status → StatusConsistent status

theorem HealthState.consistent_new (backendLabels : List String) :
    (HealthState.new backendLabels).Consistent := by
  intro label status found
  rw [HealthState.getStatus_new] at found
  split at found
  · cases found
    exact default_consistent
  · cases found

theorem HealthState.Consistent.updateStatus {healthState : HealthState}
    (consistent : healthState.Consistent) (label : String) {status : BackendHealthStatus}
    (statusConsistent : StatusConsistent status) : (healthState.updateStatus label status).Consistent := by
  intro other written found
  rw [HealthState.getStatus_updateStatus] at found
  split at found
  · cases found
    exact statusConsistent
  · exact consistent other written found

theorem publishResults_consistent {healthConfig : HealthCheckConfig} {maxSlot : Option UInt64}
    {clock : Nat → Nat} (entries : List (String × CheckResult)) :
    ∀ {i : Nat} {healthState healthState' : HealthState} {backends backends' : List RuntimeBackend},
      publishResults healthConfig maxSlot clock i entries healthState backends =
        some (healthState', backends') →
      healthState.Consistent → healthState'.Consistent := by
  induction entries with
  | nil =>
    intro i healthState healthState' backends backends' ran consistent
    cases ran
    exact consistent
  | cons entry rest inductionHypothesis =>
    obtain ⟨label, checkResult⟩ := entry
    intro i healthState healthState' backends backends' ran consistent
    simp only [publishResults] at ran
    split at ran
    · cases ran
    · exact inductionHypothesis ran
        (consistent.updateStatus label (updateCurrentStatus_consistent _ _ _ _ _))

theorem healthCheckCycle_consistent {currentState newState : RouterState}
    {round : CheckRound currentState.backends} {clock : Nat → Nat}
    (ran : healthCheckCycle currentState round clock = some newState)
    (consistent : currentState.healthState.Consistent) : newState.healthState.Consistent := by
  simp only [healthCheckCycle, Option.map_eq_some'] at ran
  obtain ⟨⟨healthState', backends'⟩, published, rfl⟩ := ran
  exact publishResults_consistent _ published consistent

/-- A transition of the shared health map: one cycle of the loop over any
published snapshot holding it (any backends, results and configuration), or a
hot reload that publishes a snapshot with a fresh `HealthState::new`. -/
inductive HealthStep : HealthState → HealthState → Prop
  | cycle (currentState : RouterState) (round : CheckRound currentState.backends)
      (clock : Nat → Nat) {newState : RouterState}
      (ran : healthCheckCycle currentState round clock = some newState) :
      HealthStep currentState.healthState newState.healthState
  | reload (healthState : HealthState) (backendLabels : List String) :
      HealthStep healthState (HealthState.new backendLabels)

theorem reachable_consistent {backendLabels : List String} {healthState : HealthState}
    (reachable : Relation.ReflTransGen HealthStep (HealthState.new backendLabels) healthState) :
    healthState.Consistent := by
  induction reachable with
  | refl => exact HealthState.consistent_new backendLabels
  | tail _ step consistent =>
    cases step with
    | cycle currentState round clock ran => exact healthCheckCycle_consistent ran consistent
    | reload _ labels => exact HealthState.consistent_new labels

/-- In every health map reached from `HealthState::new` by cycles and reloads, a
running failure streak carries an error and no success streak, and a running
success streak carries no error and no failure streak. -/
theorem reachable_counters_consistent (backendLabels : List String) (healthState : HealthState)
    (reachable : Relation.ReflTransGen HealthStep (HealthState.new backendLabels) healthState)
    (label : String) (status : BackendHealthStatus)
    (found : healthState.getStatus label = some status) :
    (0 < status.consecutiveFailures →
      status.consecutiveSuccesses = 0 ∧ status.lastError.isSome) ∧
    (0 < status.consecutiveSuccesses →
      status.consecutiveFailures = 0 ∧ status.lastError = none) :=
  let consistent := reachable_consistent reachable label status found
  ⟨consistent.failing, consistent.succeeding⟩

/-- The fallback's record after one cycle of `sampleSnapshot`: 30 slots behind
the tip, one failure, with the lag as its error. -/
def laggingFallback : BackendHealthStatus where
  healthy := true
  lastCheckTime := some 0
  consecutiveFailures := 1
  consecutiveSuccesses := 0
  lastError := some "Backend lagging: slot 70 is 30 behind max 100"

theorem reachable_counters_consistent_cycled :
    ∃ newState, healthCheckCycle sampleSnapshot sampleRound (fun _ => 0) = some newState ∧
      Relation.ReflTransGen HealthStep (HealthState.new ["primary", "fallback"])
        newState.healthState ∧
      newState.healthState.getStatus "fallback" = some laggingFallback ∧
      ((0 < laggingFallback.consecutiveFailures →
        laggingFallback.consecutiveSuccesses = 0 ∧ laggingFallback.lastError.isSome) ∧
      (0 < laggingFallback.consecutiveSuccesses →
        laggingFallback.consecutiveFailures = 0 ∧ laggingFallback.lastError = none)) :=
  have cycled : Relation.ReflTransGen HealthStep (HealthState.new ["primary", "fallback"])
      _ := .single (.cycle sampleSnapshot sampleRound (fun _ => 0) rfl)
  ⟨_, rfl, cycled, rfl,
    reachable_counters_consistent ["primary", "fallback"] _ cycled "fallback" _ rfl⟩

end SolRpcRouter.Health
