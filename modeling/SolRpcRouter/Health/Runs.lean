import SolRpcRouter.Health.Counters

/-! # Whole runs of the health loop

An iteration of `health_check_loop` publishes the backends one after another
into one shared map; the only thing that ties one backend's update to another's
is the iteration's `max_slot`. Over any number of iterations with no hot reload
in between, and any probe results:

* `runLoop_records` — every backend's record is `statusAfter` of its own probes,
  each probe carrying its iteration's `max_slot` as tip, and its lock-free flag
  is that record's `healthy`: the loop refines one per-backend fold per backend;
* `runLoop_flag_iff` — so every backend's flag is down exactly when its own
  outcome history is `FlaggedUnhealthy` under the configured thresholds.
-/

namespace SolRpcRouter.Health

open Hysteresis

/-- An iteration's probes: backend `i` gets `results i`. -/
def indexedRound (results : Nat → CheckResult) (snapshot : RouterState) :
    CheckRound snapshot.backends :=
  ⟨(List.range snapshot.backends.length).map results, by simp⟩

/-- The `max_slot` of an iteration whose backend `i` returned `results i`. -/
def roundTip (labels : List String) (results : Nat → CheckResult) : Option UInt64 :=
  maxSlot (labels.zip ((List.range labels.length).map results))

/-- Backend `i`'s probes over the first `n` iterations: iteration `k`'s tip, its
clock reading for `i`, and `i`'s result. -/
def probesOf (labels : List String) (results : Nat → Nat → CheckResult)
    (clocks : Nat → Nat → Nat) (i n : Nat) : List Probe :=
  (List.range n).map fun k => ⟨roundTip labels (results k), clocks k i, results k i⟩

/-- The labels of a snapshot's backends. -/
def RouterState.labels (snapshot : RouterState) : List String :=
  snapshot.backends.map fun backend => backend.config.label

/-! ## One iteration, backend by backend -/

theorem CheckRound.labelled_eq_zip {backends : List RuntimeBackend} (round : CheckRound backends) :
    round.labelled = (backends.map fun backend => backend.config.label).zip round.results := by
  rw [CheckRound.labelled, List.zip_map_left]
  rfl

/-- One iteration over a snapshot with distinct labels: the configuration and the
backends' configurations stay, and backend `i`'s record and flag take the update
with its own result under the iteration's `max_slot`. -/
theorem healthCheckCycle_indexed (currentState : RouterState)
    (round : CheckRound currentState.backends) (clock : Nat → Nat)
    (distinct : currentState.labels.Nodup) :
    ∃ newState, healthCheckCycle currentState round clock = some newState ∧
      newState.healthCheckConfig = currentState.healthCheckConfig ∧
      newState.backends.map RuntimeBackend.config =
        currentState.backends.map RuntimeBackend.config ∧
      ∀ i backend result, currentState.backends[i]? = some backend →
        round.results[i]? = some result →
        let status := publishedStatus currentState.healthCheckConfig (maxSlot round.labelled)
          (clock i) currentState.healthState backend.config.label result
        newState.healthState.getStatus backend.config.label = some status ∧
          newState.backends[i]? = some { backend with healthy := status.healthy } := by
  obtain ⟨healthState', backends', ran, lengths, written, -, -⟩ :=
    @publishResults_spec currentState.healthCheckConfig (maxSlot round.labelled) clock
      round.labelled 0 currentState.healthState currentState.backends
      (by rw [round.labelled_length, Nat.zero_add]) (by rw [round.labelled_labels]; exact distinct)
  have published : ∀ i backend result, currentState.backends[i]? = some backend →
      round.results[i]? = some result →
      let status := publishedStatus currentState.healthCheckConfig (maxSlot round.labelled)
        (clock i) currentState.healthState backend.config.label result
      healthState'.getStatus backend.config.label = some status ∧
        backends'[i]? = some { backend with healthy := status.healthy } := by
    intro i backend result backendAt resultAt
    have entry := written i _ _ (round.labelled_getElem? backendAt resultAt)
    rw [Nat.zero_add, backendAt] at entry
    exact entry
  refine ⟨{ currentState with healthState := healthState', backends := backends' },
    by simp [healthCheckCycle, ran], rfl, ?_, published⟩
  apply List.ext_getElem?
  intro i
  rw [List.getElem?_map, List.getElem?_map]
  cases backendAt : currentState.backends[i]? with
  | none =>
    have outside : currentState.backends.length ≤ i := List.getElem?_eq_none_iff.mp backendAt
    rw [List.getElem?_eq_none_iff.mpr (by rw [lengths]; exact outside)]
  | some backend =>
    have inBounds : i < round.results.length := by
      rw [round.length_eq]
      exact (List.getElem?_eq_some_iff.mp backendAt).1
    rw [(published i backend _ backendAt (List.getElem?_eq_getElem inBounds)).2]
    rfl

/-! ## The loop refines one fold per backend -/

theorem probesOf_succ (labels : List String) (results : Nat → Nat → CheckResult)
    (clocks : Nat → Nat → Nat) (i n : Nat) :
    probesOf labels results clocks i (n + 1) =
      probesOf labels results clocks i n ++ [⟨roundTip labels (results n), clocks n i, results n i⟩] := by
  rw [probesOf, List.range_succ, List.map_append, List.map_singleton]
  rfl

/-- An indexed round hands backend `i` its own result, under the tip of all of
them. -/
theorem indexedRound_spec {snapshot : RouterState} {labels : List String}
    (sameLabels : snapshot.labels = labels) (results : Nat → CheckResult) {i : Nat}
    (inBounds : i < snapshot.backends.length) :
    (indexedRound results snapshot).results[i]? = some (results i) ∧
      maxSlot (indexedRound results snapshot).labelled = roundTip labels results := by
  have lengths : snapshot.backends.length = labels.length := by
    rw [← sameLabels, RouterState.labels, List.length_map]
  refine ⟨by simp [indexedRound, inBounds], ?_⟩
  rw [CheckRound.labelled_eq_zip, roundTip, ← lengths]
  show maxSlot (snapshot.labels.zip _) = _
  rw [sameLabels]
  rfl

/-- Over any run from a snapshot with distinct labels, fresh from
`HealthState::new` (every record at its default, every flag up), every backend's
record after `n` iterations is `statusAfter` of its own `n` probes, and its
lock-free flag is that record's `healthy`. -/
theorem runLoop_records (start : RouterState) (distinct : start.labels.Nodup)
    (fresh : ∀ backend ∈ start.backends,
      start.healthState.getStatus backend.config.label = some .default ∧ backend.healthy = true)
    (results : Nat → Nat → CheckResult) (clocks : Nat → Nat → Nat) :
    ∀ n, ∃ snapshot, runLoop (fun k => indexedRound (results k)) clocks n start = some snapshot ∧
      snapshot.healthCheckConfig = start.healthCheckConfig ∧
      snapshot.backends.map RuntimeBackend.config = start.backends.map RuntimeBackend.config ∧
      ∀ i backend, start.backends[i]? = some backend →
        let record := statusAfter start.healthCheckConfig (probesOf start.labels results clocks i n)
        snapshot.healthState.getStatus backend.config.label = some record ∧
          snapshot.backends[i]? = some { backend with healthy := record.healthy }
  | 0 => by
    refine ⟨start, rfl, rfl, rfl, fun i backend backendAt => ?_⟩
    obtain ⟨recorded, flagUp⟩ := fresh backend (List.getElem?_mem backendAt)
    refine ⟨recorded, ?_⟩
    rw [backendAt]
    cases backend
    cases flagUp
    rfl
  | n + 1 => by
    obtain ⟨snapshot, ran, sameConfig, sameBackends, published⟩ :=
      runLoop_records start distinct fresh results clocks n
    have sameLabels : snapshot.labels = start.labels := by
      have labels := congrArg (List.map Backend.label) sameBackends
      simpa only [List.map_map] using labels
    obtain ⟨newState, cycled, newConfig, newBackends, step⟩ :=
      healthCheckCycle_indexed snapshot (indexedRound (results n) snapshot) (clocks n)
        (sameLabels ▸ distinct)
    refine ⟨newState, by rw [runLoop, ran, Option.some_bind, cycled], newConfig.trans sameConfig,
      newBackends.trans sameBackends, fun i backend backendAt => ?_⟩
    obtain ⟨recorded, flagged⟩ := published i backend backendAt
    obtain ⟨resultAt, tip⟩ :=
      indexedRound_spec sameLabels (results n) (List.getElem?_eq_some_iff.mp flagged).1
    obtain ⟨recorded', flagged'⟩ := step i _ _ flagged resultAt
    have updated : publishedStatus snapshot.healthCheckConfig
        (maxSlot (indexedRound (results n) snapshot).labelled) (clocks n i) snapshot.healthState
        backend.config.label (results n i) =
        statusAfter start.healthCheckConfig (probesOf start.labels results clocks i (n + 1)) := by
      rw [publishedStatus, recorded, Option.getD_some, tip, sameConfig, probesOf_succ,
        statusAfter_append_singleton]
    exact ⟨recorded'.trans (congrArg some updated), flagged'.trans (by rw [← updated])⟩

/-- Probes where the primary answers slot `100` and the fallback always fails. -/
def sampleResults (_ i : Nat) : CheckResult :=
  if i = 0 then .ok (some 100) else .error "Health check request failed: connection refused"

theorem sampleSnapshot_fresh : sampleSnapshot.labels.Nodup ∧
    ∀ backend ∈ sampleSnapshot.backends,
      sampleSnapshot.healthState.getStatus backend.config.label = some .default ∧
        backend.healthy = true :=
  ⟨by decide, by simp [sampleSnapshot, HealthState.getStatus_new]⟩

theorem runLoop_records_sample :
    (sampleSnapshot.labels.Nodup ∧
      ∀ backend ∈ sampleSnapshot.backends,
        sampleSnapshot.healthState.getStatus backend.config.label = some .default ∧
          backend.healthy = true) ∧
    ∃ snapshot, runLoop (fun k => indexedRound (sampleResults k)) (fun _ _ => 0) 4 sampleSnapshot =
        some snapshot ∧
      snapshot.healthCheckConfig = sampleSnapshot.healthCheckConfig ∧
      snapshot.backends.map RuntimeBackend.config =
        sampleSnapshot.backends.map RuntimeBackend.config ∧
      ∀ i backend, sampleSnapshot.backends[i]? = some backend →
        let record := statusAfter sampleSnapshot.healthCheckConfig
          (probesOf sampleSnapshot.labels sampleResults (fun _ _ => 0) i 4)
        snapshot.healthState.getStatus backend.config.label = some record ∧
          snapshot.backends[i]? = some { backend with healthy := record.healthy } :=
  ⟨sampleSnapshot_fresh, runLoop_records sampleSnapshot sampleSnapshot_fresh.1
    sampleSnapshot_fresh.2 sampleResults (fun _ _ => 0) 4⟩

/-- Under thresholds of at least `1`, every backend's lock-free flag after any run
is down exactly when its own outcome history is `FlaggedUnhealthy`: the other
backends reach it only through the tips. -/
theorem runLoop_flag_iff (start : RouterState) (distinct : start.labels.Nodup)
    (fresh : ∀ backend ∈ start.backends,
      start.healthState.getStatus backend.config.label = some .default ∧ backend.healthy = true)
    (failuresPositive : 1 ≤ start.healthCheckConfig.consecutiveFailuresThreshold)
    (successesPositive : 1 ≤ start.healthCheckConfig.consecutiveSuccessesThreshold)
    (results : Nat → Nat → CheckResult) (clocks : Nat → Nat → Nat) (n i : Nat)
    {backend : RuntimeBackend} (backendAt : start.backends[i]? = some backend) :
    ∃ snapshot healthy, runLoop (fun k => indexedRound (results k)) clocks n start = some snapshot ∧
      snapshot.backends[i]? = some { backend with healthy := healthy } ∧
      (healthy = false ↔
        FlaggedUnhealthy start.healthCheckConfig.consecutiveFailuresThreshold.toNat
          start.healthCheckConfig.consecutiveSuccessesThreshold.toNat
          (outcomes start.healthCheckConfig (probesOf start.labels results clocks i n))) := by
  obtain ⟨snapshot, ran, -, -, published⟩ := runLoop_records start distinct fresh results clocks n
  refine ⟨snapshot, _, ran, (published i backend backendAt).2, ?_⟩
  rw [(tracks_statusAfter start.healthCheckConfig failuresPositive successesPositive _).healthy]
  exact Streaks.run_healthy_eq_false_iff failuresPositive successesPositive _

theorem runLoop_flag_iff_sample :
    (sampleSnapshot.labels.Nodup ∧
      (∀ backend ∈ sampleSnapshot.backends,
        sampleSnapshot.healthState.getStatus backend.config.label = some .default ∧
          backend.healthy = true) ∧
      1 ≤ sampleSnapshot.healthCheckConfig.consecutiveFailuresThreshold ∧
      1 ≤ sampleSnapshot.healthCheckConfig.consecutiveSuccessesThreshold ∧
      sampleSnapshot.backends[1]? = some ⟨⟨"fallback", "http://localhost:8900"⟩, true⟩) ∧
    ∃ snapshot healthy,
      runLoop (fun k => indexedRound (sampleResults k)) (fun _ _ => 0) 4 sampleSnapshot =
        some snapshot ∧
      snapshot.backends[1]? = some ⟨⟨"fallback", "http://localhost:8900"⟩, healthy⟩ ∧
      (healthy = false ↔
        FlaggedUnhealthy sampleSnapshot.healthCheckConfig.consecutiveFailuresThreshold.toNat
          sampleSnapshot.healthCheckConfig.consecutiveSuccessesThreshold.toNat
          (outcomes sampleSnapshot.healthCheckConfig
            (probesOf sampleSnapshot.labels sampleResults (fun _ _ => 0) 1 4))) :=
  ⟨⟨sampleSnapshot_fresh.1, sampleSnapshot_fresh.2, by decide, by decide, rfl⟩,
    runLoop_flag_iff sampleSnapshot sampleSnapshot_fresh.1 sampleSnapshot_fresh.2 (by decide)
      (by decide) sampleResults (fun _ _ => 0) 4 1 rfl⟩

end SolRpcRouter.Health
