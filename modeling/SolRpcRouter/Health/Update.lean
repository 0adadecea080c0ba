import SolRpcRouter.Health.State

/-! # One backend's update in a health-check cycle

The body of the `for` loop of `health_check_loop`, for a single backend:

* `maxSlot` — the consensus tip: `filter_map` the reported slots, then `max()`;
* `lagging` — the guard of the lagging arm, `max > slot && (max - slot) > max_slot_lag`;
* `recordFailure` / `recordSuccess` — how a record changes on a bad and on a good
  outcome (the lagging arm and the `Err` arm share the first);
* `updateCurrentStatus` — the three arms together, then `last_check_time`.

Every record `updateCurrentStatus` returns is `StatusConsistent`, whatever record
it starts from: each arm writes both counters and the error together.
-/

namespace SolRpcRouter.Health

/-- What `perform_health_check` returns for one backend. -/
abbrev CheckResult := Except String (Option UInt64)

/-- The slot a check reported, as the `filter_map` of `max_slot` reads it. -/
def reportedSlot : CheckResult → Option UInt64
  | .ok (some slot) => some slot
  | _ => none

/-- The slots reported in one cycle, in backend order: the `filter_map` of `max_slot`. -/
def reportedSlots (results : List (String × CheckResult)) : List UInt64 :=
  results.filterMap fun (_, result) => reportedSlot result

/-- `max_slot`: the largest reported slot of the cycle, `none` when none was reported. -/
def maxSlot (results : List (String × CheckResult)) : Option UInt64 :=
  (reportedSlots results).max?

/-- The lag test. The `max > slot` conjunct guards the `u64` subtraction. -/
def lagging (maxSlotLag : UInt64) : Option UInt64 → Option UInt64 → Bool
  | some slot, some max => max > slot && max - slot > maxSlotLag
  | _, _ => false

/-- The `last_error` text of a lagging backend. -/
def laggingError (slot max : UInt64) : String :=
  "Backend lagging: slot " ++ toString slot ++ " is " ++ toString (max - slot) ++
    " behind max " ++ toString max

/-- The failure arm: one more consecutive failure, no consecutive success, the
error recorded, and the backend marked unhealthy once the threshold is met. -/
def recordFailure (threshold : UInt32) (error : String) (status : BackendHealthStatus) :
    BackendHealthStatus :=
  let consecutiveFailures := status.consecutiveFailures + 1
  { status with
    consecutiveFailures := consecutiveFailures
    consecutiveSuccesses := 0
    lastError := some error
    healthy := if consecutiveFailures ≥ threshold then false else status.healthy }

/-- The success arm, the mirror image of `recordFailure` with the error cleared. -/
def recordSuccess (threshold : UInt32) (status : BackendHealthStatus) : BackendHealthStatus :=
  let consecutiveSuccesses := status.consecutiveSuccesses + 1
  { status with
    consecutiveSuccesses := consecutiveSuccesses
    consecutiveFailures := 0
    lastError := none
    healthy := if consecutiveSuccesses ≥ threshold then true else status.healthy }

/-- The per-backend update of `health_check_loop`. The `unwrap()`s of the lagging
arm are `getD 0`: `lagging` only holds when both options are `some`. -/
def updateCurrentStatus (healthConfig : HealthCheckConfig) (maxSlot : Option UInt64) (now : Nat)
    (currentStatus : BackendHealthStatus) (checkResult : CheckResult) : BackendHealthStatus :=
  let updated :=
    match checkResult with
    | .ok slotOpt =>
      if lagging healthConfig.maxSlotLag slotOpt maxSlot then
        recordFailure healthConfig.consecutiveFailuresThreshold
          (laggingError (slotOpt.getD 0) (maxSlot.getD 0)) currentStatus
      else recordSuccess healthConfig.consecutiveSuccessesThreshold currentStatus
    | .error error => recordFailure healthConfig.consecutiveFailuresThreshold error currentStatus
  { updated with lastCheckTime := some now }

/-- The outcome counts against the backend: the check failed, or its slot lags. -/
def countsAsFailure (maxSlotLag : UInt64) (maxSlot : Option UInt64) : CheckResult → Bool
  | .ok slotOpt => lagging maxSlotLag slotOpt maxSlot
  | .error _ => true

/-! ## The consensus tip and the lag test -/

theorem slot_le_iff (a b : UInt64) : a ≤ b ↔ a.toNat ≤ b.toNat := Iff.rfl

theorem slot_lt_iff (a b : UInt64) : a < b ↔ a.toNat < b.toNat := Iff.rfl

private theorem slot_max_eq_or (a b : UInt64) : max a b = a ∨ max a b = b := by
  show (if a ≤ b then b else a) = a ∨ (if a ≤ b then b else a) = b
  split <;> simp

private theorem slot_max_le_iff (a b c : UInt64) : max b c ≤ a ↔ b ≤ a ∧ c ≤ a := by
  show (if b ≤ c then c else b) ≤ a ↔ b ≤ a ∧ c ≤ a
  split <;> rename_i ordered <;> simp only [slot_le_iff] at ordered ⊢ <;> omega

theorem reportedSlot_eq_some {result : CheckResult} {slot : UInt64} :
    reportedSlot result = some slot ↔ result = .ok (some slot) := by
  rcases result with _ | _ | _ <;> simp [reportedSlot]

theorem mem_reportedSlots {results : List (String × CheckResult)} {slot : UInt64} :
    slot ∈ reportedSlots results ↔ ∃ entry ∈ results, entry.2 = .ok (some slot) := by
  simp [reportedSlots, reportedSlot_eq_some]

theorem reportedSlot_eq_none {result : CheckResult} :
    reportedSlot result = none ↔ ∀ slot, result ≠ .ok (some slot) := by
  rcases result with _ | _ | _ <;> simp [reportedSlot]

theorem maxSlot_eq_none_iff {results : List (String × CheckResult)} :
    maxSlot results = none ↔ ∀ entry ∈ results, ∀ slot, entry.2 ≠ .ok (some slot) := by
  simp [maxSlot, reportedSlots, List.filterMap_eq_nil_iff, reportedSlot_eq_none]

theorem maxSlot_reported {results : List (String × CheckResult)} {tip : UInt64}
    (isTip : maxSlot results = some tip) : ∃ entry ∈ results, entry.2 = .ok (some tip) :=
  mem_reportedSlots.mp (List.max?_mem slot_max_eq_or isTip)

theorem le_maxSlot {results : List (String × CheckResult)} {tip slot : UInt64}
    (isTip : maxSlot results = some tip) {entry : String × CheckResult} (member : entry ∈ results)
    (reported : entry.2 = .ok (some slot)) : slot ≤ tip :=
  (List.max?_le_iff slot_max_le_iff isTip).mp (UInt64.le_refl tip) slot
    (mem_reportedSlots.mpr ⟨entry, member, reported⟩)

@[simp] theorem lagging_none_left (maxSlotLag : UInt64) (maxSlot : Option UInt64) :
    lagging maxSlotLag none maxSlot = false := rfl

@[simp] theorem lagging_none_right (maxSlotLag : UInt64) (slotOpt : Option UInt64) :
    lagging maxSlotLag slotOpt none = false := by
  cases slotOpt <;> rfl

/-- Inside the guard the `u64` difference is the integer difference. -/
theorem tip_sub_slot_toNat {slot tip : UInt64} (below : slot < tip) :
    (tip - slot).toNat = tip.toNat - slot.toNat :=
  UInt64.toNat_sub_of_le _ _ (Nat.le_of_lt below)

/-- The lag test is the integer comparison `max - slot > max_slot_lag`. -/
theorem lagging_iff (maxSlotLag slot tip : UInt64) :
    lagging maxSlotLag (some slot) (some tip) = true ↔
      (maxSlotLag.toNat : Int) < tip.toNat - slot.toNat := by
  simp only [lagging, Bool.and_eq_true, decide_eq_true_eq, gt_iff_lt, slot_lt_iff]
  constructor
  · rintro ⟨below, lagged⟩
    rw [tip_sub_slot_toNat below] at lagged
    omega
  · intro lagged
    have below : slot.toNat < tip.toNat := by omega
    rw [tip_sub_slot_toNat below]
    omega

theorem slot_lt_of_lagging {maxSlotLag slot tip : UInt64}
    (lagged : lagging maxSlotLag (some slot) (some tip) = true) : slot < tip := by
  have := (lagging_iff maxSlotLag slot tip).mp lagged
  rw [slot_lt_iff]
  omega

example : lagging 20 (some 70) (some 100) = true ∧ lagging 20 (some 100) (some 100) = false := by
  decide

/-! ## The two arms -/

section Arms

variable (threshold : UInt32) (error : String) (status : BackendHealthStatus)

@[simp] theorem recordFailure_consecutiveFailures :
    (recordFailure threshold error status).consecutiveFailures = status.consecutiveFailures + 1 :=
  rfl

@[simp] theorem recordFailure_consecutiveSuccesses :
    (recordFailure threshold error status).consecutiveSuccesses = 0 := rfl

@[simp] theorem recordFailure_lastError :
    (recordFailure threshold error status).lastError = some error := rfl

@[simp] theorem recordFailure_healthy :
    (recordFailure threshold error status).healthy =
      if status.consecutiveFailures + 1 ≥ threshold then false else status.healthy := rfl

@[simp] theorem recordSuccess_consecutiveSuccesses :
    (recordSuccess threshold status).consecutiveSuccesses = status.consecutiveSuccesses + 1 := rfl

@[simp] theorem recordSuccess_consecutiveFailures :
    (recordSuccess threshold status).consecutiveFailures = 0 := rfl

@[simp] theorem recordSuccess_lastError : (recordSuccess threshold status).lastError = none := rfl

@[simp] theorem recordSuccess_healthy :
    (recordSuccess threshold status).healthy =
      if status.consecutiveSuccesses + 1 ≥ threshold then true else status.healthy := rfl

end Arms

section Update

variable {healthConfig : HealthCheckConfig} {maxSlot : Option UInt64} {now : Nat}
  {currentStatus : BackendHealthStatus} {checkResult : CheckResult}

/-- A bad outcome runs the failure arm, with some error text. -/
theorem updateCurrentStatus_of_failure
    (bad : countsAsFailure healthConfig.maxSlotLag maxSlot checkResult = true) :
    ∃ error, updateCurrentStatus healthConfig maxSlot now currentStatus checkResult =
      { recordFailure healthConfig.consecutiveFailuresThreshold error currentStatus with
        lastCheckTime := some now } := by
  cases checkResult with
  | ok slotOpt =>
    exact ⟨laggingError (slotOpt.getD 0) (maxSlot.getD 0),
      by simp_all [updateCurrentStatus, countsAsFailure]⟩
  | error error => exact ⟨error, rfl⟩

/-- A good outcome runs the success arm. -/
theorem updateCurrentStatus_of_success
    (good : countsAsFailure healthConfig.maxSlotLag maxSlot checkResult = false) :
    updateCurrentStatus healthConfig maxSlot now currentStatus checkResult =
      { recordSuccess healthConfig.consecutiveSuccessesThreshold currentStatus with
        lastCheckTime := some now } := by
  cases checkResult with
  | ok slotOpt => simp_all [updateCurrentStatus, countsAsFailure]
  | error error => simp [countsAsFailure] at good

end Update

/-! ## The counters never disagree -/

/-- The relation between the two counters and the error that every record keeps:
a failure streak carries its error, a success streak carries none, and at most
one streak is running. -/
structure StatusConsistent (status : BackendHealthStatus) : Prop where
  failing : 0 < status.consecutiveFailures →
    status.consecutiveSuccesses = 0 ∧ status.lastError.isSome
  succeeding : 0 < status.consecutiveSuccesses →
    status.consecutiveFailures = 0 ∧ status.lastError = none

theorem default_consistent : StatusConsistent .default :=
  ⟨fun positive => absurd positive (by decide), fun positive => absurd positive (by decide)⟩

theorem recordFailure_consistent (threshold : UInt32) (error : String)
    (status : BackendHealthStatus) : StatusConsistent (recordFailure threshold error status) :=
  ⟨fun _ => by simp, fun positive => by simp at positive⟩

theorem recordSuccess_consistent (threshold : UInt32) (status : BackendHealthStatus) :
    StatusConsistent (recordSuccess threshold status) :=
  ⟨fun positive => by simp at positive, fun _ => by simp⟩

/-- Stamping the check time keeps a record consistent. -/
theorem StatusConsistent.stamp {status : BackendHealthStatus} (consistent : StatusConsistent status)
    (time : Option Nat) : StatusConsistent { status with lastCheckTime := time } :=
  ⟨consistent.failing, consistent.succeeding⟩

/-- Every record the per-backend update writes is consistent, from any record. -/
theorem updateCurrentStatus_consistent (healthConfig : HealthCheckConfig)
    (maxSlot : Option UInt64) (now : Nat) (currentStatus : BackendHealthStatus)
    (checkResult : CheckResult) :
    StatusConsistent (updateCurrentStatus healthConfig maxSlot now currentStatus checkResult) := by
  cases bad : countsAsFailure healthConfig.maxSlotLag maxSlot checkResult with
  | true =>
    obtain ⟨error, updated⟩ := @updateCurrentStatus_of_failure _ _ now currentStatus _ bad
    rw [updated]
    exact (recordFailure_consistent _ _ _).stamp _
  | false =>
    rw [updateCurrentStatus_of_success bad]
    exact (recordSuccess_consistent _ _).stamp _

/-! ## One cycle's lag classification -/

/-- The consensus tip is the largest reported slot; a backend takes the lagging
arm exactly when it reported a slot more than `max_slot_lag` below the tip, as
integers; the subtraction is only taken below the tip, where it cannot wrap; the
backend at the tip is never lagging, so some backend counts as good whenever a
slot was reported; a check without a slot is never lagging; and lagging is
antitone in the slot. -/
theorem maxSlot_lagging_classification (results : List (String × CheckResult))
    (maxSlotLag : UInt64) :
    (maxSlot results = none ↔ ∀ entry ∈ results, ∀ slot, entry.2 ≠ .ok (some slot)) ∧
    (∀ tip, maxSlot results = some tip →
      (∃ entry ∈ results, entry.2 = .ok (some tip)) ∧
      ∀ entry ∈ results, ∀ slot, entry.2 = .ok (some slot) → slot ≤ tip) ∧
    (∀ result : CheckResult,
      (∃ slotOpt, result = .ok slotOpt ∧ lagging maxSlotLag slotOpt (maxSlot results) = true) ↔
        ∃ slot tip, result = .ok (some slot) ∧ maxSlot results = some tip ∧
          (maxSlotLag.toNat : Int) < tip.toNat - slot.toNat) ∧
    (∀ slot tip : UInt64, slot < tip → (tip - slot).toNat = tip.toNat - slot.toNat) ∧
    (∀ slot tip, lagging maxSlotLag (some slot) (some tip) = true → slot < tip) ∧
    (∀ tip, maxSlot results = some tip →
      lagging maxSlotLag (some tip) (some tip) = false ∧
      ∃ entry ∈ results, countsAsFailure maxSlotLag (maxSlot results) entry.2 = false) ∧
    (∀ result : CheckResult, (∀ slot, result ≠ .ok (some slot)) →
      ¬ ∃ slotOpt, result = .ok slotOpt ∧ lagging maxSlotLag slotOpt (maxSlot results) = true) ∧
    (∀ slot slot' : UInt64, ∀ tip, slot ≤ slot' →
      lagging maxSlotLag (some slot') tip = true → lagging maxSlotLag (some slot) tip = true) := by
  have atTip : ∀ tip, lagging maxSlotLag (some tip) (some tip) = false := fun tip =>
    Bool.eq_false_iff.mpr fun lagged => by have := (lagging_iff _ _ _).mp lagged; omega
  refine ⟨maxSlot_eq_none_iff, fun tip isTip => ⟨maxSlot_reported isTip,
    fun entry member slot reported => le_maxSlot isTip member reported⟩, ?_,
    fun _ _ => tip_sub_slot_toNat, fun _ _ => slot_lt_of_lagging, ?_, ?_, ?_⟩
  · intro result
    constructor
    · rintro ⟨slotOpt, rfl, lagged⟩
      cases slotOpt with
      | none => simp at lagged
      | some slot =>
        cases isTip : maxSlot results with
        | none => simp [isTip] at lagged
        | some tip => exact ⟨slot, tip, rfl, rfl, (lagging_iff _ _ _).mp (isTip ▸ lagged)⟩
    · rintro ⟨slot, tip, rfl, isTip, lagged⟩
      exact ⟨some slot, rfl, isTip ▸ (lagging_iff _ _ _).mpr lagged⟩
  · intro tip isTip
    obtain ⟨entry, member, reported⟩ := maxSlot_reported isTip
    exact ⟨atTip tip, entry, member, by simp [countsAsFailure, reported, isTip, atTip]⟩
  · rintro result unreported ⟨slotOpt, rfl, lagged⟩
    cases slotOpt with
    | none => simp at lagged
    | some slot => exact unreported slot rfl
  · intro slot slot' tip ordered lagged
    cases tip with
    | none => simp at lagged
    | some tip =>
      have := (lagging_iff _ _ _).mp lagged
      rw [slot_le_iff] at ordered
      exact (lagging_iff _ _ _).mpr (by omega)

end SolRpcRouter.Health
