import ControlFabric.Runtime
import ControlFabric.Gate.Evidence

/-! Usage metering, and what it says against the audit log. A submit is metered at its end only,
which a rejected one does not reach: the metering falls behind the log by one submission and one
block for each rejection. The copy of the counters in Redis and the reports to the payment service,
on which the counters do not depend, are left out. -/
namespace ControlFabric.Metering
open Lib

structure MeteringEngine where
  counters : Dict String (Dict String ℤ)
  events : List MeterEvent

namespace MeteringEngine

def new : MeteringEngine := ⟨Dict.empty, []⟩

/-- `_counters[tenant_id]`, where a missing tenant has no counters. -/
def countersOf (engine : MeteringEngine) (tenantId : String) : Dict String ℤ :=
  (engine.counters.get? tenantId).getD Dict.empty

/-- `get_usage(tenant_id)[event_type]`, a missing counter being zero. -/
def getUsage (engine : MeteringEngine) (tenantId eventType : String) : ℤ :=
  ((engine.countersOf tenantId).get? eventType).getD 0

/-- `_counters[tenant_id][event_type] += quantity`, and the event itself. -/
def record (engine : MeteringEngine) (event : MeterEvent) : MeteringEngine where
  counters := engine.counters.set event.tenantId
    ((engine.countersOf event.tenantId).set event.eventType
      (engine.getUsage event.tenantId event.eventType + event.quantity))
  events := engine.events ++ [event]

/-- The engine after these calls of `record`. -/
def metered (events : List MeterEvent) : MeteringEngine := events.foldl record new

theorem getUsage_record (engine : MeteringEngine) (event : MeterEvent)
    (tenantId eventType : String) :
    (engine.record event).getUsage tenantId eventType = engine.getUsage tenantId eventType +
      if event.tenantId = tenantId ∧ event.eventType = eventType then event.quantity else 0 := by
  by_cases htenant : event.tenantId = tenantId
  · subst htenant
    by_cases htype : event.eventType = eventType
    · subst htype
      simp [getUsage, countersOf, record]
    · simp [getUsage, countersOf, record, htype, Dict.get?_set_of_ne (Ne.symm htype)]
  · simp [getUsage, countersOf, record, htenant, Dict.get?_set_of_ne (Ne.symm htenant)]

theorem metered_concat (events : List MeterEvent) (event : MeterEvent) :
    metered (events ++ [event]) = (metered events).record event := by
  simp [metered]

end MeteringEngine

/-! ### Metering against the audit log -/
open Method PlatformActionReleaseGate

/-- The usage of the current tenant, as the metering engine holds it. -/
def usage (w : World PlatformActionReleaseGate) (eventType : String) : ℤ :=
  (MeteringEngine.metered w.env.metered).getUsage w.env.tenant eventType

def isBlocked (entry : ActionDispatchResult) : Bool := entry.status = .blocked

/-- The metering lacks `k` submissions and blocks of the log, and nothing else. -/
structure Behind (k : ℕ) (w : World PlatformActionReleaseGate) : Prop where
  submissions : w.self.auditLog.length = usage w "gate_submission" + k
  blocks : w.self.auditLog.countP isBlocked = usage w "gate_block" + k
  releases : w.self.auditLog.countP (fun entry => !isBlocked entry) = usage w "gate_release"

/-- As many submissions are metered as there are entries in the log, as many blocks as blocked
entries, and as many releases as others. -/
def Agrees : World PlatformActionReleaseGate → Prop := Behind 0

theorem usage_metered_concat {w : World PlatformActionReleaseGate} {events : List MeterEvent}
    {event : MeterEvent} (eventType : String) :
    (MeteringEngine.metered (events ++ [event])).getUsage w.env.tenant eventType =
      (MeteringEngine.metered events).getUsage w.env.tenant eventType +
        if event.tenantId = w.env.tenant ∧ event.eventType = eventType then event.quantity else 0 := by
  rw [MeteringEngine.metered_concat, MeteringEngine.getUsage_record]

/-- A rejected submit is logged as blocked and not metered. -/
theorem Behind.step_rejected {k : ℕ} {w : World PlatformActionReleaseGate} (h : Behind k w)
    (rt : Runtime) {s : Submission} (hrejected : ¬ s.Admissible w.self.chain.activePolicies) :
    Behind (k + 1) (submitStep rt s w) := by
  obtain ⟨entry, rejection, draws, -, hstatus, -, -, hrun⟩ := submit_blocked rt hrejected
  have hblocked : isBlocked entry = true := decide_eq_true hstatus
  obtain ⟨hsubmissions, hblocks, hreleases⟩ := h
  have hstep := after_ok hrun
  have hlog : (submitStep rt s w).self.auditLog = w.self.auditLog ++ [entry] := by
    rw [submitStep, hstep]
  have hmetered (eventType : String) : usage (submitStep rt s w) eventType = usage w eventType := by
    rw [submitStep, hstep]
    rfl
  constructor
  · rw [hlog, hmetered, List.length_append, List.length_singleton]
    push_cast
    rw [hsubmissions, add_assoc]
  · rw [hlog, hmetered, List.countP_append]
    push_cast
    rw [hblocks]
    simp [hblocked, add_assoc]
  · rw [hlog, hmetered, List.countP_append]
    push_cast
    rw [hreleases]
    simp [hblocked]

/-- An admitted submit is logged and metered, or neither if its result is refused. -/
theorem Behind.step_admitted {k : ℕ} {w : World PlatformActionReleaseGate} (h : Behind k w)
    (rt : Runtime) {s : Submission} (hadmitted : s.Admissible w.self.chain.activePolicies) :
    Behind k (submitStep rt s w) := by
  obtain ⟨hsubmissions, hblocks, hreleases⟩ := h
  have hrun := submit_admitted rt hadmitted
  let package := s.compiled rt w.self.activePolicies w.env.draws
  cases hentry : ActionDispatchResult.new rt (w.env.draws + 8) package.packageId
      (s.verdict package).1 (s.verdict package).2 none with
  | error e =>
    simp only [package] at hentry
    simp only [hentry] at hrun
    rw [submitStep, after_error hrun]
    exact ⟨hsubmissions, hblocks, hreleases⟩
  | ok entry =>
    have hreleased : isBlocked entry = false := by
      have hstatus := (ActionDispatchResult.new_eq_ok hentry).2.1
      exact decide_eq_false (hstatus ▸ (s.verdict_status package).2.2.2)
    simp only [package] at hentry
    simp only [hentry] at hrun
    have hmetered (eventType : String) : usage (submitStep rt s w) eventType =
        usage w eventType + (if "gate_submission" = eventType then 1 else 0) +
          if "gate_release" = eventType then (1 : ℤ) else 0 := by
      rw [submitStep, after_ok hrun]
      have happend (events : List MeterEvent) (a b : MeterEvent) :
          events ++ [a, b] = (events ++ [a]) ++ [b] := by simp
      unfold usage
      dsimp only
      rw [happend, usage_metered_concat (w := w), usage_metered_concat (w := w)]
      simp
    have hlog : (submitStep rt s w).self.auditLog = w.self.auditLog ++ [entry] := by
      rw [submitStep, after_ok hrun]
    constructor
    · rw [hlog, hmetered]
      simp
      omega
    · rw [hlog, hmetered]
      simp [List.countP_append, hreleased, hblocks]
    · rw [hlog, hmetered]
      simp [List.countP_append, hreleased, hreleases]

/-- What the metering lacks after a run is what was rejected in it. -/
theorem Behind.run {k : ℕ} {w : World PlatformActionReleaseGate} (h : Behind k w) (rt : Runtime)
    (subs : List Submission) :
    Behind (k + subs.countP fun s => ¬ s.Admissible w.self.chain.activePolicies)
      (submitRun rt w subs) := by
  induction subs generalizing k w with
  | nil => exact h
  | cons s subs ih =>
    have hpolicies := (submitStep_policies rt s w).1
    have hcons : submitRun rt w (s :: subs) = submitRun rt (submitStep rt s w) subs := rfl
    rw [hcons]
    by_cases hadmitted : s.Admissible w.self.chain.activePolicies
    · have hrest := ih (h.step_admitted rt hadmitted)
      rw [hpolicies] at hrest
      simpa [hadmitted] using hrest
    · have hrest := ih (h.step_rejected rt hadmitted)
      rw [hpolicies, Nat.add_assoc, Nat.add_comm 1] at hrest
      simpa [hadmitted] using hrest

/-- Over every run of submits, the metering that agreed with the log before still does after it
exactly when the chain rejects no submission of the run. -/
theorem metering_agrees_iff (rt : Runtime) {w : World PlatformActionReleaseGate} (h : Agrees w)
    (subs : List Submission) :
    Agrees (submitRun rt w subs) ↔ ∀ s ∈ subs, s.Admissible w.self.chain.activePolicies := by
  have hbehind := h.run rt subs
  rw [Nat.zero_add] at hbehind
  have hnone : (subs.countP fun s => ¬ s.Admissible w.self.chain.activePolicies) = 0 ↔
      ∀ s ∈ subs, s.Admissible w.self.chain.activePolicies := by
    simp
  rw [← hnone]
  constructor
  · intro hagrees
    have hlog := hagrees.submissions
    have hlog' := hbehind.submissions
    omega
  · intro hzero
    rwa [hzero] at hbehind

/-- A new gate whose tenant was never metered. -/
def freshGate : World PlatformActionReleaseGate :=
  ⟨PlatformActionReleaseGate.new none none, .initial "north"⟩

theorem freshGate_agrees : Agrees freshGate := ⟨rfl, rfl, rfl⟩

/-- A submission by ada, and one by nobody. -/
def activation (requestedBy : String) : Submission where
  actionType := "state_transition"
  proposedPayload := [("target_state", .str "active")]
  requestedBy := requestedBy
  origin := .humanOperator
  evidenceReferences := none
  provenanceChain := none
  executor := none

theorem metering_agrees_iff_activations :
    Agrees (submitRun .reference freshGate [activation "ada", activation "bob"]) ↔
      ∀ s ∈ [activation "ada", activation "bob"],
        s.Admissible freshGate.self.chain.activePolicies :=
  metering_agrees_iff .reference freshGate_agrees _

/-- A submission by nobody is in the log and not in the metering. -/
theorem rejection_unmetered :
    ¬ ∀ (rt : Runtime) (w : World PlatformActionReleaseGate) (subs : List Submission),
      Agrees w → Agrees (submitRun rt w subs) := by
  intro h
  have hagrees := h .reference freshGate [activation ""] freshGate_agrees
  have hlogged : (submitRun .reference freshGate [activation ""]).self.auditLog.length = 1 := by
    decide +kernel
  have husage : usage (submitRun .reference freshGate [activation ""]) "gate_submission" = 0 := by
    decide +kernel
  have hsubmissions := hagrees.submissions
  omega

end ControlFabric.Metering
