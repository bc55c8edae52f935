import ControlFabric.Exceptions.Manager
import ControlFabric.Lib.Run

/-! What one call leaves of the requests and the decisions, and what it rules. -/
namespace ControlFabric.Exceptions
open Lib Py Method ExceptionManager

inductive ExceptionCall where
  | submitException (request : ExceptionRequest)
  | approveException (exceptionId decidedBy rationale : String) (conditions : Option (List String))
  | rejectException (exceptionId decidedBy rationale : String)
  | revokeException (exceptionId revokedBy reason : String)

def ExceptionCall.perform (rt : Runtime) : ExceptionCall → Method ExceptionManager Unit
  | submitException request => discard (ExceptionManager.submitException rt request)
  | approveException exceptionId decidedBy rationale conditions =>
    discard (ExceptionManager.approveException rt exceptionId decidedBy rationale conditions)
  | rejectException exceptionId decidedBy rationale =>
    discard (ExceptionManager.rejectException rt exceptionId decidedBy rationale)
  | revokeException exceptionId revokedBy reason =>
    ExceptionManager.revokeException rt exceptionId revokedBy reason

def exceptionStep (rt : Runtime) (call : ExceptionCall) (w : World ExceptionManager) :
    World ExceptionManager := (call.perform rt).after w

/-- What is ruled about an exception; an approval is given for the content then stored. -/
inductive Ruling where
  | approved (content : Content)
  | rejected
  | revoked
  deriving DecidableEq

/-- What a call rules, and about which exception, when it returns. -/
def ExceptionCall.ruled (m : ExceptionManager) : ExceptionCall → List (String × Ruling)
  | submitException _ => []
  | approveException exceptionId _ _ _ =>
    ((m.requests.get? exceptionId).map fun r => (exceptionId, .approved r.content)).toList
  | rejectException exceptionId _ _ => [(exceptionId, .rejected)]
  | revokeException exceptionId _ _ => [(exceptionId, .revoked)]

def ruling (rt : Runtime) (call : ExceptionCall) (w : World ExceptionManager) :
    List (String × Ruling) := if (call.perform rt).returns w then call.ruled w.self else []

/-- The rulings of a run, in the order in which they were made. -/
def rulings (rt : Runtime) (w : World ExceptionManager) (calls : List ExceptionCall) :
    List (String × Ruling) := trace (exceptionStep rt) (ruling rt) w calls

/-- What a call that rules thus leaves of the requests and the decisions. -/
inductive Effect (m : ExceptionManager) : ExceptionCall → List (String × Ruling) →
    Dict String ExceptionRequest → Dict String (List ExceptionDecision) → Prop
  | raised (call : ExceptionCall) : Effect m call [] m.requests m.decisions
  | submitted {r : ExceptionRequest}
      (ha : r.submission.Admissible m.gate.chain.activePolicies) :
      Effect m (.submitException r) [] (m.requests.set r.exceptionId r) m.decisions
  | approved {exceptionId decidedBy rationale : String} {conditions : Option (List String)}
      {r : ExceptionRequest} {d : ExceptionDecision} (hstored : m.requests.get? exceptionId = some r)
      (hd : d.decision = .approved) :
      Effect m (.approveException exceptionId decidedBy rationale conditions)
        [(exceptionId, .approved r.content)] m.requests
        (m.decisions.set exceptionId (m.decisions.getD exceptionId [] ++ [d]))
  | rejected {exceptionId decidedBy rationale : String} {d : ExceptionDecision}
      (hlength : 20 ≤ rationale.length) (hd : d.decision = .rejected) :
      Effect m (.rejectException exceptionId decidedBy rationale) [(exceptionId, .rejected)]
        m.requests (m.decisions.set exceptionId (m.decisions.getD exceptionId [] ++ [d]))
  | revoked {exceptionId revokedBy reason : String} :
      Effect m (.revokeException exceptionId revokedBy reason) [(exceptionId, .revoked)]
        m.requests m.decisions

section Steps
variable (rt : Runtime) {w : World ExceptionManager}

/-- The requests and the decisions are as before. -/
def Same (w w' : World ExceptionManager) : Prop :=
  w'.self.requests = w.self.requests ∧ w'.self.decisions = w.self.decisions

theorem run_audit (eventType exceptionId detail performedBy : String) :
    (audit rt eventType exceptionId detail performedBy).run w =
      .ok () ⟨{ w.self with auditLedger := w.self.auditLedger ++
        [.new rt w.env.draws exceptionId eventType detail performedBy] }, w.env.tick 1⟩ := rfl

theorem run_getRequest (exceptionId : String) : (getRequest exceptionId).run w =
    match w.self.requests.get? exceptionId with
    | some r => .ok r w
    | none => .error (.exceptionError s!"Exception {exceptionId} not found.") w := by
  unfold getRequest
  simp only [EStateM.run_bind, run_self]
  cases w.self.requests.get? exceptionId <;> rfl

/-- A request the gate lets through is stored, whatever was stored under its identifier. -/
theorem submit_stored {r : ExceptionRequest}
    (ha : r.submission.Admissible w.self.gate.chain.activePolicies) :
    ∃ w', (submitException rt r).run w = .ok r w' ∧
      w'.self.requests = w.self.requests.set r.exceptionId r ∧
      w'.self.decisions = w.self.decisions ∧
      w'.self.gate.chain.activePolicies = w.self.gate.chain.activePolicies := by
  obtain ⟨result, gate', env', hstatus, -, hreleased, -, hrun⟩ := submit_released rt w.env rfl ha
  let v : World ExceptionManager := ⟨{ w.self with
    gate := gate'
    requests := w.self.requests.set r.exceptionId r
    auditLedger := w.self.auditLedger ++ [.new rt env'.draws r.exceptionId "submitted"
      s!"Exception request submitted by {r.requestedBy}" r.requestedBy] }, env'.tick 1⟩
  refine ⟨v, ?_, rfl, rfl, hreleased.policies⟩
  simp only [submitException, EStateM.run_bind, run_on, hrun, hstatus, reduceCtorEq, if_false,
    run_pure, run_assign, run_audit]
  rfl

theorem submit_raised {r : ExceptionRequest}
    (ha : ¬ r.submission.Admissible w.self.gate.chain.activePolicies) :
    ∃ e w', (submitException rt r).run w = .error e w' ∧ Same w w' := by
  obtain ⟨result, gate', env', hstatus, -, -, -, hrun⟩ := submit_refused rt w.env ha
  let failureReason := result.failureReason.getD "None"
  refine ⟨.exceptionError s!"Exception request blocked: {failureReason}",
    ⟨{ w.self with gate := gate' }, env'⟩, ?_, rfl, rfl⟩
  simp only [submitException, EStateM.run_bind, run_on, hrun, hstatus, if_true, run_raise]
  rfl

/-- What an approval asks of the request and of the approver. -/
structure Approvable (rt : Runtime) (w : World ExceptionManager) (exceptionId rationale : String)
    (r : ExceptionRequest) (expires : ℤ) : Prop where
  stored : w.self.requests.get? exceptionId = some r
  aware : r.expiresAt.comparable = .ok expires
  unexpired : (rt.now w.env.draws).instant ≤ expires
  rationale_length : 20 ≤ rationale.length

/-- A rationale that is too short, for a request that can still be approved. -/
def Orphans (rt : Runtime) (w : World ExceptionManager) (exceptionId rationale : String) : Prop :=
  rationale.length < 20 ∧ ∃ r ∈ w.self.requests.get? exceptionId,
    ∃ expires, r.expiresAt.comparable = .ok expires ∧ (rt.now w.env.draws).instant ≤ expires

section Approve
variable {rt} {exceptionId rationale : String} (decidedBy : String)
  (conditions : Option (List String))

/-- A granted approval opens the task that its decision names. -/
theorem approve_reviewed {r : ExceptionRequest} {expires : ℤ}
    (h : Approvable rt w exceptionId rationale r expires) :
    ∃ d w' task entry,
      (approveException rt exceptionId decidedBy rationale conditions).run w = .ok d w' ∧
      d.decision = .approved ∧ task.status = "open" ∧ task.taskId = d.reviewTaskId ∧
      task.exceptionId = d.exceptionId ∧ w'.self = { w.self with
        reviewTasks := w.self.reviewTasks ++ [task]
        decisions := w.self.decisions.set exceptionId (w.self.decisions.getD exceptionId [] ++ [d])
        auditLedger := w.self.auditLedger ++ [entry] } := by
  have hnow : ¬ expires < (rt.now w.env.draws).instant := not_lt.mpr h.unexpired
  simp only [approveException, EStateM.run_bind, run_getRequest, h.stored, validateNotExpired,
    run_draw, h.aware, run_lift_ok, if_neg hnow, run_pure, run_assign, ExceptionDecision.new,
    dif_pos h.rationale_length, recordDecision, run_audit]
  exact ⟨_, _, _, _, rfl, rfl, rfl, rfl, rfl, rfl⟩

theorem approve_orphaned (h : Orphans rt w exceptionId rationale) :
    ∃ e w' task, (approveException rt exceptionId decidedBy rationale conditions).run w =
      .error e w' ∧ task.status = "open" ∧
        w'.self = { w.self with reviewTasks := w.self.reviewTasks ++ [task] } := by
  obtain ⟨hshort, r, hstored, expires, haware, hunexpired⟩ := h
  rw [Option.mem_def] at hstored
  have hnow : ¬ expires < (rt.now w.env.draws).instant := not_lt.mpr hunexpired
  simp only [approveException, EStateM.run_bind, run_getRequest, hstored, validateNotExpired,
    run_draw, haware, run_lift_ok, if_neg hnow, run_pure, run_assign, ExceptionDecision.new,
    dif_neg (not_le.mpr hshort), run_lift_error]
  exact ⟨_, _, _, rfl, rfl, rfl⟩

theorem approve_refused (h : ∀ r expires, ¬ Approvable rt w exceptionId rationale r expires)
    (horphan : ¬ Orphans rt w exceptionId rationale) :
    ∃ e w', (approveException rt exceptionId decidedBy rationale conditions).run w = .error e w' ∧
      w'.self = w.self := by
  simp only [approveException, EStateM.run_bind, run_getRequest]
  cases hstored : w.self.requests.get? exceptionId with
  | none => exact ⟨_, _, rfl, rfl⟩
  | some r =>
    simp only [validateNotExpired, EStateM.run_bind, run_draw]
    cases haware : r.expiresAt.comparable with
    | error e => exact ⟨_, _, rfl, rfl⟩
    | ok expires =>
      simp only [run_lift_ok]
      by_cases hnow : expires < (rt.now w.env.draws).instant
      · simp only [if_pos hnow, run_raise]
        exact ⟨_, _, rfl, rfl⟩
      · rcases lt_or_ge rationale.length 20 with hshort | hlength
        · exact absurd ⟨hshort, r, hstored, expires, haware, not_lt.mp hnow⟩ horphan
        · exact absurd ⟨hstored, haware, not_lt.mp hnow, hlength⟩ (h r expires)

theorem approve_granted {r : ExceptionRequest} {expires : ℤ}
    (h : Approvable rt w exceptionId rationale r expires) :
    ∃ d w', (approveException rt exceptionId decidedBy rationale conditions).run w = .ok d w' ∧
      d.decision = .approved ∧ w'.self.gate = w.self.gate ∧
      w'.self.requests = w.self.requests ∧ w'.self.decisions =
        w.self.decisions.set exceptionId (w.self.decisions.getD exceptionId [] ++ [d]) := by
  obtain ⟨d, w', task, entry, hrun, hd, -, -, -, hself⟩ := approve_reviewed decidedBy conditions h
  exact ⟨d, w', hrun, hd, by rw [hself], by rw [hself], by rw [hself]⟩

theorem approve_raised (h : ∀ r expires, ¬ Approvable rt w exceptionId rationale r expires) :
    ∃ e w', (approveException rt exceptionId decidedBy rationale conditions).run w = .error e w' ∧
      Same w w' := by
  by_cases horphan : Orphans rt w exceptionId rationale
  · obtain ⟨e, w', task, hrun, -, hself⟩ := approve_orphaned decidedBy conditions horphan
    exact ⟨e, w', hrun, by rw [hself], by rw [hself]⟩
  · obtain ⟨e, w', hrun, hself⟩ := approve_refused decidedBy conditions h horphan
    exact ⟨e, w', hrun, by rw [hself], by rw [hself]⟩

end Approve

theorem reject_recorded {exceptionId rationale : String} {r : ExceptionRequest}
    (hstored : w.self.requests.get? exceptionId = some r) (hlength : 20 ≤ rationale.length)
    (decidedBy : String) :
    ∃ d w', (rejectException rt exceptionId decidedBy rationale).run w = .ok d w' ∧
      d.decision = .rejected ∧ w'.self.requests = w.self.requests ∧ w'.self.decisions =
        w.self.decisions.set exceptionId (w.self.decisions.getD exceptionId [] ++ [d]) := by
  simp only [rejectException, EStateM.run_bind, run_getRequest, hstored, run_draw, run_assign,
    ExceptionDecision.new, dif_pos hlength, run_lift_ok, recordDecision, run_audit, run_pure]
  exact ⟨_, _, rfl, rfl, rfl, rfl⟩

theorem reject_raised {exceptionId rationale : String}
    (h : ∀ r, ¬ (w.self.requests.get? exceptionId = some r ∧ 20 ≤ rationale.length))
    (decidedBy : String) :
    ∃ e w', (rejectException rt exceptionId decidedBy rationale).run w = .error e w' ∧
      Same w w' := by
  simp only [rejectException, EStateM.run_bind, run_getRequest]
  cases hstored : w.self.requests.get? exceptionId with
  | none => exact ⟨_, _, rfl, rfl, rfl⟩
  | some r =>
    have hlength : ¬ 20 ≤ rationale.length := fun hlength => h r ⟨hstored, hlength⟩
    simp only [run_draw, ExceptionDecision.new, dif_neg hlength, run_lift_error]
    exact ⟨_, _, rfl, rfl, rfl⟩

theorem revoke_recorded {exceptionId : String} {r : ExceptionRequest}
    (hstored : w.self.requests.get? exceptionId = some r) (revokedBy reason : String) :
    ∃ w', (revokeException rt exceptionId revokedBy reason).run w = .ok () w' ∧ Same w w' := by
  simp only [revokeException, EStateM.run_bind, run_getRequest, hstored, run_audit]
  exact ⟨_, rfl, rfl, rfl⟩

theorem revoke_raised {exceptionId : String} (h : w.self.requests.get? exceptionId = none)
    (revokedBy reason : String) :
    ∃ e w', (revokeException rt exceptionId revokedBy reason).run w = .error e w' ∧
      Same w w' := by
  simp only [revokeException, EStateM.run_bind, run_getRequest, h]
  exact ⟨_, _, rfl, rfl, rfl⟩

variable {rt}

theorem step_ok (call : ExceptionCall) {w' : World ExceptionManager}
    (h : (call.perform rt).run w = .ok () w') :
    exceptionStep rt call w = w' ∧ ruling rt call w = call.ruled w.self := by
  have hreturns : (call.perform rt).returns w = true := by rw [returns, h]
  exact ⟨after_ok h, if_pos hreturns⟩

theorem effect_of_error (call : ExceptionCall) {e : PyError} {w' : World ExceptionManager}
    (h : (call.perform rt).run w = .error e w') (hsame : Same w w') :
    Effect w.self call (ruling rt call w) (exceptionStep rt call w).self.requests
      (exceptionStep rt call w).self.decisions := by
  have hreturns : ¬ (call.perform rt).returns w = true := by simp [returns, h]
  rw [exceptionStep, after_error h, hsame.1, hsame.2, ruling, if_neg hreturns]
  exact .raised call

variable (rt) in
theorem effect (call : ExceptionCall) : Effect w.self call (ruling rt call w)
    (exceptionStep rt call w).self.requests (exceptionStep rt call w).self.decisions := by
  cases call with
  | submitException r =>
    by_cases ha : r.submission.Admissible w.self.gate.chain.activePolicies
    · obtain ⟨w', hrun, hrequests, hdecisions, -⟩ := submit_stored rt ha
      obtain ⟨hstep, hruling⟩ := step_ok (.submitException r) (run_discard_ok hrun)
      rw [hstep, hruling, hrequests, hdecisions]
      exact .submitted ha
    · obtain ⟨e, w', hrun, hsame⟩ := submit_raised rt ha
      exact effect_of_error _ (run_discard_error hrun) hsame
  | approveException exceptionId decidedBy rationale conditions =>
    by_cases h : ∃ r expires, Approvable rt w exceptionId rationale r expires
    · obtain ⟨r, expires, h⟩ := h
      obtain ⟨d, w', hrun, hd, -, hrequests, hdecisions⟩ := approve_granted decidedBy conditions h
      obtain ⟨hstep, hruling⟩ := step_ok
        (.approveException exceptionId decidedBy rationale conditions) (run_discard_ok hrun)
      rw [hstep, hruling, hrequests, hdecisions, ExceptionCall.ruled, h.stored]
      exact .approved h.stored hd
    · simp only [not_exists] at h
      obtain ⟨e, w', hrun, hsame⟩ := approve_raised decidedBy conditions h
      exact effect_of_error _ (run_discard_error hrun) hsame
  | rejectException exceptionId decidedBy rationale =>
    by_cases h : ∃ r, w.self.requests.get? exceptionId = some r ∧ 20 ≤ rationale.length
    · obtain ⟨r, hstored, hlength⟩ := h
      obtain ⟨d, w', hrun, hd, hrequests, hdecisions⟩ :=
        reject_recorded rt hstored hlength decidedBy
      obtain ⟨hstep, hruling⟩ := step_ok
        (.rejectException exceptionId decidedBy rationale) (run_discard_ok hrun)
      rw [hstep, hruling, hrequests, hdecisions]
      exact .rejected hlength hd
    · simp only [not_exists] at h
      obtain ⟨e, w', hrun, hsame⟩ := reject_raised rt h decidedBy
      exact effect_of_error _ (run_discard_error hrun) hsame
  | revokeException exceptionId revokedBy reason =>
    cases hstored : w.self.requests.get? exceptionId with
    | some r =>
      obtain ⟨w', hrun, hrequests, hdecisions⟩ :=
        revoke_recorded rt hstored revokedBy reason
      obtain ⟨hstep, hruling⟩ := step_ok
        (.revokeException exceptionId revokedBy reason) hrun
      rw [hstep, hruling, hrequests, hdecisions]
      exact .revoked
    | none =>
      obtain ⟨e, w', hrun, hsame⟩ := revoke_raised rt hstored revokedBy reason
      exact effect_of_error (.revokeException exceptionId revokedBy reason) hrun hsame

end Steps
end ControlFabric.Exceptions
