import ControlFabric.ReleaseGuard.Services
import ControlFabric.Gate.Accounting
import ControlFabric.Lib.Run

/-! What a call of the services does: which release it rewrites and how, which step or exception it
decides, what it brings forth under a fresh identifier, and when it is refused. -/
namespace ControlFabric.ReleaseGuard
open Lib Method Services

/-- A call of a service, among them the marks that the approval service sets on a release. -/
inductive ServiceCall where
  | guard (call : GuardCall)
  | markApproved (releaseId approvedBy : String)
  | markBlocked (releaseId reason blockedBy : String)

def ServiceCall.perform (rt : Runtime) : ServiceCall → Method Services Unit
  | guard call => call.perform rt
  | markApproved releaseId approvedBy => discard (Services.markApproved rt releaseId approvedBy)
  | markBlocked releaseId reason blockedBy =>
    discard (Services.markBlocked rt releaseId reason blockedBy)

def serviceStep (rt : Runtime) (call : ServiceCall) (w : World Services) : World Services :=
  (call.perform rt).after w

theorem serviceStep_guard (rt : Runtime) (call : GuardCall) (w : World Services) :
    serviceStep rt (.guard call) w = guardStep rt call w := rfl

/-! ### What is written -/

/-- All evidence that the profile requires is attached. -/
def ReleaseRequest.Complete (r : ReleaseRequest) (profileName : PolicyProfileName) : Prop :=
  ∀ req ∈ getRequiredEvidence profileName, ∃ e ∈ r.evidenceItems, e.evidenceType.value = req

theorem ReleaseRequest.complete_iff {r : ReleaseRequest} {profileName : PolicyProfileName} :
    (r.evidenceCompleteness profileName).complete ↔ r.Complete profileName := by
  unfold Completeness.complete Completeness.completeCount ReleaseRequest.Complete
  rw [decide_eq_true_eq, List.countP_eq_length]
  unfold ReleaseRequest.evidenceCompleteness
  rw [List.forall_mem_map]
  simp only [decide_eq_true_eq, List.mem_map]

/-- What a submission ends in. -/
def Decided (profileName : PolicyProfileName) (r : ReleaseRequest) : Prop :=
  r.status = .blocked ∨
    r.Complete profileName ∧ (r.status = .pending ∧ needsApproval profileName r.riskLevel ∨
      r.status = .approved ∧ ¬ needsApproval profileName r.riskLevel)

/-- A release can be submitted, and evidence can be added to it. -/
def ReleaseRequest.Open (r : ReleaseRequest) : Prop := r.status = .draft ∨ r.status = .blocked

variable {r : ReleaseRequest}

theorem open_of (h : ¬ (r.status ≠ .draft ∧ r.status ≠ .blocked)) : r.Open := by
  unfold ReleaseRequest.Open
  tauto

theorem not_open (h : r.status ≠ .draft ∧ r.status ≠ .blocked) : ¬ r.Open := by
  unfold ReleaseRequest.Open
  tauto

/-- The step as an approval leaves it. -/
def ApprovalStep.approvedAt (step : ApprovalStep) (now note : String) : ApprovalStep :=
  { step with status := .approved, decidedAt := some now, decisionNote := note }

/-- A release is rewritten: what becomes of its status and of its evidence. -/
structure Rewrites (status : ReleaseStatus → ReleaseStatus)
    (items : List EvidenceItem → List EvidenceItem) (f : ReleaseRequest → ReleaseRequest) :
    Prop where
  status : ∀ r, (f r).status = status r.status
  evidence : ∀ r, (f r).evidenceItems = items r.evidenceItems
  risk : ∀ r, (f r).riskLevel = r.riskLevel

namespace Services
variable (s : Services) (f : ReleaseRequest → ReleaseRequest)

/-- The services with the release rewritten, if it is stored. -/
def rewrite (releaseId : String) : Services :=
  match s.releases.get? releaseId with
  | some r => { s with releases := s.releases.set releaseId (f r) }
  | none => s

def withStep (stepId : String) (step : ApprovalStep) : Services :=
  { s with steps := s.steps.set stepId step }

def withException (exceptionId : String) (exc : ExceptionRequest) : Services :=
  { s with exceptions := s.exceptions.set exceptionId exc }

variable {s f} {releaseId : String} {r : ReleaseRequest}

@[simp] theorem withStep_releases (stepId : String) (step : ApprovalStep) :
    (s.withStep stepId step).releases = s.releases := rfl

@[simp] theorem withStep_stepsByRelease (stepId : String) (step : ApprovalStep) :
    (s.withStep stepId step).stepsByRelease = s.stepsByRelease := rfl

@[simp] theorem withStep_exceptions (stepId : String) (step : ApprovalStep) :
    (s.withStep stepId step).exceptions = s.exceptions := rfl

@[simp] theorem withException_releases (exceptionId : String) (exc : ExceptionRequest) :
    (s.withException exceptionId exc).releases = s.releases := rfl

@[simp] theorem withException_steps (exceptionId : String) (exc : ExceptionRequest) :
    (s.withException exceptionId exc).steps = s.steps := rfl

@[simp] theorem withException_stepsByRelease (exceptionId : String) (exc : ExceptionRequest) :
    (s.withException exceptionId exc).stepsByRelease = s.stepsByRelease := rfl

variable (f) in
theorem rewrite_some (h : s.releases.get? releaseId = some r) :
    s.rewrite f releaseId = { s with releases := s.releases.set releaseId (f r) } := by
  simp only [rewrite, h]

theorem rewrite_none (h : s.releases.get? releaseId = none) : s.rewrite f releaseId = s := by
  simp only [rewrite, h]

theorem get?_rewrite (releaseId' : String) : (s.rewrite f releaseId).releases.get? releaseId' =
    if releaseId' = releaseId then (s.releases.get? releaseId).map f
    else s.releases.get? releaseId' := by
  cases h : s.releases.get? releaseId with
  | none =>
    rw [rewrite_none h]
    by_cases hid : releaseId' = releaseId
    · rw [if_pos hid, hid, h]
      rfl
    · rw [if_neg hid]
  | some r =>
    rw [rewrite_some f h, Dict.get?_set]
    rfl

@[simp] theorem rewrite_steps : (s.rewrite f releaseId).steps = s.steps := by
  unfold rewrite
  split <;> rfl

@[simp] theorem rewrite_stepsByRelease :
    (s.rewrite f releaseId).stepsByRelease = s.stepsByRelease := by
  unfold rewrite
  split <;> rfl

@[simp] theorem rewrite_exceptions : (s.rewrite f releaseId).exceptions = s.exceptions := by
  unfold rewrite
  split <;> rfl

theorem allApproved_rewrite (releaseId' : String) :
    (s.rewrite f releaseId).AllApproved releaseId' = s.AllApproved releaseId' := by
  simp only [AllApproved, getStepsForRelease, rewrite_steps, rewrite_stepsByRelease]

theorem mem_rewrite (releaseId' : String) :
    releaseId' ∈ (s.rewrite f releaseId).releases ↔ releaseId' ∈ s.releases := by
  rw [Dict.mem_iff_get?, Dict.mem_iff_get?, get?_rewrite]
  by_cases hid : releaseId' = releaseId
  · rw [if_pos hid, hid]
    cases s.releases.get? releaseId <;> simp
  · rw [if_neg hid]

end Services

/-! ### What a call does -/

/-- The call raises before it writes anything. -/
def Refused (call : GuardCall) (s : Services) : Prop :=
  match call with
  | .addEvidence releaseId .. | .submit releaseId _ => ∀ r ∈ s.releases.get? releaseId, ¬ r.Open
  | .approve stepId _ | .reject stepId _ _ => s.steps.get? stepId = none
  | .raiseException releaseId .. => ∀ r ∈ s.releases.get? releaseId, r.status ≠ .blocked
  | .approveException exceptionId _ _ | .rejectException exceptionId _ _ =>
    s.exceptions.get? exceptionId = none
  | _ => False

inductive Act (rt : Runtime) (w w' : World Services) : ServiceCall → Prop where
  | refused {call : GuardCall} (hrefused : Refused call w.self) (hself : w'.self = w.self) :
      Act rt w w' (.guard call)
  | created {workspaceId tenantId title serviceName environment : String} {riskLevel : ReleaseRisk}
      {submittedBy description : String} (r : ReleaseRequest) (hstatus : r.status = .draft)
      (hdraw : w.env.draws < w'.env.draws)
      (hself : w'.self =
        { w.self with releases := w.self.releases.set (rt.uuid4 w.env.draws) r }) :
      Act rt w w' (.guard (.create workspaceId tenantId title serviceName environment riskLevel
        submittedBy description))
  | evidenceAdded {releaseId : String} {evidenceType : EvidenceType}
      {title reference url addedBy : String} (r : ReleaseRequest)
      (hstored : w.self.releases.get? releaseId = some r) (hopen : r.Open) (item : EvidenceItem)
      (f : ReleaseRequest → ReleaseRequest) (hf : Rewrites id (· ++ [item]) f)
      (hself : w'.self = w.self.rewrite f releaseId) :
      Act rt w w' (.guard (.addEvidence releaseId evidenceType title reference url addedBy))
  | evidenceRemoved {releaseId evidenceId : String} (f : ReleaseRequest → ReleaseRequest)
      (hf : Rewrites id (fun items => items.filter fun e => e.evidenceId ≠ evidenceId) f)
      (hself : w'.self = w.self.rewrite f releaseId) :
      Act rt w w' (.guard (.removeEvidence releaseId evidenceId))
  | submitted {releaseId : String} {profileName : PolicyProfileName} (r r' : ReleaseRequest)
      (hstored : w.self.releases.get? releaseId = some r) (hopen : r.Open)
      (hevidence : r'.evidenceItems = r.evidenceItems) (hdecided : Decided profileName r')
      (hself : w'.self = w.self.rewrite (fun _ => r') releaseId) :
      Act rt w w' (.guard (.submit releaseId profileName))
  | cancelled {releaseId cancelledBy : String} (f : ReleaseRequest → ReleaseRequest)
      (hf : Rewrites (fun _ => .cancelled) id f) (hself : w'.self = w.self.rewrite f releaseId) :
      Act rt w w' (.guard (.cancel releaseId cancelledBy))
  | requested {releaseId approverEmail : String} {slaHours : ℤ} (step : ApprovalStep)
      (hreleaseId : step.releaseId = releaseId) (hstatus : step.status = .pending)
      (hdraw : w.env.draws < w'.env.draws)
      (hself : w'.self = { w.self.withStep (rt.uuid4 w.env.draws) step with
        stepsByRelease := w.self.stepsByRelease.set releaseId
          (w.self.stepsByRelease.getD releaseId [] ++ [rt.uuid4 w.env.draws]) }) :
      Act rt w w' (.guard (.request releaseId approverEmail slaHours))
  | stepApproved {stepId note : String} (step step' : ApprovalStep)
      (f : ReleaseRequest → ReleaseRequest) (hstep : w.self.steps.get? stepId = some step)
      (hreleaseId : step'.releaseId = step.releaseId) (hstatus : step'.status = .approved)
      (hf : Rewrites (fun _ => .approved) id f)
      (hself : w'.self = if (w.self.withStep stepId step').AllApproved step.releaseId then
        (w.self.withStep stepId step').rewrite f step.releaseId else w.self.withStep stepId step') :
      Act rt w w' (.guard (.approve stepId note))
  | stepRejected {stepId rejectedBy note : String} (step step' : ApprovalStep)
      (f : ReleaseRequest → ReleaseRequest) (hstep : w.self.steps.get? stepId = some step)
      (hreleaseId : step'.releaseId = step.releaseId) (hstatus : step'.status = .rejected)
      (hf : Rewrites (fun _ => .blocked) id f)
      (hself : w'.self = (w.self.withStep stepId step').rewrite f step.releaseId) :
      Act rt w w' (.guard (.reject stepId rejectedBy note))
  | raised {releaseId workspaceId raisedBy reason businessJustification approverEmail
      urgency : String} (r : ReleaseRequest) (hstored : w.self.releases.get? releaseId = some r)
      (hblocked : r.status = .blocked) (exc : ExceptionRequest)
      (f : ReleaseRequest → ReleaseRequest) (byRelease : Dict String (List String))
      (hstatus : exc.status = .pendingApproval) (hreleaseId : exc.releaseId = releaseId)
      (hdraw : w.env.draws < w'.env.draws) (hf : Rewrites id id f)
      (hself : w'.self = Services.rewrite { w.self.withException (rt.uuid4 w.env.draws) exc with
        exceptionsByRelease := byRelease } f releaseId) :
      Act rt w w' (.guard (.raiseException releaseId workspaceId raisedBy reason
        businessJustification approverEmail urgency))
  | exceptionApproved {exceptionId approvedBy note : String} (exc exc' : ExceptionRequest)
      (f : ReleaseRequest → ReleaseRequest) (hexc : w.self.exceptions.get? exceptionId = some exc)
      (hstatus : exc'.status = .approved) (hf : Rewrites (fun _ => .approved) id f)
      (hself : w'.self = (w.self.withException exceptionId exc').rewrite f exc.releaseId) :
      Act rt w w' (.guard (.approveException exceptionId approvedBy note))
  | exceptionRejected {exceptionId rejectedBy note : String} (exc exc' : ExceptionRequest)
      (f : ReleaseRequest → ReleaseRequest) (hexc : w.self.exceptions.get? exceptionId = some exc)
      (hstatus : exc'.status = .rejected) (hf : Rewrites id id f)
      (hself : w'.self = (w.self.withException exceptionId exc').rewrite f exc.releaseId) :
      Act rt w w' (.guard (.rejectException exceptionId rejectedBy note))
  | markedApproved {releaseId approvedBy : String} (f : ReleaseRequest → ReleaseRequest)
      (hf : Rewrites (fun _ => .approved) id f) (hself : w'.self = w.self.rewrite f releaseId) :
      Act rt w w' (.markApproved releaseId approvedBy)
  | markedBlocked {releaseId reason blockedBy : String} (f : ReleaseRequest → ReleaseRequest)
      (hf : Rewrites (fun _ => .blocked) id f) (hself : w'.self = w.self.rewrite f releaseId) :
      Act rt w w' (.markBlocked releaseId reason blockedBy)

/-- A call does not take draws back. -/
structure Does (rt : Runtime) (call : ServiceCall) (w w' : World Services) : Prop where
  draws_le : w.env.draws ≤ w'.env.draws
  act : Act rt w w' call

section Step
variable (rt : Runtime) {σ : Type} {w : World Services} {v : World σ}

theorem run_isoNow :
    (isoNow rt).run v = .ok (rt.now v.env.draws).isoformat ⟨v.self, v.env.tick 1⟩ := rfl

theorem run_addAudit (r : ReleaseRequest) (event actor detail : String) :
    (addAudit rt r event actor detail).run v = .ok
      { r with auditTrail :=
          r.auditTrail ++ [⟨event, actor, detail, (rt.now v.env.draws).isoformat⟩] }
      ⟨v.self, v.env.tick 1⟩ := rfl

theorem run_putRelease (releaseId : String) (r : ReleaseRequest) : (putRelease releaseId r).run w =
    .ok () ⟨{ w.self with releases := w.self.releases.set releaseId r }, w.env⟩ := rfl

theorem run_putStep (stepId : String) (step : ApprovalStep) :
    (putStep stepId step).run w = .ok () ⟨w.self.withStep stepId step, w.env⟩ := rfl

theorem run_putException (exceptionId : String) (exc : ExceptionRequest) :
    (putException exceptionId exc).run w = .ok () ⟨w.self.withException exceptionId exc, w.env⟩ :=
  rfl

theorem run_getRelease (releaseId : String) : (getRelease releaseId).run w =
    match w.self.releases.get? releaseId with
    | some r => .ok r w
    | none => .error (.valueError s!"Release {releaseId} not found") w := by
  unfold getRelease
  simp only [EStateM.run_bind, run_self]
  cases w.self.releases.get? releaseId <;> rfl

theorem run_getStep (stepId : String) : (getStep stepId).run w =
    match w.self.steps.get? stepId with
    | some step => .ok step w
    | none => .error (.valueError s!"Approval step {stepId} not found") w := by
  unfold getStep
  simp only [EStateM.run_bind, run_self]
  cases w.self.steps.get? stepId <;> rfl

theorem run_getException (exceptionId : String) : (getException exceptionId).run w =
    match w.self.exceptions.get? exceptionId with
    | some exc => .ok exc w
    | none => .error (.valueError s!"Exception {exceptionId} not found") w := by
  unfold getException
  simp only [EStateM.run_bind, run_self]
  cases w.self.exceptions.get? exceptionId <;> rfl

/-- The gate is asked without a trace in the services. -/
theorem run_askGate (r : ReleaseRequest) :
    ∃ answer env, v.env.draws ≤ env.draws ∧ (askGate rt r).run v = .ok answer ⟨v.self, env⟩ := by
  have hle := (submitStep_packages rt (submission r)
    ⟨PlatformActionReleaseGate.new none none, v.env⟩).1.le
  unfold submitStep Method.after at hle
  unfold askGate
  rw [run_on, run_tryCatch, run_map]
  revert hle
  cases (PlatformActionReleaseGate.submit rt (submission r)).run
      ⟨PlatformActionReleaseGate.new none none, v.env⟩ with
  | ok result u => exact fun hle => ⟨some result, u.env, hle, rfl⟩
  | error e u => exact fun hle => ⟨none, u.env, hle, rfl⟩

theorem run_conclude (profileName : PolicyProfileName) (r : ReleaseRequest) (now : String) :
    ∃ r' env, v.env.draws ≤ env.draws ∧
      (conclude rt profileName r now).run v = .ok r' ⟨v.self, env⟩ ∧
      r'.evidenceItems = r.evidenceItems ∧ r'.riskLevel = r.riskLevel ∧
        (r'.status = .blocked ∨ r'.status = .pending ∧ needsApproval profileName r.riskLevel ∨
          r'.status = .approved ∧ ¬ needsApproval profileName r.riskLevel) := by
  obtain ⟨answer, env, hle, hanswer⟩ := run_askGate rt (v := v) r
  have hle' : v.env.draws ≤ (env.tick 1).draws := hle.trans (Nat.le_add_right _ 1)
  unfold conclude
  rw [EStateM.run_bind, hanswer]
  dsimp only
  cases answer with
  | some result =>
    dsimp only
    by_cases hcompiled : result.status = .compiled
    · rw [if_pos hcompiled]
      by_cases hneeds : needsApproval profileName r.riskLevel
      · rw [if_pos hneeds, run_addAudit]
        exact ⟨_, _, hle', rfl, rfl, rfl, .inr (.inl ⟨rfl, hneeds⟩)⟩
      · rw [if_neg hneeds, run_addAudit]
        exact ⟨_, _, hle', rfl, rfl, rfl, .inr (.inr ⟨rfl, hneeds⟩)⟩
    · rw [if_neg hcompiled, run_addAudit]
      exact ⟨_, _, hle', rfl, rfl, rfl, .inl rfl⟩
  | none =>
    dsimp only
    by_cases hneeds : needsApproval profileName r.riskLevel
    · rw [if_pos hneeds]
      exact ⟨_, _, hle, rfl, rfl, rfl, .inr (.inl ⟨rfl, hneeds⟩)⟩
    · rw [if_neg hneeds]
      exact ⟨_, _, hle, rfl, rfl, rfl, .inr (.inr ⟨rfl, hneeds⟩)⟩

theorem does_submit (releaseId : String) (profileName : PolicyProfileName) :
    Does rt (.guard (.submit releaseId profileName)) w
      ((submit rt releaseId profileName).after w) := by
  simp only [after, submit, EStateM.run_bind, run_getRelease]
  cases hstored : w.self.releases.get? releaseId with
  | none => exact ⟨le_rfl, .refused (Dict.forall_get?_of_none hstored) rfl⟩
  | some r =>
    by_cases hstatus : r.status ≠ .draft ∧ r.status ≠ .blocked
    · simp only [if_pos hstatus, EStateM.run_bind, run_raise]
      exact ⟨le_rfl, .refused ((Dict.forall_get?_of_some hstored).mpr (not_open hstatus)) rfl⟩
    · have hopen : r.Open := open_of hstatus
      simp only [if_neg hstatus, EStateM.run_bind, run_isoNow]
      by_cases hcomplete : ((r.submittedAnew (rt.now w.env.draws).isoformat).evidenceCompleteness
          profileName).complete
      · obtain ⟨r', env, hle, hrun, hevidence, hrisk, hdecided⟩ := run_conclude rt
          (v := ⟨w.self, w.env.tick 1⟩) profileName (r.submittedAnew (rt.now w.env.draws).isoformat)
          (rt.now w.env.draws).isoformat
        simp only [if_neg (not_not.mpr hcomplete), EStateM.run_bind, hrun]
        simp only [run_putRelease, run_pure]
        refine ⟨(Nat.le_succ _).trans hle, ?_⟩
        refine .submitted r r' hstored hopen hevidence ?_ (rewrite_some (fun _ => r') hstored).symm
        rcases hdecided with hblocked | hsettled
        · exact .inl hblocked
        · rw [← hrisk] at hsettled
          refine .inr ⟨?_, hsettled⟩
          have hall := ReleaseRequest.complete_iff.mp hcomplete
          unfold ReleaseRequest.Complete at hall ⊢
          rw [hevidence]
          exact hall
      · simp only [if_pos hcomplete, EStateM.run_bind, run_addAudit, run_putRelease, run_pure]
        refine ⟨Nat.le_add_right _ 2, ?_⟩
        refine .submitted r _ hstored hopen ?_ (.inl ?_) (rewrite_some (fun _ => _) hstored).symm
        · rfl
        · rfl

theorem does_addEvidence (releaseId : String) (evidenceType : EvidenceType)
    (title reference url addedBy : String) :
    Does rt (.guard (.addEvidence releaseId evidenceType title reference url addedBy)) w
      ((addEvidence rt releaseId evidenceType title reference url addedBy).after w) := by
  simp only [after, addEvidence, EStateM.run_bind, run_getRelease]
  cases hstored : w.self.releases.get? releaseId with
  | none => exact ⟨le_rfl, .refused (Dict.forall_get?_of_none hstored) rfl⟩
  | some r =>
    by_cases hstatus : r.status ≠ .draft ∧ r.status ≠ .blocked
    · simp only [if_pos hstatus, EStateM.run_bind, run_raise]
      exact ⟨le_rfl, .refused ((Dict.forall_get?_of_some hstored).mpr (not_open hstatus)) rfl⟩
    · simp only [if_neg hstatus, EStateM.run_bind, run_draw, run_addAudit, run_putRelease, run_pure]
      let item : EvidenceItem := ⟨rt.uuid4 w.env.draws, releaseId, evidenceType, title, reference,
        url, true, addedBy, (rt.now w.env.draws).isoformat⟩
      let f (r : ReleaseRequest) : ReleaseRequest :=
        { r with
          evidenceItems := r.evidenceItems ++ [item]
          auditTrail := r.auditTrail ++ [⟨"evidence_added", addedBy,
            s!"Evidence added: {evidenceType.value} — {title}",
            (rt.now (w.env.draws + 1)).isoformat⟩] }
      refine ⟨Nat.le_add_right _ 2, ?_⟩
      refine .evidenceAdded r hstored (open_of hstatus) item f ?_ (rewrite_some f hstored).symm
      constructor <;> intro _ <;> rfl

theorem does_removeEvidence (releaseId evidenceId : String) :
    Does rt (.guard (.removeEvidence releaseId evidenceId)) w
      ((removeEvidence releaseId evidenceId).after w) := by
  let f (r : ReleaseRequest) : ReleaseRequest :=
    { r with evidenceItems := r.evidenceItems.filter fun e => e.evidenceId ≠ evidenceId }
  have hf : Rewrites id (fun items => items.filter fun e => e.evidenceId ≠ evidenceId) f := by
    constructor <;> intro _ <;> rfl
  simp only [after, removeEvidence, EStateM.run_bind, run_getRelease]
  cases hstored : w.self.releases.get? releaseId with
  | none => exact ⟨le_rfl, .evidenceRemoved f hf (rewrite_none hstored).symm⟩
  | some r => exact ⟨le_rfl, .evidenceRemoved f hf (rewrite_some f hstored).symm⟩

theorem does_create (workspaceId tenantId title serviceName environment : String)
    (riskLevel : ReleaseRisk) (submittedBy description : String) :
    Does rt (.guard (.create workspaceId tenantId title serviceName environment riskLevel
      submittedBy description)) w ((create rt workspaceId tenantId title serviceName environment
        riskLevel submittedBy description).after w) := by
  simp only [after, create, EStateM.run_bind, run_draw, run_addAudit, run_putRelease, run_pure]
  refine ⟨Nat.le_add_right _ 2, .created ?_ ?_ ?_ ?_⟩
  rotate_left 3
  · rfl
  · rfl
  · exact Nat.lt_add_of_pos_right Nat.two_pos

theorem does_cancel (releaseId cancelledBy : String) :
    Does rt (.guard (.cancel releaseId cancelledBy)) w
      ((cancel rt releaseId cancelledBy).after w) := by
  let f (r : ReleaseRequest) : ReleaseRequest :=
    { r with
      status := .cancelled
      auditTrail := r.auditTrail ++ [⟨"cancelled", cancelledBy, "Release cancelled",
        (rt.now w.env.draws).isoformat⟩] }
  have hf : Rewrites (fun _ => .cancelled) id f := by
    constructor <;> intro _ <;> rfl
  simp only [after, cancel, EStateM.run_bind, run_getRelease]
  cases hstored : w.self.releases.get? releaseId with
  | none => exact ⟨le_rfl, .cancelled f hf (rewrite_none hstored).symm⟩
  | some r => exact ⟨Nat.le_add_right _ 1, .cancelled f hf (rewrite_some f hstored).symm⟩

theorem does_request (releaseId approverEmail : String) (slaHours : ℤ) :
    Does rt (.guard (.request releaseId approverEmail slaHours)) w
      ((request rt releaseId approverEmail slaHours).after w) where
  draws_le := Nat.le_add_right _ 1
  act := .requested _ rfl rfl (Nat.lt_add_one _) rfl

/-! #### The marks on a release -/

theorem after_markApproved (releaseId approvedBy : String) :
    ∃ f env, Rewrites (fun _ => .approved) id f ∧ w.env.draws ≤ env.draws ∧
      (markApproved rt releaseId approvedBy).after w = ⟨w.self.rewrite f releaseId, env⟩ := by
  let f (r : ReleaseRequest) : ReleaseRequest :=
    { r with
      status := .approved
      decidedAt := some (rt.now w.env.draws).isoformat
      auditTrail := r.auditTrail ++ [⟨"approved", approvedBy, "Release approved",
        (rt.now (w.env.draws + 1)).isoformat⟩] }
  have hf : Rewrites (fun _ => .approved) id f := by
    constructor <;> intro _ <;> rfl
  simp only [after, markApproved, EStateM.run_bind, run_getRelease]
  cases hstored : w.self.releases.get? releaseId with
  | none => exact ⟨f, w.env, hf, le_rfl, by rw [rewrite_none hstored]⟩
  | some r =>
    refine ⟨f, w.env.tick 2, hf, Nat.le_add_right _ 2, ?_⟩
    rw [rewrite_some f hstored]
    rfl

theorem after_markBlocked (releaseId reason blockedBy : String) :
    ∃ f env, Rewrites (fun _ => .blocked) id f ∧ w.env.draws ≤ env.draws ∧
      (markBlocked rt releaseId reason blockedBy).after w = ⟨w.self.rewrite f releaseId, env⟩ := by
  let f (r : ReleaseRequest) : ReleaseRequest :=
    { r with
      status := .blocked
      blockedReason := some reason
      decidedAt := some (rt.now w.env.draws).isoformat
      auditTrail := r.auditTrail ++ [⟨"blocked", blockedBy, s!"Blocked: {reason}",
        (rt.now (w.env.draws + 1)).isoformat⟩] }
  have hf : Rewrites (fun _ => .blocked) id f := by
    constructor <;> intro _ <;> rfl
  simp only [after, markBlocked, EStateM.run_bind, run_getRelease]
  cases hstored : w.self.releases.get? releaseId with
  | none => exact ⟨f, w.env, hf, le_rfl, by rw [rewrite_none hstored]⟩
  | some r =>
    refine ⟨f, w.env.tick 2, hf, Nat.le_add_right _ 2, ?_⟩
    rw [rewrite_some f hstored]
    rfl

/-- A call whose exceptions are swallowed leaves behind what the call leaves behind. -/
theorem run_swallow {σ : Type} (m : Method σ Unit) (w : World σ) :
    (tryCatch m fun _ => return ()).run w = .ok () (m.after w) := by
  rw [run_tryCatch, after]
  cases m.run w <;> rfl

theorem run_checkReleaseCompletion (releaseId : String) :
    ∃ f env, Rewrites (fun _ => .approved) id f ∧ w.env.draws ≤ env.draws ∧
      (checkReleaseCompletion rt releaseId).run w =
        .ok () ⟨if w.self.AllApproved releaseId then w.self.rewrite f releaseId else w.self,
          env⟩ := by
  obtain ⟨f, env, hf, hle, hafter⟩ := after_markApproved rt (w := w) releaseId "approval_service"
  unfold checkReleaseCompletion
  rw [EStateM.run_bind, run_self]
  dsimp only
  by_cases hall : w.self.AllApproved releaseId
  · refine ⟨f, env, hf, hle, ?_⟩
    rw [if_pos hall, if_pos hall, run_swallow, after_discard, hafter]
  · refine ⟨f, w.env, hf, le_rfl, ?_⟩
    rw [if_neg hall, if_neg hall]
    rfl

/-- What the approval of a stored step does. -/
theorem after_approve {stepId : String} {step : ApprovalStep}
    (hstep : w.self.steps.get? stepId = some step) (note : String) :
    ∃ f env, Rewrites (fun _ => .approved) id f ∧ w.env.draws ≤ env.draws ∧
      let s := w.self.withStep stepId (step.approvedAt (rt.now w.env.draws).isoformat note)
      (approve rt stepId note).after w =
        ⟨if s.AllApproved step.releaseId then s.rewrite f step.releaseId else s, env⟩ := by
  obtain ⟨f, env, hf, hle, hrun⟩ := run_checkReleaseCompletion rt (w := ⟨w.self.withStep stepId
    (step.approvedAt (rt.now w.env.draws).isoformat note), w.env.tick 1⟩) step.releaseId
  refine ⟨f, env, hf, (Nat.le_succ _).trans hle, ?_⟩
  intro s
  unfold ApprovalStep.approvedAt at hrun
  simp only [after, approve, EStateM.run_bind, run_getStep, hstep, run_isoNow, run_putStep]
  simp only [hrun, run_pure]
  rfl

theorem does_approve (stepId note : String) :
    Does rt (.guard (.approve stepId note)) w ((approve rt stepId note).after w) := by
  cases hstep : w.self.steps.get? stepId with
  | none =>
    simp only [after, approve, EStateM.run_bind, run_getStep, hstep]
    exact ⟨le_rfl, .refused hstep rfl⟩
  | some step =>
    obtain ⟨f, env, hf, hle, hafter⟩ := after_approve rt hstep note
    rw [hafter]
    let step' := step.approvedAt (rt.now w.env.draws).isoformat note
    exact ⟨hle, .stepApproved step step' f hstep rfl rfl hf rfl⟩

theorem does_reject (stepId rejectedBy note : String) :
    Does rt (.guard (.reject stepId rejectedBy note)) w
      ((reject rt stepId rejectedBy note).after w) := by
  simp only [after, reject, EStateM.run_bind, run_getStep]
  cases hstep : w.self.steps.get? stepId with
  | none => exact ⟨le_rfl, .refused hstep rfl⟩
  | some step =>
    let step' := { step with
      status := .rejected
      decidedAt := some (rt.now w.env.draws).isoformat
      decisionNote := note }
    obtain ⟨f, env, hf, hle, hafter⟩ := after_markBlocked rt
      (w := ⟨w.self.withStep stepId step', w.env.tick 1⟩) step.releaseId
      s!"Rejected by {rejectedBy}: {note}" rejectedBy
    simp only [run_isoNow, run_putStep, run_swallow, after_discard, run_pure]
    exact ⟨(Nat.le_succ _).trans (hafter ▸ hle),
      .stepRejected step step' f hstep rfl rfl hf (congrArg World.self hafter)⟩

/-! #### The exceptions -/

/-- The release of a decision on an exception is rewritten, with an entry in its trail. -/
theorem after_audited (releaseId event actor detail : String)
    {status : ReleaseStatus → ReleaseStatus} {target : ReleaseRequest → ReleaseRequest}
    (htarget : Rewrites status id target) :
    ∃ f env, Rewrites status id f ∧ w.env.draws ≤ env.draws ∧
      (do
        let release ← getRelease releaseId
        let release ← addAudit rt (target release) event actor detail
        putRelease releaseId release).after w = ⟨w.self.rewrite f releaseId, env⟩ := by
  let f (r : ReleaseRequest) : ReleaseRequest :=
    { target r with auditTrail := (target r).auditTrail ++
        [⟨event, actor, detail, (rt.now w.env.draws).isoformat⟩] }
  have hf : Rewrites status id f := ⟨htarget.status, htarget.evidence, htarget.risk⟩
  simp only [after, EStateM.run_bind, run_getRelease]
  cases hstored : w.self.releases.get? releaseId with
  | none => exact ⟨f, w.env, hf, le_rfl, by rw [rewrite_none hstored]⟩
  | some r =>
    refine ⟨f, w.env.tick 1, hf, Nat.le_add_right _ 1, ?_⟩
    rw [rewrite_some f hstored]
    rfl

theorem does_raiseException (releaseId workspaceId raisedBy reason businessJustification
    approverEmail urgency : String) :
    Does rt (.guard (.raiseException releaseId workspaceId raisedBy reason businessJustification
      approverEmail urgency)) w ((raiseException rt releaseId workspaceId raisedBy reason
        businessJustification approverEmail urgency).after w) := by
  simp only [after, raiseException, EStateM.run_bind, run_getRelease]
  cases hstored : w.self.releases.get? releaseId with
  | none => exact ⟨le_rfl, .refused (Dict.forall_get?_of_none hstored) rfl⟩
  | some r =>
    by_cases hstatus : r.status ≠ .blocked
    · simp only [if_pos hstatus, EStateM.run_bind, run_raise]
      exact ⟨le_rfl, .refused ((Dict.forall_get?_of_some hstored).mpr hstatus) rfl⟩
    · simp only [if_neg hstatus, EStateM.run_bind, run_draw, run_putException, run_assign,
        run_addAudit, run_putRelease, run_pure]
      let f (r : ReleaseRequest) : ReleaseRequest :=
        { r with auditTrail := r.auditTrail ++ [⟨"exception_raised", raisedBy,
            s!"Exception raised: {reason.take 100}", (rt.now (w.env.draws + 1)).isoformat⟩] }
      have hf : Rewrites id id f := by
        constructor <;> intro _ <;> rfl
      refine ⟨Nat.le_add_right _ 2, ?_⟩
      let exc : ExceptionRequest := {
        exceptionId := rt.uuid4 w.env.draws
        releaseId := releaseId
        workspaceId := workspaceId
        raisedBy := raisedBy
        reason := reason
        businessJustification := businessJustification
        urgency := urgency
        approverEmail := approverEmail
        raisedAt := (rt.now w.env.draws).isoformat
        auditHash := String.ofList ((rt.sha256
          s!"{rt.uuid4 w.env.draws}{raisedBy}{(rt.now w.env.draws).isoformat}").toList.take 16) }
      let byRelease := w.self.exceptionsByRelease.set releaseId
        (w.self.exceptionsByRelease.getD releaseId [] ++ [exc.exceptionId])
      refine .raised r hstored (not_not.mp hstatus) exc f byRelease rfl rfl
        (Nat.lt_add_of_pos_right Nat.two_pos) hf ?_
      exact (rewrite_some (s := { w.self.withException (rt.uuid4 w.env.draws) exc with
        exceptionsByRelease := byRelease }) f hstored).symm

theorem does_approveException (exceptionId approvedBy note : String) :
    Does rt (.guard (.approveException exceptionId approvedBy note)) w
      ((approveException rt exceptionId approvedBy note).after w) := by
  simp only [after, approveException, EStateM.run_bind, run_getException]
  cases hexc : w.self.exceptions.get? exceptionId with
  | none => exact ⟨le_rfl, .refused hexc rfl⟩
  | some exc =>
    let exc' := { exc with
      status := .approved
      approved := some true
      decidedAt := some (rt.now w.env.draws).isoformat
      decisionNote := note }
    let target (r : ReleaseRequest) : ReleaseRequest :=
      { r with status := .approved, decidedAt := some (rt.now w.env.draws).isoformat }
    have htarget : Rewrites (fun _ => .approved) id target := by
      constructor <;> intro _ <;> rfl
    obtain ⟨f, env, hf, hle, hafter⟩ := after_audited rt
      (w := ⟨w.self.withException exceptionId exc', w.env.tick 1⟩) exc.releaseId
      "exception_approved" approvedBy s!"Exception approved by {approvedBy}: {note.take 100}"
      htarget
    simp only [run_isoNow, run_putException, run_swallow, run_pure]
    exact ⟨(Nat.le_succ _).trans (hafter ▸ hle),
      .exceptionApproved exc exc' f hexc rfl hf (congrArg World.self hafter)⟩

theorem does_rejectException (exceptionId rejectedBy note : String) :
    Does rt (.guard (.rejectException exceptionId rejectedBy note)) w
      ((rejectException rt exceptionId rejectedBy note).after w) := by
  simp only [after, rejectException, EStateM.run_bind, run_getException]
  cases hexc : w.self.exceptions.get? exceptionId with
  | none => exact ⟨le_rfl, .refused hexc rfl⟩
  | some exc =>
    let exc' := { exc with
      status := .rejected
      approved := some false
      decidedAt := some (rt.now w.env.draws).isoformat
      decisionNote := note }
    have htarget : Rewrites id id (id : ReleaseRequest → ReleaseRequest) := by
      constructor <;> intro _ <;> rfl
    obtain ⟨f, env, hf, hle, hafter⟩ := after_audited rt
      (w := ⟨w.self.withException exceptionId exc', w.env.tick 1⟩) exc.releaseId
      "exception_rejected" rejectedBy s!"Exception rejected by {rejectedBy}: {note.take 100}"
      htarget
    simp only [run_isoNow, run_putException, run_swallow, run_pure]
    exact ⟨(Nat.le_succ _).trans (hafter ▸ hle),
      .exceptionRejected exc exc' f hexc rfl hf (congrArg World.self hafter)⟩

theorem does (call : ServiceCall) : Does rt call w (serviceStep rt call w) := by
  unfold serviceStep
  cases call with
  | markApproved releaseId approvedBy =>
    obtain ⟨f, env, hf, hle, hafter⟩ := after_markApproved rt (w := w) releaseId approvedBy
    rw [ServiceCall.perform, after_discard, hafter]
    exact ⟨hle, .markedApproved f hf rfl⟩
  | markBlocked releaseId reason blockedBy =>
    obtain ⟨f, env, hf, hle, hafter⟩ := after_markBlocked rt (w := w) releaseId reason blockedBy
    rw [ServiceCall.perform, after_discard, hafter]
    exact ⟨hle, .markedBlocked f hf rfl⟩
  | guard call =>
    rw [ServiceCall.perform]
    cases call with
    | removeEvidence releaseId evidenceId =>
      rw [GuardCall.perform]
      exact does_removeEvidence rt releaseId evidenceId
    | create workspaceId tenantId title serviceName environment riskLevel submittedBy description =>
      rw [GuardCall.perform, after_discard]
      exact does_create rt workspaceId tenantId title serviceName environment riskLevel submittedBy
        description
    | addEvidence releaseId evidenceType title reference url addedBy =>
      rw [GuardCall.perform, after_discard]
      exact does_addEvidence rt releaseId evidenceType title reference url addedBy
    | submit releaseId profileName =>
      rw [GuardCall.perform, after_discard]
      exact does_submit rt releaseId profileName
    | cancel releaseId cancelledBy =>
      rw [GuardCall.perform, after_discard]
      exact does_cancel rt releaseId cancelledBy
    | request releaseId approverEmail slaHours =>
      rw [GuardCall.perform, after_discard]
      exact does_request rt releaseId approverEmail slaHours
    | approve stepId note =>
      rw [GuardCall.perform, after_discard]
      exact does_approve rt stepId note
    | reject stepId rejectedBy note =>
      rw [GuardCall.perform, after_discard]
      exact does_reject rt stepId rejectedBy note
    | raiseException releaseId workspaceId raisedBy reason businessJustification approverEmail
        urgency =>
      rw [GuardCall.perform, after_discard]
      exact does_raiseException rt releaseId workspaceId raisedBy reason businessJustification
        approverEmail urgency
    | approveException exceptionId approvedBy note =>
      rw [GuardCall.perform, after_discard]
      exact does_approveException rt exceptionId approvedBy note
    | rejectException exceptionId rejectedBy note =>
      rw [GuardCall.perform, after_discard]
      exact does_rejectException rt exceptionId rejectedBy note

end Step

/-! ### What is stored -/

namespace Services
variable {s : Services} {id : String}

variable (s id) in
/-- The identifier is that of a release, a step or an exception. -/
def Stores : Prop := id ∈ s.releases ∨ id ∈ s.steps ∨ id ∈ s.exceptions

theorem stores_rewrite {f : ReleaseRequest → ReleaseRequest} {releaseId : String} :
    (s.rewrite f releaseId).Stores id ↔ s.Stores id := by
  unfold Stores
  rw [mem_rewrite, rewrite_steps, rewrite_exceptions]

theorem stores_withStep {stepId : String} {step : ApprovalStep} :
    (s.withStep stepId step).Stores id ↔ id = stepId ∨ s.Stores id := by
  unfold Stores withStep
  rw [Dict.mem_set]
  tauto

theorem stores_withException {exceptionId : String} {exc : ExceptionRequest} :
    (s.withException exceptionId exc).Stores id ↔ id = exceptionId ∨ s.Stores id := by
  unfold Stores withException
  rw [Dict.mem_set]
  tauto

/-- Every stored step is listed under its release. -/
def Listed (s : Services) : Prop :=
  ∀ stepId, ∀ step ∈ s.steps.get? stepId, stepId ∈ s.stepsByRelease.getD step.releaseId []

/-- The steps stay in store, and under their releases. -/
structure SameSteps (s s' : Services) : Prop where
  lists : s'.stepsByRelease = s.stepsByRelease
  releaseIds : ∀ stepId, (s'.steps.get? stepId).map ApprovalStep.releaseId =
    (s.steps.get? stepId).map ApprovalStep.releaseId

theorem SameSteps.of_eq {s s' : Services} (hsteps : s'.steps = s.steps)
    (hlists : s'.stepsByRelease = s.stepsByRelease) : SameSteps s s' :=
  ⟨hlists, fun _ => by rw [hsteps]⟩

theorem SameSteps.rewrite {s s' : Services} (h : SameSteps s s')
    (f : ReleaseRequest → ReleaseRequest) (releaseId : String) :
    SameSteps s (s'.rewrite f releaseId) where
  lists := rewrite_stepsByRelease.trans h.lists
  releaseIds := by
    rw [rewrite_steps]
    exact h.releaseIds

theorem SameSteps.withStep {stepId : String} {step step' : ApprovalStep}
    (hstep : s.steps.get? stepId = some step) (hreleaseId : step'.releaseId = step.releaseId) :
    SameSteps s (s.withStep stepId step') where
  lists := rfl
  releaseIds := by
    intro id
    rw [Services.withStep, Dict.get?_set]
    by_cases hid : id = stepId
    · rw [if_pos hid, hid, hstep]
      exact congrArg some hreleaseId
    · rw [if_neg hid]

theorem SameSteps.mem {s s' : Services} (h : SameSteps s s') {stepId : String}
    (hid : stepId ∈ s.steps) : stepId ∈ s'.steps := by
  obtain ⟨step, hstep⟩ := Dict.mem_iff_get?.mp hid
  have hmap := h.releaseIds stepId
  rw [hstep, Option.map_some] at hmap
  obtain ⟨step', hstep', -⟩ := Option.map_eq_some_iff.mp hmap
  exact Dict.mem_of_get? hstep'

theorem SameSteps.listed {s s' : Services} (h : SameSteps s s') (hlisted : s.Listed) :
    s'.Listed := by
  intro stepId step hstep
  have hmap := h.releaseIds stepId
  rw [hstep, Option.map_some] at hmap
  obtain ⟨step₀, hstep₀, hreleaseId⟩ := Option.map_eq_some_iff.mp hmap.symm
  rw [h.lists, ← hreleaseId]
  exact hlisted stepId step₀ hstep₀

/-- All steps of the release but the given one are approved. -/
def OthersApproved (s : Services) (stepId releaseId : String) : Prop :=
  ∀ id ∈ s.stepsByRelease.getD releaseId [], id ≠ stepId →
    ∀ other ∈ s.steps.get? id, other.status = .approved

/-- With a listed step approved, all steps are approved exactly if the others are. -/
theorem allApproved_withStep {stepId releaseId : String} {step' : ApprovalStep}
    (hlisted : stepId ∈ s.stepsByRelease.getD releaseId []) (hstatus : step'.status = .approved) :
    (s.withStep stepId step').AllApproved releaseId ↔ s.OthersApproved stepId releaseId := by
  unfold AllApproved getStepsForRelease Services.withStep
  dsimp only
  constructor
  · rintro ⟨hall, -⟩ id hid hne other hother
    refine hall other (List.mem_filterMap.mpr ⟨id, hid, ?_⟩)
    rw [Dict.get?_set_of_ne hne]
    exact hother
  · intro hothers
    constructor
    · intro other hother
      obtain ⟨id, hid, hget⟩ := List.mem_filterMap.mp hother
      rw [Dict.get?_set] at hget
      by_cases hne : id = stepId
      · rw [if_pos hne] at hget
        rw [← Option.some.inj hget, hstatus]
      · rw [if_neg hne] at hget
        exact hothers id hid hne other hget
    · exact List.ne_nil_of_mem (a := step')
        (List.mem_filterMap.mpr ⟨stepId, hlisted, Dict.get?_set_self _ _ _⟩)

end Services

section Stored
variable {rt : Runtime} {call : ServiceCall} {w w' : World Services}

/-- Whatever is stored by a call that was not stored before has a fresh identifier. -/
theorem Act.stores (h : Act rt w w' call) {id : String} (hid : w'.self.Stores id) :
    w.self.Stores id ∨ w.env.draws < w'.env.draws ∧ id = rt.uuid4 w.env.draws := by
  have hstep {stepId : String} {step : ApprovalStep} (hstep : w.self.steps.get? stepId = some step)
      (hid : id = stepId ∨ w.self.Stores id) : w.self.Stores id := by
    rcases hid with rfl | hid
    · exact .inr (.inl (Dict.mem_of_get? hstep))
    · exact hid
  have hexc {exceptionId : String} {exc : ExceptionRequest}
      (hexc : w.self.exceptions.get? exceptionId = some exc)
      (hid : id = exceptionId ∨ w.self.Stores id) : w.self.Stores id := by
    rcases hid with rfl | hid
    · exact .inr (.inr (Dict.mem_of_get? hexc))
    · exact hid
  cases h with
  | refused _ hself => exact .inl (hself ▸ hid)
  | created r _ hdraw hself =>
    rw [hself, Stores, Dict.mem_set] at hid
    rcases hid with (rfl | hid) | hid
    · exact .inr ⟨hdraw, rfl⟩
    · exact .inl (.inl hid)
    · exact .inl (.inr hid)
  | evidenceAdded _ _ _ _ _ _ hself => exact .inl (stores_rewrite.mp (hself ▸ hid))
  | evidenceRemoved _ _ hself => exact .inl (stores_rewrite.mp (hself ▸ hid))
  | submitted _ _ _ _ _ _ hself => exact .inl (stores_rewrite.mp (hself ▸ hid))
  | cancelled _ _ hself => exact .inl (stores_rewrite.mp (hself ▸ hid))
  | requested step _ _ hdraw hself =>
    have hwith : (w.self.withStep (rt.uuid4 w.env.draws) step).Stores id := by
      rw [hself] at hid
      exact hid
    rcases stores_withStep.mp hwith with rfl | hold
    · exact .inr ⟨hdraw, rfl⟩
    · exact .inl hold
  | @stepApproved stepId _ step step' f hstored _ _ _ hself =>
    have hwith : (w.self.withStep stepId step').Stores id := by
      rw [hself] at hid
      split at hid
      · exact stores_rewrite.mp hid
      · exact hid
    exact .inl (hstep hstored (stores_withStep.mp hwith))
  | stepRejected _ _ _ hstored _ _ _ hself =>
    exact .inl (hstep hstored (stores_withStep.mp (stores_rewrite.mp (hself ▸ hid))))
  | raised _ _ _ exc _ _ _ _ hdraw _ hself =>
    have hwith : (w.self.withException (rt.uuid4 w.env.draws) exc).Stores id := by
      rw [hself, stores_rewrite] at hid
      exact hid
    rcases stores_withException.mp hwith with rfl | hold
    · exact .inr ⟨hdraw, rfl⟩
    · exact .inl hold
  | exceptionApproved _ _ _ hstored _ _ hself =>
    exact .inl (hexc hstored (stores_withException.mp (stores_rewrite.mp (hself ▸ hid))))
  | exceptionRejected _ _ _ hstored _ _ hself =>
    exact .inl (hexc hstored (stores_withException.mp (stores_rewrite.mp (hself ▸ hid))))
  | markedApproved _ _ hself => exact .inl (stores_rewrite.mp (hself ▸ hid))
  | markedBlocked _ _ hself => exact .inl (stores_rewrite.mp (hself ▸ hid))

theorem names (rt : Runtime) :
    Names (serviceStep rt) (fun w => w.env.draws) rt.uuid4 fun w id => w.self.Stores id where
  draws_le := fun call _ => (does rt call).draws_le
  drawn := by
    intro call w id hid
    rcases (does rt call).act.stores hid with hold | ⟨hdraw, rfl⟩
    · exact .inl hold
    · exact .inr ⟨_, le_rfl, hdraw, rfl⟩

/-- A call that requests no step. -/
def ServiceCall.Quiet (call : ServiceCall) : Prop :=
  ∀ releaseId approverEmail slaHours, call ≠ .guard (.request releaseId approverEmail slaHours)

theorem Act.sameSteps (h : Act rt w w' call) (hquiet : call.Quiet) : SameSteps w.self w'.self := by
  cases h with
  | requested => exact absurd rfl (hquiet _ _ _)
  | refused _ hself => exact .of_eq (by rw [hself]) (by rw [hself])
  | created _ _ _ hself => exact .of_eq (by rw [hself]) (by rw [hself])
  | evidenceAdded _ _ _ _ _ _ hself => exact .of_eq (by simp [hself]) (by simp [hself])
  | evidenceRemoved _ _ hself => exact .of_eq (by simp [hself]) (by simp [hself])
  | submitted _ _ _ _ _ _ hself => exact .of_eq (by simp [hself]) (by simp [hself])
  | cancelled _ _ hself => exact .of_eq (by simp [hself]) (by simp [hself])
  | stepApproved step step' f hstep hreleaseId _ _ hself =>
    have hwith := SameSteps.withStep hstep hreleaseId
    rw [hself]
    split
    · exact hwith.rewrite f _
    · exact hwith
  | stepRejected step step' f hstep hreleaseId _ _ hself =>
    rw [hself]
    exact (SameSteps.withStep hstep hreleaseId).rewrite f _
  | raised _ _ _ _ _ _ _ _ _ _ hself => exact .of_eq (by simp [hself]) (by simp [hself])
  | exceptionApproved _ _ _ _ _ _ hself => exact .of_eq (by simp [hself]) (by simp [hself])
  | exceptionRejected _ _ _ _ _ _ hself => exact .of_eq (by simp [hself]) (by simp [hself])
  | markedApproved _ _ hself => exact .of_eq (by simp [hself]) (by simp [hself])
  | markedBlocked _ _ hself => exact .of_eq (by simp [hself]) (by simp [hself])

/-- A requested step is put in store, and last on the list of its release. -/
theorem Act.requested_self {releaseId approverEmail : String} {slaHours : ℤ}
    (h : Act rt w w' (.guard (.request releaseId approverEmail slaHours))) :
    ∃ step : ApprovalStep, step.releaseId = releaseId ∧
      w'.self.steps = w.self.steps.set (rt.uuid4 w.env.draws) step ∧
        w'.self.stepsByRelease = w.self.stepsByRelease.set releaseId
          (w.self.stepsByRelease.getD releaseId [] ++ [rt.uuid4 w.env.draws]) := by
  cases h with
  | refused hrefused => exact hrefused.elim
  | requested step hreleaseId _ _ hself =>
    rw [hself]
    exact ⟨step, hreleaseId, rfl, rfl⟩

theorem ServiceCall.quiet_or_request (call : ServiceCall) : call.Quiet ∨
    ∃ releaseId approverEmail slaHours,
      call = .guard (.request releaseId approverEmail slaHours) := by
  by_cases hquiet : call.Quiet
  · exact .inl hquiet
  · unfold ServiceCall.Quiet at hquiet
    push Not at hquiet
    exact .inr hquiet

theorem Act.listed (h : Act rt w w' call) (hlisted : w.self.Listed) : w'.self.Listed := by
  rcases call.quiet_or_request with hquiet | ⟨releaseId, approverEmail, slaHours, rfl⟩
  · exact (h.sameSteps hquiet).listed hlisted
  · obtain ⟨step, hreleaseId, hsteps, hlists⟩ := h.requested_self
    intro id other hother
    rw [hsteps, Dict.get?_set] at hother
    rw [hlists, Dict.getD_set]
    by_cases hid : id = rt.uuid4 w.env.draws
    · rw [if_pos hid] at hother
      rw [← Option.some.inj hother, hreleaseId, if_pos rfl, hid]
      exact List.mem_append_right _ (List.mem_singleton_self _)
    · rw [if_neg hid] at hother
      have hold := hlisted id other hother
      split
      next heq => exact List.mem_append_left _ (heq ▸ hold)
      next => exact hold

variable (rt w) in
/-- While the calls are to come: steps are listed, and what they draw names nothing stored. -/
def Ready (calls : List ServiceCall) : Prop :=
  w.self.Listed ∧
    Fresh (serviceStep rt) (fun w => w.env.draws) rt.uuid4 (fun w id => w.self.Stores id) w calls

theorem Ready.step {calls : List ServiceCall} (h : Ready rt w (call :: calls)) :
    Ready rt (serviceStep rt call w) calls :=
  ⟨(does rt call).act.listed h.1, (names rt).fresh_step h.2⟩

theorem Ready.not_stores {calls : List ServiceCall} (h : Ready rt w (call :: calls))
    (hdraw : w.env.draws < (serviceStep rt call w).env.draws) :
    ¬ w.self.Stores (rt.uuid4 w.env.draws) := (names rt).not_has h.2 le_rfl hdraw

theorem ready_empty {env : Env} {calls : List ServiceCall} (huuid : Set.InjOn rt.uuid4
    (Set.Iio (run (serviceStep rt) ⟨.empty, env⟩ calls).env.draws)) :
    Ready rt ⟨.empty, env⟩ calls := by
  refine ⟨?_, huuid, ?_⟩
  · intro stepId step hstep
    cases hstep
  · rintro id (hid | hid | hid)
    all_goals exact absurd hid (Dict.not_mem_empty id)

end Stored

end ControlFabric.ReleaseGuard
