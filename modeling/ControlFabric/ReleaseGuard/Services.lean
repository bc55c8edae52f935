import ControlFabric.ReleaseGuard.Domain

/-! The services of Release Guard: requests with their submission to the release gate, the approval
steps, and the emergency exceptions. They share what the modules keep. -/
namespace ControlFabric.ReleaseGuard
open Lib Py Method

/-- What the modules of the services keep. -/
structure Services where
  releases : Dict String ReleaseRequest
  steps : Dict String ApprovalStep
  stepsByRelease : Dict String (List String)
  exceptions : Dict String ExceptionRequest
  exceptionsByRelease : Dict String (List String)

namespace Services

def empty : Services := ⟨Dict.empty, Dict.empty, Dict.empty, Dict.empty, Dict.empty⟩

variable (rt : Runtime)

def putRelease (releaseId : String) (release : ReleaseRequest) : Method Services Unit :=
  assign fun s => { s with releases := s.releases.set releaseId release }

def putStep (stepId : String) (step : ApprovalStep) : Method Services Unit :=
  assign fun s => { s with steps := s.steps.set stepId step }

def putException (exceptionId : String) (exc : ExceptionRequest) : Method Services Unit :=
  assign fun s => { s with exceptions := s.exceptions.set exceptionId exc }

/-- `datetime.now(UTC).isoformat()`. -/
def isoNow {σ : Type} : Method σ String := do return (rt.now (← draw)).isoformat

/-! ### The release requests -/

/-- The release with one more entry in its audit trail. -/
def addAudit {σ : Type} (release : ReleaseRequest) (event actor detail : String) :
    Method σ ReleaseRequest := do
  let time ← isoNow rt
  return { release with auditTrail := release.auditTrail ++ [⟨event, actor, detail, time⟩] }

/-- `_get` of the request service. -/
def getRelease (releaseId : String) : Method Services ReleaseRequest := do
  match (← self).releases.get? releaseId with
  | some release => return release
  | none => raise (.valueError s!"Release {releaseId} not found")

def create (workspaceId tenantId title serviceName environment : String) (riskLevel : ReleaseRisk)
    (submittedBy description : String) : Method Services ReleaseRequest := do
  let n ← draw
  let release : ReleaseRequest := {
    releaseId := rt.uuid4 n
    workspaceId := workspaceId
    tenantId := tenantId
    title := title
    description := description
    serviceName := serviceName
    environment := environment
    riskLevel := riskLevel
    submittedBy := submittedBy
    createdAt := (rt.now n).isoformat }
  let release ← addAudit rt release "created" submittedBy s!"Release request created: {title}"
  putRelease release.releaseId release
  return release

def addEvidence (releaseId : String) (evidenceType : EvidenceType)
    (title reference url addedBy : String) : Method Services EvidenceItem := do
  let release ← getRelease releaseId
  if release.status ≠ .draft ∧ release.status ≠ .blocked then
    raise (.valueError s!"Cannot add evidence to release in status {release.status.str}")
  let n ← draw
  let item : EvidenceItem := ⟨rt.uuid4 n, releaseId, evidenceType, title, reference, url, true,
    addedBy, (rt.now n).isoformat⟩
  let release ← addAudit rt { release with evidenceItems := release.evidenceItems ++ [item] }
    "evidence_added" addedBy s!"Evidence added: {evidenceType.value} — {title}"
  putRelease releaseId release
  return item

def removeEvidence (releaseId evidenceId : String) : Method Services Unit := do
  let release ← getRelease releaseId
  putRelease releaseId { release with
    evidenceItems := release.evidenceItems.filter fun e => e.evidenceId ≠ evidenceId }

/-- What the release gate is asked about a release. -/
def submission (release : ReleaseRequest) : Submission where
  actionType := "production_release"
  proposedPayload := [("service", .str release.serviceName),
    ("environment", .str release.environment), ("release_id", .str release.releaseId),
    ("title", .str release.title), ("risk_level", .str release.riskLevel.value)]
  requestedBy := release.submittedBy
  origin := .humanOperator
  evidenceReferences := some (release.evidenceItems.map fun e =>
    s!"{e.evidenceType.value}:{e.reference}")
  provenanceChain := none
  executor := none

/-- The answer of a new release gate; `none` if the gate raises. -/
def askGate {σ : Type} (release : ReleaseRequest) : Method σ (Option ActionDispatchResult) :=
  on (fun _ => PlatformActionReleaseGate.new none none) (fun _ s => s)
    (tryCatch (some <$> PlatformActionReleaseGate.submit rt (submission release))
      fun _ => return none)

/-- What becomes of a release whose evidence is complete. -/
def conclude {σ : Type} (profileName : PolicyProfileName) (release : ReleaseRequest)
    (now : String) : Method σ ReleaseRequest := do
  match ← askGate rt release with
  | some result =>
    if result.status = .compiled then
      let release := { release with packageId := some result.packageId }
      if needsApproval profileName release.riskLevel then
        addAudit rt { release with status := .pending } "awaiting_approval" release.submittedBy
          "Evidence complete — awaiting approver decision"
      else
        addAudit rt { release with status := .approved, decidedAt := some now } "approved" "system"
          "Auto-approved: evidence complete, no approval required by policy"
    else
      -- An empty failure reason is replaced as a missing one is.
      let reason := match result.failureReason with
        | some "" | none => "Validation failed"
        | some reason => reason
      addAudit rt
        { release with status := .blocked, blockedReason := some reason, decidedAt := some now }
        "blocked" "system" reason
  | none =>
    if needsApproval profileName release.riskLevel then return { release with status := .pending }
    else return { release with status := .approved, decidedAt := some now }

def submit (releaseId : String) (profileName : PolicyProfileName) :
    Method Services ReleaseRequest := do
  let release ← getRelease releaseId
  if release.status ≠ .draft ∧ release.status ≠ .blocked then
    raise (.valueError
      s!"Release {releaseId} cannot be submitted from status {release.status.str}")
  let now ← isoNow rt
  let release := release.submittedAnew now
  let completeness := release.evidenceCompleteness profileName
  let release ←
    if ¬ completeness.complete then
      let reason := "Missing required evidence: " ++
        ", ".intercalate (completeness.missing.map spaced)
      addAudit rt { release with
          status := .blocked
          missingEvidence := completeness.missing
          blockedReason := some reason
          blockedChecks := completeness.missing
          decidedAt := some now }
        "blocked" release.submittedBy s!"Blocked: {reason}"
    else conclude rt profileName release now
  putRelease releaseId release
  return release

def markApproved (releaseId approvedBy : String) : Method Services ReleaseRequest := do
  let release ← getRelease releaseId
  let now ← isoNow rt
  let release ← addAudit rt { release with status := .approved, decidedAt := some now } "approved"
    approvedBy "Release approved"
  putRelease releaseId release
  return release

def markBlocked (releaseId reason blockedBy : String) : Method Services ReleaseRequest := do
  let release ← getRelease releaseId
  let now ← isoNow rt
  let release ← addAudit rt
    { release with status := .blocked, blockedReason := some reason, decidedAt := some now }
    "blocked" blockedBy s!"Blocked: {reason}"
  putRelease releaseId release
  return release

def cancel (releaseId cancelledBy : String) : Method Services ReleaseRequest := do
  let release ← getRelease releaseId
  let release ← addAudit rt { release with status := .cancelled } "cancelled" cancelledBy
    "Release cancelled"
  putRelease releaseId release
  return release

/-! ### The approval steps -/

def request (releaseId approverEmail : String) (slaHours : ℤ) :
    Method Services ApprovalStep := do
  let n ← draw
  let step : ApprovalStep := {
    stepId := rt.uuid4 n
    releaseId := releaseId
    approverId := approverEmail
    approverEmail := approverEmail
    requestedAt := (rt.now n).isoformat
    slaHours := slaHours }
  putStep step.stepId step
  assign fun s => { s with
    stepsByRelease := s.stepsByRelease.set releaseId
      (s.stepsByRelease.getD releaseId [] ++ [step.stepId]) }
  return step

def getStep (stepId : String) : Method Services ApprovalStep := do
  match (← self).steps.get? stepId with
  | some step => return step
  | none => raise (.valueError s!"Approval step {stepId} not found")

def getStepsForRelease (s : Services) (releaseId : String) : List ApprovalStep :=
  (s.stepsByRelease.getD releaseId []).filterMap s.steps.get?

/-- There are approval steps for the release, and all of them are approved. -/
def AllApproved (s : Services) (releaseId : String) : Prop :=
  (∀ step ∈ s.getStepsForRelease releaseId, step.status = .approved) ∧
    s.getStepsForRelease releaseId ≠ []

instance (s : Services) (releaseId : String) : Decidable (s.AllApproved releaseId) :=
  inferInstanceAs (Decidable (_ ∧ _))

def checkReleaseCompletion (releaseId : String) : Method Services Unit := do
  if (← self).AllApproved releaseId then
    tryCatch (discard (markApproved rt releaseId "approval_service")) fun _ => return ()

/-- Who approves is not kept. -/
def approve (stepId note : String) : Method Services ApprovalStep := do
  let step ← getStep stepId
  let now ← isoNow rt
  let step := { step with status := .approved, decidedAt := some now, decisionNote := note }
  putStep stepId step
  checkReleaseCompletion rt step.releaseId
  return step

def reject (stepId rejectedBy note : String) : Method Services ApprovalStep := do
  let step ← getStep stepId
  let now ← isoNow rt
  let step := { step with status := .rejected, decidedAt := some now, decisionNote := note }
  putStep stepId step
  tryCatch (discard (markBlocked rt step.releaseId s!"Rejected by {rejectedBy}: {note}" rejectedBy))
    fun _ => return ()
  return step

/-! ### The exceptions -/

def raiseException (releaseId workspaceId raisedBy reason businessJustification approverEmail
    urgency : String) : Method Services ExceptionRequest := do
  let release ← getRelease releaseId
  if release.status ≠ .blocked then
    raise (.valueError ("Exceptions can only be raised for blocked releases. " ++
      s!"Release {releaseId} is {release.status.value}."))
  let n ← draw
  let raisedAt := (rt.now n).isoformat
  let exc : ExceptionRequest := {
    exceptionId := rt.uuid4 n
    releaseId := releaseId
    workspaceId := workspaceId
    raisedBy := raisedBy
    reason := reason
    businessJustification := businessJustification
    urgency := urgency
    approverEmail := approverEmail
    raisedAt := raisedAt
    auditHash := String.ofList ((rt.sha256 s!"{rt.uuid4 n}{raisedBy}{raisedAt}").toList.take 16) }
  putException exc.exceptionId exc
  assign fun s => { s with
    exceptionsByRelease := s.exceptionsByRelease.set releaseId
      (s.exceptionsByRelease.getD releaseId [] ++ [exc.exceptionId]) }
  let release ← addAudit rt release "exception_raised" raisedBy
    s!"Exception raised: {reason.take 100}"
  putRelease releaseId release
  return exc

def getException (exceptionId : String) : Method Services ExceptionRequest := do
  match (← self).exceptions.get? exceptionId with
  | some exc => return exc
  | none => raise (.valueError s!"Exception {exceptionId} not found")

def approveException (exceptionId approvedBy note : String) :
    Method Services ExceptionRequest := do
  let exc ← getException exceptionId
  let now ← isoNow rt
  let exc := { exc with
    status := .approved
    approved := some true
    decidedAt := some now
    decisionNote := note }
  putException exceptionId exc
  tryCatch (do
      let release ← getRelease exc.releaseId
      let release ← addAudit rt { release with status := .approved, decidedAt := some now }
        "exception_approved" approvedBy s!"Exception approved by {approvedBy}: {note.take 100}"
      putRelease exc.releaseId release)
    fun _ => return ()
  return exc

def rejectException (exceptionId rejectedBy note : String) :
    Method Services ExceptionRequest := do
  let exc ← getException exceptionId
  let now ← isoNow rt
  let exc := { exc with
    status := .rejected
    approved := some false
    decidedAt := some now
    decisionNote := note }
  putException exceptionId exc
  tryCatch (do
      let release ← getRelease exc.releaseId
      let release ← addAudit rt release "exception_rejected" rejectedBy
        s!"Exception rejected by {rejectedBy}: {note.take 100}"
      putRelease exc.releaseId release)
    fun _ => return ()
  return exc

end Services

/-- A call of one of the services. -/
inductive GuardCall where
  | create (workspaceId tenantId title serviceName environment : String) (riskLevel : ReleaseRisk)
      (submittedBy description : String)
  | addEvidence (releaseId : String) (evidenceType : EvidenceType)
      (title reference url addedBy : String)
  | removeEvidence (releaseId evidenceId : String)
  | submit (releaseId : String) (profileName : PolicyProfileName)
  | cancel (releaseId cancelledBy : String)
  | request (releaseId approverEmail : String) (slaHours : ℤ)
  | approve (stepId note : String)
  | reject (stepId rejectedBy note : String)
  | raiseException (releaseId workspaceId raisedBy reason businessJustification approverEmail
      urgency : String)
  | approveException (exceptionId approvedBy note : String)
  | rejectException (exceptionId rejectedBy note : String)

def GuardCall.perform (rt : Runtime) : GuardCall → Method Services Unit
  | create workspaceId tenantId title serviceName environment riskLevel submittedBy description =>
    discard (Services.create rt workspaceId tenantId title serviceName environment riskLevel
      submittedBy description)
  | addEvidence releaseId evidenceType title reference url addedBy =>
    discard (Services.addEvidence rt releaseId evidenceType title reference url addedBy)
  | removeEvidence releaseId evidenceId => Services.removeEvidence releaseId evidenceId
  | submit releaseId profileName => discard (Services.submit rt releaseId profileName)
  | cancel releaseId cancelledBy => discard (Services.cancel rt releaseId cancelledBy)
  | request releaseId approverEmail slaHours =>
    discard (Services.request rt releaseId approverEmail slaHours)
  | approve stepId note => discard (Services.approve rt stepId note)
  | reject stepId rejectedBy note => discard (Services.reject rt stepId rejectedBy note)
  | raiseException releaseId workspaceId raisedBy reason businessJustification approverEmail
      urgency =>
    discard (Services.raiseException rt releaseId workspaceId raisedBy reason
      businessJustification approverEmail urgency)
  | approveException exceptionId approvedBy note =>
    discard (Services.approveException rt exceptionId approvedBy note)
  | rejectException exceptionId rejectedBy note =>
    discard (Services.rejectException rt exceptionId rejectedBy note)

/-- One call, which may raise. -/
def guardStep (rt : Runtime) (call : GuardCall) (w : World Services) : World Services :=
  (call.perform rt).after w

end ControlFabric.ReleaseGuard
