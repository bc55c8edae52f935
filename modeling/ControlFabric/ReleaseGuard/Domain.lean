import ControlFabric.Gate.ReleaseGate

/-! Release Guard: releases with their evidence, approval steps, emergency exceptions, and the three
policy profiles. -/
namespace ControlFabric.ReleaseGuard
open Lib Py

inductive ReleaseStatus where
  | draft
  | pending
  | blocked
  | approved
  | cancelled
  | released
  deriving DecidableEq

def ReleaseStatus.value : ReleaseStatus → String
  | draft => "draft"
  | pending => "pending"
  | blocked => "blocked"
  | approved => "approved"
  | cancelled => "cancelled"
  | released => "released"

/-- An f-string writes the member itself with the name of its class. -/
def ReleaseStatus.str : ReleaseStatus → String
  | draft => "ReleaseStatus.DRAFT"
  | pending => "ReleaseStatus.PENDING"
  | blocked => "ReleaseStatus.BLOCKED"
  | approved => "ReleaseStatus.APPROVED"
  | cancelled => "ReleaseStatus.CANCELLED"
  | released => "ReleaseStatus.RELEASED"

inductive ReleaseRisk where
  | low
  | medium
  | high
  | critical
  deriving DecidableEq

def ReleaseRisk.value : ReleaseRisk → String
  | low => "low"
  | medium => "medium"
  | high => "high"
  | critical => "critical"

inductive EvidenceType where
  | jiraTicket
  | githubPr
  | buildResult
  | securityScan
  | rollbackPlan
  | approvalNote
  | changeRequest
  | testReport
  deriving DecidableEq

def EvidenceType.value : EvidenceType → String
  | jiraTicket => "jira_ticket"
  | githubPr => "github_pr"
  | buildResult => "build_result"
  | securityScan => "security_scan"
  | rollbackPlan => "rollback_plan"
  | approvalNote => "approval_note"
  | changeRequest => "change_request"
  | testReport => "test_report"

inductive ApprovalStatus where
  | pending
  | approved
  | rejected
  | expired
  deriving DecidableEq

inductive PolicyProfileName where
  | startupDefault
  | regulatedDefault
  | strict
  deriving DecidableEq

/-- What the services read of an entry of `PROFILES`. -/
structure Profile where
  requiredEvidence : List String
  requireApprovalForRisk : List ReleaseRisk
  approversRequired : ℕ

/-- Every name has an entry in `PROFILES`. -/
def getProfile : PolicyProfileName → Profile
  | .startupDefault => ⟨["build_result", "jira_ticket"], [.high, .critical], 1⟩
  | .regulatedDefault =>
    ⟨["build_result", "jira_ticket", "security_scan"], [.medium, .high, .critical], 1⟩
  | .strict => ⟨["build_result", "jira_ticket", "security_scan", "rollback_plan"],
      [.low, .medium, .high, .critical], 2⟩

def getRequiredEvidence (name : PolicyProfileName) : List String :=
  (getProfile name).requiredEvidence

def needsApproval (profileName : PolicyProfileName) (risk : ReleaseRisk) : Bool :=
  risk ∈ (getProfile profileName).requireApprovalForRisk

def approversRequired (profileName : PolicyProfileName) : ℕ :=
  (getProfile profileName).approversRequired

structure EvidenceItem where
  evidenceId : String
  releaseId : String
  evidenceType : EvidenceType
  title : String
  reference : String
  url : String
  verified : Bool
  addedBy : String
  addedAt : String

structure AuditEvent where
  event : String
  actor : String
  detail : String
  time : String

structure ReleaseRequest where
  releaseId : String
  workspaceId : String
  tenantId : String
  title : String
  description : String
  serviceName : String
  environment : String
  riskLevel : ReleaseRisk
  status : ReleaseStatus := .draft
  submittedBy : String
  createdAt : String
  submittedAt : Option String := none
  decidedAt : Option String := none
  blockedReason : Option String := none
  blockedChecks : List String := []
  missingEvidence : List String := []
  evidenceItems : List EvidenceItem := []
  packageId : Option String := none
  auditTrail : List AuditEvent := []

structure ApprovalStep where
  stepId : String
  releaseId : String
  approverId : String
  approverEmail : String
  status : ApprovalStatus := .pending
  decisionNote : String := ""
  requestedAt : String
  decidedAt : Option String := none
  slaHours : ℤ

inductive ExceptionStatus where
  | pendingApproval
  | approved
  | rejected
  deriving DecidableEq

structure ExceptionRequest where
  exceptionId : String
  releaseId : String
  workspaceId : String
  raisedBy : String
  reason : String
  businessJustification : String
  urgency : String
  status : ExceptionStatus := .pendingApproval
  approverEmail : String
  decisionNote : String := ""
  raisedAt : String
  decidedAt : Option String := none
  approved : Option Bool := none
  auditHash : String

structure EvidenceCheck where
  check : String
  complete : Bool
  evidenceType : String

structure Completeness where
  checks : List EvidenceCheck
  missing : List String

/-- `m.replace("_", " ")`. -/
def spaced (m : String) : String := String.ofList (m.toList.map fun c => if c = '_' then ' ' else c)

/-- `str.title` on ASCII letters; `start` says that no letter comes before. -/
def titled : Bool → List Char → List Char
  | _, [] => []
  | start, c :: cs => (if start then c.toUpper else c.toLower) :: titled (¬ c.isAlpha) cs

def ReleaseRequest.evidenceCompleteness (release : ReleaseRequest)
    (profileName : PolicyProfileName) : Completeness :=
  let attachedTypes := release.evidenceItems.map (·.evidenceType.value)
  let checks := (getRequiredEvidence profileName).map fun req =>
    (⟨String.ofList (titled true (spaced req).toList), req ∈ attachedTypes, req⟩ : EvidenceCheck)
  ⟨checks, (checks.filter fun c => ¬ c.complete).map (·.evidenceType)⟩

/-- What a submission assigns before the evidence is checked. -/
def ReleaseRequest.submittedAnew (release : ReleaseRequest) (now : String) : ReleaseRequest :=
  { release with
    submittedAt := some now
    status := .pending
    blockedReason := none
    blockedChecks := []
    missingEvidence := [] }

def Completeness.completeCount (c : Completeness) : ℕ := c.checks.countP (·.complete)

def Completeness.complete (c : Completeness) : Bool := c.completeCount = c.checks.length

end ControlFabric.ReleaseGuard
