import ControlFabric.Fabric.Repository
import ControlFabric.Fabric.Types
import ControlFabric.Py.Dumps

/-! Records of the validation runs. The identifiers and time stamps of failures, warnings and steps,
the traces, and the parts of a target or a scope that nothing reads, are left out. -/
namespace ControlFabric.Fabric
open Lib Py

/-- `str` writes a `float`. -/
def deterministicHash (rt : Runtime) (str : Json → String) (data : JsonDict) : String :=
  rt.sha256 (String.ofList (dumps str (.obj data)))

namespace Validation

inductive W3ValidationStatus where
  | pending
  | running
  | passed
  | passedWithWarnings
  | failed
  | blocked
  deriving DecidableEq

def W3ValidationStatus.value : W3ValidationStatus → String
  | pending => "pending"
  | running => "running"
  | passed => "passed"
  | passedWithWarnings => "passed-with-warnings"
  | failed => "failed"
  | blocked => "blocked"

inductive ValidationDecision where
  | eligible
  | proposalOnly
  | approvalRequired
  | rejected
  deriving DecidableEq

def ValidationDecision.value : ValidationDecision → String
  | eligible => "eligible"
  | proposalOnly => "proposal-only"
  | approvalRequired => "approval-required"
  | rejected => "rejected"

/-- The member as an f-string writes it. -/
def ValidationDecision.str : ValidationDecision → String
  | eligible => "ValidationDecision.ELIGIBLE"
  | proposalOnly => "ValidationDecision.PROPOSAL_ONLY"
  | approvalRequired => "ValidationDecision.APPROVAL_REQUIRED"
  | rejected => "ValidationDecision.REJECTED"

inductive ValidationFailureCode where
  | schemaInvalid
  | graphIncomplete
  | evidenceInsufficient
  | provenanceInvalid
  | reconciliationIncomplete
  | policyNoncompliant
  | nonDeterministic
  | confidenceBelowThreshold
  | contradictoryEvidence
  | actionPreconditionFailed
  | unsupportedTarget
  | missingOrigin
  | missingValidationInput
  deriving DecidableEq

def ValidationFailureCode.value : ValidationFailureCode → String
  | schemaInvalid => "schema-invalid"
  | graphIncomplete => "graph-incomplete"
  | evidenceInsufficient => "evidence-insufficient"
  | provenanceInvalid => "provenance-invalid"
  | reconciliationIncomplete => "reconciliation-incomplete"
  | policyNoncompliant => "policy-noncompliant"
  | nonDeterministic => "non-deterministic"
  | confidenceBelowThreshold => "confidence-below-threshold"
  | contradictoryEvidence => "contradictory-evidence"
  | actionPreconditionFailed => "action-precondition-failed"
  | unsupportedTarget => "unsupported-target"
  | missingOrigin => "missing-origin"
  | missingValidationInput => "missing-validation-input"

structure ValidationFailure where
  code : ValidationFailureCode
  ruleId : Option String := none
  objectId : Option String := none
  description : String
  expected : Json := .null
  actual : Json := .null
  metadata : JsonDict := []

structure ValidationWarning where
  ruleId : Option String := none
  objectId : Option String := none
  description : String

structure ValidationResult where
  ruleId : String
  status : W3ValidationStatus := .pending
  passed : Bool := false
  failures : List ValidationFailure := []
  warnings : List ValidationWarning := []
  explanation : String := ""

structure ValidationStep where
  order : ℕ := 0
  ruleId : String
  result : Option ValidationResult := none
  executed : Bool := false

structure ValidationScope where
  tenantId : String
  actionType : String := ""

structure ValidationTarget where
  objectIds : List String := []

structure ValidationContext where
  scope : ValidationScope
  target : ValidationTarget
  requireReconciled : Bool := false
  minConfidence : ℚ := 1 / 2
  requiredEvidenceTypes : List String := []
  requiredStates : List String := []
  policyOverrides : JsonDict := []
  metadata : JsonDict := []

structure ValidationPrecondition where
  name : String
  met : Bool := false
  description : String := ""
  blocking : Bool := true

structure ValidationEligibility where
  decision : ValidationDecision := .rejected
  eligibleForRelease : Bool := false
  requiresApproval : Bool := false
  proposalOnly : Bool := false
  blockingFailures : List ValidationFailure := []
  explanation : String := ""

structure ValidationReport where
  id : String
  runId : String
  chainId : String
  tenantId : String
  status : W3ValidationStatus := .pending
  decision : ValidationDecision := .rejected
  eligibility : ValidationEligibility := {}
  steps : List ValidationStep := []
  failures : List ValidationFailure := []
  warnings : List ValidationWarning := []
  preconditions : List ValidationPrecondition := []
  target : ValidationTarget := {}
  scope : Option ValidationScope := none
  reportHash : String := ""

namespace ValidationReport

/-- The dict `compute_hash` serializes. -/
def hashData (report : ValidationReport) : JsonDict :=
  [("run_id", .str report.runId),
    ("chain_id", .str report.chainId),
    ("status", .str report.status.value),
    ("decision", .str report.decision.value),
    ("failures", .arr (report.failures.map fun f =>
      .obj [("code", .str f.code.value), ("description", .str f.description)])),
    ("steps", .arr (report.steps.map fun s =>
      .obj [("rule_id", .str s.ruleId),
        ("passed", .bool (s.result.elim false ValidationResult.passed))]))]

def computeHash (rt : Runtime) (str : Json → String) (report : ValidationReport) :
    ValidationReport :=
  { report with reportHash := deterministicHash rt str report.hashData }

def isActionable (report : ValidationReport) : Bool :=
  report.decision ∈ [ValidationDecision.eligible, .approvalRequired, .proposalOnly]

end ValidationReport

structure ValidationRun where
  id : String
  chainId : String
  tenantId : String
  context : ValidationContext
  report : Option ValidationReport := none
  status : W3ValidationStatus := .pending

structure ValidationExecutionRequest where
  tenantId : String
  context : ValidationContext
  chainId : Option String := none

structure ValidationExecutionResult where
  run : ValidationRun
  report : ValidationReport
  decision : ValidationDecision

structure ValidationDecisionPolicy where
  allowWarnings : Bool := true
  maxWarnings : ℤ := 10
  autoEligibleOnPass : Bool := true
  proposalOnlyOnWarnings : Bool := false

end Validation
end ControlFabric.Fabric
