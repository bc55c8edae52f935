import ControlFabric.Validation.RuleModel

/-! The validation chain executor: resolution of the target, rules in order, status, decision, and
the report. -/
namespace ControlFabric.Fabric.Validation
open Lib Py Method

/-! ### Audit -/

section Audit
variable (rt : Runtime) (runId tenantId : String)

/-- An event of the tenant with no object. -/
def auditEvent (tenantId : String) (eventType : FabricAuditEventType) (detail : String)
    (metadata : JsonDict) : Method FabricAuditHook Unit :=
  FabricAuditHook.emit rt fun id timestamp =>
    { id := id
      eventType := eventType
      tenantId := some tenantId
      timestamp := timestamp
      detail := detail
      metadata := metadata }

def validationRunStarted : Method FabricAuditHook Unit :=
  auditEvent rt tenantId .validationRunStarted s!"Validation run {runId} started"
    [("run_id", .str runId)]

def validationRunCompleted (status : W3ValidationStatus) (decision : ValidationDecision) :
    Method FabricAuditHook Unit :=
  auditEvent rt tenantId .validationRunCompleted
    s!"Validation run {runId} completed: {status.value}, decision={decision.value}"
    [("run_id", .str runId), ("status", .str status.value), ("decision", .str decision.value)]

def validationStepCompleted (ruleId : String) (passed : Bool) : Method FabricAuditHook Unit :=
  let outcome := if passed then "passed" else "failed"
  auditEvent rt tenantId .validationStepCompleted s!"Validation step {ruleId}: {outcome}"
    [("run_id", .str runId), ("rule_id", .str ruleId), ("passed", .bool passed)]

def validationFailed (failureCount : ℕ) : Method FabricAuditHook Unit :=
  auditEvent rt tenantId .validationFailed
    s!"Validation run {runId} has {failureCount} failures"
    [("run_id", .str runId), ("failure_count", .int failureCount)]

def validationDecisionRecorded (decision : ValidationDecision) (reportHash : String) :
    Method FabricAuditHook Unit :=
  auditEvent rt tenantId .validationDecisionRecorded
    s!"Validation decision: {decision.value} (hash={reportHash})"
    [("run_id", .str runId), ("decision", .str decision.value),
      ("report_hash", .str reportHash)]

end Audit

/-! ### Execution -/

structure ValidationChainExecutor where
  graph : InMemoryGraphRepository
  ruleRegistry : ValidationRuleRegistry
  runRepo : Dict String ValidationRun
  reportRepo : Dict String ValidationReport
  auditHook : FabricAuditHook
  decisionPolicy : ValidationDecisionPolicy

def ValidationStep.failures (step : ValidationStep) : List ValidationFailure :=
  step.result.elim [] ValidationResult.failures

def ValidationStep.warnings (step : ValidationStep) : List ValidationWarning :=
  step.result.elim [] ValidationResult.warnings

namespace ValidationChainExecutor

def new (graph : InMemoryGraphRepository) (ruleRegistry : ValidationRuleRegistry)
    (listeners : List FabricAuditListener) (decisionPolicy : ValidationDecisionPolicy) :
    ValidationChainExecutor :=
  ⟨graph, ruleRegistry, Dict.empty, Dict.empty, ⟨listeners, []⟩, decisionPolicy⟩

/-- `self._audit`. -/
def hook (m : Method FabricAuditHook Unit) : Method ValidationChainExecutor Unit :=
  on auditHook (fun h e => { e with auditHook := h }) m

def storeRun (run : ValidationRun) (e : ValidationChainExecutor) : ValidationChainExecutor :=
  { e with runRepo := e.runRepo.set run.id run }

def storeReport (report : ValidationReport) (e : ValidationChainExecutor) :
    ValidationChainExecutor :=
  { e with reportRepo := e.reportRepo.set report.id report }

/-- The tenant is not asked for. -/
def resolveObjects (graph : InMemoryGraphRepository) (target : ValidationTarget)
    (_tenantId : String) : List ControlObject := target.objectIds.filterMap graph.objects.get?

def checkPreconditions (objects : List ControlObject) : List ValidationPrecondition :=
  [{ name := "has-target-objects"
     met := 0 < objects.length
     description := "At least one target object must be resolvable"
     blocking := true }]

def buildRuleContext (context : ValidationContext) : JsonDict :=
  updateDict (updateDict
    [("require_reconciled", .bool context.requireReconciled),
      ("min_confidence", .float context.minConfidence),
      ("required_evidence_types", .arr (context.requiredEvidenceTypes.map .str)),
      ("required_states", .arr (context.requiredStates.map .str)),
      ("min_evidence", .int 1)] context.policyOverrides) context.metadata

def determineStatus (failures : List ValidationFailure) (warnings : List ValidationWarning) :
    W3ValidationStatus :=
  if failures ≠ [] then .failed
  else if warnings ≠ [] then .passedWithWarnings
  else .passed

def determineDecision (policy : ValidationDecisionPolicy) (status : W3ValidationStatus)
    (warnings : List ValidationWarning) : ValidationDecision :=
  if status = .failed then .rejected
  else if status = .passedWithWarnings then
    if policy.proposalOnlyOnWarnings then .proposalOnly
    else if ¬ policy.allowWarnings then .rejected
    else if policy.maxWarnings < warnings.length then .approvalRequired
    else .eligible
  else if policy.autoEligibleOnPass then .eligible
  else .approvalRequired

def buildEligibility (decision : ValidationDecision) (failures : List ValidationFailure) :
    ValidationEligibility where
  decision := decision
  eligibleForRelease := decision = .eligible
  requiresApproval := decision = .approvalRequired
  proposalOnly := decision = .proposalOnly
  blockingFailures := if decision = .rejected then failures else []
  explanation := s!"Decision: {decision.value}"

variable (rt : Runtime) (str : Json → String)

def buildBlockedReport (id runId chainId tenantId : String) (context : ValidationContext)
    (preconditions : List ValidationPrecondition) : ValidationReport :=
  let failures := (preconditions.filter fun p => ¬ p.met ∧ p.blocking).map fun p =>
    { code := ValidationFailureCode.missingValidationInput
      description := s!"Precondition '{p.name}' not met: {p.description}" }
  ValidationReport.computeHash rt str
    { id := id
      runId := runId
      chainId := chainId
      tenantId := tenantId
      status := .blocked
      decision := .rejected
      eligibility :=
        { decision := .rejected
          explanation := "Blocked by unmet preconditions"
          blockingFailures := failures }
      failures := failures
      preconditions := preconditions
      target := context.target
      scope := some context.scope }

/-- The loop over the rules, from the `i`-th on. -/
def runRules (runId tenantId : String) (objects : List ControlObject) (ctx : JsonDict) :
    ℕ → List W3ValidationRule → Method ValidationChainExecutor (List ValidationStep)
  | _, [] => return []
  | i, rule :: rules => do
    let e ← self
    let result ← lift (rule.validate objects e.graph ctx)
    let step : ValidationStep :=
      { order := i, ruleId := rule.ruleId, result := some result, executed := true }
    hook (validationStepCompleted rt runId tenantId rule.ruleId result.passed)
    let steps ← runRules runId tenantId objects ctx (i + 1) rules
    return step :: steps

/-- The report on the steps that were executed. -/
def buildReport (policy : ValidationDecisionPolicy) (id runId chainId tenantId : String)
    (context : ValidationContext) (preconditions : List ValidationPrecondition)
    (steps : List ValidationStep) : ValidationReport :=
  let failures := steps.flatMap ValidationStep.failures
  let warnings := steps.flatMap ValidationStep.warnings
  let status := determineStatus failures warnings
  let decision := determineDecision policy status warnings
  ValidationReport.computeHash rt str
    { id := id
      runId := runId
      chainId := chainId
      tenantId := tenantId
      status := status
      decision := decision
      eligibility := buildEligibility decision failures
      steps := steps
      failures := failures
      warnings := warnings
      preconditions := preconditions
      target := context.target
      scope := some context.scope }

/-- The end of an execution without a resolvable target. -/
def finishBlocked (run : ValidationRun) (report : ValidationReport) :
    Method ValidationChainExecutor ValidationExecutionResult := do
  assign (storeReport report)
  let completed := { run with report := some report, status := .blocked }
  assign (storeRun completed)
  hook (validationFailed rt run.id run.tenantId report.failures.length)
  hook (validationRunCompleted rt run.id run.tenantId .blocked .rejected)
  return ⟨completed, report, .rejected⟩

/-- The end of an execution whose rules have been run. -/
def finish (run : ValidationRun) (report : ValidationReport) :
    Method ValidationChainExecutor ValidationExecutionResult := do
  assign (storeReport report)
  let completed := { run with report := some report, status := report.status }
  assign (storeRun completed)
  if report.failures ≠ [] then
    hook (validationFailed rt run.id run.tenantId report.failures.length)
  hook (validationDecisionRecorded rt run.id run.tenantId report.decision report.reportHash)
  hook (validationRunCompleted rt run.id run.tenantId report.status report.decision)
  return ⟨completed, report, report.decision⟩

/-- `request.chain_id or new_chain_id()`. -/
def chainOf (request : ValidationExecutionRequest) : Method ValidationChainExecutor String :=
  match request.chainId with
  | some chainId => return chainId
  | none => do
    let n ← draw
    return rt.uuid4 n

def execute (request : ValidationExecutionRequest) :
    Method ValidationChainExecutor ValidationExecutionResult := do
  let chainId ← chainOf rt request
  let n ← draw
  let run : ValidationRun :=
    { id := rt.uuid4 n
      chainId := chainId
      tenantId := request.tenantId
      context := request.context
      status := .running }
  assign (storeRun run)
  hook (validationRunStarted rt run.id request.tenantId)
  let e ← self
  let objects := resolveObjects e.graph request.context.target request.tenantId
  let preconditions := checkPreconditions objects
  if preconditions.any fun p => p.blocking ∧ ¬ p.met then
    let m ← draw
    finishBlocked rt run (buildBlockedReport rt str (rt.uuid4 m) run.id chainId request.tenantId
      request.context preconditions)
  else
    let ctx := buildRuleContext request.context
    let rules := e.ruleRegistry.getApplicableRules objects request.context.scope.actionType
    let steps ← runRules rt run.id request.tenantId objects ctx 0 rules
    let m ← draw
    finish rt run (buildReport rt str e.decisionPolicy (rt.uuid4 m) run.id chainId
      request.tenantId request.context preconditions steps)

end ValidationChainExecutor
end ControlFabric.Fabric.Validation
