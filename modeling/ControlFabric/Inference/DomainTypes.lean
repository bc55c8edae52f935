import ControlFabric.Runtime
import ControlFabric.Py.Numbers

/-! Scope parameters, gate results, hypotheses and evidence records of the bounded inference
engine. -/
namespace ControlFabric.Inference
open Lib Py

inductive PolicyDecision where
  | allow
  | deny
  deriving DecidableEq

/-- The member as an f-string writes it. -/
def PolicyDecision.str : PolicyDecision → String
  | .allow => "PolicyDecision.ALLOW"
  | .deny => "PolicyDecision.DENY"

inductive HypothesisType where
  | remediationSuggestion
  | gapAnalysis
  | conflictResolution
  | riskAssessment
  | complianceMapping
  | patternDetection
  deriving DecidableEq

def HypothesisType.value : HypothesisType → String
  | .remediationSuggestion => "remediation_suggestion"
  | .gapAnalysis => "gap_analysis"
  | .conflictResolution => "conflict_resolution"
  | .riskAssessment => "risk_assessment"
  | .complianceMapping => "compliance_mapping"
  | .patternDetection => "pattern_detection"

inductive InferenceStatus where
  | pending
  | policyChecked
  | scopeBounded
  | inferring
  | validating
  | complete
  | rejected
  | failed
  deriving DecidableEq

/-- The member as an f-string writes it. -/
def InferenceStatus.str : InferenceStatus → String
  | .pending => "InferenceStatus.PENDING"
  | .policyChecked => "InferenceStatus.POLICY_CHECKED"
  | .scopeBounded => "InferenceStatus.SCOPE_BOUNDED"
  | .inferring => "InferenceStatus.INFERRING"
  | .validating => "InferenceStatus.VALIDATING"
  | .complete => "InferenceStatus.COMPLETE"
  | .rejected => "InferenceStatus.REJECTED"
  | .failed => "InferenceStatus.FAILED"

inductive RejectionReason where
  | policyDenied
  | scopeViolation
  | outputTypeViolation
  | evidenceInsufficient
  | schemaViolation
  | confidenceBelowThreshold
  | provenanceInvalid
  deriving DecidableEq

/-- The member as an f-string writes it. -/
def RejectionReason.str : RejectionReason → String
  | .policyDenied => "RejectionReason.POLICY_DENIED"
  | .scopeViolation => "RejectionReason.SCOPE_VIOLATION"
  | .outputTypeViolation => "RejectionReason.OUTPUT_TYPE_VIOLATION"
  | .evidenceInsufficient => "RejectionReason.EVIDENCE_INSUFFICIENT"
  | .schemaViolation => "RejectionReason.SCHEMA_VIOLATION"
  | .confidenceBelowThreshold => "RejectionReason.CONFIDENCE_BELOW_THRESHOLD"
  | .provenanceInvalid => "RejectionReason.PROVENANCE_INVALID"

/-- The boundary of what the model may see. The depth is validated on construction. -/
structure ScopeParameters where
  allowedControlObjectIds : List String
  allowedOperationalPlanes : List String
  maxGraphDepth : ℤ
  allowedRelationshipTypes : List String
  dataClassificationCeiling : String
  scopeHash : String
  depth_valid : 1 ≤ maxGraphDepth ∧ maxGraphDepth ≤ 5

namespace ScopeParameters
variable (rt : Runtime)

/-- The text under `scope_hash`. -/
def hashText (s : ScopeParameters) : String :=
  reprList rt.isPrintable (sorted s.allowedControlObjectIds) ++
    reprList rt.isPrintable (sorted s.allowedOperationalPlanes) ++
    toString s.maxGraphDepth ++
    reprList rt.isPrintable (sorted s.allowedRelationshipTypes) ++
    s.dataClassificationCeiling

def computeScopeHash (s : ScopeParameters) : ScopeParameters :=
  { s with scopeHash := rt.sha256 (s.hashText rt) }

def new (allowedControlObjectIds allowedOperationalPlanes : List String) (maxGraphDepth : ℤ)
    (allowedRelationshipTypes : List String) (dataClassificationCeiling : String) :
    Except PyError ScopeParameters :=
  if h : 1 ≤ maxGraphDepth ∧ maxGraphDepth ≤ 5 then
    .ok (computeScopeHash rt
      { allowedControlObjectIds := allowedControlObjectIds
        allowedOperationalPlanes := allowedOperationalPlanes
        maxGraphDepth := maxGraphDepth
        allowedRelationshipTypes := allowedRelationshipTypes
        dataClassificationCeiling := dataClassificationCeiling
        scopeHash := ""
        depth_valid := h })
  else if maxGraphDepth < 1 then
    .error (.validationError "max_graph_depth: Input should be greater than or equal to 1")
  else .error (.validationError "max_graph_depth: Input should be less than or equal to 5")

/-- A new value of the same parameters. -/
theorem new_fields (s : ScopeParameters) :
    new rt s.allowedControlObjectIds s.allowedOperationalPlanes s.maxGraphDepth
      s.allowedRelationshipTypes s.dataClassificationCeiling = .ok (s.computeScopeHash rt) := by
  unfold new
  rw [dif_pos s.depth_valid]
  rfl

end ScopeParameters

/-- An allowing result has scope parameters and a denying one its reason. -/
structure PolicyGateResult where
  decision : PolicyDecision
  policyId : String
  policyVersion : String
  evaluatedAt : DateTime
  denialReason : Option String
  scopeParameters : Option ScopeParameters
  gateSignature : String
  allow_scope : decision = .allow → scopeParameters.isSome
  deny_reason : decision = .deny → denialReason.isSome

namespace PolicyGateResult
variable (rt : Runtime)

/-- The text under `gate_signature`. -/
def hashText (g : PolicyGateResult) : String :=
  g.decision.str ++ g.policyId ++ g.policyVersion ++ g.evaluatedAt.isoformat

def computeSignature (g : PolicyGateResult) : PolicyGateResult :=
  { g with gateSignature := rt.sha256 g.hashText }

end PolicyGateResult

/-- What the output checks and the evidence of a session read of a hypothesis. -/
structure TypedHypothesis where
  hypothesisType : HypothesisType
  findings : List String
  affectedControlObjectIds : List String
  confidenceScore : ℚ
  evidenceReferences : List String
  reasoningTrace : List String
  scopeHashUsed : String
  isExecutable : Bool
  hypothesisHash : String

structure EvidenceRecord where
  recordId : String
  sessionId : String
  requestHash : String
  policyGateSignature : String
  scopeHash : String
  hypothesisHash : Option String
  modelId : String
  inferenceDurationMs : ℤ
  finalStatus : InferenceStatus
  rejectionReason : Option RejectionReason
  createdAt : DateTime
  chainHash : String
  deriving DecidableEq

namespace EvidenceRecord
variable (rt : Runtime)

/-- The text under `chain_hash`. -/
def hashText (r : EvidenceRecord) : String :=
  r.recordId ++ r.sessionId ++ r.requestHash ++ r.policyGateSignature ++ r.scopeHash ++
    r.hypothesisHash.getD "None" ++ r.modelId ++ toString r.inferenceDurationMs ++
    r.finalStatus.str ++ (r.rejectionReason.map RejectionReason.str).getD "None" ++
    r.createdAt.isoformat

/-- The validators of the model: the duration is not negative, and the hash is computed. -/
def validated (r : EvidenceRecord) : Except PyError EvidenceRecord :=
  if r.inferenceDurationMs < 0 then
    .error (.validationError "inference_duration_ms: Input should be greater than or equal to 0")
  else .ok { r with chainHash := rt.sha256 r.hashText }

def new (n : ℕ) (sessionId requestHash policyGateSignature scopeHash : String)
    (hypothesisHash : Option String) (modelId : String) (inferenceDurationMs : ℤ)
    (finalStatus : InferenceStatus) (rejectionReason : Option RejectionReason) :
    Except PyError EvidenceRecord :=
  validated rt
    { recordId := rt.uuid4 n
      sessionId := sessionId
      requestHash := requestHash
      policyGateSignature := policyGateSignature
      scopeHash := scopeHash
      hypothesisHash := hypothesisHash
      modelId := modelId
      inferenceDurationMs := inferenceDurationMs
      finalStatus := finalStatus
      rejectionReason := rejectionReason
      createdAt := rt.now n
      chainHash := "" }

end EvidenceRecord

structure InferenceRequest where
  requestId : String
  requestingEntityId : String
  targetControlObjectIds : List String
  targetOperationalPlane : String
  hypothesisTypeRequested : HypothesisType
  contextData : JsonDict
  requestHash : String

structure InferenceResponse where
  sessionId : String
  requestId : String
  status : InferenceStatus
  hypothesis : Option TypedHypothesis
  rejectionReason : Option RejectionReason
  rejectionDetail : Option String
  evidenceRecord : EvidenceRecord
  policyGateResult : PolicyGateResult
  completedAt : DateTime

end ControlFabric.Inference

/-! The checks a hypothesis has to pass, made in order up to the first that fails. -/
namespace ControlFabric.Inference
open Py

structure ValidationResult where
  passed : Bool
  rejectionReason : Option RejectionReason
  rejectionDetail : Option String
  checksPassed : List String
  checksFailed : List String

/-- One check of the validator: its name, whether it fails, and how it is then reported. -/
structure OutputCheck where
  name : String
  fails : Bool
  reason : RejectionReason
  detail : String

/-- The checks still to make, after those that passed. -/
def runChecks (checksPassed : List String) : List OutputCheck → ValidationResult
  | [] =>
    { passed := true
      rejectionReason := none
      rejectionDetail := none
      checksPassed := checksPassed
      checksFailed := [] }
  | check :: rest =>
    if check.fails then
      { passed := false
        rejectionReason := some check.reason
        rejectionDetail := some check.detail
        checksPassed := checksPassed
        checksFailed := [check.name] }
    else runChecks (checksPassed ++ [check.name]) rest

theorem runChecks_passed {checksPassed : List String} {checks : List OutputCheck} :
    (runChecks checksPassed checks).passed = true ↔ ∀ check ∈ checks, check.fails = false := by
  induction checks generalizing checksPassed with
  | nil => simp [runChecks]
  | cons check rest ih =>
    unfold runChecks
    cases hfails : check.fails with
    | true => simp [hfails]
    | false => simp [hfails, ih]

structure TypedOutputValidator where
  minConfidence : ℚ := 1 / 2
  minFindings : ℤ := 1
  minReasoningSteps : ℤ := 2
  minEvidenceRefs : ℤ := 1

namespace TypedOutputValidator

def checks (v : TypedOutputValidator) (hypothesis : TypedHypothesis)
    (requestedType : HypothesisType) (scope : ScopeParameters) : List OutputCheck :=
  let outOfScope := hypothesis.affectedControlObjectIds.filter
    fun oid => oid ∉ scope.allowedControlObjectIds
  [⟨"non_executable_check", hypothesis.isExecutable, .outputTypeViolation,
      "CRITICAL: is_executable is True — architectural violation"⟩,
    ⟨"hypothesis_type_check", hypothesis.hypothesisType ≠ requestedType, .schemaViolation,
      s!"Type mismatch: requested={requestedType.value} received={hypothesis.hypothesisType.value}"⟩,
    ⟨"confidence_check", hypothesis.confidenceScore < v.minConfidence, .confidenceBelowThreshold,
      s!"Confidence {fixed2 hypothesis.confidenceScore} below threshold {fixed2 v.minConfidence}"⟩,
    ⟨"scope_hash_check", hypothesis.scopeHashUsed ≠ scope.scopeHash, .provenanceInvalid,
      "Scope hash mismatch"⟩,
    ⟨"scope_object_check", outOfScope ≠ [], .scopeViolation,
      s!"References {outOfScope.length} out-of-scope objects"⟩,
    ⟨"findings_check", hypothesis.findings.length < v.minFindings, .evidenceInsufficient,
      s!"Only {hypothesis.findings.length} findings, need {v.minFindings}"⟩,
    ⟨"evidence_check", hypothesis.evidenceReferences.length < v.minEvidenceRefs,
      .evidenceInsufficient, s!"Only {hypothesis.evidenceReferences.length} evidence refs"⟩,
    ⟨"reasoning_check", hypothesis.reasoningTrace.length < v.minReasoningSteps,
      .evidenceInsufficient, s!"Only {hypothesis.reasoningTrace.length} reasoning steps"⟩]

def validate (v : TypedOutputValidator) (hypothesis : TypedHypothesis)
    (requestedType : HypothesisType) (scope : ScopeParameters) : ValidationResult :=
  runChecks [] (v.checks hypothesis requestedType scope)

/-- A hypothesis that passes belongs to the scope it was asked for: it is of the requested type, not
executable, bound to the hash of the scope, and about objects of the scope only. -/
theorem validate_passed {v : TypedOutputValidator} {hypothesis : TypedHypothesis}
    {requestedType : HypothesisType} {scope : ScopeParameters}
    (h : (v.validate hypothesis requestedType scope).passed = true) :
    hypothesis.isExecutable = false ∧ hypothesis.hypothesisType = requestedType ∧
      hypothesis.scopeHashUsed = scope.scopeHash ∧
      ∀ oid ∈ hypothesis.affectedControlObjectIds, oid ∈ scope.allowedControlObjectIds := by
  have hall := runChecks_passed.mp h
  simp only [checks, List.forall_mem_cons, decide_eq_false_iff_not, not_not,
    List.filter_eq_nil_iff] at hall
  obtain ⟨hexecutable, htype, -, hhash, hscope, -⟩ := hall
  exact ⟨hexecutable, htype, hhash, fun oid hoid => by simpa using hscope oid hoid⟩

end TypedOutputValidator
end ControlFabric.Inference
