import ControlFabric.Runtime

/-! The platform-wide deterministic validation chain. -/
namespace ControlFabric
open Lib Py Method

inductive ValidationCheckName where
  | completeness
  | evidenceSufficiency
  | policyCompliance
  | provenanceIntegrity
  | schemaConformance
  deriving DecidableEq

def ValidationCheckName.value : ValidationCheckName → String
  | .completeness => "completeness"
  | .evidenceSufficiency => "evidence_sufficiency"
  | .policyCompliance => "policy_compliance"
  | .provenanceIntegrity => "provenance_integrity"
  | .schemaConformance => "schema_conformance"

/-- The member as an f-string writes it. -/
def ValidationCheckName.str : ValidationCheckName → String
  | .completeness => "ValidationCheckName.COMPLETENESS"
  | .evidenceSufficiency => "ValidationCheckName.EVIDENCE_SUFFICIENCY"
  | .policyCompliance => "ValidationCheckName.POLICY_COMPLIANCE"
  | .provenanceIntegrity => "ValidationCheckName.PROVENANCE_INTEGRITY"
  | .schemaConformance => "ValidationCheckName.SCHEMA_CONFORMANCE"

inductive ValidationOutcome where
  | pass | fail
  deriving DecidableEq

def ValidationOutcome.str : ValidationOutcome → String
  | .pass => "ValidationOutcome.PASS"
  | .fail => "ValidationOutcome.FAIL"

inductive ActionOrigin where
  | humanOperator
  | automatedWorkflow
  | aiInference
  | apiRequest
  | scheduledTask
  | domainPack
  deriving DecidableEq

def ActionOrigin.value : ActionOrigin → String
  | .humanOperator => "human_operator"
  | .automatedWorkflow => "automated_workflow"
  | .aiInference => "ai_inference"
  | .apiRequest => "api_request"
  | .scheduledTask => "scheduled_task"
  | .domainPack => "domain_pack"

/-- The member as an f-string writes it. -/
def ActionOrigin.str : ActionOrigin → String
  | .humanOperator => "ActionOrigin.HUMAN_OPERATOR"
  | .automatedWorkflow => "ActionOrigin.AUTOMATED_WORKFLOW"
  | .aiInference => "ActionOrigin.AI_INFERENCE"
  | .apiRequest => "ActionOrigin.API_REQUEST"
  | .scheduledTask => "ActionOrigin.SCHEDULED_TASK"
  | .domainPack => "ActionOrigin.DOMAIN_PACK"

/-- A well-formed policy dictionary: the two keys the chain reads, and the rest. -/
structure ActivePolicies where
  blockedActionTypes : Option (List String)
  requiredOriginsFor : Option (Dict String (List String))
  other : JsonDict

/-- `{}`. -/
def ActivePolicies.none : ActivePolicies := ⟨.none, .none, []⟩

structure ValidationCheckResult where
  checkName : ValidationCheckName
  outcome : ValidationOutcome
  detail : String
  checkedAt : DateTime
  checkHash : String

structure ValidationRequest where
  requestId : String
  origin : ActionOrigin
  actionType : String
  proposedPayload : Json
  evidenceReferences : List String
  policyContext : ActivePolicies
  provenanceChain : List String
  requestedBy : String
  requestedAt : DateTime
  requestHash : String

structure ValidationCertificate where
  certificateId : String
  requestId : String
  requestHash : String
  checksPassed : List ValidationCheckName
  issuedAt : DateTime
  validForActionType : String
  certificateHash : String

structure ValidationRejection where
  rejectionId : String
  requestId : String
  failedCheck : ValidationCheckName
  failureDetail : String
  rejectedAt : DateTime
  rejectionHash : String

section Constructors
variable (rt : Runtime) (n : ℕ)

def ValidationCheckResult.new (checkName : ValidationCheckName) (outcome : ValidationOutcome)
    (detail : String) : ValidationCheckResult where
  checkName := checkName
  outcome := outcome
  detail := detail
  checkedAt := rt.now n
  checkHash := rt.sha256 (checkName.str ++ outcome.str ++ detail ++ (rt.now n).isoformat)

/-- The text under `request_hash`. -/
def ValidationRequest.hashText (r : ValidationRequest) : String :=
  r.requestId ++ r.origin.str ++ r.actionType ++ r.requestedBy ++ r.requestedAt.isoformat

def ValidationRequest.computeRequestHash (r : ValidationRequest) : ValidationRequest :=
  { r with requestHash := rt.sha256 r.hashText }

def ValidationRequest.new (origin : ActionOrigin) (actionType : String) (proposedPayload : Json)
    (evidenceReferences : List String) (policyContext : ActivePolicies)
    (provenanceChain : List String) (requestedBy : String) : ValidationRequest :=
  ValidationRequest.computeRequestHash rt
    { requestId := rt.uuid4 n
      origin := origin
      actionType := actionType
      proposedPayload := proposedPayload
      evidenceReferences := evidenceReferences
      policyContext := policyContext
      provenanceChain := provenanceChain
      requestedBy := requestedBy
      requestedAt := rt.now n
      requestHash := "" }

/-- The text under `certificate_hash`. -/
def ValidationCertificate.hashText (c : ValidationCertificate) : String :=
  c.certificateId ++ c.requestId ++ c.requestHash ++
    reprList rt.isPrintable (sorted (c.checksPassed.map ValidationCheckName.value)) ++
    c.issuedAt.isoformat ++ c.validForActionType

def ValidationCertificate.computeCertificateHash (c : ValidationCertificate) :
    ValidationCertificate := { c with certificateHash := rt.sha256 (c.hashText rt) }

def ValidationCertificate.new (requestId requestHash : String)
    (checksPassed : List ValidationCheckName) (validForActionType : String) :
    ValidationCertificate :=
  ValidationCertificate.computeCertificateHash rt
    { certificateId := rt.uuid4 n
      requestId := requestId
      requestHash := requestHash
      checksPassed := checksPassed
      issuedAt := rt.now n
      validForActionType := validForActionType
      certificateHash := "" }

def ValidationRejection.new (requestId : String) (failedCheck : ValidationCheckName)
    (failureDetail : String) : ValidationRejection where
  rejectionId := rt.uuid4 n
  requestId := requestId
  failedCheck := failedCheck
  failureDetail := failureDetail
  rejectedAt := rt.now n
  rejectionHash := rt.sha256 (rt.uuid4 n ++ requestId ++ failedCheck.str ++ failureDetail ++
    (rt.now n).isoformat)

end Constructors

/-- One of the `_check_*` methods: the name it reports under, and its outcome and detail. -/
structure Check where
  name : ValidationCheckName
  verdict : ValidationRequest → ValidationOutcome × String

def Check.result (c : Check) (rt : Runtime) (n : ℕ) (request : ValidationRequest) :
    ValidationCheckResult :=
  ValidationCheckResult.new rt n c.name (c.verdict request).1 (c.verdict request).2

structure DeterministicValidationChain where
  activePolicies : ActivePolicies
  processed : List (ValidationRequest × (ValidationCertificate ⊕ ValidationRejection))

namespace DeterministicValidationChain

def new (activePolicies : Option ActivePolicies) : DeterministicValidationChain :=
  ⟨activePolicies.getD .none, []⟩

def checkCompleteness : Check where
  name := .completeness
  verdict request :=
    if request.actionType = "" then (.fail, "action_type is required")
    else if request.requestedBy = "" then (.fail, "requested_by is required")
    else if ¬ request.proposedPayload.truthy then (.fail, "proposed_payload cannot be empty")
    else (.pass, "all required fields present")

def checkEvidence : Check where
  name := .evidenceSufficiency
  verdict request :=
    if request.origin = .aiInference ∧ request.evidenceReferences = [] then
      (.fail, "AI-originated actions require at least one evidence reference")
    else (.pass, s!"{request.evidenceReferences.length} evidence references present")

def checkPolicy (rt : Runtime) (policies : ActivePolicies) : Check where
  name := .policyCompliance
  verdict request :=
    let blockedTypes := policies.blockedActionTypes.getD []
    if request.actionType ∈ blockedTypes then
      (.fail, s!"action_type '{request.actionType}' is blocked by active policy")
    else
      let requiredOrigins := policies.requiredOriginsFor.getD Dict.empty
      match requiredOrigins.get? request.actionType with
      | some allowed =>
        if request.origin.value ∉ allowed then
          (.fail, s!"action_type '{request.actionType}' requires origin in " ++
            s!"{reprList rt.isPrintable allowed}, got '{request.origin.value}'")
        else (.pass, "complies with active policies")
      | .none => (.pass, "complies with active policies")

def checkProvenance (rt : Runtime) : Check where
  name := .provenanceIntegrity
  verdict request :=
    if request.requestHash ≠ rt.sha256 request.hashText then
      (.fail, "request hash mismatch — provenance may have been tampered with")
    else (.pass, "provenance chain intact")

def checkSchema : Check where
  name := .schemaConformance
  verdict request :=
    if ¬ request.proposedPayload.isDict then (.fail, "proposed_payload must be a dict")
    else (.pass, "schema conforms")

/-- The five gates in the order `validate` runs them. -/
def gates (rt : Runtime) (policies : ActivePolicies) : List Check :=
  [checkCompleteness, checkEvidence, checkPolicy rt policies, checkProvenance rt, checkSchema]

def record (request : ValidationRequest) (outcome : ValidationCertificate ⊕ ValidationRejection) :
    Method DeterministicValidationChain Unit :=
  assign fun chain => { chain with processed := chain.processed ++ [(request, outcome)] }

def reject (rt : Runtime) (n : ℕ) (request : ValidationRequest) (result : ValidationCheckResult) :
    ValidationRejection :=
  ValidationRejection.new rt n request.requestId result.checkName result.detail

/-- The gates still to run, after those in `checksPassed`. The first that fails ends the run. -/
def runGates (rt : Runtime) (request : ValidationRequest) (checksPassed : List ValidationCheckName) :
    List Check → Method DeterministicValidationChain (ValidationCertificate ⊕ ValidationRejection)
  | [] => do
    let certificate := ValidationCertificate.new rt (← draw) request.requestId request.requestHash
      checksPassed request.actionType
    record request (.inl certificate)
    return .inl certificate
  | c :: rest => do
    let result := c.result rt (← draw) request
    if result.outcome = .fail then
      let rejection := reject rt (← draw) request result
      record request (.inr rejection)
      return .inr rejection
    runGates rt request (checksPassed ++ [c.name]) rest

/-- `(certificate, None)` on a pass is `inl certificate`, `(None, rejection)` is `inr rejection`. -/
def validate (rt : Runtime) (request : ValidationRequest) :
    Method DeterministicValidationChain (ValidationCertificate ⊕ ValidationRejection) := do
  runGates rt request [] (gates rt (← self).activePolicies)

/-- All five gates let the request through. -/
def Passes (rt : Runtime) (policies : ActivePolicies) (request : ValidationRequest) : Prop :=
  ∀ c ∈ gates rt policies, (c.verdict request).1 = .pass

instance (rt : Runtime) (policies : ActivePolicies) (request : ValidationRequest) :
    Decidable (Passes rt policies request) :=
  inferInstanceAs (Decidable (∀ c ∈ gates rt policies, _))

/-- A certificate for the gates passed is recorded when every remaining gate passes. -/
theorem runGates_pass (rt : Runtime) (request : ValidationRequest) (rest : List Check)
    (h : ∀ c ∈ rest, (c.verdict request).1 = .pass) (checksPassed : List ValidationCheckName)
    (w : World DeterministicValidationChain) :
    let certificate := ValidationCertificate.new rt (w.env.draws + rest.length) request.requestId
      request.requestHash (checksPassed ++ rest.map Check.name) request.actionType
    (runGates rt request checksPassed rest).run w = .ok (.inl certificate)
      ⟨{ w.self with processed := w.self.processed ++ [(request, .inl certificate)] },
        { w.env with draws := w.env.draws + rest.length + 1 }⟩ := by
  induction rest generalizing checksPassed w with
  | nil => simp [runGates, record]
  | cons c rest ih =>
    have hc : (c.verdict request).1 ≠ .fail := by rw [h c List.mem_cons_self]; decide
    have hrest := ih (fun d hd => h d (List.mem_cons_of_mem _ hd)) (checksPassed ++ [c.name])
      { w with env := { w.env with draws := w.env.draws + 1 } }
    simp only [List.append_assoc, List.singleton_append, ← List.map_cons, Nat.add_right_comm _ 1,
      Nat.add_assoc _ _ 1, ← List.length_cons (a := c)] at hrest
    simpa [runGates, Check.result, ValidationCheckResult.new, hc, Nat.add_assoc] using hrest

/-- Otherwise the first gate that fails is reported and the gates behind it do not run. -/
theorem runGates_reject (rt : Runtime) (request : ValidationRequest) (pre : List Check) (c : Check)
    (post : List Check) (hpre : ∀ d ∈ pre, (d.verdict request).1 = .pass)
    (hc : (c.verdict request).1 = .fail) (checksPassed : List ValidationCheckName)
    (w : World DeterministicValidationChain) :
    let rejection := reject rt (w.env.draws + pre.length + 1) request
      (c.result rt (w.env.draws + pre.length) request)
    (runGates rt request checksPassed (pre ++ c :: post)).run w = .ok (.inr rejection)
      ⟨{ w.self with processed := w.self.processed ++ [(request, .inr rejection)] },
        { w.env with draws := w.env.draws + pre.length + 2 }⟩ := by
  induction pre generalizing checksPassed w with
  | nil => simp [runGates, Check.result, ValidationCheckResult.new, hc, record, reject]
  | cons d pre ih =>
    have hd : (d.verdict request).1 ≠ .fail := by rw [hpre d List.mem_cons_self]; decide
    have hrest := ih (fun e he => hpre e (List.mem_cons_of_mem _ he)) (checksPassed ++ [d.name])
      { w with env := { w.env with draws := w.env.draws + 1 } }
    simpa [runGates, Check.result, ValidationCheckResult.new, hd, Nat.add_assoc,
      Nat.add_comm 1, Nat.add_left_comm 1] using hrest

private theorem first_failure (request : ValidationRequest) (l : List Check)
    (h : ¬ ∀ c ∈ l, (c.verdict request).1 = .pass) :
    ∃ pre c post, l = pre ++ c :: post ∧ (∀ d ∈ pre, (d.verdict request).1 = .pass) ∧
      (c.verdict request).1 = .fail := by
  induction l with
  | nil => simp at h
  | cons c l ih =>
    cases hc : (c.verdict request).1 with
    | fail => exact ⟨[], c, l, rfl, by simp, hc⟩
    | pass =>
      have hl : ¬ ∀ d ∈ l, (d.verdict request).1 = .pass := fun hl => h (by simpa [hc] using hl)
      obtain ⟨pre, d, post, rfl, hpre, hd⟩ := ih hl
      exact ⟨c :: pre, d, post, rfl, by simpa [hc] using hpre, hd⟩

theorem validate_pass {rt : Runtime} {request : ValidationRequest}
    {w : World DeterministicValidationChain} (h : Passes rt w.self.activePolicies request) :
    let certificate := ValidationCertificate.new rt (w.env.draws + 5) request.requestId
      request.requestHash [.completeness, .evidenceSufficiency, .policyCompliance,
        .provenanceIntegrity, .schemaConformance] request.actionType
    (validate rt request).run w = .ok (.inl certificate)
      ⟨{ w.self with processed := w.self.processed ++ [(request, .inl certificate)] },
        { w.env with draws := w.env.draws + 6 }⟩ := runGates_pass rt request _ h [] w

theorem validate_reject {rt : Runtime} {request : ValidationRequest}
    {w : World DeterministicValidationChain} (h : ¬ Passes rt w.self.activePolicies request) :
    ∃ pre c post, gates rt w.self.activePolicies = pre ++ c :: post ∧
      (∀ d ∈ pre, (d.verdict request).1 = .pass) ∧ (c.verdict request).1 = .fail ∧
      let rejection := reject rt (w.env.draws + pre.length + 1) request
        (c.result rt (w.env.draws + pre.length) request)
      (validate rt request).run w = .ok (.inr rejection)
        ⟨{ w.self with processed := w.self.processed ++ [(request, .inr rejection)] },
          { w.env with draws := w.env.draws + pre.length + 2 }⟩ := by
  obtain ⟨pre, c, post, hsplit, hpre, hc⟩ := first_failure request _ h
  refine ⟨pre, c, post, hsplit, hpre, hc, ?_⟩
  simpa [validate, hsplit] using runGates_reject rt request pre c post hpre hc [] w

theorem passes_iff {rt : Runtime} {policies : ActivePolicies} {request : ValidationRequest} :
    Passes rt policies request ↔
      (request.actionType ≠ "" ∧ request.requestedBy ≠ "" ∧ request.proposedPayload.truthy) ∧
      ¬ (request.origin = .aiInference ∧ request.evidenceReferences = []) ∧
      (request.actionType ∉ policies.blockedActionTypes.getD [] ∧
        ∀ allowed ∈ (policies.requiredOriginsFor.getD Dict.empty).get? request.actionType,
          request.origin.value ∈ allowed) ∧
      request.requestHash = rt.sha256 request.hashText ∧ request.proposedPayload.isDict := by
  have hcompleteness : (checkCompleteness.verdict request).1 = .pass ↔
      request.actionType ≠ "" ∧ request.requestedBy ≠ "" ∧ request.proposedPayload.truthy := by
    simp only [checkCompleteness]
    split_ifs <;> simp_all
  have hevidence : (checkEvidence.verdict request).1 = .pass ↔
      ¬ (request.origin = .aiInference ∧ request.evidenceReferences = []) := by
    simp only [checkEvidence]
    split_ifs <;> simp_all
  have hpolicy : ((checkPolicy rt policies).verdict request).1 = .pass ↔
      request.actionType ∉ policies.blockedActionTypes.getD [] ∧
        ∀ allowed ∈ (policies.requiredOriginsFor.getD Dict.empty).get? request.actionType,
          request.origin.value ∈ allowed := by
    simp only [checkPolicy]
    split_ifs with hblocked
    · simp [hblocked]
    · cases (policies.requiredOriginsFor.getD Dict.empty).get? request.actionType with
      | none => simp [hblocked]
      | some allowed => by_cases ha : request.origin.value ∈ allowed <;> simp [hblocked, ha]
  have hprovenance : ((checkProvenance rt).verdict request).1 = .pass ↔
      request.requestHash = rt.sha256 request.hashText := by
    simp only [checkProvenance]
    split_ifs <;> simp_all
  have hschema : (checkSchema.verdict request).1 = .pass ↔ request.proposedPayload.isDict := by
    simp only [checkSchema]
    split_ifs <;> simp_all
  simp only [Passes, gates, List.forall_mem_cons, List.not_mem_nil, IsEmpty.forall_iff, implies_true,
    and_true, hcompleteness, hevidence, hpolicy, hprovenance, hschema]

end DeterministicValidationChain
end ControlFabric
