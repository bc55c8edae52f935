import ControlFabric.Inference.PolicyGate
import ControlFabric.Inference.ScopeEnforcer
import ControlFabric.Inference.DomainTypes
import ControlFabric.Inference.EvidenceLogger

/-! The bounded inference engine: gate, scope, model, output checks and evidence, in that order. -/
namespace ControlFabric.Inference
open Lib Py Method

/-- The arguments of one call of the model runner. -/
structure RunnerCall where
  scope : ScopeParameters
  sanitisedContext : JsonDict
  hypothesisType : HypothesisType
  sessionId : String

inductive RunnerOutcome where
  | returned (hypothesis : TypedHypothesis) (durationMs : ℤ)
  | raised (message : String)

structure ModelRunner where
  modelId : String
  /-- The answer to a call, by the number of calls before it. -/
  infer : ℕ → RunnerCall → RunnerOutcome

/-- The engine and the calls it has made to its model runner. -/
structure BoundedInferenceEngine where
  policyStore : PolicyStore
  runner : ModelRunner
  validator : TypedOutputValidator
  evidenceLogger : EvidenceLogger
  invocations : List RunnerCall

namespace InferenceRequest

def gateQuery (request : InferenceRequest) : GateQuery where
  requestingEntityId := request.requestingEntityId
  targetOperationalPlane := request.targetOperationalPlane
  hypothesisTypeRequested := request.hypothesisTypeRequested.value
  targetControlObjectIds := request.targetControlObjectIds

end InferenceRequest

namespace BoundedInferenceEngine
variable (rt : Runtime) (uc : Unicode)

def new (policyStore : Option PolicyStore) (runner : ModelRunner) (minConfidence : ℚ) :
    BoundedInferenceEngine where
  policyStore := policyStore.getD buildDefaultPolicyStore
  runner := runner
  validator := { minConfidence := minConfidence }
  evidenceLogger := .new
  invocations := []

/-- The common end of every exit: the evidence is recorded, then the response is built with it. -/
def close (request : InferenceRequest) (sessionId : String) (gateResult : PolicyGateResult)
    (logged : Method EvidenceLogger EvidenceRecord) (status : InferenceStatus)
    (hypothesis : Option TypedHypothesis) (rejectionReason : Option RejectionReason)
    (rejectionDetail : Option String) : Method BoundedInferenceEngine InferenceResponse := do
  let evidence ← on evidenceLogger (fun l e => { e with evidenceLogger := l }) logged
  let n ← draw
  return {
    sessionId := sessionId
    requestId := request.requestId
    status := status
    hypothesis := hypothesis
    rejectionReason := rejectionReason
    rejectionDetail := rejectionDetail
    evidenceRecord := evidence
    policyGateResult := gateResult
    completedAt := rt.now n }

def invokeRunner (call : RunnerCall) : Method BoundedInferenceEngine RunnerOutcome := do
  let e ← self
  assign fun e => { e with invocations := e.invocations ++ [call] }
  return e.runner.infer e.invocations.length call

/-- `ScopeEnforcer(scope=scope).enforce(context_data)`. -/
def enforceScope (scope : ScopeParameters) (contextData : JsonDict) :
    Except PyError JsonDict := do
  let enforcer ← ScopeEnforcer.new rt scope
  enforcer.enforce uc contextData

/-- `infer` behind the call of the model runner. -/
def conclude (request : InferenceRequest) (sessionId : String) (gateResult : PolicyGateResult)
    (scope : ScopeParameters) (outcome : RunnerOutcome) :
    Method BoundedInferenceEngine InferenceResponse := do
  let e ← self
  match outcome with
  | .raised message =>
    close rt request sessionId gateResult
      (EvidenceLogger.recordFailure rt sessionId request.requestHash (some gateResult)
        e.runner.modelId message) .failed none none (some message)
  | .returned hypothesis durationMs =>
    let result := e.validator.validate hypothesis request.hypothesisTypeRequested scope
    if result.passed then
      close rt request sessionId gateResult
        (EvidenceLogger.recordSuccess rt sessionId request.requestHash gateResult hypothesis
          e.runner.modelId durationMs) .complete (some hypothesis) none none
    else
      close rt request sessionId gateResult
        (EvidenceLogger.recordRejection rt sessionId request.requestHash gateResult
          e.runner.modelId (result.rejectionReason.getD .schemaViolation)
          (result.rejectionDetail.getD "Validation failed")) .rejected none
        result.rejectionReason result.rejectionDetail

/-- `infer` behind an allowing gate result. -/
def inferInScope (request : InferenceRequest) (sessionId : String) (gateResult : PolicyGateResult)
    (scope : ScopeParameters) : Method BoundedInferenceEngine InferenceResponse := do
  let e ← self
  match enforceScope rt uc scope request.contextData with
  | .error (.scopeViolationError message) =>
    close rt request sessionId gateResult
      (EvidenceLogger.recordRejection rt sessionId request.requestHash gateResult
        e.runner.modelId .scopeViolation message) .rejected none (some .scopeViolation)
      (some message)
  | .error error => raise error
  | .ok sanitised =>
    let outcome ← invokeRunner ⟨scope, sanitised, request.hypothesisTypeRequested, sessionId⟩
    conclude rt request sessionId gateResult scope outcome

def infer (request : InferenceRequest) : Method BoundedInferenceEngine InferenceResponse := do
  let e ← self
  let sessionId := rt.uuid4 (← draw)
  let n ← draw
  let gateResult ← Method.lift (PolicyGate.evaluate rt n e.policyStore request.gateQuery)
  match gateResult.decision, gateResult.scopeParameters with
  | .deny, _ =>
    close rt request sessionId gateResult
      (EvidenceLogger.recordRejection rt sessionId request.requestHash gateResult
        e.runner.modelId .policyDenied (gateResult.denialReason.getD "Denied")) .rejected none
      (some .policyDenied) gateResult.denialReason
  | .allow, none => raise (.assertionError "")
  | .allow, some scope => inferInScope rt uc request sessionId gateResult scope

/-! ### What one call leaves behind -/

/-- The call returns a response and adds exactly one record, of this session and request and with
the status of the response. -/
def Recorded (m : Method BoundedInferenceEngine InferenceResponse)
    (sessionId requestHash : String) (w : World BoundedInferenceEngine) : Prop :=
  ∃ response record w', m.run w = .ok response w' ∧
    w'.self.evidenceLogger = EvidenceLogger.commit record w.self.evidenceLogger ∧
    record.sessionId = sessionId ∧ record.requestHash = requestHash ∧
    response.sessionId = sessionId ∧ record.finalStatus = response.status

/-- When the call is recorded, and which calls it makes to the model runner. -/
structure Ends (m : Method BoundedInferenceEngine InferenceResponse)
    (sessionId requestHash : String) (w : World BoundedInferenceEngine) (answered : Prop)
    (calls : List RunnerCall) : Prop where
  recorded : Recorded m sessionId requestHash w ↔ answered
  invocations : (m.after w).self.invocations = w.self.invocations ++ calls

variable {rt : Runtime} {uc : Unicode} {w : World BoundedInferenceEngine}
  {sessionId requestHash : String}

theorem Ends.congr {m : Method BoundedInferenceEngine InferenceResponse} {answered answered' : Prop}
    {calls : List RunnerCall} (h : Ends m sessionId requestHash w answered calls)
    (hiff : answered ↔ answered') : Ends m sessionId requestHash w answered' calls :=
  ⟨h.recorded.trans hiff, h.invocations⟩

/-- A call that raises records nothing. -/
theorem ends_error {m : Method BoundedInferenceEngine InferenceResponse} {e : PyError} {env : Env}
    (h : m.run w = .error e ⟨w.self, env⟩) : Ends m sessionId requestHash w False [] := by
  constructor
  · apply iff_of_false
    · rintro ⟨response, record, w', hrun, -⟩
      rw [h] at hrun
      cases hrun
    · exact id
  · rw [after_error h, List.append_nil]

theorem close_ends (request : InferenceRequest) (gateResult : PolicyGateResult)
    (policyGateSignature scopeHash : String) (hypothesisHash : Option String) (modelId : String)
    (inferenceDurationMs : ℤ) (status : InferenceStatus) (reason : Option RejectionReason)
    (hypothesis : Option TypedHypothesis) (rejectionReason : Option RejectionReason)
    (rejectionDetail : Option String) :
    Ends (close rt request sessionId gateResult
      (EvidenceLogger.recordNew rt sessionId requestHash policyGateSignature scopeHash
        hypothesisHash modelId inferenceDurationMs status reason) status hypothesis rejectionReason
      rejectionDetail) sessionId requestHash w (0 ≤ inferenceDurationMs) [] := by
  rcases EvidenceLogger.run_recordNew rt sessionId requestHash policyGateSignature scopeHash
    hypothesisHash modelId inferenceDurationMs status reason ⟨w.self.evidenceLogger, w.env⟩ with
    ⟨hduration, record, -, hsession, hrequest, hstatus, hrun⟩ | ⟨hduration, e, hrun⟩
  · have hclose : ∃ response env', (close rt request sessionId gateResult
        (EvidenceLogger.recordNew rt sessionId requestHash policyGateSignature scopeHash
          hypothesisHash modelId inferenceDurationMs status reason) status hypothesis
        rejectionReason rejectionDetail).run w = .ok response
          ⟨{ w.self with evidenceLogger :=
            EvidenceLogger.commit record w.self.evidenceLogger }, env'⟩ ∧
        response.sessionId = sessionId ∧ response.status = status := by
      unfold close
      rw [EStateM.run_bind, run_on, hrun]
      exact ⟨_, _, rfl, rfl, rfl⟩
    obtain ⟨response, env', hclose, hresponse, hanswer⟩ := hclose
    constructor
    · exact iff_of_true ⟨response, record, _, hclose, rfl, hsession, hrequest, hresponse,
        hstatus.trans hanswer.symm⟩ hduration
    · rw [after_ok hclose, List.append_nil]
  · have hclose : (close rt request sessionId gateResult
        (EvidenceLogger.recordNew rt sessionId requestHash policyGateSignature scopeHash
          hypothesisHash modelId inferenceDurationMs status reason) status hypothesis
        rejectionReason rejectionDetail).run w =
          .error e ⟨w.self, { w.env with draws := w.env.draws + 1 }⟩ := by
      unfold close
      rw [EStateM.run_bind, run_on, hrun]
    exact (ends_error hclose).congr (iff_of_false id (not_le.mpr hduration))

theorem self_ends {f : BoundedInferenceEngine → Method BoundedInferenceEngine InferenceResponse}
    {answered : Prop} {calls : List RunnerCall}
    (h : Ends (f w.self) sessionId requestHash w answered calls) :
    Ends (self >>= f) sessionId requestHash w answered calls := ⟨h.recorded, h.invocations⟩

/-- Behind the model runner only a negative duration of a hypothesis that passes can go
unrecorded. -/
theorem conclude_ends (request : InferenceRequest) {gateResult : PolicyGateResult}
    {scope : ScopeParameters} (hscope : gateResult.scopeParameters = some scope)
    (outcome : RunnerOutcome) :
    Ends (conclude rt request sessionId gateResult scope outcome) sessionId request.requestHash w
      (∀ hypothesis durationMs, outcome = .returned hypothesis durationMs →
        (w.self.validator.validate hypothesis request.hypothesisTypeRequested scope).passed →
          0 ≤ durationMs) [] := by
  apply self_ends
  cases outcome with
  | raised message =>
    have hclose : Ends (close rt request sessionId gateResult
        (EvidenceLogger.recordFailure rt sessionId request.requestHash (some gateResult)
          w.self.runner.modelId message) .failed none none (some message)) sessionId
        request.requestHash w (0 ≤ (0 : ℤ)) [] := close_ends ..
    apply hclose.congr (iff_of_true le_rfl _)
    intro hypothesis durationMs h
    cases h
  | returned hypothesis durationMs =>
    have hreturned : (∀ h d, RunnerOutcome.returned hypothesis durationMs = .returned h d →
        (w.self.validator.validate h request.hypothesisTypeRequested scope).passed → 0 ≤ d) ↔
        ((w.self.validator.validate hypothesis request.hypothesisTypeRequested scope).passed →
          0 ≤ durationMs) := by
      constructor
      · exact fun h => h hypothesis durationMs rfl
      · rintro h _ _ ⟨⟩
        exact h
    rw [hreturned]
    dsimp only
    by_cases hpassed : (w.self.validator.validate hypothesis request.hypothesisTypeRequested
      scope).passed
    · rw [if_pos hpassed, EvidenceLogger.recordSuccess, hscope]
      exact (close_ends ..).congr ⟨fun h _ => h, fun h => h hpassed⟩
    · rw [if_neg hpassed]
      exact (close_ends ..).congr ⟨fun _ h => absurd h hpassed, fun _ => le_rfl⟩

theorem invokeRunner_ends {call : RunnerCall} {answered : Prop}
    {f : RunnerOutcome → Method BoundedInferenceEngine InferenceResponse}
    (h : Ends (f (w.self.runner.infer w.self.invocations.length call)) sessionId requestHash
      { w with self := { w.self with invocations := w.self.invocations ++ [call] } } answered []) :
    Ends (invokeRunner call >>= f) sessionId requestHash w answered [call] := by
  constructor
  · exact h.recorded
  · exact h.invocations.trans (List.append_nil _)

/-- Within an allowed scope a call is recorded if the context can be read, and a hypothesis that
passes comes with a valid duration. -/
structure AnswerableInScope (uc : Unicode) (e : BoundedInferenceEngine) (request : InferenceRequest)
    (sessionId : String) (scope : ScopeParameters) : Prop where
  enforceable : (ScopeEnforcer.mk scope).Enforceable uc request.contextData
  duration : ∀ sanitised,
    (ScopeEnforcer.mk scope).enforce uc request.contextData = .ok sanitised →
      ∀ hypothesis durationMs, e.runner.infer e.invocations.length
        ⟨scope, sanitised, request.hypothesisTypeRequested, sessionId⟩ =
          .returned hypothesis durationMs →
        (e.validator.validate hypothesis request.hypothesisTypeRequested scope).passed →
          0 ≤ durationMs

theorem inferInScope_ends (request : InferenceRequest) {gateResult : PolicyGateResult}
    {scope : ScopeParameters} (hscope : gateResult.scopeParameters = some scope)
    (hnew : ScopeEnforcer.new rt scope = .ok ⟨scope⟩) :
    Ends (inferInScope rt uc request sessionId gateResult scope) sessionId request.requestHash w
      (w.self.AnswerableInScope uc request sessionId scope)
      ((enforceScope rt uc scope request.contextData).toOption.map fun sanitised =>
        ⟨scope, sanitised, request.hypothesisTypeRequested, sessionId⟩).toList := by
  have henforce : enforceScope rt uc scope request.contextData =
      (ScopeEnforcer.mk scope).enforce uc request.contextData := by
    rw [enforceScope, hnew]
    rfl
  have hreturns : (∃ sanitised, (ScopeEnforcer.mk scope).enforce uc request.contextData =
      .ok sanitised) ↔ (ScopeEnforcer.mk scope).Enforceable uc request.contextData :=
    (ScopeEnforcer.mk scope).enforce_returns_iff uc
  apply self_ends
  rw [henforce]
  cases hresult : (ScopeEnforcer.mk scope).enforce uc request.contextData with
  | ok sanitised =>
    apply (invokeRunner_ends (conclude_ends request hscope _)).congr
    constructor
    · intro h
      refine ⟨hreturns.mp ⟨sanitised, hresult⟩, fun other hother => ?_⟩
      obtain rfl := Except.ok.inj (hresult.symm.trans hother)
      exact h
    · exact fun h => h.duration sanitised hresult
  | error e =>
    have hnot : ¬ w.self.AnswerableInScope uc request sessionId scope := by
      intro h
      obtain ⟨sanitised, hok⟩ := hreturns.mpr h.enforceable
      rw [hresult] at hok
      cases hok
    have hraise : Ends (raise e) sessionId request.requestHash w False [] := ends_error rfl
    cases (ScopeEnforcer.mk scope).enforce_errors uc request.contextData e hresult with
    | typeError message => exact hraise.congr (iff_of_false id hnot)
    | attributeError message => exact hraise.congr (iff_of_false id hnot)

theorem draw_ends {f : ℕ → Method BoundedInferenceEngine InferenceResponse} {answered : Prop}
    {calls : List RunnerCall}
    (h : Ends (f w.env.draws) sessionId requestHash
      { w with env := { w.env with draws := w.env.draws + 1 } } answered calls) :
    Ends (draw >>= f) sessionId requestHash w answered calls := ⟨h.recorded, h.invocations⟩

end BoundedInferenceEngine

section Calls
variable (rt : Runtime) (uc : Unicode)

/-- The identifier a call draws for its session. -/
def sessionIdOf (w : World BoundedInferenceEngine) : String := rt.uuid4 w.env.draws

/-- The rule that decides about the request. -/
def ruleFor (e : BoundedInferenceEngine) (request : InferenceRequest) : Option PolicyRule :=
  PolicyGate.decidingRule request.gateQuery
    (e.policyStore.getRulesForPlane request.targetOperationalPlane)

/-- The deciding rule, if it lets the request pass, has a valid scope, under which the call can be
answered. -/
structure Answerable (request : InferenceRequest) (w : World BoundedInferenceEngine) : Prop where
  scope_valid : ∀ rule ∈ ruleFor w.self request, rule.outcome request.gateQuery ≠ some .raise
  in_scope : ∀ rule ∈ ruleFor w.self request, rule.outcome request.gateQuery = some .allow →
    ∀ scope, PolicyGate.ruleScope rt rule request.gateQuery = .ok scope →
      w.self.AnswerableInScope uc request (sessionIdOf rt w) scope

/-- The policy gate returns ALLOW and scope enforcement succeeds, for this call of the runner. -/
def Cleared (request : InferenceRequest) (w : World BoundedInferenceEngine) (call : RunnerCall) :
    Prop :=
  ∃ gateResult, PolicyGate.evaluate rt (w.env.draws + 1) w.self.policyStore request.gateQuery =
      .ok gateResult ∧ gateResult.decision = .allow ∧
    gateResult.scopeParameters = some call.scope ∧
    BoundedInferenceEngine.enforceScope rt uc call.scope request.contextData =
      .ok call.sanitisedContext ∧
    call.hypothesisType = request.hypothesisTypeRequested ∧ call.sessionId = sessionIdOf rt w

/-- The call makes exactly the invocation that gate and enforcer clear, if they do. -/
def InvokedWhenCleared (request : InferenceRequest) (w : World BoundedInferenceEngine) : Prop :=
  let after := ((BoundedInferenceEngine.infer rt uc request).after w).self.invocations
  (∃ call, Cleared rt uc request w call ∧ after = w.self.invocations ++ [call]) ∨
    (∀ call, ¬ Cleared rt uc request w call) ∧ after = w.self.invocations

/-- The call returns a response and commits exactly one record of it. -/
def InferRecorded (request : InferenceRequest) (w : World BoundedInferenceEngine) : Prop :=
  BoundedInferenceEngine.Recorded (BoundedInferenceEngine.infer rt uc request) (sessionIdOf rt w)
    request.requestHash w

/-- What the gate's answer means for a call: the condition under which it is recorded, and the
invocations that are cleared. -/
theorem infer_ends (request : InferenceRequest) (w : World BoundedInferenceEngine) :
    ∃ call : Option RunnerCall, BoundedInferenceEngine.Ends
      (BoundedInferenceEngine.infer rt uc request) (sessionIdOf rt w) request.requestHash w
      (Answerable rt uc request w) call.toList ∧
      ∀ c, Cleared rt uc request w c ↔ call = some c := by
  have hgate := PolicyGate.evaluate_cases rt (w.env.draws + 1) w.self.policyStore request.gateQuery
  rcases hgate with ⟨hdeny, policyId, version, reason, hevaluate⟩ |
    ⟨rule, hrule, hallow, scope, hscope, hevaluate⟩ | ⟨rule, hrule, hraise, e, hevaluate⟩
  · have hanswerable : Answerable rt uc request w := by
      constructor
      · intro rule hrule
        rw [hdeny rule hrule]
        decide
      · intro rule hrule hallow
        rw [hdeny rule hrule] at hallow
        cases hallow
    refine ⟨none, ?_, ?_⟩
    · apply BoundedInferenceEngine.self_ends
      apply BoundedInferenceEngine.draw_ends
      apply BoundedInferenceEngine.draw_ends
      rw [hevaluate]
      exact (BoundedInferenceEngine.close_ends ..).congr (iff_of_true le_rfl hanswerable)
    · rintro c
      apply iff_of_false
      · rintro ⟨gateResult, hresult, hallow, -⟩
        rw [hevaluate] at hresult
        rw [← Except.ok.inj hresult] at hallow
        cases hallow
      · exact fun h => nomatch h
  · have hanswerable : w.self.AnswerableInScope uc request (sessionIdOf rt w) scope ↔
        Answerable rt uc request w := by
      constructor
      · intro h
        constructor
        · intro r hr
          rw [Option.mem_unique hr hrule, hallow]
          decide
        · intro r hr _ s hs
          rw [Option.mem_unique hr hrule, hscope] at hs
          rw [← Except.ok.inj hs]
          exact h
      · exact fun h => h.in_scope rule hrule hallow scope hscope
    have hnew := ScopeEnforcer.new_ok (ScopeParameters.new_scopeHash hscope)
    refine ⟨(BoundedInferenceEngine.enforceScope rt uc scope request.contextData).toOption.map
      fun sanitised => ⟨scope, sanitised, request.hypothesisTypeRequested, sessionIdOf rt w⟩,
      ?_, ?_⟩
    · apply BoundedInferenceEngine.self_ends
      apply BoundedInferenceEngine.draw_ends
      apply BoundedInferenceEngine.draw_ends
      rw [hevaluate]
      exact (BoundedInferenceEngine.inferInScope_ends request rfl hnew).congr hanswerable
    · intro c
      constructor
      · rintro ⟨gateResult, hresult, -, hgiven, henforced, htype, hsession⟩
        rw [hevaluate] at hresult
        rw [← Except.ok.inj hresult] at hgiven
        obtain rfl : scope = c.scope := Option.some.inj hgiven
        rw [henforced, ← htype, ← hsession]
        rfl
      · intro h
        cases henforced : BoundedInferenceEngine.enforceScope rt uc scope request.contextData with
        | error e =>
          rw [henforced] at h
          cases h
        | ok sanitised =>
          rw [henforced] at h
          obtain rfl := Option.some.inj h
          exact ⟨_, hevaluate, rfl, rfl, henforced, rfl, rfl⟩
  · refine ⟨none, ?_, ?_⟩
    · apply BoundedInferenceEngine.self_ends
      apply BoundedInferenceEngine.draw_ends
      apply BoundedInferenceEngine.draw_ends
      rw [hevaluate]
      exact (BoundedInferenceEngine.ends_error rfl).congr
        (iff_of_false id fun h => h.scope_valid rule hrule hraise)
    · intro c
      apply iff_of_false
      · rintro ⟨gateResult, hresult, -⟩
        rw [hevaluate] at hresult
        cases hresult
      · exact fun h => nomatch h

def inferStep (request : InferenceRequest) (w : World BoundedInferenceEngine) :
    World BoundedInferenceEngine := (BoundedInferenceEngine.infer rt uc request).after w

theorem inferRecorded_iff (request : InferenceRequest) (w : World BoundedInferenceEngine) :
    InferRecorded rt uc request w ↔ Answerable rt uc request w := by
  obtain ⟨call, hends, -⟩ := infer_ends rt uc request w
  exact hends.recorded

theorem invokedWhenCleared (request : InferenceRequest) (w : World BoundedInferenceEngine) :
    InvokedWhenCleared rt uc request w := by
  obtain ⟨call, hends, hcleared⟩ := infer_ends rt uc request w
  have hinvocations := hends.invocations
  cases call with
  | none =>
    refine Or.inr ⟨fun c hc => ?_, hinvocations.trans (List.append_nil _)⟩
    cases (hcleared c).mp hc
  | some call => exact Or.inl ⟨call, (hcleared call).mpr rfl, hinvocations⟩

/-- Over every run of calls: each call is answered with one committed record, and invokes the model
exactly when it is cleared to, if and only if each call is answerable. The second part holds in
any case. -/
theorem inferRun_recorded_iff (w : World BoundedInferenceEngine)
    (requests : List InferenceRequest) :
    (Conforms (inferStep rt uc) (fun request w => InferRecorded rt uc request w ∧
        InvokedWhenCleared rt uc request w) w requests ↔
      Conforms (inferStep rt uc) (Answerable rt uc) w requests) ∧
    Conforms (inferStep rt uc) (InvokedWhenCleared rt uc) w requests := by
  constructor
  · apply conforms_congr (inferStep rt uc) (I := fun _ _ => True)
    · exact fun _ _ _ h => h
    · intro w request _ _
      rw [inferRecorded_iff]
      exact and_iff_left (invokedWhenCleared rt uc request w)
    · trivial
  · apply (conforms_iff_split (inferStep rt uc)).mpr
    exact fun pre request post _ => invokedWhenCleared rt uc request _

end Calls

section NullObjects

/-- A request whose list of control objects is null. -/
private def nullObjectsRequest : InferenceRequest where
  requestId := "request-1"
  requestingEntityId := "ada"
  targetControlObjectIds := ["obj-1"]
  targetOperationalPlane := "risk"
  hypothesisTypeRequested := .riskAssessment
  contextData := [("control_objects", .null)]
  requestHash := "0a1b"

private def failingRunner : ModelRunner := ⟨"phi-3-mini", fun _ _ => .raised "out of memory"⟩

/-- The gate allows the request, and the enforcer raises before anything is recorded. -/
theorem infer_nullObjects_unrecorded :
    ¬ InferRecorded .reference .ascii nullObjectsRequest
      ⟨.new none failingRunner (1 / 2), .initial "default"⟩ := by
  rw [inferRecorded_iff]
  intro h
  obtain ⟨rule, hrule, hallow, hscope⟩ : ∃ rule,
      rule ∈ ruleFor (.new none failingRunner (1 / 2)) nullObjectsRequest ∧
      rule.outcome nullObjectsRequest.gateQuery = some .allow ∧
      ∃ scope, PolicyGate.ruleScope .reference rule nullObjectsRequest.gateQuery = .ok scope :=
    ⟨_, rfl, rfl, _, rfl⟩
  obtain ⟨scope, hscope⟩ := hscope
  have henforceable := (h.in_scope rule hrule hallow scope hscope).enforceable
  obtain ⟨items, hitems, -⟩ := henforceable.controlObjects .null rfl
  cases hitems

end NullObjects
end ControlFabric.Inference
