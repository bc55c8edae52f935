import ControlFabric.Validation.Executor

/-! What an execution of the validation chain that returns has done. -/
namespace ControlFabric.Fabric.Validation
open Lib Py Method

namespace ValidationChainExecutor
variable {rt : Runtime} {str : Json → String}

/-- The part of an executor that no execution changes, and draws that only go on. -/
structure Continues (w w' : World ValidationChainExecutor) : Prop where
  graph : w'.self.graph = w.self.graph
  ruleRegistry : w'.self.ruleRegistry = w.self.ruleRegistry
  decisionPolicy : w'.self.decisionPolicy = w.self.decisionPolicy
  draws : w.env.draws ≤ w'.env.draws

theorem Continues.trans {w w' w'' : World ValidationChainExecutor} (h : Continues w w')
    (h' : Continues w' w'') : Continues w w'' :=
  ⟨h'.graph.trans h.graph, h'.ruleRegistry.trans h.ruleRegistry,
    h'.decisionPolicy.trans h.decisionPolicy, h.draws.trans h'.draws⟩

theorem hook_continues {tenantId detail : String} {eventType : FabricAuditEventType}
    {metadata : JsonDict} {w w' : World ValidationChainExecutor}
    (h : (hook (auditEvent rt tenantId eventType detail metadata)).run w = .ok () w') :
    Continues w w' := by
  rw [hook, run_on] at h
  cases hrun : (auditEvent rt tenantId eventType detail metadata).run ⟨w.self.auditHook, w.env⟩ with
  | ok a v =>
    rw [hrun] at h
    simp only [EStateM.Result.ok.injEq, true_and] at h
    rw [← h]
    have hdraws : v.env.draws = w.env.draws + 1 := by
      rw [← after_ok hrun]
      exact FabricAuditHook.emit_draws rt _ _
    exact ⟨rfl, rfl, rfl, by simp [hdraws]⟩
  | error e v => simp [hrun] at h

/-- The step holds what the rule found. -/
def Ran (objects : List ControlObject) (graph : InMemoryGraphRepository) (ctx : JsonDict)
    (rule : W3ValidationRule) (step : ValidationStep) : Prop :=
  step.ruleId = rule.ruleId ∧ ∃ result, rule.validate objects graph ctx = .ok result ∧
    step.result = some result

theorem runRules_ok {runId tenantId : String} {objects : List ControlObject} {ctx : JsonDict}
    {i : ℕ} {rules : List W3ValidationRule} {steps : List ValidationStep}
    {w w' : World ValidationChainExecutor}
    (h : (runRules rt runId tenantId objects ctx i rules).run w = .ok steps w') :
    List.Forall₂ (Ran objects w.self.graph ctx) rules steps ∧ Continues w w' := by
  induction rules generalizing i steps w with
  | nil =>
    simp only [runRules, run_pure, EStateM.Result.ok.injEq] at h
    obtain ⟨rfl, rfl⟩ := h
    exact ⟨.nil, rfl, rfl, rfl, le_rfl⟩
  | cons rule rules ih =>
    obtain ⟨e, v, hself, h⟩ := bind_ok.mp h
    simp only [run_self, EStateM.Result.ok.injEq] at hself
    obtain ⟨rfl, rfl⟩ := hself
    obtain ⟨result, v, hlift, h⟩ := bind_ok.mp h
    obtain ⟨hvalidate, rfl⟩ := lift_ok.mp hlift
    obtain ⟨_, v', hhook, h⟩ := bind_ok.mp h
    obtain ⟨rest, v'', hrest, h⟩ := bind_ok.mp h
    simp only [run_pure, EStateM.Result.ok.injEq] at h
    obtain ⟨rfl, rfl⟩ := h
    have hcontinues := hook_continues hhook
    obtain ⟨hsteps, hlater⟩ := ih hrest
    rw [hcontinues.graph] at hsteps
    exact ⟨.cons ⟨rfl, result, hvalidate, rfl⟩ hsteps, hcontinues.trans hlater⟩

/-- What the request's target resolves to. -/
def objectsOf (graph : InMemoryGraphRepository) (request : ValidationExecutionRequest) :
    List ControlObject := resolveObjects graph request.context.target request.tenantId

def rulesOf (e : ValidationChainExecutor) (request : ValidationExecutionRequest) :
    List W3ValidationRule :=
  e.ruleRegistry.getApplicableRules (objectsOf e.graph request) request.context.scope.actionType

/-- The result of an execution: the run it is about, and the report, blocked or on every applicable
rule. -/
structure Executed (rt : Runtime) (str : Json → String) (e : ValidationChainExecutor)
    (request : ValidationExecutionRequest) (runId : String) (r : ValidationExecutionResult) :
    Prop where
  run_id : r.run.id = runId
  run_tenantId : r.run.tenantId = request.tenantId
  run_context : r.run.context = request.context
  decision : r.decision = r.report.decision
  report : ∃ id chainId, (objectsOf e.graph request = [] ∧
      r.report = buildBlockedReport rt str id runId chainId request.tenantId request.context
        (checkPreconditions (objectsOf e.graph request))) ∨
    objectsOf e.graph request ≠ [] ∧ ∃ steps,
      List.Forall₂ (Ran (objectsOf e.graph request) e.graph (buildRuleContext request.context))
        (rulesOf e request) steps ∧
      r.report = buildReport rt str e.decisionPolicy id runId chainId request.tenantId
        request.context (checkPreconditions (objectsOf e.graph request)) steps

/-- The report names its run, and its hash is the digest of what it then holds. -/
theorem Executed.hash {e : ValidationChainExecutor} {request : ValidationExecutionRequest}
    {runId : String} {r : ValidationExecutionResult} (h : Executed rt str e request runId r) :
    r.report.runId = runId ∧
      r.report.reportHash = deterministicHash rt str r.report.hashData := by
  obtain ⟨id, chainId, ⟨-, hreport⟩ | ⟨-, steps, -, hreport⟩⟩ := h.report
  · rw [hreport]
    exact ⟨rfl, rfl⟩
  · rw [hreport]
    exact ⟨rfl, rfl⟩

theorem finishBlocked_ok {run : ValidationRun} {report : ValidationReport}
    {r : ValidationExecutionResult} {w w' : World ValidationChainExecutor}
    (h : (finishBlocked rt run report).run w = .ok r w') :
    r = ⟨{ run with report := some report, status := .blocked }, report, .rejected⟩ ∧
      w.env.draws ≤ w'.env.draws := by
  obtain ⟨_, v, hassign, h⟩ := bind_ok.mp h
  obtain ⟨_, v', hassign', h⟩ := bind_ok.mp h
  obtain ⟨_, u, hfailed, h⟩ := bind_ok.mp h
  obtain ⟨_, u', hcompleted, h⟩ := bind_ok.mp h
  simp only [run_assign, EStateM.Result.ok.injEq, true_and] at hassign hassign'
  simp only [run_pure, EStateM.Result.ok.injEq] at h
  obtain ⟨rfl, rfl⟩ := h
  have hdraws := ((hook_continues hfailed).trans (hook_continues hcompleted)).draws
  rw [← hassign', ← hassign] at hdraws
  exact ⟨rfl, hdraws⟩

theorem finish_ok {run : ValidationRun} {report : ValidationReport}
    {r : ValidationExecutionResult} {w w' : World ValidationChainExecutor}
    (h : (finish rt run report).run w = .ok r w') :
    r = ⟨{ run with report := some report, status := report.status }, report, report.decision⟩ ∧
      w.env.draws ≤ w'.env.draws := by
  obtain ⟨_, v, hassign, h⟩ := bind_ok.mp h
  obtain ⟨_, v', hassign', h⟩ := bind_ok.mp h
  simp only [run_assign, EStateM.Result.ok.injEq, true_and] at hassign hassign'
  have hrest {u : World ValidationChainExecutor}
      (h : (do
        hook (validationDecisionRecorded rt run.id run.tenantId report.decision report.reportHash)
        hook (validationRunCompleted rt run.id run.tenantId report.status report.decision)
        return (⟨{ run with report := some report, status := report.status }, report,
          report.decision⟩ : ValidationExecutionResult)).run u = .ok r w') :
      r = ⟨{ run with report := some report, status := report.status }, report, report.decision⟩ ∧
        u.env.draws ≤ w'.env.draws := by
    obtain ⟨_, v, hrecorded, h⟩ := bind_ok.mp h
    obtain ⟨_, v', hcompleted, h⟩ := bind_ok.mp h
    simp only [run_pure, EStateM.Result.ok.injEq] at h
    obtain ⟨rfl, rfl⟩ := h
    exact ⟨rfl, ((hook_continues hrecorded).trans (hook_continues hcompleted)).draws⟩
  have hdraws : v'.env.draws = w.env.draws := by rw [← hassign', ← hassign]
  rw [← hdraws]
  by_cases hfailures : report.failures ≠ []
  · rw [if_pos hfailures] at h
    obtain ⟨_, u, hfailed, h⟩ := bind_ok.mp h
    obtain ⟨hr, hle⟩ := hrest h
    exact ⟨hr, (hook_continues hfailed).draws.trans hle⟩
  · rw [if_neg hfailures] at h
    exact hrest h

theorem chainOf_ok {request : ValidationExecutionRequest} {chainId : String}
    {w w' : World ValidationChainExecutor} (h : (chainOf rt request).run w = .ok chainId w') :
    w'.self = w.self ∧ w.env.draws ≤ w'.env.draws := by
  unfold chainOf at h
  cases hchain : request.chainId with
  | some id =>
    simp only [hchain, run_pure, EStateM.Result.ok.injEq] at h
    rw [← h.2]
    exact ⟨rfl, le_rfl⟩
  | none =>
    rw [hchain] at h
    obtain ⟨n, v, hdraw, h⟩ := bind_ok.mp h
    simp only [run_draw, run_pure, EStateM.Result.ok.injEq] at hdraw h
    rw [← h.2, ← hdraw.2]
    exact ⟨rfl, Nat.le_succ _⟩

/-- An execution that returns takes the identifier of its run from a draw of its own. -/
theorem execute_ok {request : ValidationExecutionRequest} {r : ValidationExecutionResult}
    {w w' : World ValidationChainExecutor} (h : (execute rt str request).run w = .ok r w') :
    ∃ n, w.env.draws ≤ n ∧ n < w'.env.draws ∧
      Executed rt str w.self request (rt.uuid4 n) r := by
  obtain ⟨chainId, v, hchain, h⟩ := bind_ok.mp h
  obtain ⟨hself, hdraws⟩ := chainOf_ok hchain
  obtain ⟨n, u, hdraw, h⟩ := bind_ok.mp h
  simp only [run_draw, EStateM.Result.ok.injEq] at hdraw
  obtain ⟨rfl, rfl⟩ := hdraw
  obtain ⟨_, u, hassign, h⟩ := bind_ok.mp h
  simp only [run_assign, EStateM.Result.ok.injEq, true_and] at hassign
  obtain ⟨_, u', hstarted, h⟩ := bind_ok.mp h
  have hcontinues := hook_continues hstarted
  rw [← hassign] at hcontinues
  obtain ⟨e, u'', hread, h⟩ := bind_ok.mp h
  simp only [run_self, EStateM.Result.ok.injEq] at hread
  obtain ⟨rfl, rfl⟩ := hread
  have hgraph : u'.self.graph = w.self.graph := hcontinues.graph.trans (congrArg (·.graph) hself)
  have hregistry : u'.self.ruleRegistry = w.self.ruleRegistry :=
    hcontinues.ruleRegistry.trans (congrArg (·.ruleRegistry) hself)
  have hpolicy : u'.self.decisionPolicy = w.self.decisionPolicy :=
    hcontinues.decisionPolicy.trans (congrArg (·.decisionPolicy) hself)
  have hlater : v.env.draws + 1 ≤ u'.env.draws := hcontinues.draws
  rw [hgraph, hregistry] at h
  refine ⟨v.env.draws, hdraws, ?_⟩
  by_cases hempty : objectsOf w.self.graph request = []
  · have hblocked : ((checkPreconditions (objectsOf w.self.graph request)).any
        fun p => p.blocking ∧ ¬ p.met) = true := by
      rw [hempty]
      rfl
    rw [objectsOf] at hblocked
    simp only [hblocked, if_true] at h
    obtain ⟨m, t, hdraw, h⟩ := bind_ok.mp h
    simp only [run_draw, EStateM.Result.ok.injEq] at hdraw
    obtain ⟨rfl, rfl⟩ := hdraw
    obtain ⟨rfl, hend⟩ := finishBlocked_ok h
    refine ⟨?_, rfl, rfl, rfl, rfl, _, _, Or.inl ⟨hempty, rfl⟩⟩
    simp only at hend
    omega
  · have hmet : ((checkPreconditions (objectsOf w.self.graph request)).any
        fun p => p.blocking ∧ ¬ p.met) = false := by
      simp [checkPreconditions, List.length_pos_iff, hempty]
    rw [objectsOf] at hmet
    simp only [hmet, if_false, Bool.false_eq_true] at h
    obtain ⟨steps, t, hrules, h⟩ := bind_ok.mp h
    obtain ⟨hsteps, hrun⟩ := runRules_ok hrules
    rw [hgraph] at hsteps
    obtain ⟨m, t', hdraw, h⟩ := bind_ok.mp h
    simp only [run_draw, EStateM.Result.ok.injEq] at hdraw
    obtain ⟨rfl, rfl⟩ := hdraw
    rw [hpolicy] at h
    obtain ⟨rfl, hend⟩ := finish_ok h
    refine ⟨?_, rfl, rfl, rfl, rfl, _, _, Or.inr ⟨hempty, steps, hsteps, rfl⟩⟩
    have hdraws := hrun.draws
    simp only at hend
    omega

/-! ### Executions that return -/

/-- Nobody listens, so no event is objected to. -/
def Quiet (w : World ValidationChainExecutor) : Prop := w.self.auditHook.listeners = []

theorem hook_returns {tenantId detail : String} {eventType : FabricAuditEventType}
    {metadata : JsonDict} {w : World ValidationChainExecutor} (h : Quiet w) :
    ∃ w', (hook (auditEvent rt tenantId eventType detail metadata)).run w = .ok () w' ∧
      Quiet w' := by
  have hobjection : w.self.auditHook.objection = none := by
    unfold FabricAuditHook.objection
    rw [show w.self.auditHook.listeners = [] from h]
    rfl
  simp only [hook, auditEvent, FabricAuditHook.emit, run_on, EStateM.run_bind, run_draw, run_self,
    run_assign, hobjection, run_pure]
  exact ⟨_, rfl, h⟩

/-- The call returns, and nobody listens afterwards. -/
def ReturnsQuietly {α : Type} (m : Method ValidationChainExecutor α)
    (w : World ValidationChainExecutor) : Prop := ∃ a w', m.run w = .ok a w' ∧ Quiet w'

theorem ReturnsQuietly.after {α β : Type} {m : Method ValidationChainExecutor α}
    {f : α → Method ValidationChainExecutor β} {w v : World ValidationChainExecutor} {a : α}
    (hm : m.run w = .ok a v) (h : ReturnsQuietly (f a) v) : ReturnsQuietly (m >>= f) w := by
  obtain ⟨b, w', hrun, hquiet⟩ := h
  exact ⟨b, w', bind_ok.mpr ⟨a, v, hm, hrun⟩, hquiet⟩

theorem ReturnsQuietly.hook {α : Type} {tenantId detail : String}
    {eventType : FabricAuditEventType} {metadata : JsonDict}
    {f : Unit → Method ValidationChainExecutor α} {w : World ValidationChainExecutor} (h : Quiet w)
    (hf : ∀ v, Quiet v → Continues w v → ReturnsQuietly (f ()) v) :
    ReturnsQuietly (hook (auditEvent rt tenantId eventType detail metadata) >>= f) w := by
  obtain ⟨v, hhook, hv⟩ := hook_returns h
  exact .after hhook (hf v hv (hook_continues hhook))

theorem runRules_returns {runId tenantId : String} {objects : List ControlObject} {ctx : JsonDict}
    {i : ℕ} {rules : List W3ValidationRule} {w : World ValidationChainExecutor} (h : Quiet w)
    (hrules : ∀ rule ∈ rules, ∃ result, rule.validate objects w.self.graph ctx = .ok result) :
    ReturnsQuietly (runRules rt runId tenantId objects ctx i rules) w := by
  induction rules generalizing i w with
  | nil => exact ⟨[], w, rfl, h⟩
  | cons rule rules ih =>
    obtain ⟨result, hvalidate⟩ := hrules rule List.mem_cons_self
    apply ReturnsQuietly.after (run_self w)
    apply ReturnsQuietly.after (lift_ok.mpr ⟨hvalidate, rfl⟩)
    apply ReturnsQuietly.hook h
    intro v hv hcontinues
    have hrest := ih (i := i + 1) hv fun rule hrule => by
      rw [hcontinues.graph]
      exact hrules rule (List.mem_cons_of_mem _ hrule)
    obtain ⟨steps, w', hrun, hw'⟩ := hrest
    exact .after hrun ⟨_, w', rfl, hw'⟩

theorem finishBlocked_returns {run : ValidationRun} {report : ValidationReport}
    {w : World ValidationChainExecutor} (h : Quiet w) :
    ReturnsQuietly (finishBlocked rt run report) w := by
  apply ReturnsQuietly.after (run_assign _ _)
  apply ReturnsQuietly.after (run_assign _ _)
  apply ReturnsQuietly.hook
  · exact h
  intro v hv _
  apply ReturnsQuietly.hook hv
  intro v' hv' _
  exact ⟨_, v', rfl, hv'⟩

theorem finish_returns {run : ValidationRun} {report : ValidationReport}
    {w : World ValidationChainExecutor} (h : Quiet w) :
    ReturnsQuietly (finish rt run report) w := by
  have hend (v : World ValidationChainExecutor) (hv : Quiet v) : ReturnsQuietly (do
      hook (validationDecisionRecorded rt run.id run.tenantId report.decision report.reportHash)
      hook (validationRunCompleted rt run.id run.tenantId report.status report.decision)
      return (⟨{ run with report := some report, status := report.status }, report,
        report.decision⟩ : ValidationExecutionResult)) v := by
    apply ReturnsQuietly.hook hv
    intro u hu _
    apply ReturnsQuietly.hook hu
    intro u' hu' _
    exact ⟨_, u', rfl, hu'⟩
  apply ReturnsQuietly.after (run_assign _ _)
  apply ReturnsQuietly.after (run_assign _ _)
  by_cases hfailures : report.failures ≠ []
  · rw [if_pos hfailures]
    apply ReturnsQuietly.hook
    · exact h
    intro v hv _
    exact hend v hv
  · rw [if_neg hfailures]
    exact hend _ h

/-- Without listeners an execution returns when every applicable rule does. -/
theorem execute_returns {request : ValidationExecutionRequest}
    {w : World ValidationChainExecutor} (h : Quiet w)
    (hrules : ∀ rule ∈ rulesOf w.self request, ∃ result,
      rule.validate (objectsOf w.self.graph request) w.self.graph
        (buildRuleContext request.context) = .ok result) :
    ReturnsQuietly (execute rt str request) w := by
  have hchain : ∃ chainId v, (chainOf rt request).run w = .ok chainId v ∧ v.self = w.self := by
    unfold chainOf
    cases request.chainId with
    | some id => exact ⟨id, w, rfl, rfl⟩
    | none => exact ⟨_, _, rfl, rfl⟩
  obtain ⟨chainId, v, hrun, hself⟩ := hchain
  apply ReturnsQuietly.after hrun
  apply ReturnsQuietly.after (run_draw v)
  apply ReturnsQuietly.after (run_assign _ _)
  apply ReturnsQuietly.hook
  · show v.self.auditHook.listeners = []
    rw [hself]
    exact h
  intro u hu hcontinues
  have hgraph : u.self.graph = w.self.graph := hcontinues.graph.trans (congrArg (·.graph) hself)
  have hregistry : u.self.ruleRegistry = w.self.ruleRegistry :=
    hcontinues.ruleRegistry.trans (congrArg (·.ruleRegistry) hself)
  apply ReturnsQuietly.after (run_self u)
  simp only [hgraph, hregistry]
  split
  · apply ReturnsQuietly.after (run_draw u)
    exact finishBlocked_returns hu
  · have hsteps : ReturnsQuietly (runRules rt (rt.uuid4 v.env.draws) request.tenantId
        (objectsOf w.self.graph request) (buildRuleContext request.context) 0
        (rulesOf w.self request)) u := by
      apply runRules_returns hu
      rw [hgraph]
      exact hrules
    obtain ⟨steps, t, hrun, ht⟩ := hsteps
    apply ReturnsQuietly.after hrun
    apply ReturnsQuietly.after (run_draw t)
    exact finish_returns ht

end ValidationChainExecutor
end ControlFabric.Fabric.Validation
