import ControlFabric.Action.PolicySteps
import ControlFabric.Validation.Eligible

/-! Hashes of validation reports and of proposals on them. The identifier of the run, which is drawn
anew by every execution, is part of what is hashed. -/
namespace ControlFabric.Fabric.Action
open Lib Py Method Validation ValidationChainExecutor W3ActionPolicyEngine

variable {rt : Runtime} {str : Json → String}

/-! ### What is hashed, in the order of its keys -/

theorem deterministicHash_inj (hdigest : rt.Digest) {data data' : JsonDict}
    (h : deterministicHash rt str data = deterministicHash rt str data') :
    dumps str (.obj data) = dumps str (.obj data') :=
  String.ofList_injective (hdigest.injective h)

/-- The fields of a report before its run and behind it. -/
def fieldsBeforeRun (report : ValidationReport) : JsonDict :=
  [("chain_id", .str report.chainId), ("decision", .str report.decision.value),
    ("failures", .arr (report.failures.map fun f =>
      .obj [("code", .str f.code.value), ("description", .str f.description)]))]

def fieldsAfterRun (report : ValidationReport) : JsonDict :=
  [("status", .str report.status.value),
    ("steps", .arr (report.steps.map fun s =>
      .obj [("rule_id", .str s.ruleId),
        ("passed", .bool (s.result.elim false ValidationResult.passed))]))]

theorem perm_of_six {α : Type} (a b c d e f : α) : [a, b, c, d, e, f].Perm [b, d, e, a, c, f] := by
  classical
  rw [List.perm_iff_count]
  intro x
  simp only [List.count_cons, List.count_nil]
  omega

theorem perm_of_five {α : Type} (a b c d e : α) : [a, b, c, d, e].Perm [a, e, d, b, c] := by
  classical
  rw [List.perm_iff_count]
  intro x
  simp only [List.count_cons, List.count_nil]
  omega

theorem report_perm (report : ValidationReport) : report.hashData.Perm
    (fieldsBeforeRun report ++ ("run_id", .str report.runId) :: fieldsAfterRun report) :=
  perm_of_six _ _ _ _ _ _

theorem report_sorted (report : ValidationReport) :
    (fieldsBeforeRun report ++ ("run_id", .str report.runId) :: fieldsAfterRun report).Pairwise
      fun p q => p.1 < q.1 := by
  have hkeys : ["chain_id", "decision", "failures", "run_id", "status", "steps"].Pairwise (· < ·) := by
    decide +kernel
  exact List.pairwise_map.mp hkeys

/-- The fields of a proposal before the hash of its report and behind it. -/
def fieldsBeforeReport (proposal : W3ActionProposal) : JsonDict :=
  [("action_type", .str proposal.actionType.value), ("parameters", .obj proposal.parameters)]

def fieldsAfterReport (proposal : W3ActionProposal) : JsonDict :=
  [("target_object_ids", .arr ((sorted proposal.targetObjectIds).map .str)),
    ("validation_decision", .str (decisionText proposal.validationDecision))]

theorem proposal_perm (proposal : W3ActionProposal) : proposal.hashData.Perm
    (fieldsBeforeReport proposal ++
      ("report_hash", .str proposal.reportHash) :: fieldsAfterReport proposal) :=
  perm_of_five _ _ _ _ _

theorem proposal_sorted (proposal : W3ActionProposal) :
    (fieldsBeforeReport proposal ++
      ("report_hash", .str proposal.reportHash) :: fieldsAfterReport proposal).Pairwise
        fun p q => p.1 < q.1 := by
  have hkeys : ["action_type", "parameters", "report_hash", "target_object_ids",
      "validation_decision"].Pairwise (· < ·) := by
    decide +kernel
  exact List.pairwise_map.mp hkeys

/-! ### Hashes of two executions -/

/-- Reports with the same hash, which agree in what comes before the run, are about the same run. -/
theorem runId_of_hash (hdigest : rt.Digest) {report report' : ValidationReport}
    (hdecision : report.decision = report'.decision) (hfailures : report.failures = report'.failures)
    (h : deterministicHash rt str report.hashData = deterministicHash rt str report'.hashData) :
    report.runId = report'.runId := by
  have hdumps := deterministicHash_inj hdigest h
  have hchain : report.chainId = report'.chainId :=
    str_field_inj (b := []) (report_perm report) (report_sorted report) (report_perm report')
      (report_sorted report') hdumps
  have hbefore : fieldsBeforeRun report' = fieldsBeforeRun report := by
    simp only [fieldsBeforeRun, hchain, hdecision, hfailures]
  have hperm' := report_perm report'
  have hsorted' := report_sorted report'
  rw [hbefore] at hperm' hsorted'
  exact str_field_inj (report_perm report) (report_sorted report) hperm' hsorted' hdumps

/-- Rules that are run on the same objects report the same. -/
theorem results_unique {objects : List ControlObject} {graph : InMemoryGraphRepository}
    {ctx : JsonDict} {rules : List W3ValidationRule} {steps steps' : List ValidationStep}
    (h : List.Forall₂ (Ran objects graph ctx) rules steps)
    (h' : List.Forall₂ (Ran objects graph ctx) rules steps') :
    steps.map ValidationStep.result = steps'.map ValidationStep.result := by
  induction h generalizing steps' with
  | nil =>
    cases h'
    rfl
  | @cons rule step rules steps hran _ ih =>
    cases h' with
    | @cons _ step' _ steps' hran' hrest =>
      obtain ⟨-, result, hvalidate, hresult⟩ := hran
      obtain ⟨-, result', hvalidate', hresult'⟩ := hran'
      have hsame : result = result' := Except.ok.inj (hvalidate.symm.trans hvalidate')
      rw [List.map_cons, List.map_cons, hresult, hresult', hsame, ih hrest]

variable {e : ValidationChainExecutor} {request : ValidationExecutionRequest} {runId runId' : String}
  {r r' : ValidationExecutionResult}

/-- Executions on the same graph decide the same, on the same failures. -/
theorem executed_agree (h : Executed rt str e request runId r)
    (h' : Executed rt str e request runId' r') :
    r.report.decision = r'.report.decision ∧ r.report.failures = r'.report.failures := by
  obtain ⟨id, chainId, hreport⟩ := h.report
  obtain ⟨id', chainId', hreport'⟩ := h'.report
  rcases hreport with ⟨hempty, hreport⟩ | ⟨hne, steps, hsteps, hreport⟩
  · rcases hreport' with ⟨-, hreport'⟩ | ⟨hne, -⟩
    · rw [hreport, hreport']
      exact ⟨rfl, rfl⟩
    · exact absurd hempty hne
  · rcases hreport' with ⟨hempty, -⟩ | ⟨-, steps', hsteps', hreport'⟩
    · exact absurd hempty hne
    · have hresults := results_unique hsteps hsteps'
      have hmap {α : Type} (f : Option ValidationResult → List α) :
          steps.flatMap (fun s => f s.result) = steps'.flatMap fun s => f s.result := by
        have hboth := congrArg (List.flatMap f) hresults
        rwa [List.flatMap_map, List.flatMap_map] at hboth
      have hfailures : steps.flatMap ValidationStep.failures =
          steps'.flatMap ValidationStep.failures :=
        hmap fun result => result.elim [] ValidationResult.failures
      have hwarnings : steps.flatMap ValidationStep.warnings =
          steps'.flatMap ValidationStep.warnings :=
        hmap fun result => result.elim [] ValidationResult.warnings
      rw [hreport, hreport']
      constructor
      · show determineDecision _ (determineStatus _ _) _ = determineDecision _ (determineStatus _ _) _
        rw [hfailures, hwarnings]
      · exact hfailures

/-- Executions with different runs have different reports. -/
theorem reportHash_ne (hdigest : rt.Digest) (h : Executed rt str e request runId r)
    (h' : Executed rt str e request runId' r') (hne : runId ≠ runId') :
    r.report.reportHash ≠ r'.report.reportHash := by
  intro hhash
  obtain ⟨hdecision, hfailures⟩ := executed_agree h h'
  rw [h.hash.2, h'.hash.2] at hhash
  have hrun := runId_of_hash hdigest hdecision hfailures hhash
  rw [h.hash.1, h'.hash.1] at hrun
  exact hne hrun

/-! ### Hashes of two proposals -/

theorem proposeAction_ok {tenantId : String} {actionType : W3ActionType}
    {targetObjectIds : List String} {mode : W3ActionExecutionMode} {parameters : Option JsonDict}
    {description : String} {u u' : World W3ActionPolicyEngine} {p : W3ActionProposal}
    (h : (proposeAction rt str tenantId actionType targetObjectIds r mode parameters
      description).run u = .ok p u') :
    p.decisionHash = deterministicHash rt str p.hashData ∧ p.actionType = actionType ∧
      p.parameters = parameters.getD [] ∧ p.reportHash = r.report.reportHash := by
  obtain ⟨e, v, hself, h⟩ := bind_ok.mp h
  simp only [run_self, EStateM.Result.ok.injEq] at hself
  obtain ⟨rfl, rfl⟩ := hself
  dsimp only at h
  split at h
  · cases h
  split at h
  · cases h
  split at h
  · cases h
  obtain ⟨n, v, -, h⟩ := bind_ok.mp h
  obtain ⟨_, v, -, h⟩ := bind_ok.mp h
  obtain ⟨_, v, -, h⟩ := bind_ok.mp h
  simp only [run_pure, EStateM.Result.ok.injEq] at h
  rw [← h.1]
  exact ⟨rfl, rfl, rfl, rfl⟩

/-- Proposals of one action with the same hash are made on reports with the same hash. -/
theorem reportHash_of_hash (hdigest : rt.Digest) {p p' : W3ActionProposal}
    (haction : p.actionType = p'.actionType) (hparameters : p.parameters = p'.parameters)
    (h : deterministicHash rt str p.hashData = deterministicHash rt str p'.hashData) :
    p.reportHash = p'.reportHash := by
  have hbefore : fieldsBeforeReport p' = fieldsBeforeReport p := by
    simp only [fieldsBeforeReport, haction, hparameters]
  have hperm' := proposal_perm p'
  have hsorted' := proposal_sorted p'
  rw [hbefore] at hperm' hsorted'
  exact str_field_inj (proposal_perm p) (proposal_sorted p) hperm' hsorted'
    (deterministicHash_inj hdigest h)

/-! ### Nothing is reproducible -/

/-- Two executions on the same graph and request, the second later than the first, never have
reports with the same hash, and no two proposals made from them with the same arguments have the
same. -/
theorem hashes_never_agree (hdigest : rt.Digest) {w w' v v' : World ValidationChainExecutor}
    (hgraph : v.self.graph = w.self.graph) (hrules : v.self.ruleRegistry = w.self.ruleRegistry)
    (hpolicy : v.self.decisionPolicy = w.self.decisionPolicy)
    (hrun : (execute rt str request).run w = .ok r w')
    (hrun' : (execute rt str request).run v = .ok r' v') (hlater : w'.env.draws ≤ v.env.draws)
    (huuid : Set.InjOn rt.uuid4 (Set.Iio v'.env.draws)) :
    r.report.reportHash ≠ r'.report.reportHash ∧
      ∀ tenantId actionType targetObjectIds mode parameters description u u₁ u' u₁' p p',
        (proposeAction rt str tenantId actionType targetObjectIds r mode parameters
          description).run u = .ok p u₁ →
        (proposeAction rt str tenantId actionType targetObjectIds r' mode parameters
          description).run u' = .ok p' u₁' →
        p.decisionHash ≠ p'.decisionHash := by
  obtain ⟨n, -, hn, h⟩ := execute_ok hrun
  obtain ⟨m, hm, hend, h'⟩ := execute_ok hrun'
  have hsame : Executed rt str w.self request (rt.uuid4 m) r' := by
    obtain ⟨hid, htenant, hcontext, hdecision, hreport⟩ := h'
    refine ⟨hid, htenant, hcontext, hdecision, ?_⟩
    simpa only [rulesOf, hgraph, hrules, hpolicy] using hreport
  have hruns : rt.uuid4 n ≠ rt.uuid4 m := by
    intro hid
    have hnm : n = m := huuid (Set.mem_Iio.mpr (by omega)) (Set.mem_Iio.mpr hend) hid
    omega
  have hreports := reportHash_ne hdigest h hsame hruns
  refine ⟨hreports, ?_⟩
  intro tenantId actionType targetObjectIds mode parameters description u u₁ u' u₁' p p' hp hp' hhash
  obtain ⟨hdecision, haction, hparameters, hreport⟩ := proposeAction_ok hp
  obtain ⟨hdecision', haction', hparameters', hreport'⟩ := proposeAction_ok hp'
  rw [hdecision, hdecision'] at hhash
  have hsame := reportHash_of_hash hdigest (haction.trans haction'.symm)
    (hparameters.trans hparameters'.symm) hhash
  rw [hreport, hreport'] at hsame
  exact hreports hsame

/-- The reference runtime, with identifiers that go on without end. -/
def endless : Runtime :=
  { Runtime.reference with
    uuid4 := fun n => "00000000-0000-4000-8000-" ++
      String.ofList (hex 12 (n % 16 ^ 12) ++ List.replicate (n / 16 ^ 12) '0') }

theorem endless_uuid4 : Function.Injective endless.uuid4 := by
  intro n m h
  have htail := String.ofList_injective ((String.append_right_inj _).mp h)
  obtain ⟨hmod, hdiv⟩ := List.append_inj htail (by simp [hex])
  have hmods : n % 16 ^ 12 = m % 16 ^ 12 :=
    hex_inj (Nat.mod_lt _ (by decide)) (Nat.mod_lt _ (by decide)) hmod
  have hdivs : n / 16 ^ 12 = m / 16 ^ 12 := by simpa using congrArg List.length hdiv
  rw [← Nat.div_add_mod n (16 ^ 12), ← Nat.div_add_mod m (16 ^ 12), hmods, hdivs]

theorem endless_digest : endless.Digest :=
  ⟨Runtime.reference_digest.injective, Runtime.reference_digest.hex⟩

/-- The request is executed a second time, by another executor over the same graph. -/
theorem partialRequest_twice : ∃ r w' r' v',
    (execute endless (fun _ => "") partialRequest).run defaultExecutor = .ok r w' ∧
      (execute endless (fun _ => "") partialRequest).run ⟨defaultExecutor.self, w'.env⟩ =
        .ok r' v' := by
  obtain ⟨r, w', hrun, -⟩ := partialRequest_passed.returns endless (fun _ => "")
    (w := defaultExecutor) rfl
  obtain ⟨r', v', hrun', -⟩ := partialRequest_passed.returns endless (fun _ => "")
    (w := ⟨defaultExecutor.self, w'.env⟩) rfl
  exact ⟨r, w', r', v', hrun, hrun'⟩

theorem hashes_never_agree_partial : ∃ r w' r' v',
    (execute endless (fun _ => "") partialRequest).run defaultExecutor = .ok r w' ∧
      (execute endless (fun _ => "") partialRequest).run ⟨defaultExecutor.self, w'.env⟩ =
        .ok r' v' ∧
      r.report.reportHash ≠ r'.report.reportHash := by
  obtain ⟨r, w', r', v', hrun, hrun'⟩ := partialRequest_twice
  have hnever := hashes_never_agree (w := defaultExecutor) (v := ⟨defaultExecutor.self, w'.env⟩)
    endless_digest rfl rfl rfl hrun hrun' le_rfl endless_uuid4.injOn
  exact ⟨r, w', r', v', hrun, hrun', hnever.1⟩

/-- Two executions of one request on one graph with different report hashes. -/
theorem partialRequest_irreproducible : ¬ ∀ r w' r' v',
    (execute endless (fun _ => "") partialRequest).run defaultExecutor = .ok r w' →
      (execute endless (fun _ => "") partialRequest).run ⟨defaultExecutor.self, w'.env⟩ =
        .ok r' v' →
      r.report.reportHash = r'.report.reportHash := by
  intro hsame
  obtain ⟨r, w', r', v', hrun, hrun'⟩ := partialRequest_twice
  obtain ⟨n, -, hn, h⟩ := execute_ok hrun
  obtain ⟨m, hm, -, h'⟩ := execute_ok hrun'
  have hruns : endless.uuid4 n ≠ endless.uuid4 m := by
    intro hid
    have hnm := endless_uuid4 hid
    dsimp only at hm
    omega
  exact reportHash_ne endless_digest h h' hruns (hsame r w' r' v' hrun hrun')

end ControlFabric.Fabric.Action
