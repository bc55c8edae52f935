import ControlFabric.Action.Lifecycle

/-! What ties a release to the validation run in its manifest. Nothing compares the tenant and the
targets of a proposal with those of the validation result it is made on. -/
namespace ControlFabric.Fabric.Action
open Lib Py Method Validation W3ActionPolicyEngine

variable {rt : Runtime} {str : Json → String}

/-! ### Where a proposal and a release come from -/

/-- What a proposal or a release says: for which tenant it is, and on which manifest. -/
structure Statement where
  actionId : String
  tenantId : String
  manifest : W3ActionEvidenceManifest

def Stated (w : World W3ActionPolicyEngine) (b : Statement) : Prop :=
  (∃ p, w.self.proposals.get? b.actionId = some p ∧ p.tenantId = b.tenantId ∧
    p.evidenceManifest = some b.manifest) ∨
  ∃ release, w.self.releases.get? b.actionId = some release ∧ release.tenantId = b.tenantId ∧
    release.evidenceManifest = b.manifest

variable (rt) in
/-- The call has proposed the action for this tenant, with this manifest. -/
def Proposes (w : World W3ActionPolicyEngine) (call : W3ActionCall) (b : Statement) : Prop :=
  call.event rt w = some (.proposed b.actionId) ∧
    ∃ actionType targetObjectIds result mode parameters description,
      call = .proposeAction b.tenantId actionType targetObjectIds result mode parameters description ∧
        b.manifest.validationRunId = some result.run.id ∧
        b.manifest.validationDecision = some result.decision ∧
        b.manifest.targetObjectIds = targetObjectIds

/-- A proposal that is changed in place keeps its tenant and its manifest. -/
theorem stated_of_changed {w : World W3ActionPolicyEngine} {b : Statement} {actionId : String}
    {p p' q : W3ActionProposal} (hstored : w.self.proposals.get? actionId = some p)
    (hq : (w.self.proposals.set actionId p').get? b.actionId = some q ∧ q.tenantId = b.tenantId ∧
      q.evidenceManifest = some b.manifest) (htenant : p'.tenantId = p.tenantId)
    (hmanifest : p'.evidenceManifest = p.evidenceManifest) : Stated w b := by
  obtain ⟨hget, hsame, hsame'⟩ := hq
  rw [Dict.get?_set] at hget
  by_cases hid : b.actionId = actionId
  · rw [if_pos hid] at hget
    obtain rfl := Option.some.inj hget
    exact Or.inl ⟨p, hid ▸ hstored, htenant ▸ hsame, hmanifest ▸ hsame'⟩
  · rw [if_neg hid] at hget
    exact Or.inl ⟨q, hget, hsame, hsame'⟩

/-- Only a proposal states anything new. -/
theorem stated_step (w : World W3ActionPolicyEngine) (call : W3ActionCall) (b : Statement)
    (h : Stated (w3Step rt str call w) b) : Stated w b ∨ Proposes rt w call b := by
  have heffect := (stepped rt str w call).effect
  unfold Stated at h
  generalize hevent : call.event rt w = e at heffect
  generalize (w3Step rt str call w).self.proposals = proposals at heffect h
  generalize (w3Step rt str call w).self.releases = releases at heffect h
  cases heffect with
  | refused _ => exact Or.inl h
  | @proposed tenantId actionType targetObjectIds result mode parameters description _ =>
    rcases h with ⟨q, hget, htenant, hmanifest⟩ | hrelease
    · rw [Dict.get?_set] at hget
      by_cases hid : b.actionId = rt.uuid4 w.env.draws
      · rw [if_pos hid] at hget
        obtain rfl := Option.some.inj hget
        rw [← hid] at hevent
        refine Or.inr ⟨hevent, actionType, targetObjectIds, result, mode, parameters, description, ?_⟩
        rw [← htenant, ← Option.some.inj hmanifest]
        exact ⟨rfl, rfl, rfl, rfl⟩
      · rw [if_neg hid] at hget
        exact Or.inl (Or.inl ⟨q, hget, htenant, hmanifest⟩)
    · exact Or.inl (Or.inr hrelease)
  | approved hstored _ | rejected hstored =>
    rcases h with ⟨q, hq⟩ | hrelease
    · exact Or.inl (stated_of_changed hstored hq rfl rfl)
    · exact Or.inl (Or.inr hrelease)
  | @released actionId _ p manifest release _ hstored _ hmanifest htenant hrelease =>
    rcases h with ⟨q, hq⟩ | ⟨release', hget, hsame, hsame'⟩
    · exact Or.inl (stated_of_changed hstored hq rfl rfl)
    · rw [Dict.get?_set] at hget
      by_cases hid : b.actionId = actionId
      · rw [if_pos hid] at hget
        obtain rfl := Option.some.inj hget
        refine Or.inl (Or.inl ⟨p, hid ▸ hstored, htenant ▸ hsame, ?_⟩)
        rw [hmanifest, ← hrelease, hsame']
      · rw [if_neg hid] at hget
        exact Or.inl (Or.inr ⟨release', hget, hsame, hsame'⟩)

variable (rt str) in
/-- Every release stems from a proposal. -/
theorem release_proposed (graph : InMemoryGraphRepository) (policy : W3ActionPolicy)
    (listeners : List FabricAuditListener) (env : Env) {calls : List W3ActionCall}
    {actionId : String} {release : W3ActionRelease}
    (h : (w3Run rt str ⟨.new graph policy listeners, env⟩ calls).self.releases.get? actionId =
      some release) :
    ∃ before call after, calls = before ++ call :: after ∧
      Proposes rt (w3Run rt str ⟨.new graph policy listeners, env⟩ before) call
        ⟨actionId, release.tenantId, release.evidenceManifest⟩ := by
  apply origin_run (w3Step rt str) (K := fun _ => True) (H := Stated) (Q := Proposes rt)
    (fun _ _ _ => trivial) (fun w call b _ => stated_step w call b) trivial
  · rintro b (⟨p, hp, -⟩ | ⟨release, hrelease, -⟩)
    · cases hp
    · cases hrelease
  · exact Or.inr ⟨release, h, rfl, rfl⟩

theorem policy_run (graph : InMemoryGraphRepository) (policy : W3ActionPolicy)
    (listeners : List FabricAuditListener) (env : Env) (calls : List W3ActionCall) :
    (w3Run rt str ⟨.new graph policy listeners, env⟩ calls).self.policy = policy := by
  apply run_invariant (w3Step rt str) (I := fun w => w.self.policy = policy)
  · intro call _ w hw
    exact (stepped rt str w call).policy.trans hw
  · rfl

/-- What the policy admits is what it allows. -/
theorem allowed_of_event {w : World W3ActionPolicyEngine} {actionId tenantId : String}
    {actionType : W3ActionType} {targetObjectIds : List String} {result : ValidationExecutionResult}
    {mode : W3ActionExecutionMode} {parameters : Option JsonDict} {description : String}
    (hpolicy : w.self.policy = {})
    (hevent : (W3ActionCall.proposeAction tenantId actionType targetObjectIds result mode parameters
      description).event rt w = some (.proposed actionId)) :
    result.decision ∈ ({} : W3ActionPolicy).allowedDecisionsForRelease := by
  by_cases hadmits : admits w.self targetObjectIds result = true
  · simp only [admits, hpolicy, decide_eq_true_iff] at hadmits
    by_contra hdecision
    exact hadmits.1 ⟨trivial, hdecision⟩
  · simp [W3ActionCall.event, hadmits] at hevent

/-! ### The binding of a release -/

/-- A proposal is made for the tenant of the validation run, on targets of that run. -/
def W3ActionCall.Matches : W3ActionCall → Prop
  | proposeAction tenantId _ targetObjectIds result _ _ _ =>
    tenantId = result.run.tenantId ∧
      ∀ id ∈ targetObjectIds, id ∈ result.run.context.target.objectIds
  | approveAction _ _ | rejectAction _ _ | releaseAction _ _ | graphChanged _ => True

/-- The validation result the call makes a proposal on. -/
def W3ActionCall.validationResult : W3ActionCall → Option ValidationExecutionResult
  | proposeAction _ _ _ result _ _ _ => some result
  | approveAction _ _ | rejectAction _ _ | releaseAction _ _ | graphChanged _ => none

/-- The manifest of the release cites the run, whose tenant and targets are those of the release,
and whose decision is an allowed one. -/
structure BoundTo (release : W3ActionRelease) (result : ValidationExecutionResult) : Prop where
  runId : release.evidenceManifest.validationRunId = some result.run.id
  decision : release.evidenceManifest.validationDecision = some result.decision
  tenantId : release.tenantId = result.run.tenantId
  targets : ∀ id ∈ release.evidenceManifest.targetObjectIds,
    id ∈ result.run.context.target.objectIds
  allowed : result.decision ∈ ({} : W3ActionPolicy).allowedDecisionsForRelease

variable (rt str) in
/-- Every release there is at some time of the run is bound to the result its action has been
proposed on. -/
def ReleasesBound (w₀ : World W3ActionPolicyEngine) (calls : List W3ActionCall) : Prop :=
  ∀ pre, pre <+: calls → ∀ actionId release,
    (w3Run rt str w₀ pre).self.releases.get? actionId = some release →
      ∃ before call after result, pre = before ++ call :: after ∧
        call.event rt (w3Run rt str w₀ before) = some (.proposed actionId) ∧
        call.validationResult = some result ∧ BoundTo release result

/-- Under the default policy releases are bound as long as proposals match the results they are made
on. -/
theorem releases_bound_of_matches (graph : InMemoryGraphRepository)
    (listeners : List FabricAuditListener) (env : Env) (calls : List W3ActionCall)
    (hmatches : ∀ call ∈ calls, call.Matches) :
    ReleasesBound rt str ⟨.new graph {} listeners, env⟩ calls := by
  intro pre hpre actionId release hrelease
  obtain ⟨before, call, after, hsplit, hevent, actionType, targetObjectIds, result, mode, parameters,
    description, rfl, hrunId, hdecision, htargets⟩ :=
    release_proposed rt str graph {} listeners env hrelease
  have hcall := hpre.subset (show _ ∈ pre by
    rw [hsplit]; exact List.mem_append_right _ List.mem_cons_self)
  obtain ⟨htenant, hsubset⟩ := hmatches _ hcall
  refine ⟨before, _, after, result, hsplit, hevent, rfl, hrunId, hdecision, htenant, ?_, ?_⟩
  · rwa [htargets]
  · exact allowed_of_event (policy_run graph {} listeners env before) hevent

theorem releases_bound_gated :
    ReleasesBound .reference (fun _ => "") obligationEngine gatedRelease ∧
      (w3Run .reference (fun _ => "") obligationEngine gatedRelease).self.releases.keys =
        [firstAction] := by
  refine ⟨releases_bound_of_matches _ _ _ gatedRelease ?_, by decide +kernel⟩
  simp [gatedRelease, W3ActionCall.Matches, obligationResult, requestOf]

/-! ### A release for another tenant -/

/-- The action is proposed for another tenant than that of the result. -/
def strayProposal (result : ValidationExecutionResult) : W3ActionCall :=
  .proposeAction "umbrella" .creditNote ["obligation"] result .deterministicAutoRelease none ""

theorem deterministicHash_ne_empty (str : Json → String) (data : JsonDict) :
    deterministicHash .reference str data ≠ "" := by
  intro h
  have hempty := Runtime.reference_digest.injective
    (h.trans (show "" = Runtime.reference.sha256 "" from rfl))
  have htext : dumps str (.obj data) = [] := String.ofList_injective hempty
  rw [dumps, dumpsRow] at htext
  cases htext

/-- A result that is eligible and hashed is admitted for whatever tenant. -/
theorem strayProposal_admitted {result : ValidationExecutionResult}
    (hdecision : result.decision = .eligible) (hhash : result.report.reportHash ≠ "") :
    admits obligationEngine.self ["obligation"] result = true := by
  have hevidence : ¬ (obligationEngine.self.policy.requireEvidence ∧
      (((resolveObjects obligationEngine.self.graph ["obligation"]).flatMap
        ControlObject.evidence).length : ℤ) < obligationEngine.self.policy.minEvidenceCount) := by
    decide
  simp only [admits, hevidence, hhash, hdecision]
  decide

/-- The release of the proposal that is stored. -/
theorem released_of_stored {w : World W3ActionPolicyEngine} {actionId : String}
    {p : W3ActionProposal} {manifest : W3ActionEvidenceManifest} (hstored : stored w actionId = some p)
    (hreleasable : p.isReleasable = true) (hmanifest : p.evidenceManifest = some manifest) :
    ∃ release, (w3Step rt str (.releaseAction actionId "bob") w).self.releases.get? actionId =
      some release ∧ release.tenantId = p.tenantId := by
  have heffect := (stepped rt str w (.releaseAction actionId "bob")).effect
  have hevent : (W3ActionCall.releaseAction actionId "bob").event rt w =
      some (.released actionId) := by
    simp [W3ActionCall.event, hstored, hreleasable, hmanifest]
  rw [hevent] at heffect
  generalize (w3Step rt str (.releaseAction actionId "bob") w).self.proposals = proposals at heffect
  generalize (w3Step rt str (.releaseAction actionId "bob") w).self.releases = releases at heffect ⊢
  cases heffect with
  | @released _ _ p' _ release _ hstored' _ _ htenant _ =>
    obtain rfl : p' = p := Option.some.inj (hstored'.symm.trans hstored)
    exact ⟨release, Dict.get?_set_self _ _ _, htenant⟩

theorem strayRelease_unbound : ∃ result w',
    (ValidationChainExecutor.execute .reference (fun _ => "") partialRequest).run defaultExecutor =
        .ok result w' ∧
      ¬ ReleasesBound .reference (fun _ => "") obligationEngine
        [strayProposal result, .releaseAction firstAction "bob"] := by
  obtain ⟨result, w', hrun, -⟩ := partialRequest_returns
  obtain ⟨n, -, -, hexecuted⟩ := ValidationChainExecutor.execute_ok hrun
  have hdecision := partialRequest_decision hexecuted
  have hhash : result.report.reportHash ≠ "" := by
    rw [hexecuted.hash.2]
    exact deterministicHash_ne_empty _ _
  have hadmits := strayProposal_admitted hdecision hhash
  refine ⟨result, w', hrun, ?_⟩
  have heffect := (stepped .reference (fun _ => "") obligationEngine (strayProposal result)).effect
  rw [strayProposal, W3ActionCall.event, if_pos hadmits] at heffect
  have hstored : ∃ p, stored (w3Step .reference (fun _ => "") (strayProposal result) obligationEngine)
      firstAction = some p ∧ p.isReleasable = true ∧ p.evidenceManifest.isSome = true ∧
        p.tenantId = "umbrella" := by
    unfold stored strayProposal
    generalize (w3Step _ _ _ obligationEngine).self.proposals = proposals at heffect ⊢
    generalize (w3Step _ _ _ obligationEngine).self.releases = releases at heffect
    cases heffect with
    | proposed _ =>
      refine ⟨_, Dict.get?_set_self _ _ _, ?_, rfl, rfl⟩
      apply W3ActionProposal.isReleasable_iff.mpr
      exact ⟨congrArg some hdecision, Or.inr ⟨rfl, rfl⟩⟩
  obtain ⟨p, hstored, hreleasable, hmanifest, htenant⟩ := hstored
  obtain ⟨manifest, hmanifest⟩ := Option.isSome_iff_exists.mp hmanifest
  obtain ⟨release, hrelease, hsame⟩ := released_of_stored hstored hreleasable hmanifest
  intro hbound
  obtain ⟨before, call, after, cited, hsplit, -, hcited, h⟩ :=
    hbound _ (List.prefix_refl _) firstAction release hrelease
  have hcall : call ∈ [strayProposal result, .releaseAction firstAction "bob"] := by simp [hsplit]
  rcases List.mem_cons.mp hcall with rfl | hcall
  · obtain rfl := Option.some.inj hcited
    have hstray : "umbrella" = "acme" :=
      calc "umbrella" = release.tenantId := (hsame.trans htenant).symm
        _ = result.run.tenantId := h.tenantId
        _ = "acme" := hexecuted.run_tenantId
    exact absurd hstray (by decide)
  · rw [List.mem_singleton.mp hcall] at hcited
    cases hcited

end ControlFabric.Fabric.Action
