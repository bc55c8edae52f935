import ControlFabric.Action.PolicyEngine

/-! What one call does to the proposals and the releases of an action policy engine. -/
namespace ControlFabric.Fabric.Action
open Lib Lifecycle Py Method Validation W3ActionPolicyEngine

/-- The checks of the policy on a validation result and the evidence of the targets. -/
def admits (e : W3ActionPolicyEngine) (targetObjectIds : List String)
    (result : ValidationExecutionResult) : Bool :=
  ¬ (e.policy.requireValidationPass ∧
      result.decision ∉ e.policy.allowedDecisionsForRelease) ∧
    ¬ (e.policy.requireEvidence ∧
      ((resolveObjects e.graph targetObjectIds).flatMap ControlObject.evidence).length <
        e.policy.minEvidenceCount) ∧
    ¬ (e.policy.requireReportHash ∧ result.report.reportHash = "")

/-- The proposal a call is about. -/
def stored (w : World W3ActionPolicyEngine) (actionId : String) : Option W3ActionProposal :=
  w.self.proposals.get? actionId

/-- What a call goes on to do once its checks are passed. -/
def W3ActionCall.event (rt : Runtime) (w : World W3ActionPolicyEngine) :
    W3ActionCall → Option (Event String)
  | proposeAction _ _ targetObjectIds result _ _ _ =>
    if admits w.self targetObjectIds result then some (.proposed (rt.uuid4 w.env.draws)) else none
  | approveAction actionId _ =>
    if (stored w actionId).any fun p => p.executionMode = .approvalGated then
      some (.approved actionId) else none
  | rejectAction actionId _ => if (stored w actionId).isSome then some (.rejected actionId) else none
  | releaseAction actionId _ =>
    if (stored w actionId).any fun p => p.isReleasable ∧ p.evidenceManifest.isSome then
      some (.released actionId) else none
  | graphChanged _ => none

/-- What a call leaves of the proposals and the releases, by what it goes on to do. -/
inductive W3Effect (rt : Runtime) (str : Json → String) (w : World W3ActionPolicyEngine) :
    W3ActionCall → Option (Event String) → Dict String W3ActionProposal →
      Dict String W3ActionRelease → Prop
  | refused (call : W3ActionCall) : W3Effect rt str w call none w.self.proposals w.self.releases
  | proposed {tenantId : String} {actionType : W3ActionType} {targetObjectIds : List String}
      {result : ValidationExecutionResult} {mode : W3ActionExecutionMode}
      {parameters : Option JsonDict} {description : String}
      (h : admits w.self targetObjectIds result = true) :
      W3Effect rt str w
        (.proposeAction tenantId actionType targetObjectIds result mode parameters description)
        (some (.proposed (rt.uuid4 w.env.draws)))
        (w.self.proposals.set (rt.uuid4 w.env.draws)
          (newProposal rt str (rt.uuid4 w.env.draws) tenantId actionType targetObjectIds result mode
            parameters description
            ((resolveObjects w.self.graph targetObjectIds).flatMap ControlObject.evidence)))
        w.self.releases
  | approved {actionId approver : String} {p : W3ActionProposal}
      (hstored : stored w actionId = some p) (hmode : p.executionMode = .approvalGated) :
      W3Effect rt str w (.approveAction actionId approver) (some (.approved actionId))
        (w.self.proposals.set actionId { p with status := .approved, approvedBy := some approver })
        w.self.releases
  | rejected {actionId reason : String} {p : W3ActionProposal}
      (hstored : stored w actionId = some p) :
      W3Effect rt str w (.rejectAction actionId reason) (some (.rejected actionId))
        (w.self.proposals.set actionId
          { p with status := .rejected, rejectedReason := some reason })
        w.self.releases
  | released {actionId actor : String} {p : W3ActionProposal} {manifest : W3ActionEvidenceManifest}
      {release : W3ActionRelease} {releasedAt : DateTime}
      (hstored : stored w actionId = some p) (hreleasable : p.isReleasable = true)
      (hmanifest : p.evidenceManifest = some manifest) (htenant : release.tenantId = p.tenantId)
      (hrelease : release.evidenceManifest = manifest) :
      W3Effect rt str w (.releaseAction actionId actor) (some (.released actionId))
        (w.self.proposals.set actionId
          { p with status := .released, releasedAt := some releasedAt })
        (w.self.releases.set actionId release)

section Steps
variable {rt : Runtime} {str : Json → String} {w : World W3ActionPolicyEngine}

/-- The engine as given, but for its audit log, and draws that have gone on. -/
structure Settles (e : W3ActionPolicyEngine) (n : ℕ) (w' : World W3ActionPolicyEngine) : Prop where
  proposals : w'.self.proposals = e.proposals
  releases : w'.self.releases = e.releases
  graph : w'.self.graph = e.graph
  policy : w'.self.policy = e.policy
  draws : n ≤ w'.env.draws

/-- An event is logged whether a listener objects to it or not. -/
theorem emit_settles (eventType : FabricAuditEventType) (tenantId detail : String)
    (metadata : JsonDict) (w : World W3ActionPolicyEngine) :
    Settles w.self w.env.draws ((emit rt eventType tenantId detail metadata).after w) := by
  rw [emit, after_on]
  refine ⟨rfl, rfl, rfl, rfl, ?_⟩
  rw [FabricAuditHook.emit_draws]
  exact Nat.le_succ _

/-- The end of an operation that changes the engine, logs an event and returns. -/
theorem announced_settles {α : Type} (f : W3ActionPolicyEngine → W3ActionPolicyEngine)
    (eventType : FabricAuditEventType) (tenantId detail : String) (metadata : JsonDict) (a : α) :
    Settles (f w.self) w.env.draws ((do
      assign f
      emit rt eventType tenantId detail metadata
      return a : Method W3ActionPolicyEngine α).after w) := by
  rw [after_bind, run_assign]
  show Settles _ _ ((emit rt eventType tenantId detail metadata >>= fun _ => pure a).after _)
  rw [after_bind_pure (f := fun _ => a)]
  exact emit_settles eventType tenantId detail metadata ⟨f w.self, w.env⟩

variable (rt str w) in
/-- A call has its effect, keeps the policy, and draws what it names. -/
structure Stepped (call : W3ActionCall) (w' : World W3ActionPolicyEngine) : Prop where
  effect : W3Effect rt str w call (call.event rt w) w'.self.proposals w'.self.releases
  policy : w'.self.policy = w.self.policy
  draws : w.env.draws ≤ w'.env.draws
  drawn : ∀ a, call.event rt w = some (.proposed a) → w.env.draws < w'.env.draws

theorem stepped_refused {call : W3ActionCall} (h : call.event rt w = none) :
    Stepped rt str w call w where
  effect := by
    rw [h]
    exact .refused call
  policy := rfl
  draws := le_rfl
  drawn a ha := by simp [h] at ha

/-- A proposal that is not stored ends the call. -/
theorem withProposal_none {α : Type} {actionId : String}
    {f : W3ActionProposal → Method W3ActionPolicyEngine α} (h : stored w actionId = none) :
    (withProposal actionId f).after w = w := by
  rw [withProposal, after_bind_ok (run_self w)]
  simp only [show w.self.proposals.get? actionId = none from h]
  rfl

theorem withProposal_some {α : Type} {actionId : String} {p : W3ActionProposal}
    {f : W3ActionProposal → Method W3ActionPolicyEngine α} (h : stored w actionId = some p) :
    (withProposal actionId f).after w = (f p).after w := by
  rw [withProposal, after_bind_ok (run_self w)]
  simp only [show w.self.proposals.get? actionId = some p from h]

theorem Settles.stepped {call : W3ActionCall} {e : W3ActionPolicyEngine} {n : ℕ}
    {w' : World W3ActionPolicyEngine} (h : Settles e n w')
    (heffect : W3Effect rt str w call (call.event rt w) e.proposals e.releases)
    (hpolicy : e.policy = w.self.policy) (hdraws : w.env.draws ≤ n)
    (hdrawn : ∀ a, call.event rt w = some (.proposed a) → w.env.draws < n) :
    Stepped rt str w call w' where
  effect := by rwa [h.proposals, h.releases]
  policy := h.policy.trans hpolicy
  draws := hdraws.trans h.draws
  drawn a ha := lt_of_lt_of_le (hdrawn a ha) h.draws

theorem stepped_proposeAction (tenantId : String) (actionType : W3ActionType)
    (targetObjectIds : List String) (result : ValidationExecutionResult)
    (mode : W3ActionExecutionMode) (parameters : Option JsonDict) (description : String) :
    Stepped rt str w
      (.proposeAction tenantId actionType targetObjectIds result mode parameters description)
      ((proposeAction rt str tenantId actionType targetObjectIds result mode parameters
        description).after w) := by
  rw [proposeAction, after_bind_ok (run_self w)]
  have hrefused (hadmits : ¬ admits w.self targetObjectIds result = true) (e : PyError) :
      Stepped rt str w
        (.proposeAction tenantId actionType targetObjectIds result mode parameters description)
        ((raise e : Method W3ActionPolicyEngine W3ActionProposal).after w) :=
    stepped_refused (if_neg hadmits)
  dsimp only
  by_cases hdecision : w.self.policy.requireValidationPass ∧
      result.decision ∉ w.self.policy.allowedDecisionsForRelease
  · rw [if_pos hdecision]
    exact hrefused (by simp [admits, hdecision.1, hdecision.2]) _
  rw [if_neg hdecision]
  by_cases hevidence : w.self.policy.requireEvidence ∧
      ((resolveObjects w.self.graph targetObjectIds).flatMap ControlObject.evidence).length <
        w.self.policy.minEvidenceCount
  · rw [if_pos hevidence]
    exact hrefused (by simp only [admits, hevidence]; simp) _
  rw [if_neg hevidence]
  by_cases hhash : w.self.policy.requireReportHash ∧ result.report.reportHash = ""
  · rw [if_pos hhash]
    exact hrefused (by simp [admits, hhash.1, hhash.2]) _
  rw [if_neg hhash]
  have hadmits : admits w.self targetObjectIds result = true := by
    simp only [admits, hdecision, hevidence, hhash]
    rfl
  rw [after_bind_ok (run_draw w)]
  apply (announced_settles _ _ _ _ _ _).stepped
  · rw [W3ActionCall.event, if_pos hadmits]
    exact .proposed hadmits
  · rfl
  · exact Nat.le_succ _
  · exact fun _ _ => Nat.lt_succ_self _

theorem stepped_approveAction (actionId approver : String) :
    Stepped rt str w (.approveAction actionId approver)
      ((approveAction rt actionId approver).after w) := by
  cases hstored : stored w actionId with
  | none =>
    rw [approveAction, withProposal_none hstored]
    exact stepped_refused (by simp [W3ActionCall.event, hstored])
  | some p =>
    rw [approveAction, withProposal_some hstored]
    by_cases hmode : p.executionMode = .approvalGated
    · have hevent : (W3ActionCall.approveAction actionId approver).event rt w =
          some (.approved actionId) := by
        simp [W3ActionCall.event, hstored, hmode]
      rw [if_neg (not_not.mpr hmode)]
      apply (announced_settles _ _ _ _ _ _).stepped
      · rw [hevent]
        exact .approved hstored hmode
      · rfl
      · exact le_rfl
      · simp [hevent]
    · rw [if_pos hmode]
      exact stepped_refused (by simp [W3ActionCall.event, hstored, hmode])

theorem stepped_rejectAction (actionId reason : String) :
    Stepped rt str w (.rejectAction actionId reason)
      ((rejectAction rt actionId reason).after w) := by
  cases hstored : stored w actionId with
  | none =>
    rw [rejectAction, withProposal_none hstored]
    exact stepped_refused (by simp [W3ActionCall.event, hstored])
  | some p =>
    have hevent : (W3ActionCall.rejectAction actionId reason).event rt w =
        some (.rejected actionId) := by
      simp [W3ActionCall.event, hstored]
    rw [rejectAction, withProposal_some hstored]
    apply (announced_settles _ _ _ _ _ _).stepped
    · rw [hevent]
      exact .rejected hstored
    · rfl
    · exact le_rfl
    · simp [hevent]

theorem stepped_releaseAction (actionId actor : String) :
    Stepped rt str w (.releaseAction actionId actor)
      ((releaseAction rt actionId actor).after w) := by
  cases hstored : stored w actionId with
  | none =>
    rw [releaseAction, withProposal_none hstored]
    exact stepped_refused (by simp [W3ActionCall.event, hstored])
  | some p =>
    rw [releaseAction, withProposal_some hstored]
    by_cases hreleasable : p.isReleasable = true
    · rw [if_neg (not_not.mpr hreleasable)]
      cases hmanifest : p.evidenceManifest with
      | none => exact stepped_refused (by simp [W3ActionCall.event, hstored, hmanifest])
      | some manifest =>
        have hevent : (W3ActionCall.releaseAction actionId actor).event rt w =
            some (.released actionId) := by
          simp [W3ActionCall.event, hstored, hreleasable, hmanifest]
        show Stepped _ _ _ _ ((release rt actionId actor p manifest).after w)
        rw [release, after_bind_ok (run_draw w), after_bind_ok (run_assign _ _),
          after_bind_ok (run_draw _)]
        apply (announced_settles _ _ _ _ _ _).stepped
        · rw [hevent]
          apply W3Effect.released hstored hreleasable hmanifest <;> rfl
        · rfl
        · exact (Nat.le_succ _).trans (Nat.le_succ _)
        · simp [hevent]
    · rw [if_pos hreleasable]
      exact stepped_refused (by simp [W3ActionCall.event, hstored, hreleasable])

variable (rt str w) in
/-- Every call has its effect. -/
theorem stepped (call : W3ActionCall) : Stepped rt str w call (w3Step rt str call w) := by
  cases call with
  | proposeAction tenantId actionType targetObjectIds result mode parameters description =>
    rw [w3Step, W3ActionCall.call, show discard _ = (fun _ => ()) <$> _ from rfl, after_map]
    exact stepped_proposeAction _ _ _ _ _ _ _
  | approveAction actionId approver =>
    rw [w3Step, W3ActionCall.call, show discard _ = (fun _ => ()) <$> _ from rfl, after_map]
    exact stepped_approveAction _ _
  | rejectAction actionId reason =>
    rw [w3Step, W3ActionCall.call, show discard _ = (fun _ => ()) <$> _ from rfl, after_map]
    exact stepped_rejectAction _ _
  | releaseAction actionId actor =>
    rw [w3Step, W3ActionCall.call, show discard _ = (fun _ => ()) <$> _ from rfl, after_map]
    exact stepped_releaseAction _ _
  | graphChanged graph =>
    exact ⟨.refused _, rfl, le_rfl, fun _ h => by cases h⟩

end Steps
end ControlFabric.Fabric.Action
