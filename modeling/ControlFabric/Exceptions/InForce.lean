import ControlFabric.Exceptions.Steps

/-! Which exceptions are active. The manager asks for some approval among the decisions, so that an
approval outlives the rejection or the revocation that follows it. -/
namespace ControlFabric.Exceptions
open Lib Py Method ExceptionManager

/-- The latest ruling on the exception is an approval. -/
def Standing (history : List (String × Ruling)) (exceptionId : String) : Prop :=
  ∃ content, latest history exceptionId = some (.approved content)

instance (history : List (String × Ruling)) (exceptionId : String) :
    Decidable (Standing history exceptionId) :=
  match h : latest history exceptionId with
  | some (.approved content) => .isTrue ⟨content, h⟩
  | some .rejected => .isFalse (by rintro ⟨_, h'⟩; simp [h] at h')
  | some .revoked => .isFalse (by rintro ⟨_, h'⟩; simp [h] at h')
  | none => .isFalse (by rintro ⟨_, h'⟩; simp [h] at h')

/-- The stored requests that have not expired, whose latest decision is an approval and which have
not been revoked since. -/
def inForce (history : List (String × Ruling)) (m : ExceptionManager) (now : DateTime) :
    List ExceptionRequest :=
  m.requests.values.filter fun r => r.expiresAt.After now ∧ Standing history r.exceptionId

/-- No approval is withdrawn, and no request is stored whose expiry names no time zone. -/
def NothingWithdrawn (call : ExceptionCall) (w : World ExceptionManager) : Prop :=
  match call with
  | .submitException r =>
    r.submission.Admissible w.self.gate.chain.activePolicies → r.expiresAt.IsAware
  | .approveException _ _ _ _ => True
  | .rejectException exceptionId _ rationale =>
    20 ≤ rationale.length → ¬ HasApproval w.self.decisions exceptionId
  | .revokeException exceptionId _ _ => ¬ HasApproval w.self.decisions exceptionId

theorem hasApproval_append {decisions : Dict String (List ExceptionDecision)} {k : String}
    {d : ExceptionDecision} {e : String} :
    HasApproval (decisions.set k (decisions.getD k [] ++ [d])) e ↔
      HasApproval decisions e ∨ e = k ∧ d.decision = .approved := by
  unfold HasApproval
  rw [Dict.getD_set]
  by_cases h : e = k
  · subst h
    simp [or_and_right, exists_or]
  · simp [h]

theorem standing_concat {history : List (String × Ruling)} {k : String} {ruling : Ruling}
    {e : String} : Standing (history ++ [(k, ruling)]) e ↔
      if k = e then ∃ content, ruling = .approved content else Standing history e := by
  unfold Standing
  rw [latest_concat]
  by_cases h : k = e <;> simp [h]

/-- What a run that withdraws nothing keeps between the manager and the rulings made. -/
structure Agrees (w : World ExceptionManager) (history : List (String × Ruling)) : Prop where
  aware : ∀ {k r}, w.self.requests.get? k = some r → r.expiresAt.IsAware
  approved : ∀ e, HasApproval w.self.decisions e ↔ Standing history e

theorem Agrees.step (rt : Runtime) {call : ExceptionCall} {w : World ExceptionManager}
    {history : List (String × Ruling)} (h : Agrees w history) (hc : NothingWithdrawn call w) :
    Agrees (exceptionStep rt call w) (history ++ ruling rt call w) := by
  have heffect := effect rt (w := w) call
  obtain ⟨haware, happroved⟩ := h
  generalize hrequests : (exceptionStep rt call w).self.requests = requests at heffect
  generalize hdecisions : (exceptionStep rt call w).self.decisions = decisions at heffect
  generalize ruling rt call w = ruled at heffect
  constructor
  · rw [hrequests]
    cases heffect with
    | raised | approved | rejected | revoked => exact haware
    | @submitted r ha =>
      intro k r' hget
      rw [Dict.get?_set] at hget
      split at hget
      · obtain rfl := Option.some.inj hget
        exact hc ha
      · exact haware hget
  · rw [hdecisions]
    intro e
    cases heffect with
    | raised | submitted =>
      rw [List.append_nil]
      exact happroved e
    | @approved k _ _ _ r d hstored hd =>
      rw [hasApproval_append, standing_concat, happroved e]
      by_cases he : k = e
      · simp [he, hd]
      · simp [he, Ne.symm he]
    | @rejected k _ _ d hlength hd =>
      rw [hasApproval_append, standing_concat]
      by_cases he : k = e
      · subst he
        simp [hd, hc hlength]
      · simp [he, happroved e, hd]
    | @revoked k _ _ =>
      rw [standing_concat]
      by_cases he : k = e
      · subst he
        simpa [NothingWithdrawn] using hc
      · rw [if_neg he]
        exact happroved e

/-- With every expiry aware, the loop returns; what it keeps is in force when approvals stand. -/
theorem Agrees.active {w : World ExceptionManager} {history : List (String × Ruling)}
    (h : Agrees w history) (now : DateTime) :
    w.self.getActiveExceptions now = .ok (inForce history w.self now) := by
  have hturn : ∀ r ∈ w.self.requests.values, w.self.isActive now r =
      .ok (decide (r.expiresAt.After now ∧ Standing history r.exceptionId)) := by
    intro r hr
    obtain ⟨k, hk⟩ := Dict.mem_values.mp hr
    obtain ⟨instant, hinstant⟩ := h.aware hk
    cases hexpires : r.expiresAt with
    | naive t => simp [hexpires, Timestamp.comparable] at hinstant
    | aware t =>
      simp only [isActive, hexpires, Timestamp.comparable, Timestamp.After, h.approved, bind,
        Except.bind, pure, Except.pure]
      exact congrArg Except.ok (decide_eq_decide.mpr Iff.rfl)
  apply filterE_eq_ok.mpr
  refine ⟨fun r hr => ⟨_, hturn r hr⟩, ?_⟩
  apply List.filter_congr
  intro r hr
  rw [hturn r hr]
  rfl

/-- In every run that withdraws no approval, exactly the exceptions in force are active, at any time
and after any of the calls. -/
theorem active_exceptions_in_force (rt : Runtime)
    (releaseGate : Option PlatformActionReleaseGate) (env : Env) (calls : List ExceptionCall)
    (hc : Conforms (exceptionStep rt) NothingWithdrawn ⟨.new releaseGate, env⟩ calls) :
    ∀ before, before <+: calls → ∀ now,
      (run (exceptionStep rt) ⟨.new releaseGate, env⟩ before).self.getActiveExceptions now =
        .ok (inForce (rulings rt ⟨.new releaseGate, env⟩ before)
          (run (exceptionStep rt) ⟨.new releaseGate, env⟩ before).self now) := by
  intro before hbefore now
  have hinit : Agrees ⟨.new releaseGate, env⟩ [] := by
    constructor
    · intro k r h
      simp [ExceptionManager.new] at h
    · intro e
      simp [HasApproval, ExceptionManager.new, Standing]
  have hagrees := trace_invariant (exceptionStep rt) (ruling rt)
    (fun call w history h hcall => h.step rt hcall) hinit
    (hc.of_prefix (exceptionStep rt) hbefore)
  exact hagrees.active now

/-! ### A run -/

def expiry : DateTime := .utcHour 2026 3 2 9 (by decide)

def noon : DateTime := .utcHour 2026 3 1 12 (by decide)

def override : ExceptionRequest where
  exceptionId := "exc-1"
  exceptionType := .emergencyOverride
  requestedBy := "ops"
  justification := "The billing feed is down and the dispatch must go out now."
  affectedObjectIds := ["obj-1"]
  affectedActionType := "credit_note"
  policyContextId := "policy-7"
  compensatingControls := []
  expiresAt := .aware expiry
  riskAssessment := .high
  requestedAt := .aware noon
  requestHash := "00"
  justification_length := by decide

def approval : ExceptionCall :=
  .approveException "exc-1" "lead" "Agreed with the duty manager." none

/-- The world after the request was submitted and approved. -/
def approvedWorld : World ExceptionManager :=
  run (exceptionStep .reference) ⟨.new none, .initial "acme"⟩ [.submitException override, approval]

theorem approvedWorld_spec : approvedWorld.self.gate.chain.activePolicies = .none ∧
    approvedWorld.self.requests = Dict.empty.set "exc-1" override ∧
    HasApproval approvedWorld.self.decisions "exc-1" ∧
    rulings .reference ⟨.new none, .initial "acme"⟩ [.submitException override, approval] =
      [("exc-1", .approved override.content)] := by
  let w : World ExceptionManager := ⟨.new none, .initial "acme"⟩
  have hadmissible : override.submission.Admissible w.self.gate.chain.activePolicies := by decide
  obtain ⟨w₁, hrun₁, hrequests₁, -, hpolicies⟩ := submit_stored .reference hadmissible
  have hstored : w₁.self.requests.get? "exc-1" = some override := by
    rw [hrequests₁]
    exact Dict.get?_set_self _ _ _
  have hnow : (Runtime.reference.now 0).instant ≤ expiry.instant := by decide
  have happrovable : Approvable .reference w₁ "exc-1" "Agreed with the duty manager." override
      expiry.instant := ⟨hstored, rfl, hnow, by decide⟩
  obtain ⟨d, w₂, hrun₂, hd, hgate, hrequests₂, hdecisions₂⟩ :=
    approve_granted "lead" none happrovable
  obtain ⟨hstep₁, hruling₁⟩ := step_ok (.submitException override) (run_discard_ok hrun₁)
  obtain ⟨hstep₂, hruling₂⟩ := step_ok approval (run_discard_ok hrun₂)
  have hfinal : approvedWorld = w₂ := by
    rw [approvedWorld, run_cons, hstep₁, run_cons, hstep₂, run_nil]
  rw [hfinal, hgate, hrequests₂, hdecisions₂]
  refine ⟨hpolicies, hrequests₁, hasApproval_append.mpr (Or.inr ⟨rfl, hd⟩), ?_⟩
  show ruling .reference (.submitException override) w ++
    (ruling .reference approval (exceptionStep .reference (.submitException override) w) ++ []) = _
  rw [hstep₁, hruling₁, hruling₂]
  simp [ExceptionCall.ruled, approval, hstored]

/-- The one stored request is active when it has an approval and has not expired. -/
theorem active_of_single {m : ExceptionManager} {r : ExceptionRequest} {now expires : DateTime}
    (hrequests : m.requests = Dict.empty.set r.exceptionId r)
    (happroval : HasApproval m.decisions r.exceptionId) (hexpires : r.expiresAt = .aware expires)
    (hnow : now.instant < expires.instant) : m.getActiveExceptions now = .ok [r] := by
  have hvalues : m.requests.values = [r] := by
    rw [hrequests]
    exact Dict.values_set_new (Dict.not_mem_empty _) r
  have hturn : m.isActive now r = .ok true := by
    simp [isActive, hexpires, Timestamp.comparable, hnow, happroval, bind, Except.bind, pure,
      Except.pure]
  rw [getActiveExceptions, hvalues]
  simp [filterE, hturn, bind, Except.bind, pure, Except.pure]

theorem active_exceptions_in_force_approval :
    approvedWorld.self.getActiveExceptions noon =
      .ok (inForce (rulings .reference ⟨.new none, .initial "acme"⟩
        [.submitException override, approval]) approvedWorld.self noon) :=
  active_exceptions_in_force .reference none (.initial "acme")
    [.submitException override, approval] ⟨fun _ => ⟨expiry.instant, rfl⟩, trivial, trivial⟩ _
    (List.prefix_refl _) noon

/-- An exception revoked after its approval is still active. -/
theorem not_active_exceptions_in_force :
    ¬ ∀ (rt : Runtime) (releaseGate : Option PlatformActionReleaseGate) (env : Env)
      (calls : List ExceptionCall) (now : DateTime),
      (run (exceptionStep rt) ⟨.new releaseGate, env⟩ calls).self.getActiveExceptions now =
        .ok (inForce (rulings rt ⟨.new releaseGate, env⟩ calls)
          (run (exceptionStep rt) ⟨.new releaseGate, env⟩ calls).self now) := by
  intro h
  let revocation : ExceptionCall := .revokeException "exc-1" "lead" "No longer needed."
  obtain ⟨-, hrequests, happroval, hrulings⟩ := approvedWorld_spec
  have hstored : approvedWorld.self.requests.get? "exc-1" = some override := by
    rw [hrequests]
    exact Dict.get?_set_self _ _ _
  obtain ⟨w', hrun, hrequests', hdecisions'⟩ :=
    revoke_recorded .reference hstored "lead" "No longer needed."
  obtain ⟨hstep, hruling⟩ := step_ok revocation hrun
  have hfinal : run (exceptionStep .reference) ⟨.new none, .initial "acme"⟩
      ([.submitException override, approval] ++ [revocation]) = w' := by
    rw [run_concat]
    exact hstep
  have hhistory : rulings .reference ⟨.new none, .initial "acme"⟩
      ([.submitException override, approval] ++ [revocation]) =
      [("exc-1", .approved override.content), ("exc-1", .revoked)] := by
    rw [rulings, trace_concat]
    exact congrArg₂ (· ++ ·) hrulings hruling
  have hactive := h .reference none (.initial "acme")
    ([.submitException override, approval] ++ [revocation]) noon
  have hunexpired : noon.instant < expiry.instant := by decide
  have happroval' : HasApproval w'.self.decisions override.exceptionId := by
    rw [hdecisions']
    exact happroval
  rw [hfinal, hhistory, active_of_single (hrequests'.trans hrequests) happroval' rfl
    hunexpired] at hactive
  have hmem : override ∈ inForce [("exc-1", .approved override.content), ("exc-1", .revoked)]
      w'.self noon := by
    rw [← Except.ok.inj hactive]
    exact List.mem_singleton_self override
  have hstanding := of_decide_eq_true (List.mem_filter.mp hmem).2
  exact absurd hstanding.2 (by decide)

end ControlFabric.Exceptions
