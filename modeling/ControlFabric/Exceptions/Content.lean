import ControlFabric.Exceptions.InForce

/-! Whether what is active is what was approved. A request is stored over the one of the same
identifier, and the decisions of that one then count for it. -/
namespace ControlFabric.Exceptions
open Lib Py Method ExceptionManager

/-- The content of the latest approval of the exception. -/
def approvedContent (history : List (String × Ruling)) (exceptionId : String) : Option Content :=
  latest (history.filterMap fun p => match p.2 with
    | .approved content => some (p.1, content)
    | .rejected | .revoked => none) exceptionId

/-- Under an identifier that has an approval only the stored content is submitted again. -/
def NothingReplaced (call : ExceptionCall) (w : World ExceptionManager) : Prop :=
  match call with
  | .submitException r =>
    r.submission.Admissible w.self.gate.chain.activePolicies →
      HasApproval w.self.decisions r.exceptionId →
        ∀ old ∈ w.self.requests.get? r.exceptionId, r.content = old.content
  | .approveException _ _ _ _ | .rejectException _ _ _ | .revokeException _ _ _ => True

theorem approvedContent_approved (history : List (String × Ruling)) (k e : String)
    (content : Content) : approvedContent (history ++ [(k, .approved content)]) e =
      if k = e then some content else approvedContent history e := by
  rw [approvedContent, List.filterMap_append]
  exact latest_concat _ e k content

theorem approvedContent_other (history : List (String × Ruling)) (k e : String) {ruling : Ruling}
    (h : ruling = .rejected ∨ ruling = .revoked) :
    approvedContent (history ++ [(k, ruling)]) e = approvedContent history e := by
  rw [approvedContent, List.filterMap_append]
  rcases h with rfl | rfl
  · exact congrArg (latest · e) (List.append_nil _)
  · exact congrArg (latest · e) (List.append_nil _)

/-- What a run that replaces nothing keeps between the manager and the rulings made. -/
structure Bound (w : World ExceptionManager) (history : List (String × Ruling)) : Prop where
  keyed : ∀ {k r}, w.self.requests.get? k = some r → r.exceptionId = k
  stored : ∀ {e}, HasApproval w.self.decisions e → e ∈ w.self.requests
  content : ∀ {e r}, HasApproval w.self.decisions e → w.self.requests.get? e = some r →
    approvedContent history e = some r.content

theorem Bound.step (rt : Runtime) {call : ExceptionCall} {w : World ExceptionManager}
    {history : List (String × Ruling)} (h : Bound w history) (hc : NothingReplaced call w) :
    Bound (exceptionStep rt call w) (history ++ ruling rt call w) := by
  have heffect := effect rt (w := w) call
  generalize hrequests : (exceptionStep rt call w).self.requests = requests at heffect
  generalize hdecisions : (exceptionStep rt call w).self.decisions = decisions at heffect
  generalize ruling rt call w = ruled at heffect
  constructor
  · rw [hrequests]
    cases heffect with
    | raised | approved | rejected | revoked => exact h.keyed
    | @submitted r ha =>
      intro k r' hget
      rw [Dict.get?_set] at hget
      split at hget
      next hk =>
        obtain rfl := Option.some.inj hget
        exact hk.symm
      next => exact h.keyed hget
  · rw [hrequests, hdecisions]
    intro e hd
    cases heffect with
    | raised | revoked => exact h.stored hd
    | submitted ha => exact Dict.mem_set.mpr (Or.inr (h.stored hd))
    | approved hstored _ =>
      rcases hasApproval_append.mp hd with hold | ⟨rfl, -⟩
      · exact h.stored hold
      · exact Dict.mem_of_get? hstored
    | rejected _ hrejected =>
      rcases hasApproval_append.mp hd with hold | ⟨-, happroved⟩
      · exact h.stored hold
      · simp [hrejected] at happroved
  · rw [hrequests, hdecisions]
    intro e r' hd hget
    cases heffect with
    | raised =>
      rw [List.append_nil]
      exact h.content hd hget
    | @submitted r ha =>
      rw [List.append_nil]
      rw [Dict.get?_set] at hget
      split at hget
      next he =>
        subst he
        obtain rfl := Option.some.inj hget
        obtain ⟨old, hold⟩ := Dict.mem_iff_get?.mp (h.stored hd)
        rw [hc ha hd old hold]
        exact h.content hd hold
      next => exact h.content hd hget
    | @approved k _ _ _ r d hstored _ =>
      rw [approvedContent_approved]
      by_cases he : k = e
      · subst he
        obtain rfl := Option.some.inj (hstored.symm.trans hget)
        rw [if_pos rfl]
      · rw [if_neg he]
        rcases hasApproval_append.mp hd with hold | ⟨rfl, -⟩
        · exact h.content hold hget
        · exact absurd rfl he
    | @rejected k _ _ d _ hrejected =>
      rw [approvedContent_other history k e (Or.inl rfl)]
      rcases hasApproval_append.mp hd with hold | ⟨-, happroved⟩
      · exact h.content hold hget
      · simp [hrejected] at happroved
    | @revoked k _ _ =>
      rw [approvedContent_other history k e (Or.inr rfl)]
      exact h.content hd hget

/-- What is returned as active is stored and has an approval. -/
theorem active_approved {m : ExceptionManager} {now : DateTime} {active : List ExceptionRequest}
    (h : m.getActiveExceptions now = .ok active) {r : ExceptionRequest} (hr : r ∈ active) :
    r ∈ m.requests.values ∧ HasApproval m.decisions r.exceptionId := by
  obtain ⟨-, rfl⟩ := filterE_eq_ok.mp h
  obtain ⟨hvalues, hturn⟩ := List.mem_filter.mp hr
  refine ⟨hvalues, ?_⟩
  unfold isActive at hturn
  cases hexpires : r.expiresAt.comparable with
  | error e => simp [hexpires, bind, Except.bind, Except.toOption] at hturn
  | ok expires =>
    rw [hexpires] at hturn
    exact (of_decide_eq_true hturn).2

/-- In every run that stores no other content under an approved identifier, each active request has
the content of the latest approval of its identifier, at any time and after any of the calls. -/
theorem active_exceptions_as_approved (rt : Runtime)
    (releaseGate : Option PlatformActionReleaseGate) (env : Env) (calls : List ExceptionCall)
    (hc : Conforms (exceptionStep rt) NothingReplaced ⟨.new releaseGate, env⟩ calls) :
    ∀ before, before <+: calls → ∀ now active,
      (run (exceptionStep rt) ⟨.new releaseGate, env⟩ before).self.getActiveExceptions now =
        .ok active →
      ∀ r ∈ active, approvedContent (rulings rt ⟨.new releaseGate, env⟩ before) r.exceptionId =
        some r.content := by
  intro before hbefore now active hactive r hr
  have hinit : Bound ⟨.new releaseGate, env⟩ [] := by
    constructor
    · intro k r h
      simp [ExceptionManager.new] at h
    · intro e h
      simp [HasApproval, ExceptionManager.new] at h
    · intro e r h
      simp [HasApproval, ExceptionManager.new] at h
  have hbound := trace_invariant (exceptionStep rt) (ruling rt)
    (fun call w history h hcall => h.step rt hcall) hinit
    (hc.of_prefix (exceptionStep rt) hbefore)
  obtain ⟨hvalues, happroval⟩ := active_approved hactive hr
  obtain ⟨k, hk⟩ := Dict.mem_values.mp hvalues
  obtain rfl := hbound.keyed hk
  exact hbound.content happroval hk

theorem active_exceptions_as_approved_override :
    approvedContent (rulings .reference ⟨.new none, .initial "acme"⟩
      [.submitException override, approval]) "exc-1" = some override.content := by
  obtain ⟨-, hrequests, happroval, -⟩ := approvedWorld_spec
  have hunexpired : noon.instant < expiry.instant := by decide
  have hactive : approvedWorld.self.getActiveExceptions noon = .ok [override] :=
    active_of_single hrequests happroval rfl hunexpired
  refine active_exceptions_as_approved .reference none (.initial "acme")
    [.submitException override, approval] ⟨fun _ h => ?_, trivial, trivial⟩ _ (List.prefix_refl _)
    noon [override] hactive override
    (List.mem_singleton_self override)
  simp [HasApproval, ExceptionManager.new] at h

/-- The approved override for one object, submitted again for every object. -/
def widened : ExceptionRequest := { override with affectedObjectIds := ["obj-1", "obj-2"] }

/-- A request submitted under the identifier of an approved one is active at once. -/
theorem not_active_exceptions_as_approved :
    ¬ ∀ (rt : Runtime) (releaseGate : Option PlatformActionReleaseGate) (env : Env)
      (calls : List ExceptionCall) (now : DateTime) (active : List ExceptionRequest),
      (run (exceptionStep rt) ⟨.new releaseGate, env⟩ calls).self.getActiveExceptions now =
        .ok active →
      ∀ r ∈ active, approvedContent (rulings rt ⟨.new releaseGate, env⟩ calls) r.exceptionId =
        some r.content := by
  intro h
  obtain ⟨hpolicies, hrequests, happroval, hrulings⟩ := approvedWorld_spec
  have hadmissible : widened.submission.Admissible
      approvedWorld.self.gate.chain.activePolicies := by
    rw [hpolicies]
    decide
  obtain ⟨w', hrun, hrequests', hdecisions', -⟩ := submit_stored .reference hadmissible
  obtain ⟨hstep, hruling⟩ := step_ok (.submitException widened) (run_discard_ok hrun)
  have hfinal : run (exceptionStep .reference) ⟨.new none, .initial "acme"⟩
      ([.submitException override, approval] ++ [.submitException widened]) = w' := by
    rw [run_concat]
    exact hstep
  have hhistory : rulings .reference ⟨.new none, .initial "acme"⟩
      ([.submitException override, approval] ++ [.submitException widened]) =
      [("exc-1", .approved override.content)] := by
    rw [rulings, trace_concat]
    exact congrArg₂ (· ++ ·) hrulings hruling
  have hunexpired : noon.instant < expiry.instant := by decide
  have hsingle : w'.self.requests = Dict.empty.set "exc-1" widened := by
    rw [hrequests', hrequests]
    exact Dict.set_set _ _ _ _
  have hactive := h .reference none (.initial "acme")
    ([.submitException override, approval] ++ [.submitException widened]) noon [widened]
  rw [hfinal, hhistory] at hactive
  have happroval' : HasApproval w'.self.decisions widened.exceptionId := by
    rw [hdecisions']
    exact happroval
  have hcontent := hactive (active_of_single hsingle happroval' rfl hunexpired) widened
    (List.mem_singleton_self widened)
  have hne : override.content ≠ widened.content := by decide
  exact hne (Option.some.inj hcontent)

end ControlFabric.Exceptions
