import ControlFabric.Exceptions.InForce

/-! The review task of an approval. It is opened before the decision is built, so that a rationale
that is too short leaves a task behind without a decision. -/
namespace ControlFabric.Exceptions
open Lib Py Method ExceptionManager

/-- The requests, the decisions, the review tasks and the audit ledger are as before. -/
structure Unchanged (m m' : ExceptionManager) : Prop where
  requests : m'.requests = m.requests
  decisions : m'.decisions = m.decisions
  reviewTasks : m'.reviewTasks = m.reviewTasks
  auditLedger : m'.auditLedger = m.auditLedger

/-- The open review tasks, each with its exception. -/
def openTasks (m : ExceptionManager) : List (String × String) :=
  (m.reviewTasks.filter fun task => task.status = "open").map fun task =>
    (task.taskId, task.exceptionId)

/-- The review tasks that the recorded approvals name, each with the exception approved. -/
def approvals (m : ExceptionManager) : List (String × String) :=
  (m.decisions.values.flatten.filter fun d => d.decision = .approved).map fun d =>
    (d.reviewTaskId, d.exceptionId)

/-- The open review tasks correspond one-to-one to the recorded approvals. -/
def Reviewed (w : World ExceptionManager) : Prop := (openTasks w.self).Perm (approvals w.self)

/-- No approval of the call leaves a task behind. -/
def NoOrphan (rt : Runtime) (call : ExceptionCall) (w : World ExceptionManager) : Prop :=
  match call with
  | .approveException exceptionId _ rationale _ => ¬ Orphans rt w exceptionId rationale
  | .submitException _ | .rejectException _ _ _ | .revokeException _ _ _ => True

section Approve
variable {rt : Runtime} {w : World ExceptionManager} {exceptionId rationale : String}
  (decidedBy : String) (conditions : Option (List String))

/-- An approval that raises leaves everything as it was exactly when it orphans no task. -/
theorem approve_atomic_iff :
    (∀ e w', (approveException rt exceptionId decidedBy rationale conditions).run w = .error e w' →
        Unchanged w.self w'.self) ↔ ¬ Orphans rt w exceptionId rationale := by
  constructor
  · intro h horphan
    obtain ⟨e, w', task, hrun, -, hself⟩ := approve_orphaned decidedBy conditions horphan
    have hlength := congrArg List.length (h e w' hrun).reviewTasks
    rw [hself] at hlength
    simp at hlength
  · intro horphan e w' hrun
    by_cases h : ∃ r expires, Approvable rt w exceptionId rationale r expires
    · obtain ⟨r, expires, h⟩ := h
      obtain ⟨d, v, task, entry, hgranted, -⟩ := approve_reviewed decidedBy conditions h
      rw [hgranted] at hrun
      cases hrun
    · simp only [not_exists] at h
      obtain ⟨e', v, hrefused, hself⟩ := approve_refused decidedBy conditions h horphan
      rw [hrefused] at hrun
      cases hrun
      rw [hself]
      exact ⟨rfl, rfl, rfl, rfl⟩

end Approve

section Counts
variable {m m' : ExceptionManager}

theorem openTasks_append {task : ReviewTask} (hopen : task.status = "open")
    (h : m'.reviewTasks = m.reviewTasks ++ [task]) :
    openTasks m' = openTasks m ++ [(task.taskId, task.exceptionId)] := by
  simp [openTasks, h, hopen]

theorem approvals_append {exceptionId : String} {d : ExceptionDecision}
    (h : m'.decisions = m.decisions.set exceptionId (m.decisions.getD exceptionId [] ++ [d])) :
    (approvals m').Perm (approvals m ++
      if d.decision = .approved then [(d.reviewTaskId, d.exceptionId)] else []) := by
  have hperm := m.decisions.flatten_values_append exceptionId d
  rw [← h] at hperm
  have hmapped := (hperm.filter fun d => d.decision = .approved).map fun d =>
    (d.reviewTaskId, d.exceptionId)
  rw [List.filter_append, List.map_append] at hmapped
  refine hmapped.trans (List.Perm.of_eq (congrArg _ ?_))
  split
  next hd => simp [hd]
  next hd => simp [hd]

end Counts

section Steps
variable {rt : Runtime} {w : World ExceptionManager}

/-- Only an approval opens review tasks. -/
theorem reviewTasks_step {call : ExceptionCall}
    (hcall : ∀ exceptionId decidedBy rationale conditions,
      call ≠ .approveException exceptionId decidedBy rationale conditions) :
    (exceptionStep rt call w).self.reviewTasks = w.self.reviewTasks := by
  unfold exceptionStep ExceptionCall.perform
  cases call with
  | submitException r =>
    dsimp only
    rw [after_discard, submitException, after_bind, run_on]
    cases (PlatformActionReleaseGate.submit rt r.submission).run ⟨w.self.gate, w.env⟩ with
    | error e v => rfl
    | ok result v =>
      dsimp only
      by_cases hblocked : result.status = .blocked
      · simp only [if_pos hblocked]
        rfl
      · simp only [if_neg hblocked]
        rfl
  | approveException exceptionId decidedBy rationale conditions =>
    exact absurd rfl (hcall exceptionId decidedBy rationale conditions)
  | rejectException exceptionId decidedBy rationale =>
    dsimp only
    rw [after_discard, rejectException, after_bind, run_getRequest]
    cases w.self.requests.get? exceptionId with
    | none => rfl
    | some r =>
      dsimp only
      rw [after_bind, run_draw]
      dsimp only
      unfold ExceptionDecision.new
      split <;> rfl
  | revokeException exceptionId revokedBy reason =>
    dsimp only
    rw [revokeException, after_bind, run_getRequest]
    cases w.self.requests.get? exceptionId <;> rfl

/-- What is no approval keeps the correspondence. -/
theorem reviewed_other {call : ExceptionCall}
    (hcall : ∀ exceptionId decidedBy rationale conditions,
      call ≠ .approveException exceptionId decidedBy rationale conditions) (h : Reviewed w) :
    Reviewed (exceptionStep rt call w) := by
  have htasks : openTasks (exceptionStep rt call w).self = openTasks w.self := by
    rw [openTasks, openTasks, reviewTasks_step hcall]
  have heffect := effect rt (w := w) call
  unfold Reviewed
  rw [htasks]
  refine h.trans ?_
  generalize hdecisions : (exceptionStep rt call w).self.decisions = decisions at heffect
  generalize (exceptionStep rt call w).self.requests = requests at heffect
  generalize ruling rt call w = ruled at heffect
  cases heffect with
  | raised | submitted | revoked =>
    rw [approvals, approvals, hdecisions]
  | approved => exact absurd rfl (hcall _ _ _ _)
  | rejected hlength hd =>
    have happend := approvals_append hdecisions
    simp only [hd, reduceCtorEq, if_false, List.append_nil] at happend
    exact happend.symm

/-- A call keeps the correspondence exactly when it orphans no task. -/
theorem reviewed_step_iff (call : ExceptionCall) (h : Reviewed w) :
    Reviewed (exceptionStep rt call w) ↔ NoOrphan rt call w := by
  by_cases hcall : ∃ exceptionId decidedBy rationale conditions,
      call = .approveException exceptionId decidedBy rationale conditions
  · obtain ⟨exceptionId, decidedBy, rationale, conditions, rfl⟩ := hcall
    have hlength := h.length_eq
    show _ ↔ ¬ Orphans rt w exceptionId rationale
    by_cases horphan : Orphans rt w exceptionId rationale
    · refine iff_of_false (fun hreviewed => ?_) (not_not.mpr horphan)
      obtain ⟨e, w', task, hrun, hopen, hself⟩ := approve_orphaned decidedBy conditions horphan
      have hstep : exceptionStep rt
          (.approveException exceptionId decidedBy rationale conditions) w = w' :=
        after_error (run_discard_error hrun)
      have happrovals : approvals w'.self = approvals w.self := by rw [hself]; rfl
      rw [hstep] at hreviewed
      have hlength' := hreviewed.length_eq
      rw [openTasks_append hopen (by rw [hself]), happrovals, List.length_append,
        List.length_singleton] at hlength'
      omega
    · refine iff_of_true ?_ horphan
      by_cases happrovable : ∃ r expires, Approvable rt w exceptionId rationale r expires
      · obtain ⟨r, expires, happrovable⟩ := happrovable
        obtain ⟨d, w', task, entry, hrun, hd, hopen, htask, hid, hself⟩ :=
          approve_reviewed decidedBy conditions happrovable
        have hstep : exceptionStep rt
            (.approveException exceptionId decidedBy rationale conditions) w = w' :=
          after_ok (run_discard_ok hrun)
        have hdecisions : w'.self.decisions = w.self.decisions.set exceptionId
            (w.self.decisions.getD exceptionId [] ++ [d]) := by rw [hself]
        have happend := approvals_append hdecisions
        rw [if_pos hd, ← htask, ← hid] at happend
        rw [hstep, Reviewed, openTasks_append hopen (by rw [hself])]
        exact (h.append_right _).trans happend.symm
      · simp only [not_exists] at happrovable
        obtain ⟨e, w', hrun, hself⟩ := approve_refused decidedBy conditions happrovable horphan
        have hstep : exceptionStep rt
            (.approveException exceptionId decidedBy rationale conditions) w = w' :=
          after_error (run_discard_error hrun)
        rw [hstep, Reviewed, hself]
        exact h
  · have hother : ∀ exceptionId decidedBy rationale conditions,
        call ≠ .approveException exceptionId decidedBy rationale conditions :=
      fun _ _ _ _ heq => hcall ⟨_, _, _, _, heq⟩
    refine iff_of_true (reviewed_other hother h) ?_
    cases call with
    | approveException => exact absurd rfl (hother _ _ _ _)
    | _ => exact trivial

end Steps

/-- In every state an approval is atomic exactly when it orphans no task; and in every run the open
tasks correspond to the recorded approvals throughout exactly when none of its calls orphans one. -/
theorem approvals_atomic_and_reviewed_iff (rt : Runtime) :
    (∀ w exceptionId decidedBy rationale conditions,
      (∀ e w', (approveException rt exceptionId decidedBy rationale conditions).run w =
          .error e w' → Unchanged w.self w'.self) ↔ ¬ Orphans rt w exceptionId rationale) ∧
    ∀ releaseGate env calls,
      Always (exceptionStep rt) Reviewed ⟨.new releaseGate, env⟩ calls ↔
        Conforms (exceptionStep rt) (NoOrphan rt) ⟨.new releaseGate, env⟩ calls := by
  constructor
  · intro w exceptionId decidedBy rationale conditions
    exact approve_atomic_iff decidedBy conditions
  · intro releaseGate env calls
    exact always_iff_conforms (I := fun _ => True) (exceptionStep rt) (fun _ _ _ _ _ => trivial)
      (fun call _ w _ h => reviewed_step_iff call h) trivial (List.Perm.refl [])

/-- An approval that is refused for its rationale leaves a review task behind. -/
theorem refused_approval_opens_task :
    ¬ ∀ (rt : Runtime) (releaseGate : Option PlatformActionReleaseGate) (env : Env)
      (calls : List ExceptionCall) (exceptionId decidedBy rationale : String)
      (conditions : Option (List String)),
      let w := run (exceptionStep rt) ⟨.new releaseGate, env⟩ calls
      ∀ e w', (approveException rt exceptionId decidedBy rationale conditions).run w = .error e w' →
        Unchanged w.self w'.self := by
  intro h
  let start : World ExceptionManager := ⟨.new none, .initial "acme"⟩
  have hadmissible : override.submission.Admissible start.self.gate.chain.activePolicies := by decide
  obtain ⟨submitted, hrun, hrequests, -, -⟩ := submit_stored .reference hadmissible
  obtain ⟨hstep, -⟩ := step_ok (.submitException override) (run_discard_ok hrun)
  have hsubmitted : run (exceptionStep .reference) start [.submitException override] = submitted := by
    rw [run_cons, hstep, run_nil]
  have hstored : submitted.self.requests.get? "exc-1" = some override := by
    rw [hrequests]
    exact Dict.get?_set_self _ _ _
  have hnow : (Runtime.reference.now submitted.env.draws).instant ≤ expiry.instant := by
    show (Runtime.reference.now 0).instant ≤ expiry.instant
    decide
  have horphan : Orphans .reference submitted "exc-1" "ok" :=
    ⟨by decide, override, hstored, expiry.instant, rfl, hnow⟩
  have hatomic : ∀ e w', (approveException .reference "exc-1" "lead" "ok" none).run
      (run (exceptionStep .reference) start [.submitException override]) = .error e w' →
        Unchanged (run (exceptionStep .reference) start [.submitException override]).self w'.self :=
    h .reference none (.initial "acme") [.submitException override] "exc-1" "lead" "ok" none
  rw [hsubmitted] at hatomic
  exact (approve_atomic_iff "lead" none).mp hatomic horphan

end ControlFabric.Exceptions
