import ControlFabric.ReleaseGuard.Approval

/-! The steps that a decision on a release takes into account. Steps are kept under their release,
not under a submission of it, so that all that were ever requested count. -/
namespace ControlFabric.ReleaseGuard
open Lib Method Services

inductive GuardEvent where
  | requested (stepId releaseId : String)
  | submitted (releaseId : String)

/-- The step that a call requests, or the release whose submission it is let through with. -/
def guardEvents (rt : Runtime) (call : ServiceCall) (w : World Services) : List GuardEvent :=
  match call with
  | .guard (.request releaseId _ _) => [.requested (rt.uuid4 w.env.draws) releaseId]
  | .guard call => (submissions call w.self).map fun p => .submitted p.1
  | _ => []

/-- The steps requested for the release. -/
def requestedSteps (history : List GuardEvent) (releaseId : String) : List String :=
  history.filterMap fun
    | .requested stepId id => if id = releaseId then some stepId else none
    | .submitted _ => none

/-- The steps requested for the release since its latest submission. -/
def currentSteps (releaseId : String) : List GuardEvent → List String → List String
  | [], steps => steps
  | .requested stepId id :: history, steps =>
    currentSteps releaseId history (if id = releaseId then steps ++ [stepId] else steps)
  | .submitted id :: history, steps =>
    currentSteps releaseId history (if id = releaseId then [] else steps)

def StepApproved (s : Services) (stepId : String) : Prop :=
  ∃ step ∈ s.steps.get? stepId, step.status = .approved

/-- The decision on a release is that of the steps requested since its latest submission. -/
def BoundToSubmission (history : List GuardEvent) (s s' : Services) (stepId releaseId : String) :
    Prop :=
  let current := currentSteps releaseId history []
  (Approves s s' releaseId → stepId ∈ current ∧ ∀ id ∈ current, StepApproved s' id) ∧
    (stepId ∈ current → (∀ id ∈ current, StepApproved s' id) →
      ∀ r ∈ s'.releases.get? releaseId, r.status = .approved)

/-- What the run has put out so far. -/
def guardHistory (rt : Runtime) (env : Env) (calls : List ServiceCall) : List GuardEvent :=
  trace (serviceStep rt) (guardEvents rt) ⟨.empty, env⟩ calls

/-! ### The steps in store -/

/-- Steps are listed under their release as they were requested, and are all in store. -/
structure Recorded (s : Services) (history : List GuardEvent) : Prop where
  listed : s.Listed
  requested : ∀ releaseId, s.stepsByRelease.getD releaseId [] = requestedSteps history releaseId
  stored : ∀ releaseId, ∀ id ∈ s.stepsByRelease.getD releaseId [], id ∈ s.steps

theorem requestedSteps_append (history more : List GuardEvent) (releaseId : String) :
    requestedSteps (history ++ more) releaseId =
      requestedSteps history releaseId ++ requestedSteps more releaseId := List.filterMap_append ..

theorem requestedSteps_submitted (ids : List String) (releaseId : String) :
    requestedSteps (ids.map .submitted) releaseId = [] := by
  unfold requestedSteps
  rw [List.filterMap_map]
  exact List.filterMap_eq_nil_iff.mpr fun _ _ => rfl

section Step
variable {rt : Runtime} {call : ServiceCall} {w w' : World Services} {history : List GuardEvent}

/-- A call that requests no step puts out none. -/
theorem ServiceCall.Quiet.requestedSteps (h : call.Quiet) (releaseId : String) :
    requestedSteps (guardEvents rt call w) releaseId = [] := by
  cases call with
  | guard call =>
    have hevents : guardEvents rt (.guard call) w =
        ((submissions call w.self).map Prod.fst).map .submitted := by
      rw [List.map_map]
      cases call with
      | request releaseId approverEmail slaHours => exact absurd rfl (h _ _ _)
      | _ => rfl
    rw [hevents]
    exact requestedSteps_submitted _ releaseId
  | markApproved releaseId approvedBy => rfl
  | markBlocked releaseId reason blockedBy => rfl

theorem Recorded.step (h : Recorded w.self history) (hact : Act rt w w' call) :
    Recorded w'.self (history ++ guardEvents rt call w) := by
  refine ⟨hact.listed h.listed, fun id => ?_, fun releaseId' id hid => ?_⟩
  · rw [requestedSteps_append, ← h.requested]
    rcases call.quiet_or_request with hquiet | ⟨releaseId, approverEmail, slaHours, rfl⟩
    · rw [hquiet.requestedSteps, List.append_nil, (hact.sameSteps hquiet).lists]
    · obtain ⟨_, -, -, hlists⟩ := hact.requested_self
      rw [hlists, Dict.getD_set]
      by_cases hid : id = releaseId
      · subst hid
        simp [guardEvents, requestedSteps]
      · simp [guardEvents, requestedSteps, hid, Ne.symm hid]
  · rcases call.quiet_or_request with hquiet | ⟨releaseId, approverEmail, slaHours, rfl⟩
    · have hsame := hact.sameSteps hquiet
      rw [hsame.lists] at hid
      exact hsame.mem (h.stored releaseId' id hid)
    · obtain ⟨_, -, hsteps, hlists⟩ := hact.requested_self
      rw [hlists, Dict.getD_set] at hid
      rw [hsteps, Dict.mem_set]
      by_cases hrelease : releaseId' = releaseId
      · rw [if_pos hrelease] at hid
        rcases List.mem_append.mp hid with hold | hnew
        · exact .inr (h.stored releaseId id hold)
        · exact .inl (List.mem_singleton.mp hnew)
      · rw [if_neg hrelease] at hid
        exact .inr (h.stored releaseId' id hid)

/-- All steps are approved exactly if all that were ever requested are. -/
theorem Recorded.allApproved_iff {s : Services} (h : Recorded s history) {releaseId : String}
    (hne : requestedSteps history releaseId ≠ []) :
    s.AllApproved releaseId ↔ ∀ id ∈ requestedSteps history releaseId, StepApproved s id := by
  rw [← h.requested] at hne ⊢
  unfold AllApproved getStepsForRelease StepApproved
  constructor
  · rintro ⟨hall, -⟩ id hid
    obtain ⟨step, hstep⟩ := Dict.mem_iff_get?.mp (h.stored releaseId id hid)
    exact ⟨step, hstep, hall step (List.mem_filterMap.mpr ⟨id, hid, hstep⟩)⟩
  · intro hall
    constructor
    · intro step hstep
      obtain ⟨id, hid, hget⟩ := List.mem_filterMap.mp hstep
      obtain ⟨other, hother, happroved⟩ := hall id hid
      obtain rfl := Option.some.inj (hother.symm.trans hget)
      exact happroved
    · obtain ⟨id, hid⟩ := List.exists_mem_of_ne_nil _ hne
      obtain ⟨step, hstep⟩ := Dict.mem_iff_get?.mp (h.stored releaseId id hid)
      exact List.ne_nil_of_mem (List.mem_filterMap.mpr ⟨id, hid, hstep⟩)

end Step

/-! ### Every run -/

theorem recorded_run (rt : Runtime) (env : Env) (calls : List ServiceCall) :
    Recorded (run (serviceStep rt) ⟨.empty, env⟩ calls).self (guardHistory rt env calls) := by
  have hempty : Recorded Services.empty [] := by
    refine ⟨?_, fun _ => rfl, ?_⟩
    · intro stepId step hstep
      cases hstep
    · intro releaseId id hid
      cases hid
  have hall : Conforms (serviceStep rt) (fun _ _ => True) ⟨.empty, env⟩ calls :=
    (conforms_iff_split (serviceStep rt)).mpr fun _ _ _ _ => trivial
  exact trace_invariant (J := fun w history => Recorded w.self history) (serviceStep rt)
    (guardEvents rt) (fun call w history h _ => h.step (does rt call).act) hempty hall

section Approval
variable (rt : Runtime) (env : Env) (calls : List ServiceCall) (note : String)

/-- The approval of a step approves its release if all steps that were ever requested for it are
then approved, and leaves its status otherwise. -/
theorem approve_decides {stepId : String} {step : ApprovalStep} {r : ReleaseRequest}
    (hstep : (run (serviceStep rt) ⟨.empty, env⟩ calls).self.steps.get? stepId = some step)
    (hr : (run (serviceStep rt) ⟨.empty, env⟩ calls).self.releases.get? step.releaseId = some r) :
    let w' := serviceStep rt (.guard (.approve stepId note))
      (run (serviceStep rt) ⟨.empty, env⟩ calls)
    ∃ r' ∈ w'.self.releases.get? step.releaseId,
      r'.status = .approved ∧ (∀ id ∈ requestedSteps (guardHistory rt env calls) step.releaseId,
          StepApproved w'.self id) ∨
        r'.status = r.status ∧
          ¬ ∀ id ∈ requestedSteps (guardHistory rt env calls) step.releaseId,
            StepApproved w'.self id := by
  have hrecorded := recorded_run rt env calls
  generalize run (serviceStep rt) ⟨.empty, env⟩ calls = w at hstep hr hrecorded ⊢
  generalize guardHistory rt env calls = history at hrecorded ⊢
  intro w'
  have hact : Act rt w w' (.guard (.approve stepId note)) := (does rt _).act
  have hafter : Recorded w'.self (history ++ guardEvents rt (.guard (.approve stepId note)) w) :=
    hrecorded.step hact
  have hevents : guardEvents rt (.guard (.approve stepId note)) w = [] := rfl
  rw [hevents, List.append_nil] at hafter
  have hrequested : stepId ∈ requestedSteps history step.releaseId := by
    rw [← hrecorded.requested]
    exact hrecorded.listed stepId step hstep
  rw [← hafter.allApproved_iff (List.ne_nil_of_mem hrequested)]
  clear hafter
  generalize w' = v at hact ⊢
  cases hact with
  | refused hrefused hself => exact absurd (hrefused.symm.trans hstep) (by simp)
  | stepApproved step₁ step' f hstep₁ hreleaseId hstatus hf hself =>
    obtain rfl := Option.some.inj (hstep.symm.trans hstep₁)
    by_cases hall : (w.self.withStep stepId step').AllApproved step.releaseId
    · rw [if_pos hall] at hself
      refine ⟨f r, ?_, .inl ⟨hf.status r, ?_⟩⟩
      · rw [hself, get?_rewrite, if_pos rfl]
        exact congrArg (Option.map f) hr
      · rw [hself, allApproved_rewrite]
        exact hall
    · rw [if_neg hall] at hself
      refine ⟨r, ?_, .inr ⟨rfl, hself ▸ hall⟩⟩
      rw [hself]
      exact hr

end Approval

/-- After every run, the approval of a step leaves the status of its release unless all steps that
were ever requested for the release are then approved, and if they are approves a pending one. -/
theorem approve_counts_all (rt : Runtime) (env : Env) (calls : List ServiceCall)
    (stepId note : String) :
    let w := run (serviceStep rt) ⟨.empty, env⟩ calls
    let w' := serviceStep rt (.guard (.approve stepId note)) w
    ∀ step ∈ w.self.steps.get? stepId, ∀ r ∈ w.self.releases.get? step.releaseId,
      ∃ r' ∈ w'.self.releases.get? step.releaseId,
        let requested := requestedSteps (guardHistory rt env calls) step.releaseId
        (¬ (∀ id ∈ requested, StepApproved w'.self id) → r'.status = r.status) ∧
          (r.status = .pending → (∀ id ∈ requested, StepApproved w'.self id) →
            r'.status = .approved) := by
  intro w w' step hstep r hr
  obtain ⟨r', hr', ⟨happroved, hall⟩ | ⟨hsame, hnot⟩⟩ := approve_decides rt env calls note hstep hr
  · exact ⟨r', hr', fun hnot => absurd hall hnot, fun _ _ => happroved⟩
  · exact ⟨r', hr', fun _ => hsame, fun _ hall => absurd hall hnot⟩

/-- A release without evidence is submitted, refused by its approver, and given the evidence. -/
def refusedCalls : List ServiceCall :=
  [GuardCall.create "shop" "default" "Pay" "payments" "production" .critical "ada" "",
    GuardCall.submit payRelease .startupDefault, GuardCall.request payRelease "bea" 24,
    GuardCall.reject "00000000-0000-4000-8000-000000000004" "bea" "no build",
    GuardCall.addEvidence payRelease .buildResult "Build" "b-1" "" "ada",
    GuardCall.addEvidence payRelease .jiraTicket "Ticket" "j-1" "" "ada"].map .guard

/-- The step requested for the first submission. -/
def refusedStep : String := "00000000-0000-4000-8000-000000000004"

def refusedWorld : World Services :=
  run (serviceStep .reference) ⟨.empty, .initial "default"⟩ refusedCalls

def resubmittedCalls : List ServiceCall :=
  refusedCalls ++ [.guard (.submit payRelease .startupDefault)]

def resubmittedWorld : World Services :=
  run (serviceStep .reference) ⟨.empty, .initial "default"⟩ resubmittedCalls

theorem run_resubmitted : run (serviceStep .reference) ⟨.empty, .initial "default"⟩
    resubmittedCalls = resubmittedWorld := rfl

theorem refusedWorld_release : ∃ r, refusedWorld.self.releases.get? payRelease = some r ∧
    (r.status = .blocked ∧ r.riskLevel = .critical ∧ r.submittedBy ≠ "") ∧
      r.Complete .startupDefault := by
  have hany : (refusedWorld.self.releases.get? payRelease).any (fun r =>
      decide ((r.status = .blocked ∧ r.riskLevel = .critical ∧ r.submittedBy ≠ "") ∧
        r.Complete .startupDefault)) = true := by decide +kernel
  obtain ⟨r, hr, h⟩ := (Option.any_eq_true _ _).mp hany
  exact ⟨r, hr, of_decide_eq_true h⟩

theorem refusedWorld_step : (∃ step, refusedWorld.self.steps.get? refusedStep = some step ∧
      step.releaseId = payRelease) ∧
    refusedWorld.self.stepsByRelease.getD payRelease [] = [refusedStep] := by
  have hany : (refusedWorld.self.steps.get? refusedStep).any
      (fun step => decide (step.releaseId = payRelease)) = true := by decide +kernel
  obtain ⟨step, hstep, h⟩ := (Option.any_eq_true _ _).mp hany
  exact ⟨⟨step, hstep, of_decide_eq_true h⟩, by decide +kernel⟩

theorem self_of_eq {w w₀ : World Services} {releases : Dict String ReleaseRequest} {env : Env}
    (h : w = ⟨{ w₀.self with releases := releases }, env⟩) : w.self.releases = releases ∧
      w.self.steps = w₀.self.steps ∧ w.self.stepsByRelease = w₀.self.stepsByRelease ∧
        w.env = env := by
  subst h
  exact ⟨rfl, rfl, rfl, rfl⟩

/-- The second submission leaves the release to its approvers. -/
theorem resubmittedWorld_release : ∃ r, r.status = .pending ∧
    resubmittedWorld.self.releases = refusedWorld.self.releases.set payRelease r ∧
      resubmittedWorld.self.steps = refusedWorld.self.steps ∧
        resubmittedWorld.self.stepsByRelease = refusedWorld.self.stepsByRelease ∧
          resubmittedWorld.env.draws = refusedWorld.env.draws + 11 := by
  obtain ⟨r, hr, ⟨hblocked, hrisk, hby⟩, hcomplete⟩ := refusedWorld_release
  obtain ⟨r', env, hsubmit, -, -, hstatus, hdraws⟩ :=
    submit_complete .reference hr (.inr hblocked) hcomplete hby
  have hworld : resubmittedWorld = ⟨{ refusedWorld.self with
      releases := refusedWorld.self.releases.set payRelease r' }, env⟩ := by
    show run (serviceStep .reference) _ (refusedCalls ++ [_]) = _
    rw [run_concat]
    exact hsubmit
  obtain ⟨hreleases, hsteps, hlists, henv⟩ := self_of_eq hworld
  refine ⟨r', ?_, hreleases, hsteps, hlists, by rw [henv, hdraws]⟩
  rw [hstatus, hrisk]
  rfl

theorem resubmittedWorld_step :
    ∃ step ∈ resubmittedWorld.self.steps.get? refusedStep, step.releaseId = payRelease ∧
      ∃ r ∈ resubmittedWorld.self.releases.get? payRelease, r.status = .pending := by
  obtain ⟨⟨step, hstep, hrelease⟩, -⟩ := refusedWorld_step
  obtain ⟨r, hpending, hreleases, hsteps, -⟩ := resubmittedWorld_release
  rw [hreleases, hsteps]
  exact ⟨step, hstep, hrelease, r, Dict.get?_set_self _ _ _, hpending⟩

theorem approve_counts_all_resubmitted :
    let w' := serviceStep .reference (.guard (.approve refusedStep "")) resubmittedWorld
    ∃ step ∈ resubmittedWorld.self.steps.get? refusedStep,
      ∃ r ∈ resubmittedWorld.self.releases.get? step.releaseId, r.status = .pending ∧
        ∃ r' ∈ w'.self.releases.get? step.releaseId,
          let requested := requestedSteps (guardHistory .reference (.initial "default")
            resubmittedCalls) step.releaseId
          (¬ (∀ id ∈ requested, StepApproved w'.self id) → r'.status = r.status) ∧
            (r.status = .pending → (∀ id ∈ requested, StepApproved w'.self id) →
              r'.status = .approved) := by
  obtain ⟨step, hstep, hrelease, r, hr, hpending⟩ := resubmittedWorld_step
  rw [← hrelease] at hr
  have hcounts := approve_counts_all .reference (.initial "default") resubmittedCalls refusedStep ""
  rw [run_resubmitted] at hcounts
  generalize resubmittedWorld = w at hstep hr hcounts ⊢
  exact ⟨step, hstep, r, hr, hpending, hcounts step hstep r hr⟩

theorem currentSteps_submitted (history : List GuardEvent) (releaseId : String)
    (steps : List String) :
    currentSteps releaseId (history ++ [.submitted releaseId]) steps = [] := by
  induction history generalizing steps with
  | nil => simp [currentSteps]
  | cons event history ih => cases event with
    | requested stepId id => exact ih _
    | submitted id => exact ih _

/-- The step that was requested for the earlier submission approves the release by itself. -/
theorem not_bound_to_submission : ¬ ∀ (rt : Runtime) (env : Env) (calls : List ServiceCall)
    (stepId note : String),
    Set.InjOn rt.uuid4 (Set.Iio (run (serviceStep rt) ⟨.empty, env⟩ calls).env.draws) →
    let w := run (serviceStep rt) ⟨.empty, env⟩ calls
    ∀ step ∈ w.self.steps.get? stepId, BoundToSubmission (guardHistory rt env calls) w.self
      (serviceStep rt (.guard (.approve stepId note)) w).self stepId step.releaseId := by
  intro h
  obtain ⟨r, hpending, hreleases, hsteps, hlists, hdraws⟩ := resubmittedWorld_release
  obtain ⟨⟨step, hstep, hrelease⟩, hlist⟩ := refusedWorld_step
  have huuid : Set.InjOn Runtime.reference.uuid4 (Set.Iio resubmittedWorld.env.draws) := by
    rw [hdraws]
    apply Runtime.reference_uuid4.mono
    apply Set.Iio_subset_Iio
    decide +kernel
  have hstep' : resubmittedWorld.self.steps.get? refusedStep = some step := by rw [hsteps, hstep]
  have hlist' : resubmittedWorld.self.stepsByRelease.getD step.releaseId [] = [refusedStep] := by
    rw [hlists, hrelease, hlist]
  have hr : resubmittedWorld.self.releases.get? step.releaseId = some r := by
    rw [hreleases, hrelease, Dict.get?_set_self]
  have hothers : ∀ id ∈ resubmittedWorld.self.stepsByRelease.getD step.releaseId [],
      id ≠ refusedStep → ∀ other ∈ resubmittedWorld.self.steps.get? id,
        other.status = .approved := by
    intro id hid hne
    rw [hlist'] at hid
    exact absurd (List.mem_singleton.mp hid) hne
  have hlast := approve_last .reference hstep' (by simp [hlist']) hothers hr ""
  have happroves : Approves resubmittedWorld.self (serviceStep .reference
      (.guard (.approve refusedStep "")) resubmittedWorld).self step.releaseId := by
    rw [serviceStep_guard]
    refine ⟨?_, hlast⟩
    intro q hq happroved
    obtain rfl := Option.some.inj (hr.symm.trans hq)
    rw [hpending] at happroved
    cases happroved
  have hnone : currentSteps step.releaseId
      (guardHistory .reference (.initial "default") resubmittedCalls) [] = [] := by
    obtain ⟨q, hq, ⟨hblocked, -⟩, -⟩ := refusedWorld_release
    have hevents : guardEvents .reference (.guard (.submit payRelease .startupDefault))
        refusedWorld = [.submitted payRelease] := by
      simp [guardEvents, submissions, hq, hblocked]
    have hrefused : run (serviceStep .reference) ⟨.empty, .initial "default"⟩ refusedCalls =
        refusedWorld := rfl
    unfold guardHistory resubmittedCalls
    rw [trace_concat, hrefused, hevents, hrelease]
    exact currentSteps_submitted _ _ _
  have hbound := h .reference (.initial "default") resubmittedCalls refusedStep ""
  rw [run_resubmitted] at hbound
  obtain ⟨honly, -⟩ := hbound huuid step hstep'
  have hcurrent := (honly happroves).1
  rw [hnone] at hcurrent
  exact absurd hcurrent List.not_mem_nil

end ControlFabric.ReleaseGuard
