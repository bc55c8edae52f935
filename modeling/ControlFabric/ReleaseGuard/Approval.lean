import ControlFabric.ReleaseGuard.Deeds
import ControlFabric.Gate.Governed
import ControlFabric.Lib.Run

/-! When a release becomes approved. A submission checks the evidence and, where approval is needed,
leaves the release pending; the approval of the last step approves the release whatever its status,
its evidence and the number of its steps. -/
namespace ControlFabric.ReleaseGuard
open Lib Method Services

/-- The submission that a call makes: the release and the profile it is checked against. -/
def submissions (call : GuardCall) (s : Services) : List (String × PolicyProfileName) :=
  match call with
  | .submit releaseId profileName =>
    match s.releases.get? releaseId with
    | some r => if r.status = .draft ∨ r.status = .blocked then [(releaseId, profileName)] else []
    | none => []
  | _ => []

/-- The services with the submissions made so far. -/
structure Tracked where
  world : World Services
  submitted : List (String × PolicyProfileName)

def trackedStep (rt : Runtime) (call : GuardCall) (t : Tracked) : Tracked :=
  ⟨guardStep rt call t.world, t.submitted ++ submissions call t.world.self⟩

def Tracked.initial (env : Env) : Tracked := ⟨⟨.empty, env⟩, []⟩

/-- A release becomes approved by the call. -/
def Approves (s s' : Services) (releaseId : String) : Prop :=
  (∀ r ∈ s.releases.get? releaseId, r.status ≠ .approved) ∧
    ∃ r ∈ s'.releases.get? releaseId, r.status = .approved

/-- The evidence that the profile of the latest submission requires is attached, and if approval is
needed enough steps are approved. -/
def SoundlyApproved (t : Tracked) (releaseId : String) : Prop :=
  ∃ profileName ∈ latest t.submitted releaseId, ∃ r ∈ t.world.self.releases.get? releaseId,
    r.Complete profileName ∧ (needsApproval profileName r.riskLevel →
      approversRequired profileName ≤
        (t.world.self.getStepsForRelease releaseId).countP fun step => step.status = .approved)

/-- Evidence is taken from a pending release only if no profile requires it or another item of its
type stays; and the step that is approved last is one of enough steps of a pending release. -/
def Careful (call : GuardCall) (t : Tracked) : Prop :=
  match call with
  | .removeEvidence releaseId evidenceId =>
    ∀ r ∈ t.world.self.releases.get? releaseId, r.status = .pending →
      ∀ e ∈ r.evidenceItems, e.evidenceId = evidenceId →
        (∀ profileName, e.evidenceType.value ∉ getRequiredEvidence profileName) ∨
          ∃ e' ∈ r.evidenceItems, e'.evidenceId ≠ evidenceId ∧ e'.evidenceType = e.evidenceType
  | .approve stepId _ =>
    ∀ step ∈ t.world.self.steps.get? stepId,
      (∀ id ∈ t.world.self.stepsByRelease.getD step.releaseId [], id ≠ stepId →
        ∀ other ∈ t.world.self.steps.get? id, other.status = .approved) →
      ∀ r ∈ t.world.self.releases.get? step.releaseId, r.status = .approved ∨
        r.status = .pending ∧ ∀ profileName ∈ latest t.submitted step.releaseId,
          approversRequired profileName ≤
            (t.world.self.getStepsForRelease step.releaseId).length
  | _ => True

/-! ### One call -/

/-- What a call may make of a stored release. -/
inductive Change (call : GuardCall) (s s' : Services) (releaseId : String)
    (r r' : ReleaseRequest) : Prop where
  | noted (hstatus : r'.status = r.status) (hevidence : r'.evidenceItems = r.evidenceItems)
      (hrisk : r'.riskLevel = r.riskLevel)
  | idle (hpending : r'.status ≠ .pending) (happroved : r'.status ≠ .approved)
  | removed (evidenceId : String) (hcall : call = .removeEvidence releaseId evidenceId)
      (hstatus : r'.status = r.status) (hrisk : r'.riskLevel = r.riskLevel)
      (hevidence : r'.evidenceItems = r.evidenceItems.filter fun e => e.evidenceId ≠ evidenceId)
  | approved (stepId note : String) (step step' : ApprovalStep)
      (hcall : call = .approve stepId note) (hstep : s.steps.get? stepId = some step)
      (hreleaseId : step.releaseId = releaseId)
      (hsteps : s'.steps = s.steps.set stepId step') (hlists : s'.stepsByRelease = s.stepsByRelease)
      (hall : s'.AllApproved releaseId) (hevidence : r'.evidenceItems = r.evidenceItems)
      (hrisk : r'.riskLevel = r.riskLevel) (hstatus : r'.status = .approved)
  | excepted (exceptionId approvedBy note : String)
      (hcall : call = .approveException exceptionId approvedBy note)
      (hstatus : r'.status = .approved)

inductive Effect (call : GuardCall) (s s' : Services) : Prop where
  | kept (hnone : submissions call s = []) (hreleases : s'.releases = s.releases)
  | created (releaseId : String) (r : ReleaseRequest) (hnone : submissions call s = [])
      (hstatus : r.status = .draft) (hreleases : s'.releases = s.releases.set releaseId r)
  | changed (releaseId : String) (r r' : ReleaseRequest) (hnone : submissions call s = [])
      (hstored : s.releases.get? releaseId = some r) (hchange : Change call s s' releaseId r r')
      (hreleases : s'.releases = s.releases.set releaseId r')
  | submitted (releaseId : String) (profileName : PolicyProfileName) (r' : ReleaseRequest)
      (hone : submissions call s = [(releaseId, profileName)]) (hdecided : Decided profileName r')
      (hreleases : s'.releases = s.releases.set releaseId r')

/-- A rewriting of a release, beside which the releases stay, is a change of it. -/
theorem effect_rewrite {call : GuardCall} {s s' : Services} (s₀ : Services)
    {f : ReleaseRequest → ReleaseRequest} {releaseId : String} (hnone : submissions call s = [])
    (hsame : s₀.releases = s.releases)
    (hself : s' = s₀.rewrite f releaseId)
    (hchange : ∀ r, s.releases.get? releaseId = some r → Change call s s' releaseId r (f r)) :
    Effect call s s' := by
  subst hself
  cases hstored : s.releases.get? releaseId with
  | none => exact .kept hnone (by rw [rewrite_none (hsame ▸ hstored), hsame])
  | some r =>
    refine .changed releaseId r (f r) hnone hstored (hchange r hstored) ?_
    rw [rewrite_some f (hsame ▸ hstored), hsame]

theorem Refused.submissions_eq_nil {call : GuardCall} {s : Services} (h : Refused call s) :
    submissions call s = [] := by
  cases call with
  | submit releaseId profileName =>
    cases hstored : s.releases.get? releaseId with
    | none => simp only [submissions, hstored]
    | some r =>
      simp only [submissions, hstored]
      exact if_neg (h r hstored)
  | _ => rfl

theorem effect (rt : Runtime) {w : World Services} (call : GuardCall) :
    Effect call w.self (guardStep rt call w).self := by
  have hact : Act rt w (guardStep rt call w) (.guard call) := (does rt (.guard call)).act
  generalize guardStep rt call w = w' at hact ⊢
  cases hact with
  | refused hrefused hself => exact .kept hrefused.submissions_eq_nil (by rw [hself])
  | created r hstatus hdraw hself =>
    exact .created (rt.uuid4 w.env.draws) r rfl hstatus (by rw [hself])
  | evidenceAdded r hstored hopen item f hf hself =>
    refine effect_rewrite _ rfl rfl hself fun q hq => ?_
    obtain rfl := Option.some.inj (hstored.symm.trans hq)
    refine .idle ?_ ?_
    · rcases hopen with h | h <;> simp [hf.status, h]
    · rcases hopen with h | h <;> simp [hf.status, h]
  | evidenceRemoved f hf hself =>
    exact effect_rewrite _ rfl rfl hself fun r _ =>
      .removed _ rfl (hf.status r) (hf.risk r) (hf.evidence r)
  | @submitted releaseId profileName r r' hstored hopen hevidence hdecided hself =>
    refine .submitted releaseId profileName r' ?_ hdecided ?_
    · simp only [submissions, hstored]
      exact if_pos hopen
    · rw [hself, rewrite_some _ hstored]
  | cancelled f hf hself =>
    exact effect_rewrite _ rfl rfl hself fun r _ =>
      .idle (by simp [hf.status]) (by simp [hf.status])
  | requested step hreleaseId hstatus hdraw hself => exact .kept rfl (by rw [hself]; rfl)
  | @stepApproved stepId note step step' f hstep hreleaseId hstatus hf hself =>
    by_cases hall : (w.self.withStep stepId step').AllApproved step.releaseId
    · rw [if_pos hall] at hself
      refine effect_rewrite (w.self.withStep stepId step') rfl rfl hself fun r _ => ?_
      refine .approved stepId note step step' rfl hstep rfl ?_ ?_ ?_ (hf.evidence r) (hf.risk r)
        (hf.status r)
      · rw [hself, rewrite_steps]
        rfl
      · rw [hself, rewrite_stepsByRelease]
        rfl
      · rw [hself, allApproved_rewrite]
        exact hall
    · rw [if_neg hall] at hself
      exact .kept rfl (by rw [hself]; rfl)
  | @stepRejected stepId rejectedBy note step step' f hstep hreleaseId hstatus hf hself =>
    exact effect_rewrite (w.self.withStep stepId step') rfl rfl hself fun r _ =>
      .idle (by simp [hf.status]) (by simp [hf.status])
  | @raised releaseId _ _ _ _ _ _ r hstored hblocked exc f byRelease _ _ _ hf hself =>
    refine effect_rewrite _ ?_ ?_ hself fun r _ => .noted (hf.status r) (hf.evidence r) (hf.risk r)
    · rfl
    · rfl
  | @exceptionApproved exceptionId approvedBy note exc exc' f hexc hstatus hf hself =>
    exact effect_rewrite (w.self.withException exceptionId exc') rfl rfl hself fun r _ =>
      .excepted exceptionId approvedBy note rfl (hf.status r)
  | @exceptionRejected exceptionId rejectedBy note exc exc' f hexc hstatus hf hself =>
    exact effect_rewrite (w.self.withException exceptionId exc') rfl rfl hself fun r _ =>
      .noted (hf.status r) (hf.evidence r) (hf.risk r)

/-! ### Every run -/

/-- A pending release has the evidence that the profile of its latest submission requires. -/
def PendingComplete (t : Tracked) : Prop :=
  ∀ releaseId, ∀ r ∈ t.world.self.releases.get? releaseId, r.status = .pending →
    ∃ profileName ∈ latest t.submitted releaseId, r.Complete profileName

theorem ReleaseRequest.Complete.congr {r r' : ReleaseRequest} {profileName : PolicyProfileName}
    (h : r.Complete profileName) (hevidence : r'.evidenceItems = r.evidenceItems) :
    r'.Complete profileName := by
  unfold ReleaseRequest.Complete at h ⊢
  rw [hevidence]
  exact h

/-- Evidence that no profile requires, or that another item stands in for, can be removed. -/
theorem ReleaseRequest.Complete.remove {r r' : ReleaseRequest} {profileName : PolicyProfileName}
    {evidenceId : String} (h : r.Complete profileName)
    (hevidence : r'.evidenceItems = r.evidenceItems.filter fun e => e.evidenceId ≠ evidenceId)
    (hcareful : ∀ e ∈ r.evidenceItems, e.evidenceId = evidenceId →
      (∀ profileName, e.evidenceType.value ∉ getRequiredEvidence profileName) ∨
        ∃ e' ∈ r.evidenceItems, e'.evidenceId ≠ evidenceId ∧ e'.evidenceType = e.evidenceType) :
    r'.Complete profileName := by
  intro req hreq
  rw [hevidence]
  obtain ⟨e, he, hvalue⟩ := h req hreq
  by_cases hid : e.evidenceId = evidenceId
  · rcases hcareful e he hid with hnever | ⟨e', he', hid', htype⟩
    · exact absurd (hvalue ▸ hreq) (hnever profileName)
    · exact ⟨e', List.mem_filter.mpr ⟨he', decide_eq_true hid'⟩, by rw [htype, hvalue]⟩
  · exact ⟨e, List.mem_filter.mpr ⟨he, decide_eq_true hid⟩, hvalue⟩

section Run
variable (rt : Runtime) {call : GuardCall} {t : Tracked}

/-- What a stored release is like after a call that puts `r'` under `releaseId`. -/
theorem forall_set {s s' : Services} {releaseId : String} {r' : ReleaseRequest}
    (hset : s'.releases = s.releases.set releaseId r') {P : String → ReleaseRequest → Prop}
    (hnew : P releaseId r') (hold : ∀ id, id ≠ releaseId → ∀ r ∈ s.releases.get? id, P id r) :
    ∀ id, ∀ r ∈ s'.releases.get? id, P id r := by
  intro id r hr
  rw [hset, Dict.get?_set] at hr
  by_cases hid : id = releaseId
  · rw [if_pos hid, Option.mem_some_iff] at hr
    rw [hid, ← hr]
    exact hnew
  · rw [if_neg hid] at hr
    exact hold id hid r hr

theorem pendingComplete_step (h : PendingComplete t) (hcareful : Careful call t) :
    PendingComplete (trackedStep rt call t) := by
  have heffect := effect rt (w := t.world) call
  unfold PendingComplete trackedStep
  dsimp only
  generalize (guardStep rt call t.world).self = s' at heffect ⊢
  cases heffect with
  | kept hnone hreleases =>
    rw [hnone, List.append_nil, hreleases]
    exact h
  | created releaseId r hnone hstatus hreleases =>
    rw [hnone, List.append_nil]
    refine forall_set hreleases ?_ fun id _ => h id
    intro hpending
    rw [hstatus] at hpending
    cases hpending
  | changed releaseId r r' hnone hstored hchange hreleases =>
    rw [hnone, List.append_nil]
    refine forall_set hreleases ?_ fun id _ => h id
    intro hpending
    cases hchange with
    | noted hstatus hevidence hrisk =>
      obtain ⟨profileName, hlatest, hcomplete⟩ := h releaseId r hstored (hstatus ▸ hpending)
      exact ⟨profileName, hlatest, hcomplete.congr hevidence⟩
    | idle hnot happroved => exact absurd hpending hnot
    | removed evidenceId hcall hstatus hrisk hevidence =>
      subst hcall
      obtain ⟨profileName, hlatest, hcomplete⟩ := h releaseId r hstored (hstatus ▸ hpending)
      exact ⟨profileName, hlatest,
        hcomplete.remove hevidence (hcareful r hstored (hstatus ▸ hpending))⟩
    | approved _ _ _ _ _ _ _ _ _ _ _ _ hstatus =>
      rw [hstatus] at hpending
      cases hpending
    | excepted _ _ _ _ hstatus =>
      rw [hstatus] at hpending
      cases hpending
  | submitted releaseId profileName r' hone hdecided hreleases =>
    rw [hone]
    refine forall_set hreleases ?_ ?_
    · intro hpending
      rcases hdecided with hblocked | ⟨hcomplete, -⟩
      · rw [hblocked] at hpending
        cases hpending
      · exact ⟨profileName, by rw [latest_concat, if_pos rfl]; rfl, hcomplete⟩
    · intro id hid r hr hpending
      obtain ⟨profile, hlatest, hcomplete⟩ := h id r hr hpending
      exact ⟨profile, by rw [latest_concat, if_neg (Ne.symm hid)]; exact hlatest, hcomplete⟩

section LastStep
variable {s s' : Services} {stepId releaseId : String} {step step' : ApprovalStep}

/-- Deciding on a step leaves the number of steps of a release. -/
theorem length_getStepsForRelease (hstep : s.steps.get? stepId = some step)
    (hsteps : s'.steps = s.steps.set stepId step') (hlists : s'.stepsByRelease = s.stepsByRelease) :
    (s'.getStepsForRelease releaseId).length = (s.getStepsForRelease releaseId).length := by
  unfold getStepsForRelease
  rw [hsteps, hlists, List.length_filterMap_eq_countP, List.length_filterMap_eq_countP]
  apply List.countP_congr
  intro id _
  rw [Dict.get?_set]
  by_cases hid : id = stepId
  · simp [hid, hstep]
  · rw [if_neg hid]

/-- If all steps are approved with this one, the others were. -/
theorem others_approved (hsteps : s'.steps = s.steps.set stepId step')
    (hlists : s'.stepsByRelease = s.stepsByRelease) (hall : s'.AllApproved releaseId) :
    ∀ id ∈ s.stepsByRelease.getD releaseId [], id ≠ stepId →
      ∀ other ∈ s.steps.get? id, other.status = .approved := by
  intro id hid hne other hother
  apply hall.1 other
  unfold getStepsForRelease
  rw [hsteps, hlists]
  refine List.mem_filterMap.mpr ⟨id, hid, ?_⟩
  rw [Dict.get?_set_of_ne hne]
  exact hother

end LastStep

theorem statuses_of_approves {s s' : Services} {releaseId : String} {r r' : ReleaseRequest}
    (hstored : s.releases.get? releaseId = some r) (hnew : s'.releases.get? releaseId = some r')
    (happroves : Approves s s' releaseId) : r.status ≠ .approved ∧ r'.status = .approved := by
  obtain ⟨hbefore, q, hq, happroved⟩ := happroves
  obtain rfl := Option.some.inj (hnew.symm.trans hq)
  exact ⟨hbefore r hstored, happroved⟩

/-- A release that a call does not touch does not become approved. -/
theorem not_approves_of_same {s s' : Services} {releaseId : String}
    (hsame : s'.releases.get? releaseId = s.releases.get? releaseId) :
    ¬ Approves s s' releaseId := by
  rintro ⟨hbefore, r, hr, happroved⟩
  rw [hsame] at hr
  exact hbefore r hr happroved

theorem soundlyApproved_step (h : PendingComplete t) (hcareful : Careful call t)
    (hcall : ∀ exceptionId approvedBy note, call ≠ .approveException exceptionId approvedBy note)
    {releaseId : String}
    (happroves : Approves t.world.self (trackedStep rt call t).world.self releaseId) :
    SoundlyApproved (trackedStep rt call t) releaseId := by
  have heffect := effect rt (w := t.world) call
  unfold SoundlyApproved
  unfold trackedStep at happroves ⊢
  dsimp only at happroves ⊢
  generalize (guardStep rt call t.world).self = s' at heffect happroves ⊢
  have hother {id : String} {q : ReleaseRequest}
      (hset : s'.releases = t.world.self.releases.set id q) : releaseId = id := by
    by_contra hne
    refine not_approves_of_same ?_ happroves
    rw [hset, Dict.get?_set_of_ne hne]
  cases heffect with
  | kept hnone hreleases => exact absurd happroves (not_approves_of_same (by rw [hreleases]))
  | created id q hnone hstatus hreleases =>
    obtain rfl := hother hreleases
    obtain ⟨-, r, hr, happroved⟩ := happroves
    rw [hreleases, Dict.get?_set_self, Option.mem_some_iff] at hr
    rw [← hr, hstatus] at happroved
    cases happroved
  | changed id q q' hnone hstored hchange hreleases =>
    obtain rfl := hother hreleases
    have hnew : s'.releases.get? releaseId = some q' := by rw [hreleases, Dict.get?_set_self]
    obtain ⟨hbefore, happroved⟩ := statuses_of_approves hstored hnew happroves
    cases hchange with
    | noted hstatus hevidence hrisk => exact absurd (hstatus ▸ happroved) hbefore
    | idle hpending hidle => exact absurd happroved hidle
    | removed evidenceId hremove hstatus hrisk hevidence =>
      exact absurd (hstatus ▸ happroved) hbefore
    | approved stepId note step step' happrove hstep hreleaseId hsteps hlists hall hevidence hrisk
        hstatus =>
      subst happrove hreleaseId
      -- the condition leaves a pending release with enough steps
      rcases hcareful step hstep (others_approved hsteps hlists hall) q hstored with
        hearlier | ⟨hpending, henough⟩
      · exact absurd hearlier hbefore
      · obtain ⟨profileName, hlatest, hcomplete⟩ := h step.releaseId q hstored hpending
        refine ⟨profileName, ?_, q', hnew, hcomplete.congr hevidence, fun _ => ?_⟩
        · rw [hnone, List.append_nil]
          exact hlatest
        · have hcount : (s'.getStepsForRelease step.releaseId).countP
              (fun step => step.status = .approved) =
                (s'.getStepsForRelease step.releaseId).length := by
            rw [List.countP_eq_length]
            exact fun other hother => decide_eq_true (hall.1 other hother)
          rw [hcount, length_getStepsForRelease hstep hsteps hlists]
          exact henough profileName hlatest
    | excepted exceptionId approvedBy note hexception hstatus =>
      exact absurd hexception (hcall exceptionId approvedBy note)
  | submitted id profileName q' hone hdecided hreleases =>
    obtain rfl := hother hreleases
    have hnew : s'.releases.get? releaseId = some q' := by rw [hreleases, Dict.get?_set_self]
    obtain ⟨-, r, hr, happroved⟩ := happroves
    obtain rfl := Option.some.inj (hnew.symm.trans hr)
    rcases hdecided with hblocked | ⟨hcomplete, ⟨hpending, -⟩ | ⟨-, hneedless⟩⟩
    · rw [hblocked] at happroved
      cases happroved
    · rw [hpending] at happroved
      cases happroved
    · refine ⟨profileName, ?_, q', hnew, hcomplete, fun hneeds => absurd hneeds hneedless⟩
      rw [hone, latest_concat, if_pos rfl]
      rfl

/-- In a run of careful calls every release that becomes approved, other than by an exception, has
the evidence its profile requires and enough approved steps. -/
theorem approvals_sound {env : Env} {calls : List GuardCall}
    (h : Conforms (trackedStep rt) Careful (.initial env) calls) :
    ∀ before call after, calls = before ++ call :: after →
      (∀ exceptionId approvedBy note, call ≠ .approveException exceptionId approvedBy note) →
      let t := run (trackedStep rt) (.initial env) before
      ∀ releaseId, Approves t.world.self (trackedStep rt call t).world.self releaseId →
        SoundlyApproved (trackedStep rt call t) releaseId := by
  intro before call after heq hcall t releaseId happroves
  have hinitial : PendingComplete (.initial env) := by
    intro id r hr
    cases hr
  have hbefore : Conforms (trackedStep rt) Careful (.initial env) before :=
    h.of_prefix (trackedStep rt) ⟨call :: after, heq.symm⟩
  have hpending : PendingComplete t :=
    hbefore.run_invariant (trackedStep rt) (fun _ _ => pendingComplete_step rt) hinitial
  have hcareful : Careful call t := (conforms_iff_split (trackedStep rt)).mp h before call after heq
  exact soundlyApproved_step rt hpending hcareful hcall happroves

theorem trackedStep_world (call : GuardCall) (t : Tracked) :
    (trackedStep rt call t).world = guardStep rt call t.world := rfl

/-- What is tracked of a run beside the submissions is the run. -/
theorem tracked_world (t : Tracked) (calls : List GuardCall) :
    (run (trackedStep rt) t calls).world = run (guardStep rt) t.world calls := by
  induction calls generalizing t with
  | nil => rfl
  | cons call calls ih => exact ih (trackedStep rt call t)

end Run

/-! ### Approvals -/

section Approvals
variable (rt : Runtime) {w : World Services} {releaseId : String} {r : ReleaseRequest}

/-- The approval of the last step approves the release, whatever its status and its evidence. -/
theorem approve_last {stepId : String} {step : ApprovalStep}
    (hstep : w.self.steps.get? stepId = some step)
    (hlisted : stepId ∈ w.self.stepsByRelease.getD step.releaseId [])
    (hothers : ∀ id ∈ w.self.stepsByRelease.getD step.releaseId [], id ≠ stepId →
      ∀ other ∈ w.self.steps.get? id, other.status = .approved)
    (hstored : w.self.releases.get? step.releaseId = some r) (note : String) :
    ∃ r' ∈ (guardStep rt (.approve stepId note) w).self.releases.get? step.releaseId,
      r'.status = .approved := by
  obtain ⟨f, env, hf, -, hafter⟩ := after_approve rt hstep note
  let step' := step.approvedAt (rt.now w.env.draws).isoformat note
  have hall : (w.self.withStep stepId step').AllApproved step.releaseId :=
    (allApproved_withStep hlisted rfl).mpr hothers
  unfold guardStep
  rw [GuardCall.perform, after_discard, hafter]
  dsimp only
  rw [if_pos hall, get?_rewrite, if_pos rfl]
  refine ⟨f r, ?_, hf.status r⟩
  rw [withStep, hstored]
  rfl

theorem submission_admissible (h : r.submittedBy ≠ "") :
    (submission r).Admissible (PlatformActionReleaseGate.new none none).chain.activePolicies := by
  refine ⟨⟨by simp [submission], h, by simp [submission]⟩, by simp [submission],
    List.not_mem_nil, ?_⟩
  intro allowed hallowed
  cases hallowed

/-- The gate lets a release of a named submitter pass. -/
theorem askGate_compiled {σ : Type} (v : World σ) (h : r.submittedBy ≠ "") :
    ∃ result env, result.status = .compiled ∧ env.draws = v.env.draws + 9 ∧
      (askGate rt r).run v = .ok (some result) ⟨v.self, env⟩ := by
  obtain ⟨result, gate', env', hstatus, -, -, hdraws, hrun⟩ :=
    submit_released rt v.env rfl (submission_admissible h)
  refine ⟨result, env', hstatus, hdraws, ?_⟩
  unfold askGate
  rw [run_on, run_tryCatch, run_map, hrun]

/-- A release of a named submitter with complete evidence is approved or left to its approvers. -/
theorem submit_complete (hstored : w.self.releases.get? releaseId = some r)
    (hstatus : r.status = .draft ∨ r.status = .blocked) {profileName : PolicyProfileName}
    (hcomplete : r.Complete profileName) (hby : r.submittedBy ≠ "") :
    ∃ r' env, guardStep rt (.submit releaseId profileName) w =
        ⟨{ w.self with releases := w.self.releases.set releaseId r' }, env⟩ ∧
      r'.evidenceItems = r.evidenceItems ∧ r'.riskLevel = r.riskLevel ∧
        r'.status = (if needsApproval profileName r.riskLevel then .pending else .approved) ∧
          env.draws = w.env.draws + 11 := by
  have hopen : ¬ (r.status ≠ .draft ∧ r.status ≠ .blocked) := by tauto
  unfold guardStep
  rw [GuardCall.perform, after_discard]
  simp only [after, submit, EStateM.run_bind, run_getRelease, hstored, if_neg hopen, run_isoNow]
  generalize (rt.now w.env.draws).isoformat = now
  have hchecked : ¬ ¬ ((r.submittedAnew now).evidenceCompleteness profileName).complete :=
    not_not.mpr (ReleaseRequest.complete_iff.mpr hcomplete)
  obtain ⟨result, env, hcompiled, hdraws, hgate⟩ := askGate_compiled rt (r := r.submittedAnew now)
    (⟨w.self, w.env.tick 1⟩ : World Services) hby
  have hticked : (env.tick 1).draws = w.env.draws + 11 := by
    rw [Env.tick_draws, hdraws, Env.tick_draws]
  rw [if_neg hchecked]
  simp only [conclude, EStateM.run_bind]
  rw [hgate]
  simp only [if_pos hcompiled]
  by_cases hneeds : needsApproval profileName r.riskLevel
  · have hneeds' : needsApproval profileName (r.submittedAnew now).riskLevel := hneeds
    simp only [if_pos hneeds', run_addAudit, run_putRelease, run_pure, if_pos hneeds]
    refine ⟨_, _, rfl, ?_⟩
    exact ⟨rfl, rfl, rfl, hticked⟩
  · have hneeds' : ¬ needsApproval profileName (r.submittedAnew now).riskLevel := hneeds
    simp only [if_neg hneeds', run_addAudit, run_putRelease, run_pure, if_neg hneeds]
    refine ⟨_, _, rfl, ?_⟩
    exact ⟨rfl, rfl, rfl, hticked⟩

end Approvals
/-! ### A critical release with one approver -/

instance (r : ReleaseRequest) (profileName : PolicyProfileName) :
    Decidable (r.Complete profileName) :=
  inferInstanceAs (Decidable (∀ req ∈ _, ∃ e ∈ _, _))

/-- The release created first. -/
def payRelease : String := "00000000-0000-4000-8000-000000000000"

/-- The step requested after a release with two items of evidence. -/
def payStep : String := "00000000-0000-4000-8000-000000000006"

/-- A critical release with what the startup profile requires, and one approver. -/
def payCalls : List GuardCall :=
  [.create "shop" "default" "Pay" "payments" "production" .critical "ada" "",
    .addEvidence payRelease .buildResult "Build" "b-1" "" "ada",
    .addEvidence payRelease .jiraTicket "Ticket" "j-1" "" "ada",
    .request payRelease "bea" 24]

def payWorld : World Services := run (guardStep .reference) ⟨.empty, .initial "default"⟩ payCalls

theorem payWorld_release : ∃ r, payWorld.self.releases.get? payRelease = some r ∧
    (r.status = .draft ∧ r.riskLevel = .critical ∧ r.submittedBy ≠ "") ∧
      r.Complete .startupDefault := by
  have hany : (payWorld.self.releases.get? payRelease).any (fun r =>
      decide ((r.status = .draft ∧ r.riskLevel = .critical ∧ r.submittedBy ≠ "") ∧
        r.Complete .startupDefault)) = true := by decide +kernel
  obtain ⟨r, hr, h⟩ := (Option.any_eq_true _ _).mp hany
  exact ⟨r, hr, of_decide_eq_true h⟩

theorem payWorld_steps : (∃ step, payWorld.self.steps.get? payStep = some step ∧
      step.releaseId = payRelease) ∧
    payWorld.self.stepsByRelease.getD payRelease [] = [payStep] := by
  have hany : (payWorld.self.steps.get? payStep).any
      (fun step => decide (step.releaseId = payRelease)) = true := by decide +kernel
  obtain ⟨step, hstep, h⟩ := (Option.any_eq_true _ _).mp hany
  exact ⟨⟨step, hstep, of_decide_eq_true h⟩, by decide +kernel⟩

/-- The release is submitted and approved by its one approver. -/
theorem approvals_sound_startup :
    let t := run (trackedStep .reference) (.initial (.initial "default"))
      (payCalls ++ [.submit payRelease .startupDefault])
    Approves t.world.self (trackedStep .reference (.approve payStep "") t).world.self payRelease ∧
      SoundlyApproved (trackedStep .reference (.approve payStep "") t) payRelease := by
  intro t
  obtain ⟨r, hr, ⟨hdraft, hrisk, hby⟩, hcomplete⟩ := payWorld_release
  obtain ⟨⟨step, hstep, hrelease⟩, hlist⟩ := payWorld_steps
  obtain ⟨r', env, hsubmit, -, -, hstatus, -⟩ :=
    submit_complete .reference hr (.inl hdraft) hcomplete hby
  have hpending : r'.status = .pending := by
    rw [hstatus, hrisk]
    rfl
  have hworld : t.world =
      ⟨{ payWorld.self with releases := payWorld.self.releases.set payRelease r' }, env⟩ := by
    show (run (trackedStep .reference) _ _).world = _
    have hstart : run (guardStep .reference) (Tracked.initial (.initial "default")).world payCalls =
        payWorld := rfl
    rw [tracked_world, run_concat, hstart]
    exact hsubmit
  have hsubmitted : t.submitted = [(payRelease, .startupDefault)] := by
    have hone : submissions (.submit payRelease .startupDefault) payWorld.self =
        [(payRelease, .startupDefault)] := by simp [submissions, hr, hdraft]
    have hbefore : (run (trackedStep .reference) (.initial (.initial "default")) payCalls).world =
        payWorld := tracked_world .reference _ _
    show (run (trackedStep .reference) _ _).submitted = _
    rw [run_concat]
    show (run (trackedStep .reference) _ payCalls).submitted ++
      submissions _ (run (trackedStep .reference) _ payCalls).world.self = _
    rw [hbefore, hone]
    rfl
  have hothers : ∀ id ∈ payWorld.self.stepsByRelease.getD step.releaseId [], id ≠ payStep →
      ∀ other ∈ payWorld.self.steps.get? id, other.status = .approved := by
    intro id hid hne
    rw [hrelease, hlist] at hid
    exact absurd (List.mem_singleton.mp hid) hne
  have hreleased : t.world.self.releases.get? payRelease = some r' := by
    rw [hworld]
    exact Dict.get?_set_self _ _ _
  have happroves : Approves t.world.self
      (trackedStep .reference (.approve payStep "") t).world.self payRelease := by
    constructor
    · intro q hq
      obtain rfl := Option.some.inj (hreleased.symm.trans hq)
      rw [hpending]
      intro h
      cases h
    · have hstep' : t.world.self.steps.get? payStep = some step := by
        rw [hworld]
        exact hstep
      have hlast := approve_last .reference hstep' (by rw [hworld, hrelease]; simp [hlist])
        (by rw [hworld]; exact hothers) (by rw [hrelease]; exact hreleased) ""
      rw [hrelease] at hlast
      rw [trackedStep_world]
      exact hlast
  have hcareful : Careful (.approve payStep "") t := by
    intro step₁ hstep₁ _ q hq
    rw [hworld] at hstep₁
    obtain rfl := Option.some.inj (hstep.symm.trans hstep₁)
    rw [hrelease] at hq
    obtain rfl := Option.some.inj (hreleased.symm.trans hq)
    refine .inr ⟨hpending, ?_⟩
    rw [hsubmitted, hworld, hrelease]
    intro profileName hlatest
    obtain rfl := Option.some.inj hlatest
    simp [getStepsForRelease, hlist, hstep, approversRequired, getProfile]
  have hconforms : Conforms (trackedStep .reference) Careful (.initial (.initial "default"))
      (payCalls ++ [.submit payRelease .startupDefault, .approve payStep ""]) :=
    ⟨trivial, trivial, trivial, trivial, trivial, hcareful, trivial⟩
  refine ⟨happroves, approvals_sound .reference hconforms _ _ [] rfl ?_ payRelease happroves⟩
  intro _ _ _ hcall
  cases hcall

instance (s s' : Services) (releaseId : String) : Decidable (Approves s s' releaseId) :=
  inferInstanceAs (Decidable ((∀ r ∈ _, _) ∧ ∃ r ∈ _, _))

/-- A draft that was never submitted and has no evidence, with one approver. -/
def draftCalls : List GuardCall :=
  [.create "shop" "default" "Pay" "payments" "production" .critical "ada" "",
    .request payRelease "bea" 24]

/-- The approver of the draft approves it. -/
theorem not_approvals_sound : ¬ ∀ (rt : Runtime) (env : Env) (calls before : List GuardCall)
    (call : GuardCall) (after : List GuardCall), calls = before ++ call :: after →
      (∀ exceptionId approvedBy note, call ≠ .approveException exceptionId approvedBy note) →
      let t := run (trackedStep rt) (.initial env) before
      ∀ releaseId, Approves t.world.self (trackedStep rt call t).world.self releaseId →
        SoundlyApproved (trackedStep rt call t) releaseId := by
  intro h
  let call : GuardCall := .approve "00000000-0000-4000-8000-000000000002" ""
  have hcall : ∀ exceptionId approvedBy note,
      call ≠ .approveException exceptionId approvedBy note := by simp [call]
  have happroves : Approves
      (run (trackedStep .reference) (.initial (.initial "default")) draftCalls).world.self
      (trackedStep .reference call
        (run (trackedStep .reference) (.initial (.initial "default")) draftCalls)).world.self
      payRelease := by decide +kernel
  obtain ⟨profileName, hlatest, -⟩ := h .reference (.initial "default") _ draftCalls call [] rfl
    hcall payRelease happroves
  cases hlatest

end ControlFabric.ReleaseGuard
