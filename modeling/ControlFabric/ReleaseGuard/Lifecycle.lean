import ControlFabric.ReleaseGuard.Approval

/-! The life cycle of a release and the freeze of its evidence. Submissions and new evidence are let
through by the status of the release; the removal of evidence, the decisions of approvers and the
marks they set are not. -/
namespace ControlFabric.ReleaseGuard
open Lib Method Services

/-- A decision on an approval step of the release. -/
def ServiceCall.Decides (call : ServiceCall) (s : Services) (releaseId : String) : Prop :=
  match call with
  | .guard (.approve stepId _) | .guard (.reject stepId _ _) =>
    ∃ step ∈ s.steps.get? stepId, step.releaseId = releaseId
  | _ => False

/-- A submission of the release, or the approval of an exception for it. -/
def ServiceCall.Unblocks (call : ServiceCall) (s : Services) (releaseId : String) : Prop :=
  match call with
  | .guard (.submit id _) => id = releaseId
  | .guard (.approveException exceptionId _ _) =>
    ∃ exc ∈ s.exceptions.get? exceptionId, exc.releaseId = releaseId
  | _ => False

def ReleaseRequest.Frozen (r : ReleaseRequest) : Prop := r.status = .pending ∨ r.status = .approved

/-- What a call may make of a release. -/
structure Keeps (call : ServiceCall) (s : Services) (releaseId : String) (r r' : ReleaseRequest) :
    Prop where
  cancelled : r.status = .cancelled → r'.status = .cancelled
  decided : call.Decides s releaseId → r'.status ≠ r.status → r.status = .pending
  unblocked : r.status = .blocked → r'.status = .approved → call.Unblocks s releaseId
  frozen : r.Frozen → r'.evidenceItems = r.evidenceItems

/-- Every stored release stays, and only what may be made of it is made of it. -/
def Lawful (call : ServiceCall) (s s' : Services) : Prop :=
  ∀ releaseId, ∀ r ∈ s.releases.get? releaseId, ∃ r' ∈ s'.releases.get? releaseId,
    Keeps call s releaseId r r'

/-- The release is in a status in which the call does it no harm. -/
def Spares (call : ServiceCall) (s : Services) (releaseId : String) (r : ReleaseRequest) : Prop :=
  match call with
  | .guard (.removeEvidence id evidenceId) =>
    id = releaseId → r.Frozen → ∀ e ∈ r.evidenceItems, e.evidenceId ≠ evidenceId
  | .guard (.approve stepId _) => ∀ step ∈ s.steps.get? stepId, step.releaseId = releaseId →
      s.OthersApproved stepId releaseId → r.Frozen
  | .guard (.reject stepId _ _) => ∀ step ∈ s.steps.get? stepId, step.releaseId = releaseId →
      r.status = .pending ∨ r.status = .blocked
  | .guard (.approveException exceptionId _ _) =>
    ∀ exc ∈ s.exceptions.get? exceptionId, exc.releaseId = releaseId → r.status ≠ .cancelled
  | .markApproved id _ => id = releaseId → r.status ≠ .cancelled ∧ r.status ≠ .blocked
  | .markBlocked id _ _ => id = releaseId → r.status ≠ .cancelled
  | _ => True

def Harmless (call : ServiceCall) (s : Services) : Prop :=
  ∀ releaseId, ∀ r ∈ s.releases.get? releaseId, Spares call s releaseId r

/-! ### One call -/

section Step
variable {rt : Runtime} {call : ServiceCall} {w w' : World Services} {s s₀ s' : Services}
  {releaseId : String} {r r' : ReleaseRequest}

theorem Keeps.of_status (hstatus : r'.status = r.status)
    (hevidence : r.Frozen → r'.evidenceItems = r.evidenceItems) : Keeps call s releaseId r r' where
  cancelled := hstatus.trans
  decided := fun _ hchanged => absurd hstatus hchanged
  unblocked := by
    intro hblocked happroved
    rw [hstatus, hblocked] at happroved
    cases happroved
  frozen := hevidence

/-- A call that does not decide on a step of the release keeps to the rest. -/
theorem keeps_iff (hdecides : ¬ call.Decides s releaseId)
    (hevidence : r'.evidenceItems = r.evidenceItems) : Keeps call s releaseId r r' ↔
      (r.status = .cancelled → r'.status = .cancelled) ∧
        (r.status = .blocked → r'.status = .approved → call.Unblocks s releaseId) :=
  ⟨fun h => ⟨h.cancelled, h.unblocked⟩,
    fun h => ⟨h.1, fun hcall => absurd hcall hdecides, h.2, fun _ => hevidence⟩⟩

/-- A decision on a step leaves a pending release decided, or a decided one as it is. -/
theorem keeps_decided_iff {status : ReleaseStatus} (hdecides : call.Decides s releaseId)
    (hstatus : r'.status = status) (hne : status ≠ .cancelled)
    (hevidence : r'.evidenceItems = r.evidenceItems) :
    Keeps call s releaseId r r' ↔ r.status = .pending ∨ r.status = status := by
  constructor
  · intro hkeeps
    by_cases hsame : r.status = status
    · exact .inr hsame
    · exact .inl (hkeeps.decided hdecides (hstatus ▸ Ne.symm hsame))
  · intro h
    refine ⟨fun hcancelled => ?_, fun _ hchanged => ?_, fun hblocked happroved => ?_,
      fun _ => hevidence⟩
    · rcases h with h | h
      · cases hcancelled.symm.trans h
      · exact absurd (h.symm.trans hcancelled) hne
    · rcases h with h | h
      · exact h
      · exact absurd (hstatus.trans h.symm) hchanged
    · rcases h with h | h
      · cases hblocked.symm.trans h
      · cases hblocked.symm.trans (h.trans (hstatus.symm.trans happroved))

/-- A call that keeps the release spares it, whatever it does to others. -/
theorem spared_of_same (hreleases : s'.releases.get? releaseId = s.releases.get? releaseId)
    (hstored : s.releases.get? releaseId = some r) (hspares : Spares call s releaseId r) :
    ∃ r' ∈ s'.releases.get? releaseId, Keeps call s releaseId r r' ↔ Spares call s releaseId r :=
  ⟨r, hreleases.trans hstored, iff_of_true (.of_status rfl fun _ => rfl) hspares⟩

/-- The call rewrites one release, beside which the releases stay. -/
theorem spared_of_rewrite (s₀ : Services) {f : ReleaseRequest → ReleaseRequest} {target : String}
    (hself : s' = s₀.rewrite f target) (hsame : s₀.releases = s.releases)
    (hstored : s.releases.get? releaseId = some r)
    (htarget : releaseId = target →
      (Keeps call s releaseId r (f r) ↔ Spares call s releaseId r))
    (hother : releaseId ≠ target → Spares call s releaseId r) :
    ∃ r' ∈ s'.releases.get? releaseId, Keeps call s releaseId r r' ↔ Spares call s releaseId r := by
  subst hself
  by_cases hid : releaseId = target
  · refine ⟨f r, ?_, htarget hid⟩
    rw [get?_rewrite, if_pos hid, hsame, ← hid, hstored]
    rfl
  · refine spared_of_same ?_ hstored (hother hid)
    rw [get?_rewrite, if_neg hid, hsame]

theorem Refused.spares {call : GuardCall} (h : Refused call s) :
    Spares (.guard call) s releaseId r := by
  cases call with
  | approve stepId note => exact Dict.forall_get?_of_none h
  | reject stepId rejectedBy note => exact Dict.forall_get?_of_none h
  | approveException exceptionId approvedBy note => exact Dict.forall_get?_of_none h
  | removeEvidence releaseId evidenceId => exact h.elim
  | _ => trivial

theorem spares_approve_iff {stepId note : String} {step : ApprovalStep}
    (hstep : s.steps.get? stepId = some step) :
    Spares (.guard (.approve stepId note)) s releaseId r ↔
      (step.releaseId = releaseId → s.OthersApproved stepId releaseId → r.Frozen) :=
  Dict.forall_get?_of_some hstep

theorem spares_reject_iff {stepId rejectedBy note : String} {step : ApprovalStep}
    (hstep : s.steps.get? stepId = some step) :
    Spares (.guard (.reject stepId rejectedBy note)) s releaseId r ↔
      (step.releaseId = releaseId → r.status = .pending ∨ r.status = .blocked) :=
  Dict.forall_get?_of_some hstep

theorem spares_approveException_iff {exceptionId approvedBy note : String} {exc : ExceptionRequest}
    (hexc : s.exceptions.get? exceptionId = some exc) :
    Spares (.guard (.approveException exceptionId approvedBy note)) s releaseId r ↔
      (exc.releaseId = releaseId → r.status ≠ .cancelled) :=
  Dict.forall_get?_of_some hexc

/-- Every call does a release exactly the harm its status does not spare it. -/
theorem Act.spared (h : Act rt w w' call) (hlisted : w.self.Listed)
    (hfresh : w.env.draws < w'.env.draws → ¬ w.self.Stores (rt.uuid4 w.env.draws))
    (hstored : w.self.releases.get? releaseId = some r) :
    ∃ r' ∈ w'.self.releases.get? releaseId,
      Keeps call w.self releaseId r r' ↔ Spares call w.self releaseId r := by
  cases h with
  | refused hrefused hself => exact spared_of_same (by rw [hself]) hstored hrefused.spares
  | created q hstatus hdraw hself =>
    have hne : releaseId ≠ rt.uuid4 w.env.draws := by
      rintro rfl
      exact hfresh hdraw (.inl (Dict.mem_of_get? hstored))
    refine spared_of_same ?_ hstored trivial
    rw [hself]
    exact Dict.get?_set_of_ne hne _ _
  | evidenceAdded q hq hopen item f hf hself =>
    refine spared_of_rewrite _ hself rfl hstored (fun hid => ?_) fun _ => trivial
    subst hid
    obtain rfl := Option.some.inj (hstored.symm.trans hq)
    refine iff_of_true (.of_status (hf.status r) fun hfrozen => ?_) trivial
    rcases hopen with h | h <;> rcases hfrozen with h' | h' <;> rw [h] at h' <;> cases h'
  | @evidenceRemoved target evidenceId f hf hself =>
    refine spared_of_rewrite _ hself rfl hstored (fun hid => ?_) fun hne hid => absurd hid.symm hne
    subst hid
    have hevidence : (f r).evidenceItems = r.evidenceItems ↔
        ∀ e ∈ r.evidenceItems, e.evidenceId ≠ evidenceId := by
      rw [hf.evidence, List.filter_eq_self]
      simp only [decide_eq_true_eq]
    constructor
    · intro hkeeps _ hfrozen
      exact hevidence.mp (hkeeps.frozen hfrozen)
    · intro hspares
      exact .of_status (hf.status r) fun hfrozen => hevidence.mpr (hspares rfl hfrozen)
  | submitted q q' hq hopen hevidence hdecided hself =>
    refine spared_of_rewrite _ hself rfl hstored (fun hid => ?_) fun _ => trivial
    subst hid
    obtain rfl := Option.some.inj (hstored.symm.trans hq)
    refine iff_of_true ((keeps_iff ?_ hevidence).mpr ⟨?_, fun _ _ => rfl⟩) trivial
    · exact not_false
    intro hcancelled
    rcases hopen with h | h <;> rw [hcancelled] at h <;> cases h
  | cancelled f hf hself =>
    refine spared_of_rewrite _ hself rfl hstored (fun hid => ?_) fun _ => trivial
    refine iff_of_true ((keeps_iff ?_ (hf.evidence r)).mpr ⟨fun _ => hf.status r, ?_⟩) trivial
    · exact not_false
    intro _ happroved
    rw [hf.status] at happroved
    cases happroved
  | requested step hreleaseId hstatus hdraw hself =>
    exact spared_of_same (by rw [hself]; rfl) hstored trivial
  | @stepApproved stepId note step step' f hstep hreleaseId hstatus hf hself =>
    have hall := allApproved_withStep (hlisted stepId step hstep) hstatus
    by_cases hothers : w.self.OthersApproved stepId step.releaseId
    · rw [if_pos (hall.mpr hothers)] at hself
      refine spared_of_rewrite _ hself rfl hstored (fun hid => ?_) fun hne =>
        (spares_approve_iff hstep).mpr fun hid => absurd hid.symm hne
      subst hid
      refine (keeps_decided_iff ?_ (hf.status r) (by simp) (hf.evidence r)).trans ?_
      · exact ⟨step, hstep, rfl⟩
      rw [spares_approve_iff hstep]
      exact ⟨fun hfrozen _ _ => hfrozen, fun hspares => hspares rfl hothers⟩
    · rw [if_neg (mt hall.mp hothers)] at hself
      exact spared_of_same (by rw [hself]; rfl) hstored
        ((spares_approve_iff hstep).mpr fun hid hothers' => absurd (hid ▸ hothers') hothers)
  | @stepRejected stepId rejectedBy note step step' f hstep hreleaseId hstatus hf hself =>
    refine spared_of_rewrite (w.self.withStep stepId step') hself rfl hstored
      (fun hid => ?_) fun hne => (spares_reject_iff hstep).mpr fun hid => absurd hid.symm hne
    subst hid
    refine (keeps_decided_iff ?_ (hf.status r) (by simp) (hf.evidence r)).trans ?_
    · exact ⟨step, hstep, rfl⟩
    rw [spares_reject_iff hstep]
    exact ⟨fun hopen _ => hopen, fun hspares => hspares rfl⟩
  | raised q hq hblocked exc f byRelease hstatus hreleaseId hdraw hf hself =>
    refine spared_of_rewrite _ hself rfl hstored (fun hid => ?_) fun _ => trivial
    exact iff_of_true (.of_status (hf.status r) fun _ => hf.evidence r) trivial
  | @exceptionApproved exceptionId approvedBy note exc exc' f hexc hstatus hf hself =>
    refine spared_of_rewrite (w.self.withException exceptionId exc') hself rfl hstored
      (fun hid => ?_) fun hne =>
        (spares_approveException_iff hexc).mpr fun hid => absurd hid.symm hne
    subst hid
    refine (keeps_iff ?_ (hf.evidence r)).trans ?_
    · exact not_false
    rw [hf.status, spares_approveException_iff hexc]
    constructor
    · rintro ⟨hkeeps, -⟩ _ hcancelled
      cases hkeeps hcancelled
    · intro hspares
      exact ⟨fun hcancelled => absurd hcancelled (hspares rfl), fun _ _ => ⟨exc, hexc, rfl⟩⟩
  | @exceptionRejected exceptionId rejectedBy note exc exc' f hexc hstatus hf hself =>
    refine spared_of_rewrite (w.self.withException exceptionId exc') hself rfl hstored
      (fun hid => ?_) fun _ => trivial
    exact iff_of_true (.of_status (hf.status r) fun _ => hf.evidence r) trivial
  | markedApproved f hf hself =>
    refine spared_of_rewrite _ hself rfl hstored (fun hid => ?_) fun hne hid => absurd hid.symm hne
    refine (keeps_iff ?_ (hf.evidence r)).trans ?_
    · exact not_false
    rw [hf.status]
    constructor
    · rintro ⟨hcancelled, hblocked⟩ -
      refine ⟨fun h => ?_, fun h => hblocked h rfl⟩
      cases hcancelled h
    · intro hspares
      obtain ⟨hcancelled, hblocked⟩ := hspares hid.symm
      exact ⟨fun h => absurd h hcancelled, fun h _ => hblocked h⟩
  | markedBlocked f hf hself =>
    refine spared_of_rewrite _ hself rfl hstored (fun hid => ?_) fun hne hid => absurd hid.symm hne
    refine (keeps_iff ?_ (hf.evidence r)).trans ?_
    · exact not_false
    rw [hf.status]
    constructor
    · rintro ⟨hcancelled, -⟩ - h
      cases hcancelled h
    · intro hspares
      refine ⟨fun h => absurd h (hspares hid.symm), ?_⟩
      intro _ h
      cases h

theorem lawful_iff (hlisted : w.self.Listed)
    (hfresh : w.env.draws < (serviceStep rt call w).env.draws →
      ¬ w.self.Stores (rt.uuid4 w.env.draws)) :
    Lawful call w.self (serviceStep rt call w).self ↔ Harmless call w.self := by
  refine forall_congr' fun releaseId => forall_congr' fun r => forall_congr' fun hstored => ?_
  obtain ⟨r', hr', hiff⟩ := (does rt call).act.spared hlisted hfresh hstored
  constructor
  · rintro ⟨q, hq, hkeeps⟩
    obtain rfl := Option.some.inj (hr'.symm.trans hq)
    exact hiff.mp hkeeps
  · exact fun hspares => ⟨r', hr', hiff.mpr hspares⟩

end Step

/-! ### Every run -/

/-- In every run, all calls are lawful exactly if each one meets only releases that it spares. -/
theorem lawful_iff_harmless (rt : Runtime) (env : Env) (calls : List ServiceCall)
    (huuid : Set.InjOn rt.uuid4
      (Set.Iio (run (serviceStep rt) ⟨.empty, env⟩ calls).env.draws)) :
    Conforms (serviceStep rt) (fun call w => Lawful call w.self (serviceStep rt call w).self)
        ⟨.empty, env⟩ calls ↔
      Conforms (serviceStep rt) (fun call w => Harmless call w.self) ⟨.empty, env⟩ calls :=
  conforms_congr (serviceStep rt) (fun _ _ _ h => h.step)
    (fun _ _ _ h => lawful_iff h.1 h.not_stores) (ready_empty huuid)

/-- A release is created and given evidence, an approver is asked, and the release is cancelled. -/
def cancelledCalls : List ServiceCall :=
  (draftCalls ++ [GuardCall.addEvidence payRelease .buildResult "Build" "b-1" "" "ada",
    GuardCall.cancel payRelease "ada"]).map .guard

theorem lawful_cancelled : Conforms (serviceStep .reference)
    (fun call w => Lawful call w.self (serviceStep .reference call w).self)
      ⟨.empty, .initial "default"⟩ cancelledCalls := by
  refine (lawful_iff_harmless .reference (.initial "default") cancelledCalls ?_).mpr ?_
  · apply Runtime.reference_uuid4.mono
    apply Set.Iio_subset_Iio
    decide +kernel
  · exact ⟨fun _ _ _ => trivial, fun _ _ _ => trivial, fun _ _ _ => trivial, fun _ _ _ => trivial,
      trivial⟩

def lateApproval : ServiceCall := .guard (.approve "00000000-0000-4000-8000-000000000002" "")

def cancelledWorld : World Services :=
  run (serviceStep .reference) ⟨.empty, .initial "default"⟩ cancelledCalls

theorem cancelledWorld_release :
    ∃ r ∈ cancelledWorld.self.releases.get? payRelease, r.status = .cancelled := by
  have hany : (cancelledWorld.self.releases.get? payRelease).any
      (fun r => decide (r.status = .cancelled)) = true := by decide +kernel
  obtain ⟨r, hr, h⟩ := (Option.any_eq_true _ _).mp hany
  exact ⟨r, hr, of_decide_eq_true h⟩

theorem lateApproval_release :
    ∃ r ∈ (serviceStep .reference lateApproval cancelledWorld).self.releases.get? payRelease,
      r.status = .approved := by
  have hany : ((serviceStep .reference lateApproval cancelledWorld).self.releases.get?
      payRelease).any (fun r => decide (r.status = .approved)) = true := by decide +kernel
  obtain ⟨r, hr, h⟩ := (Option.any_eq_true _ _).mp hany
  exact ⟨r, hr, of_decide_eq_true h⟩

/-- The approver approves after the release was cancelled, and the release becomes approved. -/
theorem not_lawful : ¬ ∀ (rt : Runtime) (env : Env) (calls : List ServiceCall),
    Set.InjOn rt.uuid4 (Set.Iio (run (serviceStep rt) ⟨.empty, env⟩ calls).env.draws) →
      Conforms (serviceStep rt) (fun call w => Lawful call w.self (serviceStep rt call w).self)
        ⟨.empty, env⟩ calls := by
  intro h
  have huuid : Set.InjOn Runtime.reference.uuid4 (Set.Iio (run (serviceStep .reference)
      ⟨.empty, .initial "default"⟩ (cancelledCalls ++ [lateApproval])).env.draws) := by
    apply Runtime.reference_uuid4.mono
    apply Set.Iio_subset_Iio
    decide +kernel
  have hlawful : Lawful lateApproval cancelledWorld.self
      (serviceStep .reference lateApproval cancelledWorld).self :=
    (conforms_iff_split _).mp (h .reference (.initial "default") _ huuid) cancelledCalls
      lateApproval [] rfl
  obtain ⟨r, hr, hcancelled⟩ := cancelledWorld_release
  obtain ⟨r', hr', happroved⟩ := lateApproval_release
  obtain ⟨q, hq, hkeeps⟩ := hlawful payRelease r hr
  obtain rfl := Option.some.inj (hr'.symm.trans hq)
  have hstill := hkeeps.cancelled hcancelled
  rw [happroved] at hstill
  cases hstill

end ControlFabric.ReleaseGuard
