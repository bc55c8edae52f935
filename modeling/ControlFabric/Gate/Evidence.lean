import ControlFabric.Gate.Accounting

/-! What the evidence of a submit says about the submit: the policies in its package against those
the chain applied, and the log entry of an action that was dispatched. -/
namespace ControlFabric
open Lib Method PlatformActionReleaseGate

/-- The submit returns a blocked result. -/
def Blocked (rt : Runtime) (s : Submission) (w : World PlatformActionReleaseGate) : Prop :=
  ∃ entry w', (submit rt s).run w = .ok entry w' ∧ entry.status = .blocked

/-- What a submit the chain lets through leaves behind. It is logged unless its executor returns
something the result model refuses. -/
structure Dispatched (rt : Runtime) (s : Submission) (w w' : World PlatformActionReleaseGate)
    (package : EvidencePackage) : Prop where
  packageId : package.packageId = rt.uuid4 (w.env.draws + 7)
  policySnapshot : package.policySnapshot = w.self.activePolicies
  stored : w'.self.packages = w.self.packages.set package.packageId package
  executed : w'.env.executed = w.env.executed ++ s.calls
  chainPolicies : w'.self.chain.activePolicies = w.self.chain.activePolicies
  gatePolicies : w'.self.activePolicies = w.self.activePolicies
  logged : s.ReturnsDict → ∃ entry, entry.packageId = package.packageId ∧
    w'.self.auditLog = w.self.auditLog ++ [entry]
  unlogged : ¬ s.ReturnsDict → w'.self.auditLog = w.self.auditLog
  unblocked : ¬ Blocked rt s w

theorem Submission.verdict_isDict_iff (s : Submission) (package : EvidencePackage) :
    (s.verdict package).2.isDict ↔ s.ReturnsDict := by
  unfold verdict ReturnsDict
  cases s.executor with
  | none => simp [Json.isDict]
  | some executor => cases ho : executor s.proposedPayload <;> simp [Json.isDict, ho]

theorem submit_dispatched (rt : Runtime) {s : Submission} {w : World PlatformActionReleaseGate}
    (h : s.Admissible w.self.chain.activePolicies) :
    ∃ package, Dispatched rt s w (submitStep rt s w) package := by
  have hrun := submit_admitted rt h
  let package := s.compiled rt w.self.activePolicies w.env.draws
  have hdict := s.verdict_isDict_iff package
  refine ⟨package, ?_⟩
  cases hresult : ActionDispatchResult.new rt (w.env.draws + 8) package.packageId
      (s.verdict package).1 (s.verdict package).2 none with
  | ok entry =>
    obtain ⟨hid, hstatus, hvalue⟩ := ActionDispatchResult.new_eq_ok hresult
    have hreturns : s.ReturnsDict := hdict.mp (by rw [hvalue]; rfl)
    have hreleased : entry.status ≠ .blocked := hstatus ▸ (s.verdict_status package).2.2.2
    simp only [package] at hresult
    simp only [hresult] at hrun
    rw [submitStep, after_ok hrun]
    exact {
      packageId := rfl
      policySnapshot := rfl
      stored := rfl
      executed := rfl
      chainPolicies := rfl
      gatePolicies := rfl
      logged := fun _ => ⟨entry, hid, rfl⟩
      unlogged := fun hn => absurd hreturns hn
      unblocked := by
        rintro ⟨entry', w', hrun', hblocked⟩
        obtain ⟨rfl, -⟩ := EStateM.Result.ok.inj (hrun.symm.trans hrun')
        exact hreleased hblocked }
  | error e =>
    have hreturns : ¬ s.ReturnsDict := fun hr => by
      obtain ⟨entry, hok⟩ := ActionDispatchResult.new_ok rt (w.env.draws + 8) package.packageId
        (s.verdict package).1 none (hdict.mpr hr)
      exact absurd (hresult.symm.trans hok) (by simp)
    simp only [package] at hresult
    simp only [hresult] at hrun
    rw [submitStep, after_error hrun]
    exact {
      packageId := rfl
      policySnapshot := rfl
      stored := rfl
      executed := rfl
      chainPolicies := rfl
      gatePolicies := rfl
      logged := fun hr => absurd hr hreturns
      unlogged := fun _ => rfl
      unblocked := by
        rintro ⟨entry', w', hrun', -⟩
        exact absurd (hrun.symm.trans hrun') (by simp) }

theorem blocked_iff {rt : Runtime} {s : Submission} {w : World PlatformActionReleaseGate} :
    Blocked rt s w ↔ ¬ s.Admissible w.self.chain.activePolicies := by
  constructor
  · intro hblocked ha
    obtain ⟨package, hdispatched⟩ := submit_dispatched rt ha
    exact hdispatched.unblocked hblocked
  · intro ha
    obtain ⟨entry, rejection, k, -, hstatus, -, -, hrun⟩ := submit_blocked rt ha
    exact ⟨entry, _, hrun, hstatus⟩

/-! ### The policy snapshot -/

/-- Neither the chain nor the gate ever changes its policies. -/
theorem submitStep_policies (rt : Runtime) (s : Submission)
    (w : World PlatformActionReleaseGate) :
    (submitStep rt s w).self.chain.activePolicies = w.self.chain.activePolicies ∧
      (submitStep rt s w).self.activePolicies = w.self.activePolicies := by
  by_cases ha : s.Admissible w.self.chain.activePolicies
  · obtain ⟨package, hdispatched⟩ := submit_dispatched rt ha
    exact ⟨hdispatched.chainPolicies, hdispatched.gatePolicies⟩
  · obtain ⟨entry, rejection, k, -, -, -, -, hrun⟩ := submit_blocked rt ha
    rw [submitStep, after_ok hrun]
    exact ⟨rfl, rfl⟩

theorem submitRun_policies (rt : Runtime) (w : World PlatformActionReleaseGate)
    (subs : List Submission) :
    (submitRun rt w subs).self.chain.activePolicies = w.self.chain.activePolicies ∧
      (submitRun rt w subs).self.activePolicies = w.self.activePolicies := by
  apply run_rel (submitStep rt) (R := fun v v' =>
    v'.self.chain.activePolicies = v.self.chain.activePolicies ∧
      v'.self.activePolicies = v.self.activePolicies)
  · intro v
    exact ⟨rfl, rfl⟩
  · rintro a b c ⟨hab, hab'⟩ ⟨hbc, hbc'⟩
    exact ⟨hbc.trans hab, hbc'.trans hab'⟩
  · intro s v
    exact submitStep_policies rt s v

/-- The chain handed to the constructor, if any, holds the policies handed to the constructor. -/
def PoliciesAgree (validationChain : Option DeterministicValidationChain)
    (activePolicies : Option ActivePolicies) : Prop :=
  ∀ chain ∈ validationChain, chain.activePolicies = activePolicies.getD .none

theorem policiesAgree_iff (validationChain : Option DeterministicValidationChain)
    (activePolicies : Option ActivePolicies) :
    PoliciesAgree validationChain activePolicies ↔
      (PlatformActionReleaseGate.new validationChain activePolicies).activePolicies =
        (PlatformActionReleaseGate.new validationChain activePolicies).chain.activePolicies := by
  cases validationChain with
  | none => simp [PoliciesAgree, PlatformActionReleaseGate.new, DeterministicValidationChain.new]
  | some chain => simp [PoliciesAgree, PlatformActionReleaseGate.new, eq_comm]

/-- Whatever was submitted before, the snapshot in the package of a submit that is not blocked is
the policies its chain consulted exactly when the gate was built with agreeing policies. -/
theorem submit_policySnapshot_iff (rt : Runtime)
    (validationChain : Option DeterministicValidationChain)
    (activePolicies : Option ActivePolicies) (env : Env) (subs : List Submission) (s : Submission)
    (h : ¬ Blocked rt s (submitRun rt ⟨.new validationChain activePolicies, env⟩ subs)) :
    let w := submitRun rt ⟨.new validationChain activePolicies, env⟩ subs
    ∃ package,
      (submitStep rt s w).self.packages = w.self.packages.set package.packageId package ∧
      (package.policySnapshot = w.self.chain.activePolicies ↔
        PoliciesAgree validationChain activePolicies) := by
  intro w
  obtain ⟨package, hdispatched⟩ := submit_dispatched rt (not_not.mp (blocked_iff.not.mp h))
  obtain ⟨hchain, hgate⟩ := submitRun_policies rt ⟨.new validationChain activePolicies, env⟩ subs
  refine ⟨package, hdispatched.stored, ?_⟩
  rw [hdispatched.policySnapshot, hgate, hchain, policiesAgree_iff]

/-- Policies under which nobody may force a deployment. -/
def noForceDeploy : ActivePolicies := ⟨some ["force_deploy"], none, []⟩

/-- A deployment by an operator, to be compiled only. -/
def deployment : Submission :=
  ⟨"deploy", [("target", .str "production")], "ada", .humanOperator, none, none, none⟩

theorem deployment_admissible : Submission.Admissible noForceDeploy deployment := by
  simp [Submission.Admissible, deployment, noForceDeploy]

theorem deployment_admitted (env : Env) : ¬ Blocked .reference deployment
    (submitRun .reference ⟨.new (some (.new (some noForceDeploy))) none, env⟩ []) := by
  rw [blocked_iff, not_not]
  exact deployment_admissible

theorem submit_policySnapshot_deployment :
    let w := submitRun .reference
      ⟨.new (some (.new (some noForceDeploy))) none, .initial "default"⟩ []
    ∃ package,
      (submitStep .reference deployment w).self.packages =
        w.self.packages.set package.packageId package ∧
      (package.policySnapshot = w.self.chain.activePolicies ↔
        PoliciesAgree (some (.new (some noForceDeploy))) none) :=
  submit_policySnapshot_iff .reference (some (.new (some noForceDeploy))) none (.initial "default")
    [] deployment (deployment_admitted _)

/-- A chain with its own policies leaves an empty snapshot behind. -/
theorem submit_policySnapshot_differs :
    ¬ ∀ (rt : Runtime) (validationChain : Option DeterministicValidationChain)
      (activePolicies : Option ActivePolicies) (env : Env) (subs : List Submission)
      (s : Submission),
      let w := submitRun rt ⟨.new validationChain activePolicies, env⟩ subs
      ¬ Blocked rt s w → ∃ package,
        (submitStep rt s w).self.packages = w.self.packages.set package.packageId package ∧
        package.policySnapshot = w.self.chain.activePolicies := by
  intro h
  obtain ⟨package, hstored, hsnapshot⟩ := h .reference (some (.new (some noForceDeploy))) none
    (.initial "default") [] deployment (deployment_admitted _)
  have hempty : (submitRun .reference ⟨.new (some (.new (some noForceDeploy))) none,
    .initial "default"⟩ []).self.packages = Dict.empty := rfl
  have hgate : (submitRun .reference ⟨.new (some (.new (some noForceDeploy))) none,
    .initial "default"⟩ []).self.activePolicies = .none := rfl
  have hchain : (submitRun .reference ⟨.new (some (.new (some noForceDeploy))) none,
    .initial "default"⟩ []).self.chain.activePolicies = noForceDeploy := rfl
  generalize submitRun .reference ⟨.new (some (.new (some noForceDeploy))) none,
    .initial "default"⟩ [] = start at hstored hsnapshot hempty hgate hchain
  obtain ⟨compiled, hdispatched⟩ :=
    submit_dispatched .reference (s := deployment) (w := start) (hchain ▸ deployment_admissible)
  have hentries := congrArg Dict.entries (hstored.symm.trans hdispatched.stored)
  have hnew (p : EvidencePackage) :
      (start.self.packages.set p.packageId p).entries = [(p.packageId, p)] := by
    rw [hempty]
    exact Dict.entries_set_new (Dict.not_mem_empty p.packageId) p
  have hsame : package = compiled := by
    rw [hnew compiled] at hentries
    exact (Prod.mk.inj (List.cons.inj ((hnew package).symm.trans hentries)).1).2
  rw [hsame, hdispatched.policySnapshot, hgate, hchain] at hsnapshot
  exact absurd (congrArg ActivePolicies.blockedActionTypes hsnapshot) (by
    simp [ActivePolicies.none, noForceDeploy])

/-! ### The log entry of a dispatch -/

/-- In any state, once the executor of an accepted submit has been called, the log holds an entry
for the compiled package exactly when the executor raises or returns a dict (or an entry was there
before under the identifier the package draws). -/
theorem submit_logged_iff (rt : Runtime) {s : Submission} {executor : Executor}
    (w : World PlatformActionReleaseGate) (hexec : s.executor = some executor)
    (h : s.Accepted rt w) :
    ∃ package,
      package.packageId = rt.uuid4 (w.env.draws + 7) ∧
      (submitStep rt s w).self.packages = w.self.packages.set package.packageId package ∧
      (submitStep rt s w).env.executed = w.env.executed ++ [⟨executor, s.proposedPayload⟩] ∧
      ((∃ entry ∈ (submitStep rt s w).self.auditLog, entry.packageId = package.packageId) ↔
        s.ReturnsDict ∨
          ∃ entry ∈ w.self.auditLog, entry.packageId = rt.uuid4 (w.env.draws + 7)) := by
  obtain ⟨package, hdispatched⟩ := submit_dispatched rt (Submission.accepted_iff.mp h)
  refine ⟨package, hdispatched.packageId, hdispatched.stored, ?_, ?_⟩
  · rw [hdispatched.executed]
    simp [Submission.calls, hexec]
  · rw [← hdispatched.packageId]
    by_cases hreturns : s.ReturnsDict
    · obtain ⟨entry, hid, hlog⟩ := hdispatched.logged hreturns
      rw [hlog]
      exact iff_of_true ⟨entry, by simp, hid⟩ (Or.inl hreturns)
    · rw [hdispatched.unlogged hreturns]
      simp [hreturns]

/-- A deployment handed to an executor that returns the given value. -/
def deploymentReturning (value : Json) : Submission :=
  { deployment with executor := some fun _ => .returned value }

theorem deploymentReturning_accepted (value : Json) (env : Env) :
    (deploymentReturning value).Accepted .reference ⟨.new none none, env⟩ := by
  rw [Submission.accepted_iff]
  simp [Submission.Admissible, deploymentReturning, deployment, PlatformActionReleaseGate.new,
    DeterministicValidationChain.new, ActivePolicies.none]

theorem submit_logged_deployment :
    let w : World PlatformActionReleaseGate := ⟨.new none none, .initial "default"⟩
    let s := deploymentReturning (.obj [("released", .bool true)])
    ∃ package,
      package.packageId = Runtime.reference.uuid4 (w.env.draws + 7) ∧
      (submitStep .reference s w).self.packages =
        w.self.packages.set package.packageId package ∧
      (submitStep .reference s w).env.executed =
        w.env.executed ++ [⟨fun _ => .returned (.obj [("released", .bool true)]),
          s.proposedPayload⟩] ∧
      ((∃ entry ∈ (submitStep .reference s w).self.auditLog,
          entry.packageId = package.packageId) ↔
        s.ReturnsDict ∨ ∃ entry ∈ w.self.auditLog,
          entry.packageId = Runtime.reference.uuid4 (w.env.draws + 7)) :=
  submit_logged_iff .reference ⟨.new none none, .initial "default"⟩ rfl
    (deploymentReturning_accepted _ _)

/-- An executor that returns `None` has run, and the log is still empty. -/
theorem submit_unlogged_deployment :
    let w : World PlatformActionReleaseGate := ⟨.new none none, .initial "default"⟩
    let s := deploymentReturning .null
    s.Accepted .reference w ∧ (submitStep .reference s w).env.executed.length = 1 ∧
      (submitStep .reference s w).self.auditLog = [] := by
  intro w s
  have haccepted : s.Accepted .reference w := deploymentReturning_accepted .null _
  obtain ⟨package, hdispatched⟩ :=
    submit_dispatched .reference (Submission.accepted_iff.mp haccepted)
  have hreturns : ¬ s.ReturnsDict := by
    simp [s, deploymentReturning, Submission.ReturnsDict, Json.isDict]
  refine ⟨haccepted, ?_, ?_⟩
  · rw [hdispatched.executed]
    rfl
  · rw [hdispatched.unlogged hreturns]
    rfl

end ControlFabric
