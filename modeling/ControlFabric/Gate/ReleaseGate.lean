import ControlFabric.Gate.ValidationChain

/-! Evidence packages and the platform-wide action release gate. -/
namespace ControlFabric
open Lib Py Method

inductive ActionStatus where
  | pending
  | validated
  | compiled
  | dispatched
  | blocked
  | failed
  deriving DecidableEq

structure EvidencePackage where
  packageId : String
  actionManifest : JsonDict
  validationCertificate : ValidationCertificate
  evidenceChain : List String
  provenanceTrail : List String
  policySnapshot : ActivePolicies
  requestedBy : String
  actionType : String
  origin : ActionOrigin
  compiledAt : DateTime
  packageHash : String

namespace EvidencePackage
variable (rt : Runtime)

/-- The text under `package_hash`. -/
def hashText (p : EvidencePackage) : String :=
  p.packageId ++ p.validationCertificate.certificateHash ++
    reprList rt.isPrintable (sorted p.evidenceChain) ++
    reprList rt.isPrintable (sorted p.provenanceTrail) ++
    p.requestedBy ++ p.actionType ++ p.origin.str ++ p.compiledAt.isoformat

def computePackageHash (p : EvidencePackage) : EvidencePackage :=
  { p with packageHash := rt.sha256 (p.hashText rt) }

def verifyIntegrity (p : EvidencePackage) : Bool := p.packageHash = rt.sha256 (p.hashText rt)

def new (n : ℕ) (actionManifest : JsonDict) (validationCertificate : ValidationCertificate)
    (evidenceChain provenanceTrail : List String) (policySnapshot : ActivePolicies)
    (requestedBy actionType : String) (origin : ActionOrigin) : EvidencePackage :=
  computePackageHash rt
    { packageId := rt.uuid4 n
      actionManifest := actionManifest
      validationCertificate := validationCertificate
      evidenceChain := evidenceChain
      provenanceTrail := provenanceTrail
      policySnapshot := policySnapshot
      requestedBy := requestedBy
      actionType := actionType
      origin := origin
      compiledAt := rt.now n
      packageHash := "" }

@[simp] theorem verifyIntegrity_compute (p : EvidencePackage) :
    (p.computePackageHash rt).verifyIntegrity rt = true := by
  simp [verifyIntegrity, computePackageHash, hashText]

end EvidencePackage

structure ActionDispatchResult where
  dispatchId : String
  packageId : String
  status : ActionStatus
  dispatchedAt : DateTime
  result : JsonDict
  failureReason : Option String

/-- The model validates `result : dict[str, Any]`. -/
def ActionDispatchResult.new (rt : Runtime) (n : ℕ) (packageId : String) (status : ActionStatus)
    (result : Json) (failureReason : Option String) : Except PyError ActionDispatchResult :=
  match result with
  | .obj d => .ok ⟨rt.uuid4 n, packageId, status, rt.now n, d, failureReason⟩
  | _ => .error (.validationError "result: Input should be a valid dictionary")

theorem ActionDispatchResult.new_eq_ok {rt : Runtime} {n : ℕ} {packageId : String}
    {status : ActionStatus} {value : Json} {failureReason : Option String}
    {result : ActionDispatchResult}
    (h : ActionDispatchResult.new rt n packageId status value failureReason = .ok result) :
    result.packageId = packageId ∧ result.status = status ∧ value = .obj result.result := by
  cases value <;> simp [ActionDispatchResult.new] at h
  case obj d => simp [← h]

theorem ActionDispatchResult.new_ok (rt : Runtime) (n : ℕ) (packageId : String)
    (status : ActionStatus) {value : Json} (failureReason : Option String) (h : value.isDict) :
    ∃ result, ActionDispatchResult.new rt n packageId status value failureReason = .ok result := by
  cases value <;> simp [ActionDispatchResult.new, Json.isDict] at h ⊢

structure PlatformActionReleaseGate where
  chain : DeterministicValidationChain
  activePolicies : ActivePolicies
  auditLog : List ActionDispatchResult
  packages : Dict String EvidencePackage

/-- The arguments of one `submit`. -/
structure Submission where
  actionType : String
  proposedPayload : JsonDict
  requestedBy : String
  origin : ActionOrigin
  evidenceReferences : Option (List String)
  provenanceChain : Option (List String)
  executor : Option Executor

namespace Submission
variable (rt : Runtime) (n : ℕ) (s : Submission) (policies : ActivePolicies)

def request : ValidationRequest :=
  ValidationRequest.new rt n s.origin s.actionType (.obj s.proposedPayload)
    (s.evidenceReferences.getD []) policies (s.provenanceChain.getD []) s.requestedBy

def package (certificate : ValidationCertificate) : EvidencePackage :=
  EvidencePackage.new rt n s.proposedPayload certificate (s.evidenceReferences.getD [])
    (s.provenanceChain.getD []) policies s.requestedBy s.actionType s.origin

end Submission

namespace PlatformActionReleaseGate

def new (validationChain : Option DeterministicValidationChain)
    (activePolicies : Option ActivePolicies) : PlatformActionReleaseGate where
  chain := validationChain.getD (DeterministicValidationChain.new activePolicies)
  activePolicies := activePolicies.getD .none
  auditLog := []
  packages := Dict.empty

def onChain {α : Type} (m : Method DeterministicValidationChain α) :
    Method PlatformActionReleaseGate α :=
  on (fun gate => gate.chain) (fun chain gate => { gate with chain := chain }) m

def log (result : ActionDispatchResult) : Method PlatformActionReleaseGate Unit :=
  assign fun gate => { gate with auditLog := gate.auditLog ++ [result] }

/-- Step 5: what the executor ends in, or the compiled package when there is no executor. -/
def dispatch (s : Submission) (package : EvidencePackage) :
    Method PlatformActionReleaseGate (ActionStatus × Json) := do
  match s.executor with
  | some executor =>
    match ← call executor s.proposedPayload with
    | .returned value => return (.dispatched, value)
    | .raised message => return (.failed, .obj [("error", .str message)])
  | none =>
    return (.compiled, .obj [("package_id", .str package.packageId),
      ("package_hash", .str package.packageHash)])

def submit (rt : Runtime) (s : Submission) :
    Method PlatformActionReleaseGate ActionDispatchResult := do
  let gate ← self
  let request := s.request rt (← draw) gate.activePolicies
  match ← onChain (DeterministicValidationChain.validate rt request) with
  | .inr rejection =>
    let result ← lift (ActionDispatchResult.new rt (← draw) "none" .blocked (.obj [])
      (some s!"{rejection.failedCheck.value}: {rejection.failureDetail}"))
    log result
    return result
  | .inl certificate =>
    let package := s.package rt (← draw) gate.activePolicies certificate
    if ¬ package.verifyIntegrity rt then
      let result ← lift (ActionDispatchResult.new rt (← draw) package.packageId .blocked (.obj [])
        (some "Evidence package integrity check failed"))
      log result
      return result
    assign fun gate => { gate with packages := gate.packages.set package.packageId package }
    let (status, dispatchResult) ← dispatch s package
    let result ← lift (ActionDispatchResult.new rt (← draw) package.packageId status dispatchResult
      none)
    log result
    meter "gate_submission"
    if result.status = .blocked then meter "gate_block" else meter "gate_release"
    return result

end PlatformActionReleaseGate

namespace Submission
variable (rt : Runtime) (s : Submission) (policies : ActivePolicies)

/-- The executor calls a released submit makes. -/
def calls : List ExecutorCall := (s.executor.map fun e => ⟨e, s.proposedPayload⟩).toList

/-- The status and result step 5 ends with. -/
def verdict (package : EvidencePackage) : ActionStatus × Json :=
  match s.executor with
  | some executor =>
    match executor s.proposedPayload with
    | .returned value => (.dispatched, value)
    | .raised message => (.failed, .obj [("error", .str message)])
  | none => (.compiled, .obj [("package_id", .str package.packageId),
      ("package_hash", .str package.packageHash)])

/-- The certificate of an accepted submit that starts at draw `n`. -/
def certificate (n : ℕ) : ValidationCertificate :=
  let request := s.request rt n policies
  ValidationCertificate.new rt (n + 6) request.requestId request.requestHash
    [.completeness, .evidenceSufficiency, .policyCompliance, .provenanceIntegrity,
      .schemaConformance] request.actionType

/-- The package an accepted submit that starts at draw `n` compiles. -/
def compiled (n : ℕ) : EvidencePackage :=
  s.package rt (n + 7) policies (s.certificate rt policies n)

/-- The gate's chain lets the submission through, whatever identifiers and times it draws. -/
def Admissible (policies : ActivePolicies) (s : Submission) : Prop :=
  (s.actionType ≠ "" ∧ s.requestedBy ≠ "" ∧ s.proposedPayload ≠ []) ∧
  ¬ (s.origin = .aiInference ∧ s.evidenceReferences.getD [] = []) ∧
  s.actionType ∉ policies.blockedActionTypes.getD [] ∧
    ∀ allowed ∈ (policies.requiredOriginsFor.getD Dict.empty).get? s.actionType,
      s.origin.value ∈ allowed

instance : DecidablePred (Admissible policies) := fun s => by
  unfold Admissible
  infer_instance

/-- What a refused submit reports: the first check of the chain that fails, and its detail. -/
def failureReason : String :=
  match (DeterministicValidationChain.gates rt policies).find? fun c =>
      (c.verdict (s.request rt 0 policies)).1 = .fail with
  | some c => s!"{c.name.value}: {(c.verdict (s.request rt 0 policies)).2}"
  | none => "None"

variable {rt s policies} in
/-- No check looks at the identifiers or times of the request. -/
theorem verdict_request {c : Check} (hc : c ∈ DeterministicValidationChain.gates rt policies)
    (n m : ℕ) (context context' : ActivePolicies) :
    c.verdict (s.request rt n context) = c.verdict (s.request rt m context') := by
  simp only [DeterministicValidationChain.gates, List.mem_cons, List.not_mem_nil, or_false] at hc
  rcases hc with rfl | rfl | rfl | rfl | rfl
  · rfl
  · rfl
  · rfl
  · simp [DeterministicValidationChain.checkProvenance, request, ValidationRequest.new,
      ValidationRequest.computeRequestHash, ValidationRequest.hashText]
  · rfl

theorem failureReason_of_split {pre post : List Check} {c : Check} {n : ℕ}
    {context : ActivePolicies}
    (hgates : DeterministicValidationChain.gates rt policies = pre ++ c :: post)
    (hpre : ∀ d ∈ pre, (d.verdict (s.request rt n context)).1 = .pass)
    (hc : (c.verdict (s.request rt n context)).1 = .fail) :
    s.failureReason rt policies =
      s!"{c.name.value}: {(c.verdict (s.request rt n context)).2}" := by
  have hverdict : ∀ d ∈ pre ++ c :: post, d.verdict (s.request rt 0 policies) =
      d.verdict (s.request rt n context) := fun d hd =>
    verdict_request (hgates ▸ hd) 0 n policies context
  have hcmem : c ∈ pre ++ c :: post := List.mem_append_right _ List.mem_cons_self
  have hfind : (pre ++ c :: post).find? (fun d =>
      (d.verdict (s.request rt 0 policies)).1 = .fail) = some c := by
    rw [List.find?_eq_some_iff_append]
    refine ⟨by simp [hverdict c hcmem, hc], pre, post, rfl, fun d hd => ?_⟩
    simp [hverdict d (List.mem_append_left _ hd), hpre d hd]
  rw [failureReason, hgates, hfind]
  simp only [hverdict c hcmem]

end Submission

open PlatformActionReleaseGate

theorem Submission.passes_request_iff {rt : Runtime} {n : ℕ} {s : Submission}
    {context policies : ActivePolicies} :
    DeterministicValidationChain.Passes rt policies (s.request rt n context) ↔
      s.Admissible policies := by
  rw [DeterministicValidationChain.passes_iff]
  simp [Submission.request, ValidationRequest.new, ValidationRequest.computeRequestHash,
    ValidationRequest.hashText, Submission.Admissible, Json.truthy, Json.isDict]

theorem run_dispatch (s : Submission) (package : EvidencePackage)
    (w : World PlatformActionReleaseGate) : (dispatch s package).run w =
      .ok (s.verdict package)
        { w with env := { w.env with executed := w.env.executed ++ s.calls } } := by
  cases he : s.executor with
  | none => simp [dispatch, Submission.verdict, Submission.calls, he]
  | some executor =>
    cases ho : executor s.proposedPayload with
    | returned value => simp [dispatch, Submission.verdict, Submission.calls, he, ho]
    | raised message => simp [dispatch, Submission.verdict, Submission.calls, he, ho]

theorem run_onChain {α : Type} (m : Method DeterministicValidationChain α)
    (w : World PlatformActionReleaseGate) : (onChain m).run w =
      match m.run ⟨w.self.chain, w.env⟩ with
      | .ok a v => .ok a ⟨{ w.self with chain := v.self }, v.env⟩
      | .error e v => .error e ⟨{ w.self with chain := v.self }, v.env⟩ := by
  rw [onChain, run_on]
  cases m.run ⟨w.self.chain, w.env⟩ <;> rfl

/-- A submission the chain rejects is logged as blocked, under the first check that fails. -/
theorem submit_rejected (rt : Runtime) {s : Submission} {w : World PlatformActionReleaseGate}
    (h : ¬ s.Admissible w.self.chain.activePolicies) :
    let request := s.request rt w.env.draws w.self.activePolicies
    ∃ pre c post, DeterministicValidationChain.gates rt w.self.chain.activePolicies =
        pre ++ c :: post ∧
      (∀ d ∈ pre, (d.verdict request).1 = .pass) ∧ (c.verdict request).1 = .fail ∧
      let n := w.env.draws + 1 + pre.length
      let rejection := DeterministicValidationChain.reject rt (n + 1) request (c.result rt n request)
      let result : ActionDispatchResult := ⟨rt.uuid4 (n + 2), "none", .blocked, rt.now (n + 2), [],
        some s!"{c.name.value}: {(c.verdict request).2}"⟩
      (submit rt s).run w = .ok result
        ⟨{ w.self with
            chain := { w.self.chain with processed := w.self.chain.processed ++
              [(request, .inr rejection)] }
            auditLog := w.self.auditLog ++ [result] },
          { w.env with draws := n + 3 }⟩ := by
  let v : World DeterministicValidationChain :=
    ⟨w.self.chain, { w.env with draws := w.env.draws + 1 }⟩
  have hp : ¬ DeterministicValidationChain.Passes rt v.self.activePolicies
      (s.request rt w.env.draws w.self.activePolicies) := Submission.passes_request_iff.not.mpr h
  obtain ⟨pre, c, post, hgates, hpre, hc, hrun⟩ := DeterministicValidationChain.validate_reject hp
  refine ⟨pre, c, post, hgates, hpre, hc, ?_⟩
  simp only [submit, EStateM.run_bind, run_self, run_draw, run_onChain]
  rw [hrun]
  simp only [EStateM.run_bind, run_draw, ActionDispatchResult.new, run_lift_ok, log, run_assign,
    run_pure, v]
  rfl

/-- A submission the chain rejects is logged as blocked; nothing is stored and nothing is run. -/
theorem submit_blocked (rt : Runtime) {s : Submission} {w : World PlatformActionReleaseGate}
    (h : ¬ s.Admissible w.self.chain.activePolicies) :
    ∃ result rejection, ∃ k ≤ 9, result.status = .blocked ∧ result.packageId = "none" ∧
      result.failureReason = some (s.failureReason rt w.self.chain.activePolicies) ∧
      (submit rt s).run w = .ok result
        ⟨{ w.self with
            chain := { w.self.chain with processed := w.self.chain.processed ++
              [(s.request rt w.env.draws w.self.activePolicies, .inr rejection)] }
            auditLog := w.self.auditLog ++ [result] },
          { w.env with draws := w.env.draws + k }⟩ := by
  obtain ⟨pre, c, post, hgates, hpre, hc, hrun⟩ := submit_rejected rt h
  have hlen : pre.length < 5 := by
    have := congrArg List.length hgates
    simp only [DeterministicValidationChain.gates, List.length_append, List.length_cons,
      List.length_nil] at this
    omega
  have hk : w.env.draws + 1 + pre.length + 3 = w.env.draws + (pre.length + 4) := by omega
  dsimp only at hrun
  rw [hk] at hrun
  exact ⟨_, _, pre.length + 4, by omega, rfl, rfl,
    congrArg some (s.failureReason_of_split rt _ hgates hpre hc).symm, hrun⟩

/-- A submission the chain accepts has its package stored; the executor, if there is one, is called
once; and what it ends in is logged unless the result model refuses it. -/
theorem submit_admitted (rt : Runtime) {s : Submission} {w : World PlatformActionReleaseGate}
    (h : s.Admissible w.self.chain.activePolicies) :
    let package := s.compiled rt w.self.activePolicies w.env.draws
    let stored : PlatformActionReleaseGate := { w.self with
      chain := { w.self.chain with processed := w.self.chain.processed ++
        [(s.request rt w.env.draws w.self.activePolicies,
          .inl (s.certificate rt w.self.activePolicies w.env.draws))] }
      packages := w.self.packages.set package.packageId package }
    let env : Env := { w.env with
      draws := w.env.draws + 9
      executed := w.env.executed ++ s.calls }
    (submit rt s).run w = match ActionDispatchResult.new rt (w.env.draws + 8) package.packageId
        (s.verdict package).1 (s.verdict package).2 none with
      | .ok result => .ok result ⟨{ stored with auditLog := w.self.auditLog ++ [result] },
          { env with metered := w.env.metered ++
            [⟨"gate_submission", w.env.tenant, 1⟩, ⟨"gate_release", w.env.tenant, 1⟩] }⟩
      | .error e => .error e ⟨stored, env⟩ := by
  let v : World DeterministicValidationChain :=
    ⟨w.self.chain, { w.env with draws := w.env.draws + 1 }⟩
  have hp : DeterministicValidationChain.Passes rt v.self.activePolicies
      (s.request rt w.env.draws w.self.activePolicies) := Submission.passes_request_iff.mpr h
  intro package stored env
  let certificate := s.certificate rt w.self.activePolicies w.env.draws
  have hrun : (DeterministicValidationChain.validate rt
      (s.request rt w.env.draws w.self.activePolicies)).run v = .ok (.inl certificate)
        ⟨stored.chain, { w.env with draws := w.env.draws + 7 }⟩ :=
    DeterministicValidationChain.validate_pass hp
  have hpackage : s.package rt (w.env.draws + 7) w.self.activePolicies certificate = package := rfl
  have hverify : package.verifyIntegrity rt = true := EvidencePackage.verifyIntegrity_compute rt _
  have hstatus : (s.verdict package).1 ≠ .blocked := by
    unfold Submission.verdict
    split
    · split <;> simp
    · simp
  simp only [submit, EStateM.run_bind, run_self, run_draw, run_onChain]
  rw [hrun]
  simp only [EStateM.run_bind, run_draw, hpackage, hverify, not_true_eq_false, if_false, run_assign,
    run_dispatch]
  cases hresult : ActionDispatchResult.new rt (w.env.draws + 8) package.packageId
      (s.verdict package).1 (s.verdict package).2 none with
  | ok result =>
    have hreleased : result.status ≠ .blocked := by
      rw [(ActionDispatchResult.new_eq_ok hresult).2.1]
      exact hstatus
    simp [log, hreleased, stored, env]
  | error e => simp [stored, env]

end ControlFabric
