import ControlFabric.Gate.ReleaseGate
import ControlFabric.Lib.Run

/-! Accounting over runs of submits: every submit is logged once, runs its executor exactly when
the chain accepts it, and leaves behind the package its entry points to. -/
namespace ControlFabric
open Lib Method PlatformActionReleaseGate

/-- One submit, whose result the caller drops. -/
def submitStep (rt : Runtime) (s : Submission) (w : World PlatformActionReleaseGate) :
    World PlatformActionReleaseGate := (submit rt s).after w

def submitRun (rt : Runtime) (w : World PlatformActionReleaseGate) (subs : List Submission) :
    World PlatformActionReleaseGate := run (submitStep rt) w subs

/-- An executor returns a dict or raises. -/
def Submission.ReturnsDict (s : Submission) : Prop :=
  ∀ executor ∈ s.executor, ∀ value, executor s.proposedPayload = .returned value → value.isDict

/-- All five gates of the chain pass for the request a submit wraps its arguments in. -/
def Submission.Accepted (rt : Runtime) (s : Submission) (w : World PlatformActionReleaseGate) :
    Prop :=
  DeterministicValidationChain.Passes rt w.self.chain.activePolicies
    (s.request rt w.env.draws w.self.activePolicies)

instance (rt : Runtime) (s : Submission) (w : World PlatformActionReleaseGate) :
    Decidable (s.Accepted rt w) := inferInstanceAs (Decidable (DeterministicValidationChain.Passes ..))

structure EvidencePackage.Carries (p : EvidencePackage) (s : Submission) : Prop where
  actionManifest : p.actionManifest = s.proposedPayload
  actionType : p.actionType = s.actionType
  requestedBy : p.requestedBy = s.requestedBy
  origin : p.origin = s.origin
  evidenceChain : p.evidenceChain = s.evidenceReferences.getD []
  provenanceTrail : p.provenanceTrail = s.provenanceChain.getD []

/-- What a submit that takes the gate from `w` to `w'` owes to the log, the executor and a package
store read later. -/
structure Accounted (rt : Runtime) (s : Submission) (w w' : World PlatformActionReleaseGate)
    (packages : Dict String EvidencePackage) (entry : ActionDispatchResult) : Prop where
  returned : (submit rt s).run w = .ok entry w'
  logged : w'.self.auditLog = w.self.auditLog ++ [entry]
  executed : w'.env.executed = w.env.executed ++ if s.Accepted rt w then s.calls else []
  blocked_iff : entry.status = .blocked ↔ ¬ s.Accepted rt w
  dispatched_iff : entry.status = .dispatched ↔ s.Accepted rt w ∧
    ∃ executor value, s.executor = some executor ∧ executor s.proposedPayload = .returned value
  failed_iff : entry.status = .failed ↔ s.Accepted rt w ∧
    ∃ executor message, s.executor = some executor ∧ executor s.proposedPayload = .raised message
  compiled_iff : entry.status = .compiled ↔ s.Accepted rt w ∧ s.executor = none
  released : entry.status ≠ .blocked → ∃ package, packages.get? entry.packageId = some package ∧
    package.verifyIntegrity rt ∧ package.Carries s ∧
    package.validationCertificate.requestId = (s.request rt w.env.draws w.self.activePolicies).requestId

section Verdict
variable (s : Submission) (package : EvidencePackage)

theorem Submission.verdict_isDict (h : s.ReturnsDict) : (s.verdict package).2.isDict := by
  unfold verdict
  split
  next executor he =>
    split
    next value hv => exact h executor he value hv
    next message _ => rfl
  next => rfl

theorem Submission.verdict_status :
    ((s.verdict package).1 = .dispatched ↔ ∃ executor value, s.executor = some executor ∧
      executor s.proposedPayload = .returned value) ∧
    ((s.verdict package).1 = .failed ↔ ∃ executor message, s.executor = some executor ∧
      executor s.proposedPayload = .raised message) ∧
    ((s.verdict package).1 = .compiled ↔ s.executor = none) ∧
    (s.verdict package).1 ≠ .blocked := by
  cases he : s.executor with
  | none => simp [verdict, he]
  | some executor => cases ho : executor s.proposedPayload <;> simp [verdict, he, ho]

end Verdict

theorem Submission.accepted_iff {rt : Runtime} {s : Submission}
    {w : World PlatformActionReleaseGate} :
    s.Accepted rt w ↔ s.Admissible w.self.chain.activePolicies := passes_request_iff

theorem submit_accounted (rt : Runtime) {s : Submission} (h : s.ReturnsDict)
    (w : World PlatformActionReleaseGate) :
    ∃ entry, Accounted rt s w (submitStep rt s w) (submitStep rt s w).self.packages entry := by
  by_cases ha : s.Accepted rt w
  · have hrun := submit_admitted rt (Submission.accepted_iff.mp ha)
    let package := s.compiled rt w.self.activePolicies w.env.draws
    obtain ⟨entry, hentry⟩ := ActionDispatchResult.new_ok rt (w.env.draws + 8) package.packageId
      (s.verdict package).1 none (s.verdict_isDict package h)
    obtain ⟨hid, hstatus, -⟩ := ActionDispatchResult.new_eq_ok hentry
    obtain ⟨hdispatched, hfailed, hcompiled, hblocked⟩ := s.verdict_status package
    simp only [package] at hentry
    simp only [hentry] at hrun
    have hstep := after_ok hrun
    rw [← hstatus] at hdispatched hfailed hcompiled hblocked
    refine ⟨entry, ?_⟩
    rw [submitStep, hstep]
    exact {
      returned := hrun
      logged := rfl
      executed := by simp [ha]
      blocked_iff := by simp [ha, hblocked]
      dispatched_iff := by simp [ha, hdispatched]
      failed_iff := by simp [ha, hfailed]
      compiled_iff := by simp [ha, hcompiled]
      released := fun _ => ⟨package, by simp [hid, package],
        EvidencePackage.verifyIntegrity_compute rt _, ⟨rfl, rfl, rfl, rfl, rfl, rfl⟩, rfl⟩ }
  · obtain ⟨entry, rejection, k, -, hstatus, -, -, hrun⟩ :=
      submit_blocked rt (Submission.accepted_iff.not.mp ha)
    have hstep := after_ok hrun
    refine ⟨entry, ?_⟩
    rw [submitStep, hstep]
    exact {
      returned := hrun
      logged := rfl
      executed := by simp [ha]
      blocked_iff := by simp [ha, hstatus]
      dispatched_iff := by simp [ha, hstatus]
      failed_iff := by simp [ha, hstatus]
      compiled_iff := by simp [ha, hstatus]
      released := fun hne => absurd hstatus hne }

theorem Accounted.mono {rt : Runtime} {s : Submission} {w w' : World PlatformActionReleaseGate}
    {packages packages' : Dict String EvidencePackage} {entry : ActionDispatchResult}
    (h : Accounted rt s w w' packages entry)
    (hkept : ∀ id p, packages.get? id = some p → packages'.get? id = some p) :
    Accounted rt s w w' packages' entry := { h with
  released := fun hne => by
    obtain ⟨package, hget, hrest⟩ := h.released hne
    exact ⟨package, hkept _ _ hget, hrest⟩ }

/-- Every package key was drawn before. -/
def PackagesDrawn (rt : Runtime) (w : World PlatformActionReleaseGate) : Prop :=
  ∀ id ∈ w.self.packages, ∃ n < w.env.draws, id = rt.uuid4 n

namespace PackagesDrawn
variable {rt : Runtime} {w w' : World PlatformActionReleaseGate} {n : ℕ}

theorem fresh (h : PackagesDrawn rt w) (hn : w.env.draws ≤ n)
    (huuid : Set.InjOn rt.uuid4 (Set.Iio (n + 1))) : rt.uuid4 n ∉ w.self.packages := by
  intro hmem
  obtain ⟨m, hm, he⟩ := h _ hmem
  have hnm : n = m := huuid (Set.mem_Iio.mpr (by omega)) (Set.mem_Iio.mpr (by omega)) he
  omega

theorem keep (h : PackagesDrawn rt w) (hle : w.env.draws ≤ w'.env.draws)
    (hsame : w'.self.packages = w.self.packages) : PackagesDrawn rt w' := by
  intro id hid
  rw [hsame] at hid
  obtain ⟨m, hm, he⟩ := h id hid
  exact ⟨m, by omega, he⟩

theorem set {package : EvidencePackage} (h : PackagesDrawn rt w) (hle : w.env.draws ≤ n)
    (hlt : n < w'.env.draws)
    (hset : w'.self.packages = w.self.packages.set (rt.uuid4 n) package) :
    PackagesDrawn rt w' := by
  intro id hid
  rw [hset] at hid
  rcases Dict.mem_set.mp hid with rfl | hid
  · exact ⟨n, hlt, rfl⟩
  · obtain ⟨m, hm, he⟩ := h id hid
    exact ⟨m, by omega, he⟩

end PackagesDrawn

/-- A submit stores a package under a fresh identifier exactly when the chain lets it through. -/
theorem submitStep_packages (rt : Runtime) (s : Submission)
    (w : World PlatformActionReleaseGate) :
    w.env.Within 9 (submitStep rt s w).env ∧
    (¬ s.Admissible w.self.chain.activePolicies ∧
        (submitStep rt s w).self.packages = w.self.packages ∨
      s.Admissible w.self.chain.activePolicies ∧
        ∃ n p, w.env.draws ≤ n ∧ n < (submitStep rt s w).env.draws ∧ p.actionType = s.actionType ∧
          (submitStep rt s w).self.packages = w.self.packages.set (rt.uuid4 n) p) := by
  by_cases ha : s.Admissible w.self.chain.activePolicies
  · have hrun := submit_admitted rt ha
    let package := s.compiled rt w.self.activePolicies w.env.draws
    have hid : package.packageId = rt.uuid4 (w.env.draws + 7) := rfl
    cases hentry : ActionDispatchResult.new rt (w.env.draws + 8) package.packageId
        (s.verdict package).1 (s.verdict package).2 none with
    | ok entry =>
      simp only [package] at hentry
      simp only [hentry] at hrun
      rw [submitStep, after_ok hrun]
      refine ⟨⟨by simp, by simp⟩, Or.inr ⟨ha, w.env.draws + 7, package, by omega, by simp, rfl, rfl⟩⟩
    | error e =>
      simp only [package] at hentry
      simp only [hentry] at hrun
      rw [submitStep, after_error hrun]
      refine ⟨⟨by simp, by simp⟩, Or.inr ⟨ha, w.env.draws + 7, package, by omega, by simp, rfl, rfl⟩⟩
  · obtain ⟨entry, rejection, k, hk, -, -, -, hrun⟩ := submit_blocked rt ha
    rw [submitStep, after_ok hrun]
    exact ⟨⟨by simp, by simpa using hk⟩, Or.inl ⟨ha, rfl⟩⟩

/-- As long as no identifier is drawn twice, a submit keeps every stored package. -/
theorem submitStep_kept {rt : Runtime} {s : Submission} {w : World PlatformActionReleaseGate}
    (huuid : Set.InjOn rt.uuid4 (Set.Iio (w.env.draws + 9))) (hdrawn : PackagesDrawn rt w) :
    PackagesDrawn rt (submitStep rt s w) ∧ ∀ id p, w.self.packages.get? id = some p →
      (submitStep rt s w).self.packages.get? id = some p := by
  obtain ⟨⟨hle, hbound⟩, ⟨-, hsame⟩ | ⟨-, n, package, hn, hlt, -, hset⟩⟩ :=
    submitStep_packages rt s w
  · exact ⟨hdrawn.keep hle hsame, fun id p h => hsame ▸ h⟩
  · refine ⟨hdrawn.set hn hlt hset, fun id p hget => ?_⟩
    have hne : id ≠ rt.uuid4 n := by
      rintro rfl
      exact hdrawn.fresh hn (huuid.mono (Set.Iio_subset_Iio (by omega))) (Dict.mem_of_get? hget)
    rw [hset, Dict.get?_set_of_ne hne]
    exact hget

theorem submitRun_kept {rt : Runtime} {w : World PlatformActionReleaseGate}
    {subs : List Submission} (huuid : Set.InjOn rt.uuid4 (Set.Iio (w.env.draws + 9 * subs.length)))
    (hdrawn : PackagesDrawn rt w) (id : String) (p : EvidencePackage)
    (hget : w.self.packages.get? id = some p) :
    (submitRun rt w subs).self.packages.get? id = some p := by
  induction subs generalizing w with
  | nil => exact hget
  | cons s subs ih =>
    simp only [List.length_cons] at huuid
    obtain ⟨hdrawn', hkept⟩ := submitStep_kept (s := s)
      (huuid.mono (Set.Iio_subset_Iio (by omega))) hdrawn
    have hbound := (submitStep_packages rt s w).1.bound
    have huuid' : Set.InjOn rt.uuid4
        (Set.Iio ((submitStep rt s w).env.draws + 9 * subs.length)) :=
      huuid.mono (Set.Iio_subset_Iio (by omega))
    exact ih huuid' hdrawn' (hkept id p hget)

private theorem submitRun_entries {rt : Runtime} {w : World PlatformActionReleaseGate}
    {subs : List Submission} (huuid : Set.InjOn rt.uuid4 (Set.Iio (w.env.draws + 9 * subs.length)))
    (hdrawn : PackagesDrawn rt w) (hexec : ∀ s ∈ subs, s.ReturnsDict) :
    ∃ entries, entries.length = subs.length ∧
      (submitRun rt w subs).self.auditLog = w.self.auditLog ++ entries ∧
      ∀ pre s post, subs = pre ++ s :: post → ∃ entry, entries[pre.length]? = some entry ∧
        Accounted rt s (submitRun rt w pre) (submitRun rt w (pre ++ [s]))
          (submitRun rt w subs).self.packages entry := by
  induction subs generalizing w with
  | nil => exact ⟨[], rfl, by simp [submitRun], by simp⟩
  | cons s subs ih =>
    simp only [List.length_cons] at huuid
    have hbound := (submitStep_packages rt s w).1.bound
    have huuid' : Set.InjOn rt.uuid4
        (Set.Iio ((submitStep rt s w).env.draws + 9 * subs.length)) :=
      huuid.mono (Set.Iio_subset_Iio (by omega))
    have hdrawn' := (submitStep_kept (s := s)
      (huuid.mono (Set.Iio_subset_Iio (by omega))) hdrawn).1
    obtain ⟨entry, hentry⟩ := submit_accounted rt (hexec s List.mem_cons_self) w
    obtain ⟨entries, hlen, hlog, hsplit⟩ :=
      ih huuid' hdrawn' (fun t ht => hexec t (List.mem_cons_of_mem _ ht))
    have hrun (l : List Submission) :
        submitRun rt w (s :: l) = submitRun rt (submitStep rt s w) l := rfl
    refine ⟨entry :: entries, by simp [hlen], ?_, ?_⟩
    · rw [hrun, hlog, hentry.logged, List.append_assoc, List.singleton_append]
    · intro pre t post he
      cases pre with
      | nil =>
        obtain ⟨hst, -⟩ := List.cons.inj he
        rw [← hst]
        exact ⟨entry, rfl, hentry.mono (submitRun_kept huuid' hdrawn')⟩
      | cons u pre =>
        obtain ⟨hsu, he'⟩ := List.cons.inj he
        obtain ⟨e, hget, hacc⟩ := hsplit pre t post he'
        rw [← hsu]
        exact ⟨e, by simpa using hget, hacc⟩

/-- Over any run of submits on a new gate the audit log holds one entry per submit in call order,
and each submit is accounted for, its package still being stored at the end of the run. -/
theorem submitRun_accounted {rt : Runtime} (validationChain : Option DeterministicValidationChain)
    (activePolicies : Option ActivePolicies) (env : Env) {subs : List Submission}
    (huuid : Set.InjOn rt.uuid4 (Set.Iio (env.draws + 9 * subs.length)))
    (hexec : ∀ s ∈ subs, s.ReturnsDict) :
    let start : World PlatformActionReleaseGate := ⟨.new validationChain activePolicies, env⟩
    let final := submitRun rt start subs
    final.self.auditLog.length = subs.length ∧
      ∀ pre s post, subs = pre ++ s :: post →
        ∃ entry, final.self.auditLog[pre.length]? = some entry ∧
          Accounted rt s (submitRun rt start pre) (submitRun rt start (pre ++ [s]))
            final.self.packages entry := by
  intro start final
  obtain ⟨entries, hlen, hlog, hsplit⟩ := submitRun_entries (w := start) huuid
    (fun id hid => absurd hid (Dict.not_mem_empty id)) hexec
  have hentries : final.self.auditLog = entries := hlog
  rw [hentries]
  exact ⟨hlen, hsplit⟩

theorem submitRun_accounted_reference :
    let subs : List Submission :=
      [⟨"state_transition", [("target_state", .str "active")], "ada", .humanOperator,
          some ["doc"], none, some fun payload => .returned (.obj payload)⟩,
        ⟨"", [], "ada", .humanOperator, none, none, none⟩,
        ⟨"graph_link_creation", [("source_id", .str "a")], "ada", .apiRequest,
          none, some ["a", "b"], some fun _ => .raised "timeout"⟩]
    let start : World PlatformActionReleaseGate := ⟨.new none none, .initial "default"⟩
    let final := submitRun .reference start subs
    final.self.auditLog.length = 3 ∧
      ∀ pre s post, subs = pre ++ s :: post →
        ∃ entry, final.self.auditLog[pre.length]? = some entry ∧
          Accounted .reference s (submitRun .reference start pre)
            (submitRun .reference start (pre ++ [s])) final.self.packages entry := by
  refine submitRun_accounted none none (.initial "default")
    (Runtime.reference_uuid4.mono (Set.Iio_subset_Iio (by decide))) ?_
  simp [Submission.ReturnsDict, Json.isDict]

end ControlFabric
