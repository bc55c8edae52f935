import ControlFabric.Gate.ReleaseGate

/-! A store whose methods take an optional release gate. -/
namespace ControlFabric
open Lib Method

/-- The store, and the `release_gate` argument of the call. -/
structure Governed (σ : Type) where
  store : σ
  releaseGate : Option PlatformActionReleaseGate

namespace Governed
variable {σ α : Type}

def onStore (m : Method σ α) : Method (Governed σ) α :=
  on (fun g => g.store) (fun store g => { g with store := store }) m

/-- A method called with the given gate, of which the caller keeps only the store. -/
def callWith (releaseGate : Option PlatformActionReleaseGate) (m : Method (Governed σ) α) :
    Method σ α :=
  on (fun store => ⟨store, releaseGate⟩) (fun g _ => g.store) m

/-- `if release_gate is not None:` submit, and raise when the submission is blocked. -/
def throughGate (rt : Runtime) (s : Submission) (blocked : ActionDispatchResult → PyError) :
    Method (Governed σ) Unit := do
  match (← self).releaseGate with
  | none => return
  | some gate =>
    let result ← on (fun _ => gate) (fun gate g => { g with releaseGate := some gate })
      (PlatformActionReleaseGate.submit rt s)
    if result.status = .blocked then raise (blocked result)

/-- The gate first, then the change of the store. -/
def governed (rt : Runtime) (s : Submission) (blocked : ActionDispatchResult → PyError)
    (commit : Method σ α) : Method (Governed σ) α := do
  throughGate rt s blocked
  onStore commit

theorem run_onStore (m : Method σ α) (w : World (Governed σ)) : (onStore m).run w =
    match m.run ⟨w.self.store, w.env⟩ with
    | .ok a v => .ok a ⟨{ w.self with store := v.self }, v.env⟩
    | .error e v => .error e ⟨{ w.self with store := v.self }, v.env⟩ := by
  cases h : m.run ⟨w.self.store, w.env⟩ <;> simp only [onStore, run_on, h]

theorem run_callWith (releaseGate : Option PlatformActionReleaseGate)
    (m : Method (Governed σ) α) (w : World σ) : (callWith releaseGate m).run w =
    match m.run ⟨⟨w.self, releaseGate⟩, w.env⟩ with
    | .ok a v => .ok a ⟨v.self.store, v.env⟩
    | .error e v => .error e ⟨v.self.store, v.env⟩ := by
  rw [callWith, run_on]
  cases m.run ⟨⟨w.self, releaseGate⟩, w.env⟩ <;> rfl

theorem run_callWith_onStore (releaseGate : Option PlatformActionReleaseGate) (m : Method σ α)
    (w : World σ) : (callWith releaseGate (onStore m)).run w = m.run w := by
  rw [run_callWith, run_onStore]
  cases m.run w <;> rfl

theorem run_callWith_congr {releaseGate : Option PlatformActionReleaseGate}
    {m m' : Method (Governed σ) α} {w : World σ}
    (h : m.run ⟨⟨w.self, releaseGate⟩, w.env⟩ = m'.run ⟨⟨w.self, releaseGate⟩, w.env⟩) :
    (callWith releaseGate m).run w = (callWith releaseGate m').run w := by
  rw [run_callWith, run_callWith, h]

theorem run_callWith_map {β : Type} (releaseGate : Option PlatformActionReleaseGate)
    (f : α → β) (m : Method (Governed σ) α) (w : World σ) :
    (callWith releaseGate (f <$> m)).run w = (f <$> callWith releaseGate m).run w := by
  rw [run_map, run_callWith, run_callWith, run_map]
  cases m.run ⟨⟨w.self, releaseGate⟩, w.env⟩ <;> rfl

end Governed

/-- What a submit without an executor that is let through leaves in the gate. -/
structure Released (rt : Runtime) (s : Submission) (gate gate' : PlatformActionReleaseGate)
    (package : EvidencePackage) : Prop where
  stored : gate'.packages = gate.packages.set package.packageId package
  verifies : package.verifyIntegrity rt
  actionManifest : package.actionManifest = s.proposedPayload
  actionType : package.actionType = s.actionType
  requestedBy : package.requestedBy = s.requestedBy
  logged : ∃ entry, gate'.auditLog = gate.auditLog ++ [entry] ∧ entry.status = .compiled ∧
    entry.packageId = package.packageId
  policies : gate'.chain.activePolicies = gate.chain.activePolicies

/-- What a blocked submit leaves in the gate. -/
structure Refused (gate gate' : PlatformActionReleaseGate) : Prop where
  stored : gate'.packages = gate.packages
  logged : ∃ entry, gate'.auditLog = gate.auditLog ++ [entry] ∧ entry.status = .blocked
  policies : gate'.chain.activePolicies = gate.chain.activePolicies

theorem submit_released (rt : Runtime) {s : Submission} {gate : PlatformActionReleaseGate}
    (env : Env) (hexec : s.executor = none) (ha : s.Admissible gate.chain.activePolicies) :
    ∃ result gate' env', result.status = .compiled ∧
      result.packageId = (s.compiled rt gate.activePolicies env.draws).packageId ∧
      Released rt s gate gate' (s.compiled rt gate.activePolicies env.draws) ∧
      env'.draws = env.draws + 9 ∧
      (PlatformActionReleaseGate.submit rt s).run ⟨gate, env⟩ = .ok result ⟨gate', env'⟩ := by
  have hrun := submit_admitted rt (w := ⟨gate, env⟩) ha
  simp only [Submission.verdict, hexec, ActionDispatchResult.new] at hrun
  refine ⟨_, _, _, ?_, ?_, ?_, ?_, hrun⟩
  · rfl
  · rfl
  · exact ⟨rfl, EvidencePackage.verifyIntegrity_compute rt _, rfl, rfl, rfl,
      ⟨_, rfl, rfl, rfl⟩, rfl⟩
  · rfl

theorem submit_refused (rt : Runtime) {s : Submission} {gate : PlatformActionReleaseGate}
    (env : Env) (ha : ¬ s.Admissible gate.chain.activePolicies) :
    ∃ result gate' env', result.status = .blocked ∧
      result.failureReason = some (s.failureReason rt gate.chain.activePolicies) ∧
      Refused gate gate' ∧ env.Within 9 env' ∧
      (PlatformActionReleaseGate.submit rt s).run ⟨gate, env⟩ = .ok result ⟨gate', env'⟩ := by
  obtain ⟨result, rejection, k, hk, hstatus, -, hreason, hrun⟩ :=
    submit_blocked rt (w := ⟨gate, env⟩) ha
  refine ⟨result, _, _, hstatus, hreason, ?_, ?_, hrun⟩
  · exact ⟨rfl, ⟨result, rfl, hstatus⟩, rfl⟩
  · exact ⟨by simp, by simpa using hk⟩

namespace Governed
variable {σ : Type} (rt : Runtime) {s : Submission} (blocked : ActionDispatchResult → PyError)
  {w : World (Governed σ)}

theorem run_throughGate_none (h : w.self.releaseGate = none) :
    (throughGate rt s blocked).run w = .ok () w := by
  simp [throughGate, h]

theorem run_throughGate_admitted {gate : PlatformActionReleaseGate}
    (h : w.self.releaseGate = some gate) (hexec : s.executor = none)
    (ha : s.Admissible gate.chain.activePolicies) :
    ∃ gate' env, Released rt s gate gate' (s.compiled rt gate.activePolicies w.env.draws) ∧
      env.draws = w.env.draws + 9 ∧
      (throughGate rt s blocked).run w =
        .ok () ⟨{ w.self with releaseGate := some gate' }, env⟩ := by
  obtain ⟨result, gate', env, hstatus, -, hreleased, hdraws, hrun⟩ :=
    submit_released rt w.env hexec ha
  refine ⟨gate', env, hreleased, hdraws, ?_⟩
  simp [throughGate, h, run_on, hrun, hstatus]

theorem run_throughGate_blocked {gate : PlatformActionReleaseGate}
    (h : w.self.releaseGate = some gate) (ha : ¬ s.Admissible gate.chain.activePolicies) :
    ∃ result gate' env, Refused gate gate' ∧ w.env.Within 9 env ∧
      (throughGate rt s blocked).run w =
        .error (blocked result) ⟨{ w.self with releaseGate := some gate' }, env⟩ := by
  obtain ⟨result, gate', env, hstatus, -, hrefused, hwithin, hrun⟩ :=
    submit_refused rt w.env ha
  refine ⟨result, gate', env, hrefused, hwithin, ?_⟩
  simp [throughGate, h, run_on, hrun, hstatus]

variable {α : Type} (commit : Method σ α) (store : σ) (env : Env)

theorem run_governed_none :
    (governed rt s blocked commit).run ⟨⟨store, none⟩, env⟩ =
      (onStore commit).run ⟨⟨store, none⟩, env⟩ := by
  simp [governed, run_throughGate_none]

theorem run_governed_admitted {gate : PlatformActionReleaseGate} (hexec : s.executor = none)
    (ha : s.Admissible gate.chain.activePolicies) :
    ∃ gate' env', Released rt s gate gate' (s.compiled rt gate.activePolicies env.draws) ∧
      env'.draws = env.draws + 9 ∧
      (governed rt s blocked commit).run ⟨⟨store, some gate⟩, env⟩ =
        (onStore commit).run ⟨⟨store, some gate'⟩, env'⟩ := by
  obtain ⟨gate', env', hreleased, hdraws, hrun⟩ := run_throughGate_admitted rt blocked
    (w := ⟨⟨store, some gate⟩, env⟩) rfl hexec ha
  exact ⟨gate', env', hreleased, hdraws, by simp [governed, hrun]⟩

theorem run_governed_blocked {gate : PlatformActionReleaseGate}
    (ha : ¬ s.Admissible gate.chain.activePolicies) :
    ∃ e gate' env', Refused gate gate' ∧ env.Within 9 env' ∧
      (governed rt s blocked commit).run ⟨⟨store, some gate⟩, env⟩ =
        .error e ⟨⟨store, some gate'⟩, env'⟩ := by
  obtain ⟨result, gate', env', hrefused, hwithin, hrun⟩ := run_throughGate_blocked rt blocked
    (w := ⟨⟨store, some gate⟩, env⟩) rfl ha
  exact ⟨_, gate', env', hrefused, hwithin, by simp [governed, hrun]; rfl⟩

/-- The gate argument, if there is one, lets the submission through. -/
def Admits (releaseGate : Option PlatformActionReleaseGate) (s : Submission) : Prop :=
  ∀ gate ∈ releaseGate, s.Admissible gate.chain.activePolicies

/-- Called with any gate, the store is left as the commit leaves it or, when the gate blocks, as
it was. -/
theorem run_callWith_governed (hexec : s.executor = none)
    (releaseGate : Option PlatformActionReleaseGate) :
    (Admits releaseGate s ∧ ∃ env', env.Within 9 env' ∧
        (callWith releaseGate (governed rt s blocked commit)).run ⟨store, env⟩ =
          commit.run ⟨store, env'⟩) ∨
      ¬ Admits releaseGate s ∧ ∃ e env', env.Within 9 env' ∧
        (callWith releaseGate (governed rt s blocked commit)).run ⟨store, env⟩ =
          .error e ⟨store, env'⟩ := by
  cases releaseGate with
  | none =>
    refine Or.inl ⟨by simp [Admits], env, Env.Within.refl 9 env, ?_⟩
    rw [run_callWith_congr (run_governed_none ..), run_callWith_onStore]
  | some gate =>
    by_cases ha : s.Admissible gate.chain.activePolicies
    · obtain ⟨gate', env', -, hdraws, hrun⟩ := run_governed_admitted rt blocked commit
        store env hexec ha
      refine Or.inl ⟨by simpa [Admits] using ha, env', ⟨by omega, by omega⟩, ?_⟩
      rw [run_callWith, hrun, run_onStore]
      cases commit.run ⟨store, env'⟩ <;> rfl
    · obtain ⟨e, gate', env', -, hwithin, hrun⟩ := run_governed_blocked rt blocked commit
        store env ha
      refine Or.inr ⟨by simpa [Admits] using ha, e, env', hwithin, ?_⟩
      rw [run_callWith, hrun]

end Governed
end ControlFabric
