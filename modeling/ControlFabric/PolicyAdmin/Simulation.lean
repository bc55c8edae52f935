import ControlFabric.PolicyAdmin.Published

/-! What a simulation does to the policy it simulates. It puts the policy into SIMULATING and in the
end into DRAFT, whatever its status was, and leaves it in SIMULATING when it raises in between. -/
namespace ControlFabric.PolicyAdmin
open Lib Py Method PolicyManager

/-- The status, the rules and the target packs of the policy stored under `k`. -/
def lawOf (m : PolicyManager) (k : String) : Option (PolicyStatus × List String × List String) :=
  (m.policies.get? k).map fun p => (p.status, p.rules, p.targetPacks)

/-- The policy to simulate, if there is one, is not published and, if it is a draft, the size of the
sample is one that half of it can be told. -/
def Harmless (half : ℤ → Except PyError ℚ) (w : World PolicyManager) (policyId : String)
    (sampleSize : ℤ) : Prop :=
  ∀ p ∈ w.self.policies.get? policyId, p.status ≠ .published ∧
    (p.status = .draft → ∃ threshold, half sampleSize = .ok threshold)

/-- No policy is left in simulation. -/
def NoneSimulating (w : World PolicyManager) : Prop :=
  ∀ k p, w.self.policies.get? k = some p → p.status ≠ .simulating

/-- A policy that the call takes out of PUBLISHED is the one it rolls back. -/
def LeavesByRollback (rt : Runtime) (half : ℤ → Except PyError ℚ) (call : PolicyCall)
    (w : World PolicyManager) : Prop :=
  ∀ k p q, w.self.policies.get? k = some p → p.status = .published →
    (policyStep rt half call w).self.policies.get? k = some q → q.status ≠ .published →
      ∃ rolledBackBy, call = .rollback k rolledBackBy

def SimulatesHarmlessly (half : ℤ → Except PyError ℚ) (call : PolicyCall)
    (w : World PolicyManager) : Prop :=
  match call with
  | .simulate policyId sampleSize => Harmless half w policyId sampleSize
  | .createDraft .. | .publish .. | .rollback .. | .archive .. => True

section Simulate
variable {rt : Runtime} {half : ℤ → Except PyError ℚ} {w : World PolicyManager} {policyId : String}
  {sampleSize : ℤ}

/-- The status a simulated policy ends in. -/
def simulatedStatus (half : ℤ → Except PyError ℚ) (sampleSize : ℤ) : PolicyStatus :=
  match half sampleSize with
  | .ok _ => .draft
  | .error _ => .simulating

theorem simulate_kept (h : ∀ p ∈ w.self.policies.get? policyId,
      p.status ≠ .draft ∧ p.status ≠ .published) :
    ((simulate rt half policyId sampleSize).after w).self.policies = w.self.policies := by
  simp only [after, simulate, EStateM.run_bind, run_get]
  cases hstored : w.self.policies.get? policyId with
  | none => rfl
  | some p =>
    simp only [if_pos (h p hstored), EStateM.run_bind, run_raise]

theorem simulate_stored {p : PolicyDefinition} (hstored : w.self.policies.get? policyId = some p)
    (hstatus : p.status = .draft ∨ p.status = .published) :
    ((simulate rt half policyId sampleSize).after w).self.policies =
      w.self.policies.set policyId { p with status := simulatedStatus half sampleSize } := by
  have hadmitted : ¬ (p.status ≠ .draft ∧ p.status ≠ .published) := by
    rintro ⟨hdraft, hpublished⟩
    exact hstatus.elim hdraft hpublished
  unfold simulatedStatus
  simp only [after, simulate, EStateM.run_bind, run_get, hstored, if_neg hadmitted, run_pure,
    run_store]
  cases half sampleSize with
  | error e => rfl
  | ok threshold =>
    simp only [run_lift_ok, run_draw, run_assign, run_record, Dict.set_set]

/-- A simulation that is harmless leaves all policies as they were. -/
theorem simulate_harmless (h : Harmless half w policyId sampleSize) :
    ((simulate rt half policyId sampleSize).after w).self.policies = w.self.policies := by
  by_cases hdraft : ∃ p, w.self.policies.get? policyId = some p ∧ p.status = .draft
  · obtain ⟨p, hstored, hdraft⟩ := hdraft
    obtain ⟨threshold, hhalf⟩ := (h p hstored).2 hdraft
    have hsame : { p with status := simulatedStatus half sampleSize } = p := by
      rw [simulatedStatus, hhalf, ← hdraft]
    rw [simulate_stored hstored (Or.inl hdraft), hsame, Dict.set_of_get? hstored]
  · apply simulate_kept
    intro p hstored
    exact ⟨fun hstatus => hdraft ⟨p, hstored, hstatus⟩, (h p hstored).1⟩

variable (rt) in
/-- One that is not leaves the policy in another status, a published one among them. -/
theorem simulate_harmful (h : ¬ Harmless half w policyId sampleSize) :
    ∃ p, w.self.policies.get? policyId = some p ∧
      (p.status = .published ∨ simulatedStatus half sampleSize = .simulating) ∧
      p.status ≠ simulatedStatus half sampleSize ∧
      ((simulate rt half policyId sampleSize).after w).self.policies.get? policyId =
        some { p with status := simulatedStatus half sampleSize } := by
  unfold Harmless at h
  push Not at h
  obtain ⟨p, hstored, h⟩ := h
  rw [Option.mem_def] at hstored
  refine ⟨p, hstored, ?_⟩
  by_cases hpublished : p.status = .published
  · rw [simulate_stored hstored (Or.inr hpublished)]
    refine ⟨Or.inl hpublished, ?_, Dict.get?_set_self _ _ _⟩
    rw [hpublished, simulatedStatus]
    split <;> decide
  · obtain ⟨hdraft, hraises⟩ := h hpublished
    have hsimulating : simulatedStatus half sampleSize = .simulating := by
      unfold simulatedStatus
      split
      next threshold hok => exact absurd hok (hraises threshold)
      next => rfl
    rw [simulate_stored hstored (Or.inl hdraft)]
    refine ⟨Or.inr hsimulating, ?_, Dict.get?_set_self _ _ _⟩
    rw [hdraft, hsimulating]
    decide

theorem simulate_frame_iff : (∀ k, lawOf ((simulate rt half policyId sampleSize).after w).self k =
      lawOf w.self k) ↔ Harmless half w policyId sampleSize := by
  constructor
  · intro h
    by_contra hharmful
    obtain ⟨p, hstored, -, hstatus, hafter⟩ := simulate_harmful rt hharmful
    have hlaw := h policyId
    rw [lawOf, lawOf, hstored, hafter] at hlaw
    exact hstatus (congrArg Prod.fst (Option.some.inj hlaw)).symm
  · intro h k
    rw [lawOf, lawOf, simulate_harmless h]

end Simulate

section Step
variable {rt : Runtime} {half : ℤ → Except PyError ℚ} {w : World PolicyManager} {call : PolicyCall}

theorem keeps_of_same (h : NoneSimulating w)
    (hpolicies : (policyStep rt half call w).self.policies = w.self.policies) :
    NoneSimulating (policyStep rt half call w) ∧ LeavesByRollback rt half call w := by
  constructor
  · intro k p hp
    rw [hpolicies] at hp
    exact h k p hp
  · intro k p q hp hpublished hq hleft
    rw [hpolicies, hp] at hq
    exact absurd (Option.some.inj hq ▸ hpublished) hleft

/-- The one policy that is stored does not end in simulation, and leaves PUBLISHED in a rollback
only. -/
theorem keeps_of_set {k : String} {q : PolicyDefinition} (h : NoneSimulating w)
    (hpolicies : (policyStep rt half call w).self.policies = w.self.policies.set k q)
    (hq : q.status ≠ .simulating)
    (hleaves : ∀ p, w.self.policies.get? k = some p → p.status = .published →
      q.status = .published ∨ ∃ rolledBackBy, call = .rollback k rolledBackBy) :
    NoneSimulating (policyStep rt half call w) ∧ LeavesByRollback rt half call w := by
  constructor
  · intro l p hp
    rw [hpolicies, Dict.get?_set] at hp
    split at hp
    next => exact Option.some.inj hp ▸ hq
    next => exact h l p hp
  · intro l p p' hp hpublished hp' hleft
    rw [hpolicies, Dict.get?_set] at hp'
    split at hp'
    next hl =>
      subst hl
      exact (hleaves p hp hpublished).resolve_left (Option.some.inj hp' ▸ hleft)
    next =>
      rw [hp] at hp'
      exact absurd (Option.some.inj hp' ▸ hpublished) hleft

theorem keeps_createDraft {policyName description : String} {rules targetPacks : Option (List String)}
    {createdBy : String} (h : NoneSimulating w) (hnew : rt.uuid4 w.env.draws ∉ w.self.policies) :
    let call : PolicyCall := .createDraft policyName description rules targetPacks createdBy
    NoneSimulating (policyStep rt half call w) ∧ LeavesByRollback rt half call w := by
  let p : PolicyDefinition := ⟨rt.uuid4 w.env.draws, policyName, description, .draft,
    rules.getD [], targetPacks.getD [], createdBy, rt.now w.env.draws, none, 1⟩
  refine keeps_of_set (q := p) h rfl (by simp [p]) fun p' hp' => ?_
  exact absurd (Dict.mem_of_get? hp') hnew

theorem keeps_of_decides {policyId : String} {guard : PolicyDefinition → Prop}
    {make : PolicyDefinition → PolicyDefinition} (h : NoneSimulating w)
    (hdecides : Decides w (policyStep rt half call w) policyId guard make)
    (hmake : ∀ p, (make p).status ≠ .simulating)
    (hleaves : ∀ p, guard p → p.status = .published →
      (make p).status = .published ∨ ∃ rolledBackBy, call = .rollback policyId rolledBackBy) :
    NoneSimulating (policyStep rt half call w) ∧ LeavesByRollback rt half call w := by
  cases hdecides with
  | raised hself => exact keeps_of_same h (by rw [hself])
  | @made p _ hstored hguard _ _ hpolicies =>
    refine keeps_of_set h hpolicies (hmake p) fun p' hp' hpublished => ?_
    obtain rfl := Option.some.inj (hstored.symm.trans hp')
    exact hleaves p hguard hpublished

theorem keeps_publish {policyId publishedBy : String} (h : NoneSimulating w) :
    let call : PolicyCall := .publish policyId publishedBy
    NoneSimulating (policyStep rt half call w) ∧ LeavesByRollback rt half call w := by
  have hdecides := publish_decides rt w policyId publishedBy
  rw [← after_discard] at hdecides
  exact keeps_of_decides h hdecides (by simp) fun _ _ _ => Or.inl rfl

theorem keeps_rollback {policyId rolledBackBy : String} (h : NoneSimulating w) :
    let call : PolicyCall := .rollback policyId rolledBackBy
    NoneSimulating (policyStep rt half call w) ∧ LeavesByRollback rt half call w := by
  have hdecides := rollback_decides rt w policyId rolledBackBy
  rw [← after_discard] at hdecides
  exact keeps_of_decides h hdecides (by simp) fun _ _ _ => Or.inr ⟨rolledBackBy, rfl⟩

theorem keeps_archive {policyId : String} (h : NoneSimulating w) :
    let call : PolicyCall := .archive policyId
    NoneSimulating (policyStep rt half call w) ∧ LeavesByRollback rt half call w := by
  have hdecides := archive_decides rt w policyId
  rw [← after_discard] at hdecides
  exact keeps_of_decides h hdecides (by simp) fun _ hguard hpublished => absurd hpublished hguard

/-- A simulation keeps both exactly when it is harmless. -/
theorem keeps_simulate_iff {policyId : String} {sampleSize : ℤ} (h : NoneSimulating w) :
    let call : PolicyCall := .simulate policyId sampleSize
    NoneSimulating (policyStep rt half call w) ∧ LeavesByRollback rt half call w ↔
      Harmless half w policyId sampleSize := by
  intro call
  have hafter : policyStep rt half call w = (simulate rt half policyId sampleSize).after w :=
    after_discard _ w
  constructor
  · rintro ⟨hnone, hleaves⟩
    by_contra hharmful
    obtain ⟨p, hstored, hpublished | hsimulating, hstatus, hget⟩ :=
      simulate_harmful rt hharmful
    · rw [← hafter] at hget
      obtain ⟨rolledBackBy, hcall⟩ := hleaves policyId p _ hstored hpublished hget
        (hpublished ▸ hstatus.symm)
      exact PolicyCall.noConfusion hcall
    · rw [← hafter] at hget
      exact hnone policyId _ hget hsimulating
  · intro hharmless
    apply keeps_of_same h
    rw [hafter, simulate_harmless hharmless]

end Step

/-- In every state a simulation changes no status, rules or target packs exactly when it is
harmless; and in every run no policy is in simulation, and none leaves PUBLISHED but by its
rollback, exactly when all simulations are harmless. -/
theorem simulations_harmless_iff (rt : Runtime) (half : ℤ → Except PyError ℚ) (env : Env)
    (calls : List PolicyCall) (huuid : Set.InjOn rt.uuid4
      (Set.Iio (run (policyStep rt half) ⟨.new, env⟩ calls).env.draws)) :
    (∀ w policyId sampleSize,
      (∀ k, lawOf ((simulate rt half policyId sampleSize).after w).self k = lawOf w.self k) ↔
        Harmless half w policyId sampleSize) ∧
    (Always (policyStep rt half) NoneSimulating ⟨.new, env⟩ calls ∧
        Conforms (policyStep rt half) (LeavesByRollback rt half) ⟨.new, env⟩ calls ↔
      Conforms (policyStep rt half) (SimulatesHarmlessly half) ⟨.new, env⟩ calls) := by
  refine ⟨fun w policyId sampleSize => simulate_frame_iff, ?_⟩
  have hnone : NoneSimulating ⟨.new, env⟩ := by
    intro k p hp
    simp [PolicyManager.new] at hp
  refine always_and_conforms_iff_of_resource (policyStep rt half) Undrawn.step
    (fun w call calls hw h => ?_) (undrawn_new huuid) hnone
  cases call with
  | createDraft policyName description rules targetPacks createdBy =>
    have hfresh : rt.uuid4 w.env.draws ∉ w.self.policies :=
      (names rt half).not_has hw le_rfl (Nat.lt_add_of_pos_right (n := w.env.draws) two_pos)
    exact iff_of_true (keeps_createDraft h hfresh) trivial
  | simulate policyId sampleSize => exact keeps_simulate_iff h
  | publish policyId publishedBy => exact iff_of_true (keeps_publish h) trivial
  | rollback policyId rolledBackBy => exact iff_of_true (keeps_rollback h) trivial
  | archive policyId => exact iff_of_true (keeps_archive h) trivial

/-- A policy is drafted, simulated, published and rolled back. -/
def simulatedPolicy : List PolicyCall :=
  [.createDraft "margin" "" (some ["R1"]) (some ["telco-ops"]) "ops",
    .simulate (Runtime.reference.uuid4 0) 100, .publish (Runtime.reference.uuid4 0) "lead",
    .rollback (Runtime.reference.uuid4 0) "lead"]

/-- The half of an integer, in exact arithmetic. -/
def exactHalf (n : ℤ) : Except PyError ℚ := .ok (n / 2)

theorem simulations_harmless_iff_simulated :
    (∀ w policyId sampleSize,
      (∀ k, lawOf ((simulate .reference exactHalf policyId sampleSize).after w).self k =
          lawOf w.self k) ↔ Harmless exactHalf w policyId sampleSize) ∧
    (Always (policyStep .reference exactHalf) NoneSimulating ⟨.new, .initial "acme"⟩
          simulatedPolicy ∧
        Conforms (policyStep .reference exactHalf) (LeavesByRollback .reference exactHalf)
          ⟨.new, .initial "acme"⟩ simulatedPolicy ↔
      Conforms (policyStep .reference exactHalf) (SimulatesHarmlessly exactHalf)
        ⟨.new, .initial "acme"⟩ simulatedPolicy) := by
  apply simulations_harmless_iff
  apply Runtime.reference_uuid4.mono
  apply Set.Iio_subset_Iio
  decide +kernel

/-- The simulation of a published policy makes a draft of it. -/
theorem simulation_unpublishes :
    ¬ ∀ (rt : Runtime) (half : ℤ → Except PyError ℚ) (env : Env) (calls : List PolicyCall)
      (policyId : String) (sampleSize : ℤ),
      let w := run (policyStep rt half) ⟨.new, env⟩ calls
      ∀ k, lawOf ((simulate rt half policyId sampleSize).after w).self k = lawOf w.self k := by
  intro h
  have hlaw := h .reference exactHalf (.initial "acme")
    [.createDraft "margin" "" (some ["R1"]) (some ["telco-ops"]) "ops",
      .publish (Runtime.reference.uuid4 0) "lead"]
    (Runtime.reference.uuid4 0) 100 (Runtime.reference.uuid4 0)
  exact absurd hlaw (by decide +kernel)

end ControlFabric.PolicyAdmin
