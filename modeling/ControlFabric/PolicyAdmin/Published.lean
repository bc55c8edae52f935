import ControlFabric.PolicyAdmin.Manager
import ControlFabric.Lib.Run

/-! Published policies never conflict. The check runs at publication only, but no other call brings
a policy into the published set, and none changes the packs or the rules of a policy. -/
namespace ControlFabric.PolicyAdmin
open Lib Py Method PolicyManager

/-- The policies share a target pack and a rule. -/
def Conflicting (p q : PolicyDefinition) : Prop :=
  Overlap p.targetPacks q.targetPacks ∧ Overlap p.rules q.rules

theorem Conflicting.symm {p q : PolicyDefinition} (h : Conflicting p q) : Conflicting q p :=
  ⟨h.1.symm, h.2.symm⟩

def PolicyStatus.Retired (status : PolicyStatus) : Prop :=
  status = .rolledBack ∨ status = .archived

/-! ### One call -/

/-- What a call may make of the policy stored under `k`. -/
structure Moves (m : PolicyManager) (k : String) (p q : PolicyDefinition) : Prop where
  policyId : q.policyId = p.policyId
  rules : q.rules = p.rules
  targetPacks : q.targetPacks = p.targetPacks
  published : q.status = .published → m.detectConflicts p k = []
  retired : p.status.Retired → q.status.Retired

inductive Effect (rt : Runtime) (w w' : World PolicyManager) : Prop where
  | raised (hdraws : w.env.draws ≤ w'.env.draws) (hpolicies : w'.self.policies = w.self.policies)
      (hhistory : w'.self.history = w.self.history)
  | created {p : PolicyDefinition} {e : HistoryEntry} (hid : p.policyId = rt.uuid4 w.env.draws)
      (hstatus : p.status = .draft) (haction : e.action = "create_draft")
      (hentry : e.policyId = p.policyId) (hdraws : w.env.draws < w'.env.draws)
      (hpolicies : w'.self.policies = w.self.policies.set p.policyId p)
      (hhistory : w'.self.history = w.self.history ++ [e])
  | moved {k : String} {p q : PolicyDefinition} {entries : List HistoryEntry}
      (hstored : w.self.policies.get? k = some p) (hmoves : Moves w.self k p q)
      (hentries : ∀ e ∈ entries, e.policyId = k) (hdraws : w.env.draws ≤ w'.env.draws)
      (hpolicies : w'.self.policies = w.self.policies.set k q)
      (hhistory : w'.self.history = w.self.history ++ entries)

section Step
variable {rt : Runtime} {half : ℤ → Except PyError ℚ} {w : World PolicyManager}

theorem run_get (policyId : String) : (get policyId).run w =
    match w.self.policies.get? policyId with
    | some p => .ok p w
    | none => .error (.valueError s!"Policy not found: {policyId}") w := by
  unfold PolicyManager.get
  simp only [EStateM.run_bind, run_self]
  cases w.self.policies.get? policyId <;> rfl

theorem run_record (action policyId actor : String) :
    (record rt action policyId actor).run w = .ok () ⟨{ w.self with history := w.self.history ++
      [⟨action, policyId, actor, (rt.now w.env.draws).isoformat⟩] }, w.env.tick 1⟩ := rfl

theorem run_store (policyId : String) (p : PolicyDefinition) : (store policyId p).run w =
    .ok () ⟨{ w.self with policies := w.self.policies.set policyId p }, w.env⟩ := rfl

theorem after_createDraft (policyName description : String)
    (rules targetPacks : Option (List String)) (createdBy : String) :
    Effect rt w ((createDraft rt policyName description rules targetPacks createdBy).after w) := by
  let p : PolicyDefinition := ⟨rt.uuid4 w.env.draws, policyName, description, .draft,
    rules.getD [], targetPacks.getD [], createdBy, rt.now w.env.draws, none, 1⟩
  let e : HistoryEntry :=
    ⟨"create_draft", p.policyId, createdBy, (rt.now (w.env.draws + 1)).isoformat⟩
  have hdraws : w.env.draws < w.env.draws + 1 + 1 := by omega
  exact .created (p := p) (e := e) rfl rfl rfl rfl hdraws rfl rfl

/-- A policy that may be simulated has not been retired. -/
theorem not_retired {status : PolicyStatus} (h : ¬ (status ≠ .draft ∧ status ≠ .published)) :
    ¬ status.Retired := by
  unfold PolicyStatus.Retired
  cases status <;> simp at h ⊢

theorem after_simulate (policyId : String) (sampleSize : ℤ) :
    Effect rt w ((simulate rt half policyId sampleSize).after w) := by
  simp only [after, simulate, EStateM.run_bind, run_get]
  cases hstored : w.self.policies.get? policyId with
  | none => exact .raised le_rfl rfl rfl
  | some p =>
    by_cases hstatus : p.status ≠ .draft ∧ p.status ≠ .published
    · simp only [if_pos hstatus, EStateM.run_bind, run_raise]
      exact .raised le_rfl rfl rfl
    · have hnot := not_retired hstatus
      simp only [if_neg hstatus, EStateM.run_bind, run_pure, run_store]
      cases half sampleSize with
      | error e =>
        exact .moved (p := p) (q := { p with status := .simulating }) hstored
          ⟨rfl, rfl, rfl, fun h => PolicyStatus.noConfusion h, fun h => absurd h hnot⟩
          (List.forall_mem_nil _) (Nat.le_add_right _ 0) rfl
          (List.append_nil _).symm
      | ok threshold =>
        simp only [run_lift_ok, run_draw, run_assign, run_record, Dict.set_set]
        exact .moved (p := p) (q := { p with status := .draft }) hstored
          ⟨rfl, rfl, rfl, fun h => PolicyStatus.noConfusion h, fun h => absurd h hnot⟩
          (List.forall_mem_singleton.mpr rfl) (Nat.le_add_right _ 2) rfl rfl

/-- The call raises and leaves everything as it was, or makes something else of the policy it finds
under its guard, and notes that. -/
inductive Decides (w w' : World PolicyManager) (policyId : String) (guard : PolicyDefinition → Prop)
    (make : PolicyDefinition → PolicyDefinition) : Prop where
  | raised (hself : w'.self = w.self) (hdraws : w'.env.draws = w.env.draws)
  | made {p : PolicyDefinition} {e : HistoryEntry} (hstored : w.self.policies.get? policyId = some p)
      (hguard : guard p) (hentry : e.policyId = policyId) (hdraws : w.env.draws ≤ w'.env.draws)
      (hpolicies : w'.self.policies = w.self.policies.set policyId (make p))
      (hhistory : w'.self.history = w.self.history ++ [e])

variable (rt w) in
theorem publish_decides (policyId publishedBy : String) :
    Decides w ((publish rt policyId publishedBy).after w) policyId
      (fun p => p.status = .draft ∧ w.self.detectConflicts p policyId = [])
      fun p => { p with status := .published, publishedAt := some (rt.now w.env.draws) } := by
  simp only [after, publish, EStateM.run_bind, run_get]
  cases hstored : w.self.policies.get? policyId with
  | none => exact .raised rfl rfl
  | some p =>
    by_cases hstatus : p.status ≠ .draft
    · simp only [if_pos hstatus, EStateM.run_bind, run_raise]
      exact .raised rfl rfl
    · simp only [if_neg hstatus, EStateM.run_bind, run_self]
      by_cases hconflicts : w.self.detectConflicts p policyId ≠ []
      · simp only [if_pos hconflicts, EStateM.run_bind, run_raise]
        exact .raised rfl rfl
      · simp only [if_neg hconflicts, EStateM.run_bind, run_pure, run_draw, run_store, run_record]
        exact .made hstored ⟨not_not.mp hstatus, not_not.mp hconflicts⟩ rfl
          (Nat.le_add_right _ 2) rfl rfl

variable (rt w) in
theorem rollback_decides (policyId rolledBackBy : String) :
    Decides w ((rollback rt policyId rolledBackBy).after w) policyId
      (fun p => p.status = .published) fun p => { p with status := .rolledBack } := by
  simp only [after, rollback, EStateM.run_bind, run_get]
  cases hstored : w.self.policies.get? policyId with
  | none => exact .raised rfl rfl
  | some p =>
    by_cases hstatus : p.status ≠ .published
    · simp only [if_pos hstatus, EStateM.run_bind, run_raise]
      exact .raised rfl rfl
    · simp only [if_neg hstatus, EStateM.run_bind, run_pure, run_store, run_record]
      exact .made hstored (not_not.mp hstatus) rfl (Nat.le_add_right _ 1) rfl rfl

variable (rt w) in
theorem archive_decides (policyId : String) :
    Decides w ((archive rt policyId).after w) policyId
      (fun p => p.status ≠ .published) fun p => { p with status := .archived } := by
  simp only [after, archive, EStateM.run_bind, run_get]
  cases hstored : w.self.policies.get? policyId with
  | none => exact .raised rfl rfl
  | some p =>
    by_cases hstatus : p.status = .published
    · simp only [if_pos hstatus, EStateM.run_bind, run_raise]
      exact .raised rfl rfl
    · simp only [if_neg hstatus, EStateM.run_bind, run_pure, run_store, run_record]
      exact .made hstored hstatus rfl (Nat.le_add_right _ 1) rfl rfl

theorem Decides.effect {w' : World PolicyManager} {policyId : String}
    {guard : PolicyDefinition → Prop} {make : PolicyDefinition → PolicyDefinition}
    (h : Decides w w' policyId guard make)
    (hmake : ∀ p, guard p → Moves w.self policyId p (make p)) : Effect rt w w' := by
  cases h with
  | raised hself hdraws => exact .raised hdraws.ge (by rw [hself]) (by rw [hself])
  | made hstored hguard hentry hdraws hpolicies hhistory =>
    exact .moved hstored (hmake _ hguard) (List.forall_mem_singleton.mpr hentry) hdraws hpolicies
      hhistory

theorem after_publish (policyId publishedBy : String) :
    Effect rt w ((publish rt policyId publishedBy).after w) := by
  refine (publish_decides rt w policyId publishedBy).effect fun p ⟨hdraft, hconflicts⟩ => ?_
  have hnot : ¬ p.status.Retired := not_retired fun h => h.1 hdraft
  exact ⟨rfl, rfl, rfl, fun _ => hconflicts, fun h => absurd h hnot⟩

theorem after_rollback (policyId rolledBackBy : String) :
    Effect rt w ((rollback rt policyId rolledBackBy).after w) :=
  (rollback_decides rt w policyId rolledBackBy).effect fun _ _ =>
    ⟨rfl, rfl, rfl, fun h => PolicyStatus.noConfusion h, fun _ => Or.inl rfl⟩

theorem after_archive (policyId : String) : Effect rt w ((archive rt policyId).after w) :=
  (archive_decides rt w policyId).effect fun _ _ =>
    ⟨rfl, rfl, rfl, fun h => PolicyStatus.noConfusion h, fun _ => Or.inr rfl⟩

variable (rt half w) in
theorem effect (call : PolicyCall) : Effect rt w (policyStep rt half call w) := by
  unfold policyStep
  cases call with
  | createDraft policyName description rules targetPacks createdBy =>
    rw [PolicyCall.perform, after_discard]
    exact after_createDraft policyName description rules targetPacks createdBy
  | simulate policyId sampleSize =>
    rw [PolicyCall.perform, after_discard]
    exact after_simulate policyId sampleSize
  | publish policyId publishedBy =>
    rw [PolicyCall.perform, after_discard]
    exact after_publish policyId publishedBy
  | rollback policyId rolledBackBy =>
    rw [PolicyCall.perform, after_discard]
    exact after_rollback policyId rolledBackBy
  | archive policyId =>
    rw [PolicyCall.perform, after_discard]
    exact after_archive policyId

end Step

/-! ### Every run -/

/-- Each publication in the history comes after the creation of its policy. -/
def Preceded (history : List HistoryEntry) : Prop :=
  ∀ before e after, history = before ++ e :: after → e.action = "publish" →
    ∃ c ∈ before, c.action = "create_draft" ∧ c.policyId = e.policyId

theorem Preceded.append {history entries : List HistoryEntry} (h : Preceded history)
    (hentries : ∀ e ∈ entries, e.action = "publish" →
      ∃ c ∈ history, c.action = "create_draft" ∧ c.policyId = e.policyId) :
    Preceded (history ++ entries) := by
  intro before e after heq hpublish
  rcases List.append_eq_append_iff.mp heq with ⟨added, rfl, hadded⟩ | ⟨rest, hhistory, hrest⟩
  · obtain ⟨c, hc, haction⟩ := hentries e (by simp [hadded]) hpublish
    exact ⟨c, List.mem_append_left _ hc, haction⟩
  · cases rest with
    | nil =>
      rw [List.append_nil] at hhistory
      rw [List.nil_append] at hrest
      obtain ⟨c, hc, haction⟩ := hentries e (hrest ▸ List.mem_cons_self) hpublish
      exact ⟨c, hhistory ▸ hc, haction⟩
    | cons d rest =>
      obtain ⟨rfl, -⟩ := List.cons.inj hrest
      exact h before e rest hhistory hpublish

structure Inv (m : PolicyManager) : Prop where
  keyed : ∀ {k p}, m.policies.get? k = some p → p.policyId = k
  disjoint : ∀ {k l p q}, m.policies.get? k = some p → m.policies.get? l = some q → k ≠ l →
    p.status = .published → q.status = .published → ¬ Conflicting p q
  created : ∀ {k p}, m.policies.get? k = some p →
    ∃ c ∈ m.history, c.action = "create_draft" ∧ c.policyId = k
  preceded : Preceded m.history

/-- A policy without detected conflicts shares no pack and rule with another published one. -/
theorem Inv.not_conflicting {m : PolicyManager} (h : Inv m) {k l : String}
    {p q : PolicyDefinition} (hnone : m.detectConflicts p k = []) (hq : m.policies.get? l = some q)
    (hne : l ≠ k) (hpublished : q.status = .published) : ¬ Conflicting p q := by
  rintro ⟨hpacks, hrules⟩
  have hmem : q ∈ m.policies.values.filter fun other => other.policyId ≠ k ∧
      other.status = .published ∧ Overlap p.targetPacks other.targetPacks ∧
        Overlap p.rules other.rules := by
    apply List.mem_filter.mpr
    refine ⟨Dict.mem_values.mpr ⟨l, hq⟩, ?_⟩
    rw [h.keyed hq]
    exact decide_eq_true ⟨hne, hpublished, hpacks, hrules⟩
  rw [List.map_eq_nil_iff.mp hnone] at hmem
  exact absurd hmem List.not_mem_nil

/-- Storing a policy that conflicts with no published one under another key keeps the published ones
apart. -/
theorem Inv.disjoint_set {m : PolicyManager} (h : Inv m) {k : String} {new : PolicyDefinition}
    (hnew : ∀ {l q}, m.policies.get? l = some q → l ≠ k → new.status = .published →
      q.status = .published → ¬ Conflicting new q) {l l' : String} {p q : PolicyDefinition}
    (hp : (m.policies.set k new).get? l = some p) (hq : (m.policies.set k new).get? l' = some q)
    (hne : l ≠ l') (hpp : p.status = .published) (hqp : q.status = .published) :
    ¬ Conflicting p q := by
  rw [Dict.get?_set] at hp hq
  by_cases hl : l = k
  · have hl' : l' ≠ k := fun heq => hne (hl.trans heq.symm)
    rw [if_pos hl] at hp
    rw [if_neg hl'] at hq
    obtain rfl := Option.some.inj hp
    exact hnew hq hl' hpp hqp
  · rw [if_neg hl] at hp
    by_cases hl' : l' = k
    · rw [if_pos hl'] at hq
      obtain rfl := Option.some.inj hq
      exact fun hc => hnew hp hl hqp hpp hc.symm
    · rw [if_neg hl'] at hq
      exact h.disjoint hp hq hne hpp hqp

theorem Inv.step {rt : Runtime} {w w' : World PolicyManager} (h : Inv w.self)
    (heffect : Effect rt w w') : Inv w'.self := by
  cases heffect with
  | raised hdraws hpolicies hhistory =>
    constructor
    · rw [hpolicies]
      exact h.keyed
    · rw [hpolicies]
      exact h.disjoint
    · rw [hpolicies, hhistory]
      exact h.created
    · rw [hhistory]
      exact h.preceded
  | @created new e hid hstatus haction hentry hdraws hpolicies hhistory =>
    have hdraft : new.status ≠ .published := by simp [hstatus]
    constructor
    · intro k p hp
      rw [hpolicies, Dict.get?_set] at hp
      split at hp
      next hk => exact Option.some.inj hp ▸ hk.symm
      next => exact h.keyed hp
    · intro k l p q
      rw [hpolicies]
      exact h.disjoint_set fun _ _ hpub => absurd hpub hdraft
    · intro k p hp
      rw [hhistory]
      rw [hpolicies, Dict.get?_set] at hp
      split at hp
      next hk => exact ⟨e, by simp, haction, hentry.trans hk.symm⟩
      next =>
        obtain ⟨c, hc, hcreate⟩ := h.created hp
        exact ⟨c, List.mem_append_left _ hc, hcreate⟩
    · rw [hhistory]
      apply h.preceded.append
      rw [List.forall_mem_singleton, haction]
      intro hpublish
      exact absurd hpublish (by decide)
  | @moved k p new entries hstored hmoves hentries hdraws hpolicies hhistory =>
    have hcreated : ∀ {l q}, w'.self.policies.get? l = some q →
        ∃ c ∈ w.self.history, c.action = "create_draft" ∧ c.policyId = l := by
      intro l q hq
      rw [hpolicies, Dict.get?_set] at hq
      split at hq
      next hl => exact hl ▸ h.created hstored
      next => exact h.created hq
    constructor
    · intro l q hq
      rw [hpolicies, Dict.get?_set] at hq
      split at hq
      next hl =>
        obtain rfl := Option.some.inj hq
        rw [hmoves.policyId, h.keyed hstored, hl]
      next => exact h.keyed hq
    · intro l l' q q'
      rw [hpolicies]
      apply h.disjoint_set
      intro l q hq hne hpub hqpub hconflict
      apply h.not_conflicting (hmoves.published hpub) hq hne hqpub
      unfold Conflicting at hconflict ⊢
      rwa [← hmoves.targetPacks, ← hmoves.rules]
    · intro l q hq
      obtain ⟨c, hc, hcreate⟩ := hcreated hq
      rw [hhistory]
      exact ⟨c, List.mem_append_left _ hc, hcreate⟩
    · rw [hhistory]
      apply h.preceded.append
      intro e he _
      rw [hentries e he]
      exact h.created hstored

theorem inv_new : Inv PolicyManager.new := by
  constructor
  · intro k p hp
    simp [PolicyManager.new] at hp
  · intro k l p q hp
    simp [PolicyManager.new] at hp
  · intro k p hp
    simp [PolicyManager.new] at hp
  · intro before e after h
    simp [PolicyManager.new] at h

theorem names (rt : Runtime) (half : ℤ → Except PyError ℚ) :
    Names (policyStep rt half) (fun w => w.env.draws) rt.uuid4 fun w k => k ∈ w.self.policies where
  draws_le := by
    intro call w
    cases effect rt half w call with
    | raised hdraws _ _ => exact hdraws
    | created _ _ _ _ hdraws _ _ => exact hdraws.le
    | moved _ _ _ hdraws _ _ => exact hdraws
  drawn := by
    intro call w k hk
    cases effect rt half w call with
    | raised hdraws hpolicies _ =>
      rw [hpolicies] at hk
      exact Or.inl hk
    | created hid _ _ _ hdraws hpolicies _ =>
      rw [hpolicies, Dict.mem_set] at hk
      rcases hk with rfl | hk
      · exact Or.inr ⟨_, le_rfl, hdraws, hid⟩
      · exact Or.inl hk
    | moved hstored _ _ _ hpolicies _ =>
      rw [hpolicies, Dict.mem_set] at hk
      rcases hk with rfl | hk
      · exact Or.inl (Dict.mem_of_get? hstored)
      · exact Or.inl hk

/-- The policy under `k` has been rolled back or archived. -/
def RetiredAt (w : World PolicyManager) (k : String) : Prop :=
  ∃ p, w.self.policies.get? k = some p ∧ p.status.Retired

/-- Once retired, a policy stays so whatever is called, while no identifier is drawn twice. -/
theorem retired_step {rt : Runtime} {half : ℤ → Except PyError ℚ} {w : World PolicyManager}
    {call : PolicyCall} {calls : List PolicyCall}
    (hfresh : Fresh (policyStep rt half) (fun w => w.env.draws) rt.uuid4
      (fun w k => k ∈ w.self.policies) w (call :: calls)) {k : String}
    (hk : RetiredAt w k) : RetiredAt (policyStep rt half call w) k := by
  unfold RetiredAt
  obtain ⟨p, hp, hretired⟩ := hk
  cases effect rt half w call with
  | raised _ hpolicies _ =>
    rw [hpolicies]
    exact ⟨p, hp, hretired⟩
  | @created new _ hid _ _ _ hdraws hpolicies _ =>
    have hne : k ≠ new.policyId := by
      rintro rfl
      exact (names rt half).not_has hfresh le_rfl hdraws (hid ▸ Dict.mem_of_get? hp)
    rw [hpolicies, Dict.get?_set_of_ne hne]
    exact ⟨p, hp, hretired⟩
  | @moved l old new _ hstored hmoves _ _ hpolicies _ =>
    rw [hpolicies, Dict.get?_set]
    split
    next hl =>
      subst hl
      obtain rfl := Option.some.inj (hstored.symm.trans hp)
      exact ⟨new, rfl, hmoves.retired hretired⟩
    next => exact ⟨p, hp, hretired⟩

/-- The calls draw no number twice, and no policy has one that is drawn later. -/
def Undrawn (rt : Runtime) (half : ℤ → Except PyError ℚ) (w : World PolicyManager)
    (calls : List PolicyCall) : Prop :=
  Fresh (policyStep rt half) (fun w => w.env.draws) rt.uuid4 (fun w k => k ∈ w.self.policies) w
    calls

theorem Undrawn.step {rt : Runtime} {half : ℤ → Except PyError ℚ} (w : World PolicyManager)
    (call : PolicyCall) (calls : List PolicyCall) (h : Undrawn rt half w (call :: calls)) :
    Undrawn rt half (policyStep rt half call w) calls :=
  (names rt half).fresh_step h

theorem undrawn_new {rt : Runtime} {half : ℤ → Except PyError ℚ} {env : Env}
    {calls : List PolicyCall} (huuid : Set.InjOn rt.uuid4
      (Set.Iio (run (policyStep rt half) ⟨.new, env⟩ calls).env.draws)) :
    Undrawn rt half ⟨.new, env⟩ calls :=
  ⟨huuid, fun k hk => absurd hk (Dict.not_mem_empty k)⟩

/-- In every state reached: published policies do not conflict, a policy once rolled back or
archived is not published, and a publication comes after the creation of its policy. -/
theorem published_policies (rt : Runtime) (half : ℤ → Except PyError ℚ) (env : Env)
    (calls : List PolicyCall) (huuid : Set.InjOn rt.uuid4
      (Set.Iio (run (policyStep rt half) ⟨.new, env⟩ calls).env.draws)) :
    let m := (run (policyStep rt half) ⟨.new, env⟩ calls).self
    (∀ k l p q, m.policies.get? k = some p → m.policies.get? l = some q → k ≠ l →
      p.status = .published → q.status = .published → ¬ Conflicting p q) ∧
    (∀ before, before <+: calls → ∀ k p,
      (run (policyStep rt half) ⟨.new, env⟩ before).self.policies.get? k = some p →
        p.status = .rolledBack ∨ p.status = .archived →
          ∀ q, m.policies.get? k = some q → q.status ≠ .published) ∧
    ∀ before e after, m.history = before ++ e :: after → e.action = "publish" →
      ∃ c ∈ before, c.action = "create_draft" ∧ c.policyId = e.policyId := by
  intro m
  have hinv : Inv m := run_invariant (policyStep rt half)
    (fun call _ w (h : Inv w.self) => h.step (effect rt half w call)) inv_new
  refine ⟨fun _ _ _ _ => hinv.disjoint, ?_, hinv.preceded⟩
  rintro before ⟨rest, rfl⟩ k p hp hretired q hq
  have hbefore : Undrawn rt half (run (policyStep rt half) ⟨.new, env⟩ before) rest :=
    resource_run (policyStep rt half) Undrawn.step (undrawn_new huuid)
  have hnothing : Undrawn rt half (run (policyStep rt half) ⟨.new, env⟩ before) (rest ++ []) := by
    rwa [List.append_nil]
  have hend : RetiredAt (run (policyStep rt half) (run (policyStep rt half) ⟨.new, env⟩ before) rest)
      k := has_run (policyStep rt half) Undrawn.step
    (fun w call calls hw k hk => retired_step hw hk) hnothing ⟨p, hp, hretired⟩
  rw [← run_append] at hend
  obtain ⟨q', hq', hq'retired⟩ := hend
  obtain rfl := Option.some.inj (hq'.symm.trans hq)
  rintro hpublished
  simp [PolicyStatus.Retired, hpublished] at hq'retired

/-- Two policies for one pack are published and the first one is rolled back. -/
def releasePolicies : List PolicyCall :=
  [.createDraft "margin" "" (some ["R1"]) (some ["telco-ops"]) "ops",
    .createDraft "terms" "" (some ["R2"]) (some ["telco-ops"]) "ops",
    .publish (Runtime.reference.uuid4 0) "lead", .publish (Runtime.reference.uuid4 2) "lead",
    .rollback (Runtime.reference.uuid4 0) "lead"]

theorem published_policies_release :
    let m := (run (policyStep .reference fun n => .ok (n / 2)) ⟨.new, .initial "acme"⟩
      releasePolicies).self
    (∀ k l p q, m.policies.get? k = some p → m.policies.get? l = some q → k ≠ l →
      p.status = .published → q.status = .published → ¬ Conflicting p q) ∧
    (∀ before, before <+: releasePolicies → ∀ k p,
      (run (policyStep .reference fun n => .ok (n / 2)) ⟨.new, .initial "acme"⟩
        before).self.policies.get? k = some p → p.status = .rolledBack ∨ p.status = .archived →
          ∀ q, m.policies.get? k = some q → q.status ≠ .published) ∧
    ∀ before e after, m.history = before ++ e :: after → e.action = "publish" →
      ∃ c ∈ before, c.action = "create_draft" ∧ c.policyId = e.policyId := by
  apply published_policies
  apply Runtime.reference_uuid4.mono
  apply Set.Iio_subset_Iio
  decide +kernel

end ControlFabric.PolicyAdmin
