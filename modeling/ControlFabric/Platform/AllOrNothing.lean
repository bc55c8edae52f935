import ControlFabric.Platform.Steps

/-! Gated calls are all-or-nothing exactly where the gate lets through only what the store
accepts. -/
namespace ControlFabric
open Lib Method Platform

namespace PlatformOp
variable (rt : Runtime)

/-- What a call that raises leaves: both stores as they were, and a gate that released nothing. -/
structure Untouched (p p' : Platform) : Prop where
  registry : p'.registry = p.registry
  graph : p'.graph = p.graph
  releaseGate : p.releaseGate.Quiet p'.releaseGate

/-- What a call that returns leaves: its change, and one new package, for that change. -/
structure Carried (op : PlatformOp) (p p' : Platform) : Prop where
  commits : op.Commits rt p p'
  released : ∃ s package, op.submission p = some s ∧
    package.packageId ∉ p.releaseGate.packages ∧
    Released rt s p.releaseGate p'.releaseGate package

def AllOrNothing (op : PlatformOp) (w : World Platform) : Prop :=
  match (op.call rt).run w with
  | .ok _ w' => op.Carried rt w.self w'.self
  | .error _ w' => Untouched w.self w'.self

/-- The gate lets the call through only if the store will accept it. -/
def ChecksAgree (p : Platform) (op : PlatformOp) : Prop :=
  ∀ s ∈ op.submission p, s.Admissible p.releaseGate.chain.activePolicies → op.Committable p

/-- The number of packages of governed action types the call releases. -/
def releases (op : PlatformOp) (p : Platform) : ℕ :=
  match op.submission p with
  | none => 0
  | some s => if s.Admissible p.releaseGate.chain.activePolicies ∧
      s.actionType ∈ governedActionTypes then 1 else 0

/-- The number of packages of governed action types there should be for the call: one for a gated
call that commits, and what a direct submit asks for. -/
def owed (op : PlatformOp) (w : World Platform) : ℕ :=
  match op with
  | submit s => (submit s).releases w.self
  | op => if op.Gated ∧ (op.call rt).returns w then 1 else 0

variable {rt} {w : World Platform}

/-- A gated call is all-or-nothing exactly when the gate would not let through what the store
rejects. -/
theorem allOrNothing_iff {op : PlatformOp} (hgated : op.Gated) (hkeyed : w.self.registry.Keyed)
    (hdrawn : PackagesDrawn rt ⟨w.self.releaseGate, w.env⟩)
    (huuid : Set.InjOn rt.uuid4 (Set.Iio (w.env.draws + 13))) :
    op.AllOrNothing rt w ↔ op.ChecksAgree w.self := by
  rcases outcome_of_gated rt hgated hkeyed with
    ⟨s, hs, ha, hcommittable, p', env', hcommits, hreleased, -, hrun⟩ |
    ⟨s, hs, ha, hno, gate', e, env', hreleased, -, hrun⟩ |
    ⟨hno, gate', e, env', hquiet, -, hrun⟩
  · simp only [AllOrNothing, hrun]
    refine iff_of_true ⟨hcommits, s, _, hs, ?_, hreleased⟩ fun _ _ _ => hcommittable
    exact PackagesDrawn.fresh hdrawn (n := w.env.draws + 7) (by simp)
      (huuid.mono (Set.Iio_subset_Iio (by omega)))
  · simp only [AllOrNothing, hrun]
    exact iff_of_false (fun h => hreleased.not_quiet h.releaseGate) fun h => hno (h s hs ha)
  · simp only [AllOrNothing, hrun]
    exact iff_of_true ⟨rfl, rfl, hquiet⟩ fun s hs ha => absurd ha (hno s hs)

variable {op : PlatformOp}

theorem releases_eq_one {s : Submission} (hgated : op.Gated) (hs : op.submission w.self = some s)
    (ha : s.Admissible w.self.releaseGate.chain.activePolicies) : op.releases w.self = 1 := by
  have htype : s.actionType ∈ governedActionTypes := by
    cases op with
    | registry _ => exact hgated.elim
    | graph _ => exact hgated.elim
    | submit _ => exact hgated.elim
    | transitionState objectId newState transitionedBy reason =>
      obtain ⟨current, -, rfl⟩ := Option.map_eq_some_iff.mp hs
      exact List.mem_cons_self
    | addEdge edge =>
      obtain ⟨-, ⟨⟩⟩ := Option.ite_none_right_eq_some.mp hs
      exact List.mem_cons_of_mem _ List.mem_cons_self
    | addGovernedEdge edge assertedBy =>
      obtain ⟨-, ⟨⟩⟩ := Option.ite_none_right_eq_some.mp hs
      exact List.mem_cons_of_mem _ List.mem_cons_self
  simp [releases, hs, ha, htype]

theorem releases_eq_zero
    (h : ∀ s ∈ op.submission w.self, ¬ s.Admissible w.self.releaseGate.chain.activePolicies) :
    op.releases w.self = 0 := by
  unfold releases
  split
  next => rfl
  next s hs => simp [h s hs]

theorem owed_of_gated (hgated : op.Gated) :
    op.owed rt w = if (op.call rt).returns w then 1 else 0 := by
  cases op with
  | submit _ => exact hgated.elim
  | _ => simp [owed, hgated]

variable (rt) (w) in
theorem owed_of_not_gated (hgated : ¬ op.Gated) :
    op.owed rt w = op.releases w.self ∧ op.ChecksAgree w.self := by
  cases op with
  | registry _ =>
    exact ⟨by simp [owed, hgated, releases, submission], by simp [ChecksAgree, submission]⟩
  | graph _ => exact ⟨by simp [owed, hgated, releases, submission], by simp [ChecksAgree, submission]⟩
  | submit s => exact ⟨rfl, fun _ _ _ => trivial⟩
  | transitionState _ _ _ _ => exact absurd trivial hgated
  | addEdge edge =>
    have hs : (addEdge edge).submission w.self = none := if_neg hgated
    exact ⟨by simp [owed, hgated, releases, hs], by simp [ChecksAgree, hs]⟩
  | addGovernedEdge edge assertedBy =>
    have hs : (addGovernedEdge edge assertedBy).submission w.self = none := if_neg hgated
    exact ⟨by simp [owed, hgated, releases, hs], by simp [ChecksAgree, hs]⟩

/-- No call owes more than it releases, and it owes as much exactly when the checks agree. -/
theorem owed_releases (op : PlatformOp) (hkeyed : w.self.registry.Keyed) :
    op.owed rt w ≤ op.releases w.self ∧
      (op.releases w.self = op.owed rt w ↔ op.ChecksAgree w.self) := by
  by_cases hgated : op.Gated
  · rw [owed_of_gated hgated]
    rcases outcome_of_gated rt hgated hkeyed with
      ⟨s, hs, ha, hcommittable, p', env', -, -, -, hrun⟩ |
      ⟨s, hs, ha, hno, gate', e, env', -, -, hrun⟩ | ⟨hno, gate', e, env', -, -, hrun⟩
    · simp [releases_eq_one hgated hs ha, returns, hrun, ChecksAgree, hcommittable]
    · simp [releases_eq_one hgated hs ha, returns, hrun, ChecksAgree, hno, hs, ha]
    · simp only [releases_eq_zero hno, returns, hrun]
      exact ⟨by simp, iff_of_true rfl fun s hs ha => absurd ha (hno s hs)⟩
  · obtain ⟨howed, hagree⟩ := owed_of_not_gated rt w hgated
    exact ⟨howed.le, iff_of_true howed.symm hagree⟩

end PlatformOp

theorem platformStep_allOrNothing_iff {rt : Runtime} {w : World Platform} (hw : Sound rt w)
    (op : PlatformOp) (huuid : Set.InjOn rt.uuid4 (Set.Iio (w.env.draws + 13))) :
    (op.Gated → op.AllOrNothing rt w) ↔ op.ChecksAgree w.self := by
  by_cases hgated : op.Gated
  · rw [forall_prop_of_true hgated]
    exact PlatformOp.allOrNothing_iff hgated hw.keyed hw.drawn huuid
  · exact iff_of_true (fun hg => absurd hg hgated) (PlatformOp.owed_of_not_gated rt w hgated).2

theorem platformStep_governedPackages {rt : Runtime} {w : World Platform} (hw : Sound rt w)
    (op : PlatformOp) (huuid : Set.InjOn rt.uuid4 (Set.Iio (w.env.draws + 13))) :
    (platformStep rt op w).self.governedPackages.length =
      w.self.governedPackages.length + op.releases w.self := by
  have heffect := op.effect hw
  rcases heffect.packages with ⟨hno, hsame⟩ | ⟨s, hs, ha, n, package, hn, hlt, htype, hset⟩
  · simp [governedPackages, hsame, PlatformOp.releases_eq_zero hno]
  · have hbound := heffect.within.bound
    have hfresh := PackagesDrawn.fresh hw.drawn hn (huuid.mono (Set.Iio_subset_Iio (by omega)))
    simp only [governedPackages, hset, Dict.values, Dict.entries_set_new hfresh, List.map_append,
      List.filter_append, List.length_append, PlatformOp.releases, hs, ha, true_and, ← htype]
    by_cases hgoverned : package.actionType ∈ governedActionTypes <;> simp [hgoverned]

/-- Along every run of a new platform the gated calls are all-or-nothing, and the packages of
governed action types are as many as the commits and direct submits, exactly when the gate never
lets through a call that the store rejects. -/
theorem platformRun_allOrNothing_iff {rt : Runtime} (schemaRegistry : SchemaRegistry)
    (validationChain : Option DeterministicValidationChain)
    (activePolicies : Option ActivePolicies) (env : Env) {ops : List PlatformOp}
    (huuid : Set.InjOn rt.uuid4 (Set.Iio (env.draws + 13 * ops.length))) :
    let start : World Platform := ⟨.new schemaRegistry validationChain activePolicies, env⟩
    (Conforms (platformStep rt) (fun op w => op.Gated → op.AllOrNothing rt w) start ops ↔
      Conforms (platformStep rt) (fun op w => op.ChecksAgree w.self) start ops) ∧
    ((platformRun rt start ops).self.governedPackages.length =
        total (platformStep rt) (fun op w => op.owed rt w) start ops ↔
      Conforms (platformStep rt) (fun op w => op.ChecksAgree w.self) start ops) := by
  intro start
  let bound := env.draws + 13 * ops.length
  let I (w : World Platform) (ops : List PlatformOp) : Prop :=
    Sound rt w ∧ w.env.draws + 13 * ops.length ≤ bound
  have hI (w : World Platform) (op : PlatformOp) (ops : List PlatformOp) (h : I w (op :: ops)) :
      I (platformStep rt op w) ops := by
    obtain ⟨hsound, hdraws⟩ := h
    have hwithin := (op.effect hsound).within.bound
    simp only [List.length_cons] at hdraws
    exact ⟨hsound.step op, by omega⟩
  have hfresh {w : World Platform} {op : PlatformOp} {ops : List PlatformOp}
      (h : I w (op :: ops)) : Set.InjOn rt.uuid4 (Set.Iio (w.env.draws + 13)) := by
    obtain ⟨-, hdraws⟩ := h
    simp only [List.length_cons] at hdraws
    exact huuid.mono (Set.Iio_subset_Iio (by omega))
  have hstart : I start ops := ⟨Sound.new rt _ _ _ env, le_rfl⟩
  constructor
  · exact conforms_congr (platformStep rt) hI
      (fun w op ops h => platformStep_allOrNothing_iff h.1 op (hfresh h)) hstart
  · have hcount := measure_run (platformStep rt) hI
      (m := fun w => w.self.governedPackages.length) (c := fun op w => op.releases w.self)
      (fun w op ops h => platformStep_governedPackages h.1 op (hfresh h)) hstart
    have hzero : start.self.governedPackages.length = 0 := rfl
    simp only [hzero, Nat.zero_add] at hcount
    rw [platformRun, hcount]
    exact total_eq_iff (platformStep rt) hI (fun w op ops h => (op.owed_releases h.1.keyed).1)
      (fun w op ops h => (op.owed_releases h.1.keyed).2) hstart

theorem platformRun_allOrNothing_iff_retire :
    let start : World Platform := ⟨.new Dict.empty none none, .initial "default"⟩
    let ops : List PlatformOp := [.registry (.register (draftPolicy .reference) "ada" "initial"),
      .transitionState (draftPolicy .reference).objectId .retired "ada" "cleanup"]
    (Conforms (platformStep .reference) (fun op w => op.Gated → op.AllOrNothing .reference w)
        start ops ↔
      Conforms (platformStep .reference) (fun op w => op.ChecksAgree w.self) start ops) ∧
    ((platformRun .reference start ops).self.governedPackages.length =
        total (platformStep .reference) (fun op w => op.owed .reference w) start ops ↔
      Conforms (platformStep .reference) (fun op w => op.ChecksAgree w.self) start ops) :=
  platformRun_allOrNothing_iff Dict.empty none none (.initial "default")
    (Runtime.reference_uuid4.mono (Set.Iio_subset_Iio (by decide)))

/-- A draft that the gate lets retire stays a draft, with a package released for its retirement. -/
theorem platformRun_transition_leaks :
    ¬ ∀ (rt : Runtime) (schemaRegistry : SchemaRegistry)
        (validationChain : Option DeterministicValidationChain)
        (activePolicies : Option ActivePolicies) (env : Env) (ops : List PlatformOp),
      Set.InjOn rt.uuid4 (Set.Iio (env.draws + 13 * ops.length)) →
        Conforms (platformStep rt) (fun op w => op.Gated → op.AllOrNothing rt w)
          ⟨.new schemaRegistry validationChain activePolicies, env⟩ ops := by
  intro h
  obtain ⟨policy, hpolicy⟩ : ∃ policy, policy = draftPolicy .reference := ⟨_, rfl⟩
  have huuid (n : ℕ) (hn : n ≤ 16 ^ 12) : Set.InjOn Runtime.reference.uuid4 (Set.Iio n) :=
    Runtime.reference_uuid4.mono (Set.Iio_subset_Iio hn)
  have hstart := Sound.new .reference Dict.empty none none (.initial "default")
  obtain ⟨-, hretire, -⟩ := h .reference Dict.empty none none (.initial "default")
    [.registry (.register policy "ada" "initial"),
      .transitionState policy.objectId .retired "ada" "cleanup"] (huuid _ (by simp [Env.initial]))
  have hdraws := (PlatformOp.effect (.registry (.register policy "ada" "initial"))
    hstart).within.bound
  have hagree := (platformStep_allOrNothing_iff (hstart.step _) _
    (huuid _ ((Nat.add_le_add_right hdraws 13).trans (by decide)))).mp hretire
  rw [platformStep_registry] at hagree
  have hold : (registryStep .reference (.register policy "ada" "initial")
      ⟨ObjectRegistry.new Dict.empty, .initial "default"⟩).self.objects.get? policy.objectId =
        some policy := registryStep_register_get? (Dict.not_mem_empty _)
  have hvalid := hagree _ (Option.map_eq_some_iff.mpr ⟨policy, hold, rfl⟩) ?_ policy hold
  · rw [hpolicy] at hvalid
    exact absurd hvalid (by decide)
  · have hadmissible : (ObjectRegistry.transitionSubmission policy policy.objectId .retired "ada"
        "cleanup").Admissible (PlatformActionReleaseGate.new none none).chain.activePolicies := by
      simp [ObjectRegistry.transitionSubmission, Submission.Admissible,
        PlatformActionReleaseGate.new, DeterministicValidationChain.new, ActivePolicies.none]
    exact hadmissible

end ControlFabric
