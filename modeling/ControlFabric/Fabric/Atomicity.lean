import ControlFabric.Fabric.Reachable

/-! An operation that raises leaves the repository as it was exactly when nothing it changes in
place is followed by the exception. -/
namespace ControlFabric.Fabric
open Lib Py Method

namespace GraphServiceOp
variable (uc : Unicode) (s : GraphService)

/-- Nothing that is changed in place is followed by an exception: a superseded object is in a state
that allows it, and no listener objects to the event of a change. -/
def Settles : GraphServiceOp → Prop
  | enrichObject objectId _ _ => ∀ obj ∈ s.repo.objects.get? objectId, obj.state = .active →
      s.audit.objection = none
  | freezeObject objectId _ => ∀ obj ∈ s.repo.objects.get? objectId,
      obj.state = .active ∨ obj.state = .enriched → s.audit.objection = none
  | supersedeObject objectId update _ => ∀ obj ∈ s.repo.objects.get? objectId,
      update.Buildable uc → .superseded ∈ obj.state.validStateTransitions ∧
        s.audit.objection = none
  | deprecateObject objectId _ => ∀ obj ∈ s.repo.objects.get? objectId,
      .deprecated ∈ obj.state.validStateTransitions → s.audit.objection = none
  | transitionObject objectId newState _ _ => ∀ obj ∈ s.repo.objects.get? objectId,
      newState ∈ obj.state.validStateTransitions → s.audit.objection = none
  | createLink _ create => ∀ source ∈ s.repo.objects.get? create.sourceId,
      ∀ target ∈ s.repo.objects.get? create.targetId,
        s.policy.validateLink create source target = [] → s.audit.objection = none
  | createObject _ _ _ _ | checkConsistency _ _ | registerLinkPolicy _ => True

variable {uc s} {op : GraphServiceOp}

theorem Rejected.settles (h : op.Rejected uc s) : op.Settles uc s := by
  cases op with
  | enrichObject _ _ _ =>
    intro obj hobj hactive
    rw [h obj hobj] at hactive
    cases hactive
  | freezeObject _ _ => exact fun obj hobj hvalid => absurd hvalid (h obj hobj)
  | supersedeObject _ _ _ => exact fun obj hobj hbuild => absurd hbuild (h obj hobj)
  | deprecateObject _ _ => exact fun obj hobj hvalid => absurd hvalid (h obj hobj)
  | transitionObject _ _ _ _ => exact fun obj hobj hvalid => absurd hvalid (h obj hobj)
  | createLink _ _ =>
    exact fun source hsource target htarget hnone => absurd hnone (h source hsource target htarget)
  | createObject _ _ _ _ => trivial
  | checkConsistency _ _ => trivial
  | registerLinkPolicy _ => trivial

theorem Moves.settles_iff {obj : ControlObject} {newState : ControlState}
    (hstored : s.repo.objects.get? obj.id = some obj) (h : op.Moves obj newState) :
    op.Settles uc s ↔ (newState ≠ obj.state → s.audit.objection = none) := by
  cases op with
  | enrichObject objectId _ _ =>
    obtain ⟨rfl, -, rfl⟩ := h
    have hactive : obj.enrichedState ≠ obj.state ↔ obj.state = .active := by
      unfold ControlObject.enrichedState
      by_cases hactive : obj.state = .active
      · rw [if_pos hactive, hactive]
        decide
      · rw [if_neg hactive]
        exact iff_of_false (not_not.mpr rfl) hactive
    rw [hactive]
    exact Dict.forall_get?_of_some hstored
  | freezeObject objectId _ =>
    obtain ⟨rfl, hvalid, rfl⟩ := h
    have hne : ControlState.frozen ≠ obj.state := by
      rintro hfrozen
      rw [← hfrozen] at hvalid
      exact absurd hvalid (by decide)
    rw [forall_prop_of_true hne]
    exact (Dict.forall_get?_of_some hstored).trans (forall_prop_of_true hvalid)
  | deprecateObject objectId _ =>
    obtain ⟨rfl, hvalid, rfl⟩ := h
    rw [forall_prop_of_true (ne_of_mem_validStateTransitions hvalid)]
    exact (Dict.forall_get?_of_some hstored).trans (forall_prop_of_true hvalid)
  | transitionObject objectId _ _ _ =>
    obtain ⟨rfl, hvalid, rfl⟩ := h
    rw [forall_prop_of_true (ne_of_mem_validStateTransitions hvalid)]
    exact (Dict.forall_get?_of_some hstored).trans (forall_prop_of_true hvalid)
  | _ => exact h.elim

end GraphServiceOp

section Effects
variable {ids fresh : Set String} {uc : Unicode} {s s' : GraphService} {op : GraphServiceOp}
  {raised : Bool}

theorem storeObject_repo_ne {obj obj' : ControlObject}
    (hstored : s.repo.objects.get? obj.id = some obj) (hid : obj'.id = obj.id) (hne : obj' ≠ obj) :
    (GraphService.storeObject obj' s).repo ≠ s.repo := by
  intro h
  have hget : (GraphService.storeObject obj' s).repo.objects.get? obj.id = some obj' := by
    rw [GraphService.storeObject_objects, hid]
    exact Dict.get?_set_self _ _ _
  rw [h, hstored] at hget
  exact hne (Option.some.inj hget).symm

theorem storeLink_repo_ne {link : ControlLink} (hnew : link.id ∉ s.repo.links) :
    (GraphService.storeLink link s).repo ≠ s.repo := by
  intro h
  have hmem : link.id ∈ (GraphService.storeLink link s).repo.links := Dict.mem_set.mpr (Or.inl rfl)
  rw [h] at hmem
  exact hnew hmem

/-- An object that refers to a new identifier has not referred to it before. -/
theorem Known.referring_ne (h : Known ids s) (hdisjoint : Disjoint ids fresh)
    {obj obj' : ControlObject} {state : ControlState} {payload : JsonDict} {successor : String}
    (hstored : s.repo.objects.get? obj.id = some obj) (hid : successor ∈ fresh)
    (hbecomes : obj.Becomes obj' state payload (some successor)) : obj' ≠ obj := by
  rintro rfl
  exact Set.disjoint_left.mp hdisjoint (h.successor _ _ hstored _ hbecomes.supersededBy) hid

/-- A call that raises leaves the repository as it was exactly when it settles. -/
theorem Effect.atomic_iff (heffect : Effect fresh uc s op raised s') (h : Known ids s)
    (hdisjoint : Disjoint ids fresh) : (raised = true → s'.repo = s.repo) ↔ op.Settles uc s := by
  cases heffect with
  | rejected hrejected => exact iff_of_true (fun _ => rfl) hrejected.settles
  | checked _ _ => exact iff_of_true (fun _ => rfl) trivial
  | registered => exact iff_of_true (fun _ => rfl) trivial
  | created _ _ => exact iff_of_true nofun trivial
  | unborn _ _ => exact iff_of_true (fun _ => rfl) trivial
  | changed hstored hmoves hbecomes hstate _ =>
    have hne := storeObject_repo_ne hstored hbecomes.id fun heq =>
      hstate (congrArg ControlObject.state heq)
    rw [hmoves.settles_iff hstored, forall_prop_of_true hstate, GraphService.logged_repo]
    cases hobjection : s.audit.objection with
    | none => exact iff_of_true nofun rfl
    | some message => exact iff_of_false (fun h => hne (h rfl)) (Option.some_ne_none message)
  | changedSilently hstored hmoves hbecomes =>
    rw [hmoves.settles_iff hstored]
    exact iff_of_true nofun fun hne => absurd hbecomes.state hne
  | referred hbuild hstored hinvalid hid hbecomes =>
    have hne := storeObject_repo_ne hstored hbecomes.id
      (h.referring_ne hdisjoint hstored hid hbecomes)
    exact iff_of_false (fun h => hne (h rfl)) fun hsettles =>
      hinvalid (hsettles _ hstored hbuild).1
  | interrupted hbuild hstored hvalid hobjection hid hbecomes _ =>
    have hne := storeObject_repo_ne hstored hbecomes.id
      (h.referring_ne hdisjoint hstored hid hbecomes)
    exact iff_of_false (fun h => hne (h rfl)) fun hsettles =>
      hobjection (hsettles _ hstored hbuild).2
  | superseded _ hstored hvalid hobjection _ _ =>
    exact iff_of_true nofun ((Dict.forall_get?_of_some hstored).mpr fun _ => ⟨hvalid, hobjection⟩)
  | linked hsource htarget haccepted hlinked =>
    have hne := storeLink_repo_ne fun hmem => h.link_ne_fresh hdisjoint hmem hlinked.id rfl
    cases hobjection : s.audit.objection with
    | none => exact iff_of_true nofun fun _ _ _ _ _ => hobjection
    | some message =>
      refine iff_of_false (fun h => hne (h rfl)) fun hsettles => ?_
      rw [hsettles _ hsource _ htarget haccepted] at hobjection
      cases hobjection

end Effects

/-- What a call that raises leaves: the objects and the links as they were. -/
def AtomicOnError (rt : Runtime) (uc : Unicode) (op : GraphServiceOp) (w : World GraphService) :
    Prop :=
  (op.call rt uc).returns w = false → (serviceStep rt uc op w).self.repo = w.self.repo

theorem Undrawn.atomicOnError_iff {rt : Runtime} {uc : Unicode} {op : GraphServiceOp}
    {ops : List GraphServiceOp} {w : World GraphService} (hw : Undrawn rt w (op :: ops)) :
    AtomicOnError rt uc op w ↔ op.Settles uc w.self := by
  obtain ⟨k, -, raised, s, hreturns, hstep, hdisjoint, heffect⟩ := hw.effect uc
  unfold AtomicOnError
  rw [hreturns, hstep, ← heffect.atomic_iff hw.known hdisjoint, Bool.not_eq_false']

/-- In every state that a new service reaches, a call is atomic on error exactly when it settles. -/
theorem serviceRun_atomic_iff {rt : Runtime} (uc : Unicode) (policy : GraphPolicyEngine)
    (checker : GraphConsistencyChecker) (listeners : List FabricAuditListener) (env : Env)
    (ops : List GraphServiceOp) (op : GraphServiceOp)
    (huuid : Set.InjOn rt.uuid4 (Set.Iio (env.draws + 7 * (ops.length + 1)))) :
    AtomicOnError rt uc op (serviceRun rt uc ⟨.new policy checker listeners, env⟩ ops) ↔
      op.Settles uc (serviceRun rt uc ⟨.new policy checker listeners, env⟩ ops).self := by
  have hnew : Undrawn rt ⟨.new policy checker listeners, env⟩ (ops ++ [op]) := by
    apply undrawn_new
    rw [List.length_append]
    exact huuid
  exact (hnew.run uc).atomicOnError_iff

theorem serviceRun_atomic_iff_superseded :
    let start : World GraphService := ⟨.new ⟨none⟩ (fun _ _ => ⟨true, 0, 0⟩) [], .initial "t"⟩
    let again := GraphServiceOp.supersedeObject "00000000-0000-4000-8000-000000000000"
      (.workOrder .field) "ada"
    AtomicOnError .reference .ascii again (serviceRun .reference .ascii start supersededOrder) ↔
      again.Settles .ascii (serviceRun .reference .ascii start supersededOrder).self :=
  serviceRun_atomic_iff .ascii ⟨none⟩ (fun _ _ => ⟨true, 0, 0⟩) [] (.initial "t") supersededOrder _
    (Runtime.reference_uuid4.mono (Set.Iio_subset_Iio (by decide)))

/-- A draft that may not be superseded refers to a new version after the attempt. -/
theorem serviceRun_supersede_leaks :
    ¬ ∀ (rt : Runtime) (uc : Unicode) (policy : GraphPolicyEngine)
        (checker : GraphConsistencyChecker) (listeners : List FabricAuditListener) (env : Env)
        (ops : List GraphServiceOp) (op : GraphServiceOp),
      Set.InjOn rt.uuid4 (Set.Iio (env.draws + 7 * (ops.length + 1))) →
        AtomicOnError rt uc op (serviceRun rt uc ⟨.new policy checker listeners, env⟩ ops) := by
  intro h
  have hcreate := ControlObjectCreate.workOrder_buildable .field
  have huuid : Set.InjOn Runtime.reference.uuid4 (Set.Iio (0 + 7 * (1 + 1))) :=
    Runtime.reference_uuid4.mono (Set.Iio_subset_Iio (by decide))
  obtain ⟨obj, events, -, -, -, -, -, hdraft, -, hstep⟩ :=
    serviceStep_createObject .reference (w := ⟨.new ⟨none⟩ (fun _ _ => ⟨true, 0, 0⟩) [],
      .initial "t"⟩) hcreate rfl "t" "ada" false
  have hatomic := h .reference .ascii ⟨none⟩ (fun _ _ => ⟨true, 0, 0⟩) [] (.initial "t")
    [.createObject "t" (.workOrder .field) "ada" false]
    (.supersedeObject obj.id (.workOrder .field) "ada") huuid
  have hnew : Undrawn .reference ⟨.new ⟨none⟩ (fun _ _ => ⟨true, 0, 0⟩) [], .initial "t"⟩
      [.createObject "t" (.workOrder .field) "ada" false,
        .supersedeObject obj.id (.workOrder .field) "ada"] := undrawn_new _ _ _ huuid
  have hsettles := (hnew.step .ascii).atomicOnError_iff.mp hatomic
  rw [hstep] at hsettles
  have hvalid := (hsettles obj (Dict.get?_set_self _ _ _) hcreate).1
  rw [hdraft] at hvalid
  exact absurd hvalid (by decide)

end ControlFabric.Fabric
