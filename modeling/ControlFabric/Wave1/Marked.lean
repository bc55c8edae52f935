import ControlFabric.Wave1.Engine
import ControlFabric.Fabric.SliceLinks

/-! Which objects a reconciliation marks as reconciled: all frozen source objects, whether or not
they were compared. -/
namespace ControlFabric.Fabric.Wave1
open Lib Py Method

/-! ### What is compared -/

section Compared
variable (repo : InMemoryGraphRepository) (rules : List ReconciliationRule) (tenantId : String)
  (sourcePlane targetPlane : PlaneType) (domain : String)

/-- The object is one of the tenant in the plane and the domain; the empty domain stands for all. -/
def Selected (plane : PlaneType) (obj : ControlObject) : Prop :=
  repo.objects.get? obj.id = some obj ∧ obj.tenantId = tenantId ∧ obj.plane = plane ∧
    (domain = "" ∨ obj.domain = domain)

/-- A cross-plane link of the tenant joins the two objects. -/
def Linked (src tgt : ControlObject) : Prop :=
  ∃ link ∈ repo.getAllLinks tenantId, link.isCrossPlane ∧
    (link.sourceId = src.id ∧ link.targetId = tgt.id ∨
      link.targetId = src.id ∧ link.sourceId = tgt.id)

/-- The two objects have a correlation key in common. -/
def Correlated (src tgt : ControlObject) : Prop :=
  ∃ key ∈ src.correlationKeys,
    (tgt.correlationKeys.find? fun p => p.1 = key.1).map Prod.snd = some key.2

/-- The engine compares the two objects: they are linked or, where no two are, correlated. -/
def Compared (src tgt : ControlObject) : Prop :=
  (Selected repo tenantId domain sourcePlane src ∧ Selected repo tenantId domain targetPlane tgt) ∧
    (Linked repo tenantId src tgt ∨ Correlated src tgt ∧
      ∀ src' tgt', Selected repo tenantId domain sourcePlane src' →
        Selected repo tenantId domain targetPlane tgt' → ¬ Linked repo tenantId src' tgt')

def Mismatched (src tgt : ControlObject) : Prop :=
  ∃ rule ∈ rules, ∃ found, rule.evaluate src tgt = .ok found ∧ found ≠ []

/-- The object belongs to a compared pair, and to none with a mismatch. -/
def Agreeing (obj : ControlObject) : Prop :=
  (∃ src tgt, Compared repo tenantId sourcePlane targetPlane domain src tgt ∧
    (src = obj ∨ tgt = obj)) ∧
  ∀ src tgt, Compared repo tenantId sourcePlane targetPlane domain src tgt →
    (src = obj ∨ tgt = obj) → ¬ Mismatched rules src tgt

/-- A value that can be added to a `float`. -/
def Numeric : Json → Prop
  | .bool _ | .int _ | .float _ => True
  | _ => False

/-- The rules return on all pairs that are compared, and what they find can be added up. -/
def Completes : Prop :=
  ∀ src tgt, Compared repo tenantId sourcePlane targetPlane domain src tgt →
    ∀ rule ∈ rules, ∃ found, rule.evaluate src tgt = .ok found ∧
      ∀ m ∈ found, Numeric m.financialImpact

/-- Between the two states a frozen object at most became reconciled, if it agrees with what it was
compared with, and nothing else changed. -/
structure MarksAgreeing (after : InMemoryGraphRepository) : Prop where
  links : after.links = repo.links
  objects : ∀ id, after.objects.get? id = repo.objects.get? id ∨
    ∃ obj obj', repo.objects.get? id = some obj ∧ after.objects.get? id = some obj' ∧
      obj.state = .frozen ∧ obj.Becomes obj' .reconciled obj.payload obj.supersededBy ∧
      Agreeing repo rules tenantId sourcePlane targetPlane domain obj

end Compared

variable {repo : InMemoryGraphRepository} {rules : List ReconciliationRule} {tenantId : String}
  {sourcePlane targetPlane : PlaneType} {domain : String}

theorem mem_listObjects (hfiled : repo.Filed) {plane : PlaneType} {obj : ControlObject} :
    obj ∈ repo.listObjects tenantId (some plane) (some domain) none none ↔
      Selected repo tenantId domain plane obj := by
  simp only [InMemoryGraphRepository.listObjects, List.mem_filter, decide_eq_true_eq,
    Option.mem_some_iff, forall_eq', Option.not_mem_none, IsEmpty.forall_iff, implies_true, and_true,
    Selected]
  refine and_congr_left fun _ => ?_
  rw [Dict.mem_values]
  constructor
  · rintro ⟨id, hget⟩
    rw [hfiled.object id obj hget]
    exact hget
  · intro hget
    exact ⟨obj.id, hget⟩

/-- The source objects of a reconciliation have different identifiers. -/
theorem nodup_listObjects_ids (hfiled : repo.Filed) (plane : PlaneType) :
    ((repo.listObjects tenantId (some plane) (some domain) none none).map
      ControlObject.id).Nodup := by
  have hids : repo.objects.values.map ControlObject.id = repo.objects.keys := by
    rw [Dict.values, Dict.keys, List.map_map]
    exact List.map_congr_left fun e he => hfiled.object e.1 e.2 (Dict.get?_eq_some.mpr he)
  have hnodup : (repo.objects.values.map ControlObject.id).Nodup := hids ▸ repo.objects.nodup
  exact hnodup.sublist (List.filter_sublist.map ControlObject.id)

/-- Objects with different identifiers are told apart by these. -/
theorem keyed_of_nodup {objects : List ControlObject}
    (h : (objects.map ControlObject.id).Nodup) :
    ∀ obj ∈ objects, ∀ obj' ∈ objects, obj.id = obj'.id → obj = obj' :=
  fun _ hobj _ hobj' hid => List.inj_on_of_nodup_map h hobj hobj' hid

theorem objectMap_get? {objects : List ControlObject}
    (hkeyed : ∀ obj ∈ objects, ∀ obj' ∈ objects, obj.id = obj'.id → obj = obj') {id : String}
    {obj : ControlObject} : (objectMap objects).get? id = some obj ↔ obj ∈ objects ∧ obj.id = id := by
  constructor
  · intro h
    exact (Dict.get?_foldl_set h).resolve_right (by simp)
  · rintro ⟨hobj, rfl⟩
    have hmem : obj.id ∈ objectMap objects :=
      Dict.mem_foldl_set.mpr (Or.inr (List.mem_map_of_mem hobj))
    obtain ⟨found, hfound⟩ := Dict.mem_iff_get?.mp hmem
    obtain ⟨hin, hid⟩ := (Dict.get?_foldl_set hfound).resolve_right (by simp)
    rw [hfound, hkeyed found hin obj hobj hid]

section Pairs
variable {sourceObjects targetObjects : List ControlObject} {src tgt : ControlObject}
  (hsources : ∀ obj ∈ sourceObjects, ∀ obj' ∈ sourceObjects, obj.id = obj'.id → obj = obj')
  (htargets : ∀ obj ∈ targetObjects, ∀ obj' ∈ targetObjects, obj.id = obj'.id → obj = obj')

include hsources htargets in
theorem mem_pairOf {sourceId targetId : String} :
    (src, tgt) ∈ pairOf sourceObjects targetObjects sourceId targetId ↔
      (src ∈ sourceObjects ∧ src.id = sourceId) ∧ tgt ∈ targetObjects ∧ tgt.id = targetId := by
  rw [← objectMap_get? hsources, ← objectMap_get? htargets]
  unfold pairOf
  cases (objectMap sourceObjects).get? sourceId with
  | none => simp
  | some found =>
    cases (objectMap targetObjects).get? targetId with
    | none => simp
    | some found' => simp [Prod.ext_iff, eq_comm]

include hsources htargets in
theorem mem_linkPairs {link : ControlLink} :
    (src, tgt) ∈ linkPairs sourceObjects targetObjects link ↔
      (src ∈ sourceObjects ∧ tgt ∈ targetObjects) ∧ link.isCrossPlane ∧
        (link.sourceId = src.id ∧ link.targetId = tgt.id ∨
          link.targetId = src.id ∧ link.sourceId = tgt.id) := by
  unfold linkPairs
  by_cases hcross : link.isCrossPlane
  · rw [if_neg (not_not.mpr hcross), List.mem_append, mem_pairOf hsources htargets,
      mem_pairOf hsources htargets]
    simp only [hcross, true_and, eq_comm (a := src.id), eq_comm (a := tgt.id)]
    tauto
  · simp [hcross]

theorem mem_correlationPairs : (src, tgt) ∈ correlationPairs sourceObjects targetObjects ↔
    (src ∈ sourceObjects ∧ tgt ∈ targetObjects) ∧ Correlated src tgt := by
  simp only [correlationPairs, List.mem_flatMap, List.mem_map, List.mem_filter, decide_eq_true_eq,
    Prod.mk.injEq, Correlated]
  constructor
  · rintro ⟨_, hsrc, key, hkey, _, ⟨htgt, hcommon⟩, rfl, rfl⟩
    exact ⟨⟨hsrc, htgt⟩, key, hkey, hcommon⟩
  · rintro ⟨⟨hsrc, htgt⟩, key, hkey, hcommon⟩
    exact ⟨src, hsrc, key, hkey, tgt, ⟨htgt, hcommon⟩, rfl, rfl⟩

end Pairs

/-- The pairs of a reconciliation. -/
theorem mem_findCrossPlanePairs (hfiled : repo.Filed) {src tgt : ControlObject} :
    (src, tgt) ∈ findCrossPlanePairs
        (repo.listObjects tenantId (some sourcePlane) (some domain) none none)
        (repo.listObjects tenantId (some targetPlane) (some domain) none none)
        (repo.getAllLinks tenantId) ↔
      Compared repo tenantId sourcePlane targetPlane domain src tgt := by
  have hkeyed (plane : PlaneType) :
      ∀ obj ∈ repo.listObjects tenantId (some plane) (some domain) none none,
        ∀ obj' ∈ repo.listObjects tenantId (some plane) (some domain) none none,
          obj.id = obj'.id → obj = obj' := keyed_of_nodup (nodup_listObjects_ids hfiled plane)
  have hlinked (src tgt : ControlObject) :
      (src, tgt) ∈ (repo.getAllLinks tenantId).flatMap (linkPairs
          (repo.listObjects tenantId (some sourcePlane) (some domain) none none)
          (repo.listObjects tenantId (some targetPlane) (some domain) none none)) ↔
        (Selected repo tenantId domain sourcePlane src ∧
          Selected repo tenantId domain targetPlane tgt) ∧ Linked repo tenantId src tgt := by
    simp only [List.mem_flatMap, mem_linkPairs (hkeyed sourcePlane) (hkeyed targetPlane),
      mem_listObjects hfiled, Linked]
    constructor
    · rintro ⟨link, hlink, hselected, hrest⟩
      exact ⟨hselected, link, hlink, hrest⟩
    · rintro ⟨hselected, link, hlink, hrest⟩
      exact ⟨link, hlink, hselected, hrest⟩
  unfold findCrossPlanePairs Compared
  dsimp only
  split
  next hnone =>
    have hunlinked (src' tgt' : ControlObject)
        (hsrc : Selected repo tenantId domain sourcePlane src')
        (htgt : Selected repo tenantId domain targetPlane tgt') :
        ¬ Linked repo tenantId src' tgt' := by
      intro hlink
      have hmem := (hlinked src' tgt').mpr ⟨⟨hsrc, htgt⟩, hlink⟩
      rw [hnone] at hmem
      cases hmem
    rw [mem_correlationPairs, mem_listObjects hfiled, mem_listObjects hfiled]
    refine and_congr_right fun hselected => ?_
    constructor
    · exact fun hcorrelated => Or.inr ⟨hcorrelated, hunlinked⟩
    · rintro (hlink | ⟨hcorrelated, -⟩)
      · exact absurd hlink (hunlinked src tgt hselected.1 hselected.2)
      · exact hcorrelated
  next hsome =>
    rw [hlinked]
    refine and_congr_right fun _ => ?_
    constructor
    · exact Or.inl
    · rintro (hlink | ⟨-, hnone⟩)
      · exact hlink
      · obtain ⟨⟨src', tgt'⟩, hmem⟩ := List.exists_mem_of_ne_nil _ hsome
        obtain ⟨hselected, hlink⟩ := (hlinked src' tgt').mp hmem
        exact absurd hlink (hnone src' tgt' hselected.1 hselected.2)

/-! ### When the comparison completes -/

namespace ReconciliationEngine

theorem reconcilePair_ok {src tgt : ControlObject} :
    (∃ found, reconcilePair rules src tgt = .ok found) ↔
      ∀ rule ∈ rules, ∃ found, rule.evaluate src tgt = .ok found := by
  induction rules with
  | nil => simp [reconcilePair]
  | cons rule rules ih =>
    rw [List.forall_mem_cons, ← ih, reconcilePair]
    cases rule.evaluate src tgt with
    | error e => simp [bind, Except.bind]
    | ok found =>
      cases reconcilePair rules src tgt with
      | error e => simp [bind, Except.bind]
      | ok others => simp [bind, Except.bind, pure, Except.pure]

theorem mem_reconcilePair {src tgt : ControlObject} {found : List Mismatch}
    (h : reconcilePair rules src tgt = .ok found) {m : Mismatch} :
    m ∈ found ↔ ∃ rule ∈ rules, ∃ ms, rule.evaluate src tgt = .ok ms ∧ m ∈ ms := by
  induction rules generalizing found with
  | nil =>
    obtain rfl : [] = found := by simpa [reconcilePair] using h
    simp
  | cons rule rules ih =>
    rw [reconcilePair] at h
    cases hrule : rule.evaluate src tgt with
    | error e =>
      rw [hrule] at h
      cases h
    | ok ms =>
      cases hrules : reconcilePair rules src tgt with
      | error e =>
        rw [hrule, hrules] at h
        cases h
      | ok others =>
        rw [hrule, hrules] at h
        obtain rfl : ms ++ others = found := Except.ok.inj h
        simp [hrule, ih hrules]

theorem reconcilePairs_ok {pairs : List (ControlObject × ControlObject)} :
    (∃ found, reconcilePairs rules pairs = .ok found) ↔
      ∀ pair ∈ pairs, ∃ found, reconcilePair rules pair.1 pair.2 = .ok found := by
  induction pairs with
  | nil => simp [reconcilePairs]
  | cons pair pairs ih =>
    rw [List.forall_mem_cons, ← ih, reconcilePairs]
    cases reconcilePair rules pair.1 pair.2 with
    | error e => simp [bind, Except.bind]
    | ok found =>
      cases reconcilePairs rules pairs with
      | error e => simp [bind, Except.bind]
      | ok others => simp [bind, Except.bind, pure, Except.pure]

theorem mem_reconcilePairs {pairs : List (ControlObject × ControlObject)} {found : List Mismatch}
    (h : reconcilePairs rules pairs = .ok found) {m : Mismatch} :
    m ∈ found ↔ ∃ pair ∈ pairs, ∃ ms, reconcilePair rules pair.1 pair.2 = .ok ms ∧ m ∈ ms := by
  induction pairs generalizing found with
  | nil =>
    obtain rfl : [] = found := by simpa [reconcilePairs] using h
    simp
  | cons pair pairs ih =>
    rw [reconcilePairs] at h
    cases hpair : reconcilePair rules pair.1 pair.2 with
    | error e =>
      rw [hpair] at h
      cases h
    | ok ms =>
      cases hpairs : reconcilePairs rules pairs with
      | error e =>
        rw [hpair, hpairs] at h
        cases h
      | ok others =>
        rw [hpair, hpairs] at h
        obtain rfl : ms ++ others = found := Except.ok.inj h
        simp [hpair, ih hpairs]

end ReconciliationEngine

theorem financialTotal_ok {mismatches : List Mismatch} (total : ℚ) :
    (∃ sum, financialTotal total mismatches = .ok sum) ↔
      ∀ m ∈ mismatches, Numeric m.financialImpact := by
  induction mismatches generalizing total with
  | nil => simp [financialTotal]
  | cons m mismatches ih =>
    rw [List.forall_mem_cons, financialTotal]
    cases m.financialImpact <;> simp [Numeric, ih]

theorem scoreMismatches_ok {mismatches : List Mismatch} :
    (∃ score, scoreMismatches mismatches = .ok score) ↔
      ∀ m ∈ mismatches, Numeric m.financialImpact := by
  rw [← financialTotal_ok 0]
  unfold scoreMismatches
  split
  next hnone =>
    rw [hnone]
    exact iff_of_true ⟨_, rfl⟩ ⟨_, rfl⟩
  next =>
    cases financialTotal 0 mismatches with
    | error e => simp [bind, Except.bind]
    | ok sum => simp [bind, Except.bind, pure, Except.pure]

/-- The comparison completes when the rules return and the score can be built. -/
theorem completes_iff (hfiled : repo.Filed) :
    Completes repo rules tenantId sourcePlane targetPlane domain ↔
      ∃ mismatches score, ReconciliationEngine.reconcilePairs rules (findCrossPlanePairs
          (repo.listObjects tenantId (some sourcePlane) (some domain) none none)
          (repo.listObjects tenantId (some targetPlane) (some domain) none none)
          (repo.getAllLinks tenantId)) = .ok mismatches ∧
        scoreMismatches mismatches = .ok score := by
  constructor
  · intro h
    obtain ⟨mismatches, hpairs⟩ := ReconciliationEngine.reconcilePairs_ok.mpr fun pair hpair =>
      ReconciliationEngine.reconcilePair_ok.mpr fun rule hrule => by
        obtain ⟨found, hfound, -⟩ :=
          h pair.1 pair.2 ((mem_findCrossPlanePairs hfiled).mp hpair) rule hrule
        exact ⟨found, hfound⟩
    obtain ⟨score, hscore⟩ := scoreMismatches_ok.mpr fun m hm => by
      obtain ⟨pair, hpair, ms, hms, hm⟩ :=
        (ReconciliationEngine.mem_reconcilePairs hpairs).mp hm
      obtain ⟨rule, hrule, found, hfound, hm⟩ :=
        (ReconciliationEngine.mem_reconcilePair hms).mp hm
      obtain ⟨found', hfound', hnumeric⟩ :=
        h pair.1 pair.2 ((mem_findCrossPlanePairs hfiled).mp hpair) rule hrule
      obtain rfl := Except.ok.inj (hfound.symm.trans hfound')
      exact hnumeric m hm
    exact ⟨mismatches, score, hpairs, hscore⟩
  · rintro ⟨mismatches, score, hpairs, hscore⟩ src tgt hcompared rule hrule
    have hpair := (mem_findCrossPlanePairs hfiled).mpr hcompared
    obtain ⟨ms, hms⟩ := ReconciliationEngine.reconcilePairs_ok.mp ⟨mismatches, hpairs⟩ _ hpair
    obtain ⟨found, hfound⟩ := ReconciliationEngine.reconcilePair_ok.mp ⟨ms, hms⟩ rule hrule
    refine ⟨found, hfound, fun m hm => scoreMismatches_ok.mp ⟨score, hscore⟩ m ?_⟩
    exact (ReconciliationEngine.mem_reconcilePairs hpairs).mpr ⟨_, hpair, ms, hms,
      (ReconciliationEngine.mem_reconcilePair hms).mpr ⟨rule, hrule, found, hfound, hm⟩⟩

/-! ### What is marked -/

/-- The object behind the mark of a reconciliation. -/
theorem run_markReconciled (rt : Runtime) (audit : AuditContext) (env : Env) {obj : ControlObject}
    (h : obj.state = .frozen) : ∃ obj', obj.Becomes obj' .reconciled obj.payload obj.supersededBy ∧
      (markReconciled rt audit).run ⟨obj, env⟩ = .ok () ⟨obj', env.tick 1⟩ := by
  have hvalid : ControlState.reconciled ∈ obj.state.validStateTransitions := by
    rw [h]
    decide
  exact ⟨_, obj.becomes_moved _ _ _, ControlObject.run_transitionState_ok rt audit hvalid⟩

/-- A frozen object is stored as reconciled before the rest of the list. -/
theorem run_markFrozen_cons (rt : Runtime) (audit : AuditContext) {src : ControlObject}
    (hfrozen : src.state = .frozen) (rest : List ControlObject) (graph : GraphService) (env : Env) :
    ∃ obj', src.Becomes obj' .reconciled src.payload src.supersededBy ∧
      (ReconciliationEngine.markFrozen rt audit (src :: rest)).run ⟨graph, env⟩ =
        (ReconciliationEngine.markFrozen rt audit rest).run
          ⟨GraphService.storeObject obj' graph, env.tick 1⟩ := by
  obtain ⟨obj', hbecomes, hmark⟩ := run_markReconciled rt audit env hfrozen
  have hcall := run_callStored_ok (w := ⟨graph, env⟩) hmark
  have hagain : GraphService.storeObject obj' (GraphService.storeObject obj' graph) =
      GraphService.storeObject obj' graph := GraphService.storeObject_storeObject rfl graph
  refine ⟨obj', hbecomes, ?_⟩
  rw [ReconciliationEngine.markFrozen, if_pos hfrozen, EStateM.run_bind, hcall]
  dsimp only
  rw [EStateM.run_bind, run_assign]
  dsimp only
  rw [hagain]

/-- The frozen objects of the list become reconciled, and nothing else changes. -/
theorem run_markFrozen (rt : Runtime) (audit : AuditContext) {sourceObjects : List ControlObject}
    (hnodup : (sourceObjects.map ControlObject.id).Nodup) (graph : GraphService) (env : Env)
    (hstored : ∀ src ∈ sourceObjects, graph.repo.objects.get? src.id = some src) :
    ∃ graph' env', (ReconciliationEngine.markFrozen rt audit sourceObjects).run ⟨graph, env⟩ =
        .ok () ⟨graph', env'⟩ ∧
      graph'.repo.links = graph.repo.links ∧
      (∀ src ∈ sourceObjects, src.state = .frozen → ∃ obj',
        graph'.repo.objects.get? src.id = some obj' ∧
          src.Becomes obj' .reconciled src.payload src.supersededBy) ∧
      ∀ id, (∀ src ∈ sourceObjects, src.id = id → src.state ≠ .frozen) →
        graph'.repo.objects.get? id = graph.repo.objects.get? id := by
  induction sourceObjects generalizing graph env with
  | nil =>
    exact ⟨graph, env, rfl, rfl, fun src hsrc => absurd hsrc List.not_mem_nil, fun _ _ => rfl⟩
  | cons src sourceObjects ih =>
    rw [List.map_cons, List.nodup_cons] at hnodup
    have hothers : ∀ other ∈ sourceObjects, other.id ≠ src.id := by
      intro other hother heq
      exact hnodup.1 (heq ▸ List.mem_map_of_mem hother)
    by_cases hfrozen : src.state = .frozen
    · obtain ⟨obj', hbecomes, hstep⟩ := run_markFrozen_cons rt audit hfrozen sourceObjects graph env
      obtain ⟨graph', env', hrun, hlinks, hmarked, hkept⟩ :=
        ih hnodup.2 (GraphService.storeObject obj' graph) (env.tick 1) fun other hother => by
          rw [GraphService.storeObject_objects, hbecomes.id,
            Dict.get?_set_of_ne (hothers other hother)]
          exact hstored other (List.mem_cons_of_mem _ hother)
      have hsrc : graph'.repo.objects.get? src.id = some obj' := by
        rw [hkept src.id fun other hother heq => absurd heq (hothers other hother),
          GraphService.storeObject_objects, ← hbecomes.id]
        exact Dict.get?_set_self _ _ _
      refine ⟨graph', env', hstep.trans hrun, hlinks, ?_, ?_⟩
      · rw [List.forall_mem_cons]
        exact ⟨fun _ => ⟨obj', hsrc, hbecomes⟩, hmarked⟩
      · intro id hid
        rw [List.forall_mem_cons] at hid
        have hne : id ≠ src.id := fun heq => hid.1 heq.symm hfrozen
        rw [hkept id hid.2, GraphService.storeObject_objects, hbecomes.id,
          Dict.get?_set_of_ne hne]
    · obtain ⟨graph', env', hrun, hlinks, hmarked, hkept⟩ := ih hnodup.2 graph env fun other hother =>
        hstored other (List.mem_cons_of_mem _ hother)
      refine ⟨graph', env', ?_, hlinks, ?_, ?_⟩
      · rw [ReconciliationEngine.markFrozen, if_neg hfrozen]
        exact hrun
      · rw [List.forall_mem_cons]
        exact ⟨fun h => absurd h hfrozen, hmarked⟩
      · intro id hid
        exact hkept id (List.forall_mem_cons.mp hid).2

section Reconcile
variable (rt : Runtime) {engine : ReconciliationEngine} (env : Env)

/-- The repository that a reconciliation leaves behind. -/
def reconciled (engine : ReconciliationEngine) (env : Env) (tenantId : String)
    (sourcePlane targetPlane : PlaneType) (domain : String) : InMemoryGraphRepository :=
  ((ReconciliationEngine.reconcileCrossPlane rt tenantId sourcePlane targetPlane domain).after
    ⟨engine, env⟩).self.graph.repo

/-- A reconciliation that does not complete changes nothing. -/
theorem reconciled_of_not_completes (hfiled : engine.graph.repo.Filed)
    (h : ¬ Completes engine.graph.repo engine.rules tenantId sourcePlane targetPlane domain) :
    reconciled rt engine env tenantId sourcePlane targetPlane domain = engine.graph.repo := by
  rw [completes_iff hfiled] at h
  unfold reconciled ReconciliationEngine.reconcileCrossPlane
  rw [after_bind_ok (run_self _)]
  dsimp only
  rw [after_bind]
  cases hpairs : ReconciliationEngine.reconcilePairs engine.rules (findCrossPlanePairs
      (engine.graph.repo.listObjects tenantId (some sourcePlane) (some domain) none none)
      (engine.graph.repo.listObjects tenantId (some targetPlane) (some domain) none none)
      (engine.graph.repo.getAllLinks tenantId)) with
  | error e => rfl
  | ok mismatches =>
    rw [run_lift_ok]
    dsimp only
    rw [after_bind]
    cases hscore : scoreMismatches mismatches with
    | error e => rfl
    | ok score => exact absurd ⟨mismatches, score, hpairs, hscore⟩ h

/-- A reconciliation that completes leaves each frozen source object reconciled, and everything else
as it was. -/
theorem reconciled_of_completes (hfiled : engine.graph.repo.Filed)
    (h : Completes engine.graph.repo engine.rules tenantId sourcePlane targetPlane domain) :
    let after := reconciled rt engine env tenantId sourcePlane targetPlane domain
    after.links = engine.graph.repo.links ∧
      (∀ src, Selected engine.graph.repo tenantId domain sourcePlane src → src.state = .frozen →
        ∃ obj', after.objects.get? src.id = some obj' ∧
          src.Becomes obj' .reconciled src.payload src.supersededBy) ∧
      ∀ id, (∀ src, Selected engine.graph.repo tenantId domain sourcePlane src → src.id = id →
        src.state ≠ .frozen) → after.objects.get? id = engine.graph.repo.objects.get? id := by
  obtain ⟨mismatches, score, hpairs, hscore⟩ := (completes_iff hfiled).mp h
  obtain ⟨graph', env', hrun, hlinks, hmarked, hkept⟩ := run_markFrozen rt
    { actor := "reconciliation_engine", action := "reconciled", timestamp := rt.now env.draws }
    (nodup_listObjects_ids hfiled sourcePlane) engine.graph (env.tick 1) fun src hsrc =>
      ((mem_listObjects hfiled).mp hsrc).1
  have hafter : reconciled rt engine env tenantId sourcePlane targetPlane domain = graph'.repo := by
    unfold reconciled ReconciliationEngine.reconcileCrossPlane
    rw [after_bind_ok (run_self _)]
    dsimp only
    rw [hpairs, after_bind_ok (run_lift_ok _ _), hscore, after_bind_ok (run_lift_ok _ _),
      after_bind_ok (run_draw_tick _), after_bind, run_on]
    dsimp only
    rw [hrun]
    rfl
  dsimp only
  rw [hafter]
  refine ⟨hlinks, fun src hsrc => hmarked src ((mem_listObjects hfiled).mpr hsrc), fun id hid => ?_⟩
  exact hkept id fun src hsrc => hid src ((mem_listObjects hfiled).mp hsrc)

theorem marksAgreeing_iff (hfiled : engine.graph.repo.Filed) :
    MarksAgreeing engine.graph.repo engine.rules tenantId sourcePlane targetPlane domain
        (reconciled rt engine env tenantId sourcePlane targetPlane domain) ↔
      (Completes engine.graph.repo engine.rules tenantId sourcePlane targetPlane domain →
        ∀ src, Selected engine.graph.repo tenantId domain sourcePlane src → src.state = .frozen →
          Agreeing engine.graph.repo engine.rules tenantId sourcePlane targetPlane domain src) := by
  constructor
  · intro hmarks hcompletes src hsrc hfrozen
    obtain ⟨-, hmarked, -⟩ := reconciled_of_completes rt env hfiled hcompletes
    obtain ⟨obj', hget, hbecomes⟩ := hmarked src hsrc hfrozen
    rcases hmarks.objects src.id with hsame | ⟨obj, -, hold, -, -, -, hagreeing⟩
    · rw [hget, hsrc.1] at hsame
      have hstate := hbecomes.state
      rw [Option.some.inj hsame, hfrozen] at hstate
      cases hstate
    · obtain rfl := Option.some.inj (hsrc.1.symm.trans hold)
      exact hagreeing
  · intro h
    by_cases hcompletes :
        Completes engine.graph.repo engine.rules tenantId sourcePlane targetPlane domain
    · obtain ⟨hlinks, hmarked, hkept⟩ := reconciled_of_completes rt env hfiled hcompletes
      refine ⟨hlinks, fun id => ?_⟩
      by_cases hfrozen : ∃ src, Selected engine.graph.repo tenantId domain sourcePlane src ∧
          src.id = id ∧ src.state = .frozen
      · obtain ⟨src, hsrc, rfl, hfrozen⟩ := hfrozen
        obtain ⟨obj', hget, hbecomes⟩ := hmarked src hsrc hfrozen
        exact Or.inr
          ⟨src, obj', hsrc.1, hget, hfrozen, hbecomes, h hcompletes src hsrc hfrozen⟩
      · exact Or.inl (hkept id fun src hsrc hid hstate => hfrozen ⟨src, hsrc, hid, hstate⟩)
    · rw [reconciled_of_not_completes rt env hfiled hcompletes]
      exact ⟨rfl, fun id => Or.inl rfl⟩

end Reconcile

/-- On every graph a reconciliation marks only objects that agree with what they were compared with,
exactly when it does not complete or all frozen source objects are such. -/
theorem reconcile_marks_agreeing_iff (rt : Runtime) (graph : GraphService) (ops : List RepositoryOp)
    (rules : List ReconciliationRule) (env : Env) (tenantId : String)
    (sourcePlane targetPlane : PlaneType) (domain : String) :
    let repo := repositoryOf ops
    MarksAgreeing repo rules tenantId sourcePlane targetPlane domain
        (reconciled rt ⟨{ graph with repo := repo }, rules⟩ env tenantId sourcePlane targetPlane
          domain) ↔
      (Completes repo rules tenantId sourcePlane targetPlane domain →
        ∀ src, Selected repo tenantId domain sourcePlane src → src.state = .frozen →
          Agreeing repo rules tenantId sourcePlane targetPlane domain src) := by
  let engine : ReconciliationEngine := ⟨{ graph with repo := repositoryOf ops }, rules⟩
  have hfiled : engine.graph.repo.Filed := InMemoryGraphRepository.filed_repositoryOf ops
  exact marksAgreeing_iff rt env hfiled

/-- A frozen object of the commercial plane, the only one stored. -/
def frozenAlone : List RepositoryOp :=
  [.storeObject { plainObject "invoice" "north" .commercial with state := .frozen }]

/-- An object that was compared with nothing is marked. -/
theorem not_reconcile_marks_agreeing : ¬ ∀ (rt : Runtime) (graph : GraphService)
    (ops : List RepositoryOp) (rules : List ReconciliationRule) (env : Env) (tenantId : String)
    (sourcePlane targetPlane : PlaneType) (domain : String),
    MarksAgreeing (repositoryOf ops) rules tenantId sourcePlane targetPlane domain
      (reconciled rt ⟨{ graph with repo := repositoryOf ops }, rules⟩ env tenantId sourcePlane
        targetPlane domain) := by
  intro hall
  let graph : GraphService := .new ⟨none⟩ (fun _ _ => ⟨true, 0, 0⟩) []
  let engine : ReconciliationEngine := ⟨{ graph with repo := repositoryOf frozenAlone }, []⟩
  have hfiled : engine.graph.repo.Filed := InMemoryGraphRepository.filed_repositoryOf frozenAlone
  have hmarks := (marksAgreeing_iff .reference (.initial "north") hfiled).mp
    (hall .reference graph frozenAlone [] (.initial "north") "north" .commercial .field "grid")
  have hcompletes : Completes (repositoryOf frozenAlone) [] "north" .commercial .field "grid" := by
    intro src tgt _ rule hrule
    cases hrule
  let invoice := { plainObject "invoice" "north" .commercial with state := .frozen }
  obtain ⟨⟨src, tgt, ⟨⟨-, hget, -, hfield, -⟩, -⟩, -⟩, -⟩ :=
    hmarks hcompletes invoice ⟨rfl, rfl, rfl, Or.inr rfl⟩ rfl
  have hone : (repositoryOf frozenAlone).objects = Dict.empty.set "invoice" invoice := rfl
  rw [hone, Dict.get?_set] at hget
  split at hget
  · obtain rfl := Option.some.inj hget
    cases hfield
  · cases hget

end ControlFabric.Fabric.Wave1
