import ControlFabric.Reconciliation.Accounted

/-! Which runs stay inside their scope. The three ways to select objects apply different parts of
it: a slice only the planes of what it reaches, the identifiers nothing, the filters all but a
second plane that is not named and the domains after an empty one. -/
namespace ControlFabric.Fabric.Reconciliation
open Lib

namespace ReconciliationScope

/-- The object belongs to the tenant and to each of the lists that the scope gives. -/
def Admits (scope : ReconciliationScope) (obj : ControlObject) : Prop :=
  obj.tenantId = scope.tenantId ∧ (scope.planes ≠ [] → obj.plane ∈ scope.planes) ∧
    (scope.domains ≠ [] → obj.domain ∈ scope.domains) ∧
    (scope.objectKinds ≠ [] → obj.objectKind ∈ scope.objectKinds)

/-- What the filters ask of an object on any plane. -/
def Filtered (scope : ReconciliationScope) (obj : ControlObject) : Prop :=
  obj.tenantId = scope.tenantId ∧
    (∀ domain ∈ scope.domains.head?, domain = "" ∨ obj.domain = domain) ∧
    (scope.objectKinds ≠ [] → obj.objectKind ∈ scope.objectKinds)

instance (scope : ReconciliationScope) (obj : ControlObject) : Decidable (scope.Admits obj) :=
  inferInstanceAs (Decidable (_ ∧ _ ∧ _ ∧ _))

end ReconciliationScope

/-- All objects that a run evaluates are in the scope. -/
def GraphData.StaysIn (d : GraphData) (scope : ReconciliationScope) : Prop :=
  ∀ obj ∈ d.sourceObjects ++ d.targetObjects, scope.Admits obj

instance (d : GraphData) (scope : ReconciliationScope) : Decidable (d.StaysIn scope) :=
  inferInstanceAs (Decidable (∀ obj ∈ _, _))

namespace ReconciliationOrchestrator

/-- The filters leave nothing outside the scope: no object on the default target plane when one
other plane is named, and no object of an unlisted domain when the first domain is empty. -/
structure FiltersSuffice (repo : InMemoryGraphRepository) (scope : ReconciliationScope) : Prop where
  planes : ∀ plane, scope.planes = [plane] → plane ≠ .field →
    ∀ obj ∈ repo.objects.values, scope.Filtered obj → obj.plane ≠ .field
  domains : scope.domains.head? = some "" → ∀ obj ∈ repo.objects.values, scope.Filtered obj →
    obj.plane = scope.sourcePlane ∨ obj.plane = scope.targetPlane → obj.domain ∈ scope.domains

/-- What a request selects of the repository is in the scope. The objects of a slice are named by
their identifiers, and looked up once more. -/
def SelectsInScope (repo : InMemoryGraphRepository) (request : ReconciliationRequest) : Prop :=
  if request.target.graphSliceRootIds ≠ [] then
    ∀ id, repo.InSlice 5 (slicePlanes request.scope) none request.target.graphSliceRootIds id →
      ∀ found ∈ repo.objects.get? id, ∀ obj ∈ repo.objects.get? found.id, request.scope.Admits obj
  else if request.target.objectIds ≠ [] then
    ∀ id ∈ request.target.objectIds, ∀ obj ∈ repo.objects.get? id, request.scope.Admits obj
  else FiltersSuffice repo request.scope

variable {repo : InMemoryGraphRepository} {scope : ReconciliationScope} {obj : ControlObject}

theorem mem_listSide {plane : PlaneType} : obj ∈ listSide repo scope plane ↔
    obj ∈ repo.objects.values ∧ scope.Filtered obj ∧ obj.plane = plane := by
  unfold listSide InMemoryGraphRepository.listObjects ReconciliationScope.Filtered
  dsimp only
  split
  next hkinds =>
    simp only [List.mem_filter, decide_eq_true_eq, Option.mem_some_iff, forall_eq',
      Option.not_mem_none, false_implies, implies_true, and_true]
    constructor
    · rintro ⟨⟨hmem, htenant, hplane, hdomain⟩, hkind⟩
      exact ⟨hmem, ⟨htenant, hdomain, fun _ => hkind⟩, hplane⟩
    · rintro ⟨hmem, ⟨htenant, hdomain, hkind⟩, hplane⟩
      exact ⟨⟨hmem, htenant, hplane, hdomain⟩, hkind hkinds⟩
  next hkinds =>
    simp only [List.mem_filter, decide_eq_true_eq, Option.mem_some_iff, forall_eq',
      Option.not_mem_none, false_implies, implies_true, and_true]
    constructor
    · rintro ⟨hmem, htenant, hplane, hdomain⟩
      exact ⟨hmem, ⟨htenant, hdomain, fun hne => absurd hne hkinds⟩, hplane⟩
    · rintro ⟨hmem, ⟨htenant, hdomain, -⟩, hplane⟩
      exact ⟨hmem, htenant, hplane, hdomain⟩

/-- A filtered object on one of the two planes is in the scope if its plane and its domain are. -/
theorem FiltersSuffice.admits (h : FiltersSuffice repo scope) (hmem : obj ∈ repo.objects.values)
    (hfiltered : scope.Filtered obj)
    (hplane : obj.plane = scope.sourcePlane ∨ obj.plane = scope.targetPlane) :
    scope.Admits obj := by
  obtain ⟨htenant, hdomain, hkind⟩ := id hfiltered
  refine ⟨htenant, ?_, ?_, hkind⟩
  · intro hne
    unfold ReconciliationScope.sourcePlane ReconciliationScope.targetPlane at hplane
    cases hplanes : scope.planes with
    | nil => exact absurd hplanes hne
    | cons p planes =>
      rw [hplanes] at hplane
      cases planes with
      | nil =>
        rcases hplane with hsource | htarget
        · exact List.mem_singleton.mpr hsource
        · -- the default target plane is in the list only if it is the one named
          by_cases hfield : p = .field
          · exact List.mem_singleton.mpr (htarget.trans hfield.symm)
          · exact absurd htarget (h.planes p hplanes hfield obj hmem hfiltered)
      | cons q planes =>
        rcases hplane with hsource | htarget
        · exact hsource ▸ List.mem_cons_self
        · exact htarget ▸ List.mem_cons_of_mem _ List.mem_cons_self
  · intro hne
    cases hdomains : scope.domains with
    | nil => exact absurd hdomains hne
    | cons domain domains =>
      have hhead : scope.domains.head? = some domain := by rw [hdomains]; rfl
      rcases hdomain domain hhead with rfl | heq
      · exact hdomains ▸ h.domains hhead obj hmem hfiltered hplane
      · exact heq ▸ List.mem_cons_self

/-- The filters suffice exactly when they find nothing outside the scope. -/
theorem filtersSuffice_iff :
    (fetchByFilters repo scope).StaysIn scope ↔ FiltersSuffice repo scope := by
  unfold GraphData.StaysIn fetchByFilters
  simp only [List.mem_append, mem_listSide]
  constructor
  · intro hall
    constructor
    · intro plane hplanes hne obj hmem hfiltered hfield
      have htarget : scope.targetPlane = .field := by
        unfold ReconciliationScope.targetPlane
        rw [hplanes]
        rfl
      obtain ⟨-, hlisted, -⟩ :=
        hall obj (Or.inr ⟨hmem, hfiltered, hfield.trans htarget.symm⟩)
      have hsame := hlisted (by simp [hplanes])
      rw [hplanes, List.mem_singleton] at hsame
      exact hne (hsame.symm.trans hfield)
    · intro hhead obj hmem hfiltered hplane
      have hne : scope.domains ≠ [] := by
        rintro hnil
        rw [hnil] at hhead
        cases hhead
      have hadmits : scope.Admits obj := by
        rcases hplane with hsource | htarget
        · exact hall obj (Or.inl ⟨hmem, hfiltered, hsource⟩)
        · exact hall obj (Or.inr ⟨hmem, hfiltered, htarget⟩)
      exact hadmits.2.2.1 hne
  · rintro h obj (⟨hmem, hfiltered, hsource⟩ | ⟨hmem, hfiltered, htarget⟩)
    · exact h.admits hmem hfiltered (Or.inl hsource)
    · exact h.admits hmem hfiltered (Or.inr htarget)

variable {request : ReconciliationRequest} {fuel : ℕ}

/-- The objects fetched are in the scope exactly when the request selects only such objects. -/
theorem fetchGraphData_staysIn_iff
    (hfuel : request.target.graphSliceRootIds.length + repo.objects.keys.length < fuel) :
    ∃ d, fetchGraphData fuel repo request = some d ∧
      (d.StaysIn request.scope ↔ SelectsInScope repo request) := by
  unfold SelectsInScope
  by_cases hroots : request.target.graphSliceRootIds ≠ []
  · obtain ⟨visited, -, hvisited, hfetch⟩ := fetchGraphData_slice hroots hfuel
    refine ⟨_, hfetch, ?_⟩
    unfold GraphData.StaysIn fetchSlice
    rw [if_pos hroots]
    simp only [mem_splitByPlane, List.mem_filterMap, List.mem_map]
    constructor
    · intro hall id hid found hfound obj hobj
      exact hall obj ⟨_, ⟨found, ⟨id, (hvisited id).mpr hid, hfound⟩, rfl⟩, hobj⟩
    · rintro hall obj ⟨-, ⟨found, ⟨id, hid, hfound⟩, rfl⟩, hobj⟩
      exact hall id ((hvisited id).mp hid) found hfound obj hobj
  · have hnil := not_not.mp hroots
    rw [if_neg hroots]
    by_cases hids : request.target.objectIds ≠ []
    · refine ⟨_, fetchGraphData_ids hnil hids, ?_⟩
      unfold GraphData.StaysIn fetchByIds
      rw [if_pos hids]
      simp only [mem_splitByPlane, List.mem_filterMap]
      constructor
      · intro hall id hid obj hobj
        exact hall obj ⟨id, hid, hobj⟩
      · rintro hall obj ⟨id, hid, hobj⟩
        exact hall id hid obj hobj
    · rw [if_neg hids]
      exact ⟨_, fetchGraphData_filters hnil (not_not.mp hids), filtersSuffice_iff⟩

/-- With enough fuel a run ends, and all objects it evaluates are in the scope exactly when the
request selects only such objects. -/
theorem execute_staysIn_iff (rt : Runtime) (ops : ValueOps) (o : ReconciliationOrchestrator)
    (n : ℕ) (request : ReconciliationRequest) (fuel : ℕ)
    (hfuel : request.target.graphSliceRootIds.length + o.graph.repo.objects.keys.length < fuel) :
    ∃ d, fetchGraphData fuel o.graph.repo request = some d ∧
      o.execute rt ops n request fuel = some (o.reconcile rt ops n request d) ∧
      (d.StaysIn request.scope ↔ SelectsInScope o.graph.repo request) := by
  obtain ⟨d, hfetch, hiff⟩ := fetchGraphData_staysIn_iff hfuel
  exact ⟨d, hfetch, execute_of_fetch rt ops n hfetch, hiff⟩

end ReconciliationOrchestrator

/-! ### Selections that leave the scope -/

/-- A bill of one tenant, a field report of it, and a report of another tenant. -/
def neighbors : ReconciliationOrchestrator where
  graph := storing [keyedObject "bill" .commercial [("order", "7")],
    keyedObject "report" .field [("order", "7")],
    { keyedObject "stranger" .field [("order", "7")] with tenantId := "south" }] []
  ruleRegistry := buildDefaultRuleRegistry .exact

/-- The bill and the report of the other tenant, by their identifiers. -/
def byIds : ReconciliationRequest :=
  { commercialToField with target := { objectIds := ["bill", "stranger"] } }

/-- The same objects as roots of a slice. -/
def bySlice : ReconciliationRequest :=
  { commercialToField with target := { graphSliceRootIds := ["bill", "stranger"] } }

/-- The commercial plane alone, by filters. -/
def commercialOnly : ReconciliationRequest :=
  { commercialToField with scope := { planes := [.commercial], tenantId := "north" } }

namespace ReconciliationOrchestrator

theorem execute_staysIn_neighbors : ∃ d,
    fetchGraphData 6 neighbors.graph.repo bySlice = some d ∧
      neighbors.execute .reference .exact 0 bySlice 6 =
        some (neighbors.reconcile .reference .exact 0 bySlice d) ∧
      (d.StaysIn bySlice.scope ↔ SelectsInScope neighbors.graph.repo bySlice) :=
  execute_staysIn_iff .reference .exact neighbors 0 bySlice 6 (by decide)

/-- A run that evaluates an object outside the requested scope. -/
def LeavesScope (o : ReconciliationOrchestrator) (request : ReconciliationRequest) (fuel : ℕ) :
    Prop :=
  ∃ d, fetchGraphData fuel o.graph.repo request = some d ∧
    o.execute .reference .exact 0 request fuel =
      some (o.reconcile .reference .exact 0 request d) ∧ ¬ d.StaysIn request.scope

theorem leavesScope_of_fetch {o : ReconciliationOrchestrator} {request : ReconciliationRequest}
    {fuel : ℕ}
    (h : (fetchGraphData fuel o.graph.repo request).any fun d => ¬ d.StaysIn request.scope) :
    o.LeavesScope request fuel := by
  obtain ⟨d, hfetch, hstray⟩ := (Option.any_eq_true _ _).mp h
  exact ⟨d, hfetch, execute_of_fetch _ _ _ hfetch, by simpa using hstray⟩

/-- Identifiers and roots bring in the other tenant, and the filters bring in the field plane. -/
theorem execute_leaves_scope : neighbors.LeavesScope byIds 6 ∧ neighbors.LeavesScope bySlice 6 ∧
    neighbors.LeavesScope commercialOnly 6 := by
  refine ⟨leavesScope_of_fetch ?_, leavesScope_of_fetch ?_, leavesScope_of_fetch ?_⟩
  · decide +kernel
  · decide +kernel
  · decide +kernel

end ReconciliationOrchestrator
end ControlFabric.Fabric.Reconciliation
