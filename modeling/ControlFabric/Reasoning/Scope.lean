import ControlFabric.Reasoning.Engine
import ControlFabric.Fabric.Steps

/-! Which requests stay inside their scope. A listing is of the request's tenant, and of its plane
if that is the scope; target identifiers are looked up in the whole graph, and a listing of more
than one plane does not heed the planes of the policy. -/
namespace ControlFabric.Fabric.Reasoning
open Lib Method

section Lists
variable {α : Type} {P : α → Prop} {q : α → Bool} {l : List α} {n : ℕ}

/-- All of the first `n` selected elements satisfy what every element not selected late does. -/
theorem forall_mem_take_filter : (∀ a ∈ (l.filter q).take n, P a) ↔
    ∀ before a after, l = before ++ a :: after → q a → ¬ P a → n ≤ before.countP q := by
  induction l generalizing n with
  | nil => simp
  | cons b l ih =>
    constructor
    · intro hall before a after heq hqa hPa
      cases before with
      | nil =>
        obtain ⟨rfl, rfl⟩ := List.cons.inj heq
        cases n with
        | zero => omega
        | succ n =>
          rw [List.filter_cons_of_pos hqa, List.take_succ_cons] at hall
          exact absurd (hall b List.mem_cons_self) hPa
      | cons c before =>
        obtain ⟨rfl, htail⟩ := List.cons.inj heq
        rw [List.countP_cons]
        by_cases hqb : q b
        · rw [List.filter_cons_of_pos hqb] at hall
          cases n with
          | zero => omega
          | succ n =>
            rw [List.take_succ_cons] at hall
            have hlate := ih.mp (fun a ha => hall a (List.mem_cons_of_mem _ ha)) before a after
              htail hqa hPa
            rw [if_pos hqb]
            omega
        · rw [List.filter_cons_of_neg hqb] at hall
          have hlate := ih.mp hall before a after htail hqa hPa
          omega
    · intro hlate
      by_cases hqb : q b
      · rw [List.filter_cons_of_pos hqb]
        cases n with
        | zero => simp
        | succ n =>
          rw [List.take_succ_cons, List.forall_mem_cons]
          constructor
          · by_contra hPb
            have hzero := hlate [] b l rfl hqb hPb
            simp at hzero
          · refine ih.mpr fun before a after heq hqa hPa => ?_
            have hcount := hlate (b :: before) a after (by rw [heq]; rfl) hqa hPa
            rw [List.countP_cons, if_pos hqb] at hcount
            omega
      · rw [List.filter_cons_of_neg hqb]
        refine ih.mpr fun before a after heq hqa hPa => ?_
        have hcount := hlate (b :: before) a after (by rw [heq]; rfl) hqa hPa
        rw [List.countP_cons, if_neg hqb] at hcount
        omega

/-- At most one element is left when the repeated ones are dropped. -/
theorem length_dedup_le_one [DecidableEq α] :
    l.dedup.length ≤ 1 ↔ ∀ a ∈ l, ∀ b ∈ l, a = b := by
  rw [← List.card_toFinset, Finset.card_le_one]
  simp only [List.mem_toFinset]

end Lists

variable {repo : InMemoryGraphRepository} {request : ReasoningRequest}

namespace ReasoningRequest

/-- What the scope of a request and its policy let it consult. -/
structure Admits (request : ReasoningRequest) (obj : ControlObject) : Prop where
  tenant : obj.tenantId = request.tenantId
  allowed : obj.plane ∈ request.policy.allowedPlanes
  plane : request.scope = .planeLocal → ∀ plane ∈ request.plane, obj.plane = plane

/-- The objects that the target identifiers name. -/
def targets (request : ReasoningRequest) (repo : InMemoryGraphRepository) : List ControlObject :=
  request.targetObjectIds.filterMap repo.objects.get?

/-- A stored object on any plane that a listing adds to the targets. -/
def Lists (request : ReasoningRequest) (obj : ControlObject) : Prop :=
  obj.tenantId = request.tenantId ∧ (∀ d ∈ request.domain, d = "" ∨ obj.domain = d) ∧
    obj.id ∉ request.targetObjectIds

instance (request : ReasoningRequest) (obj : ControlObject) : Decidable (request.Lists obj) :=
  inferInstanceAs (Decidable (_ ∧ _ ∧ _))

/-- As many targets as the limit lets in are in scope, one at most for a single object. Where all
planes are listed, an object on a plane that is not allowed comes after the limit is reached. -/
structure InBounds (request : ReasoningRequest) (repo : InMemoryGraphRepository) : Prop where
  limit : 0 ≤ request.policy.maxObjects
  targets : ∀ obj ∈ (request.targets repo).take request.policy.maxObjects.toNat, request.Admits obj
  single : request.scope = .singleObject →
    ∀ obj ∈ (request.targets repo).take request.policy.maxObjects.toNat,
      ∀ obj' ∈ (request.targets repo).take request.policy.maxObjects.toNat, obj.id = obj'.id
  listed : request.scope = .crossPlane ∨ request.scope = .fullGraph → ∀ before obj after,
    repo.objects.values = before ++ obj :: after → request.Lists obj →
      obj.plane ∉ request.policy.allowedPlanes →
      request.policy.maxObjects ≤ (request.targets repo).length +
        before.countP fun obj => request.Lists obj

end ReasoningRequest

/-- The objects that a result names are in the scope of the request, one at most for a single
object, and no more than the policy lets in. -/
structure ReasoningResult.Bounded (result : ReasoningResult) (repo : InMemoryGraphRepository)
    (request : ReasoningRequest) : Prop where
  admitted : ∀ id ∈ result.objectsConsulted, ∀ obj ∈ repo.objects.get? id, request.Admits obj
  single : request.scope = .singleObject → result.objectsConsulted.length ≤ 1
  limit : result.objectsConsulted.length ≤ request.policy.maxObjects

/-! ### What is gathered -/

/-- The loop appends the listed objects that are not there yet. -/
theorem extend_eq {objects listed : List ControlObject} (hnodup : (listed.map (·.id)).Nodup) :
    extend objects listed = objects ++ listed.filter fun obj => obj.id ∉ objects.map (·.id) := by
  induction listed generalizing objects with
  | nil => simp [extend]
  | cons obj listed ih =>
    rw [List.map_cons, List.nodup_cons] at hnodup
    have hstep : extend objects (obj :: listed) =
        extend (if obj.id ∈ objects.map (·.id) then objects else objects ++ [obj]) listed := rfl
    rw [hstep, ih hnodup.2]
    by_cases hmem : obj.id ∈ objects.map (·.id)
    · rw [if_pos hmem, List.filter_cons_of_neg (by simpa using hmem)]
    · rw [if_neg hmem, List.filter_cons_of_pos (by simpa using hmem), List.append_assoc]
      have hrest : (listed.filter fun o => o.id ∉ (objects ++ [obj]).map (·.id)) =
          listed.filter fun o => o.id ∉ objects.map (·.id) := by
        apply List.filter_congr
        intro o ho
        have hne : o.id ≠ obj.id := fun heq => hnodup.1 (heq ▸ List.mem_map_of_mem ho)
        simp [hne]
      rw [hrest]
      rfl

theorem nodup_ids (hkeyed : repo.Keyed) : (repo.objects.values.map (·.id)).Nodup := by
  have hids : repo.objects.values.map (·.id) = repo.objects.keys := by
    unfold Dict.values Dict.keys
    rw [List.map_map]
    apply List.map_congr_left
    intro p hp
    exact hkeyed p.1 p.2 (Dict.get?_eq_some.mpr hp)
  rw [hids]
  exact repo.objects.nodup

theorem mem_values_get? (hkeyed : repo.Keyed) {obj : ControlObject} :
    obj ∈ repo.objects.values ↔ repo.objects.get? obj.id = some obj := by
  constructor
  · intro hmem
    obtain ⟨id, hget⟩ := Dict.mem_values.mp hmem
    rw [hkeyed id obj hget]
    exact hget
  · intro hget
    exact Dict.mem_values.mpr ⟨obj.id, hget⟩

theorem target_get? (hkeyed : repo.Keyed) {obj : ControlObject}
    (hmem : obj ∈ request.targets repo) :
    obj.id ∈ request.targetObjectIds ∧ repo.objects.get? obj.id = some obj := by
  obtain ⟨id, hid, hget⟩ := List.mem_filterMap.mp hmem
  rw [hkeyed id obj hget]
  exact ⟨hid, hget⟩

/-- A stored object is among the targets if its identifier is. -/
theorem mem_targets_ids (request : ReasoningRequest) (hkeyed : repo.Keyed) {obj : ControlObject}
    (hstored : obj ∈ repo.objects.values) :
    obj.id ∈ (request.targets repo).map (·.id) ↔ obj.id ∈ request.targetObjectIds := by
  have hget := (mem_values_get? hkeyed).mp hstored
  constructor
  · intro hmem
    obtain ⟨target, htarget, heq⟩ := List.mem_map.mp hmem
    rw [← heq]
    exact (target_get? hkeyed htarget).1
  · intro hmem
    exact List.mem_map_of_mem (List.mem_filterMap.mpr ⟨obj.id, hmem, hget⟩)

namespace ReasoningRequest

/-- What the listing of the request's scope adds to the targets. -/
def Adds (request : ReasoningRequest) (obj : ControlObject) : Prop :=
  request.Lists obj ∧
    match request.scope, request.plane with
    | .planeLocal, some plane => obj.plane = plane
    | .crossPlane, _ | .fullGraph, _ => True
    | _, _ => False

instance (request : ReasoningRequest) (obj : ControlObject) : Decidable (request.Adds obj) :=
  match hscope : request.scope, hplane : request.plane with
  | .planeLocal, some plane =>
    decidable_of_iff (request.Lists obj ∧ obj.plane = plane) (by simp [Adds, hscope, hplane])
  | .crossPlane, _ | .fullGraph, _ =>
    decidable_of_iff (request.Lists obj) (by simp [Adds, hscope])
  | .planeLocal, none => isFalse (by simp [Adds, hscope, hplane])
  | .singleObject, _ => isFalse (by simp [Adds, hscope])

end ReasoningRequest

theorem extend_targets (hkeyed : repo.Keyed) (plane : Option PlaneType) :
    extend (request.targets repo)
        (repo.listObjects request.tenantId plane request.domain none none) =
      request.targets repo ++ repo.objects.values.filter fun obj =>
        request.Lists obj ∧ ∀ p ∈ plane, obj.plane = p := by
  have hnodup : ((repo.listObjects request.tenantId plane request.domain none none).map
      (·.id)).Nodup := (List.filter_sublist.map _).nodup (nodup_ids hkeyed)
  rw [extend_eq hnodup]
  unfold InMemoryGraphRepository.listObjects
  rw [List.filter_filter]
  congr 1
  apply List.filter_congr
  intro obj hstored
  have hids := mem_targets_ids request hkeyed hstored
  rw [← Bool.decide_and, decide_eq_decide, hids]
  unfold ReasoningRequest.Lists
  simp only [Option.not_mem_none, false_implies, implies_true, and_true]
  tauto

/-- The targets, then what the listing adds, up to the limit. -/
theorem gathered_eq (hkeyed : repo.Keyed) (hlimit : 0 ≤ request.policy.maxObjects) :
    gatherScopedObjects repo request request.policy =
      (request.targets repo ++ repo.objects.values.filter fun obj => request.Adds obj).take
        request.policy.maxObjects.toNat := by
  have hnone (h : ∀ obj, ¬ request.Adds obj) :
      (repo.objects.values.filter fun obj => request.Adds obj) = [] := by simp [h]
  have htargets : sliceTo request.policy.maxObjects (request.targets repo) =
      (request.targets repo).take request.policy.maxObjects.toNat := if_pos hlimit
  have hlisted (plane : Option PlaneType)
      (h : ∀ obj, request.Adds obj ↔ request.Lists obj ∧ ∀ p ∈ plane, obj.plane = p) :
      sliceTo request.policy.maxObjects
        (extend (request.targetObjectIds.filterMap repo.objects.get?)
          (repo.listObjects request.tenantId plane request.domain none none)) =
      (request.targets repo ++ repo.objects.values.filter fun obj => request.Adds obj).take
        request.policy.maxObjects.toNat := by
    unfold sliceTo
    rw [if_pos hlimit]
    simp only [h]
    rw [← extend_targets hkeyed]
    rfl
  unfold gatherScopedObjects
  dsimp only
  cases hscope : request.scope with
  | singleObject =>
    rw [hnone (by simp [ReasoningRequest.Adds, hscope]), List.append_nil]
    by_cases hids : request.targetObjectIds = []
    · rw [if_pos ⟨hids, rfl⟩]
      simp [ReasoningRequest.targets, hids]
    · rw [if_neg fun h => hids h.1, ← htargets]
      cases request.plane with
      | none => rfl
      | some plane => rfl
  | planeLocal =>
    rw [if_neg fun h => ReasoningScope.noConfusion h.2]
    cases hplane : request.plane with
    | none =>
      rw [hnone (by simp [ReasoningRequest.Adds, hscope, hplane]), List.append_nil, ← htargets]
      rfl
    | some plane => exact hlisted (some plane) (by simp [ReasoningRequest.Adds, hscope, hplane])
  | crossPlane =>
    rw [if_neg fun h => ReasoningScope.noConfusion h.2]
    exact hlisted none (by simp [ReasoningRequest.Adds, hscope])
  | fullGraph =>
    rw [if_neg fun h => ReasoningScope.noConfusion h.2]
    exact hlisted none (by simp [ReasoningRequest.Adds, hscope])

theorem gathered_get? (hkeyed : repo.Keyed) (hlimit : 0 ≤ request.policy.maxObjects)
    {obj : ControlObject} (hmem : obj ∈ gatherScopedObjects repo request request.policy) :
    repo.objects.get? obj.id = some obj := by
  rw [gathered_eq hkeyed hlimit] at hmem
  rcases List.mem_append.mp (List.mem_of_mem_take hmem) with htarget | hadded
  · exact (target_get? hkeyed htarget).2
  · exact (mem_values_get? hkeyed).mp (List.mem_of_mem_filter hadded)

/-! ### What lies in scope -/

/-- What a listing adds is in scope, but for a plane that is not allowed when all are listed. -/
theorem admits_of_adds (hplane : ∀ plane ∈ request.plane, plane ∈ request.policy.allowedPlanes)
    {obj : ControlObject} (h : request.Adds obj) : request.Admits obj ↔
      (request.scope = .crossPlane ∨ request.scope = .fullGraph →
        obj.plane ∈ request.policy.allowedPlanes) := by
  obtain ⟨hlists, hscope⟩ := h
  constructor
  · intro hadmits _
    exact hadmits.allowed
  · intro hwide
    split at hscope
    next plane hs hp =>
      refine ⟨hlists.1, hscope ▸ hplane plane hp, fun _ p hmem => ?_⟩
      rw [hp] at hmem
      exact hscope.trans (Option.some.inj hmem)
    next hs => exact ⟨hlists.1, hwide (.inl hs), fun h => absurd (hs.symm.trans h) nofun⟩
    next hs => exact ⟨hlists.1, hwide (.inr hs), fun h => absurd (hs.symm.trans h) nofun⟩
    next => exact hscope.elim

/-- The listed part is in scope exactly when what is not allowed comes late. -/
theorem added_admitted_iff (hplane : ∀ plane ∈ request.plane, plane ∈ request.policy.allowedPlanes)
    (n : ℕ) :
    (∀ obj ∈ (repo.objects.values.filter fun obj => request.Adds obj).take n, request.Admits obj) ↔
      (request.scope = .crossPlane ∨ request.scope = .fullGraph → ∀ before obj after,
        repo.objects.values = before ++ obj :: after → request.Lists obj →
          obj.plane ∉ request.policy.allowedPlanes →
            n ≤ before.countP fun obj => request.Lists obj) := by
  rw [forall_mem_take_filter]
  have hwide (h : request.scope = .crossPlane ∨ request.scope = .fullGraph) (obj : ControlObject) :
      request.Adds obj ↔ request.Lists obj := by
    rcases h with h | h
    · simp [ReasoningRequest.Adds, h]
    · simp [ReasoningRequest.Adds, h]
  constructor
  · intro hall hscope before obj after heq hlists hallowed
    have hadds := (hwide hscope obj).mpr hlists
    have hlate := hall before obj after heq (decide_eq_true hadds)
      fun hadmits => hallowed ((admits_of_adds hplane hadds).mp hadmits hscope)
    simpa only [hwide hscope] using hlate
  · intro hall before obj after heq hadds hadmits
    have hadds := of_decide_eq_true hadds
    rw [admits_of_adds hplane hadds] at hadmits
    push Not at hadmits
    obtain ⟨hscope, hallowed⟩ := hadmits
    have hlate := hall hscope before obj after heq hadds.1 hallowed
    simpa only [hwide hscope] using hlate

/-- The objects named by the gathered identifiers are in scope exactly when the targets are and what
is listed with a plane that is not allowed comes late. -/
theorem admitted_iff (hkeyed : repo.Keyed) (hlimit : 0 ≤ request.policy.maxObjects)
    (hplane : ∀ plane ∈ request.plane, plane ∈ request.policy.allowedPlanes) :
    (∀ id ∈ ((gatherScopedObjects repo request request.policy).map (·.id)).dedup,
      ∀ obj ∈ repo.objects.get? id, request.Admits obj) ↔
    (∀ obj ∈ (request.targets repo).take request.policy.maxObjects.toNat, request.Admits obj) ∧
      (request.scope = .crossPlane ∨ request.scope = .fullGraph → ∀ before obj after,
        repo.objects.values = before ++ obj :: after → request.Lists obj →
          obj.plane ∉ request.policy.allowedPlanes →
            request.policy.maxObjects ≤ (request.targets repo).length +
              before.countP fun obj => request.Lists obj) := by
  have hnamed : (∀ id ∈ ((gatherScopedObjects repo request request.policy).map (·.id)).dedup,
      ∀ obj ∈ repo.objects.get? id, request.Admits obj) ↔
      ∀ obj ∈ gatherScopedObjects repo request request.policy, request.Admits obj := by
    simp only [List.mem_dedup, List.forall_mem_map]
    refine forall₂_congr fun obj hmem => ?_
    rw [Dict.forall_get?_of_some (gathered_get? hkeyed hlimit hmem)]
  rw [hnamed, gathered_eq hkeyed hlimit, List.take_append, List.forall_mem_append,
    added_admitted_iff hplane]
  have hcount (count : ℕ) :
      request.policy.maxObjects.toNat - (request.targets repo).length ≤ count ↔
        request.policy.maxObjects ≤ (request.targets repo).length + count := by omega
  simp only [hcount]

/-- A single object is named exactly when all targets within the limit are the same. -/
theorem single_iff (hkeyed : repo.Keyed) (hlimit : 0 ≤ request.policy.maxObjects)
    (hscope : request.scope = .singleObject) :
    ((gatherScopedObjects repo request request.policy).map (·.id)).dedup.length ≤ 1 ↔
      ∀ obj ∈ (request.targets repo).take request.policy.maxObjects.toNat,
        ∀ obj' ∈ (request.targets repo).take request.policy.maxObjects.toNat, obj.id = obj'.id := by
  have hnone : (repo.objects.values.filter fun obj => request.Adds obj) = [] := by
    simp [ReasoningRequest.Adds, hscope]
  rw [gathered_eq hkeyed hlimit, hnone, List.append_nil, length_dedup_le_one]
  simp only [List.forall_mem_map]

theorem gathered_length_le (hkeyed : repo.Keyed) (hlimit : 0 ≤ request.policy.maxObjects) :
    (((gatherScopedObjects repo request request.policy).map (·.id)).dedup.length : ℤ) ≤
      request.policy.maxObjects := by
  have hdedup := (List.dedup_sublist
    ((gatherScopedObjects repo request request.policy).map (·.id))).length_le
  have htake := List.length_take_le request.policy.maxObjects.toNat
    (request.targets repo ++ repo.objects.values.filter fun obj => request.Adds obj)
  rw [← gathered_eq hkeyed hlimit] at htake
  rw [List.length_map] at hdedup
  omega

theorem enforcePolicy_plane {rt : Runtime} {policy : ReasoningPolicy}
    (h : enforcePolicy rt request policy = .ok ()) :
    ∀ plane ∈ request.plane, plane ∈ policy.allowedPlanes := by
  intro plane hplane
  unfold enforcePolicy at h
  split at h
  · cases h
  · split at h
    · cases h
    · rw [Option.mem_def.mp hplane] at h
      dsimp only at h
      split at h
      · cases h
      next hallowed => exact not_not.mp hallowed

namespace BoundedReasoningEngine
variable {rt : Runtime} {str : Json → String} {w w' : World BoundedReasoningEngine}
  {result : ReasoningResult}

/-- A call that returns has passed the policy and names what has been gathered. -/
theorem reason_ok (h : (reason rt str request).run w = .ok result w') :
    enforcePolicy rt request request.policy = .ok () ∧ result.objectsConsulted =
      ((gatherScopedObjects w.self.graph.repo request request.policy).map (·.id)).dedup := by
  obtain ⟨engine, v, hself, h⟩ := bind_ok.mp h
  obtain ⟨rfl, rfl⟩ : w.self = engine ∧ w = v := by simpa using hself
  obtain ⟨_, v, hlift, h⟩ := bind_ok.mp h
  obtain ⟨henforce, rfl⟩ := lift_ok.mp hlift
  obtain ⟨det, v, hdet, h⟩ := bind_ok.mp h
  obtain ⟨model, v', hmodel, h⟩ := bind_ok.mp h
  obtain ⟨n, v'', hdraw, h⟩ := bind_ok.mp h
  obtain ⟨rfl, -⟩ := EStateM.Result.ok.inj h
  exact ⟨henforce, rfl⟩

/-- A call returns if the policy, the rules and the model let it. -/
theorem reason_returns {det : String × ℚ} {model : Option (String × ℚ)}
    (henforce : enforcePolicy rt request request.policy = .ok ())
    (hdet : w.self.applyDeterministicRules str request
      (gatherScopedObjects w.self.graph.repo request request.policy) = .ok det)
    (hmodel : w.self.askModel request request.policy
      (gatherScopedObjects w.self.graph.repo request request.policy) det = .ok model) :
    ∃ result w', (reason rt str request).run w = .ok result w' := by
  refine returns_bind (run_self w) ?_
  refine returns_bind (lift_ok.mpr ⟨henforce, rfl⟩) ?_
  refine returns_bind (lift_ok.mpr ⟨hdet, rfl⟩) ?_
  refine returns_bind (lift_ok.mpr ⟨hmodel, rfl⟩) ?_
  exact returns_bind (run_draw w) ⟨_, _, rfl⟩

/-- A request that returns stays in bounds exactly when the targets it gives and the planes it lists
leave it no object beyond them. -/
theorem bounded_scope_iff (hkeyed : w.self.graph.repo.Keyed)
    (h : (reason rt str request).run w = .ok result w') :
    result.Bounded w.self.graph.repo request ↔ request.InBounds w.self.graph.repo := by
  obtain ⟨henforce, hconsulted⟩ := reason_ok h
  have hplane := enforcePolicy_plane henforce
  by_cases hlimit : 0 ≤ request.policy.maxObjects
  · have hadmitted := admitted_iff hkeyed hlimit hplane
    have hsingle := single_iff hkeyed hlimit
    have hlength := gathered_length_le hkeyed hlimit
    constructor
    · rintro ⟨hadmits, hone, -⟩
      rw [hconsulted] at hadmits hone
      obtain ⟨htargets, hlisted⟩ := hadmitted.mp hadmits
      exact ⟨hlimit, htargets, fun hscope => (hsingle hscope).mp (hone hscope), hlisted⟩
    · rintro ⟨-, htargets, hone, hlisted⟩
      refine ⟨?_, ?_, ?_⟩
      · rw [hconsulted]
        exact hadmitted.mpr ⟨htargets, hlisted⟩
      · intro hscope
        rw [hconsulted]
        exact (hsingle hscope).mpr (hone hscope)
      · rw [hconsulted]
        exact hlength
  · constructor
    · intro hbounded
      have hlength := hbounded.limit
      omega
    · intro hbounds
      exact absurd hbounds.limit hlimit

/-- An engine over a graph with one object of each of two tenants. -/
def twoTenants : World BoundedReasoningEngine where
  self := .new
    { repo := (InMemoryGraphRepository.empty.storeObject
        (plainObject "visit" "north" .field)).storeObject (plainObject "theirs" "south" .service)
      policy := ⟨none⟩
      checker := fun _ _ => ⟨true, 0, 0⟩
      audit := ⟨[], []⟩ } none
  env := .initial "north"

theorem twoTenants_keyed : twoTenants.self.graph.repo.Keyed := by
  have hempty : InMemoryGraphRepository.empty.Keyed := by
    intro id obj hget
    cases hget
  exact (hempty.storeObject _).storeObject _

/-- The field plane of the first tenant is consulted in bounds. -/
theorem bounded_scope_iff_field : ∃ request result w',
    (reason .reference (fun _ => "") request).run twoTenants = .ok result w' ∧
      result.Bounded twoTenants.self.graph.repo request := by
  let request : ReasoningRequest := {
    id := "request"
    tenantId := "north"
    scope := .planeLocal
    plane := some .field
    policy := { allowedScopes := [.planeLocal] } }
  obtain ⟨result, w', hrun⟩ : ∃ result w',
      (reason .reference (fun _ => "") request).run twoTenants = .ok result w' :=
    reason_returns rfl rfl rfl
  refine ⟨request, result, w', hrun, (bounded_scope_iff twoTenants_keyed hrun).mpr ?_⟩
  have htargets : request.targets twoTenants.self.graph.repo = [] := rfl
  constructor
  · show (0 : ℤ) ≤ 100
    decide
  · simp [htargets]
  · simp [htargets]
  · intro hwide
    exact absurd hwide (by decide)

/-- A request of one tenant consults the object of another that it names. -/
theorem not_bounded_scope : ¬ ∀ request w' result,
    (reason .reference (fun _ => "") request).run twoTenants = .ok result w' →
      result.Bounded twoTenants.self.graph.repo request := by
  intro hall
  let request : ReasoningRequest := {
    id := "request"
    tenantId := "north"
    scope := .singleObject
    targetObjectIds := ["theirs"] }
  obtain ⟨result, w', hrun⟩ : ∃ result w',
      (reason .reference (fun _ => "") request).run twoTenants = .ok result w' :=
    reason_returns rfl rfl rfl
  have hgathered : ((gatherScopedObjects twoTenants.self.graph.repo request request.policy).map
      (·.id)).dedup = ["theirs"] := by decide +kernel
  have hconsulted := (reason_ok hrun).2.trans hgathered
  have hadmits := (hall request w' result hrun).admitted "theirs" (by rw [hconsulted]; decide)
    (plainObject "theirs" "south" .service) rfl
  exact absurd hadmits.tenant (by decide)

end BoundedReasoningEngine
end ControlFabric.Fabric.Reasoning
