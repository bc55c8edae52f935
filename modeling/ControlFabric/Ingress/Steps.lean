import ControlFabric.Ingress.Objects
import ControlFabric.Ingress.Pipeline
import Mathlib.Data.List.Forall2

/-! What ingesting a list of new objects does: the gate decides each by its type and name, and those
it lets through enter registry, graph and result together. -/
namespace ControlFabric.Ingress
open Lib Method Py

namespace IngestPipeline

/-- The policies of the gate, if there is one. -/
def policies (p : IngestPipeline) : Option ActivePolicies :=
  p.releaseGate.map fun gate => gate.chain.activePolicies

/-- The package the gate has under the identifier. -/
def packageAt (p : IngestPipeline) (id : String) : Option EvidencePackage :=
  p.releaseGate.bind fun gate => gate.packages.get? id

/-- No store knows the identifier. -/
structure Unknown (p : IngestPipeline) (id : String) : Prop where
  registry : id ∉ p.registry.objects
  history : id ∉ p.registry.versionHistory
  graph : id ∉ p.graph.nodes

end IngestPipeline

namespace IngestCall
variable (rt : Runtime) (call : IngestCall) (policies : Option ActivePolicies)

/-- The error of an object the gate blocks. -/
def blockedBy (policies : Option ActivePolicies) (obj : ControlObject) : Option String :=
  policies.bind fun policies =>
    if (call.submission obj).Admissible policies then none
    else some (s!"Gate blocked ingestion of '{obj.name}': " ++
      (call.submission obj).failureReason rt policies)

/-- The objects the gate lets through. -/
def letThrough (objs : List ControlObject) : List ControlObject :=
  objs.filter fun obj => (call.blockedBy rt policies obj).isNone

/-- The errors of the others. -/
def refusals (objs : List ControlObject) : List String :=
  objs.filterMap (call.blockedBy rt policies)

/-- The packages listed for the objects, one for each when there is a gate. -/
def Evidences (p : IngestPipeline) (ids : List String) (objs : List ControlObject) : Prop :=
  if p.releaseGate.isSome then
    List.Forall₂ (fun id obj => ∃ package, p.packageAt id = some package ∧
      package.actionManifest = (call.submission obj).proposedPayload) ids objs
  else ids = []

end IngestCall

/-- The entry of a store. -/
def entryOf (obj : ControlObject) : String × ControlObject := (obj.objectId, obj)

/-- The objects are ingested one after the other, all of them new. -/
structure Progress (rt : Runtime) (call : IngestCall) (objs : List ControlObject)
    (i i' : Ingestion) (env env' : Env) : Prop where
  draws : env.Within (11 * objs.length) env'
  policies : i'.pipeline.policies = i.pipeline.policies
  artefactId : i'.result.artefactId = i.result.artefactId
  errors : i'.result.errors = i.result.errors ++ call.refusals rt i.pipeline.policies objs
  ingested : i'.result.ingestedObjects =
    i.result.ingestedObjects ++ call.letThrough rt i.pipeline.policies objs
  registry : i'.pipeline.registry.objects.entries = i.pipeline.registry.objects.entries ++
    (call.letThrough rt i.pipeline.policies objs).map entryOf
  graph : i'.pipeline.graph.nodes.entries = i.pipeline.graph.nodes.entries ++
    (call.letThrough rt i.pipeline.policies objs).map entryOf
  history : ∃ records : List VersionRecord,
    List.Forall₂ VersionRecord.Of records (call.letThrough rt i.pipeline.policies objs) ∧
      i'.pipeline.registry.versionHistory.entries =
        i.pipeline.registry.versionHistory.entries ++ records.map fun r => (r.objectId, [r])
  kept : Set.InjOn rt.uuid4 (Set.Iio env'.draws) → ∀ n < env.draws,
    i'.pipeline.packageAt (rt.uuid4 n) = i.pipeline.packageAt (rt.uuid4 n)
  evidence : ∃ ids, i'.result.evidencePackageIds = i.result.evidencePackageIds ++ ids ∧
    (∀ id ∈ ids, ∃ n < env'.draws, id = rt.uuid4 n) ∧
      (Set.InjOn rt.uuid4 (Set.Iio env'.draws) →
        call.Evidences i'.pipeline ids (call.letThrough rt i.pipeline.policies objs))
  listed : i'.result.evidencePackageIds.length = i.result.evidencePackageIds.length +
    if i.pipeline.releaseGate.isSome then (call.letThrough rt i.pipeline.policies objs).length
    else 0

section Object
variable {rt : Runtime} {call : IngestCall} {obj : ControlObject} {p : IngestPipeline}
  {result : IngestResult} {env : Env}

/-- A pipeline behind whose gate a new object has been stored. -/
def stored (rt : Runtime) (call : IngestCall) (obj : ControlObject) (n : ℕ) (p : IngestPipeline) :
    IngestPipeline :=
  { p with
    registry := { p.registry.write rt n obj call.ingestedBy call.reason with
      events := p.registry.events ++ [RegistryEvent.new rt (n + 1) "registered" obj
        call.ingestedBy s!"Registered: {call.reason}"] }
    graph := p.graph.withObject obj }

theorem run_ingestObject_passed {p' : IngestPipeline} {ids : List String} {env' : Env}
    (hgate : (Ingestion.passGate rt call obj).run ⟨⟨p, result⟩, env⟩ =
      .ok true ⟨⟨p', { result with evidencePackageIds := ids }⟩, env'⟩)
    (hnew : p'.Unknown obj.objectId) :
    (Ingestion.ingestObject rt call obj).run ⟨⟨p, result⟩, env⟩ = .ok ()
      ⟨⟨stored rt call obj env'.draws p',
        { result with
          evidencePackageIds := ids
          ingestedObjects := result.ingestedObjects ++ [obj] }⟩,
        { env' with draws := env'.draws + 2 }⟩ := by
  have hregister := ObjectRegistry.run_register rt call.ingestedBy call.reason env' hnew.registry
  have hgraph := ControlGraphStore.run_addObject { env' with draws := env'.draws + 2 } hnew.graph
  simp only [Ingestion.ingestObject, run_tryCatch, EStateM.run_bind, hgate, if_true,
    Ingestion.onRegistry, Ingestion.onGraph, Ingestion.onResult, run_on, hregister, hgraph,
    run_assign]
  rfl

theorem run_ingestObject_refused {p' : IngestPipeline} {message : String} {env' : Env}
    (hgate : (Ingestion.passGate rt call obj).run ⟨⟨p, result⟩, env⟩ =
      .ok false ⟨⟨p', { result with errors := result.errors ++ [message] }⟩, env'⟩) :
    (Ingestion.ingestObject rt call obj).run ⟨⟨p, result⟩, env⟩ = .ok ()
      ⟨⟨p', { result with errors := result.errors ++ [message] }⟩, env'⟩ := by
  simp only [Ingestion.ingestObject, run_tryCatch, EStateM.run_bind, hgate]
  rfl

theorem run_passGate_none (h : p.releaseGate = none) :
    (Ingestion.passGate rt call obj).run ⟨⟨p, result⟩, env⟩ = .ok true ⟨⟨p, result⟩, env⟩ := by
  simp [Ingestion.passGate, h]

theorem run_passGate_released {gate : PlatformActionReleaseGate} (h : p.releaseGate = some gate)
    (ha : (call.submission obj).Admissible gate.chain.activePolicies) :
    let package := (call.submission obj).compiled rt gate.activePolicies env.draws
    ∃ gate' env', Released rt (call.submission obj) gate gate' package ∧
      env'.draws = env.draws + 9 ∧
      (Ingestion.passGate rt call obj).run ⟨⟨p, result⟩, env⟩ =
        .ok true ⟨⟨{ p with releaseGate := some gate' },
          { result with evidencePackageIds := result.evidencePackageIds ++ [package.packageId] }⟩,
          env'⟩ := by
  intro package
  obtain ⟨gateResult, gate', env', hstatus, hid, hreleased, hdraws, hrun⟩ :=
    submit_released rt env rfl ha
  refine ⟨gate', env', hreleased, hdraws, ?_⟩
  simp [Ingestion.passGate, h, Ingestion.onGate, Ingestion.onResult, run_on, hrun, hstatus, hid,
    package]

theorem run_passGate_refused {gate : PlatformActionReleaseGate} (h : p.releaseGate = some gate)
    (ha : ¬ (call.submission obj).Admissible gate.chain.activePolicies) :
    ∃ gate' env', Refused gate gate' ∧ env.Within 9 env' ∧
      (Ingestion.passGate rt call obj).run ⟨⟨p, result⟩, env⟩ =
        .ok false ⟨⟨{ p with releaseGate := some gate' },
          { result with errors := result.errors ++
            [s!"Gate blocked ingestion of '{obj.name}': " ++
              (call.submission obj).failureReason rt gate.chain.activePolicies] }⟩, env'⟩ := by
  obtain ⟨gateResult, gate', env', hstatus, hreason, hrefused, hwithin, hrun⟩ :=
    submit_refused rt env ha
  refine ⟨gate', env', hrefused, hwithin, ?_⟩
  simp [Ingestion.passGate, h, Ingestion.onGate, Ingestion.addError, Ingestion.onResult, run_on,
    hrun, hstatus, hreason]

theorem getVersionHistory_of_not_mem {r : ObjectRegistry} {id : String}
    (h : id ∉ r.versionHistory) : r.getVersionHistory id = [] := by
  rw [ObjectRegistry.getVersionHistory, Dict.getD, Dict.get?_eq_none.mpr h]
  rfl

/-- Progress by an object that was let through, from what the gate step did. -/
theorem Progress.passed {gate' : Option PlatformActionReleaseGate} {ids : List String}
    {env' : Env} (hnew : p.Unknown obj.objectId) (hdraws : env.Within 9 env')
    (hpass : call.blockedBy rt p.policies obj = none)
    (hpolicies : ({ p with releaseGate := gate' } : IngestPipeline).policies = p.policies)
    (hkept : Set.InjOn rt.uuid4 (Set.Iio (env'.draws + 2)) → ∀ n < env.draws,
      ({ p with releaseGate := gate' } : IngestPipeline).packageAt (rt.uuid4 n) =
        p.packageAt (rt.uuid4 n))
    (hids : ∀ id ∈ ids, ∃ n < env'.draws + 2, id = rt.uuid4 n)
    (hlisted : ids.length = if p.releaseGate.isSome then 1 else 0)
    (hevidence : call.Evidences { p with releaseGate := gate' } ids [obj]) :
    Progress rt call [obj] ⟨p, result⟩
      ⟨stored rt call obj env'.draws { p with releaseGate := gate' },
        { result with
          evidencePackageIds := result.evidencePackageIds ++ ids
          ingestedObjects := result.ingestedObjects ++ [obj] }⟩
      env { env' with draws := env'.draws + 2 } := by
  have hlet : call.letThrough rt p.policies [obj] = [obj] := by
    simp [IngestCall.letThrough, hpass]
  have hrefusals : call.refusals rt p.policies [obj] = [] := by
    simp [IngestCall.refusals, hpass]
  constructor
  case draws => exact ⟨Nat.le_add_right_of_le hdraws.le, Nat.add_le_add_right hdraws.bound 2⟩
  case policies => exact hpolicies
  case artefactId => rfl
  case errors => rw [hrefusals, List.append_nil]
  case ingested => rw [hlet]
  case registry =>
    rw [hlet]
    show (p.registry.write rt env'.draws obj call.ingestedBy call.reason).objects.entries = _
    rw [ObjectRegistry.write_objects, Dict.entries_set_new hnew.registry]
    rfl
  case graph =>
    rw [hlet]
    exact Dict.entries_set_new hnew.graph obj
  case history =>
    rw [hlet]
    refine ⟨[VersionRecord.new rt env'.draws obj call.ingestedBy call.reason],
      .cons ⟨rfl, rfl, rfl, rfl, rfl⟩ .nil, ?_⟩
    show (p.registry.write rt env'.draws obj call.ingestedBy
      call.reason).versionHistory.entries = _
    rw [ObjectRegistry.write_versionHistory, getVersionHistory_of_not_mem hnew.history,
      Dict.entries_set_new hnew.history]
    rfl
  case kept => exact hkept
  case evidence =>
    rw [hlet]
    exact ⟨ids, rfl, hids, fun _ => hevidence⟩
  case listed =>
    rw [hlet]
    show (result.evidencePackageIds ++ ids).length = _
    rw [List.length_append, hlisted]
    rfl

/-- Progress by an object the gate refused. -/
theorem Progress.refused {gate gate' : PlatformActionReleaseGate} {env' : Env}
    (hgate : p.releaseGate = some gate)
    (ha : ¬ (call.submission obj).Admissible gate.chain.activePolicies)
    (hrefused : Refused gate gate') (hdraws : env.Within 9 env') :
    Progress rt call [obj] ⟨p, result⟩
      ⟨{ p with releaseGate := some gate' },
        { result with errors := result.errors ++
          [s!"Gate blocked ingestion of '{obj.name}': " ++
            (call.submission obj).failureReason rt gate.chain.activePolicies] }⟩ env env' := by
  have hblocked : call.blockedBy rt p.policies obj =
      some (s!"Gate blocked ingestion of '{obj.name}': " ++
        (call.submission obj).failureReason rt gate.chain.activePolicies) := by
    simp [IngestCall.blockedBy, IngestPipeline.policies, hgate, ha]
  have hlet : call.letThrough rt p.policies [obj] = [] := by
    simp [IngestCall.letThrough, hblocked]
  constructor
  case draws => exact hdraws.mono (by simp)
  case policies => simp [IngestPipeline.policies, hgate, hrefused.policies]
  case artefactId => rfl
  case errors => simp [IngestCall.refusals, hblocked]
  case ingested => simp [hlet]
  case registry => simp [hlet]
  case graph => simp [hlet]
  case history => exact ⟨[], by simp [hlet]⟩
  case kept =>
    intro _ n _
    simp [IngestPipeline.packageAt, hgate, hrefused.stored]
  case evidence =>
    refine ⟨[], by simp, by simp, fun _ => ?_⟩
    simp [IngestCall.Evidences, hlet]
  case listed => simp [hlet]

variable (rt call result env) in
/-- A new object is stored everywhere, or refused and stored nowhere. -/
theorem run_ingestObject (hnew : p.Unknown obj.objectId) :
    ∃ i' env', (Ingestion.ingestObject rt call obj).run ⟨⟨p, result⟩, env⟩ = .ok () ⟨i', env'⟩ ∧
      Progress rt call [obj] ⟨p, result⟩ i' env env' := by
  cases hgate : p.releaseGate with
  | none =>
    have hpass : call.blockedBy rt p.policies obj = none := by
      simp [IngestCall.blockedBy, IngestPipeline.policies, hgate]
    have hsame : ({ p with releaseGate := none } : IngestPipeline) = p := by rw [← hgate]
    have hevidence : call.Evidences p [] [obj] := by
      simp [IngestCall.Evidences, hgate]
    refine ⟨_, _, run_ingestObject_passed (run_passGate_none hgate) hnew, ?_⟩
    have hprogress := @Progress.passed rt call obj p result env none [] env hnew
      (Env.Within.refl 9 env) hpass (by rw [hsame]) (fun _ n _ => by rw [hsame]) (by simp)
      (by simp [hgate]) (by rwa [hsame])
    rwa [hsame, List.append_nil] at hprogress
  | some gate =>
    by_cases ha : (call.submission obj).Admissible gate.chain.activePolicies
    · obtain ⟨gate', env', hreleased, hdraws, hrun⟩ := run_passGate_released hgate ha
      have hpass : call.blockedBy rt p.policies obj = none := by
        simp [IngestCall.blockedBy, IngestPipeline.policies, hgate, ha]
      have hnew' : ({ p with releaseGate := some gate' } : IngestPipeline).Unknown obj.objectId :=
        ⟨hnew.registry, hnew.history, hnew.graph⟩
      refine ⟨_, _, run_ingestObject_passed hrun hnew', ?_⟩
      refine Progress.passed hnew ⟨by omega, hdraws.le⟩ hpass ?_ ?_ ?_ ?_ ?_
      · simp [IngestPipeline.policies, hgate, hreleased.policies]
      · intro hinj n hn
        -- The new package goes by a later draw.
        have hne : rt.uuid4 n ≠ rt.uuid4 (env.draws + 7) := by
          intro heq
          have := hinj (Set.mem_Iio.mpr (by omega)) (Set.mem_Iio.mpr (by omega)) heq
          omega
        show gate'.packages.get? (rt.uuid4 n) = p.releaseGate.bind fun gate =>
          gate.packages.get? (rt.uuid4 n)
        rw [hgate, hreleased.stored]
        exact Dict.get?_set_of_ne hne _ _
      · intro id hid
        obtain rfl := List.mem_singleton.mp hid
        exact ⟨env.draws + 7, by omega, rfl⟩
      · simp [hgate]
      · have hstored : gate'.packages.get? (rt.uuid4 (env.draws + 7)) =
            some ((call.submission obj).compiled rt gate.activePolicies env.draws) := by
          rw [hreleased.stored]
          exact Dict.get?_set_self _ _ _
        simp only [IngestCall.Evidences, Option.isSome_some, if_true]
        exact .cons ⟨_, hstored, hreleased.actionManifest⟩ .nil
    · obtain ⟨gate', env', hrefused, hwithin, hrun⟩ := run_passGate_refused hgate ha
      exact ⟨_, _, run_ingestObject_refused hrun, .refused hgate ha hrefused hwithin⟩

variable (rt call obj) in
theorem passGate_returns (i : Ingestion) (env : Env) :
    ∃ passed i' env', (Ingestion.passGate rt call obj).run ⟨i, env⟩ = .ok passed ⟨i', env'⟩ ∧
      env.draws ≤ env'.draws := by
  obtain ⟨p, result⟩ := i
  cases hgate : p.releaseGate with
  | none => exact ⟨_, _, _, run_passGate_none hgate, le_rfl⟩
  | some gate =>
    by_cases ha : (call.submission obj).Admissible gate.chain.activePolicies
    · obtain ⟨gate', env', -, hdraws, hrun⟩ := run_passGate_released hgate ha
      exact ⟨_, _, _, hrun, by omega⟩
    · obtain ⟨gate', env', -, hwithin, hrun⟩ := run_passGate_refused hgate ha
      exact ⟨_, _, _, hrun, hwithin.le⟩

variable (rt call obj) in
/-- Whatever the stores hold, the body of the loop does not raise. -/
theorem ingestObject_returns (i : Ingestion) (env : Env) :
    ∃ i' env', (Ingestion.ingestObject rt call obj).run ⟨i, env⟩ = .ok () ⟨i', env'⟩ ∧
      env.draws ≤ env'.draws := by
  obtain ⟨passed, i', env', hrun, hle⟩ := passGate_returns rt call obj i env
  simp only [Ingestion.ingestObject, run_tryCatch, EStateM.run_bind, hrun]
  cases passed with
  | false => exact ⟨i', env', rfl, hle⟩
  | true =>
    simp only [if_true, EStateM.run_bind, Ingestion.onRegistry, Ingestion.onGraph, run_on]
    by_cases hregistry : obj.objectId ∈ i'.pipeline.registry.objects
    · rw [ObjectRegistry.run_register_error rt call.ingestedBy call.reason env' hregistry]
      exact ⟨_, env', rfl, hle⟩
    · rw [ObjectRegistry.run_register rt call.ingestedBy call.reason env' hregistry]
      by_cases hgraph : obj.objectId ∈ i'.pipeline.graph.nodes
      · simp only [ControlGraphStore.run_addObject_error hgraph]
        exact ⟨_, _, rfl, Nat.le_add_right_of_le hle⟩
      · simp only [ControlGraphStore.run_addObject _ hgraph]
        exact ⟨_, _, rfl, Nat.le_add_right_of_le hle⟩

end Object

section Objects
variable {rt : Runtime} {call : IngestCall} {objs rest : List ControlObject}
  {i i' i'' : Ingestion} {env env' env'' : Env}

theorem Progress.nil : Progress rt call [] i i env env where
  draws := Env.Within.refl _ env
  policies := rfl
  artefactId := rfl
  errors := by simp [IngestCall.refusals]
  ingested := by simp [IngestCall.letThrough]
  registry := by simp [IngestCall.letThrough]
  graph := by simp [IngestCall.letThrough]
  history := ⟨[], by simp [IngestCall.letThrough]⟩
  kept := fun _ _ _ => rfl
  evidence := ⟨[], by simp, by simp, fun _ => by simp [IngestCall.Evidences, IngestCall.letThrough]⟩
  listed := by simp [IngestCall.letThrough]

theorem isSome_releaseGate_iff {p p' : IngestPipeline} (h : p'.policies = p.policies) :
    p'.releaseGate.isSome = p.releaseGate.isSome := by
  have hsome := congrArg Option.isSome h
  simpa [IngestPipeline.policies] using hsome

theorem Progress.evidences_kept (h : Progress rt call objs i i' env env')
    (hinj : Set.InjOn rt.uuid4 (Set.Iio env'.draws)) {call' : IngestCall} {ids : List String}
    {objs' : List ControlObject} (hids : ∀ id ∈ ids, ∃ n < env.draws, id = rt.uuid4 n)
    (hevidence : call'.Evidences i.pipeline ids objs') :
    call'.Evidences i'.pipeline ids objs' := by
  unfold IngestCall.Evidences at hevidence ⊢
  rw [isSome_releaseGate_iff h.policies]
  split at hevidence
  next hgate =>
    rw [if_pos hgate]
    refine (List.forall₂_iff_get.mp hevidence).elim fun hlen hget => ?_
    refine List.forall₂_iff_get.mpr ⟨hlen, fun k hk hk' => ?_⟩
    obtain ⟨package, hpackage, hmanifest⟩ := hget k hk hk'
    obtain ⟨n, hn, hid⟩ := hids _ (List.get_mem ids ⟨k, hk⟩)
    refine ⟨package, ?_, hmanifest⟩
    rw [hid, h.kept hinj n hn, ← hid]
    exact hpackage
  next hgate => rwa [if_neg hgate]

theorem Progress.append (h : Progress rt call objs i i' env env')
    (h' : Progress rt call rest i' i'' env' env'') :
    Progress rt call (objs ++ rest) i i'' env env'' := by
  have hle := h'.draws.le
  have hpolicies := h'.policies.trans h.policies
  have hinj' (hinj : Set.InjOn rt.uuid4 (Set.Iio env''.draws)) :
      Set.InjOn rt.uuid4 (Set.Iio env'.draws) := hinj.mono (Set.Iio_subset_Iio hle)
  have hlet : call.letThrough rt i.pipeline.policies (objs ++ rest) =
      call.letThrough rt i.pipeline.policies objs ++
        call.letThrough rt i'.pipeline.policies rest := by
    simp only [IngestCall.letThrough, List.filter_append, h.policies]
  have hrefusals : call.refusals rt i.pipeline.policies (objs ++ rest) =
      call.refusals rt i.pipeline.policies objs ++
        call.refusals rt i'.pipeline.policies rest := by
    simp only [IngestCall.refusals, List.filterMap_append, h.policies]
  constructor
  case draws => exact h.draws.trans h'.draws (by rw [List.length_append, Nat.mul_add])
  case policies => exact hpolicies
  case artefactId => exact h'.artefactId.trans h.artefactId
  case errors => rw [h'.errors, h.errors, hrefusals, List.append_assoc]
  case ingested => rw [h'.ingested, h.ingested, hlet, List.append_assoc]
  case registry => rw [h'.registry, h.registry, hlet, List.map_append, List.append_assoc]
  case graph => rw [h'.graph, h.graph, hlet, List.map_append, List.append_assoc]
  case history =>
    obtain ⟨records, hof, hentries⟩ := h.history
    obtain ⟨records', hof', hentries'⟩ := h'.history
    refine ⟨records ++ records', ?_, ?_⟩
    · rw [hlet]
      exact List.rel_append hof hof'
    · rw [hentries', hentries, List.map_append, List.append_assoc]
  case kept =>
    intro hinj n hn
    rw [h'.kept hinj n (hn.trans_le h.draws.le), h.kept (hinj' hinj) n hn]
  case evidence =>
    obtain ⟨ids, hsame, hids, hevidence⟩ := h.evidence
    obtain ⟨ids', hsame', hids', hevidence'⟩ := h'.evidence
    refine ⟨ids ++ ids', by rw [hsame', hsame, List.append_assoc], ?_, fun hinj => ?_⟩
    · intro id hid
      rcases List.mem_append.mp hid with hold | hnew
      · obtain ⟨n, hn, rfl⟩ := hids id hold
        exact ⟨n, hn.trans_le hle, rfl⟩
      · exact hids' id hnew
    · rw [hlet]
      have hfirst := h'.evidences_kept hinj hids (hevidence (hinj' hinj))
      have hsecond := hevidence' hinj
      unfold IngestCall.Evidences at hfirst hsecond ⊢
      split at hfirst
      next hgate =>
        rw [if_pos hgate] at hsecond ⊢
        exact List.rel_append hfirst hsecond
      next hgate =>
        rw [if_neg hgate] at hsecond ⊢
        rw [hfirst, hsecond, List.append_nil]
  case listed =>
    have hlisted' := h'.listed
    rw [isSome_releaseGate_iff h.policies] at hlisted'
    rw [hlisted', h.listed, hlet, List.length_append]
    split <;> omega

theorem map_objectId_of_records {records : List VersionRecord}
    (h : List.Forall₂ VersionRecord.Of records objs) :
    records.map (fun r => r.objectId) = objs.map fun obj => obj.objectId := by
  induction h with
  | nil => rfl
  | cons hrecord _ ih => rw [List.map_cons, List.map_cons, hrecord.objectId, ih]

/-- Only the identifiers of the objects become known. -/
theorem Progress.unknown (h : Progress rt call objs i i' env env') {id : String}
    (hid : ∀ obj ∈ objs, obj.objectId ≠ id) (hnew : i.pipeline.Unknown id) :
    i'.pipeline.Unknown id := by
  have hkeys : id ∉ ((call.letThrough rt i.pipeline.policies objs).map entryOf).map Prod.fst := by
    intro hmem
    obtain ⟨entry, hentry, rfl⟩ := List.mem_map.mp hmem
    obtain ⟨obj, hobj, rfl⟩ := List.mem_map.mp hentry
    exact hid obj (List.mem_filter.mp hobj).1 rfl
  obtain ⟨records, hof, hrecords⟩ := h.history
  constructor
  case registry =>
    rw [Dict.mem_iff_keys, Dict.keys, h.registry, List.map_append, List.mem_append, not_or]
    exact ⟨hnew.registry, hkeys⟩
  case history =>
    rw [Dict.mem_iff_keys, Dict.keys, hrecords, List.map_append, List.mem_append, not_or]
    refine ⟨hnew.history, fun hmem => hkeys ?_⟩
    simpa [Function.comp_def, entryOf, map_objectId_of_records hof] using hmem
  case graph =>
    rw [Dict.mem_iff_keys, Dict.keys, h.graph, List.map_append, List.mem_append, not_or]
    exact ⟨hnew.graph, hkeys⟩

variable (rt call objs) in
theorem ingestObjects_returns (i : Ingestion) (env : Env) :
    ∃ i' env', (Ingestion.ingestObjects rt call objs).run ⟨i, env⟩ = .ok () ⟨i', env'⟩ ∧
      env.draws ≤ env'.draws := by
  induction objs generalizing i env with
  | nil => exact ⟨i, env, rfl, le_rfl⟩
  | cons obj rest ih =>
    obtain ⟨i', env', hrun, hle⟩ := ingestObject_returns rt call obj i env
    obtain ⟨i'', env'', hrun', hle'⟩ := ih i' env'
    refine ⟨i'', env'', ?_, hle.trans hle'⟩
    simp only [Ingestion.ingestObjects, EStateM.run_bind, hrun]
    exact hrun'

variable (rt call) in
theorem run_ingestObjects {p : IngestPipeline} (result : IngestResult) (env : Env)
    (hnodup : (objs.map ControlObject.objectId).Nodup)
    (hnew : ∀ obj ∈ objs, p.Unknown obj.objectId) :
    ∃ i' env', (Ingestion.ingestObjects rt call objs).run ⟨⟨p, result⟩, env⟩ =
      .ok () ⟨i', env'⟩ ∧ Progress rt call objs ⟨p, result⟩ i' env env' := by
  induction objs generalizing p result env with
  | nil => exact ⟨_, _, rfl, .nil⟩
  | cons obj rest ih =>
    rw [List.map_cons, List.nodup_cons] at hnodup
    obtain ⟨hfirst, hrest⟩ := hnodup
    obtain ⟨i', env', hrun, hprogress⟩ :=
      run_ingestObject rt call result env (hnew obj List.mem_cons_self)
    have hstill : ∀ o ∈ rest, i'.pipeline.Unknown o.objectId := by
      intro o ho
      refine hprogress.unknown ?_ (hnew o (List.mem_cons_of_mem _ ho))
      intro obj' hobj' hsame
      obtain rfl := List.mem_singleton.mp hobj'
      exact hfirst (List.mem_map.mpr ⟨o, ho, hsame.symm⟩)
    obtain ⟨i'', env'', hrun', hprogress'⟩ := ih i'.result env' hrest hstill
    refine ⟨i'', env'', ?_, hprogress.append hprogress'⟩
    simp only [Ingestion.ingestObjects, EStateM.run_bind, hrun]
    exact hrun'

end Objects

section Ingest
variable (rt : Runtime) {ip : Interpreter} {call : IngestCall} {l : List Extracted}
  (w : World IngestPipeline)

/-- The result of an artefact that cannot be normalised. -/
def failedResult (rt : Runtime) (call : IngestCall) (e : PyError) : IngestResult :=
  { IngestResult.new call.artefact.artefactId with
    errors := ["Normalisation failed: " ++
      s!"Normalisation failed: {reprList rt.isPrintable [e.message]}"] }

theorem ingest_failed {e : PyError} (h : extract ip call.artefact = .error e) :
    (IngestPipeline.ingest rt ip call).run w = .ok (failedResult rt call e) w := by
  simp only [IngestPipeline.ingest, IngestPipeline.normalised, EStateM.run_bind, run_tryCatch,
    run_map, run_normaliseToObjects_failed rt call.operationalPlane h]
  rfl

theorem ingest_raised (h : extract ip call.artefact = .ok l) (hl : ¬ ∀ e ∈ l, Constructible e) :
    ∃ message env', (IngestPipeline.ingest rt ip call).run w =
      .error (.validationError message) ⟨w.self, env'⟩ ∧ w.env.draws ≤ env'.draws := by
  obtain ⟨message, env', hrun, hle⟩ :=
    run_normaliseToObjects_error rt call.operationalPlane h hl w
  refine ⟨message, env', ?_, hle⟩
  simp only [IngestPipeline.ingest, IngestPipeline.normalised, EStateM.run_bind, run_tryCatch,
    run_map, hrun]
  rfl

theorem run_ingest_extracted {objs : List ControlObject} {v : World IngestPipeline}
    (h : (normaliseToObjects rt ip call.artefact call.operationalPlane).run w = .ok objs v) :
    (IngestPipeline.ingest rt ip call).run w =
      (IngestPipeline.filling call.artefact.artefactId
        (Ingestion.ingestObjects rt call objs)).run v := by
  simp only [IngestPipeline.ingest, IngestPipeline.normalised, EStateM.run_bind, run_tryCatch,
    run_map, h]

theorem run_filling (artefactId : String) (m : Method Ingestion Unit) :
    (IngestPipeline.filling artefactId m).run w =
      match m.run ⟨⟨w.self, .new artefactId⟩, w.env⟩ with
      | .ok _ v => .ok v.self.result ⟨v.self.pipeline, v.env⟩
      | .error e v => .error e ⟨v.self.pipeline, v.env⟩ := rfl

/-- An artefact whose fields the constructor accepts is ingested whatever the stores hold. -/
theorem ingest_returns (h : extract ip call.artefact = .ok l) (hl : ∀ e ∈ l, Constructible e) :
    ∃ result p' env', (IngestPipeline.ingest rt ip call).run w = .ok result ⟨p', env'⟩ ∧
      w.env.draws + (l.length + 1) ≤ env'.draws := by
  obtain ⟨objs, hrun, -⟩ := run_normaliseToObjects rt call.operationalPlane h hl w
  obtain ⟨i', env', hloop, hle⟩ := ingestObjects_returns rt call objs
    ⟨w.self, .new call.artefact.artefactId⟩ (w.env.tick (l.length + 1))
  refine ⟨i'.result, i'.pipeline, env', ?_, hle⟩
  rw [run_ingest_extracted rt w hrun]
  rw [run_filling, hloop]

/-- When the next draws are new to the stores, all objects are ingested or refused. -/
theorem ingest_done (h : extract ip call.artefact = .ok l) (hl : ∀ e ∈ l, Constructible e)
    (hinj : Set.InjOn rt.uuid4 (Set.Iio (w.env.draws + (l.length + 1))))
    (hnew : ∀ n, w.env.draws ≤ n → n < w.env.draws + (l.length + 1) →
      w.self.Unknown (rt.uuid4 n)) :
    ∃ objs i' env', (normaliseToObjects rt ip call.artefact call.operationalPlane).run w =
        .ok objs ⟨w.self, w.env.tick (l.length + 1)⟩ ∧
      (IngestPipeline.ingest rt ip call).run w = .ok i'.result ⟨i'.pipeline, env'⟩ ∧
      Progress rt call objs ⟨w.self, .new call.artefact.artefactId⟩ i'
        (w.env.tick (l.length + 1)) env' ∧
      objs.length = l.length ∧
      (∀ obj ∈ objs, obj.operationalPlane = call.operationalPlane ∧
        ∃ n < w.env.draws + (l.length + 1), obj.objectId = rt.uuid4 n) ∧
      objs.map masked =
        maskedObjects rt (provenance rt ip 0 call.artefact) call.operationalPlane l := by
  obtain ⟨objs, hrun, hids, hplanes, hmasked⟩ :=
    run_normaliseToObjects rt call.operationalPlane h hl w
  have hdrawn : ∀ obj ∈ objs, ∃ n, w.env.draws ≤ n ∧ n < w.env.draws + (l.length + 1) ∧
      obj.objectId = rt.uuid4 n := by
    intro obj hobj
    have hid : obj.objectId ∈ (List.range' (w.env.draws + 1) l.length).map rt.uuid4 := by
      rw [← hids]
      exact List.mem_map_of_mem hobj
    obtain ⟨n, hn, hsame⟩ := List.mem_map.mp hid
    rw [List.mem_range'_1] at hn
    exact ⟨n, by omega, by omega, hsame.symm⟩
  have hnodup : (objs.map ControlObject.objectId).Nodup := by
    rw [hids]
    refine List.Nodup.map_on (fun n hn m hm heq => ?_) List.nodup_range'
    rw [List.mem_range'_1] at hn hm
    exact hinj (Set.mem_Iio.mpr (by omega)) (Set.mem_Iio.mpr (by omega)) heq
  have hunknown : ∀ obj ∈ objs, w.self.Unknown obj.objectId := by
    intro obj hobj
    obtain ⟨n, hle, hlt, hid⟩ := hdrawn obj hobj
    exact hid ▸ hnew n hle hlt
  obtain ⟨i', env', hloop, hprogress⟩ := run_ingestObjects rt call
    (.new call.artefact.artefactId) (w.env.tick (l.length + 1)) hnodup hunknown
  have hlength : objs.length = l.length := by simpa using congrArg List.length hids
  refine ⟨objs, i', env', hrun, ?_, hprogress, hlength, fun obj hobj => ⟨hplanes obj hobj, ?_⟩,
    hmasked⟩
  · rw [run_ingest_extracted rt w hrun]
    rw [run_filling, hloop]
  · obtain ⟨n, -, hlt, hid⟩ := hdrawn obj hobj
    exact ⟨n, hlt, hid⟩

/-- The draws go on. -/
theorem ingest_draws_le (rt : Runtime) (ip : Interpreter) (call : IngestCall)
    (w : World IngestPipeline) :
    w.env.draws ≤ ((IngestPipeline.ingest rt ip call).after w).env.draws := by
  cases h : extract ip call.artefact with
  | error e => rw [after_ok (ingest_failed rt w h)]
  | ok l =>
    by_cases hl : ∀ e ∈ l, Constructible e
    · obtain ⟨result, p', env', hrun, hle⟩ := ingest_returns rt w h hl
      rw [after_ok hrun]
      exact (Nat.le_add_right _ _).trans hle
    · obtain ⟨message, env', hrun, hle⟩ := ingest_raised rt w h hl
      rw [after_error hrun]
      exact hle

end Ingest
end ControlFabric.Ingress
