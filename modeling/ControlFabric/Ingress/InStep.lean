import ControlFabric.Ingress.Steps
import ControlFabric.Lib.Run

/-! Registry, graph and evidence after any sequence of `ingest` calls. -/
namespace ControlFabric.Ingress
open Lib Method

/-- A call that returned: what its artefact was normalised to, if it was, and the result. -/
structure Report where
  call : IngestCall
  normalised : Option (List ControlObject)
  result : IngestResult

section Runs
variable (rt : Runtime) (ip : Interpreter)

def ingestStep (call : IngestCall) (w : World IngestPipeline) : World IngestPipeline :=
  (IngestPipeline.ingest rt ip call).after w

/-- The objects `normalise_to_objects` returns in the call. -/
def normalisedObjects (call : IngestCall) (w : World IngestPipeline) :
    Option (List ControlObject) :=
  match (normaliseToObjects rt ip call.artefact call.operationalPlane).run w with
  | .ok objs _ => some objs
  | .error _ _ => none

/-- What a call reports, when it returns. -/
def report (call : IngestCall) (w : World IngestPipeline) : List Report :=
  match (IngestPipeline.ingest rt ip call).run w with
  | .ok result _ => [⟨call, normalisedObjects rt ip call w, result⟩]
  | .error _ _ => []

end Runs

/-- The objects listed as ingested in the results. -/
def ingested (reports : List Report) : List ControlObject :=
  reports.flatMap fun r => r.result.ingestedObjects

/-- The error is about the object. -/
def IsAbout (message : String) (obj : ControlObject) : Prop :=
  ∃ reason, message = s!"Gate blocked ingestion of '{obj.name}': " ++ reason

/-- Each normalised object is ingested, or is the subject of one error of its own; an artefact that
is not normalised has one error and no objects. -/
def Report.Accounted (r : Report) : Prop :=
  match r.normalised with
  | none => r.result.ingestedObjects = [] ∧ r.result.errors.length = 1
  | some objs => ∃ outcomes : List (ControlObject × Option String),
      outcomes.map Prod.fst = objs ∧
      (∀ o ∈ outcomes, ∀ message ∈ o.2, IsAbout message o.1) ∧
      r.result.ingestedObjects = (outcomes.filter fun o => o.2.isNone).map Prod.fst ∧
      r.result.errors = outcomes.filterMap Prod.snd

/-- The manifest of the package carries type, name and plane of the object. -/
structure Carries (package : EvidencePackage) (obj : ControlObject) : Prop where
  objectType : Json.field package.actionManifest "object_type" = some (.str obj.objectType.value)
  name : Json.field package.actionManifest "name" = some (.str obj.name)
  plane : Json.field package.actionManifest "operational_plane" = some (.str obj.operationalPlane)

/-- The stores agree with each other and with the results; a pipeline with a gate lists a package
for each object. -/
structure InStep (gated : Bool) (p : IngestPipeline) (reports : List Report) : Prop where
  registry : p.registry.objects.entries = (ingested reports).map entryOf
  graph : p.graph.nodes.entries = (ingested reports).map entryOf
  history : ∃ records : List VersionRecord,
    List.Forall₂ VersionRecord.Of records (ingested reports) ∧
      p.registry.versionHistory.entries = records.map fun r => (r.objectId, [r])
  evidence : ∀ r ∈ reports, if gated then
      List.Forall₂ (fun id obj => ∃ package, p.packageAt id = some package ∧ Carries package obj)
        r.result.evidencePackageIds r.result.ingestedObjects
    else r.result.evidencePackageIds = []
  accounted : ∀ r ∈ reports, r.Accounted

/-- What a sequence of calls keeps. -/
structure Held (rt : Runtime) (gated : Bool) (w : World IngestPipeline) (reports : List Report) :
    Prop where
  gate : w.self.releaseGate.isSome = gated
  registry : w.self.registry.objects.entries = (ingested reports).map entryOf
  graph : w.self.graph.nodes.entries = (ingested reports).map entryOf
  history : ∃ records : List VersionRecord,
    List.Forall₂ VersionRecord.Of records (ingested reports) ∧
      w.self.registry.versionHistory.entries = records.map fun r => (r.objectId, [r])
  named : ∀ obj ∈ ingested reports, ∃ n < w.env.draws, obj.objectId = rt.uuid4 n
  planes : ∀ r ∈ reports, ∀ obj ∈ r.result.ingestedObjects,
    obj.operationalPlane = r.call.operationalPlane
  packages : ∀ r ∈ reports, ∀ id ∈ r.result.evidencePackageIds, ∃ n < w.env.draws, id = rt.uuid4 n
  evidence : ∀ r ∈ reports,
    r.call.Evidences w.self r.result.evidencePackageIds r.result.ingestedObjects
  accounted : ∀ r ∈ reports, r.Accounted

section Step
variable {rt : Runtime} {gated : Bool} {w : World IngestPipeline} {reports : List Report}

theorem ingested_concat (reports : List Report) (r : Report) :
    ingested (reports ++ [r]) = ingested reports ++ r.result.ingestedObjects := by
  simp [ingested]

theorem carries_of_manifest {call : IngestCall} {package : EvidencePackage} {obj : ControlObject}
    (h : package.actionManifest = (call.submission obj).proposedPayload)
    (hplane : obj.operationalPlane = call.operationalPlane) : Carries package obj := by
  constructor
  · rw [h]
    rfl
  · rw [h]
    rfl
  · rw [h, hplane]
    rfl

theorem Held.inStep (h : Held rt gated w reports) : InStep gated w.self reports where
  registry := h.registry
  graph := h.graph
  history := h.history
  evidence := by
    intro r hr
    have hevidence := h.evidence r hr
    rw [IngestCall.Evidences, h.gate] at hevidence
    split at hevidence
    next hgate =>
      rw [if_pos hgate]
      refine List.forall₂_iff_get.mpr ⟨hevidence.length_eq, fun k hk hk' => ?_⟩
      obtain ⟨package, hpackage, hmanifest⟩ := (List.forall₂_iff_get.mp hevidence).2 k hk hk'
      exact ⟨package, hpackage, carries_of_manifest hmanifest
        (h.planes r hr _ (List.get_mem _ ⟨k, hk'⟩))⟩
    next hgate => rwa [if_neg hgate]
  accounted := h.accounted

/-- What has not been drawn yet is in no store. -/
theorem Held.unknown (h : Held rt gated w reports) {n : ℕ} (hle : w.env.draws ≤ n)
    (hinj : Set.InjOn rt.uuid4 (Set.Iio (n + 1))) : w.self.Unknown (rt.uuid4 n) := by
  have hkeys : rt.uuid4 n ∉ ((ingested reports).map entryOf).map Prod.fst := by
    intro hmem
    obtain ⟨entry, hentry, hid⟩ := List.mem_map.mp hmem
    obtain ⟨obj, hobj, rfl⟩ := List.mem_map.mp hentry
    obtain ⟨m, hm, hobjId⟩ := h.named obj hobj
    have hsame : rt.uuid4 m = rt.uuid4 n := hobjId.symm.trans hid
    have := hinj (Set.mem_Iio.mpr (by omega)) (Set.mem_Iio.mpr (by omega)) hsame
    omega
  obtain ⟨records, hof, hrecords⟩ := h.history
  constructor
  · rwa [Dict.mem_iff_keys, Dict.keys, h.registry]
  · rw [Dict.mem_iff_keys, Dict.keys, hrecords]
    simpa [Function.comp_def, entryOf, map_objectId_of_records hof] using hkeys
  · rwa [Dict.mem_iff_keys, Dict.keys, h.graph]

/-- A call that changes no store and reports an artefact that was not normalised. -/
theorem Held.failed (h : Held rt gated w reports) {r : Report} (hnormalised : r.normalised = none)
    (hingested : r.result.ingestedObjects = []) (herrors : r.result.errors.length = 1)
    (hids : r.result.evidencePackageIds = []) : Held rt gated w (reports ++ [r]) := by
  have hsame : ingested (reports ++ [r]) = ingested reports := by
    rw [ingested_concat, hingested, List.append_nil]
  constructor
  case gate => exact h.gate
  case registry => rw [hsame, h.registry]
  case graph => rw [hsame, h.graph]
  case history => rw [hsame]; exact h.history
  case named => rw [hsame]; exact h.named
  case planes =>
    rw [List.forall_mem_append]
    exact ⟨h.planes, by simp [hingested]⟩
  case packages =>
    rw [List.forall_mem_append]
    exact ⟨h.packages, by simp [hids]⟩
  case evidence =>
    rw [List.forall_mem_append]
    exact ⟨h.evidence, by simp [hids, hingested, IngestCall.Evidences]⟩
  case accounted =>
    rw [List.forall_mem_append]
    refine ⟨h.accounted, ?_⟩
    simp [Report.Accounted, hnormalised, hingested, herrors]

/-- A call that raised: the stores are as before, the draws go on. -/
theorem Held.raised (h : Held rt gated w reports) {env : Env} (hle : w.env.draws ≤ env.draws) :
    Held rt gated ⟨w.self, env⟩ reports where
  gate := h.gate
  registry := h.registry
  graph := h.graph
  history := h.history
  named := by
    intro obj hobj
    obtain ⟨n, hn, hid⟩ := h.named obj hobj
    exact ⟨n, hn.trans_le hle, hid⟩
  planes := h.planes
  packages := by
    intro r hr id hid
    obtain ⟨n, hn, hsame⟩ := h.packages r hr id hid
    exact ⟨n, hn.trans_le hle, hsame⟩
  evidence := h.evidence
  accounted := h.accounted

theorem accounted_of_progress {call : IngestCall} {objs : List ControlObject} {i' : Ingestion}
    {env env' : Env}
    (h : Progress rt call objs ⟨w.self, .new call.artefact.artefactId⟩ i' env env') :
    (⟨call, some objs, i'.result⟩ : Report).Accounted := by
  refine ⟨objs.map fun obj => (obj, call.blockedBy rt w.self.policies obj), ?_, ?_, ?_, ?_⟩
  · simp [Function.comp_def]
  · intro o ho message hmessage
    obtain ⟨obj, -, rfl⟩ := List.mem_map.mp ho
    obtain ⟨policies, -, hblocked⟩ := Option.bind_eq_some_iff.mp hmessage
    split at hblocked
    · cases hblocked
    · exact ⟨_, (Option.some.inj hblocked).symm⟩
  · rw [h.ingested, IngestCall.letThrough, List.filter_map, List.map_map]
    simp [Function.comp_def, IngestResult.new]
  · rw [h.errors, IngestCall.refusals, List.filterMap_map]
    rfl

/-- A call that ingested what the gate let through. -/
theorem Held.progress (h : Held rt gated w reports) {call : IngestCall} {objs : List ControlObject}
    {i' : Ingestion} {env env' : Env} (hle : w.env.draws ≤ env.draws)
    (hprogress : Progress rt call objs ⟨w.self, .new call.artefact.artefactId⟩ i' env env')
    (hobjs : ∀ obj ∈ objs, obj.operationalPlane = call.operationalPlane ∧
      ∃ n < env.draws, obj.objectId = rt.uuid4 n)
    (hinj : Set.InjOn rt.uuid4 (Set.Iio env'.draws)) :
    Held rt gated ⟨i'.pipeline, env'⟩ (reports ++ [⟨call, some objs, i'.result⟩]) := by
  have hle' := hprogress.draws.le
  have hingested : i'.result.ingestedObjects = call.letThrough rt w.self.policies objs :=
    hprogress.ingested.trans (List.nil_append _)
  have hfrom : ∀ obj ∈ i'.result.ingestedObjects, obj ∈ objs := by
    intro obj hobj
    rw [hingested] at hobj
    exact (List.mem_filter.mp hobj).1
  obtain ⟨ids, hids, hdrawn, hevidence⟩ := hprogress.evidence
  have hids' : i'.result.evidencePackageIds = ids := hids.trans (List.nil_append _)
  constructor
  case gate => exact (isSome_releaseGate_iff hprogress.policies).trans h.gate
  case registry => rw [hprogress.registry, h.registry, ingested_concat, hingested, List.map_append]
  case graph => rw [hprogress.graph, h.graph, ingested_concat, hingested, List.map_append]
  case history =>
    obtain ⟨records, hof, hrecords⟩ := h.history
    obtain ⟨records', hof', hrecords'⟩ := hprogress.history
    refine ⟨records ++ records', ?_, ?_⟩
    · rw [ingested_concat, hingested]
      exact List.rel_append hof hof'
    · rw [hrecords', hrecords, List.map_append]
  case named =>
    intro obj hobj
    rw [ingested_concat, List.mem_append] at hobj
    rcases hobj with hold | hnew
    · obtain ⟨n, hn, hid⟩ := h.named obj hold
      exact ⟨n, by show n < env'.draws; omega, hid⟩
    · obtain ⟨n, hn, hid⟩ := (hobjs obj (hfrom obj hnew)).2
      exact ⟨n, hn.trans_le hle', hid⟩
  case planes =>
    rw [List.forall_mem_append, List.forall_mem_singleton]
    exact ⟨h.planes, fun obj hobj => (hobjs obj (hfrom obj hobj)).1⟩
  case packages =>
    rw [List.forall_mem_append, List.forall_mem_singleton]
    refine ⟨fun r hr id hid => ?_, fun id hid => hdrawn id (hids' ▸ hid)⟩
    obtain ⟨n, hn, hsame⟩ := h.packages r hr id hid
    exact ⟨n, by show n < env'.draws; omega, hsame⟩
  case evidence =>
    rw [List.forall_mem_append, List.forall_mem_singleton]
    refine ⟨fun r hr => ?_, ?_⟩
    · refine hprogress.evidences_kept hinj (fun id hid => ?_) (h.evidence r hr)
      obtain ⟨n, hn, hsame⟩ := h.packages r hr id hid
      exact ⟨n, hn.trans_le hle, hsame⟩
    · show call.Evidences i'.pipeline i'.result.evidencePackageIds i'.result.ingestedObjects
      rw [hids', hingested]
      exact hevidence hinj
  case accounted =>
    rw [List.forall_mem_append, List.forall_mem_singleton]
    exact ⟨h.accounted, accounted_of_progress hprogress⟩

theorem Held.step (ip : Interpreter) (call : IngestCall) (h : Held rt gated w reports)
    (hinj : Set.InjOn rt.uuid4 (Set.Iio (ingestStep rt ip call w).env.draws)) :
    Held rt gated (ingestStep rt ip call w) (reports ++ report rt ip call w) := by
  cases hextract : extract ip call.artefact with
  | error e =>
    have hrun := ingest_failed rt w hextract
    have hnone : normalisedObjects rt ip call w = none := by
      rw [normalisedObjects, run_normaliseToObjects_failed rt call.operationalPlane hextract]
    rw [ingestStep, after_ok hrun, report, hrun, hnone]
    exact h.failed rfl rfl rfl rfl
  | ok l =>
    by_cases hl : ∀ e ∈ l, Constructible e
    · obtain ⟨_, _, _, hrun, hle⟩ := ingest_returns rt w hextract hl
      rw [ingestStep, after_ok hrun] at hinj
      have hnew : ∀ n, w.env.draws ≤ n → n < w.env.draws + (l.length + 1) →
          w.self.Unknown (rt.uuid4 n) := fun n hn hlt =>
        h.unknown hn (hinj.mono (Set.Iio_subset_Iio (hlt.trans_le hle)))
      obtain ⟨objs, i', env', hnormalise, hrun', hprogress, -, hobjs, -⟩ := ingest_done rt w hextract hl
        (hinj.mono (Set.Iio_subset_Iio hle)) hnew
      rw [hrun] at hrun'
      obtain ⟨rfl, hworld⟩ := EStateM.Result.ok.inj hrun'
      obtain ⟨rfl, rfl⟩ := World.mk.inj hworld
      have hsome : normalisedObjects rt ip call w = some objs := by
        rw [normalisedObjects, hnormalise]
      rw [ingestStep, after_ok hrun, report, hrun, hsome]
      exact h.progress (Nat.le_add_right _ _) hprogress hobjs hinj
    · obtain ⟨message, env', hrun, hle⟩ := ingest_raised rt w hextract hl
      rw [ingestStep, after_error hrun, report, hrun, List.append_nil]
      exact h.raised hle

end Step

theorem held_new (rt : Runtime) (schemas : SchemaRegistry)
    (releaseGate : Option PlatformActionReleaseGate) (env : Env) :
    Held rt releaseGate.isSome ⟨.new schemas releaseGate, env⟩ [] where
  gate := rfl
  registry := rfl
  graph := rfl
  history := ⟨[], .nil, rfl⟩
  named := by simp [ingested]
  planes := by simp
  packages := by simp
  evidence := by simp
  accounted := by simp

section Theorem
variable (rt : Runtime) (ip : Interpreter)

theorem run_draws_le (w : World IngestPipeline) (calls : List IngestCall) :
    w.env.draws ≤ (run (ingestStep rt ip) w calls).env.draws :=
  run_invariant (I := fun v => w.env.draws ≤ v.env.draws) (ingestStep rt ip)
    (fun call _ v h => h.trans (ingest_draws_le rt ip call v)) le_rfl

/-- Started on an empty registry and graph, any sequence of calls leaves both with exactly the
objects its results list, each with one version record; a gated pipeline lists with each object the
package that carries it; and every normalised object is ingested or has an error of its own. -/
theorem stores_in_step (schemas : SchemaRegistry) (releaseGate : Option PlatformActionReleaseGate)
    (env : Env) (calls : List IngestCall) (huuid : Set.InjOn rt.uuid4
      (Set.Iio (run (ingestStep rt ip) ⟨.new schemas releaseGate, env⟩ calls).env.draws)) :
    InStep releaseGate.isSome (run (ingestStep rt ip) ⟨.new schemas releaseGate, env⟩ calls).self
      (trace (ingestStep rt ip) (report rt ip) ⟨.new schemas releaseGate, env⟩ calls) := by
  let J (w : World IngestPipeline) (reports : List Report) (calls : List IngestCall) : Prop :=
    Held rt releaseGate.isSome w reports ∧
      Set.InjOn rt.uuid4 (Set.Iio (run (ingestStep rt ip) w calls).env.draws)
  have hstep : ∀ call w reports calls, J w reports (call :: calls) →
      J (ingestStep rt ip call w) (reports ++ report rt ip call w) calls := by
    rintro call w reports calls ⟨hheld, hinj⟩
    refine ⟨hheld.step ip call (hinj.mono (Set.Iio_subset_Iio ?_)), hinj⟩
    exact run_draws_le rt ip (ingestStep rt ip call w) calls
  have hend : J _ ([] ++ trace (ingestStep rt ip) (report rt ip) _ calls) [] :=
    trace_resource (ingestStep rt ip) (report rt ip) hstep
      ⟨held_new rt schemas releaseGate env, huuid⟩
  exact hend.1.inStep

end Theorem

/-- A note on a firewall, as text. -/
def firewallNote : IngestCall where
  artefact := RawArtefact.computeContentHash .reference .ascii
    { artefactId := "note-1"
      sourceSystem := "cmdb"
      sourceUri := none
      format := .text
      rawContent := .text "Firewall risk review"
      submittedBy := "ada"
      metadata := []
      contentHash := "" }
  operationalPlane := "operations"
  ingestedBy := "ada"

theorem stores_in_step_note :
    InStep true (run (ingestStep .reference .ascii)
      ⟨.new Dict.empty (some (.new none none)), .initial "acme"⟩ [firewallNote]).self
      (trace (ingestStep .reference .ascii) (report .reference .ascii)
        ⟨.new Dict.empty (some (.new none none)), .initial "acme"⟩ [firewallNote]) := by
  let w : World IngestPipeline := ⟨.new Dict.empty (some (.new none none)), .initial "acme"⟩
  have hnew : ∀ n, w.env.draws ≤ n → n < w.env.draws + 2 →
      w.self.Unknown (Runtime.reference.uuid4 n) := fun n _ _ =>
    ⟨Dict.not_mem_empty _, Dict.not_mem_empty _, Dict.not_mem_empty _⟩
  let e : Extracted := ⟨.str "Artefact-note-1", .str "Firewall risk review",
    inferTypeFromText .ascii "Firewall risk review" [], .str "core", [], .arr []⟩
  have hextract : extract .ascii firewallNote.artefact = .ok [e] := rfl
  have hconstructible : ∀ e' ∈ [e], Constructible e' := List.forall_mem_singleton.mpr
    ⟨⟨"Artefact-note-1", rfl, by decide⟩, ⟨_, rfl⟩, ⟨_, rfl⟩, [], rfl⟩
  have hinj : Set.InjOn Runtime.reference.uuid4 (Set.Iio (w.env.draws + 2)) :=
    Runtime.reference_uuid4.mono (Set.Iio_subset_Iio (by norm_num [w, Env.initial]))
  obtain ⟨objs, i', env', -, hrun, hprogress, hlength, -⟩ :=
    ingest_done .reference w hextract hconstructible hinj hnew
  have hstep : ingestStep .reference .ascii firewallNote w = ⟨i'.pipeline, env'⟩ := after_ok hrun
  refine stores_in_step .reference .ascii Dict.empty (some (.new none none)) (.initial "acme")
    [firewallNote] (Runtime.reference_uuid4.mono (Set.Iio_subset_Iio ?_))
  rw [run_cons, run_nil, hstep]
  have hbound := hprogress.draws.bound
  rw [hlength] at hbound
  exact hbound.trans (by norm_num [w, Env.initial])

end ControlFabric.Ingress
