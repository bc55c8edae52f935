import ControlFabric.Ingress.Steps

/-! Which artefacts `ingest` returns on. Only `NormalisationError` is caught around the construction
of the control objects, so a field the constructor refuses ends the call, and with it a batch. -/
namespace ControlFabric.Ingress
open Lib Method

def IsName (v : Json) : Prop := ∃ s, v = .str s ∧ s.length ≤ 500

def IsText (v : Json) : Prop := ∃ s, v = .str s

def IsTags (v : Json) : Prop := ∃ tags : List String, v = .arr (tags.map .str)

/-- The fields of a document that become typed fields of a control object have their types, as far
as the document has them. -/
structure WellTypedDict (d : JsonDict) : Prop where
  name : ∀ v ∈ (Json.field d "name").or (Json.field d "title"), IsName v
  description : ∀ v ∈ (Json.field d "description").or (Json.field d "summary"), IsText v
  schemaNamespace : ∀ v ∈ Json.field d "schema_namespace", IsText v
  tags : ∀ v ∈ Json.field d "tags", IsTags v

/-- What `ingest` asks of an artefact: of the documents in JSON that parses, and of the metadata of
any other content that decodes. -/
def WellTyped (ip : Interpreter) (artefact : RawArtefact) : Prop :=
  match artefact.format with
  | .json | .apiResponse => ∀ content data, artefact.rawContent.decoded ip = .ok content →
      ip.loads content = .ok data → ∀ d ∈ documentDicts data, WellTypedDict d
  | .text => ∀ content, artefact.rawContent.decoded ip = .ok content →
      (∀ v ∈ Json.field artefact.metadata "title", IsName v) ∧
        ∀ v ∈ Json.field artefact.metadata "tags", IsTags v
  | .pdf | .csv | .xml | .systemLog => ∀ v ∈ Json.field artefact.metadata "title", IsName v

/-- A result without what is drawn for it. -/
def IngestResult.masked (r : IngestResult) : IngestResult :=
  { r with
    ingestedObjects := r.ingestedObjects.map Ingress.masked
    evidencePackageIds := r.evidencePackageIds.map fun _ => "" }

/-- The results are equal up to fresh identifiers and times. -/
def IngestResult.SameUpToIds (r r' : IngestResult) : Prop := r.masked = r'.masked

section WellTyped
variable {ip : Interpreter} {artefact : RawArtefact}

theorem isName_defaultName (artefact : RawArtefact) {kind : String} (h : kind.length ≤ 8) :
    IsName (.str (defaultName artefact kind)) := by
  refine ⟨_, rfl, ?_⟩
  have hid : (firstChars 8 artefact.artefactId).length ≤ 8 := by
    simp [firstChars]
  have hdash : "-".length = 1 := by decide
  show (kind ++ "-" ++ firstChars 8 artefact.artefactId).length ≤ 500
  rw [String.length_append, String.length_append, hdash]
  omega

theorem forall_dictGet_iff {d : JsonDict} {key : String} {default : Json} {P : Json → Prop}
    (h : P default) : P (dictGet d key default) ↔ ∀ v ∈ Json.field d key, P v := by
  unfold dictGet
  cases Json.field d key with
  | none => simpa using h
  | some v => simp

theorem forall_dictGet_or_iff {d : JsonDict} {key key' : String} {default : Json}
    {P : Json → Prop} (h : P default) : P (dictGet d key (dictGet d key' default)) ↔
      ∀ v ∈ (Json.field d key).or (Json.field d key'), P v := by
  unfold dictGet
  cases Json.field d key with
  | none =>
    cases Json.field d key' with
    | none => simpa using h
    | some v => simp
  | some v => simp

theorem constructible_extractFromDict_iff {d : JsonDict} :
    Constructible (extractFromDict ip artefact d) ↔ WellTypedDict d := by
  have hname : (∃ s, (extractFromDict ip artefact d).name = .str s ∧ s.length ≤ 500) ↔ _ :=
    forall_dictGet_or_iff (P := IsName) (isName_defaultName artefact (by decide))
  have hdescription : (∃ s, (extractFromDict ip artefact d).description = .str s) ↔ _ :=
    forall_dictGet_or_iff (P := IsText) ⟨"", rfl⟩
  have hnamespace : (∃ s, (extractFromDict ip artefact d).schemaNamespace = .str s) ↔ _ :=
    forall_dictGet_iff (P := IsText) ⟨"core", rfl⟩
  have htags : (∃ tags : List String,
      (extractFromDict ip artefact d).tags = .arr (tags.map .str)) ↔ _ :=
    forall_dictGet_iff (P := IsTags) ⟨[], rfl⟩
  constructor
  · intro h
    exact ⟨hname.mp h.name, hdescription.mp h.description, hnamespace.mp h.schemaNamespace,
      htags.mp h.tags⟩
  · intro h
    exact ⟨hname.mpr h.name, hdescription.mpr h.description, hnamespace.mpr h.schemaNamespace,
      htags.mpr h.tags⟩

/-- The artefacts all of whose extracted objects the constructor accepts. -/
theorem wellTyped_iff : WellTyped ip artefact ↔
    ∀ l, extract ip artefact = .ok l → ∀ e ∈ l, Constructible e := by
  have hjson : (∀ content data, artefact.rawContent.decoded ip = .ok content →
      ip.loads content = .ok data → ∀ d ∈ documentDicts data, WellTypedDict d) ↔
        ∀ l, normaliseJson ip artefact = .ok l → ∀ e ∈ l, Constructible e := by
    unfold normaliseJson
    cases hcontent : artefact.rawContent.decoded ip with
    | error e => simp [bind, Except.bind]
    | ok content =>
      cases hdata : ip.loads content with
      | error e =>
        simp only [bind, Except.bind, hdata, reduceCtorEq, false_imp_iff, implies_true, iff_true]
        rintro content' data ⟨⟩ hok
        rw [hdata] at hok
        cases hok
      | ok data =>
        simp only [bind, Except.bind, hdata, pure, Except.pure, Except.ok.injEq, forall_eq',
          List.forall_mem_map, constructible_extractFromDict_iff]
        refine ⟨fun h => h content data rfl hdata, ?_⟩
        rintro h content' data' rfl hok
        obtain rfl := Except.ok.inj (hdata.symm.trans hok)
        exact h
  have htitle : (∃ s, dictGet artefact.metadata "title" (.str (defaultName artefact "Artefact")) =
      .str s ∧ s.length ≤ 500) ↔ ∀ v ∈ Json.field artefact.metadata "title", IsName v :=
    forall_dictGet_iff (P := IsName) (isName_defaultName artefact (by decide))
  have htags : (∃ tags : List String, dictGet artefact.metadata "tags" (.arr []) =
      .arr (tags.map .str)) ↔ ∀ v ∈ Json.field artefact.metadata "tags", IsTags v :=
    forall_dictGet_iff (P := IsTags) ⟨[], rfl⟩
  have htext : (∀ content, artefact.rawContent.decoded ip = .ok content →
      (∀ v ∈ Json.field artefact.metadata "title", IsName v) ∧
        ∀ v ∈ Json.field artefact.metadata "tags", IsTags v) ↔
        ∀ l, normaliseText ip artefact = .ok l → ∀ e ∈ l, Constructible e := by
    unfold normaliseText
    cases hcontent : artefact.rawContent.decoded ip with
    | error e => simp [bind, Except.bind]
    | ok content =>
      rw [← htitle, ← htags]
      simp only [bind, Except.bind, pure, Except.pure, Except.ok.injEq, forall_eq',
        List.forall_mem_singleton]
      exact ⟨fun h => ⟨h.1, ⟨_, rfl⟩, ⟨_, rfl⟩, h.2⟩, fun h => ⟨h.name, h.tags⟩⟩
  have hgeneric : (∀ v ∈ Json.field artefact.metadata "title", IsName v) ↔
      ∀ l, (.ok (normaliseGeneric artefact) : Except PyError _) = .ok l →
        ∀ e ∈ l, Constructible e := by
    rw [← htitle]
    simp only [Except.ok.injEq, forall_eq', normaliseGeneric, List.forall_mem_singleton]
    exact ⟨fun h => ⟨h, ⟨_, rfl⟩, ⟨_, rfl⟩, [], rfl⟩, fun h => h.name⟩
  unfold WellTyped extract
  cases artefact.format with
  | json | apiResponse => exact hjson
  | text => exact htext
  | pdf | csv | xml | systemLog => exact hgeneric

end WellTyped

section Ingest
variable (rt : Runtime) (ip : Interpreter) (call : IngestCall)

/-- Whatever is stored already, the fields of the artefact alone decide whether the call returns. -/
theorem ingest_returns_iff (w : World IngestPipeline) :
    (IngestPipeline.ingest rt ip call).returns w = true ↔ WellTyped ip call.artefact := by
  rw [wellTyped_iff]
  cases hextract : extract ip call.artefact with
  | error e => simp [returns, ingest_failed rt w hextract]
  | ok l =>
    simp only [Except.ok.injEq, forall_eq']
    by_cases hl : ∀ e ∈ l, Constructible e
    · obtain ⟨_, _, _, hrun, -⟩ := ingest_returns rt w hextract hl
      simp only [returns, hrun, true_iff]
      exact hl
    · obtain ⟨_, _, hrun, -⟩ := ingest_raised rt w hextract hl
      simp only [returns, hrun, Bool.false_eq_true, false_iff]
      exact hl

/-- The result of a call, but for what is drawn, when the gate has the given policies. -/
def outcome (policies : Option ActivePolicies) : IngestResult :=
  match extract ip call.artefact with
  | .error e => failedResult rt call e
  | .ok l =>
    let objs := maskedObjects rt (provenance rt ip 0 call.artefact) call.operationalPlane l
    { artefactId := call.artefact.artefactId
      ingestedObjects := call.letThrough rt policies objs
      errors := call.refusals rt policies objs
      evidencePackageIds :=
        if policies.isSome then (call.letThrough rt policies objs).map fun _ => "" else [] }

variable {ip call}

theorem refusals_masked (policies : Option ActivePolicies) (objs : List ControlObject) :
    call.refusals rt policies (objs.map masked) = call.refusals rt policies objs := by
  rw [IngestCall.refusals, List.filterMap_map]
  rfl

theorem letThrough_masked (policies : Option ActivePolicies) (objs : List ControlObject) :
    call.letThrough rt policies (objs.map masked) =
      (call.letThrough rt policies objs).map masked := by
  rw [IngestCall.letThrough, List.filter_map]
  rfl

theorem Progress.outcome {rt : Runtime} {w : World IngestPipeline} {objs : List ControlObject}
    {l : List Extracted} {i' : Ingestion} {env env' : Env}
    (h : Progress rt call objs ⟨w.self, .new call.artefact.artefactId⟩ i' env env')
    (hextract : extract ip call.artefact = .ok l)
    (hmasked : objs.map Ingress.masked =
      maskedObjects rt (provenance rt ip 0 call.artefact) call.operationalPlane l) :
    i'.result.masked = Ingress.outcome rt ip call w.self.policies := by
  have hingested : i'.result.ingestedObjects = call.letThrough rt w.self.policies objs :=
    h.ingested.trans (List.nil_append _)
  have herrors : i'.result.errors = call.refusals rt w.self.policies objs :=
    h.errors.trans (List.nil_append _)
  have hgate : w.self.releaseGate.isSome = w.self.policies.isSome := by
    simp [IngestPipeline.policies]
  have hlisted : i'.result.evidencePackageIds.length =
      if w.self.policies.isSome then (call.letThrough rt w.self.policies objs).length else 0 := by
    rw [← hgate]
    exact h.listed.trans (Nat.zero_add _)
  have hids : i'.result.evidencePackageIds.map (fun _ => "") =
      if w.self.policies.isSome then
        (call.letThrough rt w.self.policies (objs.map Ingress.masked)).map fun _ => ""
      else [] := by
    rw [List.map_const', hlisted, letThrough_masked, List.map_map]
    split
    · exact List.map_const'.symm
    · rfl
  simp only [Ingress.outcome, hextract, IngestResult.masked, hingested, herrors, hids, ← hmasked,
    refusals_masked, letThrough_masked, h.artefactId]
  rfl

/-- On new draws a well-typed artefact is ingested with the same outcome in any state of the stores,
and the draws to come stay new. -/
theorem ingest_outcome (ip : Interpreter) (call : IngestCall) {N : ℕ} {w : World IngestPipeline}
    (hinj : Set.InjOn rt.uuid4 (Set.Iio N))
    (hnew : ∀ n, w.env.draws ≤ n → n < N → w.self.Unknown (rt.uuid4 n))
    (hcall : WellTyped ip call.artefact)
    (hdraws : ∀ l, extract ip call.artefact = .ok l → w.env.draws + (l.length + 1) ≤ N) :
    ∃ result w', (IngestPipeline.ingest rt ip call).run w = .ok result w' ∧
      result.masked = outcome rt ip call w.self.policies ∧ w'.self.policies = w.self.policies ∧
      ∀ n, w'.env.draws ≤ n → n < N → w'.self.Unknown (rt.uuid4 n) := by
  cases hextract : extract ip call.artefact with
  | error e =>
    refine ⟨_, w, ingest_failed rt w hextract, ?_, rfl, hnew⟩
    simp only [outcome, hextract]
    rfl
  | ok l =>
    have hle := hdraws l hextract
    obtain ⟨objs, i', env', -, hrun, hprogress, -, hobjs, hmasked⟩ :=
      ingest_done rt w hextract (wellTyped_iff.mp hcall l hextract)
        (hinj.mono (Set.Iio_subset_Iio hle)) fun n hn hlt => hnew n hn (by omega)
    refine ⟨i'.result, _, hrun, hprogress.outcome hextract hmasked, hprogress.policies, ?_⟩
    intro n hn hlt
    have hdrawn : w.env.draws + (l.length + 1) ≤ env'.draws := hprogress.draws.le
    have hn' : env'.draws ≤ n := hn
    refine hprogress.unknown (fun obj hobj hid => ?_) (hnew n (by omega) hlt)
    -- The identifiers of the objects were drawn before.
    obtain ⟨m, hm, hobjId⟩ := (hobjs obj hobj).2
    have hsame : rt.uuid4 m = rt.uuid4 n := hobjId.symm.trans hid
    have := hinj (Set.mem_Iio.mpr (by omega)) (Set.mem_Iio.mpr hlt) hsame
    omega

end Ingest

section Batch
variable (rt : Runtime) (ip : Interpreter) (plane ingestedBy : String)

theorem after_ingestBatch_cons (artefact : RawArtefact) (rest : List RawArtefact)
    (w : World IngestPipeline) :
    (IngestPipeline.ingestBatch rt ip plane ingestedBy (artefact :: rest)).after w =
      match (IngestPipeline.ingest rt ip ⟨artefact, plane, ingestedBy⟩).run w with
      | .ok _ v => (IngestPipeline.ingestBatch rt ip plane ingestedBy rest).after v
      | .error _ v => v := by
  rw [IngestPipeline.ingestBatch, after_bind]
  cases (IngestPipeline.ingest rt ip ⟨artefact, plane, ingestedBy⟩).run w with
  | error e v => rfl
  | ok result v => exact after_bind_pure _ (fun results => result :: results) v

theorem ingestBatch_draws_le (artefacts : List RawArtefact) (w : World IngestPipeline) :
    w.env.draws ≤
      ((IngestPipeline.ingestBatch rt ip plane ingestedBy artefacts).after w).env.draws := by
  induction artefacts generalizing w with
  | nil => exact le_rfl
  | cons artefact rest ih =>
    have hle := ingest_draws_le rt ip ⟨artefact, plane, ingestedBy⟩ w
    rw [after_ingestBatch_cons]
    cases hrun : (IngestPipeline.ingest rt ip ⟨artefact, plane, ingestedBy⟩).run w with
    | error e v => rwa [after_error hrun] at hle
    | ok result v =>
      rw [after_ok hrun] at hle
      exact hle.trans (ih v)

/-- A batch that returns has ingested every artefact of the list. -/
theorem wellTyped_of_batch {artefacts : List RawArtefact} {w w' : World IngestPipeline}
    {results : List IngestResult}
    (h : (IngestPipeline.ingestBatch rt ip plane ingestedBy artefacts).run w = .ok results w') :
    ∀ a ∈ artefacts, WellTyped ip a := by
  induction artefacts generalizing w w' results with
  | nil => simp
  | cons artefact rest ih =>
    obtain ⟨result, v, hfirst, hrest⟩ := bind_ok.mp h
    obtain ⟨others, u, hothers, -⟩ := bind_ok.mp hrest
    rw [List.forall_mem_cons]
    refine ⟨(ingest_returns_iff rt ip ⟨artefact, plane, ingestedBy⟩ w).mp ?_, ih hothers⟩
    rw [returns, hfirst]

/-- The draws of a batch cover those of each of its artefacts. -/
theorem ingestBatch_covers {artefacts : List RawArtefact} (hall : ∀ a ∈ artefacts, WellTyped ip a)
    (w : World IngestPipeline) : ∀ a ∈ artefacts, ∀ l, extract ip a = .ok l →
      w.env.draws + (l.length + 1) ≤
        ((IngestPipeline.ingestBatch rt ip plane ingestedBy artefacts).after w).env.draws := by
  induction artefacts generalizing w with
  | nil => simp
  | cons artefact rest ih =>
    rw [List.forall_mem_cons] at hall ⊢
    have hle := ingest_draws_le rt ip ⟨artefact, plane, ingestedBy⟩ w
    have hreturns := (ingest_returns_iff rt ip ⟨artefact, plane, ingestedBy⟩ w).mpr hall.1
    cases hrun : (IngestPipeline.ingest rt ip ⟨artefact, plane, ingestedBy⟩).run w with
    | error e v =>
      rw [returns, hrun] at hreturns
      cases hreturns
    | ok result v =>
      rw [after_ok hrun] at hle
      rw [after_ingestBatch_cons, hrun]
      refine ⟨fun l hextract => ?_, fun a ha l hextract => ?_⟩
      · obtain ⟨_, p', env', hrun', hdrawn⟩ :=
          @ingest_returns rt ip ⟨artefact, plane, ingestedBy⟩ l w hextract
            (wellTyped_iff.mp hall.1 l hextract)
        obtain ⟨-, rfl⟩ := EStateM.Result.ok.inj (hrun.symm.trans hrun')
        exact hdrawn.trans (ingestBatch_draws_le rt ip plane ingestedBy rest ⟨p', env'⟩)
      · exact (Nat.add_le_add_right hle _).trans (ih hall.2 v a ha l hextract)

theorem ingestBatch_outcomes {N : ℕ} {artefacts : List RawArtefact} {w : World IngestPipeline}
    (hinj : Set.InjOn rt.uuid4 (Set.Iio N))
    (hnew : ∀ n, w.env.draws ≤ n → n < N → w.self.Unknown (rt.uuid4 n))
    (hall : ∀ a ∈ artefacts, WellTyped ip a)
    (hdraws : ((IngestPipeline.ingestBatch rt ip plane ingestedBy artefacts).after w).env.draws
      ≤ N) :
    ∃ results w', (IngestPipeline.ingestBatch rt ip plane ingestedBy artefacts).run w =
        .ok results w' ∧
      results.map IngestResult.masked = artefacts.map fun a =>
        outcome rt ip ⟨a, plane, ingestedBy⟩ w.self.policies := by
  induction artefacts generalizing w with
  | nil => exact ⟨[], w, rfl, rfl⟩
  | cons artefact rest ih =>
    rw [List.forall_mem_cons] at hall
    have hfirst : ∀ l, extract ip artefact = .ok l → w.env.draws + (l.length + 1) ≤ N :=
      fun l hextract => (ingestBatch_covers rt ip plane ingestedBy (List.forall_mem_cons.mpr hall) w
        artefact List.mem_cons_self l hextract).trans hdraws
    obtain ⟨result, v, hrun, hresult, hpolicies, hnew'⟩ :=
      ingest_outcome rt ip ⟨artefact, plane, ingestedBy⟩ hinj hnew hall.1 hfirst
    have hrest : ((IngestPipeline.ingestBatch rt ip plane ingestedBy rest).after v).env.draws
        ≤ N := by
      rwa [after_ingestBatch_cons, hrun] at hdraws
    obtain ⟨results, w', hruns, hresults⟩ := ih hnew' hall.2 hrest
    refine ⟨result :: results, w', ?_, ?_⟩
    · simp only [IngestPipeline.ingestBatch, EStateM.run_bind, hrun, hruns, run_pure]
    · rw [List.map_cons, List.map_cons, hresult, hresults, hpolicies]

/-- The batch returns, with each result as the artefact alone would have had. -/
def BatchAsAlone (artefacts : List RawArtefact) (w : World IngestPipeline) : Prop :=
  ∃ results w',
    (IngestPipeline.ingestBatch rt ip plane ingestedBy artefacts).run w = .ok results w' ∧
      List.Forall₂ (fun artefact result => ∃ alone v,
        (IngestPipeline.ingest rt ip ⟨artefact, plane, ingestedBy⟩).run w = .ok alone v ∧
          result.SameUpToIds alone) artefacts results

/-- A call returns exactly on a well-typed artefact; and a batch whose draws are new to the stores
returns for each artefact what it has alone exactly when all of them are well typed. -/
theorem malformed_contained_iff (artefact : RawArtefact) (artefacts : List RawArtefact)
    (w : World IngestPipeline)
    (huuid : Set.InjOn rt.uuid4 (Set.Iio
      ((IngestPipeline.ingestBatch rt ip plane ingestedBy artefacts).after w).env.draws))
    (hnew : ∀ n, w.env.draws ≤ n →
      n < ((IngestPipeline.ingestBatch rt ip plane ingestedBy artefacts).after w).env.draws →
        w.self.Unknown (rt.uuid4 n)) :
    ((IngestPipeline.ingest rt ip ⟨artefact, plane, ingestedBy⟩).returns w = true ↔
        WellTyped ip artefact) ∧
      (BatchAsAlone rt ip plane ingestedBy artefacts w ↔ ∀ a ∈ artefacts, WellTyped ip a) := by
  refine ⟨ingest_returns_iff rt ip ⟨artefact, plane, ingestedBy⟩ w, ?_, fun hall => ?_⟩
  · rintro ⟨results, w', hrun, -⟩
    exact wellTyped_of_batch rt ip plane ingestedBy hrun
  · obtain ⟨results, w', hrun, hresults⟩ :=
      ingestBatch_outcomes rt ip plane ingestedBy huuid hnew hall le_rfl
    refine ⟨results, w', hrun, ?_⟩
    have hlength : artefacts.length = results.length := by
      simpa using (congrArg List.length hresults).symm
    refine List.forall₂_iff_get.mpr ⟨hlength, fun k hk hk' => ?_⟩
    have hmem := List.get_mem artefacts ⟨k, hk⟩
    obtain ⟨alone, v, halone, hmasked, -⟩ :=
      ingest_outcome rt ip ⟨artefacts.get ⟨k, hk⟩, plane, ingestedBy⟩ huuid hnew (hall _ hmem)
        (ingestBatch_covers rt ip plane ingestedBy hall w _ hmem)
    refine ⟨alone, v, halone, ?_⟩
    have hsame := congrArg (fun l => l[k]?) hresults
    simp only [List.getElem?_map, List.getElem?_eq_getElem hk, List.getElem?_eq_getElem hk',
      Option.map_some, Option.some.injEq] at hsame
    exact hsame.trans hmasked.symm

end Batch

/-- A JSON text: the name is 7. -/
def namedSeven : String := "\x7b" ++ "\"name\": 7" ++ "\x7d"

/-- A document whose name is a number. -/
def numberedName : RawArtefact where
  artefactId := "doc-1"
  sourceSystem := "cmdb"
  sourceUri := none
  format := .json
  rawContent := .text namedSeven
  submittedBy := "ada"
  metadata := []
  contentHash := ""

/-- A scanned contract. -/
def contract : RawArtefact where
  artefactId := "doc-2"
  sourceSystem := "archive"
  sourceUri := none
  format := .pdf
  rawContent := .text "%PDF-1.7"
  submittedBy := "ada"
  metadata := [("title", .str "Contract")]
  contentHash := ""

/-- Parses the document with the numbered name. -/
def Interpreter.numbered : Interpreter :=
  { Interpreter.ascii with
    loads := fun text =>
      if text = namedSeven then .ok (.obj [("name", .int 7)])
      else .error (.jsonDecodeError "Expecting value: line 1 column 1 (char 0)") }

theorem malformed_contained_iff_contract :
    (IngestPipeline.ingest .reference .numbered ⟨contract, "operations", "ada"⟩).returns
        ⟨.new Dict.empty none, .initial "acme"⟩ = true ∧
      BatchAsAlone .reference .numbered "operations" "ada" [contract]
        ⟨.new Dict.empty none, .initial "acme"⟩ := by
  have htyped : WellTyped .numbered contract := by
    rintro v ⟨⟩
    exact ⟨"Contract", rfl, by decide⟩
  obtain ⟨hreturns, hbatch⟩ := malformed_contained_iff .reference .numbered "operations" "ada"
    contract [contract] ⟨.new Dict.empty none, .initial "acme"⟩
    (Runtime.reference_uuid4.mono (Set.Iio_subset_Iio (by decide +kernel)))
    fun n _ _ => ⟨Dict.not_mem_empty _, Dict.not_mem_empty _, Dict.not_mem_empty _⟩
  exact ⟨hreturns.mpr htyped, hbatch.mpr (List.forall_mem_singleton.mpr htyped)⟩

/-- The document with the numbered name makes `ingest` raise; in a batch it does so after the
contract before it was stored. -/
theorem not_malformed_contained :
    (IngestPipeline.ingest .reference .numbered ⟨numberedName, "operations", "ada"⟩).returns
        ⟨.new Dict.empty none, .initial "acme"⟩ = false ∧
      ¬ BatchAsAlone .reference .numbered "operations" "ada" [contract, numberedName]
        ⟨.new Dict.empty none, .initial "acme"⟩ := by
  have hraises : (IngestPipeline.ingest .reference .numbered
      ⟨numberedName, "operations", "ada"⟩).returns ⟨.new Dict.empty none, .initial "acme"⟩ =
        false := by decide +kernel
  refine ⟨hraises, ?_⟩
  rintro ⟨results, w', hrun, -⟩
  have htyped := wellTyped_of_batch .reference .numbered "operations" "ada" hrun numberedName
    (by simp)
  rw [← ingest_returns_iff .reference .numbered ⟨numberedName, "operations", "ada"⟩
    ⟨.new Dict.empty none, .initial "acme"⟩, hraises] at htyped
  cases htyped

end ControlFabric.Ingress
