import ControlFabric.Lib.Raise
import ControlFabric.Webhook.Receiver

/-! What triggers a reconciliation. The receiver looks for the type of the event among the kinds of
evidence that are to trigger one, not for the kinds of the evidence that the event brought. -/
namespace ControlFabric.Webhook
open Lib Py Ingress Method

/-- The artefact is of a kind that is to trigger a reconciliation. -/
def Converted.Triggering (c : Converted) : Prop :=
  ∃ kind ∈ triggerReconciliationOn, Json.field c.obj "evidence_type" = some (.str kind)

/-- The payload of a generic webhook names such a kind itself. -/
def NamesEvidence (payload : Json) : Prop :=
  ∃ fields, payload = .obj fields ∧ ∃ kind ∈ triggerReconciliationOn,
    Json.field fields "evidence_type" = some (.str kind)

/-- The payload has an issue, from which an artefact is made. -/
def HasIssue (payload : Json) : Prop :=
  ∃ fields, payload = .obj fields ∧ (dictGet fields "issue" (.obj [])).truthy = true

/-- The event type says the same as the evidence, by the source that the webhook comes from. -/
def Aligned (source eventType : String) (payload : Json) : Prop :=
  if source = "github" then eventType ∉ ["workflow_run", "deployment_status"]
  else if source = "jira" then eventType ∈ triggerReconciliationOn → ¬ HasIssue payload
  else if source = "servicenow" then eventType ∉ triggerReconciliationOn
  else if source = "azure_devops" then eventType ∈ "workitem.updated" :: triggerReconciliationOn
  else NamesEvidence payload ↔ eventType ∈ triggerReconciliationOn

namespace WebhookReceiver
variable {rt : Runtime} {ip : Interpreter} {around : Surroundings} {delivery : Delivery}
  {w w' : World WebhookReceiver} {result : WebhookProcessingResult} {payload : Json}

theorem length_rawArtefacts {σ : Type} {converted : List Converted} {w w' : World σ}
    {artefacts : List RawArtefact} (h : (rawArtefacts rt ip converted).run w = .ok artefacts w') :
    artefacts.length = converted.length := by
  induction converted generalizing w w' artefacts with
  | nil =>
    obtain ⟨rfl, -⟩ : artefacts = [] ∧ w = w' := by simpa [rawArtefacts, eq_comm] using h
    rfl
  | cons c rest ih =>
    obtain ⟨artefact, v, -, h⟩ := bind_ok.mp h
    obtain ⟨others, v', hothers, h⟩ := bind_ok.mp h
    obtain ⟨rfl, -⟩ : artefacts = artefact :: others ∧ v' = w' := by simpa [eq_comm] using h
    rw [List.length_cons, List.length_cons, ih hothers]

/-- What is processed is converted, and triggers by the type of the event if anything was made. -/
theorem process_triggered (h : (process rt ip around delivery payload).run w = .ok result w') :
    ∃ converted, convert ip delivery.eventType payload delivery.source = .ok converted ∧
      (result.reconciliationTriggered = true ↔ converted ≠ [] ∧ delivery.autoReconcile = true ∧
        delivery.eventType ∈ triggerReconciliationOn ∧ around.worker = true) := by
  unfold process at h
  obtain ⟨n, v₁, -, h⟩ := bind_ok.mp h
  obtain ⟨-, v₂, -, h⟩ := bind_ok.mp h
  obtain ⟨-, v₃, -, h⟩ := bind_ok.mp h
  obtain ⟨converted, v₄, hconverted, h⟩ := bind_ok.mp h
  obtain ⟨artefacts, v₅, hartefacts, h⟩ := bind_ok.mp h
  refine ⟨converted, (lift_ok.mp hconverted).1, ?_⟩
  have hlength := length_rawArtefacts hartefacts
  split at h
  next hempty =>
    obtain ⟨rfl, -⟩ : result = _ ∧ v₅ = w' := by simpa [eq_comm] using h
    have hnone : converted = [] := by
      rw [List.isEmpty_iff.mp hempty] at hlength
      exact List.length_eq_zero_iff.mp hlength.symm
    simp [hnone]
  next hsome =>
    have hresult : ∃ ingested, result = {
        accepted := true
        eventType := delivery.eventType
        artefactsCreated := ingested
        reconciliationTriggered := delivery.autoReconcile ∧
          delivery.eventType ∈ triggerReconciliationOn ∧ around.worker } := by
      dsimp only at h
      split at h
      · obtain ⟨ingested, v₆, -, h⟩ := bind_ok.mp h
        exact ⟨ingested, (EStateM.Result.ok.inj h).1.symm⟩
      · obtain ⟨ingested, v₆, -, h⟩ := bind_ok.mp h
        exact ⟨ingested, (EStateM.Result.ok.inj h).1.symm⟩
    obtain ⟨ingested, rfl⟩ := hresult
    have hne : converted ≠ [] := by
      rintro rfl
      exact hsome (List.isEmpty_iff.mpr (List.length_eq_zero_iff.mp hlength))
    simp [hne]

/-- What is accepted was parsed and processed. -/
theorem accepted_processed (h : (receive rt ip around delivery).run w = .ok result w')
    (haccepted : result.accepted = true) : ∃ payload v,
      ip.loadsBytes delivery.rawBody = .ok payload ∧
        (process rt ip around delivery payload).run v = .ok result w' := by
  unfold receive at h
  obtain ⟨receiver, v₁, -, h⟩ := bind_ok.mp h
  dsimp only at h
  obtain ⟨verified, v₂, -, h⟩ := bind_ok.mp h
  split at h
  next =>
    obtain rfl := (EStateM.Result.ok.inj h).1
    cases haccepted
  next =>
    split at h
    next =>
      obtain rfl := (EStateM.Result.ok.inj h).1
      cases haccepted
    next payload hpayload => exact ⟨payload, v₂, hpayload, h⟩

end WebhookReceiver

/-! ### What is converted -/

section Convert
variable {ip : Interpreter} {eventType source : String} {payload : Json} {converted : List Converted}

theorem triggering_iff {c : Converted} {kind : String}
    (h : Json.field c.obj "evidence_type" = some (.str kind)) :
    c.Triggering ↔ kind ∈ triggerReconciliationOn := by
  simp [Converted.Triggering, h]

theorem workflowRun_evidence {c : Converted} (h : convertWorkflowRun ip payload = .ok c) :
    Json.field c.obj "evidence_type" = some (.str "ci_result") := by
  simp only [convertWorkflowRun, bind_eq_ok_iff] at h
  obtain ⟨run, -, title, -, number, -, id, -, name, -, status, -, conclusion, -, branch, -, sha, -,
    commit, -, sender, -, triggeredBy, -, repository, -, repo, -, h⟩ := h
  obtain rfl := Except.ok.inj h
  rfl

theorem deploymentStatus_evidence {c : Converted} (h : convertDeploymentStatus ip payload = .ok c) :
    Json.field c.obj "evidence_type" = some (.str "deployment_evidence") := by
  simp only [convertDeploymentStatus, bind_eq_ok_iff] at h
  obtain ⟨dep, -, deployment, -, target, -, reached, -, id, -, environment, -, state, -, head, -,
    sha, -, h⟩ := h
  obtain rfl := Except.ok.inj h
  rfl

/-- Both kinds of events that are converted bring evidence that is to trigger. -/
theorem github_evidence (h : convertGithub ip eventType payload = .ok converted) :
    (converted ≠ [] ↔ eventType ∈ ["workflow_run", "deployment_status"]) ∧
      ((∃ c ∈ converted, c.Triggering) ↔ eventType ∈ ["workflow_run", "deployment_status"]) := by
  unfold convertGithub at h
  split at h
  next hrun =>
    obtain ⟨c, hc, rfl⟩ := map_eq_ok_iff.mp h
    have hkind := (triggering_iff (workflowRun_evidence hc)).mpr (by decide)
    simp [hrun, hkind]
  next hrun =>
    split at h
    next hstatus =>
      obtain ⟨c, hc, rfl⟩ := map_eq_ok_iff.mp h
      have hkind := (triggering_iff (deploymentStatus_evidence hc)).mpr (by decide)
      simp [hstatus, hkind]
    next hstatus =>
      obtain rfl := Except.ok.inj h
      simp [hrun, hstatus]

theorem jiraEvidenceType_not_triggering (issueType : String) :
    jiraEvidenceType issueType ∉ triggerReconciliationOn := by
  unfold jiraEvidenceType
  split_ifs <;> decide

/-- An issue never brings evidence that is to trigger. -/
theorem jira_evidence (h : convertJira ip eventType payload = .ok converted) :
    (converted ≠ [] ↔ HasIssue payload) ∧ ¬ ∃ c ∈ converted, c.Triggering := by
  unfold convertJira at h
  obtain ⟨issue, hissue, h⟩ := bind_eq_ok_iff.mp h
  obtain ⟨fields, rfl, rfl⟩ : ∃ fields, payload = .obj fields ∧
      issue = dictGet fields "issue" (.obj []) := by
    cases payload with
    | obj fields => exact ⟨fields, rfl, (Except.ok.inj hissue).symm⟩
    | _ => cases hissue
  have hhas : HasIssue (.obj fields) ↔ (dictGet fields "issue" (.obj [])).truthy = true := by
    simp [HasIssue]
  rw [hhas]
  split at h
  next hnone =>
    obtain rfl := Except.ok.inj h
    simpa using hnone
  next hsome =>
    simp only [bind_eq_ok_iff] at h
    obtain ⟨details, -, kind, -, issueType, -, lowered, -, title, -, text, -, summary, -, key, -,
      state, -, status, -, person, -, assignee, -, h⟩ := h
    obtain rfl := Except.ok.inj h
    refine ⟨by simpa using hsome, ?_⟩
    rintro ⟨c, hc, htriggering⟩
    obtain rfl := List.mem_singleton.mp hc
    exact jiraEvidenceType_not_triggering lowered ((triggering_iff rfl).mp htriggering)

theorem lookup_servicenow {table : Json} {kind : String}
    (h : lookup [("change_request", "change_request"), ("incident", "incident_ticket")]
      "governance_record" table = .ok kind) : kind ∉ triggerReconciliationOn := by
  cases table with
  | str s =>
    obtain rfl := Except.ok.inj h
    by_cases hchange : s = "change_request"
    · subst hchange
      decide
    · by_cases hincident : s = "incident"
      · subst hincident
        decide
      · simp [List.lookup_cons, beq_false_of_ne hchange, beq_false_of_ne hincident,
          triggerReconciliationOn]
  | arr items => cases h
  | obj items => cases h
  | null => obtain rfl := Except.ok.inj h; decide
  | bool b => obtain rfl := Except.ok.inj h; decide
  | int n => obtain rfl := Except.ok.inj h; decide
  | float q => obtain rfl := Except.ok.inj h; decide

/-- A record never brings evidence that is to trigger. -/
theorem servicenow_evidence (h : convertServicenow ip payload = .ok converted) :
    converted ≠ [] ∧ ¬ ∃ c ∈ converted, c.Triggering := by
  unfold convertServicenow at h
  simp only [bind_eq_ok_iff] at h
  obtain ⟨record, -, table, -, kind, hkind, sys, -, sysId, -, title, -, text, -, description, -,
    number, -, state, -, approval, -, h⟩ := h
  obtain rfl := Except.ok.inj h
  refine ⟨by simp, ?_⟩
  rintro ⟨c, hc, htriggering⟩
  obtain rfl := List.mem_singleton.mp hc
  exact lookup_servicenow hkind ((triggering_iff rfl).mp htriggering)

theorem azureEvidenceType_triggering_iff :
    azureEvidenceType eventType ∈ triggerReconciliationOn ↔ eventType ≠ "workitem.updated" := by
  unfold azureEvidenceType
  by_cases hbuild : eventType = "build.complete"
  · subst hbuild
    decide
  · by_cases hrelease : eventType = "release.deployment.completed"
    · subst hrelease
      decide
    · by_cases hitem : eventType = "workitem.updated"
      · subst hitem
        decide
      · simp [List.lookup_cons, beq_false_of_ne hbuild, beq_false_of_ne hrelease,
          beq_false_of_ne hitem, triggerReconciliationOn, hitem]

/-- Every event but the update of a work item brings evidence that is to trigger. -/
theorem azure_evidence (h : convertAzureDevops ip eventType payload = .ok converted) :
    converted ≠ [] ∧ ((∃ c ∈ converted, c.Triggering) ↔ eventType ≠ "workitem.updated") := by
  unfold convertAzureDevops at h
  simp only [bind_eq_ok_iff] at h
  obtain ⟨resource, -, id, -, number, -, buildId, -, status, -, result, -, definition, -,
    name, -, h⟩ := h
  obtain rfl := Except.ok.inj h
  refine ⟨by simp, ?_⟩
  rw [← azureEvidenceType_triggering_iff]
  constructor
  · rintro ⟨c, hc, htriggering⟩
    obtain rfl := List.mem_singleton.mp hc
    exact (triggering_iff rfl).mp htriggering
  · intro hkind
    exact ⟨_, List.mem_singleton_self _, (triggering_iff rfl).mpr hkind⟩

/-- Leaving other keys out does not change what is found. -/
theorem field_filter {fields : JsonDict} {key : String} {p : String × Json → Bool}
    (h : ∀ v, p (key, v) = true) : Json.field (fields.filter p) key = Json.field fields key := by
  unfold Json.field
  rw [List.find?_filter]
  congr 2
  funext e
  by_cases hkey : e.1 = key
  · obtain ⟨k, v⟩ := e
    obtain rfl : k = key := hkey
    simp [h v]
  · simp [hkey]

/-- The payload of a generic webhook overrides the kind of evidence, by the kind that was read of
it. -/
theorem generic_field {fields : JsonDict}
    (h : convertGeneric eventType (.obj fields) source = .ok converted) :
    ∃ c, converted = [c] ∧ Json.field c.obj "evidence_type" =
      some (dictGet fields "evidence_type" (.str "generic_webhook_event")) := by
  refine ⟨_, (Except.ok.inj h).symm, ?_⟩
  show some ((Json.field (fields.filter fun p => p.1 ∉ ["signature", "secret"])
    "evidence_type").getD (dictGet fields "evidence_type" (.str "generic_webhook_event"))) = _
  rw [field_filter (by simp)]
  unfold dictGet
  cases Json.field fields "evidence_type" <;> rfl

theorem generic_evidence (h : convertGeneric eventType payload source = .ok converted) :
    converted ≠ [] ∧ ((∃ c ∈ converted, c.Triggering) ↔ NamesEvidence payload) := by
  cases payload with
  | obj fields =>
    obtain ⟨c, rfl, hfield⟩ := generic_field h
    refine ⟨by simp, ?_⟩
    simp only [List.mem_singleton, exists_eq_left, Converted.Triggering, NamesEvidence, hfield,
      Json.obj.injEq, exists_eq_left', dictGet]
    cases hnamed : Json.field fields "evidence_type" with
    | none => simp [triggerReconciliationOn]
    | some v => simp
  | _ => cases h

/-- The event type triggers exactly if the evidence is to, for every source, if they are aligned. -/
theorem aligned_iff (h : convert ip eventType payload source = .ok converted) :
    (converted ≠ [] ∧ eventType ∈ triggerReconciliationOn ↔ ∃ c ∈ converted, c.Triggering) ↔
      Aligned source eventType payload := by
  unfold convert at h
  unfold Aligned
  split_ifs at h ⊢ with hgithub hjira hservicenow hazure
  · obtain ⟨hmade, hevidence⟩ := github_evidence h
    rw [hmade, hevidence]
    have hdisjoint : eventType ∈ ["workflow_run", "deployment_status"] →
        eventType ∉ triggerReconciliationOn := by
      intro hmem
      fin_cases hmem <;> decide
    tauto
  · obtain ⟨hmade, hevidence⟩ := jira_evidence h
    rw [hmade, iff_false_right hevidence]
    tauto
  · obtain ⟨hmade, hevidence⟩ := servicenow_evidence h
    rw [iff_false_right hevidence]
    tauto
  · obtain ⟨hmade, hevidence⟩ := azure_evidence h
    rw [hevidence, List.mem_cons]
    have hitem : eventType = "workitem.updated" → eventType ∉ triggerReconciliationOn := by
      rintro rfl
      decide
    tauto
  · obtain ⟨hmade, hevidence⟩ := generic_evidence h
    rw [hevidence]
    tauto

end Convert

namespace WebhookReceiver
variable {rt : Runtime} {ip : Interpreter} {around : Surroundings} {delivery : Delivery}
  {w w' : World WebhookReceiver} {result : WebhookProcessingResult}

/-- An accepted webhook triggers a reconciliation exactly for evidence that is to trigger one, if
and only if the type of the event and the evidence say the same. -/
theorem triggers_on_evidence_iff (h : (receive rt ip around delivery).run w = .ok result w')
    (haccepted : result.accepted = true) (hreconcile : delivery.autoReconcile = true)
    (hworker : around.worker = true) : ∃ payload converted,
      ip.loadsBytes delivery.rawBody = .ok payload ∧
      convert ip delivery.eventType payload delivery.source = .ok converted ∧
      ((result.reconciliationTriggered = true ↔ ∃ c ∈ converted, c.Triggering) ↔
        Aligned delivery.source delivery.eventType payload) := by
  obtain ⟨payload, v, hpayload, hprocess⟩ := accepted_processed h haccepted
  obtain ⟨converted, hconverted, htriggered⟩ := process_triggered hprocess
  refine ⟨payload, converted, hpayload, hconverted, ?_⟩
  rw [htriggered, ← aligned_iff hconverted]
  simp [hreconcile, hworker]

theorem ok_of_accepts (h : accepts rt ip around delivery w = true) : ∃ result w',
    (receive rt ip around delivery).run w = .ok result w' ∧ result.accepted = true := by
  unfold accepts at h
  cases hrun : (receive rt ip around delivery).run w with
  | ok result w' =>
    rw [hrun] at h
    exact ⟨result, w', rfl, h⟩
  | error e w' =>
    rw [hrun] at h
    cases h

/-- A build of which Azure DevOps reports the end. -/
def finishedBuild : Delivery where
  source := "azure_devops"
  eventType := "build.complete"
  rawBody := [0x7b, 0x7d]

theorem accepts_finishedBuild :
    accepts .reference .reference atNoon finishedBuild withSecrets = true := by decide +kernel

theorem triggers_on_evidence_iff_build : ∃ result w',
    (receive .reference .reference atNoon finishedBuild).run withSecrets = .ok result w' ∧
    ∃ payload converted, Interpreter.reference.loadsBytes finishedBuild.rawBody = .ok payload ∧
      convert .reference finishedBuild.eventType payload finishedBuild.source = .ok converted ∧
      ((result.reconciliationTriggered = true ↔ ∃ c ∈ converted, c.Triggering) ↔
        Aligned finishedBuild.source finishedBuild.eventType payload) := by
  obtain ⟨result, w', hrun, haccepted⟩ := ok_of_accepts accepts_finishedBuild
  exact ⟨result, w', hrun, triggers_on_evidence_iff hrun haccepted rfl rfl⟩

/-- The result of the build is evidence that is to trigger, but its event type is no kind of
evidence. -/
theorem build_does_not_trigger : ¬ ∀ (rt : Runtime) (ip : Interpreter) (around : Surroundings)
    (delivery : Delivery) (w w' : World WebhookReceiver) (result : WebhookProcessingResult)
    (payload : Json) (converted : List Converted),
      (receive rt ip around delivery).run w = .ok result w' → result.accepted = true →
      delivery.autoIngest = true → delivery.autoReconcile = true → around.worker = true →
      ip.loadsBytes delivery.rawBody = .ok payload →
      convert ip delivery.eventType payload delivery.source = .ok converted →
        (result.reconciliationTriggered = true ↔ ∃ c ∈ converted, c.Triggering) := by
  intro h
  obtain ⟨result, w', hrun, haccepted⟩ := ok_of_accepts accepts_finishedBuild
  obtain ⟨payload, v, hpayload, hprocess⟩ := accepted_processed hrun haccepted
  obtain ⟨converted, hconverted, htriggered⟩ := process_triggered hprocess
  have hiff := h _ _ _ _ _ _ _ _ _ hrun haccepted rfl rfl rfl hpayload hconverted
  have hevidence : ∃ c ∈ converted, c.Triggering := (azure_evidence hconverted).2.mpr (by decide)
  have hevent : finishedBuild.eventType ∈ triggerReconciliationOn :=
    (htriggered.mp (hiff.mpr hevidence)).2.2.1
  exact absurd hevent (by decide)

end WebhookReceiver
end ControlFabric.Webhook
