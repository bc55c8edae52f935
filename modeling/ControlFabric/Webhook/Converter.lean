import ControlFabric.Ingress.Pipeline
import ControlFabric.Py.Numbers
import ControlFabric.Reconciliation.DomainTypes

/-! The verification of inbound webhooks: one check of the signature for each source, behind a check
of the time stamp against the replay window. -/
namespace ControlFabric.Webhook
open Py Ingress
open Fabric.Reconciliation (PyFloat)

/-- What the library makes of a payload, beside what the ingestion uses. -/
structure Interpreter extends Ingress.Interpreter where
  /-- `json.loads(payload)` -/
  loadsBytes : List UInt8 → Except PyError Json
  /-- `json.dumps(obj)` -/
  dumps : JsonDict → String
  /-- `hmac.new(secret.encode(), payload, hashlib.sha256).hexdigest()` -/
  hexdigest : String → List UInt8 → String
  /-- `float(text)`, `none` being a `ValueError` -/
  floatOfStr : String → Option PyFloat
  /-- the `float` next to the exact result of an operation -/
  round : ℚ → ℚ
  unicode : Unicode

def replayWindowSeconds : ℚ := 300

/-- `hmac.compare_digest` of two strings. -/
def compareDigest (a b : String) : Except PyError Bool :=
  if (a ++ b).toList.all fun c => c.toNat < 128 then .ok (a = b)
  else .error (.typeError "comparing strings with non-ASCII characters is not supported")

/-- `text.replace(sep, "")`; `skip` characters are still to be left out. -/
def without (sep : List Char) : ℕ → List Char → List Char
  | _, [] => []
  | skip + 1, _ :: r => without sep skip r
  | 0, c :: r =>
    if sep.isPrefixOf (c :: r) then without sep (sep.length - 1) r else c :: without sep 0 r

def typeName : Json → String
  | .null => "NoneType"
  | .bool _ => "bool"
  | .int _ => "int"
  | .float _ => "float"
  | .str _ => "str"
  | .arr _ => "list"
  | .obj _ => "dict"

/-- `v.get(key, default)`. -/
def get (v : Json) (key : String) (default : Json) : Except PyError Json :=
  match v with
  | .obj d => .ok (dictGet d key default)
  | _ => .error (.attributeError s!"'{typeName v}' object has no attribute 'get'")

section Verify
variable (ip : Interpreter) (payload : List UInt8) (signature secret timestamp : String)

/-- `text.replace(sep, "").strip()`. -/
def token (sep text : String) : String :=
  String.ofList (strStrip ip.unicode (without sep.toList 0 text.toList))

def verifyGithub : Except PyError Bool :=
  if signature = "" ∨ ¬ "sha256=".toList <+: signature.toList then .ok false
  else compareDigest ("sha256=" ++ ip.hexdigest secret payload) signature

/-- The comparison under the handler; `false` also for what it catches. -/
def payloadSecretMatches : Bool :=
  let compared : Except PyError Bool := do
    let payloadSecret ← get (← ip.loadsBytes payload) "secret" (.str "")
    if ¬ payloadSecret.truthy then return false
    match payloadSecret with
    | .str s => compareDigest s secret
    | v => .error (.typeError
        s!"unsupported operand types(s) or combination of types: '{typeName v}' and 'str'")
  match compared with
  | .ok equal => equal
  | .error _ => false

def verifyJira : Except PyError Bool :=
  if secret = "" then .ok true
  else if payloadSecretMatches ip payload secret then .ok true
  else compareDigest (ip.hexdigest secret payload) secret

def verifyServicenow : Except PyError Bool :=
  if secret = "" then .ok true
  else compareDigest (ip.hexdigest secret payload) (token ip "Bearer " signature)

/-- Azure DevOps is taken to have authenticated itself by its headers. -/
def verifyAzureDevops : Except PyError Bool := if secret = "" then .ok true else .ok true

def verifyGeneric : Except PyError Bool :=
  if secret = "" then .ok true
  else compareDigest (ip.hexdigest secret payload) (token ip "sha256=" signature)

/-- The age of a time stamp at the time of arrival. -/
def age (arrival t : ℚ) : ℚ := |ip.round (arrival - t)|

def checkReplay (arrival : ℚ) : Bool :=
  if timestamp = "" then true
  else match ip.floatOfStr timestamp with
    | some (.finite t) => age ip arrival t < replayWindowSeconds
    | some .nonFinite => false
    | none => true

def verify (source : String) (arrival : ℚ) : Except PyError Bool :=
  if secret = "" then .ok true
  else if ¬ checkReplay ip timestamp arrival then .ok false
  else if source = "github" then verifyGithub ip payload signature secret
  else if source = "jira" then verifyJira ip payload secret
  else if source = "servicenow" then verifyServicenow ip payload signature secret
  else if source = "azure_devops" then verifyAzureDevops secret
  else verifyGeneric ip payload signature secret

/-! ### What a verified webhook shows -/

/-- The signature is the digest of the body under the secret, in the form that the source uses. -/
def Signs (source : String) : Prop :=
  if source = "github" then signature = "sha256=" ++ ip.hexdigest secret payload
  else if source = "servicenow" then token ip "Bearer " signature = ip.hexdigest secret payload
  else token ip "sha256=" signature = ip.hexdigest secret payload

/-- The time stamp is there, parses, and lies within the replay window. -/
def Fresh (arrival : ℚ) : Prop :=
  timestamp ≠ "" ∧ ∃ t, ip.floatOfStr timestamp = some (.finite t) ∧
    age ip arrival t < replayWindowSeconds

/-- The sources whose signatures are not looked at. -/
def Unsigned (source : String) : Prop := source = "jira" ∨ source = "azure_devops"

variable {ip payload signature secret timestamp}

theorem eq_of_compareDigest {a b : String} (h : compareDigest a b = .ok true) : a = b := by
  unfold compareDigest at h
  split at h
  · exact of_decide_eq_true (Except.ok.inj h)
  · cases h

theorem eq_of_verifyGithub (h : verifyGithub ip payload signature secret = .ok true) :
    signature = "sha256=" ++ ip.hexdigest secret payload := by
  unfold verifyGithub at h
  split at h
  · cases h
  · exact (eq_of_compareDigest h).symm

theorem eq_of_verifyServicenow (hsecret : secret ≠ "")
    (h : verifyServicenow ip payload signature secret = .ok true) :
    token ip "Bearer " signature = ip.hexdigest secret payload := by
  unfold verifyServicenow at h
  rw [if_neg hsecret] at h
  exact (eq_of_compareDigest h).symm

theorem eq_of_verifyGeneric (hsecret : secret ≠ "")
    (h : verifyGeneric ip payload signature secret = .ok true) :
    token ip "sha256=" signature = ip.hexdigest secret payload := by
  unfold verifyGeneric at h
  rw [if_neg hsecret] at h
  exact (eq_of_compareDigest h).symm

/-- A time stamp that passes is fresh, if it is there and parses. -/
theorem fresh_of_checkReplay {arrival : ℚ} (h : checkReplay ip timestamp arrival = true)
    (hpresent : timestamp ≠ "") (hparses : ip.floatOfStr timestamp ≠ none) :
    Fresh ip timestamp arrival := by
  unfold checkReplay at h
  rw [if_neg hpresent] at h
  refine ⟨hpresent, ?_⟩
  cases hfloat : ip.floatOfStr timestamp with
  | none => exact absurd hfloat hparses
  | some x =>
    rw [hfloat] at h
    cases x with
    | finite t => exact ⟨t, rfl, of_decide_eq_true h⟩
    | nonFinite => cases h

theorem checkReplay_of_verify {source : String} {arrival : ℚ} (hsecret : secret ≠ "")
    (h : verify ip payload signature secret timestamp source arrival = .ok true) :
    checkReplay ip timestamp arrival = true := by
  unfold verify at h
  rw [if_neg hsecret] at h
  by_contra hreplay
  rw [if_pos hreplay] at h
  cases h

/-- The signature of a verified webhook is right, unless the source is one of the two. -/
theorem signs_of_verify {source : String} {arrival : ℚ} (hsecret : secret ≠ "")
    (h : verify ip payload signature secret timestamp source arrival = .ok true)
    (hsigned : ¬ Unsigned source) : Signs ip payload signature secret source := by
  have hreplay := checkReplay_of_verify hsecret h
  obtain ⟨hjira, hazure⟩ := not_or.mp hsigned
  unfold verify at h
  rw [if_neg hsecret, if_neg (not_not.mpr hreplay), if_neg hjira, if_neg hazure] at h
  unfold Signs
  by_cases hgithub : source = "github"
  · rw [if_pos hgithub] at h ⊢
    exact eq_of_verifyGithub h
  · rw [if_neg hgithub] at h ⊢
    by_cases hservicenow : source = "servicenow"
    · rw [if_pos hservicenow] at h ⊢
      exact eq_of_verifyServicenow hsecret h
    · rw [if_neg hservicenow] at h ⊢
      exact eq_of_verifyGeneric hsecret h

/-- A verified webhook is authentic exactly if its time stamp is there and parses and, where the
signature is not looked at, it happens to be right. -/
theorem authentic_iff {source : String} {arrival : ℚ} (hsecret : secret ≠ "")
    (h : verify ip payload signature secret timestamp source arrival = .ok true) :
    Signs ip payload signature secret source ∧ Fresh ip timestamp arrival ↔
      (timestamp ≠ "" ∧ ip.floatOfStr timestamp ≠ none) ∧
        (Unsigned source → Signs ip payload signature secret source) := by
  constructor
  · rintro ⟨hsigns, hpresent, t, hfloat, -⟩
    exact ⟨⟨hpresent, by simp [hfloat]⟩, fun _ => hsigns⟩
  · rintro ⟨⟨hpresent, hparses⟩, hunsigned⟩
    refine ⟨?_, fresh_of_checkReplay (checkReplay_of_verify hsecret h) hpresent hparses⟩
    by_cases hsource : Unsigned source
    · exact hunsigned hsource
    · exact signs_of_verify hsecret h hsource

end Verify
end ControlFabric.Webhook

/-! The conversion of webhook payloads to artefacts. A payload is any JSON value: what is read of a
value that is no dict, or cut from a value that is no sequence, raises. -/
namespace ControlFabric.Webhook
open Py Ingress Method

/-- `v or default`. -/
def orElse (v default : Json) : Json := if v.truthy then v else default

/-- `v[:n]`. -/
def slice (n : ℕ) : Json → Except PyError Json
  | .str s => .ok (.str (firstChars n s))
  | .arr items => .ok (.arr (items.take n))
  | .obj _ => .error (.typeError "unhashable type: 'slice'")
  | v => .error (.typeError s!"'{typeName v}' object is not subscriptable")

/-- `v.lower()`. -/
def lower (ip : Interpreter) : Json → Except PyError String
  | .str s => .ok (ip.lower s)
  | v => .error (.attributeError s!"'{typeName v}' object has no attribute 'lower'")

/-- `table.get(v, default)` of a dict with strings as its keys. -/
def lookup (table : List (String × String)) (default : String) : Json → Except PyError String
  | .str s => .ok ((table.lookup s).getD default)
  | .arr _ => .error (.typeError "unhashable type: 'list'")
  | .obj _ => .error (.typeError "unhashable type: 'dict'")
  | _ => .ok default

/-- `part in text`. -/
def occursIn (part text : String) : Bool := part.toList <:+: text.toList

/-- `{**d, **e}`: a key of both keeps its place and takes its value from the second. -/
def update (d e : JsonDict) : JsonDict :=
  (d.map fun p => (p.1, dictGet e p.1 p.2)) ++ e.filter fun p => (Json.field d p.1).isNone

/-- What an artefact is made of. -/
structure Converted where
  sourceSystem : String
  obj : JsonDict
  submittedBy : String

section Convert
variable (ip : Interpreter) (eventType : String) (payload : Json)

def convertWorkflowRun : Except PyError Converted := do
  let run ← get payload "workflow_run" (.obj [])
  let title ← get run "name" .null
  let runNumber ← get run "run_number" .null
  let runId ← get run "id" (.str "")
  let workflowName ← get run "name" (.str "")
  let status ← get run "status" (.str "")
  let conclusion ← get run "conclusion" (.str "")
  let branch ← get run "head_branch" (.str "")
  let commitSha ← slice 12 (← get run "head_sha" (.str ""))
  let triggeredBy ← get (orElse (← get payload "sender" .null) (.obj [])) "login" (.str "unknown")
  let repo ← get (← get payload "repository" (.obj [])) "full_name" (.str "")
  return {
    sourceSystem := s!"github/{ip.str repo}"
    obj := [("name", .str s!"GitHub Actions: {ip.str title} #{ip.str runNumber}"),
      ("object_type", .str "asset"), ("description", .str "ci_result"),
      ("run_id", .str (ip.str runId)), ("workflow_name", workflowName), ("status", status),
      ("conclusion", conclusion), ("branch", branch), ("commit_sha", commitSha),
      ("triggered_by", triggeredBy), ("evidence_type", .str "ci_result"), ("repo", repo),
      ("event_source", .str "webhook")]
    submittedBy := "github-webhook" }

def convertDeploymentStatus : Except PyError Converted := do
  let dep ← get payload "deployment_status" (.obj [])
  let deployment ← get payload "deployment" (.obj [])
  let target ← get deployment "environment" .null
  let reached ← get dep "state" .null
  let deploymentId ← get deployment "id" (.str "")
  let environment ← get deployment "environment" (.str "")
  let state ← get dep "state" (.str "")
  let sha ← slice 12 (← get deployment "sha" (.str ""))
  return {
    sourceSystem := "github/deployment"
    obj := [("name", .str s!"GitHub Deployment: {ip.str target} — {ip.str reached}"),
      ("object_type", .str "asset"), ("description", .str "deployment_evidence"),
      ("deployment_id", .str (ip.str deploymentId)), ("environment", environment),
      ("state", state), ("sha", sha), ("evidence_type", .str "deployment_evidence"),
      ("event_source", .str "webhook")]
    submittedBy := "github-webhook" }

def convertGithub : Except PyError (List Converted) :=
  if eventType = "workflow_run" then (fun c => [c]) <$> convertWorkflowRun ip payload
  else if eventType = "deployment_status" then (fun c => [c]) <$> convertDeploymentStatus ip payload
  else .ok []

/-- The kind of evidence that an issue is, by its type in lower case. -/
def jiraEvidenceType (issueType : String) : String :=
  if occursIn "change" issueType then "change_request"
  else if occursIn "incident" issueType then "incident_ticket"
  else "approval_record"

def convertJira : Except PyError (List Converted) := do
  let issue ← get payload "issue" (.obj [])
  if ¬ issue.truthy then return []
  let fields ← get issue "fields" (.obj [])
  let issueType ← get (orElse (← get fields "issuetype" .null) (.obj [])) "name" (.str "")
  let evidenceType := jiraEvidenceType (← lower ip issueType)
  let title ← get issue "key" .null
  let summary ← slice 80 (orElse (← get fields "summary" .null) (.str ""))
  let issueKey ← get issue "key" (.str "")
  let status ← get (orElse (← get fields "status" .null) (.obj [])) "name" (.str "")
  let assignee ← get (orElse (← get fields "assignee" .null) (.obj [])) "displayName" .null
  return [{
    sourceSystem := "jira/webhook"
    obj := [("name", .str s!"Jira {ip.str title}: {ip.str summary}"),
      ("object_type", .str "operational_policy"), ("description", .str evidenceType),
      ("issue_key", issueKey), ("issue_type", issueType), ("status", status),
      ("assignee", orElse assignee (.str "unassigned")), ("event_type", .str eventType),
      ("evidence_type", .str evidenceType), ("event_source", .str "webhook")]
    submittedBy := "jira-webhook" }]

def convertServicenow : Except PyError (List Converted) := do
  let record ← get payload "record" payload
  let table ← get payload "table" (.str "change_request")
  let evidenceType ← lookup [("change_request", "change_request"), ("incident", "incident_ticket")]
    "governance_record" table
  let sysId ← slice 8 (← get record "sys_id" (.str ""))
  let title ← get record "number" sysId
  let shortDescription ← slice 80 (← get record "short_description" (.str ""))
  let number ← get record "number" (.str "")
  let state ← get record "state" (.str "")
  let approval ← get record "approval" (.str "")
  return [{
    sourceSystem := "servicenow/webhook"
    obj := [("name", .str s!"ServiceNow {ip.str title}: {ip.str shortDescription}"),
      ("object_type", .str "operational_policy"), ("description", .str evidenceType),
      ("record_number", number), ("table", table), ("state", state), ("approval", approval),
      ("evidence_type", .str evidenceType), ("event_source", .str "webhook")]
    submittedBy := "snow-webhook" }]

def azureEvidenceType : String :=
  ([("build.complete", "ci_result"), ("release.deployment.completed", "deployment_evidence"),
    ("workitem.updated", "change_request")].lookup eventType).getD "ci_result"

def convertAzureDevops : Except PyError (List Converted) := do
  let resource ← get payload "resource" (.obj [])
  let buildNumber ← get resource "buildNumber" (← get resource "id" (.str ""))
  let buildId ← get resource "id" (.str "")
  let result ← get resource "result" (← get resource "status" (.str ""))
  let definitionName ← get (orElse (← get resource "definition" .null) (.obj [])) "name" (.str "")
  return [{
    sourceSystem := "azure-devops/webhook"
    obj := [("name", .str s!"ADO {eventType}: {ip.str buildNumber}"),
      ("object_type", .str "asset"), ("description", .str (azureEvidenceType eventType)),
      ("build_id", .str (ip.str buildId)), ("result", result),
      ("definition_name", definitionName), ("evidence_type", .str (azureEvidenceType eventType)),
      ("event_source", .str "webhook")]
    submittedBy := "ado-webhook" }]

def convertGeneric (source : String) : Except PyError (List Converted) :=
  match payload with
  | .obj fields => .ok [{
      sourceSystem := s!"webhook/{source}"
      obj := update [("name", .str s!"Webhook: {source}/{eventType}"),
          ("object_type", .str "asset"), ("description", .str "generic_webhook_event"),
          ("event_type", .str eventType), ("source", .str source),
          ("evidence_type", dictGet fields "evidence_type" (.str "generic_webhook_event")),
          ("event_source", .str "webhook")]
        (fields.filter fun p => p.1 ∉ ["signature", "secret"])
      submittedBy := "generic-webhook" }]
  | v => .error (.attributeError s!"'{typeName v}' object has no attribute 'get'")

def convert (source : String) : Except PyError (List Converted) :=
  if source = "github" then convertGithub ip eventType payload
  else if source = "jira" then convertJira ip eventType payload
  else if source = "servicenow" then convertServicenow ip payload
  else if source = "azure_devops" then convertAzureDevops ip eventType payload
  else convertGeneric eventType payload source

/-- `RawArtefact(...)` of what was converted. -/
def rawArtefact {σ : Type} (rt : Runtime) (c : Converted) : Method σ RawArtefact := do
  let n ← draw
  return RawArtefact.computeContentHash rt ip.toInterpreter {
    artefactId := rt.uuid4 n
    sourceSystem := c.sourceSystem
    sourceUri := none
    format := .json
    rawContent := .text (ip.dumps c.obj)
    submittedBy := c.submittedBy
    metadata := []
    contentHash := "" }

end Convert
end ControlFabric.Webhook
