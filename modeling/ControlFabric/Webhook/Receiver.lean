import ControlFabric.Webhook.Converter
import ControlFabric.Py.Dumps

/-! The receiver of inbound webhooks: a verified payload is logged, metered, converted, and ingested
through a pipeline of its own. Not every webhook it accepts is authentic. -/
namespace ControlFabric.Webhook
open Lib Py Ingress Method
open Fabric.Reconciliation (PyFloat)

structure WebhookEvent where
  source : String
  eventType : String
  payload : Json
  rawBody : List UInt8
  receivedAt : DateTime
  verified : Bool

structure WebhookProcessingResult where
  accepted : Bool
  eventType : String
  artefactsCreated : ℕ := 0
  reconciliationTriggered : Bool := false
  rejectionReason : String := ""

/-- `_secrets`, whose keys are those of the constructor. -/
structure Secrets where
  github : String
  jira : String
  servicenow : String
  azureDevops : String
  generic : String

/-- `_secrets.get(source, _secrets["generic"])`. -/
def Secrets.get (secrets : Secrets) (source : String) : String :=
  if source = "github" then secrets.github
  else if source = "jira" then secrets.jira
  else if source = "servicenow" then secrets.servicenow
  else if source = "azure_devops" then secrets.azureDevops
  else secrets.generic

structure WebhookReceiver where
  secrets : Secrets
  events : List WebhookEvent

/-- `__init__`, by the environment variables. -/
def WebhookReceiver.new (getenv : String → Option String) : WebhookReceiver where
  secrets := {
    github := (getenv "GITHUB_WEBHOOK_SECRET").getD ((getenv "WEBHOOK_SIGNING_SECRET").getD "")
    jira := (getenv "JIRA_WEBHOOK_SECRET").getD ""
    servicenow := (getenv "SNOW_WEBHOOK_SECRET").getD ""
    azureDevops := (getenv "ADO_WEBHOOK_SECRET").getD ""
    generic := (getenv "WEBHOOK_SIGNING_SECRET").getD "" }
  events := []

def triggerReconciliationOn : List String := ["deployment_evidence", "ci_result"]

/-- The arguments of one `receive`. -/
structure Delivery where
  source : String
  eventType : String
  rawBody : List UInt8
  signature : String := ""
  timestamp : String := ""
  autoIngest : Bool := true
  autoReconcile : Bool := true

/-- What lies around the receiver while it works. -/
structure Surroundings where
  /-- `time.time()` on arrival -/
  arrival : ℚ
  /-- the schemas that a new registry knows -/
  schemas : SchemaRegistry
  /-- `run_scheduled_reconciliation.delay()` returns -/
  worker : Bool

namespace WebhookReceiver
variable (rt : Runtime) (ip : Interpreter) (around : Surroundings) (delivery : Delivery)

def rejected (reason : String) : WebhookProcessingResult :=
  { accepted := false, eventType := delivery.eventType, rejectionReason := reason }

def rawArtefacts {σ : Type} : List Converted → Method σ (List RawArtefact)
  | [] => return []
  | c :: rest => do
    let artefact ← rawArtefact ip rt c
    return artefact :: (← rawArtefacts rest)

/-- The number of objects that a new pipeline makes of the artefacts; 0 if it raises. -/
def ingestNew {σ : Type} (artefacts : List RawArtefact) : Method σ ℕ :=
  tryCatch (do
      let results ← on (fun _ => IngestPipeline.new around.schemas none) (fun _ s => s)
        (IngestPipeline.ingestBatch rt ip.toInterpreter "operations" "ingress-pipeline" artefacts)
      return (results.map fun r => r.ingestedObjects.length).sum)
    fun _ => return 0

/-- What becomes of a verified payload. -/
def process (payload : Json) : Method WebhookReceiver WebhookProcessingResult := do
  let event : WebhookEvent := ⟨delivery.source, delivery.eventType, payload, delivery.rawBody,
    rt.now (← draw), true⟩
  assign fun s => { s with events := s.events ++ [event] }
  meter "webhook_received"
  let converted ← lift (convert ip delivery.eventType payload delivery.source)
  let artefacts ← rawArtefacts rt ip converted
  if artefacts.isEmpty then
    return { accepted := true, eventType := delivery.eventType }
  let ingested ← if delivery.autoIngest then ingestNew rt ip around artefacts else pure 0
  return {
    accepted := true
    eventType := delivery.eventType
    artefactsCreated := ingested
    reconciliationTriggered :=
      delivery.autoReconcile ∧ delivery.eventType ∈ triggerReconciliationOn ∧ around.worker }

def receive : Method WebhookReceiver WebhookProcessingResult := do
  let secret := (← self).secrets.get delivery.source
  let verified ← lift (verify ip delivery.rawBody delivery.signature secret delivery.timestamp
    delivery.source around.arrival)
  if ¬ verified then return rejected delivery "signature_verification_failed"
  match ip.loadsBytes delivery.rawBody with
  | .error _ => return rejected delivery "invalid_json_payload"
  | .ok payload => process rt ip around delivery payload

/-- The receiver accepts the webhook. -/
def accepts (w : World WebhookReceiver) : Bool :=
  match (receive rt ip around delivery).run w with
  | .ok result _ => result.accepted
  | .error _ _ => false

variable {rt ip around delivery} {w : World WebhookReceiver}

/-- Only what is verified is accepted. -/
theorem verify_of_accepts (h : accepts rt ip around delivery w = true) :
    verify ip delivery.rawBody delivery.signature (w.self.secrets.get delivery.source)
      delivery.timestamp delivery.source around.arrival = .ok true := by
  unfold accepts receive at h
  simp only [EStateM.run_bind, run_self] at h
  cases hverify : verify ip delivery.rawBody delivery.signature
      (w.self.secrets.get delivery.source) delivery.timestamp delivery.source around.arrival with
  | error e =>
    rw [hverify] at h
    cases h
  | ok verified =>
    cases verified with
    | true => rfl
    | false =>
      rw [hverify] at h
      cases h

/-- With a secret for the source, an accepted webhook bears the digest of its body and a fresh time
stamp exactly if the time stamp is there and parses and, where the source has its signature not
looked at, the signature is right all the same. -/
theorem accepted_authentic_iff (hsecret : w.self.secrets.get delivery.source ≠ "")
    (haccepts : accepts rt ip around delivery w = true) :
    Signs ip delivery.rawBody delivery.signature (w.self.secrets.get delivery.source)
        delivery.source ∧ Fresh ip delivery.timestamp around.arrival ↔
      (delivery.timestamp ≠ "" ∧ ip.floatOfStr delivery.timestamp ≠ none) ∧
        (Unsigned delivery.source → Signs ip delivery.rawBody delivery.signature
          (w.self.secrets.get delivery.source) delivery.source) :=
  authentic_iff hsecret (verify_of_accepts haccepts)

end WebhookReceiver

/-! ### Deliveries of an empty object -/

/-- Knows the document `{}`, its digest under one secret, and whole numbers. -/
def Interpreter.reference : Interpreter where
  toInterpreter := .ascii
  loadsBytes payload :=
    if payload = [0x7b, 0x7d] then .ok (.obj [])
    else .error (.jsonDecodeError "Expecting value: line 1 column 1 (char 0)")
  dumps _ := "{}"
  hexdigest secret payload :=
    if secret = "s3cret" ∧ payload = [0x7b, 0x7d] then
      "adbde1ce40c89c14215687d5d762a47df6dfaefcfad61e2e86718ffc8498571b"
    else "0000000000000000000000000000000000000000000000000000000000000000"
  floatOfStr text := (int? .ascii text.toList).map fun n => .finite n
  round := id
  unicode := .ascii

def withSecrets : World WebhookReceiver :=
  ⟨.new fun _ => some "s3cret", .initial "default"⟩

def atNoon : Surroundings := ⟨1767268800, Dict.empty, true⟩

/-- A signed delivery, a minute old. -/
def signedDelivery : Delivery where
  source := "deployer"
  eventType := "deployed"
  rawBody := [0x7b, 0x7d]
  signature := "sha256=adbde1ce40c89c14215687d5d762a47df6dfaefcfad61e2e86718ffc8498571b"
  timestamp := "1767268740"
  autoIngest := false

/-- A delivery with no signature and no time stamp. -/
def forgedDelivery : Delivery where
  source := "azure_devops"
  eventType := "build.complete"
  rawBody := [0x7b, 0x7d]
  autoIngest := false

open WebhookReceiver

theorem accepts_signed :
    accepts .reference .reference atNoon signedDelivery withSecrets = true := by decide +kernel

/-- What is signed and in time is authentic. -/
theorem accepted_authentic_signed :
    Signs .reference signedDelivery.rawBody signedDelivery.signature "s3cret"
        signedDelivery.source ∧ Fresh .reference signedDelivery.timestamp atNoon.arrival := by
  refine (accepted_authentic_iff (w := withSecrets) (by decide) accepts_signed).mpr ⟨?_, ?_⟩
  · decide +kernel
  · intro hunsigned
    have hsigned : ¬ Unsigned signedDelivery.source := by
      unfold Unsigned
      decide
    exact absurd hunsigned hsigned

/-- A delivery that shows nothing is accepted. -/
theorem not_accepted_authentic : ¬ ∀ (rt : Runtime) (ip : Interpreter) (around : Surroundings)
    (delivery : Delivery) (w : World WebhookReceiver), w.self.secrets.get delivery.source ≠ "" →
      accepts rt ip around delivery w = true →
        Signs ip delivery.rawBody delivery.signature (w.self.secrets.get delivery.source)
          delivery.source ∧ Fresh ip delivery.timestamp around.arrival := by
  intro h
  have haccepts : accepts .reference .reference atNoon forgedDelivery withSecrets = true := by
    decide +kernel
  obtain ⟨-, hpresent, -⟩ := h .reference .reference atNoon forgedDelivery withSecrets
    (by decide +kernel) haccepts
  exact hpresent rfl

end ControlFabric.Webhook
