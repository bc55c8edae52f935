import ControlFabric.Registry.HashBinding
import ControlFabric.Graph.Store

/-! Raw artefacts and their normalisation into control objects. Strings hold no lone surrogates, and
an infinity or a NaN that `json.loads` accepts counts as some other float. -/
namespace ControlFabric.Ingress
open Lib Method Py

/-- What the interpreter and its libraries make of texts, bytes and values. -/
structure Interpreter where
  /-- `json.loads(text)` -/
  loads : String → Except PyError Json
  /-- `payload.decode()` -/
  decode : List UInt8 → Except PyError String
  /-- `hashlib.sha256(payload).hexdigest()` -/
  sha256Bytes : List UInt8 → String
  /-- `text.lower()` -/
  lower : String → String
  /-- `str(v)` -/
  str : Json → String

/-- Texts in ASCII, none of them JSON. -/
def Interpreter.ascii : Interpreter where
  loads _ := .error (.jsonDecodeError "Expecting value: line 1 column 1 (char 0)")
  decode payload := .ok (String.ofList (payload.map fun b => Char.ofNat b.toNat))
  sha256Bytes payload := Runtime.reference.sha256
    (String.ofList (payload.map fun b => Char.ofNat b.toNat))
  lower text := text.toLower
  str
    | .str s => s
    | _ => ""

/-- `text[:n]`. -/
def firstChars (n : ℕ) (text : String) : String := String.ofList (text.toList.take n)

/-- `v`, when it is a string. -/
def str? : Json → Option String
  | .str s => some s
  | _ => none

inductive ArtefactFormat where
  | pdf
  | json
  | csv
  | xml
  | text
  | apiResponse
  | systemLog
  deriving DecidableEq

inductive NormalisationStatus where
  | pending
  | normalised
  | failed
  | quarantined
  deriving DecidableEq

inductive RawContent where
  | text (content : String)
  | bytes (payload : List UInt8)

/-- `hashlib.sha256(content).hexdigest()` of the encoded content. -/
def RawContent.digest (rt : Runtime) (ip : Interpreter) : RawContent → String
  | .text content => rt.sha256 content
  | .bytes payload => ip.sha256Bytes payload

/-- The content as text. -/
def RawContent.decoded (ip : Interpreter) : RawContent → Except PyError String
  | .text content => .ok content
  | .bytes payload => ip.decode payload

structure RawArtefact where
  artefactId : String
  sourceSystem : String
  sourceUri : Option String
  format : ArtefactFormat
  rawContent : RawContent
  submittedBy : String
  metadata : JsonDict
  contentHash : String

def RawArtefact.computeContentHash (rt : Runtime) (ip : Interpreter) (artefact : RawArtefact) :
    RawArtefact := { artefact with contentHash := artefact.rawContent.digest rt ip }

/-- One of the dicts in `extracted_objects`; the fields kept as `Json` are checked by the
constructor of the control object only. -/
structure Extracted where
  name : Json
  description : Json
  objectType : ControlObjectType
  schemaNamespace : Json
  attributes : JsonDict
  tags : Json

structure NormalisationResult where
  artefactId : String
  status : NormalisationStatus
  extractedObjects : List Extracted
  extractionErrors : List String

/-! ### Extraction -/

/-- `_TYPE_HINTS`, in its order. -/
def typeHints : List (String × ControlObjectType) :=
  [("regulation", .regulatoryMandate), ("mandate", .regulatoryMandate),
    ("gdpr", .regulatoryMandate), ("compliance", .complianceRequirement),
    ("requirement", .complianceRequirement), ("risk", .riskControl), ("control", .riskControl),
    ("vulnerability", .vulnerability), ("vuln", .vulnerability), ("cve", .vulnerability),
    ("security", .securityControl), ("policy", .operationalPolicy),
    ("technical", .technicalControl), ("asset", .asset), ("process", .process)]

/-- `d.get(key, default)`. -/
def dictGet (d : JsonDict) (key : String) (default : Json) : Json :=
  (Json.field d key).getD default

section Extraction
variable (ip : Interpreter) (artefact : RawArtefact)

def inferTypeFromText (text : String) (metadata : JsonDict) : ControlObjectType :=
  let textLower := ip.lower text
  match (Json.field metadata "object_type").bind fun v => (str? v).bind ControlObjectType.ofValue with
  | some objectType => objectType
  | none =>
    match typeHints.find? fun hint => hint.1.toList <:+: textLower.toList with
    | some hint => hint.2
    | none => .asset

/-- The name of what has none: the kind and the first eight characters of the artefact's
identifier. -/
def defaultName (kind : String) : String := s!"{kind}-{firstChars 8 artefact.artefactId}"

def extractFromDict (data : JsonDict) : Extracted where
  name := dictGet data "name" (dictGet data "title" (.str (defaultName artefact "Object")))
  description := dictGet data "description" (dictGet data "summary" (.str ""))
  objectType := inferTypeFromText ip (ip.str (dictGet data "name" (.str "")) ++ " " ++
    ip.str (dictGet data "type" (.str "")) ++ " " ++
    ip.str (dictGet data "description" (.str ""))) data
  schemaNamespace := dictGet data "schema_namespace" (.str "core")
  attributes := data.filter fun p => p.1 ∉ ["name", "title", "description", "type"]
  tags := dictGet data "tags" (.arr [])

/-- The dicts a parsed document stands for: the document, or those among the items of a list. -/
def documentDicts : Json → List JsonDict
  | .arr items => items.filterMap fun
    | .obj d => some d
    | _ => none
  | .obj d => [d]
  | _ => []

def normaliseJson : Except PyError (List Extracted) := do
  let content ← artefact.rawContent.decoded ip
  let data ← ip.loads content
  return (documentDicts data).map (extractFromDict ip artefact)

def normaliseText : Except PyError (List Extracted) := do
  let content ← artefact.rawContent.decoded ip
  return [{
    name := dictGet artefact.metadata "title" (.str (defaultName artefact "Artefact"))
    description := .str (firstChars 500 content)
    objectType := inferTypeFromText ip content artefact.metadata
    schemaNamespace := .str "core"
    attributes := artefact.metadata
    tags := dictGet artefact.metadata "tags" (.arr []) }]

def normaliseApiResponse : Except PyError (List Extracted) := normaliseJson ip artefact

def normaliseGeneric : List Extracted :=
  [{
    name := dictGet artefact.metadata "title" (.str (defaultName artefact "Artefact"))
    description := .str s!"Ingested from {artefact.sourceSystem}"
    objectType := .asset
    schemaNamespace := .str "core"
    attributes := artefact.metadata
    tags := .arr [] }]

def extract : Except PyError (List Extracted) :=
  match artefact.format with
  | .json => normaliseJson ip artefact
  | .text => normaliseText ip artefact
  | .apiResponse => normaliseApiResponse ip artefact
  | .pdf | .csv | .xml | .systemLog => .ok (normaliseGeneric artefact)

/-- Never raises. -/
def normalise : NormalisationResult :=
  match extract ip artefact with
  | .ok extracted => ⟨artefact.artefactId, .normalised, extracted, []⟩
  | .error e => ⟨artefact.artefactId, .failed, [], [e.message]⟩

end Extraction

/-! ### Construction -/

def textField (loc : String) (v : Json) : Except (List String) String :=
  match str? v with
  | some s => .ok s
  | none => .error [s!"{loc}: Input should be a valid string"]

def nameField (v : Json) : Except (List String) String := do
  let s ← textField "name" v
  if 500 < s.length then throw ["name: String should have at most 500 characters"]
  return s

def tagsField : Json → Except (List String) (List String)
  | .arr items =>
    match items.mapM str? with
    | some tags => .ok tags
    | none => .error ((items.zipIdx.filter fun p => (str? p.1).isNone).map fun p =>
        s!"tags.{p.2}: Input should be a valid string")
  | _ => .error ["tags: Input should be a valid list"]

/-- The errors a field contributes to the `ValidationError`. -/
def fieldErrors {α : Type} : Except (List String) α → List String
  | .ok _ => []
  | .error errors => errors

section Construction
variable (rt : Runtime) (ip : Interpreter) {σ : Type}

def provenance (n : ℕ) (artefact : RawArtefact) : ControlObjectProvenance where
  sourceSystem := artefact.sourceSystem
  sourceUri := artefact.sourceUri
  sourceHash := artefact.rawContent.digest rt ip
  ingestedBy := artefact.submittedBy
  ingestedAt := rt.now n
  originIp := none

/-- The control object of the checked fields. -/
def build (n : ℕ) (source : ControlObjectProvenance) (operationalPlane : String) (e : Extracted)
    (name description schemaNamespace : String) (tags : List String) : ControlObject :=
  ControlObject.computeObjectHash rt
    { ControlObject.fields rt n e.objectType name schemaNamespace source operationalPlane with
      description := description
      attributes := e.attributes
      tags := tags }

/-- `ControlObject(...)` of what was extracted. -/
def construct (n : ℕ) (source : ControlObjectProvenance) (operationalPlane : String)
    (e : Extracted) : Except PyError ControlObject :=
  match nameField e.name, textField "description" e.description,
    textField "schema_namespace" e.schemaNamespace, tagsField e.tags with
  | .ok name, .ok description, .ok schemaNamespace, .ok tags =>
    .ok (build rt n source operationalPlane e name description schemaNamespace tags)
  | name, description, schemaNamespace, tags =>
    .error (.validationError ("\n".intercalate (fieldErrors name ++ fieldErrors description ++
      fieldErrors schemaNamespace ++ fieldErrors tags)))

/-- The control objects of what was extracted, each with a draw of its own. -/
def constructAll (source : ControlObjectProvenance) (operationalPlane : String) :
    List Extracted → Method σ (List ControlObject)
  | [] => return []
  | e :: rest => do
    let obj ← lift (construct rt (← draw) source operationalPlane e)
    return obj :: (← constructAll source operationalPlane rest)

def normaliseToObjects (artefact : RawArtefact) (operationalPlane : String) :
    Method σ (List ControlObject) := do
  let result := normalise ip artefact
  if result.status ≠ .normalised then
    raise (.normalisationError
      s!"Normalisation failed: {reprList rt.isPrintable result.extractionErrors}")
  let source := provenance rt ip (← draw) artefact
  constructAll rt source operationalPlane result.extractedObjects

end Construction
end ControlFabric.Ingress

/-! The ingest pipeline: artefacts are normalised, and each object goes through the gate, the
registry and the graph. -/
namespace ControlFabric.Ingress
open Lib Method Py

structure IngestResult where
  artefactId : String
  ingestedObjects : List ControlObject
  errors : List String
  evidencePackageIds : List String

def IngestResult.new (artefactId : String) : IngestResult := ⟨artefactId, [], [], []⟩

structure IngestPipeline where
  registry : ObjectRegistry
  graph : ControlGraphStore
  releaseGate : Option PlatformActionReleaseGate

/-- A pipeline in the middle of `ingest`, with the result it is filling. -/
structure Ingestion where
  pipeline : IngestPipeline
  result : IngestResult

/-- The arguments of one `ingest`. -/
structure IngestCall where
  artefact : RawArtefact
  operationalPlane : String
  ingestedBy : String

namespace IngestCall
variable (call : IngestCall) (obj : ControlObject)

/-- What is submitted to the gate for an object. -/
def submission : Submission where
  actionType := "ingest_control_object"
  proposedPayload := [("object_type", .str obj.objectType.value), ("name", .str obj.name),
    ("operational_plane", .str call.operationalPlane),
    ("source_system", .str call.artefact.sourceSystem)]
  requestedBy := call.ingestedBy
  origin := .apiRequest
  evidenceReferences := some [call.artefact.contentHash]
  provenanceChain := some [call.artefact.artefactId]
  executor := none

/-- The reason an object is registered with. -/
def reason : String := s!"Ingested from {call.artefact.sourceSystem}"

end IngestCall

namespace Ingestion
variable {α : Type}

def onRegistry (m : Method ObjectRegistry α) : Method Ingestion α :=
  on (fun i => i.pipeline.registry)
    (fun registry i => { i with pipeline := { i.pipeline with registry := registry } }) m

def onGraph (m : Method ControlGraphStore α) : Method Ingestion α :=
  on (fun i => i.pipeline.graph)
    (fun graph i => { i with pipeline := { i.pipeline with graph := graph } }) m

def onGate (gate : PlatformActionReleaseGate) (m : Method PlatformActionReleaseGate α) :
    Method Ingestion α :=
  on (fun _ => gate)
    (fun gate i => { i with pipeline := { i.pipeline with releaseGate := some gate } }) m

def onResult (f : IngestResult → IngestResult) : Method Ingestion Unit :=
  assign fun i => { i with result := f i.result }

def addError (message : String) : Method Ingestion Unit :=
  onResult fun r => { r with errors := r.errors ++ [message] }

variable (rt : Runtime) (call : IngestCall) (obj : ControlObject)

/-- Whether the object goes on to the registry: there is no gate, or the gate lets it through. -/
def passGate : Method Ingestion Bool := do
  match (← self).pipeline.releaseGate with
  | none => return true
  | some gate =>
    let gateResult ← onGate gate (PlatformActionReleaseGate.submit rt (call.submission obj))
    if gateResult.status = .blocked then
      addError (s!"Gate blocked ingestion of '{obj.name}': " ++
        gateResult.failureReason.getD "None")
      return false
    onResult fun r => { r with evidencePackageIds := r.evidencePackageIds ++ [gateResult.packageId] }
    return true

/-- The body of the loop, under its handler. -/
def ingestObject : Method Ingestion Unit :=
  tryCatch (do
      if ← passGate rt call obj then
        let registered ← onRegistry (ObjectRegistry.register rt obj call.ingestedBy call.reason)
        onGraph (ControlGraphStore.addObject registered)
        onResult fun r => { r with ingestedObjects := r.ingestedObjects ++ [registered] })
    fun e => addError s!"Failed to register {obj.name}: {e.message}"

/-- `for obj in objects`. -/
def ingestObjects : List ControlObject → Method Ingestion Unit
  | [] => return
  | obj :: rest => do
    ingestObject rt call obj
    ingestObjects rest

end Ingestion

namespace IngestPipeline
variable (rt : Runtime) (ip : Interpreter)

/-- Runs with an empty result, which it returns when it is done. -/
def filling (artefactId : String) (m : Method Ingestion Unit) :
    Method IngestPipeline IngestResult := fun w =>
  match m.run ⟨⟨w.self, .new artefactId⟩, w.env⟩ with
  | .ok _ v => .ok v.self.result ⟨v.self.pipeline, v.env⟩
  | .error e v => .error e ⟨v.self.pipeline, v.env⟩

/-- `normalise_to_objects` with the handler around it, which catches `NormalisationError` only. -/
def normalised (call : IngestCall) : Method IngestPipeline (Except String (List ControlObject)) :=
  tryCatch (Except.ok <$> normaliseToObjects rt ip call.artefact call.operationalPlane) fun
    | .normalisationError message => return .error s!"Normalisation failed: {message}"
    | e => raise e

def ingest (call : IngestCall) : Method IngestPipeline IngestResult := do
  match ← normalised rt ip call with
  | .error message => return { IngestResult.new call.artefact.artefactId with errors := [message] }
  | .ok objects => filling call.artefact.artefactId (Ingestion.ingestObjects rt call objects)

def ingestBatch (operationalPlane ingestedBy : String) :
    List RawArtefact → Method IngestPipeline (List IngestResult)
  | [] => return []
  | artefact :: rest => do
    let result ← ingest rt ip ⟨artefact, operationalPlane, ingestedBy⟩
    return result :: (← ingestBatch operationalPlane ingestedBy rest)

def new (schemas : SchemaRegistry) (releaseGate : Option PlatformActionReleaseGate) :
    IngestPipeline := ⟨.new schemas, .new, releaseGate⟩

end IngestPipeline
end ControlFabric.Ingress
