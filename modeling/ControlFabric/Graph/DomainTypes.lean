import ControlFabric.Runtime

/-! Control objects, typed edges and traversal results. -/
namespace ControlFabric

inductive ControlObjectState where
  | draft
  | active
  | underReview
  | deprecated
  | retired
  | quarantined
  deriving DecidableEq

namespace ControlObjectState

def value : ControlObjectState → String
  | draft => "draft"
  | active => "active"
  | underReview => "under_review"
  | deprecated => "deprecated"
  | retired => "retired"
  | quarantined => "quarantined"

private def memberName : ControlObjectState → String
  | draft => "DRAFT"
  | active => "ACTIVE"
  | underReview => "UNDER_REVIEW"
  | deprecated => "DEPRECATED"
  | retired => "RETIRED"
  | quarantined => "QUARANTINED"

/-- The member as an f-string writes it. -/
def str (s : ControlObjectState) : String := "ControlObjectState." ++ s.memberName

def repr (s : ControlObjectState) : String := "<" ++ s.str ++ ": '" ++ s.value ++ "'>"

/-- `VALID_STATE_TRANSITIONS[state]`. -/
def validStateTransitions : ControlObjectState → List ControlObjectState
  | draft => [active, quarantined]
  | active => [underReview, deprecated, quarantined]
  | underReview => [active, deprecated, quarantined]
  | deprecated => [retired]
  | quarantined => [draft, retired]
  | retired => []

end ControlObjectState

inductive ControlObjectType where
  | regulatoryMandate
  | riskControl
  | complianceRequirement
  | securityControl
  | operationalPolicy
  | technicalControl
  | auditFinding
  | vulnerability
  | asset
  | process
  | domainPackExtension
  deriving DecidableEq

namespace ControlObjectType

def value : ControlObjectType → String
  | regulatoryMandate => "regulatory_mandate"
  | riskControl => "risk_control"
  | complianceRequirement => "compliance_requirement"
  | securityControl => "security_control"
  | operationalPolicy => "operational_policy"
  | technicalControl => "technical_control"
  | auditFinding => "audit_finding"
  | vulnerability => "vulnerability"
  | asset => "asset"
  | process => "process"
  | domainPackExtension => "domain_pack_extension"

/-- The member as an f-string writes it. -/
def str : ControlObjectType → String
  | regulatoryMandate => "ControlObjectType.REGULATORY_MANDATE"
  | riskControl => "ControlObjectType.RISK_CONTROL"
  | complianceRequirement => "ControlObjectType.COMPLIANCE_REQUIREMENT"
  | securityControl => "ControlObjectType.SECURITY_CONTROL"
  | operationalPolicy => "ControlObjectType.OPERATIONAL_POLICY"
  | technicalControl => "ControlObjectType.TECHNICAL_CONTROL"
  | auditFinding => "ControlObjectType.AUDIT_FINDING"
  | vulnerability => "ControlObjectType.VULNERABILITY"
  | asset => "ControlObjectType.ASSET"
  | process => "ControlObjectType.PROCESS"
  | domainPackExtension => "ControlObjectType.DOMAIN_PACK_EXTENSION"

theorem value_injective : Function.Injective value := by
  intro s t
  cases s <;> cases t <;> decide

end ControlObjectType

inductive RelationshipType where
  | mitigates
  | satisfies
  | violates
  | requires
  | implements
  | supersedes
  | dependsOn
  | conflicts
  | validates
  | references
  deriving DecidableEq

namespace RelationshipType

def value : RelationshipType → String
  | mitigates => "mitigates"
  | satisfies => "satisfies"
  | violates => "violates"
  | requires => "requires"
  | implements => "implements"
  | supersedes => "supersedes"
  | dependsOn => "depends_on"
  | conflicts => "conflicts"
  | validates => "validates"
  | references => "references"

/-- The member as an f-string writes it. -/
def str : RelationshipType → String
  | mitigates => "RelationshipType.MITIGATES"
  | satisfies => "RelationshipType.SATISFIES"
  | violates => "RelationshipType.VIOLATES"
  | requires => "RelationshipType.REQUIRES"
  | implements => "RelationshipType.IMPLEMENTS"
  | supersedes => "RelationshipType.SUPERSEDES"
  | dependsOn => "RelationshipType.DEPENDS_ON"
  | conflicts => "RelationshipType.CONFLICTS"
  | validates => "RelationshipType.VALIDATES"
  | references => "RelationshipType.REFERENCES"

/-- `RELATIONSHIP_ENFORCEMENT_WEIGHT[relationship_type]`. -/
def enforcementWeight : RelationshipType → ℤ
  | violates => 100
  | conflicts => 90
  | satisfies => 80
  | requires => 70
  | mitigates => 60
  | implements => 50
  | supersedes => 40
  | validates => 30
  | dependsOn => 20
  | references => 10

/-- The types whose creation is a governed output. -/
def stateSemanticTypes : List RelationshipType := [violates, conflicts, satisfies, supersedes]

end RelationshipType

structure ControlObjectProvenance where
  sourceSystem : String
  sourceUri : Option String
  sourceHash : String
  ingestedBy : String
  ingestedAt : DateTime
  originIp : Option String

structure ControlObject where
  objectId : String
  objectType : ControlObjectType
  name : String
  description : String
  state : ControlObjectState
  version : ℤ
  schemaNamespace : String
  provenance : ControlObjectProvenance
  evidenceLinks : List String
  attributes : JsonDict
  tags : List String
  operationalPlane : String
  createdAt : DateTime
  updatedAt : DateTime
  objectHash : String

private def optionJson : Option String → Json
  | some s => .str s
  | none => .null

def ControlObjectProvenance.modelDump (p : ControlObjectProvenance) : JsonDict :=
  [("source_system", .str p.sourceSystem), ("source_uri", optionJson p.sourceUri),
    ("source_hash", .str p.sourceHash), ("ingested_by", .str p.ingestedBy),
    ("ingested_at", .str p.ingestedAt.jsonformat), ("origin_ip", optionJson p.originIp)]

namespace ControlObject
variable (rt : Runtime) (obj : ControlObject)

/-- The text under `object_hash`. -/
def hashText : String :=
  obj.objectId ++ obj.objectType.str ++ obj.name ++ obj.state.str ++ toString obj.version ++
    obj.schemaNamespace ++ obj.provenance.sourceHash ++ obj.operationalPlane

def computeObjectHash : ControlObject := { obj with objectHash := rt.sha256 obj.hashText }

/-- What the constructor accepts and computes. -/
structure Constructed : Prop where
  name_length : obj.name.length ≤ 500
  version_pos : 1 ≤ obj.version
  objectHash : obj.objectHash = rt.sha256 obj.hashText

/-- The constructor with the fields that have no default; the rest can be set afterwards, as keyword
arguments, before the hash is computed. -/
def fields (n : ℕ) (objectType : ControlObjectType) (name schemaNamespace : String)
    (provenance : ControlObjectProvenance) (operationalPlane : String) : ControlObject where
  objectId := rt.uuid4 n
  objectType := objectType
  name := name
  description := ""
  state := .draft
  version := 1
  schemaNamespace := schemaNamespace
  provenance := provenance
  evidenceLinks := []
  attributes := []
  tags := []
  operationalPlane := operationalPlane
  createdAt := rt.now n
  updatedAt := rt.now n
  objectHash := ""

theorem computeObjectHash_constructed {obj : ControlObject} (hname : obj.name.length ≤ 500)
    (hversion : 1 ≤ obj.version) : (obj.computeObjectHash rt).Constructed rt :=
  ⟨hname, hversion, rfl⟩

/-- The copy a transition at the given time makes. -/
def withState (newState : ControlObjectState) (updatedAt : DateTime) : ControlObject :=
  { obj with state := newState, version := obj.version + 1, updatedAt := updatedAt }

/-- `str(set)` leaves the order of a set open; the table's order is used. -/
private def setRepr : List ControlObjectState → String
  | [] => "set()"
  | l => "\x7b" ++ ", ".intercalate (l.map ControlObjectState.repr) ++ "\x7d"

def transitionTo (newState : ControlObjectState) (updatedAt : DateTime) :
    Except PyError ControlObject :=
  let validTargets := obj.state.validStateTransitions
  if newState ∉ validTargets then
    .error (.valueError ("Invalid transition: " ++ obj.state.str ++ " → " ++ newState.str ++
      ". Valid: " ++ setRepr validTargets))
  else .ok (obj.withState newState updatedAt)

/-- `obj.model_dump(mode="json")`. -/
def modelDump : JsonDict :=
  [("object_id", .str obj.objectId), ("object_type", .str obj.objectType.value),
    ("name", .str obj.name), ("description", .str obj.description),
    ("state", .str obj.state.value), ("version", .int obj.version),
    ("schema_namespace", .str obj.schemaNamespace),
    ("provenance", .obj obj.provenance.modelDump),
    ("evidence_links", .arr (obj.evidenceLinks.map .str)), ("attributes", .obj obj.attributes),
    ("tags", .arr (obj.tags.map .str)), ("operational_plane", .str obj.operationalPlane),
    ("created_at", .str obj.createdAt.jsonformat), ("updated_at", .str obj.updatedAt.jsonformat),
    ("object_hash", .str obj.objectHash)]

end ControlObject

/-- A drafted policy. -/
def draftPolicy (rt : Runtime) : ControlObject :=
  (ControlObject.fields rt 0 .operationalPolicy "Retention" "core"
    ⟨"cmdb", none, rt.sha256 "retention", "ada", rt.now 0, none⟩ "data").computeObjectHash rt

theorem draftPolicy_constructed (rt : Runtime) : (draftPolicy rt).Constructed rt :=
  ControlObject.computeObjectHash_constructed rt (show "Retention".length ≤ 500 by decide) le_rfl

structure ControlEdge where
  edgeId : String
  sourceObjectId : String
  targetObjectId : String
  relationshipType : RelationshipType
  enforcementWeight : ℤ
  evidenceReferences : List String
  validFrom : DateTime
  validUntil : Option DateTime
  assertedBy : String
  context : JsonDict
  isActive : Bool
  edgeHash : String

namespace ControlEdge

def isValidAt (e : ControlEdge) (pointInTime : DateTime) : Bool :=
  if pointInTime.instant < e.validFrom.instant then false
  else if ∃ t ∈ e.validUntil, t.instant < pointInTime.instant then false
  else e.isActive

end ControlEdge

structure GraphPath where
  pathId : String
  nodes : List String
  edges : List String
  depth : ℕ
  totalEnforcementWeight : ℤ

structure GraphTraversalResult where
  queryObjectId : String
  direction : String
  maxDepth : ℤ
  relationshipFilter : List String
  discoveredObjects : List String
  discoveredEdges : List String
  paths : List GraphPath
  traversalDepthReached : ℕ
  executedAt : DateTime

end ControlFabric
