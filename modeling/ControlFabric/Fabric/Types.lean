import ControlFabric.Runtime

/-! Value types of the control fabric. -/
namespace ControlFabric.Fabric
open Lib Py

inductive PlaneType where
  | commercial
  | field
  | service
  deriving DecidableEq

def PlaneType.value : PlaneType → String
  | .commercial => "commercial"
  | .field => "field"
  | .service => "service"

inductive ControlObjectType where
  | obligation
  | billableEvent
  | penaltyCondition
  | dispatchPrecondition
  | skillRequirement
  | incidentState
  | escalationRule
  | serviceState
  | readinessCheck
  | leakageTrigger
  | rateCard
  | scopeBoundary
  | workOrder
  | completionCertificate
  | billingGate
  | reconciliationCase
  | recoveryRecommendation
  | custom
  deriving DecidableEq

def ControlObjectType.value : ControlObjectType → String
  | .obligation => "obligation"
  | .billableEvent => "billable_event"
  | .penaltyCondition => "penalty_condition"
  | .dispatchPrecondition => "dispatch_precondition"
  | .skillRequirement => "skill_requirement"
  | .incidentState => "incident_state"
  | .escalationRule => "escalation_rule"
  | .serviceState => "service_state"
  | .readinessCheck => "readiness_check"
  | .leakageTrigger => "leakage_trigger"
  | .rateCard => "rate_card"
  | .scopeBoundary => "scope_boundary"
  | .workOrder => "work_order"
  | .completionCertificate => "completion_certificate"
  | .billingGate => "billing_gate"
  | .reconciliationCase => "reconciliation_case"
  | .recoveryRecommendation => "recovery_recommendation"
  | .custom => "custom"

inductive ControlState where
  | draft
  | active
  | enriched
  | frozen
  | reconciled
  | disputed
  | actioned
  | superseded
  | deprecated
  deriving DecidableEq

namespace ControlState

def value : ControlState → String
  | draft => "draft"
  | active => "active"
  | enriched => "enriched"
  | frozen => "frozen"
  | reconciled => "reconciled"
  | disputed => "disputed"
  | actioned => "actioned"
  | superseded => "superseded"
  | deprecated => "deprecated"

/-- `VALID_STATE_TRANSITIONS[state]`. A set, listed as the source writes it. -/
def validStateTransitions : ControlState → List ControlState
  | draft => [active]
  | active => [enriched, frozen, superseded, deprecated]
  | enriched => [frozen, active, superseded, deprecated]
  | frozen => [reconciled, disputed, active]
  | reconciled => [actioned, disputed, active]
  | disputed => [active, frozen, deprecated]
  | actioned => [superseded, deprecated]
  | superseded => []
  | deprecated => []

/-- No transition leads back to the state it starts in. -/
theorem not_mem_validStateTransitions_self (s : ControlState) :
    s ∉ s.validStateTransitions := by
  cases s <;> decide

end ControlState

inductive ControlLinkType where
  | derivesFrom
  | evidences
  | contradicts
  | correlatesWith
  | implements
  | allocatesTo
  | fulfills
  | billsFor
  | impacts
  | blocks
  | validates
  | supercedes
  deriving DecidableEq

def ControlLinkType.value : ControlLinkType → String
  | .derivesFrom => "derives_from"
  | .evidences => "evidences"
  | .contradicts => "contradicts"
  | .correlatesWith => "correlates_with"
  | .implements => "implements"
  | .allocatesTo => "allocates_to"
  | .fulfills => "fulfills"
  | .billsFor => "bills_for"
  | .impacts => "impacts"
  | .blocks => "blocks"
  | .validates => "validates"
  | .supercedes => "supercedes"

inductive LinkDirectionality where
  | directed
  | bidirectional
  deriving DecidableEq

/-- `LINK_DIRECTIONALITY[link_type]`. -/
def ControlLinkType.linkDirectionality : ControlLinkType → LinkDirectionality
  | .contradicts | .correlatesWith => .bidirectional
  | _ => .directed

inductive DeterminismLevel where
  | deterministic
  | modelAssisted
  | humanDetermined
  deriving DecidableEq

structure EvidenceRef where
  evidenceId : String
  evidenceType : String
  sourceLabel : String
  sourceId : Option String
  confidence : ℚ
  metadata : JsonDict

structure SourceArtifactRef where
  artifactType : String
  artifactId : String
  documentId : Option String
  chunkId : Option String
  clauseRef : Option String
  pageNumber : Option ℤ
  offsetStart : Option ℤ
  offsetEnd : Option ℤ

structure ControlProvenance where
  createdBy : String
  creationMethod : DeterminismLevel
  sourceArtifacts : List SourceArtifactRef := []
  domainPack : Option String := none
  ruleIds : List String := []
  modelId : Option String := none
  modelVersion : Option String := none
  extractionConfidence : ℚ := 1
  derivationChain : List String := []

structure AuditContext where
  actor : String
  action : String
  reason : Option String := none
  timestamp : DateTime
  correlationId : Option String := none
  metadata : JsonDict := []

end ControlFabric.Fabric

/-! The audit hook of the fabric: an event is logged first, then the listeners are told. -/
namespace ControlFabric.Fabric
open Lib Method

inductive FabricAuditEventType where
  | controlObjectCreated
  | controlObjectActivated
  | controlObjectEnriched
  | controlObjectFrozen
  | controlObjectSuperseded
  | controlObjectDeprecated
  | controlObjectReconciled
  | controlObjectDisputed
  | controlObjectActioned
  | controlLinkCreated
  | graphConsistencyChecked
  | validationRunStarted
  | validationRunCompleted
  | validationStepCompleted
  | validationFailed
  | validationDecisionRecorded
  | actionProposed
  | actionApproved
  | actionRejected
  | actionReleased
  deriving DecidableEq

structure FabricAuditEvent where
  id : String
  eventType : FabricAuditEventType
  tenantId : Option String := none
  actor : String := "system"
  timestamp : DateTime
  controlObjectId : Option String := none
  controlLinkId : Option String := none
  plane : Option PlaneType := none
  domain : Option String := none
  previousState : Option ControlState := none
  newState : Option ControlState := none
  linkType : Option ControlLinkType := none
  sourceObjectId : Option String := none
  targetObjectId : Option String := none
  detail : String := ""
  metadata : JsonDict := []

/-- What a listener raises, if it does, by the number of the event it is told of. -/
abbrev FabricAuditListener := ℕ → Option String

structure FabricAuditHook where
  listeners : List FabricAuditListener
  events : List FabricAuditEvent

namespace FabricAuditHook
variable (rt : Runtime)

/-- What the listeners raise when they are told of the next event. -/
def objection (hook : FabricAuditHook) : Option String :=
  hook.listeners.findSome? fun listener => listener hook.events.length

/-- The event is built from the next draw. -/
def emit (event : String → DateTime → FabricAuditEvent) : Method FabricAuditHook Unit := do
  let n ← draw
  let hook ← self
  assign fun hook => { hook with events := hook.events ++ [event (rt.uuid4 n) (rt.now n)] }
  match hook.objection with
  | none => return ()
  | some message => raise (.listenerError message)

theorem emit_draws (event : String → DateTime → FabricAuditEvent) (w : World FabricAuditHook) :
    ((emit rt event).after w).env.draws = w.env.draws + 1 := by
  simp only [emit, after_bind, run_draw, run_self, run_assign]
  split <;> rfl

def controlObjectCreated (objectId tenantId : String) (plane : PlaneType) (domain actor : String) :
    Method FabricAuditHook Unit :=
  emit rt fun id timestamp =>
    { id := id
      eventType := .controlObjectCreated
      tenantId := some tenantId
      actor := actor
      timestamp := timestamp
      controlObjectId := some objectId
      plane := some plane
      domain := some domain
      newState := some .draft
      detail := s!"Control object created in {plane.value}/{domain}" }

/-- `state_to_event`; a state that is not listed counts as activated. -/
def stateToEvent : ControlState → FabricAuditEventType
  | .active => .controlObjectActivated
  | .enriched => .controlObjectEnriched
  | .frozen => .controlObjectFrozen
  | .superseded => .controlObjectSuperseded
  | .deprecated => .controlObjectDeprecated
  | .reconciled => .controlObjectReconciled
  | .disputed => .controlObjectDisputed
  | .actioned => .controlObjectActioned
  | .draft => .controlObjectActivated

def controlObjectStateChanged (objectId tenantId : String) (previousState newState : ControlState)
    (actor : String) : Method FabricAuditHook Unit :=
  emit rt fun id timestamp =>
    { id := id
      eventType := stateToEvent newState
      tenantId := some tenantId
      actor := actor
      timestamp := timestamp
      controlObjectId := some objectId
      previousState := some previousState
      newState := some newState
      detail := s!"State: {previousState.value} → {newState.value}" }

/-- The original is logged as having been active, whatever its state was. -/
def controlObjectSuperseded (originalId newId tenantId actor : String) :
    Method FabricAuditHook Unit :=
  emit rt fun id timestamp =>
    { id := id
      eventType := .controlObjectSuperseded
      tenantId := some tenantId
      actor := actor
      timestamp := timestamp
      controlObjectId := some originalId
      previousState := some .active
      newState := some .superseded
      detail := s!"Superseded by {newId}"
      metadata := [("new_version_id", .str newId)] }

def controlObjectDeprecated (objectId tenantId actor : String) : Method FabricAuditHook Unit :=
  emit rt fun id timestamp =>
    { id := id
      eventType := .controlObjectDeprecated
      tenantId := some tenantId
      actor := actor
      timestamp := timestamp
      controlObjectId := some objectId
      newState := some .deprecated
      detail := "Control object deprecated" }

def controlObjectFrozen (objectId tenantId actor : String) : Method FabricAuditHook Unit :=
  emit rt fun id timestamp =>
    { id := id
      eventType := .controlObjectFrozen
      tenantId := some tenantId
      actor := actor
      timestamp := timestamp
      controlObjectId := some objectId
      newState := some .frozen
      detail := "Control object frozen for validation" }

def controlLinkCreated (linkId tenantId sourceId targetId : String) (linkType : ControlLinkType)
    (isCrossPlane : Bool) (actor : String) : Method FabricAuditHook Unit :=
  emit rt fun id timestamp =>
    { id := id
      eventType := .controlLinkCreated
      tenantId := some tenantId
      actor := actor
      timestamp := timestamp
      controlLinkId := some linkId
      sourceObjectId := some sourceId
      targetObjectId := some targetId
      linkType := some linkType
      detail := s!"Link {linkType.value}: {sourceId} → {targetId}" ++
        if isCrossPlane then " [cross-plane]" else "" }

def graphConsistencyChecked (tenantId : String) (isConsistent : Bool)
    (errorCount warningCount : ℕ) (actor : String) : Method FabricAuditHook Unit :=
  let outcome := if isConsistent then "pass" else "fail"
  emit rt fun id timestamp =>
    { id := id
      eventType := .graphConsistencyChecked
      tenantId := some tenantId
      actor := actor
      timestamp := timestamp
      detail := s!"Consistency: {outcome} " ++
        s!"(errors={errorCount}, warnings={warningCount})"
      metadata := [("is_consistent", .bool isConsistent), ("error_count", .int errorCount),
        ("warning_count", .int warningCount)] }

def getEventsForObject (hook : FabricAuditHook) (objectId : String) : List FabricAuditEvent :=
  hook.events.filter fun e => e.controlObjectId = some objectId

end FabricAuditHook
end ControlFabric.Fabric
