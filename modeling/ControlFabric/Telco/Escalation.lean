import ControlFabric.Ingress.Pipeline
import ControlFabric.Validation.RuleModel

/-! The escalation of incidents: the rules common to all operators, and those of the managed
services of one of them. Each engine applies its rules in sequence to a decision in the making. -/
namespace ControlFabric.Telco
open Ingress Py

inductive IncidentSeverity where
  | p1
  | p2
  | p3
  | p4
  deriving DecidableEq

inductive ServiceState where
  | active
  | degraded
  | outage
  | maintenance
  | provisioning
  deriving DecidableEq

inductive EscalationLevel where
  | l1
  | l2
  | l3
  | management
  deriving DecidableEq

def EscalationLevel.value : EscalationLevel → String
  | l1 => "l1"
  | l2 => "l2"
  | l3 => "l3"
  | management => "management"

/-- What the engines read of an incident. -/
structure ParsedIncident where
  severity : IncidentSeverity := .p3
  affectedServices : List String := []
  tags : List String := []

structure EscalationDecision where
  escalate : Bool
  level : Option EscalationLevel
  owner : String
  reason : String

/-- `_determine_owner`, by the owners of the levels. -/
def determineOwner (owners : EscalationLevel → String) : Option EscalationLevel → String
  | some level => owners level
  | none => "unassigned"

/-! ### The common rules -/

namespace EscalationRuleEngine

/-- The variables that the rules update. -/
structure Draft where
  shouldEscalate : Bool := false
  level : Option EscalationLevel := none
  reason : String := ""

def owners : EscalationLevel → String
  | .l1 => "service_desk"
  | .l2 => "engineering_team"
  | .l3 => "senior_engineering"
  | .management => "service_delivery_manager"

def criticalServices : List String := ["core_network", "voice_platform", "billing", "hss", "mme"]

/-- `set(incident.affected_services) & critical_services`. -/
def affectedCritical (incident : ParsedIncident) : List String :=
  criticalServices.filter fun service => service ∈ incident.affectedServices

/-- The arguments of `evaluate`. -/
structure Case where
  incident : ParsedIncident
  serviceState : Option ServiceState := none
  slaBreached : Bool := false
  repeatCount : ℤ := 0

section Rules
variable (order : List String → List String) (c : Case)

def severityRule : Draft :=
  match c.incident.severity with
  | .p1 => ⟨true, some .l3, "P1 incident requires immediate L3 escalation"⟩
  | .p2 => ⟨true, some .l2, "P2 incident requires L2 escalation"⟩
  | _ => {}

def slaBreachRule (d : Draft) : Draft :=
  if c.slaBreached then {
    shouldEscalate := true
    level := if d.level = some .l3 then some .management else some .l3
    reason := s!"SLA breach detected. {d.reason}" }
  else d

/-- The values of the levels are compared as texts. -/
def repeatRule (d : Draft) : Draft :=
  if 3 ≤ c.repeatCount then {
    shouldEscalate := true
    level :=
      match d.level with
      | none => some .l2
      | some level => if level.value < EscalationLevel.l2.value then some .l2 else some level
    reason := s!"Repeated incident (count: {c.repeatCount}). {d.reason}" }
  else d

def outageRule (d : Draft) : Draft :=
  if c.serviceState = some .outage then {
    shouldEscalate := true
    level := some .l3
    reason := s!"Service outage detected. {d.reason}" }
  else d

/-- The services are named in the order in which their set is gone through. -/
def criticalServicesRule (d : Draft) : Draft :=
  let affected := affectedCritical c.incident
  let names := ", ".intercalate (order affected)
  if 2 ≤ affected.length then {
    shouldEscalate := true
    level := some .management
    reason := s!"Multiple critical services affected: {names}. {d.reason}" }
  else d

def breachedP2Rule (d : Draft) : Draft :=
  if c.incident.severity = .p2 ∧ c.slaBreached then {
    d with
    level := some .management
    reason := s!"P2 incident with SLA breach requires management escalation. {d.reason}" }
  else d

def evaluate : EscalationDecision :=
  let d := breachedP2Rule c <| criticalServicesRule order c <| outageRule c <| repeatRule c <|
    slaBreachRule c <| severityRule c
  { escalate := d.shouldEscalate
    level := d.level
    owner := if d.shouldEscalate then determineOwner owners d.level else ""
    reason := String.ofList (strStrip .ascii d.reason.toList) }

end Rules
end EscalationRuleEngine

/-! ### The rules of the managed services -/

namespace VodafoneEscalationEngine

structure Draft where
  shouldEscalate : Bool := false
  level : Option EscalationLevel := none
  reasons : List String := []

def owners : EscalationLevel → String
  | .l1 => "vodafone_service_desk"
  | .l2 => "vodafone_engineering_team"
  | .l3 => "vodafone_senior_engineering"
  | .management => "vodafone_service_delivery_manager"

/-- `_LEVEL_ORDER`, by the levels themselves. -/
def levelOrder : EscalationLevel → ℕ
  | .l1 => 1
  | .l2 => 2
  | .l3 => 3
  | .management => 4

/-- The items of `_LEVEL_ORDER`, sorted. -/
def levels : List EscalationLevel := [.l1, .l2, .l3, .management]

/-- `_VODAFONE_CRITICAL_DOMAINS`. -/
def criticalDomains : List String := ["core_network", "billing_mediation"]

structure Case where
  incident : ParsedIncident
  slaStatus : JsonDict
  serviceDomain : String
  repeatCount : ℤ := 0

section Rules
variable (lower : String → String) (c : Case)

def isOutage : Bool :=
  (c.incident.tags.map lower).any (· ∈ ["outage"]) ∨
    (dictGet c.slaStatus "bridge_call_required" (.bool false)).truthy

def severityRule : Draft :=
  match c.incident.severity with
  | .p1 => ⟨true, some .l3, ["P1 incident: L3 escalation with bridge call and MIM process"]⟩
  | .p2 =>
    if isOutage lower c then
      ⟨true, some .l3, ["P2 incident with outage: L3 escalation with bridge call"]⟩
    else ⟨true, some .l2, ["P2 incident without outage: L2 escalation"]⟩
  | .p3 =>
    if (dictGet c.slaStatus "resolution_sla" (.str "within")).isStr "warning" then
      ⟨true, some .l2, ["P3 incident with SLA at warning: escalated to L2"]⟩
    else ⟨false, some .l1, ["P3 incident: L1 handling"]⟩
  | .p4 => {}

def criticalDomainRule (d : Draft) : Draft :=
  if c.serviceDomain ∈ criticalDomains then
    match d.level with
    | none => d
    | some level =>
      match levels.find? fun next => levelOrder next = levelOrder level + 1 with
      | none => d
      | some next => {
          shouldEscalate := true
          level := some next
          reasons := d.reasons ++ ["Critical domain '" ++ c.serviceDomain ++
            s!"': escalation elevated by 1 level to {next.value}"] }
  else d

def slaBreachRule (d : Draft) : Draft :=
  if (dictGet c.slaStatus "resolution_sla" .null).isStr "breached" then {
    shouldEscalate := true
    level := some .management
    reasons := d.reasons ++ ["SLA breached: management escalation required"] }
  else d

def repeatRule (d : Draft) : Draft :=
  if 3 ≤ c.repeatCount then {
    shouldEscalate := true
    level :=
      match d.level with
      | none => some .l3
      | some level => if levelOrder level < levelOrder .l3 then some .l3 else some level
    reasons := d.reasons ++
      [s!"Repeated incident ({c.repeatCount} occurrences in 30 days): L3 escalation"] }
  else d

def evaluate : EscalationDecision :=
  let d := repeatRule c <| slaBreachRule c <| criticalDomainRule c <| severityRule lower c
  { escalate := d.shouldEscalate
    level := d.level
    owner := if d.shouldEscalate then determineOwner owners d.level else ""
    reason := "; ".intercalate d.reasons }

end Rules
end VodafoneEscalationEngine
end ControlFabric.Telco
