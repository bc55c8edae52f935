import ControlFabric.Runtime

/-! The policy manager: drafts, simulation, publication, rollback and archival. Of a conflict the
description and the time, which nothing reads, are left out. -/
namespace ControlFabric.PolicyAdmin
open Lib Py Method

inductive PolicyStatus where
  | draft
  | simulating
  | published
  | rolledBack
  | archived
  deriving DecidableEq

def PolicyStatus.value : PolicyStatus → String
  | draft => "draft"
  | simulating => "simulating"
  | published => "published"
  | rolledBack => "rolled_back"
  | archived => "archived"

structure PolicyDefinition where
  policyId : String
  policyName : String
  description : String
  status : PolicyStatus
  rules : List String
  targetPacks : List String
  createdBy : String
  createdAt : DateTime
  publishedAt : Option DateTime
  version : ℤ

structure PolicySimulationResult where
  policyId : String
  simulatedAt : DateTime
  casesEvaluated : ℤ
  casesAffected : ℤ
  falsePositives : ℤ
  impactSummary : String
  safeToPublish : Bool

structure PolicyConflict where
  policyA : String
  policyB : String
  conflictType : String

/-- An entry of `_history`. -/
structure HistoryEntry where
  action : String
  policyId : String
  actor : String
  timestamp : String

structure PolicyManager where
  policies : Dict String PolicyDefinition
  simulations : Dict String PolicySimulationResult
  history : List HistoryEntry

/-- `set(l) & set(l')` is not empty. -/
def Overlap (l l' : List String) : Prop := ∃ a ∈ l, a ∈ l'

instance (l l' : List String) : Decidable (Overlap l l') := List.decidableBEx ..

theorem Overlap.symm {l l' : List String} (h : Overlap l l') : Overlap l' l := by
  obtain ⟨a, ha, ha'⟩ := h
  exact ⟨a, ha', ha⟩

namespace PolicyManager

def new : PolicyManager := ⟨Dict.empty, Dict.empty, []⟩

def get (policyId : String) : Method PolicyManager PolicyDefinition := do
  match (← self).policies.get? policyId with
  | some policy => return policy
  | none => raise (.valueError s!"Policy not found: {policyId}")

/-- The policy object with its fields assigned. -/
def store (policyId : String) (policy : PolicyDefinition) : Method PolicyManager Unit :=
  assign fun m => { m with policies := m.policies.set policyId policy }

def record (rt : Runtime) (action policyId actor : String) : Method PolicyManager Unit := do
  let timestamp := (rt.now (← draw)).isoformat
  assign fun m => { m with history := m.history ++ [⟨action, policyId, actor, timestamp⟩] }

def createDraft (rt : Runtime) (policyName description : String)
    (rules targetPacks : Option (List String)) (createdBy : String) :
    Method PolicyManager PolicyDefinition := do
  let n ← draw
  let policy : PolicyDefinition := {
    policyId := rt.uuid4 n
    policyName := policyName
    description := description
    status := .draft
    rules := rules.getD []
    targetPacks := targetPacks.getD []
    createdBy := createdBy
    createdAt := rt.now n
    publishedAt := none
    version := 1 }
  store policy.policyId policy
  record rt "create_draft" policy.policyId createdBy
  return policy

/-- `half` is `sample_size * 0.5`, which fails for an integer no float can hold. The policy is then
left in simulation. -/
def simulate (rt : Runtime) (half : ℤ → Except PyError ℚ) (policyId : String) (sampleSize : ℤ) :
    Method PolicyManager PolicySimulationResult := do
  let policy ← get policyId
  if policy.status ≠ .draft ∧ policy.status ≠ .published then
    raise (.valueError s!"Cannot simulate policy in state: {policy.status.value}")
  store policyId { policy with status := .simulating }
  let affected : ℤ := min (policy.rules.length * 3 : ℕ) sampleSize
  let threshold ← lift (half sampleSize)
  let simulatedAt := rt.now (← draw)
  let result : PolicySimulationResult := {
    policyId := policyId
    simulatedAt := simulatedAt
    casesEvaluated := sampleSize
    casesAffected := affected
    falsePositives := max 0 (affected / 10)
    impactSummary :=
      s!"{affected}/{sampleSize} cases affected by {policy.rules.length} rules"
    safeToPublish := (affected : ℚ) < threshold }
  assign fun m => { m with simulations := m.simulations.set policyId result }
  store policyId { policy with status := .draft }
  record rt "simulate" policyId "system"
  return result

/-- The conflicts of a policy with the published ones. -/
def detectConflicts (m : PolicyManager) (policy : PolicyDefinition) (policyId : String) :
    List PolicyConflict :=
  (m.policies.values.filter fun other => other.policyId ≠ policyId ∧ other.status = .published ∧
    Overlap policy.targetPacks other.targetPacks ∧ Overlap policy.rules other.rules).map
      fun other => ⟨policyId, other.policyId, "rule_overlap"⟩

def publish (rt : Runtime) (policyId publishedBy : String) :
    Method PolicyManager PolicyDefinition := do
  let policy ← get policyId
  if policy.status ≠ .draft then
    raise (.valueError
      s!"Can only publish from draft state, current: {policy.status.value}")
  let conflicts := (← self).detectConflicts policy policyId
  if conflicts ≠ [] then
    raise (.valueError
      s!"Cannot publish: {conflicts.length} conflict(s) detected with existing policies")
  let published := { policy with status := .published, publishedAt := some (rt.now (← draw)) }
  store policyId published
  record rt "publish" policyId publishedBy
  return published

def rollback (rt : Runtime) (policyId rolledBackBy : String) :
    Method PolicyManager PolicyDefinition := do
  let policy ← get policyId
  if policy.status ≠ .published then
    raise (.valueError "Can only roll back published policies")
  let rolledBack := { policy with status := .rolledBack }
  store policyId rolledBack
  record rt "rollback" policyId rolledBackBy
  return rolledBack

def archive (rt : Runtime) (policyId : String) : Method PolicyManager PolicyDefinition := do
  let policy ← get policyId
  if policy.status = .published then
    raise (.valueError "Cannot archive a published policy — rollback first")
  let archived := { policy with status := .archived }
  store policyId archived
  record rt "archive" policyId "system"
  return archived

end PolicyManager

inductive PolicyCall where
  | createDraft (policyName description : String) (rules targetPacks : Option (List String))
      (createdBy : String)
  | simulate (policyId : String) (sampleSize : ℤ)
  | publish (policyId publishedBy : String)
  | rollback (policyId rolledBackBy : String)
  | archive (policyId : String)

def PolicyCall.perform (rt : Runtime) (half : ℤ → Except PyError ℚ) :
    PolicyCall → Method PolicyManager Unit
  | createDraft policyName description rules targetPacks createdBy =>
    discard (PolicyManager.createDraft rt policyName description rules targetPacks createdBy)
  | simulate policyId sampleSize => discard (PolicyManager.simulate rt half policyId sampleSize)
  | publish policyId publishedBy => discard (PolicyManager.publish rt policyId publishedBy)
  | rollback policyId rolledBackBy => discard (PolicyManager.rollback rt policyId rolledBackBy)
  | archive policyId => discard (PolicyManager.archive rt policyId)

def policyStep (rt : Runtime) (half : ℤ → Except PyError ℚ) (call : PolicyCall)
    (w : World PolicyManager) : World PolicyManager := (call.perform rt half).after w

end ControlFabric.PolicyAdmin
