import ControlFabric.Fabric.Service
import ControlFabric.Validation.DomainTypes

/-! The bounded reasoning engine: deterministic rules first, a model provider when the policy lets
it, both over the objects gathered for a request. Confidences are kept as fractions. -/
namespace ControlFabric.Fabric.Reasoning
open Lib Py Method

inductive ReasoningScope where
  | singleObject
  | planeLocal
  | crossPlane
  | fullGraph
  deriving DecidableEq

def ReasoningScope.value : ReasoningScope → String
  | singleObject => "single_object"
  | planeLocal => "plane_local"
  | crossPlane => "cross_plane"
  | fullGraph => "full_graph"

inductive ReasoningMode where
  | deterministicRules
  | modelAssisted
  | hybrid
  deriving DecidableEq

def ReasoningMode.value : ReasoningMode → String
  | deterministicRules => "deterministic_rules"
  | modelAssisted => "model_assisted"
  | hybrid => "hybrid"

structure ReasoningPolicy where
  allowedScopes : List ReasoningScope := [.singleObject]
  allowedPlanes : List PlaneType := [.commercial, .field, .service]
  maxObjects : ℤ := 100
  allowedModes : List ReasoningMode := [.deterministicRules]
  maxConfidenceForAuto : ℚ := 19 / 20

structure ReasoningRequest where
  id : String
  tenantId : String
  scope : ReasoningScope
  mode : ReasoningMode := .deterministicRules
  targetObjectIds : List String := []
  plane : Option PlaneType := none
  domain : Option String := none
  question : String := ""
  context : JsonDict := []
  policy : ReasoningPolicy := {}

structure ReasoningStep where
  stepNumber : ℕ
  action : String
  inputSummary : String
  outputSummary : String
  determinismLevel : DeterminismLevel
  objectsConsulted : List String := []
  confidence : ℚ := 1

structure ReasoningResult where
  id : String
  requestId : String
  tenantId : String
  mode : ReasoningMode
  scope : ReasoningScope
  conclusion : String
  confidence : ℚ
  determinismLevel : DeterminismLevel
  steps : List ReasoningStep
  objectsConsulted : List String
  decisionHash : String := ""
  timestamp : DateTime

def ReasoningResult.computeHash (rt : Runtime) (str : Json → String) (result : ReasoningResult) :
    ReasoningResult :=
  let steps := result.steps.map fun s =>
    Json.obj [("action", .str s.action), ("output_summary", .str s.outputSummary)]
  { result with
    decisionHash := deterministicHash rt str [("request_id", .str result.requestId),
      ("conclusion", .str result.conclusion), ("steps", .arr steps)] }

/-- What a rule or a provider is called with. The entries of `context` go over the others. -/
structure ReasoningContext where
  objects : List ControlObject
  deterministicResult : Option String := none
  context : JsonDict

/-- A registered rule function, with the text of what it returns. -/
abbrev Rule := ReasoningContext → Except PyError String

structure ReasoningProvider where
  providerName : String
  reason : String → ReasoningContext → Except PyError (String × ℚ)

def stubReasoningProvider : ReasoningProvider where
  providerName := "stub"
  reason prompt _ := .ok (s!"Stub reasoning result for: {prompt.take 100}", 1 / 2)

/-- `self._rules.get(rule_name)`, for any value in the request's context. -/
def ruleNamed (rules : Dict String Rule) : Json → Except PyError (Option Rule)
  | .str name => return rules.get? name
  | .arr _ => throw (.typeError "unhashable type: 'list'")
  | .obj _ => throw (.typeError "unhashable type: 'dict'")
  | _ => return none

/-- The provider of the registered rules; `str` writes a value. -/
def deterministicRulesProvider (str : Json → String) (rules : Dict String Rule) (ruleName : Json)
    (context : ReasoningContext) : Except PyError (String × ℚ) := do
  match ← ruleNamed rules ruleName with
  | some ruleFn => return (← ruleFn context, 1)
  | none => return (s!"No rule found for: {str ruleName}", 0)

/-- `objects[: n]`. -/
def sliceTo {α : Type} (n : ℤ) (objects : List α) : List α :=
  if 0 ≤ n then objects.take n.toNat else objects.take (objects.length - n.natAbs)

/-- The loop that appends what is not there yet. -/
def extend (objects listed : List ControlObject) : List ControlObject :=
  listed.foldl
    (fun objects obj => if obj.id ∈ objects.map (·.id) then objects else objects ++ [obj]) objects

def enforcePolicy (rt : Runtime) (request : ReasoningRequest) (policy : ReasoningPolicy) :
    Except PyError Unit :=
  if request.scope ∉ policy.allowedScopes then
    throw (.reasoningScopeViolation (s!"Scope {request.scope.value} not allowed. " ++
      s!"Allowed: {reprList rt.isPrintable (policy.allowedScopes.map (·.value))}"))
  else if request.mode ∉ policy.allowedModes then
    throw (.reasoningPolicyViolation (s!"Mode {request.mode.value} not allowed. " ++
      s!"Allowed: {reprList rt.isPrintable (policy.allowedModes.map (·.value))}"))
  else
    match request.plane with
    | some plane =>
      if plane ∉ policy.allowedPlanes then
        throw (.reasoningScopeViolation s!"Plane {plane.value} not in allowed planes")
      else return ()
    | none => return ()

/-- Without target identifiers a request for a single object gathers nothing. -/
def gatherScopedObjects (repo : InMemoryGraphRepository) (request : ReasoningRequest)
    (policy : ReasoningPolicy) : List ControlObject :=
  let objects := request.targetObjectIds.filterMap repo.objects.get?
  if request.targetObjectIds = [] ∧ request.scope = .singleObject then objects
  else
    match request.scope, request.plane with
    | .planeLocal, some plane => sliceTo policy.maxObjects
        (extend objects (repo.listObjects request.tenantId (some plane) request.domain none none))
    | .crossPlane, _ | .fullGraph, _ => sliceTo policy.maxObjects
        (extend objects (repo.listObjects request.tenantId none request.domain none none))
    | _, _ => sliceTo policy.maxObjects objects

def stateCounts (objects : List ControlObject) : Dict String ℕ :=
  objects.foldl (fun counts obj => counts.set obj.state.value (counts.getD obj.state.value 0 + 1))
    Dict.empty

/-- The states of the objects, when no rule has an answer. -/
def summarise (objects : List ControlObject) : String × ℚ :=
  if objects = [] then ("No objects in scope", 1 / 2)
  else
    let parts := ((stateCounts objects).entries.insertionSort fun p q => p.1 ≤ q.1).map fun p =>
      s!"{p.2} {p.1}"
    ("Objects in scope: " ++ ", ".intercalate parts, 4 / 5)

structure BoundedReasoningEngine where
  graph : GraphService
  provider : ReasoningProvider
  rules : Dict String Rule

namespace BoundedReasoningEngine

def new (graph : GraphService) (provider : Option ReasoningProvider) : BoundedReasoningEngine :=
  ⟨graph, provider.getD stubReasoningProvider, Dict.empty⟩

def applyDeterministicRules (str : Json → String) (engine : BoundedReasoningEngine)
    (request : ReasoningRequest) (objects : List ControlObject) : Except PyError (String × ℚ) := do
  let ruleName := (Json.field request.context "rule_name").getD (.str "")
  if ruleName.truthy then
    let (result, conf) ← deterministicRulesProvider str engine.rules ruleName
      { objects := objects, context := request.context }
    if 0 < conf then
      return (result, conf)
  return summarise objects

/-- The third step: the model is asked if the request and its policy allow it and the rules are not
sure enough. -/
def askModel (engine : BoundedReasoningEngine) (request : ReasoningRequest)
    (policy : ReasoningPolicy) (objects : List ControlObject) (det : String × ℚ) :
    Except PyError (Option (String × ℚ)) :=
  if (request.mode = .modelAssisted ∨ request.mode = .hybrid) ∧
      ReasoningMode.modelAssisted ∈ policy.allowedModes ∧ det.2 < policy.maxConfidenceForAuto then
    some <$> engine.provider.reason request.question
      { objects := objects.take 10, deterministicResult := some det.1, context := request.context }
  else return none

/-- A request always has a policy, so the default policy of an engine is never used. -/
def reason (rt : Runtime) (str : Json → String) (request : ReasoningRequest) :
    Method BoundedReasoningEngine ReasoningResult := do
  let engine ← self
  let policy := request.policy
  lift (enforcePolicy rt request policy)
  let objects := gatherScopedObjects engine.graph.repo request policy
  let det ← lift (engine.applyDeterministicRules str request objects)
  let model ← lift (engine.askModel request policy objects det)
  let gathered : ReasoningStep := {
    stepNumber := 1
    action := "gather_evidence"
    inputSummary := s!"Scope: {request.scope.value}, {objects.length} objects"
    outputSummary := s!"Collected evidence from {objects.length} objects"
    determinismLevel := .deterministic
    objectsConsulted := objects.map (·.id) }
  let ruled : ReasoningStep := {
    stepNumber := 2
    action := "deterministic_rules"
    inputSummary := s!"{objects.length} objects evaluated"
    outputSummary := det.1
    determinismLevel := .deterministic
    confidence := det.2 }
  let modelled := model.toList.map fun answer => ({
    stepNumber := 3
    action := "model_assisted"
    inputSummary := s!"Provider: {engine.provider.providerName}"
    outputSummary := answer.1
    determinismLevel := .modelAssisted
    confidence := answer.2 } : ReasoningStep)
  let better := model.filter fun answer => det.2 < answer.2
  let n ← draw
  let result : ReasoningResult := {
    id := rt.uuid4 n
    requestId := request.id
    tenantId := request.tenantId
    mode := request.mode
    scope := request.scope
    conclusion := (better.getD det).1
    confidence := (better.getD det).2
    determinismLevel := if better.isSome then .modelAssisted else .deterministic
    steps := [gathered, ruled] ++ modelled
    objectsConsulted := (objects.map (·.id)).dedup
    timestamp := rt.now n }
  return result.computeHash rt str

end BoundedReasoningEngine
end ControlFabric.Fabric.Reasoning
