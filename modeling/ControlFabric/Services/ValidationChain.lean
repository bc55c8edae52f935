import ControlFabric.Margin.Values
import ControlFabric.Reconciliation.RuleModel

/-! The validation chain of the tenant services: eight stages in a fixed order, each judged by a
registered validator or by default, and what a run that stops at the first failure says of one that
does not. -/
namespace ControlFabric.Services
open Lib Py
open Ingress (dictGet)
open Fabric.Reconciliation (ValueOps numberOf)

inductive ValidationStage where
  | schema
  | evidence
  | boundary
  | rule
  | crossPlane
  | policy
  | confidence
  | release
  deriving DecidableEq

def ValidationStage.value : ValidationStage → String
  | schema => "schema"
  | evidence => "evidence"
  | boundary => "boundary"
  | rule => "rule"
  | crossPlane => "cross_plane"
  | policy => "policy"
  | confidence => "confidence"
  | release => "release"

def validationStageOrder : List ValidationStage :=
  [.schema, .evidence, .boundary, .rule, .crossPlane, .policy, .confidence, .release]

inductive StepVerdict where
  | pass
  | warn
  | fail
  | skip
  deriving DecidableEq

/-- `StepVerdict(v)`, `none` being a `ValueError`. -/
def StepVerdict.ofJson? : Json → Option StepVerdict
  | .str "pass" => some .pass
  | .str "warn" => some .warn
  | .str "fail" => some .fail
  | .str "skip" => some .skip
  | _ => none

inductive ChainOutcome where
  | released
  | blocked
  | warnReleased
  | escalated
  deriving DecidableEq

structure ValidationStepResult where
  stage : ValidationStage
  verdict : StepVerdict
  message : String
  details : JsonDict := []
  durationMs : ℚ := 0
  skipped : Bool := false
  skipReason : Option String := none

def ValidationStepResult.failed (step : ValidationStepResult) : Bool := step.verdict = .fail

structure ValidationChainRequest where
  pilotCaseId : String
  tenantId : String
  candidateActionId : Option String := none
  context : JsonDict := []
  evidenceBundleId : Option String := none
  graphSliceId : Option String := none
  skipStages : List ValidationStage := []
  failFast : Bool := true
  metadata : JsonDict := []

structure ValidationChainResponse where
  id : String
  pilotCaseId : String
  tenantId : String
  outcome : ChainOutcome
  steps : List ValidationStepResult
  totalSteps : ℕ
  passedSteps : ℕ
  warnedSteps : ℕ
  failedSteps : ℕ
  skippedSteps : ℕ
  blockingStage : Option ValidationStage
  blockingMessage : Option String
  durationMs : ℚ
  metadata : JsonDict
  createdAt : DateTime

/-- What a registered validator returns, or the text of what it raises. -/
abbrev Validator := ValidationStage → ValidationChainRequest → Except String Json

/-- An entry of `_runs`. -/
structure ChainRun where
  response : ValidationChainResponse
  tenantId : String

structure ValidationChainService where
  validators : Dict ValidationStage Validator
  runs : Dict String ChainRun

namespace ValidationChainService
variable (rt : Runtime) (ops : ValueOps)

def new : ValidationChainService := ⟨Dict.empty, Dict.empty⟩

def registerValidator (stage : ValidationStage) (validator : Validator)
    (s : ValidationChainService) : ValidationChainService :=
  { s with validators := s.validators.set stage validator }

/-! ### The default checks -/

/-- `f"{score:.0%}"`. -/
def percent (score : ℚ) : String :=
  let scaled := ops.round (ops.round score * 100)
  (if scaled < 0 then "-" else "") ++ toString (roundHalfEven |scaled|) ++ "%"

/-- The number a value is compared as with one of the named type. -/
def compared (v : Json) (sign type : String) : Except PyError ℚ :=
  match numberOf v with
  | some q => .ok q
  | none => .error (.typeError
      s!"'{sign}' not supported between instances of '{v.typeName}' and '{type}'")

/-- `', '.join(v)`. -/
def joined (v : Json) : Except PyError String :=
  match v.iterate with
  | .ok items => Margin.joinTexts items
  | .error _ => .error (.typeError "can only join an iterable")

/-- Texts and lists can be compared with one another and have no format `.2f`. -/
def confidenceError (conf threshold : Json) : PyError :=
  match conf, threshold with
  | .str _, .str _ => .valueError "Unknown format code 'f' for object of type 'str'"
  | .arr _, .arr _ => .typeError "unsupported format string passed to list.__format__"
  | _, _ => .typeError
      s!"'>=' not supported between instances of '{conf.typeName}' and '{threshold.typeName}'"

def defaultValidate (stage : ValidationStage) (request : ValidationChainRequest) :
    Except PyError (StepVerdict × String × JsonDict) := do
  let ctx := request.context
  match stage with
  | .schema =>
    if (dictGet ctx "schema_valid" (.bool true)).truthy then
      return (.pass, "Schema validation passed", [])
    return (.fail, "Schema validation failed", [("reason", .str "invalid_schema")])
  | .evidence =>
    let score := dictGet ctx "evidence_completeness" (.float 1)
    let q ← compared score ">=" "float"
    if ops.round (8 / 10) ≤ q then
      return (.pass, s!"Evidence completeness: {percent ops q}", [("score", score)])
    if 1 / 2 ≤ q then
      return (.warn, s!"Evidence incomplete: {percent ops q}", [("score", score)])
    return (.fail, s!"Evidence insufficient: {percent ops q}", [("score", score)])
  | .boundary =>
    if (dictGet ctx "boundary_valid" (.bool true)).truthy then
      return (.pass, "Boundary check passed", [])
    return (.fail, "Boundary violation detected", [])
  | .rule =>
    let failedRules := dictGet ctx "failed_rules" (.arr [])
    if failedRules.truthy then
      let names ← joined failedRules
      return (.fail, s!"Rules failed: {names}", [("failed_rules", failedRules)])
    return (.pass, "All rules passed", [])
  | .crossPlane =>
    let conflicts := dictGet ctx "cross_plane_conflicts" (.int 0)
    let q ← compared conflicts "<=" "int"
    if q = 0 then
      return (.pass, "No cross-plane conflicts", [])
    if q ≤ 2 then
      return (.warn, s!"{ops.str conflicts} cross-plane conflict(s)", [("count", conflicts)])
    return (.fail, s!"{ops.str conflicts} cross-plane conflicts", [("count", conflicts)])
  | .policy =>
    if (dictGet ctx "policy_compliant" (.bool true)).truthy then
      return (.pass, "Policy check passed", [])
    return (.fail, "Policy violation", [("reason", dictGet ctx "policy_reason" (.str ""))])
  | .confidence =>
    let conf := dictGet ctx "confidence" (.float 1)
    let threshold := dictGet ctx "confidence_threshold" (.float (ops.round (7 / 10)))
    match numberOf conf, numberOf threshold with
    | some c, some t =>
      if t ≤ c then
        return (.pass, s!"Confidence {fixed2 (ops.round c)} >= {fixed2 (ops.round t)}",
          [("confidence", conf)])
      return (.fail, s!"Confidence {fixed2 (ops.round c)} < {fixed2 (ops.round t)}",
        [("confidence", conf), ("threshold", threshold)])
    | _, _ => throw (confidenceError conf threshold)
  | .release => return (.pass, "Release gate passed", [])

/-! ### A run -/

/-- `repr(v)`. -/
def reprOf : Json → String
  | .str s => String.ofList (reprStr rt.isPrintable s)
  | v => ops.str v

/-- What a registered validator says, or the text of the exception that is caught. -/
def consult (validator : Validator) (stage : ValidationStage) (request : ValidationChainRequest) :
    Except String (StepVerdict × Json × Json) :=
  match validator stage request with
  | .error text => .error text
  | .ok (.obj result) =>
    let verdict := dictGet result "verdict" (.str "pass")
    match StepVerdict.ofJson? verdict with
    | some v => .ok (v, dictGet result "message" (.str s!"Stage {stage.value} completed"),
        dictGet result "details" (.obj []))
    | none => .error s!"{reprOf rt ops verdict} is not a valid StepVerdict"
  | .ok v => .error s!"'{v.typeName}' object has no attribute 'get'"

/-- Verdict, message and details of a stage. Only what a registered validator raises is caught. -/
def judge (s : ValidationChainService) (stage : ValidationStage) (request : ValidationChainRequest) :
    Except PyError (StepVerdict × Json × Json) :=
  match s.validators.get? stage with
  | some validator =>
    match consult rt ops validator stage request with
    | .ok found => .ok found
    | .error text => .ok (.fail, .str s!"Stage {stage.value} error: {text}",
        .obj [("error", .str text)])
  | none => (defaultValidate ops stage request).map fun found =>
      (found.1, .str found.2.1, .obj found.2.2)

/-- `(end - start).total_seconds() * 1000`. -/
def millis (start finish : DateTime) : ℚ :=
  ops.round (ops.round ((finish.instant - start.instant : ℤ) / 10 ^ 6) * 1000)

/-- A message that is no text, or details that are no dict, are a `ValidationError`. -/
def newStep (stage : ValidationStage) (found : StepVerdict × Json × Json) (durationMs : ℚ) :
    Except PyError ValidationStepResult :=
  match found with
  | (verdict, .str message, .obj details) => .ok {
      stage := stage
      verdict := verdict
      message := message
      details := details
      durationMs := durationMs }
  | _ => .error (.validationError "ValidationStepResult")

def skippedStep (stage : ValidationStage) : ValidationStepResult where
  stage := stage
  verdict := .skip
  message := s!"Stage {stage.value} skipped by request"
  skipped := true
  skipReason := some "Excluded in skip_stages"

/-- The variables of the loop. -/
structure Progress where
  steps : List ValidationStepResult := []
  blockingStage : Option ValidationStage := none
  blockingMessage : Option String := none

/-- A judged step is entered, and blocks when it failed. -/
def Progress.enter (p : Progress) (step : ValidationStepResult) : Progress :=
  if step.failed then ⟨p.steps ++ [step], some step.stage, some step.message⟩
  else { p with steps := p.steps ++ [step] }

/-- `for stage in VALIDATION_STAGE_ORDER`. -/
def runStages (request : ValidationChainRequest) :
    List ValidationStage → Progress → Method ValidationChainService Progress
  | [], p => pure p
  | stage :: stages, p => do
    let stepStart ← Method.draw
    if stage ∈ request.skipStages then
      runStages request stages { p with steps := p.steps ++ [skippedStep stage] }
    else
      let s ← Method.self
      let found ← Method.lift (judge rt ops s stage request)
      let stepEnd ← Method.draw
      let step ← Method.lift (newStep stage found (millis ops (rt.now stepStart) (rt.now stepEnd)))
      if step.failed ∧ request.failFast then
        return p.enter step
      else
        runStages request stages (p.enter step)

def countOf (verdict : StepVerdict) (steps : List ValidationStepResult) : ℕ :=
  steps.countP fun s => s.verdict = verdict

def outcomeOf (steps : List ValidationStepResult) : ChainOutcome :=
  if 0 < countOf .fail steps then .blocked
  else if 0 < countOf .warn steps then .warnReleased
  else .released

def newResponse (request : ValidationChainRequest) (runId : String) (p : Progress)
    (start finish : DateTime) : ValidationChainResponse where
  id := runId
  pilotCaseId := request.pilotCaseId
  tenantId := request.tenantId
  outcome := outcomeOf p.steps
  steps := p.steps
  totalSteps := p.steps.length
  passedSteps := countOf .pass p.steps
  warnedSteps := countOf .warn p.steps
  failedSteps := countOf .fail p.steps
  skippedSteps := countOf .skip p.steps
  blockingStage := p.blockingStage
  blockingMessage := p.blockingMessage
  durationMs := millis ops start finish
  metadata := request.metadata
  createdAt := start

def runChain (request : ValidationChainRequest) :
    Method ValidationChainService ValidationChainResponse := do
  let runId ← Method.draw
  let start ← Method.draw
  let p ← runStages rt ops request validationStageOrder {}
  let finish ← Method.draw
  let response := newResponse ops request (rt.uuid4 runId) p (rt.now start) (rt.now finish)
  Method.assign fun s => { s with runs := s.runs.set response.id ⟨response, request.tenantId⟩ }
  return response

def getRun (s : ValidationChainService) (runId : String) : Option ValidationChainResponse :=
  (s.runs.get? runId).map ChainRun.response

/-! ### Stopping at the first failure -/

variable {rt : Runtime} {ops : ValueOps}

/-- The validators do not look at whether the run stops at the first failure. -/
def Blind (s : ValidationChainService) : Prop :=
  ∀ stage validator, s.validators.get? stage = some validator →
    ∀ stage' request b, validator stage' { request with failFast := b } = validator stage' request

/-- The steps up to the first failed one. -/
def upToFailure : List ValidationStepResult → List ValidationStepResult
  | [] => []
  | step :: steps => if step.failed then [step] else step :: upToFailure steps

def firstFailed (steps : List ValidationStepResult) : Option ValidationStepResult :=
  steps.find? ValidationStepResult.failed

def lastFailed (steps : List ValidationStepResult) : Option ValidationStepResult :=
  (steps.filter ValidationStepResult.failed).getLast?

theorem lastFailed_upToFailure (steps : List ValidationStepResult) :
    lastFailed (upToFailure steps) = firstFailed steps := by
  induction steps with
  | nil => rfl
  | cons step steps ih =>
    unfold lastFailed firstFailed at ih ⊢
    cases h : step.failed with
    | true => simp [upToFailure, h]
    | false => simp [upToFailure, h, ih]

theorem upToFailure_of_none {steps : List ValidationStepResult} (h : ∀ s ∈ steps, ¬ s.failed) :
    upToFailure steps = steps := by
  induction steps with
  | nil => rfl
  | cons step steps ih =>
    obtain ⟨hstep, hsteps⟩ := List.forall_mem_cons.mp h
    rw [upToFailure, if_neg hstep, ih hsteps]

theorem countOf_fail_pos {steps : List ValidationStepResult} :
    0 < countOf .fail steps ↔ ∃ s ∈ steps, s.failed := by
  unfold countOf ValidationStepResult.failed
  rw [List.countP_pos_iff]

theorem failed_upToFailure {steps : List ValidationStepResult} :
    (∃ s ∈ upToFailure steps, s.failed) ↔ ∃ s ∈ steps, s.failed := by
  induction steps with
  | nil => rfl
  | cons step steps ih =>
    cases h : step.failed with
    | true => simp [upToFailure, h]
    | false => simp [upToFailure, h, ih]

/-- Cutting the steps behind the first failed one does not change what they come to. -/
theorem outcomeOf_upToFailure (steps : List ValidationStepResult) :
    outcomeOf (upToFailure steps) = outcomeOf steps := by
  by_cases h : ∃ s ∈ steps, s.failed
  · unfold outcomeOf
    rw [if_pos (countOf_fail_pos.mpr h), if_pos (countOf_fail_pos.mpr (failed_upToFailure.mpr h))]
  · rw [upToFailure_of_none fun s hs hfailed => h ⟨s, hs, hfailed⟩]

/-- What the variables of the loop say blocks is the last step that failed. -/
structure Progress.Told (p : Progress) : Prop where
  stage : p.blockingStage = (lastFailed p.steps).map ValidationStepResult.stage
  message : p.blockingMessage = (lastFailed p.steps).map ValidationStepResult.message

theorem lastFailed_concat (steps : List ValidationStepResult) (step : ValidationStepResult) :
    lastFailed (steps ++ [step]) = if step.failed then some step else lastFailed steps := by
  unfold lastFailed
  cases h : step.failed <;> simp [h]

theorem Progress.Told.enter {p : Progress} (h : p.Told) (step : ValidationStepResult) :
    (p.enter step).Told := by
  unfold Progress.enter
  by_cases hfailed : step.failed
  · rw [if_pos hfailed]
    exact ⟨by rw [lastFailed_concat, if_pos hfailed]; rfl,
      by rw [lastFailed_concat, if_pos hfailed]; rfl⟩
  · rw [if_neg hfailed]
    exact ⟨by rw [lastFailed_concat, if_neg hfailed]; exact h.stage,
      by rw [lastFailed_concat, if_neg hfailed]; exact h.message⟩

theorem Progress.Told.skip {p : Progress} (h : p.Told) (stage : ValidationStage) :
    ({ p with steps := p.steps ++ [skippedStep stage] } : Progress).Told := by
  have hnot : ¬ (skippedStep stage).failed := by simp [skippedStep, ValidationStepResult.failed]
  exact ⟨by rw [lastFailed_concat, if_neg hnot]; exact h.stage,
    by rw [lastFailed_concat, if_neg hnot]; exact h.message⟩

@[simp] theorem Progress.enter_steps (p : Progress) (step : ValidationStepResult) :
    (p.enter step).steps = p.steps ++ [step] := by
  unfold Progress.enter
  split <;> rfl

/-- The step of a stage that is not skipped, judged between two readings of the clock. -/
def stepOf (rt : Runtime) (ops : ValueOps) (s : ValidationChainService) (stage : ValidationStage)
    (request : ValidationChainRequest) (n : ℕ) : Except (PyError × ℕ) ValidationStepResult :=
  match judge rt ops s stage request with
  | .error e => .error (e, 1)
  | .ok found =>
    match newStep stage found (millis ops (rt.now n) (rt.now (n + 1))) with
    | .error e => .error (e, 2)
    | .ok step => .ok step

variable (rt ops) in
theorem run_stages_cons (request : ValidationChainRequest) (stage : ValidationStage)
    (stages : List ValidationStage) (p : Progress) (w : World ValidationChainService) :
    (runStages rt ops request (stage :: stages) p).run w =
      if stage ∈ request.skipStages then
        (runStages rt ops request stages { p with steps := p.steps ++ [skippedStep stage] }).run
          ⟨w.self, w.env.tick 1⟩
      else
        match stepOf rt ops w.self stage request w.env.draws with
        | .error (e, k) => .error e ⟨w.self, w.env.tick k⟩
        | .ok step =>
          if step.failed ∧ request.failFast then .ok (p.enter step) ⟨w.self, w.env.tick 2⟩
          else (runStages rt ops request stages (p.enter step)).run ⟨w.self, w.env.tick 2⟩ := by
  rw [runStages, EStateM.run_bind, Method.run_draw_tick]
  dsimp only
  split
  · rfl
  · simp only [EStateM.run_bind, Method.run_self, stepOf]
    cases judge rt ops w.self stage request with
    | error e => rfl
    | ok found =>
      simp only [Method.run_lift_ok, Method.run_draw_tick, Env.tick_draws, Env.tick_tick]
      cases newStep stage found (millis ops (rt.now w.env.draws) (rt.now (w.env.draws + 1))) with
      | error e => rfl
      | ok step =>
        simp only [Method.run_lift_ok]
        split <;> rfl

theorem stepOf_blind {s : ValidationChainService} (h : Blind s) (stage : ValidationStage)
    (request : ValidationChainRequest) (b : Bool) (n : ℕ) :
    stepOf rt ops s stage { request with failFast := b } n = stepOf rt ops s stage request n := by
  have hjudge : judge rt ops s stage { request with failFast := b } =
      judge rt ops s stage request := by
    unfold judge
    cases hget : s.validators.get? stage with
    | none => rfl
    | some validator =>
      have hsame := h stage validator hget stage request b
      simp only [consult, hsame]
  unfold stepOf
  rw [hjudge]

theorem runStages_told {request : ValidationChainRequest} {stages : List ValidationStage}
    {p p' : Progress} {w w' : World ValidationChainService} (hp : p.Told)
    (h : (runStages rt ops request stages p).run w = .ok p' w') : p'.Told := by
  induction stages generalizing p w with
  | nil =>
    rw [runStages, Method.run_pure] at h
    cases h
    exact hp
  | cons stage stages ih =>
    rw [run_stages_cons] at h
    split at h
    · exact ih (hp.skip stage) h
    · split at h
      · cases h
      · next step _ =>
        split at h
        · cases h
          exact hp.enter step
        · exact ih (hp.enter step) h

theorem runStages_extends {request : ValidationChainRequest} {stages : List ValidationStage}
    {p p' : Progress} {w w' : World ValidationChainService}
    (h : (runStages rt ops request stages p).run w = .ok p' w') :
    ∃ more, p'.steps = p.steps ++ more := by
  induction stages generalizing p w with
  | nil =>
    rw [runStages, Method.run_pure] at h
    cases h
    exact ⟨[], (List.append_nil _).symm⟩
  | cons stage stages ih =>
    rw [run_stages_cons] at h
    split at h
    · obtain ⟨more, hmore⟩ := ih h
      exact ⟨skippedStep stage :: more, by rw [hmore, List.append_assoc]; rfl⟩
    · split at h
      · cases h
      · next step _ =>
        split at h
        · cases h
          exact ⟨[step], p.enter_steps step⟩
        · obtain ⟨more, hmore⟩ := ih h
          exact ⟨step :: more, by rw [hmore, p.enter_steps, List.append_assoc]; rfl⟩

variable (rt ops) in
/-- A loop that stops at the first failure, against one that goes on. -/
theorem runStages_cut {s : ValidationChainService} (hblind : Blind s)
    (request : ValidationChainRequest) (stages : List ValidationStage) (p : Progress) (env : Env) :
    match (runStages rt ops { request with failFast := true } stages p).run ⟨s, env⟩ with
    | .error e v =>
      (runStages rt ops { request with failFast := false } stages p).run ⟨s, env⟩ = .error e v
    | .ok fast v => ∃ taken, fast.steps = p.steps ++ taken ∧
        ((∀ step ∈ taken, ¬ step.failed) →
          (runStages rt ops { request with failFast := false } stages p).run ⟨s, env⟩ =
            .ok fast v) ∧
        ∀ full v', (runStages rt ops { request with failFast := false } stages p).run ⟨s, env⟩ =
          .ok full v' → ∃ all, full.steps = p.steps ++ all ∧ taken = upToFailure all := by
  induction stages generalizing p env with
  | nil =>
    refine ⟨[], (List.append_nil _).symm, fun _ => rfl, fun full v' h => ?_⟩
    cases h
    exact ⟨[], (List.append_nil _).symm, rfl⟩
  | cons stage stages ih =>
    -- what holds behind one more step that did not fail
    have hcons : ∀ {step : ValidationStepResult} {p' : Progress}
        {m : Method ValidationChainService Progress} {w : World ValidationChainService}
        {fast : Progress} {v : World ValidationChainService}, ¬ step.failed →
        p'.steps = p.steps ++ [step] → (∃ taken, fast.steps = p'.steps ++ taken ∧
          ((∀ step ∈ taken, ¬ step.failed) → m.run w = .ok fast v) ∧
          ∀ full v', m.run w = .ok full v' →
            ∃ all, full.steps = p'.steps ++ all ∧ taken = upToFailure all) →
        ∃ taken, fast.steps = p.steps ++ taken ∧
          ((∀ step ∈ taken, ¬ step.failed) → m.run w = .ok fast v) ∧
          ∀ full v', m.run w = .ok full v' →
            ∃ all, full.steps = p.steps ++ all ∧ taken = upToFailure all := by
      rintro step p' m w fast v hstep hsteps ⟨taken, hfast, hsame, hcut⟩
      refine ⟨step :: taken, by rw [hfast, hsteps, List.append_assoc]; rfl, fun h => ?_, ?_⟩
      · exact hsame (List.forall_mem_cons.mp h).2
      · intro full v' hfull
        obtain ⟨all, hall, rfl⟩ := hcut full v' hfull
        exact ⟨step :: all, by rw [hall, hsteps, List.append_assoc]; rfl,
          by rw [upToFailure, if_neg hstep]⟩
    rw [run_stages_cons, run_stages_cons]
    simp only [stepOf_blind hblind]
    by_cases hskip : stage ∈ request.skipStages
    · simp only [hskip, ↓reduceIte]
      have hrest := ih { p with steps := p.steps ++ [skippedStep stage] } (env.tick 1)
      revert hrest
      cases (runStages rt ops { request with failFast := true } stages _).run ⟨s, env.tick 1⟩ with
      | error e v => exact id
      | ok fast v =>
        exact hcons (by simp [skippedStep, ValidationStepResult.failed]) rfl
    · simp only [hskip, ↓reduceIte]
      cases stepOf rt ops s stage request env.draws with
      | error e => rfl
      | ok step =>
        by_cases hfailed : step.failed
        · simp only [hfailed, and_self, ↓reduceIte, Bool.false_eq_true, and_false]
          refine ⟨[step], p.enter_steps step, fun h => ?_, fun full v' hfull => ?_⟩
          · exact absurd hfailed (h step List.mem_cons_self)
          · obtain ⟨more, hmore⟩ := runStages_extends hfull
            rw [p.enter_steps] at hmore
            exact ⟨step :: more, by rw [hmore, List.append_assoc]; rfl,
              by rw [upToFailure, if_pos hfailed]⟩
        · simp only [hfailed, Bool.false_eq_true, false_and, ↓reduceIte]
          have hrest := ih (p.enter step) (env.tick 2)
          revert hrest
          cases (runStages rt ops { request with failFast := true } stages _).run ⟨s, env.tick 2⟩ with
          | error e v => exact id
          | ok fast v => exact hcons hfailed (p.enter_steps step)

theorem run_chain (request : ValidationChainRequest) (w : World ValidationChainService) :
    (runChain rt ops request).run w =
      match (runStages rt ops request validationStageOrder {}).run ⟨w.self, w.env.tick 2⟩ with
      | .error e v => .error e v
      | .ok p v =>
        let response := newResponse ops request (rt.uuid4 w.env.draws) p (rt.now (w.env.draws + 1))
          (rt.now v.env.draws)
        .ok response ⟨{ v.self with runs := v.self.runs.set response.id ⟨response, request.tenantId⟩ },
          v.env.tick 1⟩ := by
  unfold runChain
  simp only [EStateM.run_bind, Method.run_draw_tick, Env.tick_tick, Env.tick_draws]
  cases (runStages rt ops request validationStageOrder {}).run ⟨w.self, w.env.tick 2⟩ <;> rfl

/-- A run that stopped at the first failure says of the run that would have gone on: its steps are
that run's up to the first failed one, it comes to the same, and it blames the first failed stage
where the other blames the last. -/
structure Foretells (fast full : ValidationChainResponse) : Prop where
  steps : fast.steps = upToFailure full.steps
  outcome : fast.outcome = full.outcome
  blockingStage : fast.blockingStage = (firstFailed full.steps).map ValidationStepResult.stage
  blockingMessage : fast.blockingMessage = (firstFailed full.steps).map ValidationStepResult.message
  lastStage : full.blockingStage = (lastFailed full.steps).map ValidationStepResult.stage
  lastMessage : full.blockingMessage = (lastFailed full.steps).map ValidationStepResult.message

/-- Of what a run that stops at the first failure ends in, against what a run that goes on ends
in. -/
def Anticipates (fast full : EStateM.Result PyError (World ValidationChainService)
    ValidationChainResponse) : Prop :=
  match fast with
  | .error _ _ => full = fast
  | .ok response _ => (response.failedSteps = 0 → full = fast) ∧
      ∀ response' w', full = .ok response' w' → Foretells response response'

/-- Whatever the validators are, as long as they do not look at the flag: a run that raises or finds
no failure is the same whether or not it stops at the first failure, and one that finds a failure
comes to what the other comes to. -/
theorem runChain_failFast (rt : Runtime) (ops : ValueOps) (request : ValidationChainRequest)
    (w : World ValidationChainService) (hblind : Blind w.self) :
    Anticipates ((runChain rt ops { request with failFast := true }).run w)
      ((runChain rt ops { request with failFast := false }).run w) := by
  have hcut := runStages_cut rt ops hblind request validationStageOrder {}
    (w.env.tick 2)
  have htold : ∀ {b p v}, (runStages rt ops { request with failFast := b } validationStageOrder {}).run
      ⟨w.self, w.env.tick 2⟩ = .ok p v → p.Told := fun h => runStages_told ⟨rfl, rfl⟩ h
  rw [run_chain, run_chain]
  revert hcut
  cases hfast : (runStages rt ops { request with failFast := true } validationStageOrder {}).run
    ⟨w.self, w.env.tick 2⟩ with
  | error e v =>
    intro hfull
    rw [Anticipates, hfull]
  | ok fast v =>
    rintro ⟨taken, hsteps, hsame, hcut⟩
    rw [List.nil_append] at hsteps
    refine ⟨fun hnone => ?_, fun response' w' hfull => ?_⟩
    · have hno : ∀ step ∈ taken, ¬ step.failed := by
        intro step hstep hfailed
        have hpos := countOf_fail_pos.mpr ⟨step, hsteps ▸ hstep, hfailed⟩
        exact absurd hnone hpos.ne'
      rw [hsame hno]
      rfl
    · revert hcut hfull
      cases hrun : (runStages rt ops { request with failFast := false } validationStageOrder {}).run
        ⟨w.self, w.env.tick 2⟩ with
      | error e v' =>
        intro _ hfull
        cases hfull
      | ok full v' =>
        intro hcut hfull
        obtain ⟨all, hall, rfl⟩ := hcut full v' rfl
        rw [List.nil_append] at hall
        have hfirst := htold hfast
        have hlast := htold hrun
        cases hfull
        refine ⟨by rw [newResponse, newResponse, hsteps, hall], ?_, ?_, ?_, hlast.stage,
          hlast.message⟩
        · simp only [newResponse, hsteps, hall, outcomeOf_upToFailure]
        · simp only [newResponse, hfirst.stage, hsteps, hall, lastFailed_upToFailure]
        · simp only [newResponse, hfirst.message, hsteps, hall, lastFailed_upToFailure]

/-- A chain whose evidence is refused by a registered validator. -/
def refusing : ValidationChainService :=
  new.registerValidator .evidence fun _ _ => .ok (.obj [("verdict", .str "fail")])

theorem runChain_failFast_refusing : Anticipates
    ((runChain .reference .exact ⟨"case", "acme", none, [], none, none, [], true, []⟩).run
      ⟨refusing, .initial "acme"⟩)
    ((runChain .reference .exact ⟨"case", "acme", none, [], none, none, [], false, []⟩).run
      ⟨refusing, .initial "acme"⟩) := by
  apply runChain_failFast .reference .exact ⟨"case", "acme", none, [], none, none, [], true, []⟩
  intro stage validator h stage' request b
  rw [refusing, registerValidator, Dict.get?_set] at h
  split at h
  · cases h
    rfl
  · cases h

/-! ### What a run leaves behind -/

variable (rt ops) in
theorem runStages_after (request : ValidationChainRequest) (stages : List ValidationStage)
    (p : Progress) (w : World ValidationChainService) :
    ∃ k, (runStages rt ops request stages p).after w = ⟨w.self, w.env.tick k⟩ := by
  induction stages generalizing p w with
  | nil => exact ⟨0, rfl⟩
  | cons stage stages ih =>
    have hlater : ∀ (k : ℕ) (p' : Progress), ∃ l,
        (runStages rt ops request stages p').after ⟨w.self, w.env.tick k⟩ = ⟨w.self, w.env.tick l⟩ := by
      intro k p'
      obtain ⟨l, hl⟩ := ih p' ⟨w.self, w.env.tick k⟩
      exact ⟨k + l, by rw [hl, Env.tick_tick]⟩
    have hrun := run_stages_cons rt ops request stage stages p w
    unfold Method.after at hlater ⊢
    rw [hrun]
    by_cases hskip : stage ∈ request.skipStages
    · rw [if_pos hskip]
      exact hlater 1 _
    · rw [if_neg hskip]
      cases stepOf rt ops w.self stage request w.env.draws with
      | error e => exact ⟨e.2, rfl⟩
      | ok step =>
        dsimp only
        by_cases hstop : step.failed ∧ request.failFast
        · rw [if_pos hstop]
          exact ⟨2, rfl⟩
        · rw [if_neg hstop]
          exact hlater 2 _

/-- A run either raises and stores nothing, or is stored under a drawn identifier. -/
inductive Effect (rt : Runtime) (request : ValidationChainRequest) (w : World ValidationChainService) :
    EStateM.Result PyError (World ValidationChainService) ValidationChainResponse → Prop
  | raised (e : PyError) (k : ℕ) : Effect rt request w (.error e ⟨w.self, w.env.tick k⟩)
  | stored (r : ValidationChainResponse) (k : ℕ) (hid : r.id = rt.uuid4 w.env.draws)
      (hcase : r.pilotCaseId = request.pilotCaseId) (htenant : r.tenantId = request.tenantId)
      (houtcome : r.outcome = outcomeOf r.steps) :
      Effect rt request w (.ok r ⟨{ w.self with
        runs := w.self.runs.set r.id ⟨r, request.tenantId⟩ }, w.env.tick (k + 1)⟩)

variable (rt ops) in
theorem runChain_effect (request : ValidationChainRequest) (w : World ValidationChainService) :
    Effect rt request w ((runChain rt ops request).run w) := by
  obtain ⟨k, hk⟩ := runStages_after rt ops request validationStageOrder {}
    ⟨w.self, w.env.tick 2⟩
  rw [run_chain]
  unfold Method.after at hk
  revert hk
  cases (runStages rt ops request validationStageOrder {}).run ⟨w.self, w.env.tick 2⟩ with
  | error e v =>
    intro hk
    dsimp only at hk
    rw [hk, Env.tick_tick]
    exact .raised e _
  | ok p v =>
    intro hk
    dsimp only at hk
    rw [hk, Env.tick_tick]
    exact .stored _ (2 + k) rfl rfl rfl rfl

end ValidationChainService
end ControlFabric.Services
