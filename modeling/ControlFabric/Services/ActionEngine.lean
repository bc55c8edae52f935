import ControlFabric.Services.ControlFabricService
import ControlFabric.Services.ValidationChain
import ControlFabric.Lib.Run

/-! The action engine of the tenant services over a validation chain: candidate actions, what is
done about each of them over a run, and what its state says of it. -/
namespace ControlFabric.Services
open Lib
open Fabric.Reconciliation (ValueOps)

inductive ActionType where
  | billingAdjustment
  | contractFlag
  | dispatchOrder
  | escalation
  | notification
  | workflowTrigger
  | remediation
  | auditEntry
  deriving DecidableEq

inductive ActionStatus where
  | candidate
  | validating
  | released
  | blocked
  | escalated
  | executed
  | rolledBack
  | expired
  deriving DecidableEq

structure CandidateActionCreate where
  pilotCaseId : String
  actionType : ActionType
  label : String
  description : Option String := none
  payload : JsonDict := []
  evidenceRefs : List String := []
  sourceObjectIds : List String := []
  confidence : Share := ⟨1, Share.one_mem⟩
  priority : Fin 11 := 5
  requiresApproval : Bool := false
  metadata : JsonDict := []

structure CandidateAction where
  id : String
  pilotCaseId : String
  tenantId : String
  actionType : ActionType
  label : String
  description : Option String
  payload : JsonDict
  status : ActionStatus
  evidenceRefs : List String
  sourceObjectIds : List String
  confidence : ℚ
  priority : ℕ
  requiresApproval : Bool
  validationChainId : Option String
  blockingReason : Option String
  releasedAt : Option DateTime
  executedAt : Option DateTime
  metadata : JsonDict
  createdAt : DateTime

structure ActionReleaseRequest where
  releasedBy : String
  reasoning : Option String := none
  override : Bool := false

structure ActionBlockRequest where
  blockedBy : String
  blockingReason : String
  escalate : Bool := false

structure ActionEngineService where
  validationChain : Option ValidationChainService
  actions : Dict String CandidateAction

namespace ActionEngineService
variable (rt : Runtime) (ops : ValueOps)

def new (validationChain : Option ValidationChainService) : ActionEngineService :=
  ⟨validationChain, Dict.empty⟩

def newAction (tenantId : String) (create : CandidateActionCreate) (n : ℕ) : CandidateAction where
  id := rt.uuid4 n
  pilotCaseId := create.pilotCaseId
  tenantId := tenantId
  actionType := create.actionType
  label := create.label
  description := create.description
  payload := create.payload
  status := .candidate
  evidenceRefs := create.evidenceRefs
  sourceObjectIds := create.sourceObjectIds
  confidence := create.confidence
  priority := create.priority
  requiresApproval := create.requiresApproval
  validationChainId := none
  blockingReason := none
  releasedAt := none
  executedAt := none
  metadata := create.metadata
  createdAt := rt.now (n + 1)

def createCandidate (tenantId : String) (create : CandidateActionCreate) :
    Method ActionEngineService CandidateAction := do
  let n ← Method.draw
  let _ ← Method.draw
  let action := newAction rt tenantId create n
  Method.assign fun s => { s with actions := s.actions.set action.id action }
  return action

/-- An action that is not there is left alone. -/
def edit (actionId : String) (change : CandidateAction → CandidateAction) :
    Method ActionEngineService (Option CandidateAction) := do
  let s ← Method.self
  match s.actions.get? actionId with
  | none => return none
  | some action =>
    Method.assign fun s => { s with actions := s.actions.set actionId (change action) }
    return some (change action)

/-- The same, with the time written down. -/
def stamp (actionId : String) (change : DateTime → CandidateAction → CandidateAction) :
    Method ActionEngineService (Option CandidateAction) := do
  let s ← Method.self
  match s.actions.get? actionId with
  | none => return none
  | some _ =>
    let n ← Method.draw
    edit actionId (change (rt.now n))

def released (now : DateTime) (action : CandidateAction) : CandidateAction :=
  { action with status := .released, releasedAt := some now }

def chainRequest (actionId : String) (action : CandidateAction) (context : Option JsonDict) :
    ValidationChainRequest where
  pilotCaseId := action.pilotCaseId
  tenantId := action.tenantId
  candidateActionId := some actionId
  context := context.getD []

/-- An exception of the chain leaves the action validating. -/
def validateAndRelease (actionId : String) (context : Option JsonDict) :
    Method ActionEngineService (Option CandidateAction) := do
  let s ← Method.self
  match s.actions.get? actionId with
  | none => return none
  | some action =>
    let _ ← edit actionId fun a => { a with status := .validating }
    match s.validationChain with
    | none => stamp rt actionId released
    | some chain =>
      let result ← Method.on (fun s => s.validationChain.getD chain)
        (fun chain s => { s with validationChain := some chain })
        (ValidationChainService.runChain rt ops (chainRequest actionId action context))
      let _ ← edit actionId fun a => { a with validationChainId := some result.id }
      match result.outcome with
      | .released | .warnReleased => stamp rt actionId released
      | .blocked => edit actionId fun a =>
          { a with status := .blocked, blockingReason := result.blockingMessage }
      | .escalated => edit actionId fun a => { a with status := .escalated }

/-- Neither the status nor `override` is asked. -/
def release (actionId : String) (_request : ActionReleaseRequest) :
    Method ActionEngineService (Option CandidateAction) :=
  stamp rt actionId released

def block (actionId : String) (request : ActionBlockRequest) :
    Method ActionEngineService (Option CandidateAction) :=
  edit actionId fun a => { a with
    status := if request.escalate then .escalated else .blocked
    blockingReason := some request.blockingReason }

def markExecuted (actionId : String) : Method ActionEngineService (Option CandidateAction) :=
  stamp rt actionId fun now a => { a with status := .executed, executedAt := some now }

def rollback (actionId : String) : Method ActionEngineService (Option CandidateAction) :=
  edit actionId fun a => { a with status := .rolledBack }

end ActionEngineService

/-! ### Runs of the engine -/

/-- A call of the engine or of the chain it was given. -/
inductive ActionCall where
  | createCandidate (tenantId : String) (create : CandidateActionCreate)
  | validateAndRelease (actionId : String) (context : Option JsonDict)
  | release (actionId : String) (request : ActionReleaseRequest)
  | block (actionId : String) (request : ActionBlockRequest)
  | markExecuted (actionId : String)
  | rollback (actionId : String)
  | registerValidator (stage : ValidationStage) (validator : Validator)
  | runChain (request : ValidationChainRequest)

section Steps
variable (rt : Runtime) (ops : ValueOps)

/-- A method of the chain the engine was given, if it was given one. -/
def onChain (m : Method ValidationChainService Unit) (w : World ActionEngineService) :
    World ActionEngineService :=
  match w.self.validationChain with
  | none => w
  | some chain =>
    let v := m.after ⟨chain, w.env⟩
    ⟨{ w.self with validationChain := some v.self }, v.env⟩

open ActionEngineService in
def actionStep (call : ActionCall) (w : World ActionEngineService) : World ActionEngineService :=
  match call with
  | .createCandidate tenantId create => (createCandidate rt tenantId create).after w
  | .validateAndRelease actionId context =>
    (ActionEngineService.validateAndRelease rt ops actionId context).after w
  | .release actionId request => (ActionEngineService.release rt actionId request).after w
  | .block actionId request => (ActionEngineService.block actionId request).after w
  | .markExecuted actionId => (ActionEngineService.markExecuted rt actionId).after w
  | .rollback actionId => (ActionEngineService.rollback actionId).after w
  | .registerValidator stage validator =>
    onChain (Method.assign (ValidationChainService.registerValidator stage validator)) w
  | .runChain request => onChain (discard (ValidationChainService.runChain rt ops request)) w

/-- What is done about an action. -/
inductive Deed where
  | validated (run : ValidationChainResponse)
  | unchecked
  | interrupted
  | released
  | blocked (request : ActionBlockRequest)
  | executed
  | rolledBack

def Deed.status : Deed → ActionStatus
  | validated run =>
    match run.outcome with
    | .released | .warnReleased => .released
    | .blocked => .blocked
    | .escalated => .escalated
  | unchecked | released => .released
  | interrupted => .validating
  | blocked request => if request.escalate then .escalated else .blocked
  | executed => .executed
  | rolledBack => .rolledBack

def Deed.run : Deed → Option ValidationChainResponse
  | validated run => some run
  | _ => none

/-- What is written down as the reason when the deed blocks. -/
def Deed.reason : Deed → Option (Option String)
  | validated run => if run.outcome = .blocked then some run.blockingMessage else none
  | blocked request => some (some request.blockingReason)
  | _ => none

/-- What a call does, about which action, and at what reading of the clock: the one there is once the
chain has been run, if it is. -/
def ActionCall.deeds (call : ActionCall) (w : World ActionEngineService) :
    List (String × Deed × DateTime) :=
  let about (actionId : String) (deed : CandidateAction → Deed × DateTime) :
      List (String × Deed × DateTime) :=
    ((w.self.actions.get? actionId).map fun action => (actionId, deed action)).toList
  let now := rt.now w.env.draws
  match call with
  | .validateAndRelease actionId context => about actionId fun action =>
      match w.self.validationChain with
      | none => (.unchecked, now)
      | some chain =>
        match (ValidationChainService.runChain rt ops
          (ActionEngineService.chainRequest actionId action context)).run ⟨chain, w.env⟩ with
        | .ok run v => (.validated run, rt.now v.env.draws)
        | .error _ _ => (.interrupted, now)
  | .release actionId _ => about actionId fun _ => (.released, now)
  | .block actionId request => about actionId fun _ => (.blocked request, now)
  | .markExecuted actionId => about actionId fun _ => (.executed, now)
  | .rollback actionId => about actionId fun _ => (.rolledBack, now)
  | _ => []

/-- What has been done over a run. -/
def deeds (calls : List ActionCall) (w : World ActionEngineService) :
    List (String × Deed × DateTime) :=
  trace (actionStep rt ops) (ActionCall.deeds rt ops) w calls

end Steps

variable {rt : Runtime} {ops : ValueOps}

/-- The chain runs the engine can look up. -/
def storedRuns (s : ActionEngineService) : Dict String ChainRun :=
  (s.validationChain.map ValidationChainService.runs).getD Dict.empty

/-- An action after a deed done at the time. -/
def CandidateAction.undergo (a : CandidateAction) (deed : Deed) (now : DateTime) : CandidateAction :=
  { a with
    status := deed.status
    validationChainId := (deed.run.map ValidationChainResponse.id).or a.validationChainId
    blockingReason := deed.reason.getD a.blockingReason
    releasedAt := if deed.status = .released then some now else a.releasedAt
    executedAt := if deed.status = .executed then some now else a.executedAt }

/-- What a deed leaves in the chain: the run it rests on, for the case and the tenant of the
action. -/
def Deed.Recorded (deed : Deed) (rt : Runtime) (w w' : World ActionEngineService)
    (a : CandidateAction) : Prop :=
  match deed with
  | .validated r => storedRuns w'.self = (storedRuns w.self).set r.id ⟨r, a.tenantId⟩ ∧
      r.id = rt.uuid4 w.env.draws ∧ w.env.draws < w'.env.draws ∧ r.tenantId = a.tenantId ∧
      r.pilotCaseId = a.pilotCaseId ∧ r.outcome = ValidationChainService.outcomeOf r.steps
  | _ => storedRuns w'.self = storedRuns w.self

/-- What a call does to actions and stored runs, and what it is said to do. -/
inductive ActionEffect (rt : Runtime) (w w' : World ActionEngineService) :
    List (String × Deed × DateTime) → Prop
  | aside (hdraws : w.env.draws ≤ w'.env.draws) (hactions : w'.self.actions = w.self.actions)
      (hruns : storedRuns w'.self = storedRuns w.self) : ActionEffect rt w w' []
  | ran (r : ChainRun) (hdraws : w.env.draws < w'.env.draws)
      (hactions : w'.self.actions = w.self.actions)
      (hruns : storedRuns w'.self = (storedRuns w.self).set (rt.uuid4 w.env.draws) r) :
      ActionEffect rt w w' []
  | created (a : CandidateAction) (hid : a.id = rt.uuid4 w.env.draws)
      (hdraws : w.env.draws < w'.env.draws) (hblank : a.status = .candidate ∧
        a.validationChainId = none ∧ a.blockingReason = none ∧ a.releasedAt = none ∧ a.executedAt = none)
      (hactions : w'.self.actions = w.self.actions.set a.id a)
      (hruns : storedRuns w'.self = storedRuns w.self) : ActionEffect rt w w' []
  | did (id : String) (a : CandidateAction) (deed : Deed) (now : DateTime)
      (hget : w.self.actions.get? id = some a) (hdraws : w.env.draws ≤ w'.env.draws)
      (hactions : w'.self.actions = w.self.actions.set id (a.undergo deed now))
      (hrecorded : deed.Recorded rt w w' a) : ActionEffect rt w w' [(id, deed, now)]

namespace ActionEngineService

theorem run_edit (actionId : String) (change : CandidateAction → CandidateAction)
    (w : World ActionEngineService) :
    (edit actionId change).run w = match w.self.actions.get? actionId with
      | none => .ok none w
      | some a => .ok (some (change a))
          ⟨{ w.self with actions := w.self.actions.set actionId (change a) }, w.env⟩ := by
  unfold edit
  rw [EStateM.run_bind, Method.run_self]
  dsimp only
  cases w.self.actions.get? actionId <;> rfl

theorem run_stamp (actionId : String) (change : DateTime → CandidateAction → CandidateAction)
    (w : World ActionEngineService) :
    (stamp rt actionId change).run w = match w.self.actions.get? actionId with
      | none => .ok none w
      | some a => .ok (some (change (rt.now w.env.draws) a))
          ⟨{ w.self with actions := w.self.actions.set actionId (change (rt.now w.env.draws) a) },
            w.env.tick 1⟩ := by
  unfold stamp
  rw [EStateM.run_bind, Method.run_self]
  dsimp only
  cases h : w.self.actions.get? actionId with
  | none => rfl
  | some a =>
    dsimp only
    rw [EStateM.run_bind, Method.run_draw_tick]
    dsimp only
    rw [run_edit, h]

/-- A call that changes one action is the deed said of it. -/
theorem edit_effect {actionId : String} {change : CandidateAction → CandidateAction} {deed : Deed}
    {w : World ActionEngineService} (hrun : deed.run = none)
    (hchange : ∀ a, change a = a.undergo deed (rt.now w.env.draws)) :
    ActionEffect rt w ((edit actionId change).after w)
      ((w.self.actions.get? actionId).map fun _ =>
        (actionId, deed, rt.now w.env.draws)).toList := by
  unfold Method.after
  rw [run_edit]
  cases hget : w.self.actions.get? actionId with
  | none => exact .aside le_rfl rfl rfl
  | some a =>
    refine .did actionId a deed (rt.now w.env.draws) hget le_rfl (by rw [← hchange]) ?_
    cases deed with
    | validated => cases hrun
    | _ => rfl

theorem stamp_effect {actionId : String} {change : DateTime → CandidateAction → CandidateAction}
    {deed : Deed} {w : World ActionEngineService} (hrun : deed.run = none)
    (hchange : ∀ now a, change now a = a.undergo deed now) :
    ActionEffect rt w ((stamp rt actionId change).after w)
      ((w.self.actions.get? actionId).map fun _ =>
        (actionId, deed, rt.now w.env.draws)).toList := by
  unfold Method.after
  rw [run_stamp]
  cases hget : w.self.actions.get? actionId with
  | none => exact .aside le_rfl rfl rfl
  | some a =>
    refine .did actionId a deed (rt.now w.env.draws) hget (Nat.le_succ _) (by rw [← hchange]) ?_
    cases deed with
    | validated => cases hrun
    | _ => rfl

theorem validate_effect (actionId : String) (context : Option JsonDict)
    (w : World ActionEngineService) :
    ActionEffect rt w ((validateAndRelease rt ops actionId context).after w)
      ((ActionCall.validateAndRelease actionId context).deeds rt ops w) := by
  obtain ⟨⟨chain?, actions⟩, env⟩ := w
  unfold Method.after validateAndRelease ActionCall.deeds
  rw [EStateM.run_bind, Method.run_self]
  dsimp only
  cases hget : actions.get? actionId with
  | none => exact .aside le_rfl rfl rfl
  | some a =>
    dsimp only
    rw [EStateM.run_bind, run_edit]
    simp only [hget]
    cases chain? with
    | none =>
      dsimp only
      rw [run_stamp]
      simp only [Dict.get?_set_self, Dict.set_set]
      exact .did actionId a .unchecked (rt.now env.draws) hget (Nat.le_succ _) rfl rfl
    | some chain =>
      simp only [EStateM.run_bind, Method.run_on, Option.getD_some, Option.map_some,
        Option.toList_some]
      have hstored : (⟨⟨some chain, actions⟩, env⟩ : World ActionEngineService).self.actions.get?
        actionId = some a := hget
      have heffect := ValidationChainService.runChain_effect rt ops
        (chainRequest actionId a context) ⟨chain, env⟩
      revert heffect
      generalize (ValidationChainService.runChain rt ops (chainRequest actionId a context)).run
        ⟨chain, env⟩ = result
      intro heffect
      cases heffect with
      | raised e k =>
        refine .did actionId a .interrupted (rt.now env.draws) hstored ?_ ?_ rfl
        · exact Nat.le_add_right _ _
        · simp [CandidateAction.undergo, Deed.status, Deed.run, Deed.reason]
      | stored r k hid hcase htenant houtcome =>
        dsimp only
        rw [run_edit]
        simp only [Dict.get?_set_self, Dict.set_set]
        have hlast : r.outcome ≠ .escalated := by
          rw [houtcome]
          unfold ValidationChainService.outcomeOf
          split_ifs <;> decide
        cases hout : r.outcome with
        | escalated => exact absurd hout hlast
        | blocked =>
          dsimp only
          rw [run_edit]
          simp only [Dict.get?_set_self, Dict.set_set]
          refine .did actionId a (.validated r) (rt.now (env.draws + (k + 1))) hstored ?_ ?_ ?_
          · exact Nat.le_add_right _ _
          · simp [CandidateAction.undergo, Deed.status, Deed.run, Deed.reason, hout]
          · exact ⟨rfl, hid, Nat.lt_add_of_pos_right (Nat.succ_pos k), htenant, hcase, houtcome⟩
        | released | warnReleased =>
          dsimp only
          rw [run_stamp]
          simp only [Dict.get?_set_self, Dict.set_set]
          refine .did actionId a (.validated r) (rt.now (env.draws + (k + 1))) hstored ?_ ?_ ?_
          · simp only [Env.tick_draws]
            omega
          · simp [CandidateAction.undergo, Deed.status, Deed.run, Deed.reason, hout, released]
          · refine ⟨rfl, hid, ?_, htenant, hcase, houtcome⟩
            simp only [Env.tick_draws]
            omega

end ActionEngineService

open ActionEngineService in
variable (rt ops) in
theorem action_effect (call : ActionCall) (w : World ActionEngineService) :
    ActionEffect rt w (actionStep rt ops call w) (call.deeds rt ops w) := by
  cases call with
  | createCandidate tenantId create =>
    exact .created (newAction rt tenantId create w.env.draws) rfl
      (Nat.lt_add_of_pos_right (Nat.succ_pos 1)) ⟨rfl, rfl, rfl, rfl, rfl⟩ rfl rfl
  | validateAndRelease actionId context => exact validate_effect actionId context w
  | release actionId request =>
    exact stamp_effect rfl fun now a => by simp [ActionEngineService.released,
      CandidateAction.undergo, Deed.status, Deed.run, Deed.reason]
  | block actionId request =>
    refine edit_effect rfl fun a => ?_
    by_cases h : request.escalate <;>
      simp [CandidateAction.undergo, Deed.status, Deed.run, Deed.reason, h]
  | markExecuted actionId =>
    exact stamp_effect rfl fun now a => by simp [CandidateAction.undergo, Deed.status, Deed.run,
      Deed.reason]
  | rollback actionId =>
    exact edit_effect rfl fun a => by simp [CandidateAction.undergo, Deed.status, Deed.run,
      Deed.reason]
  | registerValidator stage validator =>
    rw [actionStep, onChain]
    cases hchain : w.self.validationChain with
    | none => exact .aside le_rfl rfl rfl
    | some chain =>
      refine .aside le_rfl rfl ?_
      simp [storedRuns, hchain, Method.after, ValidationChainService.registerValidator]
  | runChain request =>
    rw [actionStep, onChain]
    cases hchain : w.self.validationChain with
    | none => exact .aside le_rfl rfl rfl
    | some chain =>
      dsimp only
      rw [Method.after_discard, Method.after]
      have heffect := ValidationChainService.runChain_effect rt ops request
        ⟨chain, w.env⟩
      revert heffect
      generalize (ValidationChainService.runChain rt ops request).run ⟨chain, w.env⟩ = result
      intro heffect
      cases heffect with
      | raised e k =>
        refine .aside (Nat.le_add_right _ _) rfl ?_
        simp [storedRuns, hchain]
      | stored r k hid =>
        refine .ran ⟨r, request.tenantId⟩ (Nat.lt_add_of_pos_right (Nat.succ_pos k)) rfl ?_
        simp [storedRuns, hchain, ← hid]

/-! ### What the state says of what was done -/

/-- What some of the deeds set, each for its action. -/
def facet {β : Type} (f : Deed × DateTime → Option β) (done : List (String × Deed × DateTime)) :
    List (String × β) :=
  done.filterMap fun p => (f p.2).map (Prod.mk p.1)

theorem latest_facet_concat {β : Type} (f : Deed × DateTime → Option β)
    (done : List (String × Deed × DateTime)) (id k : String) (d : Deed × DateTime) : latest (facet f (done ++ [(id, d)])) k =
      if id = k then (f d).or (latest (facet f done) k) else latest (facet f done) k := by
  unfold facet
  rw [List.filterMap_append]
  cases h : f d with
  | none => simp [h]
  | some b =>
    have hone : [(id, d)].filterMap (fun p => (f p.2).map (Prod.mk p.1)) = [(id, b)] := by simp [h]
    rw [hone, latest_concat, Option.some_or]

/-- A run of the chain that an action was validated by. -/
structure Backs (s : ActionEngineService) (a : CandidateAction) (r : ValidationChainResponse) :
    Prop where
  stored : (storedRuns s).get? r.id = some ⟨r, a.tenantId⟩
  tenant : r.tenantId = a.tenantId
  pilotCase : r.pilotCaseId = a.pilotCaseId
  blocked : r.outcome = .blocked ↔ ∃ step ∈ r.steps, step.failed
  decided : r.outcome ≠ .escalated

/-- The time of a deed that gives the status. -/
def timeOf (status : ActionStatus) (d : Deed × DateTime) : Option DateTime :=
  if d.1.status = status then some d.2 else none

/-- An action is what the deeds about it make of it: its status is that of the last one, the run it
names is that of its last validation that did not raise, its reason that of the last one that
blocked it, and its times are those of the last ones that released and executed it. All its runs can
be looked up, and are about its case. -/
structure Accounted (s : ActionEngineService) (done : List (String × Deed × DateTime))
    (a : CandidateAction) : Prop where
  status : a.status = ((latest done a.id).map fun d => d.1.status).getD .candidate
  chainId : a.validationChainId =
    (latest (facet (fun d => d.1.run) done) a.id).map ValidationChainResponse.id
  reason : a.blockingReason = (latest (facet (fun d => d.1.reason) done) a.id).getD none
  released : a.releasedAt = latest (facet (timeOf .released) done) a.id
  executed : a.executedAt = latest (facet (timeOf .executed) done) a.id
  runs : ∀ r now, (a.id, .validated r, now) ∈ done → Backs s a r

namespace Accounted
variable {s s' : ActionEngineService} {done : List (String × Deed × DateTime)} {a : CandidateAction}

theorem frame (h : Accounted s done a) (hruns : ∀ r now, (a.id, Deed.validated r, now) ∈ done →
    (storedRuns s').get? r.id = (storedRuns s).get? r.id) : Accounted s' done a :=
  { h with
    runs := fun r now hr =>
      { h.runs r now hr with stored := by rw [hruns r now hr, (h.runs r now hr).stored] } }

theorem other {id : String} (h : Accounted s done a) (d : Deed × DateTime) (hne : id ≠ a.id) :
    Accounted s (done ++ [(id, d)]) a := by
  have hmem : ∀ d', (a.id, d') ∈ done ++ [(id, d)] ↔ (a.id, d') ∈ done := by
    intro d'
    simp [hne.symm]
  constructor
  · rw [latest_concat, if_neg hne, h.status]
  · rw [latest_facet_concat, if_neg hne, h.chainId]
  · rw [latest_facet_concat, if_neg hne, h.reason]
  · rw [latest_facet_concat, if_neg hne, h.released]
  · rw [latest_facet_concat, if_neg hne, h.executed]
  · exact fun r now hr => h.runs r now ((hmem _).mp hr)

theorem undergo (h : Accounted s done a) (d : Deed) (now : DateTime)
    (hbacks : ∀ r, d = .validated r → Backs s a r) :
    Accounted s (done ++ [(a.id, d, now)]) (a.undergo d now) := by
  have hid : (a.undergo d now).id = a.id := rfl
  constructor
  · rw [hid, latest_concat, if_pos rfl]
    rfl
  · show (d.run.map ValidationChainResponse.id).or a.validationChainId = _
    rw [hid, latest_facet_concat, if_pos rfl, h.chainId]
    cases d.run <;> rfl
  · show d.reason.getD a.blockingReason = _
    rw [hid, latest_facet_concat, if_pos rfl, h.reason]
    cases d.reason <;> rfl
  · show (if d.status = .released then some now else a.releasedAt) = _
    rw [hid, latest_facet_concat, if_pos rfl, h.released, timeOf]
    split_ifs <;> rfl
  · show (if d.status = .executed then some now else a.executedAt) = _
    rw [hid, latest_facet_concat, if_pos rfl, h.executed, timeOf]
    split_ifs <;> rfl
  · intro r now' hr
    have hback : Backs s a r := by
      rcases List.mem_append.mp hr with hold | hnew
      · exact h.runs r now' hold
      · have heq := (Prod.mk.inj (List.mem_singleton.mp hnew)).2
        exact hbacks r (Prod.mk.inj heq).1.symm
    exact ⟨hback.stored, hback.tenant, hback.pilotCase, hback.blocked, hback.decided⟩

end Accounted

/-- Identifiers of actions and of chain runs. -/
def Identified (w : World ActionEngineService) (id : String) : Prop :=
  id ∈ w.self.actions ∨ id ∈ storedRuns w.self

theorem action_names (rt : Runtime) (ops : ValueOps) :
    Names (actionStep rt ops) (fun w => w.env.draws) rt.uuid4 Identified where
  draws_le := by
    intro call w
    have heffect := action_effect rt ops call w
    generalize call.deeds rt ops w = done at heffect
    cases heffect with
    | aside hdraws => exact hdraws
    | ran _ hdraws => exact hdraws.le
    | created _ _ hdraws => exact hdraws.le
    | did _ _ _ _ _ hdraws => exact hdraws
  drawn := by
    intro call w id hmem
    have hnamed : ∀ n, id = rt.uuid4 n → n = w.env.draws →
        w.env.draws < (actionStep rt ops call w).env.draws →
        ∃ n, w.env.draws ≤ n ∧ n < (actionStep rt ops call w).env.draws ∧ id = rt.uuid4 n :=
      fun n hid hn hlt => ⟨n, by omega, by omega, hid⟩
    revert hnamed hmem
    have heffect := action_effect rt ops call w
    generalize call.deeds rt ops w = done at heffect
    generalize actionStep rt ops call w = w' at heffect
    intro hmem hnamed
    unfold Identified at hmem ⊢
    cases heffect with
    | aside _ hactions hruns =>
      rw [hactions, hruns] at hmem
      exact Or.inl hmem
    | ran r hdraws hactions hruns =>
      rw [hactions, hruns, Dict.mem_set] at hmem
      rcases hmem with hmem | rfl | hmem
      · exact Or.inl (Or.inl hmem)
      · exact Or.inr (hnamed _ rfl rfl hdraws)
      · exact Or.inl (Or.inr hmem)
    | created a hid hdraws _ hactions hruns =>
      rw [hactions, hruns, Dict.mem_set] at hmem
      rcases hmem with (rfl | hmem) | hmem
      · exact Or.inr (hnamed _ hid rfl hdraws)
      · exact Or.inl (Or.inl hmem)
      · exact Or.inl (Or.inr hmem)
    | did id' a deed now hget hdraws hactions hrecorded =>
      rw [hactions, Dict.mem_set] at hmem
      rcases hmem with (rfl | hmem) | hmem
      · exact Or.inl (Or.inl (Dict.mem_of_get? hget))
      · exact Or.inl (Or.inl hmem)
      · cases deed with
        | validated r =>
          obtain ⟨hruns, hid, hlt, -⟩ := hrecorded
          rw [hruns, Dict.mem_set] at hmem
          rcases hmem with rfl | hmem
          · exact Or.inr (hnamed _ hid rfl hlt)
          · exact Or.inl (Or.inr hmem)
        | _ =>
          rw [show storedRuns w'.self = storedRuns w.self from hrecorded] at hmem
          exact Or.inl (Or.inr hmem)

/-- What holds of the actions and of what has been done, while the calls are still to come. -/
structure InOrder (rt : Runtime) (ops : ValueOps) (w : World ActionEngineService)
    (done : List (String × Deed × DateTime)) (calls : List ActionCall) : Prop where
  fresh : Fresh (actionStep rt ops) (fun w => w.env.draws) rt.uuid4 Identified w calls
  known : ∀ p ∈ done, p.1 ∈ w.self.actions
  accounted : ∀ id a, w.self.actions.get? id = some a → a.id = id ∧ Accounted w.self done a

theorem InOrder.step (call : ActionCall) (w : World ActionEngineService)
    (done : List (String × Deed × DateTime)) (calls : List ActionCall)
    (h : InOrder rt ops w done (call :: calls)) :
    InOrder rt ops (actionStep rt ops call w) (done ++ call.deeds rt ops w) calls := by
  have hfresh := (action_names rt ops).fresh_step h.fresh
  have hnew : ∀ n, w.env.draws ≤ n → n < (actionStep rt ops call w).env.draws →
      ¬ Identified w (rt.uuid4 n) := fun n hle hlt => (action_names rt ops).not_has h.fresh hle hlt
  suffices hrest : (∀ p ∈ done ++ call.deeds rt ops w, p.1 ∈ (actionStep rt ops call w).self.actions) ∧
      ∀ id a, (actionStep rt ops call w).self.actions.get? id = some a →
        a.id = id ∧ Accounted (actionStep rt ops call w).self (done ++ call.deeds rt ops w) a from
    ⟨hfresh, hrest.1, hrest.2⟩
  -- a stored run is not overwritten by one under a new identifier
  have hgrow : ∀ {s : ActionEngineService} {n : ℕ} {run : ChainRun}, w.env.draws ≤ n →
      n < (actionStep rt ops call w).env.draws →
      storedRuns s = (storedRuns w.self).set (rt.uuid4 n) run →
      ∀ {a : CandidateAction}, Accounted w.self done a → Accounted s done a := by
    intro s n run hle hlt hruns a ha
    refine ha.frame fun r now hr => ?_
    have hne : r.id ≠ rt.uuid4 n := by
      rintro heq
      refine hnew n hle hlt (Or.inr ?_)
      rw [← heq]
      exact Dict.mem_of_get? (ha.runs r now hr).stored
    rw [hruns, Dict.get?_set_of_ne hne]
  have hsame : ∀ {s : ActionEngineService}, storedRuns s = storedRuns w.self →
      ∀ {a : CandidateAction}, Accounted w.self done a → Accounted s done a :=
    fun hruns _ ha => ha.frame fun r _ _ => by rw [hruns]
  have heffect := action_effect rt ops call w
  revert hnew hgrow heffect
  generalize call.deeds rt ops w = deeds
  generalize actionStep rt ops call w = w'
  intro hnew hgrow heffect
  cases heffect with
  | aside hdraws hactions hruns =>
    rw [List.append_nil, hactions]
    exact ⟨h.known, fun id a hget =>
      ⟨(h.accounted id a hget).1, hsame hruns (h.accounted id a hget).2⟩⟩
  | ran r hdraws hactions hruns =>
    rw [List.append_nil, hactions]
    exact ⟨h.known, fun id a hget =>
      ⟨(h.accounted id a hget).1, hgrow le_rfl hdraws hruns (h.accounted id a hget).2⟩⟩
  | created a hid hdraws hblank hactions hruns =>
    rw [List.append_nil, hactions]
    refine ⟨fun p hp => Dict.mem_set.mpr (Or.inr (h.known p hp)), fun id b hget => ?_⟩
    rw [Dict.get?_set] at hget
    split at hget
    next heq =>
      obtain rfl := Option.some.inj hget
      obtain ⟨hstatus, hchain, hreason, hreleased, hexecuted⟩ := hblank
      have hnone : ∀ p ∈ done, p.1 ≠ a.id := by
        rintro p hp heq
        refine hnew w.env.draws le_rfl hdraws (Or.inl ?_)
        rw [← hid, ← heq]
        exact h.known p hp
      have hlatest : ∀ {β : Type} (l : List (String × β)), (∀ p ∈ l, p.1 ≠ a.id) →
          latest l a.id = none := by
        intro β l hl
        unfold latest
        rw [List.filter_eq_nil_iff.mpr (by simpa using hl)]
        rfl
      have hfacet : ∀ {β : Type} (f : Deed × DateTime → Option β), latest (facet f done) a.id = none := by
        intro β f
        refine hlatest _ fun p hp => ?_
        obtain ⟨q, hq, hmap⟩ := List.mem_filterMap.mp hp
        obtain ⟨b, -, rfl⟩ := Option.map_eq_some_iff.mp hmap
        exact hnone q hq
      have hno : ∀ d, (a.id, d) ∉ done := fun d hd => hnone _ hd rfl
      refine ⟨heq.symm, ?_, ?_, ?_, ?_, ?_, fun r now hr => absurd hr (hno _)⟩
      · rw [hlatest done hnone, hstatus]
        rfl
      · rw [hfacet, hchain]
        rfl
      · rw [hfacet, hreason]
        rfl
      · rw [hfacet, hreleased]
      · rw [hfacet, hexecuted]
    next =>
      exact ⟨(h.accounted id b hget).1, hsame hruns (h.accounted id b hget).2⟩
  | did id a deed now hget hdraws hactions hrecorded =>
    obtain ⟨hida, hacc⟩ := h.accounted id a hget
    have hkept : ∀ {b : CandidateAction}, Accounted w.self done b → Accounted w'.self done b := by
      cases deed with
      | validated r =>
        obtain ⟨hruns, hid, hlt, -⟩ := hrecorded
        exact hgrow le_rfl hlt (hid ▸ hruns)
      | _ => exact hsame hrecorded
    have hbacks : ∀ r, deed = .validated r → Backs w'.self a r := by
      rintro r rfl
      obtain ⟨hruns, -, -, htenant, hcase, houtcome⟩ := hrecorded
      refine ⟨by rw [hruns, Dict.get?_set_self], htenant, hcase, ?_, ?_⟩
      · rw [houtcome, ← ValidationChainService.countOf_fail_pos]
        unfold ValidationChainService.outcomeOf
        split_ifs <;> simp_all
      · rw [houtcome]
        unfold ValidationChainService.outcomeOf
        split_ifs <;> decide
    rw [hactions]
    refine ⟨fun p hp => ?_, fun id' b hget' => ?_⟩
    · rcases List.mem_append.mp hp with hold | hmem
      · exact Dict.mem_set.mpr (Or.inr (h.known p hold))
      · obtain rfl := List.mem_singleton.mp hmem
        exact Dict.mem_set.mpr (Or.inl rfl)
    · rw [Dict.get?_set] at hget'
      split at hget'
      next heq =>
        obtain rfl := Option.some.inj hget'
        refine ⟨hida.trans heq.symm, ?_⟩
        have hundergone := (hkept hacc).undergo deed now hbacks
        rwa [hida] at hundergone
      next hne =>
        obtain ⟨hidb, hb⟩ := h.accounted id' b hget'
        exact ⟨hidb, (hkept hb).other (deed, now) (by rw [hidb]; exact Ne.symm hne)⟩

/-- An engine over a chain with the validators, or over none, that nothing has happened to yet. -/
def ActionEngineService.start (validators : Option (Dict ValidationStage Validator)) (env : Env) :
    World ActionEngineService :=
  ⟨ActionEngineService.new (validators.map fun v => ⟨v, Dict.empty⟩), env⟩

/-- Each action is what the deeds about it make of it. -/
def AllAccounted (s : ActionEngineService) (done : List (String × Deed × DateTime)) : Prop :=
  ∀ id a, s.actions.get? id = some a → a.id = id ∧ Accounted s done a

/-- In every run of an engine over a chain with any validators, or over none, whatever is done to
the chain beside it, every action is accounted for. -/
theorem actions_accounted (rt : Runtime) (ops : ValueOps)
    (validators : Option (Dict ValidationStage Validator)) (env : Env) (calls : List ActionCall)
    (huuid : Set.InjOn rt.uuid4 (Set.Iio
      (run (actionStep rt ops) (ActionEngineService.start validators env) calls).env.draws)) :
    AllAccounted (run (actionStep rt ops) (ActionEngineService.start validators env) calls).self
      (deeds rt ops calls (ActionEngineService.start validators env)) := by
  have hruns : storedRuns (ActionEngineService.start validators env).self = Dict.empty := by
    cases validators <;> rfl
  have hstart : InOrder rt ops (ActionEngineService.start validators env) [] calls := by
    refine ⟨⟨huuid, fun id hid => ?_⟩, fun p hp => absurd hp List.not_mem_nil, fun id a hget => ?_⟩
    · rw [Identified, hruns] at hid
      rcases hid with hid | hid <;> exact absurd hid (Dict.not_mem_empty id)
    · cases hget
  have hend := trace_resource (actionStep rt ops) (ActionCall.deeds rt ops)
    (J := InOrder rt ops) InOrder.step hstart
  exact hend.accounted

/-- An order is validated with too little evidence, validated again, executed, and taken back. -/
def validatedTwice : List ActionCall :=
  let id := Runtime.reference.uuid4 0
  [.createCandidate "acme" ⟨"case", .dispatchOrder, "WO-1", none, [], [], [], ⟨1, Share.one_mem⟩, 5,
      false, []⟩,
    .validateAndRelease id (some [("evidence_completeness", .float (1 / 4))]),
    .validateAndRelease id none, .markExecuted id, .rollback id]

theorem actions_accounted_validatedTwice :
    AllAccounted (run (actionStep .reference .exact)
        (ActionEngineService.start (some Dict.empty) (.initial "acme")) validatedTwice).self
      (deeds .reference .exact validatedTwice
        (ActionEngineService.start (some Dict.empty) (.initial "acme"))) := by
  apply actions_accounted
  apply Runtime.reference_uuid4.mono
  apply Set.Iio_subset_Iio
  decide +kernel

end ControlFabric.Services
