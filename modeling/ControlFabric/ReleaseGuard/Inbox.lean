import ControlFabric.ReleaseGuard.BreakGlass
import ControlFabric.Reconciliation.DomainTypes
import ControlFabric.Py.Numbers

/-! The inboxes of approvers: the steps and the exceptions that wait for a decision, the longest
waiting first. After every run an inbox shows what was asked of its approver and not settled since.
-/
namespace ControlFabric.ReleaseGuard
open Lib Py Method Services
open Fabric.Reconciliation (ValueOps)

/-- An entry of the inbox of approvals. -/
structure InboxItem where
  stepId : String
  releaseId : String
  releaseTitle : String
  serviceName : String
  environment : String
  riskLevel : String
  submittedBy : String
  requestedAt : String
  ageHours : ℚ
  slaHours : ℤ
  slaBreached : Bool

/-- An entry of the inbox of exceptions. -/
structure PendingException where
  exceptionId : String
  releaseId : String
  releaseTitle : String
  serviceName : String
  reason : String
  businessJustification : String
  urgency : String
  raisedBy : String
  raisedAt : String
  ageHours : ℚ
  blockedReason : Option String

/-- `text.replace("Z", "+00:00")`. -/
def replaceZ (text : String) : String :=
  String.ofList (text.toList.flatMap fun c => if c = 'Z' then "+00:00".toList else [c])

/-- `(now - since).total_seconds() / 3600`. -/
def hoursBetween (ops : ValueOps) (since now : DateTime) : ℚ :=
  ops.round (ops.round ((now.instant - since.instant : ℤ) / 10 ^ 6) / 3600)

namespace Services
variable (rt : Runtime) (ops : ValueOps)

/-- How long ago the time of the text is. -/
def hoursSince {σ : Type} (text : String) : Method σ ℚ := do
  let now := rt.now (← draw)
  match DateTime.fromisoformat (replaceZ text) with
  | some since => return hoursBetween ops since now
  | none => raise (.valueError s!"Invalid isoformat string: '{text}'")

def describeStep (step : ApprovalStep) : Method Services InboxItem := do
  let release ← getRelease step.releaseId
  let ageHours ← hoursSince rt ops step.requestedAt
  return {
    stepId := step.stepId
    releaseId := step.releaseId
    releaseTitle := release.title
    serviceName := release.serviceName
    environment := release.environment
    riskLevel := release.riskLevel.value
    submittedBy := release.submittedBy
    requestedAt := step.requestedAt
    ageHours := ops.round (roundDigits ageHours 1)
    slaHours := step.slaHours
    slaBreached := step.slaHours < ageHours }

def describeException (exc : ExceptionRequest) : Method Services PendingException := do
  let release ← getRelease exc.releaseId
  let ageHours ← hoursSince rt ops exc.raisedAt
  return {
    exceptionId := exc.exceptionId
    releaseId := exc.releaseId
    releaseTitle := release.title
    serviceName := release.serviceName
    reason := exc.reason
    businessJustification := exc.businessJustification
    urgency := exc.urgency
    raisedBy := exc.raisedBy
    raisedAt := exc.raisedAt
    ageHours := ops.round (roundDigits ageHours 1)
    blockedReason := release.blockedReason }

/-- What is made of each in turn; those of which nothing can be made are passed over. -/
def collect {α β : Type} (describe : α → Method Services β) : List α → Method Services (List β)
  | [] => return []
  | a :: rest => do
    let found ← tryCatch (some <$> describe a) fun _ => return none
    return found.toList ++ (← collect describe rest)

def getPendingInbox (approverEmail : String) : Method Services (List InboxItem) := do
  let pending := (← self).steps.values.filter fun s =>
    s.approverEmail = approverEmail ∧ s.status = .pending
  let result ← collect (describeStep rt ops) pending
  return result.mergeSort fun x y => y.ageHours ≤ x.ageHours

def getPendingForApprover (approverEmail : String) : Method Services (List PendingException) := do
  let pending := (← self).exceptions.values.filter fun e =>
    e.approverEmail = approverEmail ∧ e.status = .pendingApproval
  let result ← collect (describeException rt ops) pending
  return result.mergeSort fun x y => y.ageHours ≤ x.ageHours

end Services

/-! ### What waits -/

/-- An approver is asked under an identifier, or what was asked under it is settled. -/
inductive Asking (α : Type) where
  | asked (id : String) (ask : α)
  | settled (id : String)

def Asking.next {α : Type} (waiting : List (String × α)) : Asking α → List (String × α)
  | asked id ask => waiting ++ [(id, ask)]
  | settled id => waiting.filter fun e => e.1 ≠ id

/-- What was asked and not settled since, as it was asked. -/
def waiting {α : Type} (history : List (Asking α)) : List (String × α) :=
  history.foldl Asking.next []

/-- The request of an approval. -/
structure StepAsk where
  releaseId : String
  approverEmail : String
  slaHours : ℤ
  time : DateTime

def StepAsk.step (id : String) (ask : StepAsk) : ApprovalStep where
  stepId := id
  releaseId := ask.releaseId
  approverId := ask.approverEmail
  approverEmail := ask.approverEmail
  requestedAt := ask.time.isoformat
  slaHours := ask.slaHours

def StepAsk.item (ops : ValueOps) (id : String) (ask : StepAsk) (release : ReleaseRequest)
    (now : DateTime) : InboxItem where
  stepId := id
  releaseId := ask.releaseId
  releaseTitle := release.title
  serviceName := release.serviceName
  environment := release.environment
  riskLevel := release.riskLevel.value
  submittedBy := release.submittedBy
  requestedAt := ask.time.isoformat
  ageHours := ops.round (roundDigits (hoursBetween ops ask.time now) 1)
  slaHours := ask.slaHours
  slaBreached := ask.slaHours < hoursBetween ops ask.time now

/-- The raising of an exception. -/
structure ExceptionAsk where
  releaseId : String
  workspaceId : String
  raisedBy : String
  reason : String
  businessJustification : String
  approverEmail : String
  urgency : String
  time : DateTime

def ExceptionAsk.exception (rt : Runtime) (id : String) (ask : ExceptionAsk) :
    ExceptionRequest where
  exceptionId := id
  releaseId := ask.releaseId
  workspaceId := ask.workspaceId
  raisedBy := ask.raisedBy
  reason := ask.reason
  businessJustification := ask.businessJustification
  urgency := ask.urgency
  approverEmail := ask.approverEmail
  raisedAt := ask.time.isoformat
  auditHash := String.ofList
    ((rt.sha256 s!"{id}{ask.raisedBy}{ask.time.isoformat}").toList.take 16)

def ExceptionAsk.item (ops : ValueOps) (id : String) (ask : ExceptionAsk)
    (release : ReleaseRequest) (now : DateTime) : PendingException where
  exceptionId := id
  releaseId := ask.releaseId
  releaseTitle := release.title
  serviceName := release.serviceName
  reason := ask.reason
  businessJustification := ask.businessJustification
  urgency := ask.urgency
  raisedBy := ask.raisedBy
  raisedAt := ask.time.isoformat
  ageHours := ops.round (roundDigits (hoursBetween ops ask.time now) 1)
  blockedReason := release.blockedReason

/-- The step that a call requests or decides. -/
def stepAskings (rt : Runtime) (call : ServiceCall) (w : World Services) : List (Asking StepAsk) :=
  match call with
  | .guard (.request releaseId approverEmail slaHours) =>
    [.asked (rt.uuid4 w.env.draws) ⟨releaseId, approverEmail, slaHours, rt.now w.env.draws⟩]
  | .guard (.approve stepId _) | .guard (.reject stepId _ _) => [.settled stepId]
  | _ => []

/-- The exception that a call raises, if its release is blocked, or decides. -/
def exceptionAskings (rt : Runtime) (call : ServiceCall) (w : World Services) :
    List (Asking ExceptionAsk) :=
  match call with
  | .guard (.raiseException releaseId workspaceId raisedBy reason businessJustification
      approverEmail urgency) =>
    if (w.self.releases.get? releaseId).any fun r => r.status = .blocked then
      [.asked (rt.uuid4 w.env.draws) ⟨releaseId, workspaceId, raisedBy, reason,
        businessJustification, approverEmail, urgency, rt.now w.env.draws⟩]
    else []
  | .guard (.approveException exceptionId _ _) | .guard (.rejectException exceptionId _ _) =>
    [.settled exceptionId]
  | _ => []

/-- Those whose release is stored, with their release. -/
def due {α : Type} (s : Services) (releaseId : α → String) (l : List α) :
    List (α × ReleaseRequest) :=
  l.filterMap fun a => (s.releases.get? (releaseId a)).map (a, ·)

/-! ### What is read -/

section Reading
variable (rt : Runtime) (ops : ValueOps) {w : World Services}

theorem replaceZ_isoformat (t : DateTime) : replaceZ t.isoformat = t.isoformat := by
  have hnone : 'Z' ∉ t.isoformat.toList := DateTime.not_mem_isoformat (by decide) t
  have hkeep : ∀ l : List Char, 'Z' ∉ l →
      (l.flatMap fun c => if c = 'Z' then "+00:00".toList else [c]) = l := by
    intro l hl
    induction l with
    | nil => rfl
    | cons c l ih =>
      rw [List.mem_cons, not_or] at hl
      obtain ⟨hc, hl⟩ := hl
      rw [List.flatMap_cons, if_neg (Ne.symm hc), ih hl]
      rfl
  rw [replaceZ, hkeep _ hnone, String.ofList_toList]

theorem run_hoursSince {σ : Type} (t : DateTime) (w : World σ) :
    (hoursSince rt ops t.isoformat).run w =
      .ok (hoursBetween ops t (rt.now w.env.draws)) ⟨w.self, w.env.tick 1⟩ := by
  unfold hoursSince
  rw [EStateM.run_bind, run_draw_tick]
  dsimp only
  rw [replaceZ_isoformat, DateTime.fromisoformat_isoformat]
  rfl

/-- The description looks up the release and the clock. -/
def Describes {α β : Type} (describe : α → Method Services β) (releaseId : α → String)
    (item : α → ReleaseRequest → DateTime → β) : Prop :=
  ∀ a w, (describe a).run w = match w.self.releases.get? (releaseId a) with
    | some r => .ok (item a r (rt.now w.env.draws)) ⟨w.self, w.env.tick 1⟩
    | none => .error (.valueError s!"Release {releaseId a} not found") w

theorem describes_step : Describes rt
    (fun p : String × StepAsk => describeStep rt ops (p.2.step p.1)) (fun p => p.2.releaseId)
    fun p => p.2.item ops p.1 := by
  intro p w
  have hreleaseId : (p.2.step p.1).releaseId = p.2.releaseId := rfl
  have htime : (p.2.step p.1).requestedAt = p.2.time.isoformat := rfl
  dsimp only
  unfold describeStep
  rw [EStateM.run_bind, run_getRelease, hreleaseId]
  cases w.self.releases.get? p.2.releaseId with
  | none => rfl
  | some r =>
    dsimp only
    rw [EStateM.run_bind, htime, run_hoursSince]
    rfl

theorem describes_exception : Describes rt
    (fun p : String × ExceptionAsk => describeException rt ops (p.2.exception rt p.1))
    (fun p => p.2.releaseId) fun p => p.2.item ops p.1 := by
  intro p w
  have hreleaseId : (p.2.exception rt p.1).releaseId = p.2.releaseId := rfl
  have htime : (p.2.exception rt p.1).raisedAt = p.2.time.isoformat := rfl
  dsimp only
  unfold describeException
  rw [EStateM.run_bind, run_getRelease, hreleaseId]
  cases w.self.releases.get? p.2.releaseId with
  | none => rfl
  | some r =>
    dsimp only
    rw [EStateM.run_bind, htime, run_hoursSince]
    rfl

variable {rt}

/-- What is due is described in turn, each with the clock of its own draw. -/
theorem Describes.run_collect {α β : Type} {describe : α → Method Services β}
    {releaseId : α → String} {item : α → ReleaseRequest → DateTime → β}
    (h : Describes rt describe releaseId item) (l : List α) (w : World Services) :
    (collect describe l).run w = .ok
      (((due w.self releaseId l).zipIdx w.env.draws).map fun p => item p.1.1 p.1.2 (rt.now p.2))
      ⟨w.self, w.env.tick (due w.self releaseId l).length⟩ := by
  induction l generalizing w with
  | nil => rfl
  | cons a l ih =>
    rw [collect, EStateM.run_bind, run_tryCatch, run_map, h a w, due, List.filterMap_cons]
    cases w.self.releases.get? (releaseId a) with
    | none =>
      dsimp only [Option.map_none]
      rw [run_pure]
      dsimp only
      rw [EStateM.run_bind, ih]
      rfl
    | some r =>
      dsimp only [Option.map_some]
      rw [EStateM.run_bind, ih]
      simp only [run_pure, List.zipIdx_cons, List.map_cons, Env.tick_tick, Env.tick_draws,
        Option.toList_some, List.singleton_append, List.length_cons]
      rw [Nat.add_comm 1]
      rfl

theorem collect_map {α α' β : Type} (describe : α' → Method Services β) (f : α → α')
    (l : List α) : collect describe (l.map f) = collect (fun a => describe (f a)) l := by
  induction l with
  | nil => rfl
  | cons a l ih => rw [List.map_cons, collect, collect, ih]

end Reading

/-! ### What is stored -/

section Waiting
variable {Ask Rec : Type} {store store' : Dict String Rec} {pending : Rec → Bool}
variable {record : String → Ask → Rec} {history : List (Asking Ask)}

variable (store pending record history) in
/-- What is pending in store is what waits, in the order in which it was asked. -/
def Awaited : Prop :=
  store.entries.filter (fun e => pending e.2) =
    (waiting history).map fun p => (p.1, record p.1 p.2)

variable (store store' pending record) in
/-- What becomes of the store with what is put out. -/
inductive Tells : List (Asking Ask) → Prop where
  | silent (hstore : store' = store) : Tells []
  | asked (id : String) (ask : Ask) (hnew : id ∉ store) (hpending : pending (record id ask))
      (hstore : store' = store.set id (record id ask)) : Tells [.asked id ask]
  | settled (id : String) (v : Rec) (hv : ¬ pending v) (hstore : store' = store.set id v) :
      Tells [.settled id]
  | unknown (id : String) (hnew : id ∉ store) (hstore : store' = store) : Tells [.settled id]

theorem waiting_concat (history : List (Asking Ask)) (asking : Asking Ask) :
    waiting (history ++ [asking]) = asking.next (waiting history) := by
  unfold waiting
  rw [List.foldl_append]
  rfl

/-- What waits was asked. -/
theorem mem_waiting {p : String × Ask} (h : p ∈ waiting history) : .asked p.1 p.2 ∈ history := by
  induction history using List.reverseRecOn with
  | nil => cases h
  | append_singleton history asking ih =>
    rw [waiting_concat] at h
    cases asking with
    | asked id ask =>
      rcases List.mem_append.mp h with hold | hnew
      · exact List.mem_append_left _ (ih hold)
      · obtain rfl := List.mem_singleton.mp hnew
        exact List.mem_append_right _ (List.mem_singleton_self _)
    | settled id => exact List.mem_append_left _ (ih (List.mem_of_mem_filter h))

theorem map_filter_ne (l : List (String × Ask)) (id : String) :
    ((l.map fun p => (p.1, record p.1 p.2)).filter fun e => e.1 ≠ id) =
      (l.filter fun p => p.1 ≠ id).map fun p => (p.1, record p.1 p.2) := List.filter_map

theorem Awaited.step (h : Awaited store pending record history) {askings : List (Asking Ask)}
    (htells : Tells store store' pending record askings) :
    Awaited store' pending record (history ++ askings) := by
  unfold Awaited at h ⊢
  cases htells with
  | silent hstore =>
    rw [hstore, List.append_nil]
    exact h
  | asked id ask hnew hpending hstore =>
    have hone : [(id, record id ask)].filter (fun e => pending e.2) = [(id, record id ask)] :=
      List.filter_cons_of_pos hpending
    rw [hstore, Dict.entries_set_new hnew, List.filter_append, h, hone, waiting_concat,
      Asking.next, List.map_append]
    rfl
  | settled id v hv hstore =>
    rw [hstore, Dict.filter_entries_set hv, h, waiting_concat, Asking.next, map_filter_ne]
  | unknown id hnew hstore =>
    have hkeys : id ∉ (store.entries.filter fun e => pending e.2).map Prod.fst := fun hid =>
      hnew ((List.filter_sublist.map Prod.fst).subset hid)
    have hsame := Dict.filter_ne_of_not_mem hkeys
    rw [h, map_filter_ne] at hsame
    rw [hstore, h, waiting_concat, Asking.next, hsame]

/-- What is pending with an approver. -/
theorem Awaited.values_filter (h : Awaited store pending record history) (mine : Rec → Bool) :
    (store.values.filter fun v => mine v ∧ pending v) =
      ((waiting history).filter fun p => mine (record p.1 p.2)).map fun p => record p.1 p.2 := by
  have hboth : (store.entries.filter fun e => mine e.2 ∧ pending e.2) =
      (store.entries.filter fun e => pending e.2).filter fun e => mine e.2 := by
    rw [List.filter_filter]
    exact List.filter_congr fun e _ => by simp
  unfold Awaited at h
  rw [Dict.values, List.filter_map]
  show ((store.entries.filter fun e => mine e.2 ∧ pending e.2).map Prod.snd) = _
  rw [hboth, h, List.filter_map, List.map_map]
  rfl

end Waiting

section Step
variable {rt : Runtime} {call : ServiceCall} {w w' : World Services}

/-- A call that puts out nothing about steps leaves them alone. -/
theorem Act.steps_eq (h : Act rt w w' call) (hquiet : stepAskings rt call w = []) :
    w'.self.steps = w.self.steps := by
  cases h with
  | requested => cases hquiet
  | stepApproved => cases hquiet
  | stepRejected => cases hquiet
  | refused _ hself => rw [hself]
  | _ => simp_all

/-- A call that puts out nothing about exceptions leaves them alone. -/
theorem Act.exceptions_eq (h : Act rt w w' call) (hquiet : exceptionAskings rt call w = []) :
    w'.self.exceptions = w.self.exceptions := by
  cases h with
  | raised r hstored hblocked =>
    rw [exceptionAskings, hstored, Option.any_some, if_pos (decide_eq_true hblocked)] at hquiet
    cases hquiet
  | exceptionApproved => cases hquiet
  | exceptionRejected => cases hquiet
  | refused _ hself => rw [hself]
  | stepApproved step step' f _ _ _ _ hself =>
    rw [hself]
    split <;> simp
  | _ => simp_all

/-- What the raising of an exception puts in store. -/
theorem exceptions_raiseException {releaseId workspaceId raisedBy reason businessJustification
    approverEmail urgency : String} {r : ReleaseRequest}
    (hstored : w.self.releases.get? releaseId = some r) (hblocked : r.status = .blocked) :
    ((raiseException rt releaseId workspaceId raisedBy reason businessJustification approverEmail
      urgency).after w).self.exceptions = w.self.exceptions.set (rt.uuid4 w.env.draws)
        (ExceptionAsk.exception rt (rt.uuid4 w.env.draws) ⟨releaseId, workspaceId, raisedBy, reason,
          businessJustification, approverEmail, urgency, rt.now w.env.draws⟩) := by
  simp only [after, raiseException, EStateM.run_bind, run_getRelease, hstored]
  rw [if_neg (not_not.mpr hblocked)]
  simp only [EStateM.run_bind, run_draw, run_putException, run_assign, run_addAudit, run_putRelease,
    run_pure]
  rfl

/-- Every stored release stays in store. -/
theorem Act.mem_releases (h : Act rt w w' call) {releaseId : String}
    (hmem : releaseId ∈ w.self.releases) : releaseId ∈ w'.self.releases := by
  cases h with
  | refused _ hself => rwa [hself]
  | created _ _ _ hself =>
    rw [hself, Dict.mem_set]
    exact .inr hmem
  | requested _ _ _ _ hself =>
    rw [hself]
    exact hmem
  | stepApproved step step' f _ _ _ _ hself =>
    rw [hself]
    split
    · exact (mem_rewrite _).mpr hmem
    · exact hmem
  | evidenceAdded _ _ _ _ _ _ hself => rwa [hself, mem_rewrite]
  | evidenceRemoved _ _ hself => rwa [hself, mem_rewrite]
  | submitted _ _ _ _ _ _ hself => rwa [hself, mem_rewrite]
  | cancelled _ _ hself => rwa [hself, mem_rewrite]
  | stepRejected _ _ _ _ _ _ _ hself => rwa [hself, mem_rewrite]
  | raised _ _ _ _ _ _ _ _ _ _ hself => rwa [hself, mem_rewrite]
  | exceptionApproved _ _ _ _ _ _ hself => rwa [hself, mem_rewrite]
  | exceptionRejected _ _ _ _ _ _ hself => rwa [hself, mem_rewrite]
  | markedApproved _ _ hself => rwa [hself, mem_rewrite]
  | markedBlocked _ _ hself => rwa [hself, mem_rewrite]

/-- Exceptions are asked for stored releases. -/
theorem mem_releases_of_asked {id : String} {ask : ExceptionAsk}
    (h : .asked id ask ∈ exceptionAskings rt call w) : ask.releaseId ∈ w.self.releases := by
  unfold exceptionAskings at h
  split at h
  · split at h
    next hany =>
      obtain ⟨r, hstored, -⟩ := (Option.any_eq_true _ _).mp hany
      obtain ⟨-, rfl⟩ := Asking.asked.inj (List.mem_singleton.mp h)
      exact Dict.mem_of_get? hstored
    next => cases h
  · cases List.mem_singleton.mp h
  · cases List.mem_singleton.mp h
  · cases h

variable (hfresh : w.env.draws < (serviceStep rt call w).env.draws →
  ¬ w.self.Stores (rt.uuid4 w.env.draws))
include hfresh

theorem tells_steps : Tells w.self.steps (serviceStep rt call w).self.steps
    (fun step => step.status = .pending) StepAsk.step (stepAskings rt call w) := by
  have hact : Act rt w (serviceStep rt call w) call := (does rt call).act
  by_cases hquiet : stepAskings rt call w = []
  · rw [hquiet]
    exact .silent (hact.steps_eq hquiet)
  cases call with
  | markApproved releaseId approvedBy => exact absurd rfl hquiet
  | markBlocked releaseId reason blockedBy => exact absurd rfl hquiet
  | guard call =>
    cases call with
    | request releaseId approverEmail slaHours =>
      refine .asked _ _ (fun hmem => hfresh (Nat.lt_add_one _) (.inr (.inl hmem))) ?_ rfl
      exact decide_eq_true rfl
    | approve stepId note =>
      cases hact with
      | refused hrefused hself =>
        exact .unknown stepId (Dict.get?_eq_none.mp hrefused) (by rw [hself])
      | stepApproved step step' f _ _ hstatus _ hself =>
        refine .settled stepId step' (by simp [hstatus]) ?_
        rw [hself]
        split <;> simp [withStep]
    | reject stepId rejectedBy note =>
      cases hact with
      | refused hrefused hself =>
        exact .unknown stepId (Dict.get?_eq_none.mp hrefused) (by rw [hself])
      | stepRejected step step' f _ _ hstatus _ hself =>
        refine .settled stepId step' (by simp [hstatus]) ?_
        rw [hself]
        simp [withStep]
    | _ => exact absurd rfl hquiet

theorem tells_exceptions : Tells w.self.exceptions (serviceStep rt call w).self.exceptions
    (fun exc => exc.status = .pendingApproval) (ExceptionAsk.exception rt)
    (exceptionAskings rt call w) := by
  have hact : Act rt w (serviceStep rt call w) call := (does rt call).act
  by_cases hquiet : exceptionAskings rt call w = []
  · rw [hquiet]
    exact .silent (hact.exceptions_eq hquiet)
  cases call with
  | markApproved releaseId approvedBy => exact absurd rfl hquiet
  | markBlocked releaseId reason blockedBy => exact absurd rfl hquiet
  | guard call =>
    cases call with
    | raiseException releaseId workspaceId raisedBy reason businessJustification approverEmail
        urgency =>
      by_cases hany : (w.self.releases.get? releaseId).any fun r => r.status = .blocked
      · obtain ⟨r, hstored, hblocked⟩ := (Option.any_eq_true _ _).mp hany
        have hasked : exceptionAskings rt (.guard (.raiseException releaseId workspaceId raisedBy
            reason businessJustification approverEmail urgency)) w = _ := if_pos hany
        rw [hasked]
        refine .asked _ _ ?_ (decide_eq_true rfl) ?_
        · cases hact with
          | refused hrefused => exact absurd (of_decide_eq_true hblocked) (hrefused r hstored)
          | raised _ _ _ _ _ _ _ _ hdraw => exact fun hmem => hfresh hdraw (.inr (.inr hmem))
        · rw [serviceStep, ServiceCall.perform, GuardCall.perform, after_discard]
          exact exceptions_raiseException hstored (of_decide_eq_true hblocked)
      · exact absurd (if_neg hany) hquiet
    | approveException exceptionId approvedBy note =>
      cases hact with
      | refused hrefused hself =>
        exact .unknown exceptionId (Dict.get?_eq_none.mp hrefused) (by rw [hself])
      | exceptionApproved exc exc' f _ hstatus _ hself =>
        refine .settled exceptionId exc' (by simp [hstatus]) ?_
        rw [hself, rewrite_exceptions]
        rfl
    | rejectException exceptionId rejectedBy note =>
      cases hact with
      | refused hrefused hself =>
        exact .unknown exceptionId (Dict.get?_eq_none.mp hrefused) (by rw [hself])
      | exceptionRejected exc exc' f _ hstatus _ hself =>
        refine .settled exceptionId exc' (by simp [hstatus]) ?_
        rw [hself, rewrite_exceptions]
        rfl
    | _ => exact absurd rfl hquiet

end Step

/-! ### Every run -/

/-- The listing shows each of what is due once, and the longest waiting first. -/
structure Shows {α β : Type} (rt : Runtime) (w : World Services) (releaseId : α → String)
    (item : α → ReleaseRequest → DateTime → β) (ageHours : β → ℚ) (mine : List α)
    (items : List β) : Prop where
  sorted : items.Pairwise fun x y => ageHours y ≤ ageHours x
  exact : items.Perm (((due w.self releaseId mine).zipIdx w.env.draws).map fun p =>
    item p.1.1 p.1.2 (rt.now p.2))

theorem map_fst_due {α : Type} {s : Services} {releaseId : α → String} {l : List α}
    (h : ∀ a ∈ l, releaseId a ∈ s.releases) : (due s releaseId l).map Prod.fst = l := by
  induction l with
  | nil => rfl
  | cons a l ih =>
    obtain ⟨r, hr⟩ := Dict.mem_iff_get?.mp (h a List.mem_cons_self)
    have hrest := ih fun b hb => h b (List.mem_cons_of_mem _ hb)
    unfold due at hrest ⊢
    rw [List.filterMap_cons, hr, Option.map_some, List.map_cons, hrest]

theorem Describes.shows {rt : Runtime} {α β : Type} {describe : α → Method Services β}
    {releaseId : α → String} {item : α → ReleaseRequest → DateTime → β}
    (h : Describes rt describe releaseId item) (ageHours : β → ℚ) (mine : List α)
    (w : World Services) :
    ∃ items env, (do
        let result ← collect describe mine
        return result.mergeSort fun x y => ageHours y ≤ ageHours x : Method Services _).run w =
          .ok items ⟨w.self, env⟩ ∧ Shows rt w releaseId item ageHours mine items := by
  rw [EStateM.run_bind, h.run_collect]
  refine ⟨_, _, rfl, ?_, List.mergeSort_perm ..⟩
  refine (List.pairwise_mergeSort (fun x y z hxy hyz => ?_) (fun x y => ?_) _).imp of_decide_eq_true
  · exact decide_eq_true ((of_decide_eq_true hyz).trans (of_decide_eq_true hxy))
  · simpa using le_total (ageHours y) (ageHours x)

/-- What the run has asked of approvers. -/
def stepHistory (rt : Runtime) (env : Env) (calls : List ServiceCall) : List (Asking StepAsk) :=
  trace (serviceStep rt) (stepAskings rt) ⟨.empty, env⟩ calls

def exceptionHistory (rt : Runtime) (env : Env) (calls : List ServiceCall) :
    List (Asking ExceptionAsk) :=
  trace (serviceStep rt) (exceptionAskings rt) ⟨.empty, env⟩ calls

section Runs
variable (rt : Runtime) (env : Env) (calls : List ServiceCall)
  (huuid : Set.InjOn rt.uuid4 (Set.Iio (run (serviceStep rt) ⟨.empty, env⟩ calls).env.draws))
include huuid

/-- If each call tells about a store what it puts out, the run has told all of it. -/
theorem awaited_run {Rec Ask : Type} {store : Services → Dict String Rec} {pending : Rec → Bool}
    {record : String → Ask → Rec} {askings : ServiceCall → World Services → List (Asking Ask)}
    (hempty : store .empty = Dict.empty)
    (htells : ∀ call w, (w.env.draws < (serviceStep rt call w).env.draws →
        ¬ w.self.Stores (rt.uuid4 w.env.draws)) →
      Tells (store w.self) (store (serviceStep rt call w).self) pending record (askings call w)) :
    Awaited (store (run (serviceStep rt) ⟨.empty, env⟩ calls).self) pending record
      (trace (serviceStep rt) askings ⟨.empty, env⟩ calls) := by
  have hstart : Ready rt ⟨.empty, env⟩ calls ∧ Awaited (store .empty) pending record [] := by
    refine ⟨ready_empty huuid, ?_⟩
    rw [hempty]
    rfl
  refine (trace_resource (J := fun w history calls => Ready rt w calls ∧
    Awaited (store w.self) pending record history) (serviceStep rt) askings ?_ hstart).2
  rintro call w history calls ⟨hready, hawaited⟩
  exact ⟨hready.step, hawaited.step (htells call w hready.not_stores)⟩

theorem awaited_steps : Awaited (run (serviceStep rt) ⟨.empty, env⟩ calls).self.steps
    (fun step => step.status = .pending) StepAsk.step (stepHistory rt env calls) :=
  awaited_run rt env calls huuid rfl fun _ _ hfresh => tells_steps hfresh

theorem awaited_exceptions : Awaited (run (serviceStep rt) ⟨.empty, env⟩ calls).self.exceptions
    (fun exc => exc.status = .pendingApproval) (ExceptionAsk.exception rt)
    (exceptionHistory rt env calls) :=
  awaited_run rt env calls huuid rfl fun _ _ hfresh => tells_exceptions hfresh

omit huuid in
/-- The releases of all exceptions that were ever raised are stored. -/
theorem mem_releases_run {id : String} {ask : ExceptionAsk}
    (h : .asked id ask ∈ exceptionHistory rt env calls) :
    ask.releaseId ∈ (run (serviceStep rt) ⟨.empty, env⟩ calls).self.releases := by
  refine trace_resource (J := fun w history _ => ∀ id ask, .asked id ask ∈ history →
    ask.releaseId ∈ w.self.releases) (serviceStep rt) (exceptionAskings rt) ?_ (l := []) ?_ id ask h
  · intro call w history _ hold id ask hask
    apply (does rt call).act.mem_releases
    rcases List.mem_append.mp hask with hask | hask
    · exact hold id ask hask
    · exact mem_releases_of_asked hask
  · intro id ask hask
    cases hask

end Runs

/-- In every run, the inbox of an approver shows the requests to the approver that wait for a
decision and whose release is stored, each as it was made and as its release now stands. -/
theorem inbox_exact (rt : Runtime) (ops : ValueOps) (env : Env) (calls : List ServiceCall)
    (approverEmail : String)
    (huuid : Set.InjOn rt.uuid4
      (Set.Iio (run (serviceStep rt) ⟨.empty, env⟩ calls).env.draws)) :
    let w := run (serviceStep rt) ⟨.empty, env⟩ calls
    let mine := (waiting (stepHistory rt env calls)).filter fun p =>
      p.2.approverEmail = approverEmail
    ∃ items env', (getPendingInbox rt ops approverEmail).run w = .ok items ⟨w.self, env'⟩ ∧
      Shows rt w (fun p => p.2.releaseId) (fun p => p.2.item ops p.1) InboxItem.ageHours mine
        items := by
  intro w mine
  have hpending := (awaited_steps rt env calls huuid).values_filter fun step =>
    step.approverEmail = approverEmail
  simp only [decide_eq_true_eq] at hpending
  obtain ⟨items, env', hrun, hshows⟩ := (describes_step rt ops).shows InboxItem.ageHours mine w
  refine ⟨items, env', ?_, hshows⟩
  rw [← hrun, ← collect_map (describeStep rt ops) fun p : String × StepAsk => p.2.step p.1]
  unfold getPendingInbox
  rw [EStateM.run_bind, run_self]
  dsimp only
  rw [hpending]
  rfl

/-- Two approvals of the release are requested, and the first is given. -/
def requestedCalls : List ServiceCall :=
  [GuardCall.create "shop" "default" "Pay" "payments" "production" .critical "ada" "",
    GuardCall.request payRelease "bea" 24, GuardCall.request payRelease "bea" 4,
    GuardCall.approve "00000000-0000-4000-8000-000000000002" "fine"].map .guard

/-- The second request is shown alone. -/
theorem inbox_exact_requested :
    let w := run (serviceStep .reference) ⟨.empty, .initial "default"⟩ requestedCalls
    let mine := (waiting (stepHistory .reference (.initial "default") requestedCalls)).filter
      fun p => p.2.approverEmail = "bea"
    mine.map Prod.fst = ["00000000-0000-4000-8000-000000000003"] ∧
      ∃ items env', (getPendingInbox .reference .exact "bea").run w = .ok items ⟨w.self, env'⟩ ∧
        Shows .reference w (fun p => p.2.releaseId) (fun p => p.2.item .exact p.1)
          InboxItem.ageHours mine items := by
  refine ⟨by decide +kernel, ?_⟩
  refine inbox_exact .reference .exact (.initial "default") requestedCalls "bea" ?_
  apply Runtime.reference_uuid4.mono
  apply Set.Iio_subset_Iio
  decide +kernel

/-- In every run, the inbox of an approver shows the exceptions raised to the approver that wait for
a decision, with none passed over. -/
theorem exceptionInbox_exact (rt : Runtime) (ops : ValueOps) (env : Env)
    (calls : List ServiceCall) (approverEmail : String)
    (huuid : Set.InjOn rt.uuid4
      (Set.Iio (run (serviceStep rt) ⟨.empty, env⟩ calls).env.draws)) :
    let w := run (serviceStep rt) ⟨.empty, env⟩ calls
    let mine := (waiting (exceptionHistory rt env calls)).filter fun p =>
      p.2.approverEmail = approverEmail
    (due w.self (fun p => p.2.releaseId) mine).map Prod.fst = mine ∧
      ∃ items env', (getPendingForApprover rt ops approverEmail).run w = .ok items ⟨w.self, env'⟩ ∧
        Shows rt w (fun p => p.2.releaseId) (fun p => p.2.item ops p.1) PendingException.ageHours
          mine items := by
  intro w mine
  constructor
  · have hstored : ∀ p ∈ mine, p.2.releaseId ∈ w.self.releases := fun p hp =>
      mem_releases_run rt env calls (mem_waiting (List.mem_of_mem_filter hp))
    exact map_fst_due hstored
  have hpending := (awaited_exceptions rt env calls huuid).values_filter fun exc =>
    exc.approverEmail = approverEmail
  simp only [decide_eq_true_eq] at hpending
  obtain ⟨items, env', hrun, hshows⟩ :=
    (describes_exception rt ops).shows PendingException.ageHours mine w
  refine ⟨items, env', ?_, hshows⟩
  rw [← hrun, ← collect_map (describeException rt ops) fun p : String × ExceptionAsk =>
    p.2.exception rt p.1]
  unfold getPendingForApprover
  rw [EStateM.run_bind, run_self]
  dsimp only
  rw [hpending]
  rfl

/-- An exception that was raised is shown until it is decided. -/
theorem exceptionInbox_exact_raised :
    let w := run (serviceStep .reference) ⟨.empty, .initial "default"⟩ raisedCalls
    let mine := (waiting (exceptionHistory .reference (.initial "default") raisedCalls)).filter
      fun p => p.2.approverEmail = "cto"
    mine.map Prod.fst = [payException] ∧
      (due w.self (fun p => p.2.releaseId) mine).map Prod.fst = mine ∧
      ∃ items env', (getPendingForApprover .reference .exact "cto").run w =
          .ok items ⟨w.self, env'⟩ ∧
        Shows .reference w (fun p => p.2.releaseId) (fun p => p.2.item .exact p.1)
          PendingException.ageHours mine items := by
  refine ⟨by decide +kernel, ?_⟩
  refine exceptionInbox_exact .reference .exact (.initial "default") raisedCalls "cto" ?_
  apply Runtime.reference_uuid4.mono
  apply Set.Iio_subset_Iio
  decide +kernel

end ControlFabric.ReleaseGuard
