import ControlFabric.Runtime
import ControlFabric.Lib.Run

/-! Role assignments with domain restrictions, and the decisions on permissions. -/
namespace ControlFabric.Rbac
open Lib Method

inductive Role where
  | platformAdmin
  | domainOwner
  | policyAuthor
  | operator
  | auditor
  | viewer
  | serviceAccount
  deriving DecidableEq

inductive Permission where
  | objectRead | objectWrite | objectDelete
  | graphRead | graphWrite
  | caseRead | caseWrite | caseClose
  | ruleRead | ruleWrite | ruleActivate
  | policyRead | policyWrite | policyPublish | policyRollback
  | packRead | packInstall | packUninstall
  | exceptionRead | exceptionRequest | exceptionApprove
  | releaseRead | releaseApprove
  | adminUsers | adminAudit
  deriving DecidableEq

/-- `set(Permission)`. -/
def Permission.all : List Permission :=
  [.objectRead, .objectWrite, .objectDelete, .graphRead, .graphWrite, .caseRead, .caseWrite,
    .caseClose, .ruleRead, .ruleWrite, .ruleActivate, .policyRead, .policyWrite, .policyPublish,
    .policyRollback, .packRead, .packInstall, .packUninstall, .exceptionRead, .exceptionRequest,
    .exceptionApprove, .releaseRead, .releaseApprove, .adminUsers, .adminAudit]

/-- `ROLE_PERMISSIONS`. -/
def Role.permissions : Role → List Permission
  | platformAdmin => Permission.all
  | domainOwner =>
    [.objectRead, .objectWrite, .graphRead, .graphWrite, .caseRead, .caseWrite, .caseClose,
      .ruleRead, .ruleWrite, .ruleActivate, .policyRead, .policyWrite, .packRead, .packInstall,
      .exceptionRead, .exceptionRequest, .releaseRead]
  | policyAuthor => [.policyRead, .policyWrite, .ruleRead, .ruleWrite, .packRead, .caseRead]
  | operator =>
    [.objectRead, .graphRead, .caseRead, .caseWrite, .caseClose, .ruleRead, .policyRead, .packRead,
      .exceptionRead, .exceptionRequest, .releaseRead]
  | auditor =>
    [.objectRead, .graphRead, .caseRead, .ruleRead, .policyRead, .packRead, .exceptionRead,
      .releaseRead, .adminAudit]
  | viewer =>
    [.objectRead, .graphRead, .caseRead, .ruleRead, .policyRead, .packRead, .releaseRead]
  | serviceAccount =>
    [.objectRead, .objectWrite, .graphRead, .graphWrite, .caseRead, .caseWrite, .ruleRead,
      .releaseRead]

structure RoleAssignment where
  principalId : String
  role : Role
  domainRestriction : Option String
  assignedBy : String
  assignedAt : DateTime

structure AccessDecision where
  principalId : String
  permission : Permission
  granted : Bool
  role : Role
  domainRestriction : Option String := none
  resource : String
  decidedAt : DateTime

structure AccessController where
  assignments : Dict String (List RoleAssignment)
  auditLog : List AccessDecision

/-- `if text`, of an optional text. -/
def truthy (text : Option String) : Bool := text.any fun t => t ≠ ""

namespace AccessController

def new : AccessController := ⟨Dict.empty, []⟩

/-- `_assignments.get(principal_id, [])`. -/
def getRoles (c : AccessController) (principalId : String) : List RoleAssignment :=
  c.assignments.getD principalId []

variable (rt : Runtime)

def assignRole (principalId : String) (role : Role) (domainRestriction : Option String)
    (assignedBy : String) : Method AccessController RoleAssignment := do
  let assignment : RoleAssignment := {
    principalId := principalId
    role := role
    domainRestriction := domainRestriction
    assignedBy := assignedBy
    assignedAt := rt.now (← draw) }
  assign fun c => { c with
    assignments := c.assignments.set principalId (c.getRoles principalId ++ [assignment]) }
  return assignment

def revokeRole (principalId : String) (role : Role) : Method AccessController Bool := do
  let assignments := (← self).getRoles principalId
  let kept := assignments.filter fun a => a.role ≠ role
  assign fun c => { c with assignments := c.assignments.set principalId kept }
  return kept.length < assignments.length

/-- The turn of the loop at this assignment does not `continue`. -/
def admits (permission : Permission) (domain : Option String) (assignment : RoleAssignment) : Bool :=
  permission ∈ assignment.role.permissions ∧
    ¬ (truthy assignment.domainRestriction ∧ truthy domain ∧
      assignment.domainRestriction ≠ domain)

def checkPermission (principalId : String) (permission : Permission) (resource : String)
    (domain : Option String) : Method AccessController AccessDecision := do
  let assignments := (← self).getRoles principalId
  let decidedAt := rt.now (← draw)
  let decision : AccessDecision :=
    match assignments.find? (admits permission domain) with
    | some assignment => {
        principalId := principalId
        permission := permission
        granted := true
        role := assignment.role
        domainRestriction := assignment.domainRestriction
        resource := resource
        decidedAt := decidedAt }
    | none => {
        principalId := principalId
        permission := permission
        granted := false
        role := (assignments.head?.map RoleAssignment.role).getD .viewer
        resource := resource
        decidedAt := decidedAt }
  assign fun c => { c with auditLog := c.auditLog ++ [decision] }
  return decision

end AccessController

inductive AccessCall where
  | assignRole (principalId : String) (role : Role) (domainRestriction : Option String)
      (assignedBy : String)
  | revokeRole (principalId : String) (role : Role)
  | checkPermission (principalId : String) (permission : Permission) (resource : String)
      (domain : Option String)

def AccessCall.perform (rt : Runtime) : AccessCall → Method AccessController Unit
  | assignRole principalId role domainRestriction assignedBy =>
    discard (AccessController.assignRole rt principalId role domainRestriction assignedBy)
  | revokeRole principalId role => discard (AccessController.revokeRole principalId role)
  | checkPermission principalId permission resource domain =>
    discard (AccessController.checkPermission rt principalId permission resource domain)

def accessStep (rt : Runtime) (call : AccessCall) (w : World AccessController) :
    World AccessController := (call.perform rt).after w

end ControlFabric.Rbac

/-! Whether a restricted role stays in its domain. The restriction is looked at only where the
request names a domain, so that a request without one passes through any role with the permission;
and the empty text counts as no restriction and as no domain. -/
namespace ControlFabric.Rbac
open Lib Method AccessController

/-! ### What is held -/

/-- The principal was assigned the role with this restriction, and not revoked it since. -/
def Unrevoked (calls : List AccessCall) (principalId : String) (role : Role)
    (domainRestriction : Option String) : Prop :=
  ∃ before assignedBy after,
    calls = before ++ .assignRole principalId role domainRestriction assignedBy :: after ∧
      .revokeRole principalId role ∉ after

abbrev Grant := String × Role × Option String

def grants : AccessCall → List Grant
  | .assignRole principalId role domainRestriction _ => [(principalId, role, domainRestriction)]
  | .revokeRole .. | .checkPermission .. => []

def revokes : AccessCall → Grant → Bool
  | .revokeRole principalId role, grant => grant.1 = principalId ∧ grant.2.1 = role
  | .assignRole .., _ | .checkPermission .., _ => false

def RoleAssignment.grant (a : RoleAssignment) : Grant := (a.principalId, a.role, a.domainRestriction)

theorem unrevoked_iff {calls : List AccessCall} {principalId : String} {role : Role}
    {domainRestriction : Option String} : Unrevoked calls principalId role domainRestriction ↔
      (principalId, role, domainRestriction) ∈ held grants revokes calls := by
  rw [mem_held_iff]
  constructor
  · rintro ⟨before, assignedBy, after, rfl, hkept⟩
    refine ⟨before, _, after, rfl, List.mem_singleton_self _, fun call hcall hrevokes => ?_⟩
    cases call with
    | revokeRole principalId' role' =>
      obtain ⟨rfl, rfl⟩ := of_decide_eq_true hrevokes
      exact hkept hcall
    | assignRole | checkPermission => exact Bool.noConfusion hrevokes
  · rintro ⟨before, call, after, rfl, hgrant, hkept⟩
    cases call with
    | assignRole principalId' role' domainRestriction' assignedBy =>
      obtain ⟨rfl, rfl, rfl⟩ : principalId = principalId' ∧ role = role' ∧
          domainRestriction = domainRestriction' := by simpa [grants] using hgrant
      exact ⟨before, assignedBy, after, rfl,
        fun hrevoked => hkept _ hrevoked (decide_eq_true ⟨rfl, rfl⟩)⟩
    | revokeRole | checkPermission => exact absurd hgrant List.not_mem_nil

/-- The controller holds for each principal what the history leaves of its grants, in order. -/
def Refines (w : World AccessController) (calls : List AccessCall) : Prop :=
  ∀ principalId, (w.self.getRoles principalId).map RoleAssignment.grant =
    (held grants revokes calls).filter fun grant => grant.1 = principalId

section Step
variable {rt : Runtime} {w : World AccessController} {calls : List AccessCall}

theorem getRoles_set (c : AccessController) (k principalId : String) (l : List RoleAssignment) :
    ({ c with assignments := c.assignments.set k l } : AccessController).getRoles principalId =
      if principalId = k then l else c.getRoles principalId := Dict.getD_set ..

theorem Refines.step (h : Refines w calls) (call : AccessCall) :
    Refines (accessStep rt call w) (calls ++ [call]) := by
  intro principalId
  have hold := h principalId
  rw [held_concat]
  cases call with
  | assignRole principalId' role domainRestriction assignedBy =>
    let assignment : RoleAssignment :=
      ⟨principalId', role, domainRestriction, assignedBy, rt.now w.env.draws⟩
    have hroles : (accessStep rt (.assignRole principalId' role domainRestriction assignedBy)
        w).self.getRoles principalId =
          if principalId = principalId' then w.self.getRoles principalId' ++ [assignment]
          else w.self.getRoles principalId := getRoles_set ..
    rw [hroles]
    by_cases hprincipal : principalId = principalId'
    · subst hprincipal
      simp [hold, grants, revokes, RoleAssignment.grant, assignment]
    · simp [hprincipal, Ne.symm hprincipal, hold, grants, revokes]
  | revokeRole principalId' role =>
    have hroles : (accessStep rt (.revokeRole principalId' role) w).self.getRoles principalId =
        if principalId = principalId' then
          (w.self.getRoles principalId').filter fun a => a.role ≠ role
        else w.self.getRoles principalId := getRoles_set ..
    rw [hroles]
    by_cases hprincipal : principalId = principalId'
    · subst hprincipal
      have hgrant : (fun a : RoleAssignment => decide (a.role ≠ role)) =
          (fun grant : Grant => decide (grant.2.1 ≠ role)) ∘ RoleAssignment.grant := rfl
      rw [if_pos rfl, hgrant, ← List.filter_map, hold, grants, List.append_nil, List.filter_filter,
        List.filter_filter]
      refine List.filter_congr fun grant _ => ?_
      by_cases hgrant : grant.1 = principalId <;> simp [revokes, hgrant]
    · rw [if_neg hprincipal, hold, grants, List.append_nil, List.filter_filter]
      refine List.filter_congr fun grant _ => ?_
      by_cases hgrant : grant.1 = principalId <;> simp [revokes, hgrant, hprincipal]
  | checkPermission principalId' permission resource domain =>
    have hroles : (accessStep rt (.checkPermission principalId' permission resource domain)
        w).self.getRoles principalId = w.self.getRoles principalId := rfl
    rw [hroles, hold]
    simp [grants, revokes]

end Step

/-- In every state reached, what is held of a principal is what was assigned and not revoked
since. -/
theorem refines_run (rt : Runtime) (env : Env) (calls : List AccessCall) :
    Refines (run (accessStep rt) ⟨.new, env⟩ calls) calls := by
  induction calls using List.reverseRecOn with
  | nil => exact fun principalId => rfl
  | append_singleton calls call ih =>
    rw [run_concat]
    exact ih.step call

theorem Refines.holds_iff {w : World AccessController} {calls : List AccessCall}
    (h : Refines w calls) {principalId : String} {role : Role} {domainRestriction : Option String} :
    Unrevoked calls principalId role domainRestriction ↔
      ∃ a ∈ w.self.getRoles principalId, a.role = role ∧ a.domainRestriction = domainRestriction := by
  have hgrant : (principalId, role, domainRestriction) ∈ held grants revokes calls ↔
      (principalId, role, domainRestriction) ∈
        (held grants revokes calls).filter fun grant => grant.1 = principalId := by
    simp
  rw [unrevoked_iff, hgrant, ← h principalId, List.mem_map]
  refine exists_congr fun a => and_congr_right fun ha => ?_
  have hprincipal : a.principalId = principalId := by
    have hmem : a.grant ∈ (held grants revokes calls).filter fun grant => grant.1 = principalId :=
      h principalId ▸ List.mem_map_of_mem ha
    exact of_decide_eq_true (List.mem_filter.mp hmem).2
  simp [RoleAssignment.grant, hprincipal]

/-! ### Decisions -/

/-- The restriction is absent or the requested domain. -/
def Covers (domain : Option String) (a : RoleAssignment) : Prop :=
  a.domainRestriction = none ∨ a.domainRestriction = domain

/-- The restriction is another than the requested domain, but one of them is the empty text. -/
def Loose (domain : String) (a : RoleAssignment) : Prop :=
  a.domainRestriction = some "" ∧ domain ≠ "" ∨
    domain = "" ∧ ∃ restriction, a.domainRestriction = some restriction ∧ restriction ≠ ""

/-- The assignments of the principal whose role includes the permission, in order. -/
def usable (c : AccessController) (principalId : String) (permission : Permission) :
    List RoleAssignment :=
  (c.getRoles principalId).filter fun a => permission ∈ a.role.permissions

/-- The first of these is unrestricted, if the request names no domain; if it names one, some of
these covers it, or the empty text lets none of them pass. -/
def Separated (c : AccessController) (principalId : String) (permission : Permission) :
    Option String → Prop
  | none => ∀ a ∈ (usable c principalId permission).head?, a.domainRestriction = none
  | some domain => (∃ a ∈ usable c principalId permission, Covers (some domain) a) ∨
    ∀ a ∈ usable c principalId permission, ¬ Loose domain a

/-- Access is granted exactly through what is held, has the permission and covers the domain;
without a domain, not through a restricted role. -/
structure InDomain (calls : List AccessCall) (principalId : String) (permission : Permission)
    (domain : Option String) (decision : AccessDecision) : Prop where
  granted_iff : decision.granted ↔ ∃ role domainRestriction,
    Unrevoked calls principalId role domainRestriction ∧ permission ∈ role.permissions ∧
      (domainRestriction = none ∨ domainRestriction = domain)
  unrestricted : domain = none → decision.granted → decision.domainRestriction = none

/-- The check returns a decision on this request and logs it, and nothing else. -/
structure Logged (rt : Runtime) (w : World AccessController) (principalId : String)
    (permission : Permission) (resource : String) (domain : Option String)
    (decision : AccessDecision) : Prop where
  returned : (checkPermission rt principalId permission resource domain).run w =
    .ok decision ⟨{ w.self with auditLog := w.self.auditLog ++ [decision] }, w.env.tick 1⟩
  request : decision.principalId = principalId ∧ decision.permission = permission ∧
    decision.resource = resource

section Check
variable {c : AccessController} {principalId : String} {permission : Permission}
  {domain : Option String}

/-- The assignment through which the loop grants access. -/
def through (c : AccessController) (principalId : String) (permission : Permission)
    (domain : Option String) : Option RoleAssignment :=
  (c.getRoles principalId).find? (admits permission domain)

theorem admits_iff {a : RoleAssignment} : admits permission domain a ↔
    permission ∈ a.role.permissions ∧ (Covers domain a ∨ domain = none ∨
      ∃ d, domain = some d ∧ Loose d a) := by
  unfold admits
  rw [decide_eq_true_eq]
  refine and_congr_right fun _ => ?_
  unfold Covers Loose truthy
  cases domain with
  | none => simp
  | some d =>
    cases hrestriction : a.domainRestriction with
    | none => simp
    | some r =>
      by_cases hr : r = ""
      · by_cases hd : d = "" <;> simp [hr, hd]
      · by_cases hd : d = "" <;> simp [hr, hd]

theorem mem_usable {a : RoleAssignment} : a ∈ usable c principalId permission ↔
    a ∈ c.getRoles principalId ∧ permission ∈ a.role.permissions := by
  simp [usable]

/-- Something lets the request through: it covers the domain, or the domain is not looked at. -/
theorem through_isSome : (through c principalId permission domain).isSome ↔
    ∃ a ∈ usable c principalId permission, Covers domain a ∨ domain = none ∨
      ∃ d, domain = some d ∧ Loose d a := by
  unfold through
  rw [List.find?_isSome]
  simp only [admits_iff, mem_usable]
  refine exists_congr fun a => ?_
  tauto

/-- Without a domain, the first usable assignment lets the request through. -/
theorem through_none : through c principalId permission none =
    (usable c principalId permission).head? := by
  have hadmits : admits permission none =
      fun a : RoleAssignment => decide (permission ∈ a.role.permissions) := by
    funext a
    simp [admits, truthy]
  rw [through, usable, hadmits, List.head?_filter]

/-- What the check decides, and through which assignment. -/
theorem run_checkPermission (rt : Runtime) (w : World AccessController) (principalId : String)
    (permission : Permission) (resource : String) (domain : Option String) :
    ∃ decision, Logged rt w principalId permission resource domain decision ∧
      (decision.granted ↔ (through w.self principalId permission domain).isSome) ∧
      ∀ a ∈ through w.self principalId permission domain,
        decision.domainRestriction = a.domainRestriction := by
  cases hthrough : through w.self principalId permission domain with
  | none =>
    refine ⟨_, ⟨rfl, ?_⟩, ?_, fun a ha => absurd ha (by simp)⟩
    all_goals
      unfold through at hthrough
      simp [hthrough]
  | some assignment =>
    refine ⟨_, ⟨rfl, ?_⟩, ?_, fun a ha => ?_⟩
    all_goals
      unfold through at hthrough
      simp [hthrough]
    exact congrArg _ (Option.some.inj ha)

end Check

section Decision
variable {w : World AccessController} {calls : List AccessCall} {principalId : String}
  {permission : Permission} {decision : AccessDecision}

theorem Refines.covered_iff (h : Refines w calls) {domain : Option String} :
    (∃ role domainRestriction, Unrevoked calls principalId role domainRestriction ∧
        permission ∈ role.permissions ∧ (domainRestriction = none ∨ domainRestriction = domain)) ↔
      ∃ a ∈ usable w.self principalId permission, Covers domain a := by
  simp only [h.holds_iff, mem_usable, Covers]
  constructor
  · rintro ⟨role, restriction, ⟨a, ha, rfl, rfl⟩, hpermission, hcovers⟩
    exact ⟨a, ⟨ha, hpermission⟩, hcovers⟩
  · rintro ⟨a, ⟨ha, hpermission⟩, hcovers⟩
    exact ⟨a.role, a.domainRestriction, ⟨a, ha, rfl, rfl⟩, hpermission, hcovers⟩

/-- Without a domain the first usable assignment decides. -/
theorem Refines.inDomain_none_iff (h : Refines w calls)
    (hgranted : decision.granted ↔ (through w.self principalId permission none).isSome)
    (hthrough : ∀ a ∈ through w.self principalId permission none,
      decision.domainRestriction = a.domainRestriction) :
    InDomain calls principalId permission none decision ↔
      Separated w.self principalId permission none := by
  rw [through_none] at hgranted hthrough
  cases hfirst : (usable w.self principalId permission).head? with
  | none =>
    have hnone : ¬ ∃ a ∈ usable w.self principalId permission, Covers none a := by
      rw [List.head?_eq_none_iff.mp hfirst]
      simp
    have hdenied : ¬ decision.granted := by
      rw [hgranted, hfirst]
      simp
    refine iff_of_true ?_ (by simp [Separated, hfirst])
    exact ⟨iff_of_false hdenied (mt h.covered_iff.mp hnone), fun _ hyes => absurd hyes hdenied⟩
  | some a =>
    have ha : a ∈ usable w.self principalId permission := List.mem_of_head? hfirst
    have hyes : decision.granted := by
      rw [hgranted, hfirst]
      simp
    have hrestriction : decision.domainRestriction = a.domainRestriction := hthrough a hfirst
    constructor
    · rintro ⟨-, hunrestricted⟩ b hb
      obtain rfl : a = b := Option.some.inj (hfirst.symm.trans hb)
      rw [← hrestriction]
      exact hunrestricted rfl hyes
    · intro hseparated
      have hfree := hseparated a hfirst
      exact ⟨iff_of_true hyes (h.covered_iff.mpr ⟨a, ha, Or.inl hfree⟩),
        fun _ _ => hrestriction.trans hfree⟩

/-- With one, access is granted through what covers it, and through what the empty text lets pass. -/
theorem Refines.inDomain_some_iff (h : Refines w calls) {d : String}
    (hgranted : decision.granted ↔ (through w.self principalId permission (some d)).isSome) :
    InDomain calls principalId permission (some d) decision ↔
      Separated w.self principalId permission (some d) := by
  have hlets : decision.granted ↔ (∃ a ∈ usable w.self principalId permission, Covers (some d) a) ∨
      ∃ a ∈ usable w.self principalId permission, Loose d a := by
    rw [hgranted, through_isSome, ← exists_or]
    refine exists_congr fun a => ?_
    simp only [reduceCtorEq, false_or, Option.some.injEq, exists_eq_left']
    exact and_or_left
  unfold Separated
  constructor
  · rintro ⟨hiff, -⟩
    by_cases hcovers : ∃ a ∈ usable w.self principalId permission, Covers (some d) a
    · exact Or.inl hcovers
    · refine Or.inr fun a ha hloose => ?_
      exact hcovers (h.covered_iff.mp (hiff.mp (hlets.mpr (Or.inr ⟨a, ha, hloose⟩))))
  · intro hseparated
    refine ⟨hlets.trans (Iff.trans ?_ h.covered_iff.symm), fun hnone => by cases hnone⟩
    constructor
    · rintro (hcovers | ⟨a, ha, hloose⟩)
      · exact hcovers
      · exact hseparated.resolve_right fun hnone => hnone a ha hloose
    · exact Or.inl

end Decision

/-- After every history of assignments, revocations and checks, a check logs its decision, and the
decision keeps restricted roles in their domain exactly when the assignments of the principal are
separated by the domain. -/
theorem check_in_domain_iff (rt : Runtime) (env : Env) (calls : List AccessCall)
    (principalId : String) (permission : Permission) (resource : String) (domain : Option String) :
    let w := run (accessStep rt) ⟨.new, env⟩ calls
    ∃ decision, Logged rt w principalId permission resource domain decision ∧
      (InDomain calls principalId permission domain decision ↔
        Separated w.self principalId permission domain) := by
  intro w
  have hrefines : Refines w calls := refines_run rt env calls
  obtain ⟨decision, hlogged, hgranted, hthrough⟩ :=
    run_checkPermission rt w principalId permission resource domain
  refine ⟨decision, hlogged, ?_⟩
  cases domain with
  | none => exact hrefines.inDomain_none_iff hgranted hthrough
  | some d => exact hrefines.inDomain_some_iff hgranted

/-- An operator of the telco domain. -/
def telcoOperator : List AccessCall := [.assignRole "ann" .operator (some "telco") "admin"]

/-- A request that names no domain passes through a restricted role. -/
theorem check_leaves_domain :
    ¬ ∀ (rt : Runtime) (env : Env) (calls : List AccessCall) (principalId : String)
      (permission : Permission) (resource : String) (domain : Option String),
      let w := run (accessStep rt) ⟨.new, env⟩ calls
      ∃ decision, Logged rt w principalId permission resource domain decision ∧
        InDomain calls principalId permission domain decision := by
  intro h
  obtain ⟨decision, hlogged, hdomain⟩ := h .reference (.initial "north") telcoOperator "ann"
    .caseClose "case-1" none
  obtain ⟨decided, hlogged', hgranted, hthrough⟩ := run_checkPermission .reference
    (run (accessStep .reference) ⟨.new, .initial "north"⟩ telcoOperator) "ann" .caseClose "case-1" none
  have hsame : decision = decided := by
    have hreturned := hlogged.returned.symm.trans hlogged'.returned
    injection hreturned
  subst hsame
  have hyes : decision.granted := hgranted.mpr (by decide)
  have hrestricted := hdomain.unrestricted rfl hyes
  rw [hthrough _ rfl] at hrestricted
  cases hrestricted

end ControlFabric.Rbac
