import ControlFabric.Metering.Meter
import ControlFabric.Reconciliation.DomainTypes
import ControlFabric.Py.Numbers

/-! Billing over the metered usage. What the payment service answers comes with the call that asks
for it. The counters are never set back, so the daily quota of a plan, once spent, stays spent, unless
a negative quantity is recorded. -/
namespace ControlFabric.Metering
open Lib Py
open Fabric.Reconciliation (ValueOps)

structure PlanLimits where
  gateSubmissionsPerDay : ℤ
  monthlyPriceGbp : ℕ

def planLimits : List (String × PlanLimits) :=
  [("starter", ⟨100, 2750⟩), ("growth", ⟨1000, 9000⟩), ("enterprise", ⟨-1, 42500⟩),
    ("pilot", ⟨500, 0⟩)]

/-- `PLAN_LIMITS.get(plan, PLAN_LIMITS["starter"])`. -/
def limitsOf (plan : String) : PlanLimits := (planLimits.lookup plan).getD ⟨100, 2750⟩

structure BillingCustomer where
  tenantId : String
  stripeCustomerId : String := ""
  stripeSubscriptionId : String := ""
  stripeSubscriptionItemId : String := ""
  plan : String := "starter"
  status : String := "active"

structure UsageRecord where
  tenantId : String
  gateSubmissions : ℤ
  reconciliationRuns : ℤ
  slmEnrichments : ℤ
  totalBillableUnits : ℤ
  estimatedCostGbp : ℚ
  stripeReported : Bool

structure PlanEnforcementResult where
  allowed : Bool
  reason : String
  plan : String
  limit : ℤ
  currentUsage : ℤ
  upgradeTo : Option String

/-- A usage record made at the payment service, with the tenant it is made for. -/
structure SentUsage where
  tenantId : String
  subscriptionItemId : String
  quantity : ℤ

/-- The customers found by their address and the one created, `none` where the service raises. -/
structure CustomerAnswer where
  listed : Option (List String)
  created : Option String

def CustomerAnswer.customerId (answer : CustomerAnswer) : Option String :=
  answer.listed.bind fun
    | id :: _ => some id
    | [] => answer.created

/-- A subscription created; `items` is `none` where they cannot be read. -/
structure SubscriptionAnswer where
  id : String
  status : String
  items : Option (List String)

/-- The service with what it uses: the prices of the environment, the customers, the metering engine
and what the payment service has been sent. -/
structure StripeBillingService where
  stripeConfigured : Bool
  priceIds : Dict String String
  customers : Dict String BillingCustomer
  meteringEngine : MeteringEngine
  sent : List SentUsage

/-- `get_usage(tenant_id)` gives a tenant counters that has none. -/
def MeteringEngine.lookUp (engine : MeteringEngine) (tenantId : String) : MeteringEngine :=
  { engine with counters := engine.counters.set tenantId (engine.countersOf tenantId) }

namespace StripeBillingService

def start (stripeConfigured : Bool) (priceIds : Dict String String) : StripeBillingService :=
  ⟨stripeConfigured, priceIds, Dict.empty, .new, []⟩

section Model
variable (s : StripeBillingService) (tenantId : String)

def planOf : String := (s.customers.get? tenantId).elim "starter" BillingCustomer.plan

def lookUp : StripeBillingService := { s with meteringEngine := s.meteringEngine.lookUp tenantId }

def getOrCreateCustomer (plan : String) (answer : CustomerAnswer) :
    BillingCustomer × StripeBillingService :=
  match s.customers.get? tenantId with
  | some customer => (customer, s)
  | none =>
    let customer : BillingCustomer :=
      { tenantId := tenantId
        plan := plan
        stripeCustomerId := if s.stripeConfigured then answer.customerId.getD "" else "" }
    (customer, { s with customers := s.customers.set tenantId customer })

/-- What becomes of a customer whose subscription the payment service answers; the item is assigned
last and left as it is where it cannot be read. -/
def BillingCustomer.subscribe (customer : BillingCustomer) (plan : String)
    (answer : Option SubscriptionAnswer) : BillingCustomer :=
  match answer with
  | none => customer
  | some sub => { customer with
      stripeSubscriptionId := sub.id
      plan := plan
      status := sub.status
      stripeSubscriptionItemId :=
        match sub.items with
        | some (item :: _) => item
        | _ => customer.stripeSubscriptionItemId }

def createSubscription (plan : String) (answer : Option SubscriptionAnswer) :
    Except PyError (BillingCustomer × StripeBillingService) :=
  match s.customers.get? tenantId with
  | none => .error (.valueError
      s!"Customer not found for tenant {tenantId}. Call get_or_create_customer first.")
  | some customer =>
    let customer :=
      if s.stripeConfigured ∧ (s.priceIds.get? plan).getD "" ≠ "" ∧
          customer.stripeCustomerId ≠ "" then
        BillingCustomer.subscribe customer plan answer
      else { customer with plan := plan, status := "active" }
    .ok (customer, { s with customers := s.customers.set tenantId customer })

def setPilotPlan : BillingCustomer × StripeBillingService :=
  let customer := (s.customers.get? tenantId).getD { tenantId := tenantId, plan := "pilot" }
  let customer := { customer with plan := "pilot", status := "active" }
  (customer, { s with customers := s.customers.set tenantId customer })

/-- Where a plan has no limit, which is written `-1`, every unit and one more count as overage. -/
def estimateCost (ops : ValueOps) (totalBillable : ℤ) : ℚ :=
  let limits := limitsOf (s.planOf tenantId)
  let dailyRate := ops.round (limits.monthlyPriceGbp / 30)
  let overage : ℤ := max 0 (totalBillable - limits.gateSubmissionsPerDay)
  let overageCost := ops.round (ops.round overage * ops.round (1 / 100))
  ops.round (roundDigits (ops.round (dailyRate + overageCost)) 2)

def usageRecord (ops : ValueOps) : UsageRecord :=
  let gateSubs := s.meteringEngine.getUsage tenantId "gate_submission"
  let reconRuns := s.meteringEngine.getUsage tenantId "reconciliation_run"
  let slmEnrichments := s.meteringEngine.getUsage tenantId "slm_enrichment"
  let totalBillable := gateSubs + reconRuns + slmEnrichments
  { tenantId := tenantId
    gateSubmissions := gateSubs
    reconciliationRuns := reconRuns
    slmEnrichments := slmEnrichments
    totalBillableUnits := totalBillable
    estimatedCostGbp := s.estimateCost tenantId ops totalBillable
    stripeReported := false }

/-- The subscription item that usage of a tenant is reported for, if any. -/
def reportedItem : Option String :=
  if s.stripeConfigured then
    ((s.customers.get? tenantId).map BillingCustomer.stripeSubscriptionItemId).filter
      fun id => id ≠ ""
  else none

/-- `accepted` says whether the payment service takes the record. -/
def reportUsage (ops : ValueOps) (accepted : Bool) : UsageRecord × StripeBillingService :=
  let record := s.usageRecord tenantId ops
  match s.reportedItem tenantId with
  | some item =>
    if accepted then
      ({ record with stripeReported := true }, { s.lookUp tenantId with
          sent := s.sent ++ [⟨tenantId, item, record.totalBillableUnits⟩] })
    else (record, s.lookUp tenantId)
  | none => (record, s.lookUp tenantId)

/-- The body of the loop of `report_all_tenants`. -/
def reportNext (ops : ValueOps) (accepted : String → Bool)
    (done : List UsageRecord × StripeBillingService) (tenantId : String) :
    List UsageRecord × StripeBillingService :=
  let (record, s) := done.2.reportUsage tenantId ops (accepted tenantId)
  (done.1 ++ [record], s)

def reportAllTenants (ops : ValueOps) (accepted : String → Bool) :
    List UsageRecord × StripeBillingService :=
  s.meteringEngine.counters.keys.foldl (reportNext ops accepted) ([], s)

def checkPlanLimits (action : String) : PlanEnforcementResult × StripeBillingService :=
  let plan := s.planOf tenantId
  if action = "gate_submission" then
    let limit := (limitsOf plan).gateSubmissionsPerDay
    if limit = -1 then (⟨true, "unlimited", plan, -1, 0, none⟩, s)
    else
      let current := s.meteringEngine.getUsage tenantId "gate_submission"
      if limit ≤ current then
        let upgradeTo := [("starter", "growth"), ("growth", "enterprise")].lookup plan
        (⟨false, s!"Daily limit of {limit} gate submissions reached on {plan} plan", plan, limit,
          current, upgradeTo⟩, s.lookUp tenantId)
      else
        (⟨true, s!"{current}/{limit} submissions today", plan, limit, current, none⟩,
          s.lookUp tenantId)
  else (⟨true, "action not quota-tracked", plan, -1, 0, none⟩, s)

end Model
end StripeBillingService

/-- A call at the billing service, or of `record` at the metering engine. -/
inductive BillingCall where
  | record (event : MeterEvent)
  | getOrCreateCustomer (tenantId plan : String) (answer : CustomerAnswer)
  | createSubscription (tenantId plan : String) (answer : Option SubscriptionAnswer)
  | setPilotPlan (tenantId : String)
  | reportUsage (tenantId : String) (accepted : Bool)
  | reportAllTenants (accepted : String → Bool)
  | checkPlanLimits (tenantId action : String)

/-- A subscription for a tenant who is no customer raises and changes nothing. -/
def billingStep (ops : ValueOps) (call : BillingCall) (s : StripeBillingService) :
    StripeBillingService :=
  match call with
  | .record event => { s with meteringEngine := s.meteringEngine.record event }
  | .getOrCreateCustomer tenantId plan answer => (s.getOrCreateCustomer tenantId plan answer).2
  | .createSubscription tenantId plan answer =>
    match s.createSubscription tenantId plan answer with
    | .error _ => s
    | .ok (_, s') => s'
  | .setPilotPlan tenantId => (s.setPilotPlan tenantId).2
  | .reportUsage tenantId accepted => (s.reportUsage tenantId ops accepted).2
  | .reportAllTenants accepted => (s.reportAllTenants ops accepted).2
  | .checkPlanLimits tenantId action => (s.checkPlanLimits tenantId action).2

namespace BillingCall

/-- The quantity metered by a call for a tenant under a type. -/
def metered (tenantId eventType : String) : BillingCall → ℤ
  | .record event =>
    if event.tenantId = tenantId ∧ event.eventType = eventType then event.quantity else 0
  | _ => 0

/-- The call may set the plan of the tenant. -/
def SetsPlan (tenantId : String) : BillingCall → Prop
  | .getOrCreateCustomer id _ _ | .createSubscription id _ _ | .setPilotPlan id => id = tenantId
  | _ => False

/-- The call meters no negative quantity for the tenant. -/
def Counts (tenantId : String) (call : BillingCall) : Prop :=
  ∀ eventType, 0 ≤ call.metered tenantId eventType

end BillingCall

/-- What the calls meter for a tenant under a type. -/
def meteredBy (calls : List BillingCall) (tenantId eventType : String) : ℤ :=
  (calls.map (BillingCall.metered tenantId eventType)).sum

/-- What the calls meter for a tenant of what is billed. -/
def billableBy (calls : List BillingCall) (tenantId : String) : ℤ :=
  meteredBy calls tenantId "gate_submission" + meteredBy calls tenantId "reconciliation_run" +
    meteredBy calls tenantId "slm_enrichment"

/-! ### What a call changes -/

@[simp] theorem MeteringEngine.getUsage_lookUp (engine : MeteringEngine)
    (id tenantId eventType : String) :
    (engine.lookUp id).getUsage tenantId eventType = engine.getUsage tenantId eventType := by
  unfold getUsage countersOf lookUp
  rw [Dict.get?_set]
  split
  next heq => simp [heq, countersOf]
  next => rfl

namespace StripeBillingService
variable {s s' : StripeBillingService}

/-- What has been metered for a tenant of what is billed. -/
def billed (s : StripeBillingService) (tenantId : String) : ℤ :=
  s.meteringEngine.getUsage tenantId "gate_submission" +
    s.meteringEngine.getUsage tenantId "reconciliation_run" +
    s.meteringEngine.getUsage tenantId "slm_enrichment"

/-- A usage record that says for the item of its tenant what has been metered. -/
def Accurate (s : StripeBillingService) (u : SentUsage) : Prop :=
  s.reportedItem u.tenantId = some u.subscriptionItemId ∧ u.quantity = s.billed u.tenantId

/-- Usage is looked up and perhaps reported, and nothing else is changed. -/
structure Reports (s s' : StripeBillingService) : Prop where
  configured : s'.stripeConfigured = s.stripeConfigured
  customers : s'.customers = s.customers
  usage : ∀ tenantId eventType,
    s'.meteringEngine.getUsage tenantId eventType = s.meteringEngine.getUsage tenantId eventType
  sent : ∃ new, s'.sent = s.sent ++ new ∧ ∀ u ∈ new, s.Accurate u

namespace Reports

theorem refl (s : StripeBillingService) : Reports s s := ⟨rfl, rfl, fun _ _ => rfl, [], by simp⟩

theorem of_lookUp (s : StripeBillingService) (tenantId : String) : Reports s (s.lookUp tenantId) :=
  ⟨rfl, rfl, fun _ _ => MeteringEngine.getUsage_lookUp .., [], by simp [lookUp]⟩

theorem reportedItem (h : Reports s s') (tenantId : String) :
    s'.reportedItem tenantId = s.reportedItem tenantId := by
  unfold StripeBillingService.reportedItem
  rw [h.configured, h.customers]

theorem billed (h : Reports s s') (tenantId : String) : s'.billed tenantId = s.billed tenantId := by
  simp only [StripeBillingService.billed, h.usage]

theorem accurate (h : Reports s s') (u : SentUsage) : s'.Accurate u ↔ s.Accurate u := by
  rw [Accurate, Accurate, h.reportedItem, h.billed]

theorem trans {s'' : StripeBillingService} (h : Reports s s') (h' : Reports s' s'') :
    Reports s s'' := by
  obtain ⟨new, hsent, hnew⟩ := h.sent
  obtain ⟨new', hsent', hnew'⟩ := h'.sent
  refine ⟨h'.configured.trans h.configured, h'.customers.trans h.customers,
    fun t e => (h'.usage t e).trans (h.usage t e), new ++ new', ?_, fun u hu => ?_⟩
  · rw [hsent', hsent, List.append_assoc]
  · rcases List.mem_append.mp hu with hu | hu
    · exact hnew u hu
    · exact (h.accurate u).mp (hnew' u hu)

end Reports

theorem reports_reportUsage (s : StripeBillingService) (tenantId : String) (ops : ValueOps)
    (accepted : Bool) : Reports s (s.reportUsage tenantId ops accepted).2 := by
  have hlooked := Reports.of_lookUp s tenantId
  unfold reportUsage
  cases hitem : s.reportedItem tenantId with
  | none => exact hlooked
  | some item =>
    cases accepted with
    | false => exact hlooked
    | true =>
      refine ⟨rfl, rfl, hlooked.usage, _, rfl, fun u hu => ?_⟩
      obtain rfl := List.mem_singleton.mp hu
      exact ⟨hitem, rfl⟩

/-- Usage of these tenants is reported one after the other. -/
def reportEach (ops : ValueOps) (accepted : String → Bool) (ids : List String)
    (s : StripeBillingService) : StripeBillingService :=
  ids.foldl (fun s id => (s.reportUsage id ops (accepted id)).2) s

theorem reportAllTenants_snd (s : StripeBillingService) (ops : ValueOps)
    (accepted : String → Bool) :
    (s.reportAllTenants ops accepted).2 =
      reportEach ops accepted s.meteringEngine.counters.keys s := by
  have hall : ∀ (ids : List String) (done : List UsageRecord × StripeBillingService),
      (ids.foldl (reportNext ops accepted) done).2 = reportEach ops accepted ids done.2 := by
    intro ids
    induction ids with
    | nil => exact fun _ => rfl
    | cons id ids ih => exact fun _ => ih _
  exact hall _ _

theorem reports_reportEach (ops : ValueOps) (accepted : String → Bool) (ids : List String)
    (s : StripeBillingService) : Reports s (reportEach ops accepted ids s) := by
  induction ids generalizing s with
  | nil => exact .refl s
  | cons id ids ih => exact (reports_reportUsage s id ops (accepted id)).trans (ih _)

theorem reports_checkPlanLimits (s : StripeBillingService) (tenantId action : String) :
    Reports s (s.checkPlanLimits tenantId action).2 := by
  unfold checkPlanLimits
  dsimp only
  split_ifs
  · exact .refl s
  · exact .of_lookUp s tenantId
  · exact .of_lookUp s tenantId
  · exact .refl s

/-- A call meters, sets the plan of its tenant, or looks up what has been metered. -/
inductive Effect (call : BillingCall) (s s' : StripeBillingService) : Prop
  | metered (event : MeterEvent) (hcall : call = .record event)
      (hs' : s' = { s with meteringEngine := s.meteringEngine.record event })
  | planned (hquiet : ∀ tenantId eventType, call.metered tenantId eventType = 0)
      (hcustomers : ∀ tenantId, ¬ call.SetsPlan tenantId →
        s'.customers.get? tenantId = s.customers.get? tenantId)
      (hengine : s'.meteringEngine = s.meteringEngine) (hsent : s'.sent = s.sent)
  | looked (hquiet : ∀ tenantId eventType, call.metered tenantId eventType = 0)
      (hreports : Reports s s')

theorem billing_effect (ops : ValueOps) (call : BillingCall) (s : StripeBillingService) :
    Effect call s (billingStep ops call s) := by
  cases call with
  | record event => exact .metered event rfl rfl
  | getOrCreateCustomer id plan answer =>
    simp only [billingStep, getOrCreateCustomer]
    split
    · exact .planned (fun _ _ => rfl) (fun _ _ => rfl) rfl rfl
    · exact .planned (fun _ _ => rfl)
        (fun _ hother => Dict.get?_set_of_ne (Ne.symm hother) _ _) rfl rfl
  | createSubscription id plan answer =>
    simp only [billingStep, createSubscription]
    cases s.customers.get? id with
    | none => exact .planned (fun _ _ => rfl) (fun _ _ => rfl) rfl rfl
    | some customer =>
      exact .planned (fun _ _ => rfl)
        (fun _ hother => Dict.get?_set_of_ne (Ne.symm hother) _ _) rfl rfl
  | setPilotPlan id =>
    exact .planned (fun _ _ => rfl)
      (fun _ hother => Dict.get?_set_of_ne (Ne.symm hother) _ _) rfl rfl
  | reportUsage id accepted =>
    exact .looked (fun _ _ => rfl) (reports_reportUsage s id ops accepted)
  | reportAllTenants accepted =>
    rw [billingStep, reportAllTenants_snd]
    exact .looked (fun _ _ => rfl) (reports_reportEach ops accepted _ s)
  | checkPlanLimits id action =>
    exact .looked (fun _ _ => rfl) (reports_checkPlanLimits s id action)

theorem getUsage_step (ops : ValueOps) (call : BillingCall) (s : StripeBillingService)
    (tenantId eventType : String) :
    (billingStep ops call s).meteringEngine.getUsage tenantId eventType =
      s.meteringEngine.getUsage tenantId eventType + call.metered tenantId eventType := by
  cases billing_effect ops call s with
  | metered event hcall hs' =>
    subst hcall
    exact MeteringEngine.getUsage_record ..
  | planned hquiet _ hengine _ => rw [hengine, hquiet, add_zero]
  | looked hquiet hreports => rw [hreports.usage, hquiet, add_zero]

theorem sent_step (ops : ValueOps) (call : BillingCall) (s : StripeBillingService) :
    ∃ new, (billingStep ops call s).sent = s.sent ++ new ∧ ∀ u ∈ new, s.Accurate u := by
  cases billing_effect ops call s with
  | metered event _ hs' =>
    rw [hs']
    exact ⟨[], by simp⟩
  | planned _ _ _ hsent =>
    rw [hsent]
    exact ⟨[], by simp⟩
  | looked _ hreports => exact hreports.sent

theorem planOf_step (ops : ValueOps) {call : BillingCall} {tenantId : String}
    (hkeeps : ¬ call.SetsPlan tenantId) (s : StripeBillingService) :
    (billingStep ops call s).planOf tenantId = s.planOf tenantId := by
  unfold planOf
  cases billing_effect ops call s with
  | metered event _ hs' => rw [hs']
  | planned _ hcustomers _ _ => rw [hcustomers tenantId hkeeps]
  | looked _ hreports => rw [hreports.customers]

/-! ### Runs -/

theorem getUsage_run (ops : ValueOps) (calls : List BillingCall) (s : StripeBillingService)
    (tenantId eventType : String) :
    (run (billingStep ops) s calls).meteringEngine.getUsage tenantId eventType =
      s.meteringEngine.getUsage tenantId eventType + meteredBy calls tenantId eventType := by
  induction calls generalizing s with
  | nil => exact (add_zero _).symm
  | cons call calls ih =>
    rw [run_cons, ih, getUsage_step, meteredBy, meteredBy, List.map_cons, List.sum_cons,
      add_assoc]

/-- Every call is metered in full, and no other. -/
theorem getUsage_start (ops : ValueOps) (configured : Bool) (priceIds : Dict String String)
    (calls : List BillingCall) (tenantId eventType : String) :
    (run (billingStep ops) (start configured priceIds) calls).meteringEngine.getUsage
        tenantId eventType =
      meteredBy calls tenantId eventType := by
  rw [getUsage_run]
  exact zero_add _

theorem billed_start (ops : ValueOps) (configured : Bool) (priceIds : Dict String String)
    (calls : List BillingCall) (tenantId : String) :
    (run (billingStep ops) (start configured priceIds) calls).billed tenantId =
      billableBy calls tenantId := by
  simp only [billed, getUsage_start, billableBy]

theorem planOf_run (ops : ValueOps) {calls : List BillingCall} {tenantId : String}
    (hkeep : ∀ call ∈ calls, ¬ call.SetsPlan tenantId) (s : StripeBillingService) :
    (run (billingStep ops) s calls).planOf tenantId = s.planOf tenantId :=
  run_invariant (I := fun s' => s'.planOf tenantId = s.planOf tenantId) (billingStep ops)
    (fun call hcall s' h => (planOf_step ops (hkeep call hcall) s').trans h) rfl

/-- A tenant's gate submissions are allowed if its plan sets no limit or they are below it. -/
theorem checkPlanLimits_allowed_iff (s : StripeBillingService) (tenantId : String) :
    (s.checkPlanLimits tenantId "gate_submission").1.allowed ↔
      (limitsOf (s.planOf tenantId)).gateSubmissionsPerDay = -1 ∨
        s.meteringEngine.getUsage tenantId "gate_submission" <
          (limitsOf (s.planOf tenantId)).gateSubmissionsPerDay := by
  unfold checkPlanLimits
  simp only [if_pos]
  split_ifs with hunlimited hreached
  · simp [hunlimited]
  · simp only [false_iff]
    omega
  · simp only [true_iff]
    omega

/-- The quota is one of all submissions ever metered for the tenant, whenever they were, and a
refusal stands until the plan of the tenant is set or a negative quantity is metered for it. -/
structure QuotaSpent (ops : ValueOps) (s : StripeBillingService) (calls : List BillingCall)
    (tenantId : String) : Prop where
  allowed_iff :
    ((run (billingStep ops) s calls).checkPlanLimits tenantId "gate_submission").1.allowed ↔
    (limitsOf ((run (billingStep ops) s calls).planOf tenantId)).gateSubmissionsPerDay = -1 ∨
      meteredBy calls tenantId "gate_submission" <
        (limitsOf ((run (billingStep ops) s calls).planOf tenantId)).gateSubmissionsPerDay
  refused :
    ¬ ((run (billingStep ops) s calls).checkPlanLimits tenantId "gate_submission").1.allowed →
    ∀ later, (∀ call ∈ later, ¬ call.SetsPlan tenantId ∧ call.Counts tenantId) →
      ¬ ((run (billingStep ops) s (calls ++ later)).checkPlanLimits
        tenantId "gate_submission").1.allowed

theorem meteredBy_append (calls later : List BillingCall) (tenantId eventType : String) :
    meteredBy (calls ++ later) tenantId eventType =
      meteredBy calls tenantId eventType + meteredBy later tenantId eventType := by
  simp [meteredBy]

theorem meteredBy_nonneg {calls : List BillingCall} {tenantId : String}
    (h : ∀ call ∈ calls, call.Counts tenantId) (eventType : String) :
    0 ≤ meteredBy calls tenantId eventType := by
  apply List.sum_nonneg
  intro quantity hquantity
  obtain ⟨call, hcall, rfl⟩ := List.mem_map.mp hquantity
  exact h call hcall eventType

/-- In every run from the start, the daily limit of a plan is one on all submissions ever metered.
-/
theorem daily_quota_spent (ops : ValueOps) (configured : Bool) (priceIds : Dict String String)
    (calls : List BillingCall) (tenantId : String) :
    QuotaSpent ops (start configured priceIds) calls tenantId where
  allowed_iff := by rw [checkPlanLimits_allowed_iff, getUsage_start]
  refused := by
    intro hrefused later hlater
    rw [checkPlanLimits_allowed_iff, getUsage_start] at hrefused ⊢
    have hmore := meteredBy_nonneg (fun call hcall => (hlater call hcall).2) "gate_submission"
    rw [run_append, planOf_run ops fun call hcall => (hlater call hcall).1, meteredBy_append]
    omega

/-! ### What is reported -/

/-- The quantities reported for a tenant, in order. -/
def reportedFor (s : StripeBillingService) (tenantId : String) : List ℤ :=
  (s.sent.filter fun u => u.tenantId = tenantId).map SentUsage.quantity

/-- The quantities reported for the tenant never fall, and none is more than what has been metered. -/
structure Rising (tenantId : String) (s : StripeBillingService) : Prop where
  sorted : (s.reportedFor tenantId).Pairwise (· ≤ ·)
  bounded : ∀ u ∈ s.sent, u.tenantId = tenantId → u.quantity ≤ s.billed tenantId

theorem billed_step (ops : ValueOps) {call : BillingCall} {tenantId : String}
    (hcounts : call.Counts tenantId) (s : StripeBillingService) :
    s.billed tenantId ≤ (billingStep ops call s).billed tenantId := by
  have hsubmissions := hcounts "gate_submission"
  have hruns := hcounts "reconciliation_run"
  have henrichments := hcounts "slm_enrichment"
  simp only [billed, getUsage_step]
  omega

theorem Rising.step (ops : ValueOps) {call : BillingCall} {tenantId : String}
    (hcounts : call.Counts tenantId) (h : Rising tenantId s) :
    Rising tenantId (billingStep ops call s) := by
  obtain ⟨new, hsent, hnew⟩ := sent_step ops call s
  refine ⟨?_, fun u hu htenant => ?_⟩
  · rw [reportedFor, hsent, List.filter_append, List.map_append, List.pairwise_append]
    refine ⟨h.sorted, ?_, ?_⟩
    · refine List.pairwise_iff_forall_sublist.mpr fun {a b} hab => ?_
      have hbilled : ∀ q ∈ [a, b], q = s.billed tenantId := by
        intro q hq
        obtain ⟨u, hu, rfl⟩ := List.mem_map.mp (hab.subset hq)
        obtain ⟨hmem, htenant⟩ := List.mem_filter.mp hu
        rw [(hnew u hmem).2, of_decide_eq_true htenant]
      rw [hbilled a (by simp), hbilled b (by simp)]
    · intro a ha b hb
      obtain ⟨u, hu, rfl⟩ := List.mem_map.mp ha
      obtain ⟨v, hv, rfl⟩ := List.mem_map.mp hb
      obtain ⟨humem, hut⟩ := List.mem_filter.mp hu
      obtain ⟨hvmem, hvt⟩ := List.mem_filter.mp hv
      rw [(hnew v hvmem).2, of_decide_eq_true hvt]
      exact h.bounded u humem (of_decide_eq_true hut)
  · refine le_trans ?_ (billed_step ops hcounts s)
    rw [hsent] at hu
    rcases List.mem_append.mp hu with hold | hadded
    · exact h.bounded u hold htenant
    · exact htenant ▸ (hnew u hadded).2.le

/-- What the payment service is sent in a run: each record by a call that sends what the tenant of the
item has been metered until then, so that no quantity is less than an earlier one unless a negative one
is metered. -/
structure SentRight (ops : ValueOps) (s : StripeBillingService) (calls : List BillingCall) :
    Prop where
  origin : ∀ i u, (run (billingStep ops) s calls).sent[i]? = some u → ∃ before call after,
    calls = before ++ call :: after ∧ (run (billingStep ops) s before).sent.length ≤ i ∧
      i < (run (billingStep ops) s (before ++ [call])).sent.length ∧
      u.quantity = billableBy before u.tenantId ∧
      (run (billingStep ops) s before).reportedItem u.tenantId = some u.subscriptionItemId
  sorted : ∀ tenantId, (∀ call ∈ calls, call.Counts tenantId) →
    ((run (billingStep ops) s calls).reportedFor tenantId).Pairwise (· ≤ ·)
  complete : ∀ accepted tenantId item, accepted tenantId = true →
    (run (billingStep ops) s calls).reportedItem tenantId = some item →
    tenantId ∈ (run (billingStep ops) s calls).meteringEngine.counters →
    ((run (billingStep ops) s (calls ++ [.reportAllTenants accepted])).sent.filter fun u =>
      u.tenantId = tenantId).getLast? = some ⟨tenantId, item, billableBy calls tenantId⟩

/-- A record that stands at a place has stood there before the call, or the call has sent it. -/
theorem sent_at_step (ops : ValueOps) (call : BillingCall) (s : StripeBillingService) {i : ℕ}
    {u : SentUsage} (h : (billingStep ops call s).sent[i]? = some u) :
    s.sent[i]? = some u ∨
      s.sent.length ≤ i ∧ i < (billingStep ops call s).sent.length ∧ s.Accurate u := by
  obtain ⟨new, hsent, hnew⟩ := sent_step ops call s
  by_cases hold : i < s.sent.length
  · rw [hsent, List.getElem?_append_left hold] at h
    exact Or.inl h
  · have hle := not_lt.mp hold
    refine Or.inr ⟨hle, (List.getElem?_eq_some_iff.mp h).1, hnew u ?_⟩
    rw [hsent, List.getElem?_append_right hle] at h
    exact List.mem_of_getElem? h

theorem filter_reportUsage {id tenantId : String} (hne : id ≠ tenantId) (ops : ValueOps)
    (accepted : Bool) (s : StripeBillingService) :
    ((s.reportUsage id ops accepted).2.sent.filter fun u => u.tenantId = tenantId) =
      s.sent.filter fun u => u.tenantId = tenantId := by
  unfold reportUsage
  cases s.reportedItem id with
  | none => rfl
  | some item => cases accepted <;> simp [lookUp, hne]

/-- Of the tenants reported one after the other, each that is accepted has its report last. -/
theorem last_reportEach (ops : ValueOps) {accepted : String → Bool} {tenantId item : String}
    (haccepted : accepted tenantId = true) {ids : List String} {s : StripeBillingService}
    (hitem : s.reportedItem tenantId = some item) (hor : tenantId ∈ ids ∨
      (s.sent.filter fun u => u.tenantId = tenantId).getLast? =
        some ⟨tenantId, item, s.billed tenantId⟩) :
    ((reportEach ops accepted ids s).sent.filter fun u => u.tenantId = tenantId).getLast? =
      some ⟨tenantId, item, s.billed tenantId⟩ := by
  induction ids generalizing s with
  | nil => exact hor.resolve_left List.not_mem_nil
  | cons id ids ih =>
    have hreports := reports_reportUsage s id ops (accepted id)
    rw [← hreports.billed tenantId]
    refine ih ((hreports.reportedItem tenantId).trans hitem) ?_
    rw [hreports.billed tenantId]
    by_cases hid : id = tenantId
    · refine Or.inr ?_
      subst hid
      simp [reportUsage, hitem, haccepted, usageRecord, billed]
    · rw [filter_reportUsage hid]
      exact hor.imp_left fun hmem => (List.mem_cons.mp hmem).resolve_left (Ne.symm hid)

/-- In every run from the start, whatever the payment service answers and whichever plans are set.
-/
theorem sent_right (ops : ValueOps) (configured : Bool) (priceIds : Dict String String)
    (calls : List BillingCall) : SentRight ops (start configured priceIds) calls where
  origin := by
    intro i u hu
    have horigin := origin_run (billingStep ops) (K := fun _ => True) (b := (i, u))
      (H := fun s p => s.sent[p.1]? = some p.2)
      (Q := fun s call p => s.sent.length ≤ p.1 ∧ p.1 < (billingStep ops call s).sent.length ∧
        s.Accurate p.2)
      (fun _ _ h => h) (fun s call p _ hp => sent_at_step ops call s hp) trivial
      (fun p hp => by simp [start] at hp) hu
    obtain ⟨before, call, after, rfl, hle, hlt, hitem, hquantity⟩ := horigin
    rw [billed_start] at hquantity
    exact ⟨before, call, after, rfl, hle, by rwa [run_concat], hquantity, hitem⟩
  sorted := by
    intro tenantId hcounts
    have hrising : Rising tenantId (run (billingStep ops) (start configured priceIds) calls) := by
      refine run_invariant (I := Rising tenantId) (billingStep ops)
        (fun call hcall _ h => h.step ops (hcounts call hcall)) ?_
      exact ⟨List.Pairwise.nil, fun u hu => absurd hu List.not_mem_nil⟩
    exact hrising.sorted
  complete := by
    intro accepted tenantId item haccepted hitem hmetered
    rw [run_concat, billingStep, reportAllTenants_snd,
      last_reportEach ops haccepted hitem (Or.inl hmetered), billed_start]

end StripeBillingService
end ControlFabric.Metering
