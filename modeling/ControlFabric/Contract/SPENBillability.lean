import ControlFabric.Contract.Billability

/-! Whether work on an electricity distribution network can be billed. Five rules in turn add their
results, clear the flag where they fail, and change the rate. -/
namespace ControlFabric.Contract
open Packs

inductive WorkCategory where
  | hvSwitching
  | lvFaultRepair
  | cableJointing
  | cableJointingHv
  | cableJointingLv
  | overheadLines
  | overheadLineRepair
  | substationMaintenance
  | metering
  | meteringInstallation
  | connections
  | newConnection
  | treeCutting
  | civils
  | civilsExcavation
  | reinstatement
  | reinstatementTemporary
  | reinstatementPermanent

def WorkCategory.value : WorkCategory → String
  | hvSwitching => "hv_switching"
  | lvFaultRepair => "lv_fault_repair"
  | cableJointing => "cable_jointing"
  | cableJointingHv => "cable_jointing_hv"
  | cableJointingLv => "cable_jointing_lv"
  | overheadLines => "overhead_lines"
  | overheadLineRepair => "overhead_line_repair"
  | substationMaintenance => "substation_maintenance"
  | metering => "metering"
  | meteringInstallation => "metering_installation"
  | connections => "connections"
  | newConnection => "new_connection"
  | treeCutting => "tree_cutting"
  | civils => "civils"
  | civilsExcavation => "civils_excavation"
  | reinstatement => "reinstatement"
  | reinstatementTemporary => "reinstatement_temporary"
  | reinstatementPermanent => "reinstatement_permanent"

inductive BillingPrerequisite where
  | priorApproval
  | purchaseOrder
  | variationOrder
  | dayworkSheetSigned
  | completionCertificate
  | customerSignOff
  | asBuiltSubmitted
  | permitClosedOut
  deriving DecidableEq

def BillingPrerequisite.value : BillingPrerequisite → String
  | priorApproval => "prior_approval"
  | purchaseOrder => "purchase_order"
  | variationOrder => "variation_order"
  | dayworkSheetSigned => "daywork_sheet_signed"
  | completionCertificate => "completion_certificate"
  | customerSignOff => "customer_sign_off"
  | asBuiltSubmitted => "as_built_submitted"
  | permitClosedOut => "permit_closed_out"

structure BillingGate where
  gateType : BillingPrerequisite
  satisfied : Bool := false

structure SPENRateCard where
  workCategory : WorkCategory
  activityCode : String
  unit : String
  baseRate : ℚ
  emergencyMultiplier : ℚ := 3 / 2
  overtimeMultiplier : ℚ := 13 / 10
  weekendMultiplier : ℚ := 3 / 2
  requiresApprovalAbove : Option ℚ := none

structure ReattendanceRule where
  trigger : String
  billable : Bool
  rateModifier : ℚ := 1
  description : String := ""

/-- `_DEFAULT_REATTENDANCE_RULES`. -/
def defaultReattendanceRules : List ReattendanceRule :=
  [⟨"provider_fault", false, 0, "Provider-fault re-attendance is non-billable"⟩,
    ⟨"customer_fault", true, 1, "Customer-fault re-attendance is billable at standard rate"⟩,
    ⟨"dno_fault", true, 1, "DNO-fault re-attendance is billable at standard rate"⟩,
    ⟨"third_party", true, 1, "Third-party-caused re-attendance is billable at standard rate"⟩,
    ⟨"weather", true, 1, "Weather-related re-attendance is billable if weather event documented"⟩]

namespace SPENBillabilityEngine

section Find
variable (ip : Margin.Interpreter) (activity workCategory : String) (rateCard : List SPENRateCard)

/-- `text.lower().strip()`. -/
def normalised (text : String) : String := Margin.strip ip (ip.lower text)

def ofCategory (rc : SPENRateCard) : Bool := rc.workCategory.value = normalised ip workCategory

def exactMatch (rc : SPENRateCard) : Bool :=
  ofCategory ip workCategory rc ∧ ip.lower rc.activityCode = normalised ip activity

def fuzzyMatch (rc : SPENRateCard) : Bool :=
  ofCategory ip workCategory rc ∧
    (Py.occursIn (normalised ip activity) (ip.lower rc.activityCode) ∨
      Py.occursIn (ip.lower rc.activityCode) (normalised ip activity))

def findMatchingRate : Option SPENRateCard :=
  rateCard.find? (exactMatch ip activity workCategory) <|>
    rateCard.find? (fuzzyMatch ip activity workCategory) <|>
      rateCard.find? (ofCategory ip workCategory)

/-- `self._reattendance_rules`; no rules are an empty list. -/
def rulesOr (reattendanceRules : List ReattendanceRule) : List ReattendanceRule :=
  if reattendanceRules.isEmpty then defaultReattendanceRules else reattendanceRules

def findReattendanceRule (reattendanceRules : List ReattendanceRule) (trigger : String) :
    Option ReattendanceRule :=
  (rulesOr reattendanceRules).find? fun rule => ip.lower rule.trigger = normalised ip trigger

def timeMultiplier (timeOfDay : String) (rate : SPENRateCard) : ℚ :=
  match ip.lower timeOfDay with
  | "emergency" => rate.emergencyMultiplier
  | "overtime" => rate.overtimeMultiplier
  | "weekend" => rate.weekendMultiplier
  | _ => 1

end Find

/-- The variables that the rules update. -/
structure Draft where
  results : List RuleResult := []
  appliedRate : Option ℚ := none
  billable : Bool := true

def Draft.pass (ruleName message : String) (d : Draft) : Draft :=
  { d with results := d.results ++ [⟨ruleName, true, message, "info"⟩] }

def Draft.fail (ruleName message : String) (d : Draft) (severity : String := "error") : Draft :=
  { d with results := d.results ++ [⟨ruleName, false, message, severity⟩], billable := false }

section Rules
variable (ip : Margin.Interpreter) (reattendanceRules : List ReattendanceRule)
  (activity workCategory : String) (matchingRate : Option SPENRateCard)
  (billingGates : List BillingGate) (isReattendance : Bool) (reattendanceTrigger : String)
  (timeOfDay : String)

def rateRule (d : Draft) : Draft :=
  match matchingRate with
  | none => d.fail "has_matching_rate"
      s!"No SPEN rate found for activity '{activity}' in category '{workCategory}'"
  | some rate =>
    { d with appliedRate := some rate.baseRate }.pass "has_matching_rate"
      s!"Rate matched: {rate.activityCode} — £{Margin.formatCents rate.baseRate}/{rate.unit}"

def gatesRule (d : Draft) : Draft :=
  let unsatisfiedGates := billingGates.filter fun g => ¬ g.satisfied
  if unsatisfiedGates.isEmpty then d.pass "billing_gates_satisfied" "All billing gates satisfied"
  else d.fail "billing_gates_satisfied" ("Unsatisfied billing gates: " ++
    ", ".intercalate (unsatisfiedGates.map fun g => g.gateType.value))

def reattendanceRule (d : Draft) : Draft :=
  if isReattendance then
    match findReattendanceRule ip reattendanceRules reattendanceTrigger with
    | none => d.fail "reattendance_check"
        s!"Unknown re-attendance trigger: '{reattendanceTrigger}'" "warning"
    | some rule =>
      if rule.billable then
        { d with appliedRate := d.appliedRate.map (· * rule.rateModifier) }.pass
          "reattendance_check" s!"Re-attendance billable: {rule.description}"
      else
        { d with appliedRate := some 0 }.fail "reattendance_check"
          s!"Re-attendance non-billable: {rule.description}"
  else d.pass "reattendance_check" "Not a re-attendance"

def timeRule (d : Draft) : Draft :=
  match matchingRate, d.appliedRate with
  | some rate, some appliedRate =>
    if appliedRate > 0 then
      let multiplier := timeMultiplier ip timeOfDay rate
      { d with appliedRate := some (appliedRate * multiplier) }.pass "time_of_day_modifier"
        (s!"Time-of-day modifier applied: {timeOfDay} -> {ip.strFloat multiplier}x " ++
          s!"(effective rate £{Margin.formatCents (appliedRate * multiplier)})")
    else d.pass "time_of_day_modifier" "No time-of-day modifier applicable"
  | _, _ => d.pass "time_of_day_modifier" "No time-of-day modifier applicable"

def hasApproval : Bool :=
  billingGates.any fun g => g.gateType = .priorApproval ∧ g.satisfied

def approvalRule (d : Draft) : Draft :=
  match matchingRate.bind SPENRateCard.requiresApprovalAbove, d.appliedRate with
  | some threshold, some appliedRate =>
    if appliedRate > threshold then
      if hasApproval billingGates then
        d.pass "approval_threshold" "Prior approval obtained for value above threshold"
      else d.fail "approval_threshold"
        (s!"Effective rate £{Margin.formatCents appliedRate} exceeds approval threshold " ++
          s!"£{Margin.formatCents threshold} — prior approval required")
    else d.pass "approval_threshold" "No approval threshold applicable"
  | _, _ => d.pass "approval_threshold" "No approval threshold applicable"

/-- All the rules, with the rate that was found. -/
def draft : Draft :=
  approvalRule matchingRate billingGates <| timeRule ip matchingRate timeOfDay <|
    reattendanceRule ip reattendanceRules isReattendance reattendanceTrigger <|
      gatesRule billingGates <| rateRule activity workCategory matchingRate {}

end Rules

def evaluate (ip : Margin.Interpreter) (reattendanceRules : List ReattendanceRule)
    (activity workCategory : String) (rateCard : List SPENRateCard)
    (billingGates : List BillingGate) (isReattendance : Bool := false)
    (reattendanceTrigger : String := "") (timeOfDay : String := "normal") : BillabilityDecision :=
  let matchingRate := findMatchingRate ip activity workCategory rateCard
  let d := draft ip reattendanceRules activity workCategory matchingRate billingGates isReattendance
    reattendanceTrigger timeOfDay
  { billable := d.billable
    confidence := confidence d.results
    reasons := reasons d.results
    rateApplied := d.appliedRate
    category := some (if timeOfDay = "normal" then "daywork" else "emergency_callout")
    ruleResults := d.results.map fun r => ⟨r.ruleName, r.passed, r.message⟩ }

/-! ### The flag and the results -/

/-- The flag is set exactly if every rule so far passed. -/
def Draft.Sound (d : Draft) : Prop := d.billable = allPassed d.results

section Flag
variable {ip : Margin.Interpreter} {reattendanceRules : List ReattendanceRule}
  {activity workCategory : String} {matchingRate : Option SPENRateCard}
  {billingGates : List BillingGate} {isReattendance : Bool} {reattendanceTrigger timeOfDay : String}
  {d : Draft} {ruleName message severity : String}

theorem Draft.Sound.pass (h : d.Sound) : (d.pass ruleName message).Sound := by
  simpa [Sound, Draft.pass, allPassed] using h

theorem Draft.sound_fail : (d.fail ruleName message severity).Sound := by
  simp [Sound, Draft.fail, allPassed]

/-- The rate does not matter. -/
theorem Draft.Sound.withRate (h : d.Sound) (appliedRate : Option ℚ) :
    Draft.Sound { d with appliedRate := appliedRate } := h

theorem sound_rateRule (h : d.Sound) : (rateRule activity workCategory matchingRate d).Sound := by
  cases matchingRate with
  | none => exact Draft.sound_fail
  | some rate => exact (h.withRate _).pass

theorem sound_gatesRule (h : d.Sound) : (gatesRule billingGates d).Sound := by
  unfold gatesRule
  dsimp only
  split
  · exact h.pass
  · exact Draft.sound_fail

theorem sound_reattendanceRule (h : d.Sound) :
    (reattendanceRule ip reattendanceRules isReattendance reattendanceTrigger d).Sound := by
  unfold reattendanceRule
  split
  · split
    · exact Draft.sound_fail
    · split
      · exact (h.withRate _).pass
      · exact Draft.sound_fail
  · exact h.pass

theorem sound_timeRule (h : d.Sound) : (timeRule ip matchingRate timeOfDay d).Sound := by
  unfold timeRule
  split
  · split
    · exact (h.withRate _).pass
    · exact h.pass
  · exact h.pass

theorem sound_approvalRule (h : d.Sound) : (approvalRule matchingRate billingGates d).Sound := by
  unfold approvalRule
  split
  · split
    · split
      · exact h.pass
      · exact Draft.sound_fail
    · exact h.pass
  · exact h.pass

theorem sound_draft : (draft ip reattendanceRules activity workCategory matchingRate billingGates
    isReattendance reattendanceTrigger timeOfDay).Sound :=
  sound_approvalRule <| sound_timeRule <| sound_reattendanceRule <| sound_gatesRule <|
    sound_rateRule rfl

theorem results_draft_ne_nil : (draft ip reattendanceRules activity workCategory matchingRate
    billingGates isReattendance reattendanceTrigger timeOfDay).results ≠ [] := by
  have hpass : ∀ d ruleName message, (Draft.pass ruleName message d).results ≠ [] := by
    simp [Draft.pass]
  have hfail : ∀ d ruleName message severity,
      (Draft.fail ruleName message d severity).results ≠ [] := by simp [Draft.fail]
  unfold draft approvalRule
  split
  · split
    · split
      · exact hpass _ _ _
      · exact hfail _ _ _ _
    · exact hpass _ _ _
  · exact hpass _ _ _

/-! ### What holds of the job if it is billable -/

theorem findMatchingRate_spec {rateCard : List SPENRateCard} {rc : SPENRateCard}
    (h : findMatchingRate ip activity workCategory rateCard = some rc) :
    rc ∈ rateCard ∧ ofCategory ip workCategory rc = true ∧
      ((∃ entry ∈ rateCard, exactMatch ip activity workCategory entry = true) →
        exactMatch ip activity workCategory rc = true) := by
  unfold findMatchingRate at h
  cases hexact : rateCard.find? (exactMatch ip activity workCategory) with
  | some entry =>
    obtain rfl : entry = rc := by simpa [hexact] using h
    have hmatch := List.find?_some hexact
    have hcategory : ofCategory ip workCategory entry = true := (of_decide_eq_true hmatch).1
    exact ⟨List.mem_of_find?_eq_some hexact, hcategory, fun _ => hmatch⟩
  | none =>
    have hno : ¬ ∃ entry ∈ rateCard, exactMatch ip activity workCategory entry = true := by
      simpa using List.find?_eq_none.mp hexact
    cases hfuzzy : rateCard.find? (fuzzyMatch ip activity workCategory) with
    | some entry =>
      obtain rfl : entry = rc := by simpa [hexact, hfuzzy] using h
      have hmatch := List.find?_some hfuzzy
      have hcategory : ofCategory ip workCategory entry = true := (of_decide_eq_true hmatch).1
      exact ⟨List.mem_of_find?_eq_some hfuzzy, hcategory, fun hex => absurd hex hno⟩
    | none =>
      have hcategory : rateCard.find? (ofCategory ip workCategory) = some rc := by
        simpa [hexact, hfuzzy] using h
      exact ⟨List.mem_of_find?_eq_some hcategory, List.find?_some hcategory,
        fun hex => absurd hex hno⟩

theorem billable_rateRule (h : (rateRule activity workCategory matchingRate d).billable = true) :
    ∃ rc, matchingRate = some rc ∧
      (rateRule activity workCategory matchingRate d).appliedRate = some rc.baseRate := by
  cases matchingRate with
  | none => cases h
  | some rc => exact ⟨rc, rfl, rfl⟩

@[simp] theorem appliedRate_gatesRule :
    (gatesRule billingGates d).appliedRate = d.appliedRate := by
  unfold gatesRule
  dsimp only
  split <;> rfl

theorem billable_gatesRule (h : (gatesRule billingGates d).billable = true) :
    d.billable = true ∧ ∀ g ∈ billingGates, g.satisfied = true := by
  unfold gatesRule at h
  dsimp only at h
  split at h
  next hempty =>
    refine ⟨h, ?_⟩
    simpa [List.isEmpty_iff, List.filter_eq_nil_iff] using hempty
  next => cases h

/-- The modifier of a billable re-attendance, and of no re-attendance none. -/
def IsModifier (ip : Margin.Interpreter) (reattendanceRules : List ReattendanceRule)
    (isReattendance : Bool) (reattendanceTrigger : String) (modifier : ℚ) : Prop :=
  if isReattendance then
    ∃ rule, findReattendanceRule ip reattendanceRules reattendanceTrigger = some rule ∧
      rule.billable = true ∧ modifier = rule.rateModifier
  else modifier = 1

theorem billable_reattendanceRule (h : (reattendanceRule ip reattendanceRules isReattendance
      reattendanceTrigger d).billable = true) :
    d.billable = true ∧ ∃ modifier,
      IsModifier ip reattendanceRules isReattendance reattendanceTrigger modifier ∧
        (reattendanceRule ip reattendanceRules isReattendance reattendanceTrigger d).appliedRate =
          d.appliedRate.map (· * modifier) := by
  unfold reattendanceRule at h ⊢
  unfold IsModifier
  cases isReattendance with
  | false => exact ⟨h, 1, rfl, by simp [Draft.pass]⟩
  | true =>
    cases hrule : findReattendanceRule ip reattendanceRules reattendanceTrigger with
    | none => simp [hrule, Draft.fail] at h
    | some rule =>
      cases hbillable : rule.billable with
      | false => simp [hrule, hbillable, Draft.fail] at h
      | true =>
        simp only [hrule, hbillable, if_true] at h ⊢
        exact ⟨h, rule.rateModifier, ⟨rule, rfl, hbillable, rfl⟩, rfl⟩

@[simp] theorem billable_timeRule :
    (timeRule ip matchingRate timeOfDay d).billable = d.billable := by
  unfold timeRule
  split
  · split <;> rfl
  · rfl

/-- A rate of zero stays, as it would under any multiplier. -/
theorem appliedRate_timeRule {rc : SPENRateCard} {rate : ℚ} (hmatch : matchingRate = some rc)
    (hrate : d.appliedRate = some rate) (hnonneg : 0 ≤ rate) :
    (timeRule ip matchingRate timeOfDay d).appliedRate =
      some (rate * timeMultiplier ip timeOfDay rc) := by
  subst hmatch
  unfold timeRule
  rw [hrate]
  rcases hnonneg.eq_or_lt with hzero | hpos
  · simp [← hzero, Draft.pass, hrate]
  · simp [hpos, Draft.pass]

@[simp] theorem appliedRate_approvalRule :
    (approvalRule matchingRate billingGates d).appliedRate = d.appliedRate := by
  unfold approvalRule
  split
  · split
    · split <;> rfl
    · rfl
  · rfl

theorem billable_approvalRule (h : (approvalRule matchingRate billingGates d).billable = true) :
    d.billable = true ∧ ∀ rc rate threshold, matchingRate = some rc → d.appliedRate = some rate →
      rc.requiresApprovalAbove = some threshold → rate ≤ threshold ∨
        hasApproval billingGates = true := by
  unfold approvalRule at h
  cases hthreshold : matchingRate.bind SPENRateCard.requiresApprovalAbove with
  | none =>
    rw [hthreshold] at h
    refine ⟨h, fun rc rate threshold hmatch hrate habove => ?_⟩
    simp [hmatch, habove] at hthreshold
  | some threshold =>
    cases hrate : d.appliedRate with
    | none =>
      rw [hthreshold, hrate] at h
      exact ⟨h, by simp⟩
    | some rate =>
      simp only [hthreshold, hrate] at h
      split at h
      next habove =>
        split at h
        next happroval => exact ⟨h, fun _ _ _ _ _ _ => Or.inr happroval⟩
        next => cases h
      next hbelow =>
        refine ⟨h, fun rc rate' threshold' hmatch hrate' hthreshold' => Or.inl ?_⟩
        obtain rfl : rate = rate' := Option.some.inj hrate'
        obtain rfl : threshold' = threshold := by simpa [hmatch, hthreshold'] using hthreshold
        exact not_lt.mp hbelow

/-- What a decision to bill the job rests on. -/
structure Billed (ip : Margin.Interpreter) (reattendanceRules : List ReattendanceRule)
    (activity workCategory : String) (rateCard : List SPENRateCard)
    (billingGates : List BillingGate) (isReattendance : Bool)
    (reattendanceTrigger timeOfDay : String) (rateApplied : Option ℚ) (rc : SPENRateCard)
    (modifier : ℚ) : Prop where
  mem : rc ∈ rateCard
  category : ofCategory ip workCategory rc = true
  exact : (∃ entry ∈ rateCard, exactMatch ip activity workCategory entry = true) →
    exactMatch ip activity workCategory rc = true
  gates : ∀ g ∈ billingGates, g.satisfied = true
  reattendance : IsModifier ip reattendanceRules isReattendance reattendanceTrigger modifier
  rate : rateApplied = some (rc.baseRate * modifier * timeMultiplier ip timeOfDay rc)
  approval : ∀ threshold, rc.requiresApprovalAbove = some threshold →
    rc.baseRate * modifier * timeMultiplier ip timeOfDay rc ≤ threshold ∨
      ∃ g ∈ billingGates, g.gateType = .priorApproval ∧ g.satisfied = true

theorem IsModifier.nonneg {modifier : ℚ}
    (h : IsModifier ip reattendanceRules isReattendance reattendanceTrigger modifier)
    (hmodifiers : ∀ rule ∈ reattendanceRules, 0 ≤ rule.rateModifier) : 0 ≤ modifier := by
  have hdefault : ∀ rule ∈ defaultReattendanceRules, 0 ≤ rule.rateModifier := by
    simp [defaultReattendanceRules]
  unfold IsModifier at h
  split at h
  · obtain ⟨rule, hfind, -, rfl⟩ := h
    have hmem := List.mem_of_find?_eq_some hfind
    unfold rulesOr at hmem
    split at hmem
    · exact hdefault rule hmem
    · exact hmodifiers rule hmem
  · rw [h]
    exact zero_le_one

theorem billed_of_billable {rateCard : List SPENRateCard}
    (hrates : ∀ rc ∈ rateCard, 0 ≤ rc.baseRate)
    (hmodifiers : ∀ rule ∈ reattendanceRules, 0 ≤ rule.rateModifier)
    (h : (evaluate ip reattendanceRules activity workCategory rateCard billingGates isReattendance
      reattendanceTrigger timeOfDay).billable = true) :
    ∃ rc modifier, Billed ip reattendanceRules activity workCategory rateCard billingGates
      isReattendance reattendanceTrigger timeOfDay
      (evaluate ip reattendanceRules activity workCategory rateCard billingGates isReattendance
        reattendanceTrigger timeOfDay).rateApplied rc modifier := by
  -- back through the rules, each of which leaves the flag set only if it was set before
  obtain ⟨htime, hwithin⟩ := billable_approvalRule h
  rw [billable_timeRule] at htime
  obtain ⟨hgates, modifier, hmodifier, hmodified⟩ := billable_reattendanceRule htime
  obtain ⟨hrate, hsatisfied⟩ := billable_gatesRule hgates
  obtain ⟨rc, hmatch, hbase⟩ := billable_rateRule hrate
  obtain ⟨hmem, hcategory, hexact⟩ := findMatchingRate_spec hmatch
  -- and forward with the rate
  rw [appliedRate_gatesRule, hbase, Option.map_some] at hmodified
  have hnonneg : 0 ≤ rc.baseRate * modifier :=
    mul_nonneg (hrates rc hmem) (hmodifier.nonneg hmodifiers)
  have htimed : (timeRule ip (findMatchingRate ip activity workCategory rateCard) timeOfDay
      _).appliedRate = some (rc.baseRate * modifier * timeMultiplier ip timeOfDay rc) :=
    appliedRate_timeRule hmatch hmodified hnonneg
  exact ⟨rc, modifier, {
    mem := hmem
    category := hcategory
    exact := hexact
    gates := hsatisfied
    reattendance := hmodifier
    rate := appliedRate_approvalRule.trans htimed
    approval := fun threshold hthreshold => by
      simpa [hasApproval] using hwithin rc _ threshold hmatch htimed hthreshold }⟩

end Flag

/-- The decision is exact: the flag, the results and the confidence agree, and the job is billed
only with a rate, the gates and a re-attendance that allow it, and for what these come to. -/
theorem evaluate_exact (ip : Margin.Interpreter) {reattendanceRules : List ReattendanceRule}
    (hmodifiers : ∀ rule ∈ reattendanceRules, 0 ≤ rule.rateModifier)
    (activity workCategory : String) {rateCard : List SPENRateCard}
    (hrates : ∀ rc ∈ rateCard, 0 ≤ rc.baseRate) (billingGates : List BillingGate)
    (isReattendance : Bool) (reattendanceTrigger timeOfDay : String) :
    let decision := evaluate ip reattendanceRules activity workCategory rateCard billingGates
      isReattendance reattendanceTrigger timeOfDay
    (decision.billable = true ↔ ∀ r ∈ decision.ruleResults, r.passed = true) ∧
      (decision.billable = true ↔ decision.confidence = 1) ∧
      (decision.billable = true → ∃ rc modifier,
        Billed ip reattendanceRules activity workCategory rateCard billingGates isReattendance
          reattendanceTrigger timeOfDay decision.rateApplied rc modifier) := by
  intro decision
  have hpassed : decision.billable = true ↔ allPassed (draft ip reattendanceRules activity
      workCategory (findMatchingRate ip activity workCategory rateCard) billingGates isReattendance
      reattendanceTrigger timeOfDay).results = true :=
    iff_of_eq (congrArg (· = true) sound_draft)
  refine ⟨?_, ?_, billed_of_billable hrates hmodifiers⟩
  · rw [hpassed, allPassed_iff]
    simp [decision, evaluate]
  · rw [hpassed, ← confidence_eq_one_iff results_draft_ne_nil]
    rfl

/-- A second visit because of the weather, at a weekend and with an approval. -/
theorem evaluate_exact_weather : ∃ rc modifier,
    Billed Interpreter.ascii.toInterpreter [] "MET-1" "metering"
      [⟨.metering, "met-1", "each", 100, 2, 2, 2, some 150⟩] [⟨.priorApproval, true⟩] true "weather"
      "weekend" (some 200) rc modifier := by
  have hrate : (evaluate Interpreter.ascii.toInterpreter [] "MET-1" "metering"
      [⟨.metering, "met-1", "each", 100, 2, 2, 2, some 150⟩] [⟨.priorApproval, true⟩] true "weather"
      "weekend").rateApplied = some 200 := by decide +kernel
  rw [← hrate]
  exact (evaluate_exact Interpreter.ascii.toInterpreter (by simp) "MET-1" "metering" (by simp)
    [⟨.priorApproval, true⟩] true "weather" "weekend").2.2 (by decide +kernel)

end SPENBillabilityEngine
end ControlFabric.Contract
