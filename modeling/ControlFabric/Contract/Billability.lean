import ControlFabric.Lib.Reorder
import ControlFabric.Margin.Values
import ControlFabric.Packs.RuleResult
import ControlFabric.Py.Lower

/-! Whether an activity can be billed under a contract, by the entry of the rate card that is found
for it: the first of the same name, or with a name that is part of it or that it is part of. -/
namespace ControlFabric.Contract
open Lib Ingress Packs

/-- What the interpreter computes, and `date.fromisoformat`, in days. -/
structure Interpreter extends Margin.Interpreter where
  fromisoformat : String → Except PyError ℤ

def Interpreter.ascii : Interpreter where
  toInterpreter := {
    Margin.Interpreter.ascii with
    lower := fun text => String.ofList (text.toList.map Char.toLower) }
  fromisoformat text := .error (.valueError s!"Invalid isoformat string: '{text}'")

/-- `v.lower()`, of what has to be a text. -/
def Interpreter.lowered (ip : Interpreter) : Json → Except PyError String
  | .str s => .ok (ip.lower s)
  | v => .error (.attributeError s!"'{v.typeName}' object has no attribute 'lower'")

/-- `text.replace(" ", "_")`. -/
def underscored (text : String) : String :=
  String.ofList (text.toList.map fun c => if c = ' ' then '_' else c)

/-- One of the dicts in `rule_results`. -/
structure RuleEntry where
  rule : String
  passed : Bool
  message : String

structure BillabilityDecision where
  billable : Bool
  confidence : ℚ
  evidenceIds : List String := []
  reasons : List String := []
  rateApplied : Option ℚ := none
  category : Option String := none
  ruleResults : List RuleEntry := []

namespace BillabilityRuleEngine

structure RateCardEntry where
  activity : String
  unit : String
  rate : ℚ
  effectiveTo : Option ℤ := none
  minimumCharge : Option ℚ := none
  deriving DecidableEq

/-- The date of a claim, a `date` or any other value. -/
inductive ClaimDate where
  | date (day : ℤ)
  | other (v : Json)

/-- One of `prior_claims`, a dict. -/
structure PriorClaim where
  activity : Json := .str ""
  date : Option ClaimDate := none

section Rate
variable (ip : Interpreter) (activity : String)

/-- `activity_lower`. -/
def activityLower : String := underscored (ip.lower activity)

def exactMatch (entry : RateCardEntry) : Bool := ip.lower entry.activity = activityLower ip activity

/-- One of the names is part of the other. -/
def fuzzyMatch (entry : RateCardEntry) : Bool :=
  Py.occursIn (activityLower ip activity) (ip.lower entry.activity) ∨
    Py.occursIn (ip.lower entry.activity) (activityLower ip activity)

def findMatchingRate (rateCard : List RateCardEntry) : Option RateCardEntry :=
  rateCard.find? fun entry => exactMatch ip activity entry || fuzzyMatch ip activity entry

end Rate

section Rules
variable (ip : Interpreter) (activity : String) (matchingRate : Option RateCardEntry)
  (obligations : List JsonDict) (approvalThreshold : ℚ) (hasApproval : Bool)
  (priorClaims : List PriorClaim) (workDate : Option ℤ)

def validRateRule : RuleResult :=
  .check "has_valid_rate" matchingRate.isSome
    (matchingRate.elim "" fun entry => s!"Rate found: {ip.strFloat entry.rate}/{entry.unit}")
    "No matching rate"

/-- The obligation mentions the activity, or some word of it. -/
def mentions (ob : JsonDict) : Except PyError Bool := do
  let text := (← ip.lowered (dictGet ob "text" (.str ""))) ++
    (← ip.lowered (dictGet ob "description" (.str "")))
  let activityLower := ip.lower activity
  return Py.occursIn activityLower text ||
    (activityLower.toList.splitOn '_').any fun kw => Py.occursIn (String.ofList kw) text

def isWithinScope : Except PyError Bool := do
  return (← obligations.anyM (mentions ip activity)) || obligations.isEmpty

def scopeRule (inScope : Bool) : RuleResult :=
  .check "within_scope" inScope "Activity is within contract scope" "Activity may be out of scope"
    "warning"

def isExcluded : Bool :=
  activityLower ip activity ∈
    ["internal_meeting", "travel_time_non_billable", "training_non_certified"]

def excludedRule : RuleResult :=
  .check "not_excluded_activity" (¬ isExcluded ip activity) "Activity not excluded"
    "Activity is on exclusion list"

def approvalRule : RuleResult :=
  if matchingRate.any fun entry => entry.rate > approvalThreshold then
    .check "approval_threshold_check" hasApproval "Approval obtained for rate exceeding threshold"
      "Exceeds approval threshold without authorization"
  else .check "approval_threshold_check" true "Rate within approval threshold" ""

def ClaimDate.day : ClaimDate → Except PyError ℤ
  | .date day => .ok day
  | .other v => ip.fromisoformat (Margin.format ip.toInterpreter v)

/-- The claim is for the same activity on the same day. -/
def isDuplicate (claim : PriorClaim) : Except PyError Bool := do
  let claimActivity := underscored (← ip.lowered claim.activity)
  match claim.date, workDate with
  | some claimDate, some workDate =>
    if claimActivity = activityLower ip activity then return (← claimDate.day ip) = workDate
    else return false
  | _, _ => return false

def duplicateRule (duplicateFound : Bool) : RuleResult :=
  .check "duplicate_claim_check" (¬ duplicateFound) "No duplicate claims" "Duplicate claim detected"

def rateExpired : Bool :=
  match matchingRate.bind RateCardEntry.effectiveTo, workDate with
  | some effectiveTo, some workDate => effectiveTo < workDate
  | _, _ => false

def expiredRule : RuleResult :=
  .check "expired_rate_check" (¬ rateExpired matchingRate workDate) "Rate card valid"
    "Rate card expired"

/-- The rate, or the minimum charge above it. -/
def rateApplied (entry : RateCardEntry) : ℚ :=
  match entry.minimumCharge with
  | some minimumCharge => if entry.rate < minimumCharge then minimumCharge else entry.rate
  | none => entry.rate

def ruleResults : Except PyError (List RuleResult) := do
  let inScope ← isWithinScope ip activity obligations
  let duplicateFound ← priorClaims.anyM (isDuplicate ip activity workDate)
  return [validRateRule ip matchingRate, scopeRule inScope, excludedRule ip activity,
    approvalRule matchingRate approvalThreshold hasApproval, duplicateRule duplicateFound,
    expiredRule matchingRate workDate]

/-- The decision, by the rate that was found. -/
def decision (evidenceIds : List String) : Except PyError BillabilityDecision := do
  let results ← ruleResults ip activity matchingRate obligations approvalThreshold hasApproval
    priorClaims workDate
  return {
    billable := allPassed results
    confidence := confidence results
    evidenceIds := evidenceIds
    reasons := reasons results
    rateApplied := matchingRate.map rateApplied }

end Rules

section Evaluate
variable (ip : Interpreter) (activity : String) (rateCard : List RateCardEntry)
  (obligations : List JsonDict) (evidenceIds : List String) (approvalThreshold : ℚ)
  (hasApproval : Bool) (priorClaims : List PriorClaim) (workDate : Option ℤ)

/-- No evidence and no claims are empty lists. -/
def evaluate : Except PyError BillabilityDecision :=
  decision ip activity (findMatchingRate ip activity rateCard) obligations approvalThreshold
    hasApproval priorClaims workDate evidenceIds

end Evaluate

/-! ### The exact rate -/

section Exact
variable {ip : Interpreter} {activity : String} {rateCard : List RateCardEntry}
  {entry : RateCardEntry}

/-- The only exact match of the card is used, in every order of the card. -/
structure ExactRateWins (ip : Interpreter) (activity : String) (rateCard : List RateCardEntry)
    (entry : RateCardEntry) : Prop where
  found : ∀ rateCard', rateCard.Perm rateCard' → findMatchingRate ip activity rateCard' = some entry
  decided : ∀ rateCard', rateCard.Perm rateCard' →
    ∀ obligations evidenceIds approvalThreshold hasApproval priorClaims workDate,
      evaluate ip activity rateCard' obligations evidenceIds approvalThreshold hasApproval
          priorClaims workDate =
        decision ip activity (some entry) obligations approvalThreshold hasApproval priorClaims
          workDate evidenceIds

theorem exactRateWins_iff_found : ExactRateWins ip activity rateCard entry ↔
    ∀ rateCard', rateCard.Perm rateCard' → findMatchingRate ip activity rateCard' = some entry := by
  constructor
  · exact ExactRateWins.found
  · intro h
    refine ⟨h, fun rateCard' hperm obligations evidenceIds approvalThreshold hasApproval priorClaims
      workDate => ?_⟩
    rw [evaluate, h rateCard' hperm]

/-- Of one exact match in the card, the test for a match is met by no other entry exactly if none is
part of the activity or the activity part of it. -/
theorem exactRateWins_iff (hexact : rateCard.filter (exactMatch ip activity) = [entry]) :
    ExactRateWins ip activity rateCard entry ↔
      ∀ other ∈ rateCard, fuzzyMatch ip activity other = true →
        exactMatch ip activity other = true := by
  have hentry : entry ∈ rateCard ∧ exactMatch ip activity entry = true :=
    List.mem_filter.mp (hexact ▸ List.mem_singleton_self entry)
  have honly : ∀ other ∈ rateCard, exactMatch ip activity other = true → other = entry :=
    fun other hother hmatch =>
      List.mem_singleton.mp (hexact ▸ List.mem_filter.mpr ⟨hother, hmatch⟩)
  rw [exactRateWins_iff_found]
  unfold findMatchingRate
  rw [find?_perm_iff]
  constructor
  · intro h other hother hfuzzy
    have heq := h.2.2 other hother (by simp [hfuzzy])
    exact heq ▸ hentry.2
  · intro h
    refine ⟨hentry.1, by simp [hentry.2], fun other hother hmatch => honly other hother ?_⟩
    rcases Bool.or_eq_true_iff.mp hmatch with hexact | hfuzzy
    · exact hexact
    · exact h other hother hfuzzy

end Exact

def upsInstallation : RateCardEntry where
  activity := "ups_installation"
  unit := "each"
  rate := 900

def installation : RateCardEntry where
  activity := "installation"
  unit := "each"
  rate := 120

/-- An entry with a longer name that stands before the exact match. -/
theorem not_exactRateWins_installation :
    [upsInstallation, installation].filter (exactMatch .ascii "Installation") = [installation] ∧
      ¬ ExactRateWins .ascii "Installation" [upsInstallation, installation] installation := by
  have hfound : (findMatchingRate .ascii "Installation" [upsInstallation, installation]).map
      RateCardEntry.rate = some 900 := by decide +kernel
  refine ⟨by decide +kernel, fun h => ?_⟩
  rw [h.found _ (List.Perm.refl _)] at hfound
  exact absurd hfound (by decide)

/-- In a card without such an entry. -/
theorem exactRateWins_upsInstallation :
    ExactRateWins .ascii "Ups Installation" [⟨"survey", "each", 80, none, none⟩, upsInstallation]
      upsInstallation :=
  (exactRateWins_iff (by decide +kernel)).mpr (by decide +kernel)

end BillabilityRuleEngine

end ControlFabric.Contract
