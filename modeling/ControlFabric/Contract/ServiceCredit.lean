import ControlFabric.Lib.Assign
import ControlFabric.Margin.Values
import Mathlib.Algebra.BigOperators.Ring.Finset
import Mathlib.Algebra.Order.BigOperators.Group.Finset

/-! Service credits for breaches of service levels. One engine adds up the breaches by their
severity and caps the total once; the other caps the credit of each rule by a share of the
invoice. -/
namespace ControlFabric.Contract
open Lib Py

namespace VodafoneSLAEngine

/-- One of `sla_breaches`, a dict. -/
structure SlaBreach where
  severity : Option String := none
  breachType : Option String := none
  breachMinutes : Option ℚ := none

/-- One of `credit_rules`, a dict. -/
structure CreditRule where
  severity : Option String := none
  perBreachPct : Option ℚ := none
  maxPct : Option ℚ := none

def SlaBreach.sev (breach : SlaBreach) : String := breach.severity.getD "p3"

def CreditRule.sev (rule : CreditRule) : String := rule.severity.getD ""

def CreditRule.credit (rule : CreditRule) : ℚ := rule.perBreachPct.getD 1

def CreditRule.cap (rule : CreditRule) : ℚ := rule.maxPct.getD 100

/-- The rule that stands for a missing one. -/
def defaultRule : CreditRule where
  perBreachPct := some 1
  maxPct := some 10

/-- One entry of the breakdown. -/
structure Credited where
  severity : String
  breachType : String
  breachMinutes : ℚ
  creditPct : ℚ

structure ServiceCredit where
  totalCreditPct : ℚ
  breachCount : ℕ
  breakdown : List Credited

section Credit
variable (slaBreaches : List SlaBreach) (creditRules : List CreditRule)

def ruleMap : Dict String CreditRule :=
  creditRules.foldl (fun d rule => d.set rule.sev rule) Dict.empty

def credited (breach : SlaBreach) : Credited where
  severity := breach.sev
  breachType := breach.breachType.getD "resolution"
  breachMinutes := breach.breachMinutes.getD 0
  creditPct := ((ruleMap creditRules).getD breach.sev defaultRule).credit

/-- The largest `max_pct` of all the rules. -/
def maxCap : ℚ := ((creditRules.map CreditRule.cap).max?).getD 100

def calculateServiceCredit : ServiceCredit :=
  let breakdown := slaBreaches.map (credited creditRules)
  let totalCreditPct := min (breakdown.map Credited.creditPct).sum (maxCap creditRules)
  { totalCreditPct := roundDigits totalCreditPct 2
    breachCount := slaBreaches.length
    breakdown := breakdown }

/-! ### The caps of the severities -/

def severities : List String := slaBreaches.map SlaBreach.sev

/-- The rule of the severity. -/
def ruleOf (severity : String) : CreditRule :=
  (creditRules.find? fun rule => rule.sev = severity).getD defaultRule

/-- What the breaches of the severity come to, uncapped. -/
def accrued (severity : String) : ℚ :=
  (severities slaBreaches).count severity * (ruleOf creditRules severity).credit

/-- What the severities come to, each up to its cap. -/
def cappedTotal : ℚ :=
  ∑ severity ∈ (severities slaBreaches).toFinset,
    min (accrued slaBreaches creditRules severity) (ruleOf creditRules severity).cap

/-- What the severities come to beyond their caps. -/
def excessTotal : ℚ :=
  ∑ severity ∈ (severities slaBreaches).toFinset,
    max (accrued slaBreaches creditRules severity - (ruleOf creditRules severity).cap) 0

/-- The amount does not come past the half above that many hundredths, nor to it if they are odd. -/
def BelowNextHundredth (hundredths : ℤ) (amount : ℚ) : Prop :=
  amount * 100 < hundredths + 1 / 2 ∨ amount * 100 = hundredths + 1 / 2 ∧ hundredths % 2 = 0

/-- No severity comes to more than its cap, or no cap exceeds what they come to within their caps, or
what is beyond does not fill up the next hundredth. -/
def WithinSeverityCaps : Prop :=
  (∀ severity ∈ severities slaBreaches,
      accrued slaBreaches creditRules severity ≤ (ruleOf creditRules severity).cap) ∨
    maxCap creditRules ≤ cappedTotal slaBreaches creditRules ∨
    let beyond := min (excessTotal slaBreaches creditRules)
      (maxCap creditRules - cappedTotal slaBreaches creditRules)
    BelowNextHundredth (roundHalfEven (cappedTotal slaBreaches creditRules * 100))
      (cappedTotal slaBreaches creditRules + beyond)

end Credit

section Totals
variable {slaBreaches : List SlaBreach} {creditRules : List CreditRule}

theorem ruleMap_getD (hrules : (creditRules.map CreditRule.sev).Nodup) (severity : String) :
    (ruleMap creditRules).getD severity defaultRule = ruleOf creditRules severity := by
  rw [Dict.getD, ruleMap, get?_foldl_set_of_nodup CreditRule.sev (fun rule => rule) hrules,
    Option.map_id', ruleOf]

theorem sum_creditPct (hrules : (creditRules.map CreditRule.sev).Nodup) :
    ((slaBreaches.map (credited creditRules)).map Credited.creditPct).sum =
      ∑ severity ∈ (severities slaBreaches).toFinset,
        accrued slaBreaches creditRules severity := by
  have hcredit : (slaBreaches.map (credited creditRules)).map Credited.creditPct =
      (severities slaBreaches).map fun severity => (ruleOf creditRules severity).credit := by
    simp only [severities, List.map_map]
    exact List.map_congr_left fun breach _ => congrArg CreditRule.credit (ruleMap_getD hrules breach.sev)
  rw [hcredit, Finset.sum_list_map_count]
  simp only [nsmul_eq_mul, accrued]

theorem sum_accrued : ∑ severity ∈ (severities slaBreaches).toFinset,
      accrued slaBreaches creditRules severity =
    cappedTotal slaBreaches creditRules + excessTotal slaBreaches creditRules := by
  have hsplit : ∀ a c : ℚ, a = min a c + max (a - c) 0 := fun a c => by
    rcases le_total a c with h | h <;> simp [h]
  unfold cappedTotal excessTotal
  rw [← Finset.sum_add_distrib]
  exact Finset.sum_congr rfl fun severity _ => hsplit _ _

theorem excessTotal_nonpos_iff : excessTotal slaBreaches creditRules ≤ 0 ↔
    ∀ severity ∈ severities slaBreaches,
      accrued slaBreaches creditRules severity ≤ (ruleOf creditRules severity).cap := by
  have hnonneg : 0 ≤ excessTotal slaBreaches creditRules :=
    Finset.sum_nonneg fun severity _ => le_max_right _ _
  rw [hnonneg.ge_iff_eq', excessTotal, Finset.sum_eq_zero_iff_of_nonneg
    fun severity _ => le_max_right _ _]
  simp only [List.mem_toFinset, max_eq_right_iff, sub_nonpos]

theorem totalCreditPct_eq (hrules : (creditRules.map CreditRule.sev).Nodup) :
    (calculateServiceCredit slaBreaches creditRules).totalCreditPct =
      roundDigits (cappedTotal slaBreaches creditRules + min (excessTotal slaBreaches creditRules)
        (maxCap creditRules - cappedTotal slaBreaches creditRules)) 2 := by
  rw [← min_add_add_left, add_sub_cancel, ← sum_accrued, ← sum_creditPct hrules]
  rfl

theorem roundDigits_le_iff {amount total : ℚ} : roundDigits amount 2 ≤ roundDigits total 2 ↔
    BelowNextHundredth (roundHalfEven (total * 100)) amount := by
  have hhundred : (10 : ℚ) ^ 2 = 100 := by norm_num
  unfold roundDigits
  rw [hhundred, div_le_div_iff_of_pos_right (by norm_num), Int.cast_le]
  generalize roundHalfEven (total * 100) = hundredths
  have hparity : (hundredths + 1) % 2 = 0 ↔ ¬ hundredths % 2 = 0 := by omega
  have hhalf : ((hundredths + 1 : ℤ) : ℚ) - 1 / 2 = hundredths + 1 / 2 := by
    push_cast
    ring
  rw [← Int.lt_add_one_iff, ← not_le, le_roundHalfEven_iff, hhalf, hparity, BelowNextHundredth]
  constructor
  · intro h
    obtain ⟨hle, heven⟩ := not_or.mp h
    rcases (not_lt.mp hle).lt_or_eq with hlt | heq
    · exact Or.inl hlt
    · exact Or.inr ⟨heq, not_not.mp fun hodd => heven ⟨heq.symm, hodd⟩⟩
  · rintro (hlt | ⟨heq, heven⟩) (hgt | ⟨heq', hodd⟩)
    · exact absurd hlt hgt.not_gt
    · exact absurd hlt heq'.le.not_gt
    · exact absurd hgt heq.le.not_gt
    · exact hodd heven

theorem totalCreditPct_le_iff (hrules : (creditRules.map CreditRule.sev).Nodup) :
    (calculateServiceCredit slaBreaches creditRules).totalCreditPct ≤
        roundDigits (cappedTotal slaBreaches creditRules) 2 ↔
      WithinSeverityCaps slaBreaches creditRules := by
  rw [totalCreditPct_eq hrules, WithinSeverityCaps, ← excessTotal_nonpos_iff, ← or_assoc]
  have hroom : maxCap creditRules ≤ cappedTotal slaBreaches creditRules ↔
      maxCap creditRules - cappedTotal slaBreaches creditRules ≤ 0 := sub_nonpos.symm
  rw [hroom, ← min_le_iff]
  set beyond := min (excessTotal slaBreaches creditRules)
    (maxCap creditRules - cappedTotal slaBreaches creditRules)
  constructor
  · exact fun h => Or.inr (roundDigits_le_iff.mp h)
  · rintro (hbeyond | hbelow)
    · exact roundDigits_mono (add_le_of_nonpos_right hbeyond)
    · exact roundDigits_le_iff.mpr hbelow

end Totals
end VodafoneSLAEngine

namespace ServiceCreditEngine

structure ServiceCreditRule where
  slaMetric : String
  thresholdValue : ℚ
  creditPercentage : ℚ
  capPercentage : ℚ := 10
  measurementPeriod : String := "monthly"
  exclusions : List String := []

/-- One of the returned dicts. Without performance data it does not have the optional fields. -/
structure Credit where
  slaMetric : String
  threshold : ℚ
  actual : Option ℚ
  breached : Bool
  creditPercentage : ℚ
  creditValue : ℚ
  capped : Bool
  capPercentage : Option ℚ := none
  measurementPeriod : Option String := none
  exclusions : Option (List String) := none
  note : String

section Evaluate
variable (ip : Margin.Interpreter) (slaPerformance : Dict String ℚ) (monthlyInvoiceValue : ℚ)
  (rule : ServiceCreditRule)

def noData : Credit where
  slaMetric := rule.slaMetric
  threshold := rule.thresholdValue
  actual := none
  breached := false
  creditPercentage := 0
  creditValue := 0
  capped := false
  note := "No performance data available for this metric"

/-- Times breach a rule from above, shares from below. -/
def isBreached (actualValue : ℚ) : Bool :=
  if rule.slaMetric ∈ ["response_time", "resolution_time"] then actualValue > rule.thresholdValue
  else actualValue < rule.thresholdValue

def capValue : ℚ := monthlyInvoiceValue * (rule.capPercentage / 100)

def evaluateRule : Credit :=
  match slaPerformance.get? rule.slaMetric with
  | none => noData rule
  | some actualValue =>
    let breached := isBreached rule actualValue
    let creditPct := if breached then rule.creditPercentage else 0
    let creditValue := if breached then monthlyInvoiceValue * (creditPct / 100) else 0
    let capValue := capValue monthlyInvoiceValue rule
    let capped := creditValue > capValue ∧ capValue > 0
    { slaMetric := rule.slaMetric
      threshold := rule.thresholdValue
      actual := some actualValue
      breached := breached
      creditPercentage := creditPct
      creditValue := roundDigits (if capped then capValue else creditValue) 2
      capped := capped
      capPercentage := some rule.capPercentage
      measurementPeriod := some rule.measurementPeriod
      exclusions := some rule.exclusions
      note :=
        if breached then
          s!"SLA breached: actual {ip.strFloat actualValue} " ++
            s!"vs threshold {ip.strFloat rule.thresholdValue}"
        else "SLA met" }

def evaluate (creditRules : List ServiceCreditRule) : List Credit :=
  creditRules.map (evaluateRule ip slaPerformance monthlyInvoiceValue)

end Evaluate

/-- If the rule is breached and its cap is zero, the credit for it rounds to zero as well. -/
def ZeroCapKept (slaPerformance : Dict String ℚ) (monthlyInvoiceValue : ℚ)
    (rule : ServiceCreditRule) : Prop :=
  (∃ actualValue, slaPerformance.get? rule.slaMetric = some actualValue ∧
      isBreached rule actualValue = true) →
    rule.capPercentage = 0 → monthlyInvoiceValue * (rule.creditPercentage / 100) ≤ 1 / 200

section Caps
variable {ip : Margin.Interpreter} {slaPerformance : Dict String ℚ} {monthlyInvoiceValue : ℚ}
  {rule : ServiceCreditRule}

theorem cents_nonpos_iff {q : ℚ} : roundDigits q 2 ≤ 0 ↔ q ≤ 1 / 200 := by
  rw [roundDigits_nonpos_iff]
  constructor <;> intro h <;> linarith

theorem capValue_nonneg (hinvoice : 0 ≤ monthlyInvoiceValue) (hcap : 0 ≤ rule.capPercentage) :
    0 ≤ capValue monthlyInvoiceValue rule :=
  mul_nonneg hinvoice (div_nonneg hcap (by norm_num))

/-- A cap above zero is kept. -/
theorem capped_le (hinvoice : 0 ≤ monthlyInvoiceValue) (hcap : 0 < rule.capPercentage) :
    (if monthlyInvoiceValue * (rule.creditPercentage / 100) > capValue monthlyInvoiceValue rule ∧
        capValue monthlyInvoiceValue rule > 0
      then capValue monthlyInvoiceValue rule
      else monthlyInvoiceValue * (rule.creditPercentage / 100)) ≤
        capValue monthlyInvoiceValue rule := by
  rcases hinvoice.eq_or_lt with hzero | hpos
  · simp [← hzero, capValue]
  · have hcapValue : 0 < capValue monthlyInvoiceValue rule := by
      unfold capValue
      positivity
    split
    next => exact le_rfl
    next h => exact not_lt.mp fun hgt => h ⟨hgt, hcapValue⟩

theorem creditValue_le_iff (hinvoice : 0 ≤ monthlyInvoiceValue) (hcap : 0 ≤ rule.capPercentage) :
    (evaluateRule ip slaPerformance monthlyInvoiceValue rule).creditValue ≤
        roundDigits (capValue monthlyInvoiceValue rule) 2 ↔
      ZeroCapKept slaPerformance monthlyInvoiceValue rule := by
  have hcapValue : 0 ≤ capValue monthlyInvoiceValue rule := capValue_nonneg hinvoice hcap
  have hround : 0 ≤ roundDigits (capValue monthlyInvoiceValue rule) 2 :=
    roundDigits_zero.ge.trans (roundDigits_mono hcapValue)
  unfold evaluateRule ZeroCapKept
  cases hget : slaPerformance.get? rule.slaMetric with
  | none => simpa [noData] using hround
  | some actualValue =>
    cases hbreached : isBreached rule actualValue with
    | false =>
      simpa [hbreached, hcapValue.not_gt, roundDigits_zero] using hround
    | true =>
      simp only [hbreached, if_true, Option.some.injEq, exists_eq_left', forall_const]
      rcases hcap.eq_or_lt with hzero | hpos
      · have hnone : capValue monthlyInvoiceValue rule = 0 := by simp [capValue, ← hzero]
        simp only [hnone, lt_self_iff_false, gt_iff_lt, and_false, if_false, roundDigits_zero,
          cents_nonpos_iff, hzero.symm, forall_const]
      · exact iff_of_true (roundDigits_mono (capped_le hinvoice hpos))
          fun hzero => absurd hzero hpos.ne'

end Caps
end ServiceCreditEngine

/-! ### Both engines -/

open VodafoneSLAEngine ServiceCreditEngine

/-- Credits that respect the caps of the severities and of the rules. -/
structure CapsRespected (ip : Margin.Interpreter) (slaBreaches : List SlaBreach)
    (creditRules : List CreditRule) (slaPerformance : Dict String ℚ)
    (serviceCreditRules : List ServiceCreditRule) (monthlyInvoiceValue : ℚ) : Prop where
  total : (calculateServiceCredit slaBreaches creditRules).totalCreditPct ≤
    roundDigits (cappedTotal slaBreaches creditRules) 2
  credits : List.Forall₂
    (fun rule credit => credit.creditValue ≤ roundDigits (capValue monthlyInvoiceValue rule) 2)
    serviceCreditRules (evaluate ip slaPerformance monthlyInvoiceValue serviceCreditRules)

theorem capsRespected_iff (ip : Margin.Interpreter) (slaBreaches : List SlaBreach)
    {creditRules : List CreditRule} (hrules : (creditRules.map CreditRule.sev).Nodup)
    (slaPerformance : Dict String ℚ) {serviceCreditRules : List ServiceCreditRule}
    (hcaps : ∀ rule ∈ serviceCreditRules, 0 ≤ rule.capPercentage)
    {monthlyInvoiceValue : ℚ} (hinvoice : 0 ≤ monthlyInvoiceValue) :
    CapsRespected ip slaBreaches creditRules slaPerformance serviceCreditRules
        monthlyInvoiceValue ↔
      WithinSeverityCaps slaBreaches creditRules ∧
        ∀ rule ∈ serviceCreditRules, ZeroCapKept slaPerformance monthlyInvoiceValue rule := by
  have hcredits : List.Forall₂
      (fun rule credit => credit.creditValue ≤ roundDigits (capValue monthlyInvoiceValue rule) 2)
      serviceCreditRules (evaluate ip slaPerformance monthlyInvoiceValue serviceCreditRules) ↔
      ∀ rule ∈ serviceCreditRules, ZeroCapKept slaPerformance monthlyInvoiceValue rule := by
    rw [evaluate, List.forall₂_map_right_iff, List.forall₂_same]
    exact forall₂_congr fun rule hrule => creditValue_le_iff hinvoice (hcaps rule hrule)
  constructor
  · intro h
    exact ⟨(totalCreditPct_le_iff hrules).mp h.total, hcredits.mp h.credits⟩
  · intro h
    exact ⟨(totalCreditPct_le_iff hrules).mpr h.1, hcredits.mpr h.2⟩

/-- Four breaches at five percent, at most ten, and a rule of another severity with a higher cap. -/
theorem not_capsRespected_mixed :
    ¬ CapsRespected .ascii (List.replicate 4 { severity := some "p1" })
      [⟨some "p1", some 5, some 10⟩, ⟨some "p2", some 1, some 50⟩] Dict.empty
      [{ slaMetric := "first_time_fix", thresholdValue := 9 / 10, creditPercentage := 5 }] 1000 := by
  intro h
  exact absurd h.total (by decide +kernel)

/-- Without the rule of the other severity, and with a cap of zero that is not needed. -/
theorem capsRespected_single :
    CapsRespected .ascii (List.replicate 4 { severity := some "p1" })
      [⟨some "p1", some 5, some 10⟩] (Dict.empty.set "first_time_fix" 1)
      [{ slaMetric := "first_time_fix", thresholdValue := 9 / 10, creditPercentage := 5,
         capPercentage := 0 }] 1000 := by
  refine (capsRespected_iff .ascii _ (by decide) _ (by simp) (by norm_num)).mpr ⟨?_, ?_⟩
  · exact Or.inr (Or.inl (by decide +kernel))
  · simp only [List.forall_mem_singleton]
    intro hbreached
    exact absurd hbreached (by decide +kernel)

end ControlFabric.Contract
