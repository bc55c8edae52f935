import Mathlib.Data.List.Count
import Mathlib.Tactic

/-! The results of the rules that the engines of the domain packs check one after another, and what
is made of them: whether all passed, the share that did, and the messages of the others. -/
namespace ControlFabric.Packs

structure RuleResult where
  ruleName : String
  passed : Bool
  message : String
  severity : String := "info"

/-- The result of a rule with one message if it is met and another, of this severity, if not. -/
def RuleResult.check (ruleName : String) (passed : Bool) (met unmet : String)
    (severity : String := "error") : RuleResult where
  ruleName := ruleName
  passed := passed
  message := if passed then met else unmet
  severity := if passed then "info" else severity

def allPassed (results : List RuleResult) : Bool := results.all RuleResult.passed

/-- `sum(1 for r in results if r.passed) / max(len(results), 1)`. -/
def confidence (results : List RuleResult) : ℚ :=
  results.countP RuleResult.passed / (max results.length 1 : ℕ)

/-- `[r.message for r in results if not r.passed]`. -/
def reasons (results : List RuleResult) : List String :=
  (results.filter fun r => ¬ r.passed).map RuleResult.message

@[simp] theorem check_passed (ruleName : String) (passed : Bool) (met unmet severity : String) :
    (RuleResult.check ruleName passed met unmet severity).passed = passed := rfl

theorem allPassed_iff {results : List RuleResult} :
    allPassed results = true ↔ ∀ r ∈ results, r.passed = true := List.all_eq_true

/-- Of at least one result, the share of those passed is one exactly if all passed. -/
theorem confidence_eq_one_iff {results : List RuleResult} (hne : results ≠ []) :
    confidence results = 1 ↔ allPassed results = true := by
  have hpos : 0 < results.length := List.length_pos_iff.mpr hne
  have hmax : max results.length 1 = results.length := by omega
  have hlength : (results.length : ℚ) ≠ 0 := by
    norm_cast
    omega
  rw [confidence, hmax, div_eq_one_iff_eq hlength, allPassed_iff, ← List.countP_eq_length]
  norm_cast

end ControlFabric.Packs
