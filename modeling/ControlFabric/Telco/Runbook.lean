import ControlFabric.Lib.Ranking
import ControlFabric.Margin.Values

/-! Whether a runbook is completed, as two engines answer it. One counts the executed numbers and
looks for each step by its position, the other by the number that the step states; the first answer
is consistent only where positions and stated numbers are executed alike. -/
namespace ControlFabric.Telco
open Lib Ingress Margin Py

/-- What is read of a runbook whose steps are dicts. -/
structure ParsedRunbook where
  steps : List JsonDict := []

structure RunbookStep where
  stepNumber : ℤ

/-- What is read of a runbook whose steps are records. -/
structure RunbookReferenceObject where
  steps : List RunbookStep := []

namespace ActionRuleEngine

/-- The dict that `check_runbook_completion` returns. -/
structure RunbookCompletion where
  totalSteps : ℕ
  completedSteps : ℕ
  pendingStepNumbers : List Json
  allComplete : Bool
  completionPct : ℚ

/-- `s.get("step_number", i + 1)`, of a step and its index. -/
def ownNumber (p : JsonDict × ℕ) : Json := dictGet p.1 "step_number" (.int (p.2 + 1))

def checkRunbookCompletion (runbook : ParsedRunbook) (executedSteps : List ℤ) :
    RunbookCompletion :=
  let total := runbook.steps.length
  let completed := executedSteps.toFinset.card
  { totalSteps := total
    completedSteps := completed
    pendingStepNumbers :=
      (runbook.steps.zipIdx.filter fun p => (p.2 + 1 : ℤ) ∉ executedSteps).map ownNumber
    allComplete := total ≤ completed
    completionPct :=
      if total = 0 then 100 else roundDigits ((completed : ℚ) / total * 100) 1 }

end ActionRuleEngine

namespace RunbookRuleEngine

/-- The dict that `check_runbook_step_completion` returns. -/
structure StepCompletion where
  total : ℕ
  completed : ℕ
  pending : ℕ
  pendingSteps : List ℤ
  allComplete : Bool

def checkRunbookStepCompletion (runbook : RunbookReferenceObject) (executedSteps : List ℤ) :
    StepCompletion :=
  let completed := runbook.steps.filter fun s => s.stepNumber ∈ executedSteps
  let pending := runbook.steps.filter fun s => s.stepNumber ∉ executedSteps
  { total := runbook.steps.length
    completed := completed.length
    pending := pending.length
    pendingSteps := pending.map RunbookStep.stepNumber
    allComplete := pending.length = 0 }

end RunbookRuleEngine

/-! ### Consistency -/

open ActionRuleEngine RunbookRuleEngine

/-- The number is among the executed ones, as an element of a set. -/
def Executed (executedSteps : List ℤ) (number : Json) : Prop :=
  ∃ n ∈ executedSteps, hash number = .ok (.number n)

instance (executedSteps : List ℤ) : DecidablePred (Executed executedSteps) :=
  fun _ => List.decidableBEx ..

/-- The numbers of the steps, in their order. -/
def ownNumbers (runbook : ParsedRunbook) : List Json := runbook.steps.zipIdx.map ownNumber

/-- What the answer is to be: complete if nothing is pending, every step either completed or
pending, a share, the steps pending whose numbers were not executed, and the other engine's
verdict. -/
structure Consistent (runbook : ParsedRunbook) (executedSteps : List ℤ) (r : RunbookCompletion) :
    Prop where
  complete : r.allComplete = true ↔ r.pendingStepNumbers = []
  counted : r.completedSteps + r.pendingStepNumbers.length = r.totalSteps
  percentage : 0 ≤ r.completionPct ∧ r.completionPct ≤ 100
  pending : r.pendingStepNumbers =
    (ownNumbers runbook).filter fun number => ¬ Executed executedSteps number
  agrees : ∀ reference : RunbookReferenceObject,
    reference.steps.map (fun s => Json.int s.stepNumber) = ownNumbers runbook →
    r.allComplete = (checkRunbookStepCompletion reference executedSteps).allComplete

/-- Only positions in the runbook were executed, and those of the steps whose numbers were. -/
structure ByPosition (runbook : ParsedRunbook) (executedSteps : List ℤ) : Prop where
  inRange : ∀ n ∈ executedSteps, 1 ≤ n ∧ n ≤ runbook.steps.length
  numbered : ∀ p ∈ runbook.steps.zipIdx,
    (p.2 + 1 : ℤ) ∈ executedSteps ↔ Executed executedSteps (ownNumber p)

section Counts
variable {runbook : ParsedRunbook} {executedSteps : List ℤ}

/-- The executed positions are the executed numbers in range. -/
theorem countP_positions (steps : List JsonDict) (executedSteps : List ℤ) :
    (steps.zipIdx.countP fun p => (p.2 + 1 : ℤ) ∈ executedSteps) =
      (executedSteps.toFinset.filter fun n : ℤ => 1 ≤ n ∧ n ≤ steps.length).card := by
  have hindices : (steps.zipIdx.countP fun p => (p.2 + 1 : ℤ) ∈ executedSteps) =
      (List.range steps.length).countP fun (i : ℕ) => (i + 1 : ℤ) ∈ executedSteps := by
    rw [List.range_eq_range', ← List.zipIdx_map_snd, List.countP_map]
    rfl
  have hnodup : ((List.range steps.length).filter fun (i : ℕ) =>
      (i + 1 : ℤ) ∈ executedSteps).Nodup := List.nodup_range.filter _
  rw [hindices, List.countP_eq_length_filter, ← List.toFinset_card_of_nodup hnodup]
  have hinjective : Function.Injective fun i : ℕ => (i + 1 : ℤ) := by
    intro i j h
    simp only at h
    omega
  rw [← Finset.card_image_of_injective _ hinjective]
  congr 1
  ext n
  simp only [Finset.mem_image, List.mem_toFinset, List.mem_filter, List.mem_range,
    decide_eq_true_eq, Finset.mem_filter]
  constructor
  · rintro ⟨i, ⟨hi, hmem⟩, rfl⟩
    exact ⟨hmem, by omega, by omega⟩
  · rintro ⟨hmem, hpos, hle⟩
    refine ⟨(n - 1).toNat, ⟨by omega, ?_⟩, by omega⟩
    have hn : (((n - 1).toNat : ℕ) : ℤ) + 1 = n := by omega
    rwa [hn]

theorem pendingStepNumbers_eq : (checkRunbookCompletion runbook executedSteps).pendingStepNumbers =
    (runbook.steps.zipIdx.filter fun p => (p.2 + 1 : ℤ) ∉ executedSteps).map ownNumber := rfl

theorem length_pending : (checkRunbookCompletion runbook executedSteps).pendingStepNumbers.length +
    (executedSteps.toFinset.filter fun n : ℤ => 1 ≤ n ∧ n ≤ runbook.steps.length).card =
      runbook.steps.length := by
  have hsplit := List.length_eq_countP_add_countP
    (fun p : JsonDict × ℕ => decide ((p.2 + 1 : ℤ) ∈ executedSteps)) (l := runbook.steps.zipIdx)
  rw [countP_positions, List.length_zipIdx] at hsplit
  simp only [decide_eq_true_eq, decide_not] at hsplit
  rw [pendingStepNumbers_eq, List.length_map, ← List.countP_eq_length_filter]
  simp only [decide_not]
  omega

/-- Completed and pending steps add up exactly if only positions in the runbook were executed. -/
theorem counted_iff : (checkRunbookCompletion runbook executedSteps).completedSteps +
    (checkRunbookCompletion runbook executedSteps).pendingStepNumbers.length =
      runbook.steps.length ↔ ∀ n ∈ executedSteps, 1 ≤ n ∧ n ≤ runbook.steps.length := by
  have hpending := @length_pending runbook executedSteps
  have hfilter : (executedSteps.toFinset.filter fun n : ℤ => 1 ≤ n ∧ n ≤ runbook.steps.length).card =
      executedSteps.toFinset.card ↔ ∀ n ∈ executedSteps, 1 ≤ n ∧ n ≤ runbook.steps.length := by
    rw [Finset.card_filter_eq_iff]
    simp
  rw [← hfilter]
  show executedSteps.toFinset.card + _ = _ ↔ _
  omega

theorem completionPct_bounds {completed total : ℕ} (h : completed ≤ total) (hpos : 0 < total) :
    0 ≤ roundDigits ((completed : ℚ) / total * 100) 1 ∧
      roundDigits ((completed : ℚ) / total * 100) 1 ≤ 100 := by
  have htotal : (0 : ℚ) < total := by exact_mod_cast hpos
  have hshare : (completed : ℚ) / total ≤ 1 := (div_le_one htotal).mpr (by exact_mod_cast h)
  constructor
  · have hzero : ((0 : ℤ) : ℚ) ≤ (completed : ℚ) / total * 100 := by
      push_cast
      positivity
    have hrounded : roundDigits ((0 : ℤ) : ℚ) 1 ≤ _ := roundDigits_mono hzero
    rwa [roundDigits_intCast, Int.cast_zero] at hrounded
  · have hall : (completed : ℚ) / total * 100 ≤ ((100 : ℤ) : ℚ) := by
      push_cast
      linarith
    have hrounded : _ ≤ roundDigits ((100 : ℤ) : ℚ) 1 := roundDigits_mono hall
    rwa [roundDigits_intCast] at hrounded

/-- The numbers reported as pending are those not executed, exactly if each step is executed by its
position whenever it is by its number. -/
theorem pending_iff : (checkRunbookCompletion runbook executedSteps).pendingStepNumbers =
    ((ownNumbers runbook).filter fun number => ¬ Executed executedSteps number) ↔
      ∀ p ∈ runbook.steps.zipIdx,
        ((p.2 + 1 : ℤ) ∈ executedSteps ↔ Executed executedSteps (ownNumber p)) := by
  rw [pendingStepNumbers_eq, ownNumbers, List.filter_map]
  constructor
  · intro h
    have himp : ∀ p ∈ runbook.steps.zipIdx, (p.2 + 1 : ℤ) ∉ executedSteps →
        ¬ Executed executedSteps (ownNumber p) := by
      intro p hp hnot
      have hmem : ownNumber p ∈ (runbook.steps.zipIdx.filter fun p =>
          (p.2 + 1 : ℤ) ∉ executedSteps).map ownNumber :=
        List.mem_map_of_mem (List.mem_filter.mpr ⟨hp, by simpa using hnot⟩)
      rw [h] at hmem
      obtain ⟨q, hq, heq⟩ := List.mem_map.mp hmem
      rw [← heq]
      simpa using (List.mem_filter.mp hq).2
    have hlength := congrArg List.length h
    simp only [List.length_map, ← List.countP_eq_length_filter] at hlength
    have hback := (countP_eq_iff himp).mp hlength
    intro p hp
    constructor
    · intro hdone
      by_contra hnot
      exact hback p hp hnot hdone
    · intro hexecuted
      by_contra hnot
      exact himp p hp hnot hexecuted
  · intro h
    congr 1
    apply List.filter_congr
    intro p hp
    simp [h p hp]

theorem executed_int {n : ℤ} : Executed executedSteps (.int n) ↔ n ∈ executedSteps := by
  constructor
  · rintro ⟨m, hm, heq⟩
    have hsame : (n : ℚ) = m := Key.number.inj (Except.ok.inj heq)
    rwa [Int.cast_inj.mp hsame]
  · intro hn
    exact ⟨n, hn, rfl⟩

/-- The verdict of the other engine on the same numbers. -/
theorem allComplete_reference {reference : RunbookReferenceObject}
    (hsame : reference.steps.map (fun s => Json.int s.stepNumber) = ownNumbers runbook) :
    (checkRunbookStepCompletion reference executedSteps).allComplete = true ↔
      ((ownNumbers runbook).filter fun number => ¬ Executed executedSteps number) = [] := by
  rw [← hsame, List.filter_map, List.map_eq_nil_iff]
  simp [checkRunbookStepCompletion, executed_int]

end Counts

/-- The answer is consistent exactly if only positions in the runbook were executed, and of each
step its position and its own number alike. -/
theorem consistent_iff (runbook : ParsedRunbook) (executedSteps : List ℤ) :
    Consistent runbook executedSteps (checkRunbookCompletion runbook executedSteps) ↔
      ByPosition runbook executedSteps := by
  constructor
  · intro h
    exact ⟨counted_iff.mp h.counted, pending_iff.mp h.pending⟩
  · intro h
    have hcounted := counted_iff.mpr h.inRange
    have hpending := pending_iff.mpr h.numbered
    have hcomplete : runbook.steps.length ≤ executedSteps.toFinset.card ↔
        (checkRunbookCompletion runbook executedSteps).pendingStepNumbers = [] := by
      rw [← List.length_eq_zero_iff]
      show _ ≤ (checkRunbookCompletion runbook executedSteps).completedSteps ↔ _
      omega
    constructor
    · simpa [checkRunbookCompletion] using hcomplete
    · exact hcounted
    · show 0 ≤ ite _ _ _ ∧ ite _ _ _ ≤ (100 : ℚ)
      split
      · norm_num
      next hpos =>
        refine completionPct_bounds ?_ (Nat.pos_of_ne_zero hpos)
        show (checkRunbookCompletion runbook executedSteps).completedSteps ≤ _
        omega
    · exact hpending
    · intro reference hsame
      rw [Bool.eq_iff_iff, allComplete_reference hsame, ← hpending, ← hcomplete]
      simp [checkRunbookCompletion]

/-- One step that states no number, and the number of no step executed. -/
theorem unknown_number_completes : ¬ ∀ (runbook : ParsedRunbook) (executedSteps : List ℤ),
    Consistent runbook executedSteps (checkRunbookCompletion runbook executedSteps) := by
  intro h
  have hcounted := (h ⟨[[("action", .str "restart")]]⟩ [7]).counted
  exact absurd hcounted (by decide)

end ControlFabric.Telco
