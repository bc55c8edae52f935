import ControlFabric.Py.Numbers
import ControlFabric.Wave1.Marked

/-! The overall score of a list of mismatches is one less their mean weight. It is therefore a
number between zero and one, but another mismatch lowers it only where it weighs at least that
mean. -/
namespace ControlFabric.Fabric.Wave1
open Py

def weightedSum (mismatches : List Mismatch) : ℚ :=
  (mismatches.map fun m => severityWeights m.severity).sum

def meanWeight (mismatches : List Mismatch) : ℚ := weightedSum mismatches / mismatches.length

theorem severityWeights_mem (severity : MismatchSeverity) :
    0 ≤ severityWeights severity ∧ severityWeights severity ≤ 1 := by
  cases severity <;> norm_num [severityWeights]

section Mean
variable (mismatches : List Mismatch)

theorem weightedSum_nonneg : 0 ≤ weightedSum mismatches := by
  apply List.sum_nonneg
  intro weight hweight
  obtain ⟨m, -, rfl⟩ := List.mem_map.mp hweight
  exact (severityWeights_mem m.severity).1

theorem weightedSum_le_length : weightedSum mismatches ≤ mismatches.length := by
  induction mismatches with
  | nil => exact le_refl 0
  | cons m mismatches ih =>
    have hm := (severityWeights_mem m.severity).2
    have hcons : weightedSum (m :: mismatches) =
        severityWeights m.severity + weightedSum mismatches := List.sum_cons
    rw [hcons, List.length_cons, Nat.cast_succ]
    linarith

theorem meanWeight_nonneg : 0 ≤ meanWeight mismatches :=
  div_nonneg (weightedSum_nonneg mismatches) (Nat.cast_nonneg _)

theorem meanWeight_le_one : meanWeight mismatches ≤ 1 :=
  div_le_one_of_le₀ (weightedSum_le_length mismatches) (Nat.cast_nonneg _)

theorem weightedSum_concat (m : Mismatch) :
    weightedSum (mismatches ++ [m]) = weightedSum mismatches + severityWeights m.severity := by
  simp [weightedSum]

/-- The sum of the weights is the mean, as often as there are mismatches. -/
theorem weightedSum_eq : weightedSum mismatches = meanWeight mismatches * mismatches.length := by
  rcases mismatches.eq_nil_or_concat with rfl | ⟨before, m, rfl⟩
  · simp [weightedSum]
  · have hpos : ((before.concat m).length : ℚ) ≠ 0 := by simp; positivity
    exact (div_mul_cancel₀ _ hpos).symm

/-- Another mismatch takes the mean towards its own weight. -/
theorem meanWeight_concat (m : Mismatch) :
    (meanWeight (mismatches ++ [m]) - meanWeight mismatches) * (mismatches.length + 1) =
      severityWeights m.severity - meanWeight mismatches := by
  have hafter := weightedSum_eq (mismatches ++ [m])
  rw [weightedSum_concat, weightedSum_eq mismatches, List.length_append,
    List.length_singleton] at hafter
  push_cast at hafter
  linarith

end Mean

section Laws
variable {mismatches other : List Mismatch} {score score' : ReconciliationScore} {m : Mismatch}

theorem meanWeight_perm (h : other.Perm mismatches) : meanWeight other = meanWeight mismatches := by
  unfold meanWeight weightedSum
  rw [(h.map _).sum_eq, h.length_eq]

theorem le_meanWeight_concat (h : meanWeight mismatches ≤ severityWeights m.severity) :
    meanWeight mismatches ≤ meanWeight (mismatches ++ [m]) := by
  have hlength : (0 : ℚ) < mismatches.length + 1 := by positivity
  have hmove := meanWeight_concat mismatches m
  by_contra hlt
  have hneg := mul_neg_of_neg_of_pos (sub_neg.mpr (not_le.mp hlt)) hlength
  linarith

theorem meanWeight_concat_le (h : severityWeights m.severity ≤ meanWeight mismatches) :
    meanWeight (mismatches ++ [m]) ≤ meanWeight mismatches := by
  have hlength : (0 : ℚ) < mismatches.length + 1 := by positivity
  have hmove := meanWeight_concat mismatches m
  by_contra hlt
  have hpos := mul_pos (sub_pos.mpr (not_le.mp hlt)) hlength
  linarith

/-- The bounds that the code puts on the penalty and the score never cut anything off. -/
theorem overallScore_eq (h : scoreMismatches mismatches = .ok score) :
    score.overallScore = roundDigits (1 - meanWeight mismatches) 4 := by
  unfold scoreMismatches at h
  split at h
  next hnone =>
    obtain rfl := Except.ok.inj h
    rw [hnone]
    have hclean : (1 - meanWeight [] : ℚ) = (1 : ℤ) := by simp [meanWeight]
    rw [hclean]
    exact (Py.roundDigits_intCast 1).symm
  next hsome =>
    cases htotal : financialTotal 0 mismatches with
    | error e =>
      rw [htotal] at h
      cases h
    | ok total =>
      rw [htotal] at h
      obtain rfl := Except.ok.inj h
      have hlength : (1 : ℚ) ≤ mismatches.length := by
        exact_mod_cast List.length_pos_iff.mpr hsome
      have hpenalty : min (meanWeight mismatches) 1 = meanWeight mismatches :=
        min_eq_left (meanWeight_le_one mismatches)
      have hoverall : max (1 - meanWeight mismatches) 0 = 1 - meanWeight mismatches :=
        max_eq_left (sub_nonneg.mpr (meanWeight_le_one mismatches))
      show roundDigits (max (1 - min (weightedSum mismatches / max _ 1) 1) 0) 4 = _
      rw [max_eq_left hlength, ← meanWeight, hpenalty, hoverall]

/-- The lighter the mean, the better the score. -/
theorem overallScore_anti (h : scoreMismatches mismatches = .ok score)
    (h' : scoreMismatches other = .ok score') (hmean : meanWeight mismatches ≤ meanWeight other) :
    score'.overallScore ≤ score.overallScore := by
  rw [overallScore_eq h, overallScore_eq h']
  exact Py.roundDigits_mono (sub_le_sub_left hmean 1)

theorem overallScore_mem (h : scoreMismatches mismatches = .ok score) :
    0 ≤ score.overallScore ∧ score.overallScore ≤ 1 := by
  have hzero : roundDigits 0 4 = 0 := Py.roundDigits_intCast 0
  have hone : roundDigits 1 4 = 1 := Py.roundDigits_intCast 1
  have hlower : 0 ≤ 1 - meanWeight mismatches := sub_nonneg.mpr (meanWeight_le_one mismatches)
  have hupper : 1 - meanWeight mismatches ≤ 1 := sub_le_self 1 (meanWeight_nonneg mismatches)
  rw [overallScore_eq h]
  exact ⟨hzero.symm.trans_le (Py.roundDigits_mono hlower),
    (Py.roundDigits_mono hupper).trans_eq hone⟩

end Laws

/-- A list is scored exactly when its financial impacts are numbers, between zero and one and in
whatever order; a further mismatch does not raise the score if it weighs at least the mean, and does
not lower it if it weighs at most that. -/
theorem scoreMismatches_bounded (mismatches : List Mismatch) :
    ((∃ score, scoreMismatches mismatches = .ok score) ↔
        ∀ m ∈ mismatches, Numeric m.financialImpact) ∧
      ∀ score, scoreMismatches mismatches = .ok score →
        (0 ≤ score.overallScore ∧ score.overallScore ≤ 1) ∧
        (∀ other, other.Perm mismatches →
          ∃ score', scoreMismatches other = .ok score' ∧
            score'.overallScore = score.overallScore) ∧
        ∀ m score', scoreMismatches (mismatches ++ [m]) = .ok score' →
          (meanWeight mismatches ≤ severityWeights m.severity →
            score'.overallScore ≤ score.overallScore) ∧
          (severityWeights m.severity ≤ meanWeight mismatches →
            score.overallScore ≤ score'.overallScore) := by
  refine ⟨scoreMismatches_ok, fun score h => ⟨overallScore_mem h, ?_, ?_⟩⟩
  · intro other hperm
    have hnumeric := scoreMismatches_ok.mp ⟨score, h⟩
    obtain ⟨score', h'⟩ := scoreMismatches_ok.mpr fun m hm => hnumeric m (hperm.subset hm)
    refine ⟨score', h', ?_⟩
    rw [overallScore_eq h, overallScore_eq h', meanWeight_perm hperm]
  · intro m score' h'
    constructor
    · intro hweight
      exact overallScore_anti h h' (le_meanWeight_concat hweight)
    · intro hweight
      exact overallScore_anti h' h (meanWeight_concat_le hweight)

/-- A mismatch between two objects that says nothing more. -/
def plainMismatch (severity : MismatchSeverity) : Mismatch where
  category := .rateDeviation
  severity := severity
  sourceObjectId := "contract"
  targetObjectId := "visit"
  sourcePlane := .commercial
  targetPlane := .field
  description := "rate"

/-- A critical mismatch alone scores nothing, and half the range with a note beside it. -/
theorem note_raises_score :
    (scoreMismatches [plainMismatch .critical]).map ReconciliationScore.overallScore = .ok 0 ∧
      (scoreMismatches [plainMismatch .critical, plainMismatch .info]).map
        ReconciliationScore.overallScore = .ok (1 / 2) := by
  decide +kernel

end ControlFabric.Fabric.Wave1
