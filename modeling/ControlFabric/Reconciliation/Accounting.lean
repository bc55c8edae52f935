import ControlFabric.Reconciliation.Accounted

/-! The account of an assembly: how many outcomes of each type it returns, and in which of them a
mismatch stands. -/
namespace ControlFabric.Fabric.Reconciliation
open Lib

/-! ### Counts -/

def ReconciliationOutcomeType.all : List ReconciliationOutcomeType :=
  [.fullyReconciled, .candidateMatch, .mismatchDetected, .duplicateDetected, .coverageGap, .disputed,
    .insufficientEvidence]

theorem ReconciliationOutcomeType.value_inj {t t' : ReconciliationOutcomeType}
    (h : t.value = t'.value) : t = t' := by
  revert h
  cases t <;> cases t' <;> decide

namespace ReconciliationAssembler

theorem countOf_cons (t : ReconciliationOutcomeType) (outcome : ReconciliationOutcome)
    (outcomes : List ReconciliationOutcome) :
    countOf t (outcome :: outcomes) =
      countOf t outcomes + if outcome.outcomeType = t then 1 else 0 := by
  unfold countOf
  rw [List.countP_cons]
  simp

/-- Each outcome is counted under its type, and under no other. -/
theorem sum_countOf (outcomes : List ReconciliationOutcome) :
    (ReconciliationOutcomeType.all.map fun t => countOf t outcomes).sum = outcomes.length := by
  induction outcomes with
  | nil => rfl
  | cons outcome outcomes ih =>
    simp only [countOf_cons, ReconciliationOutcomeType.all, List.map_cons, List.map_nil,
      List.sum_cons, List.sum_nil, List.length_cons] at ih ⊢
    cases outcome.outcomeType <;> simp <;> omega

/-- `outcome_counts`, by the value of a type. -/
theorem outcomeCounts_getD (t : ReconciliationOutcomeType) (outcomes : List ReconciliationOutcome)
    (d : Dict String ℕ) :
    (outcomes.foldl (fun d o => d.set o.outcomeType.value (d.getD o.outcomeType.value 0 + 1))
        d).getD t.value 0 = d.getD t.value 0 + countOf t outcomes := by
  induction outcomes generalizing d with
  | nil => rfl
  | cons outcome outcomes ih =>
    rw [List.foldl_cons, ih, countOf_cons, Dict.getD_set]
    by_cases htype : outcome.outcomeType = t
    · subst htype
      rw [if_pos rfl, if_pos rfl]
      omega
    · rw [if_neg fun h => htype (ReconciliationOutcomeType.value_inj h).symm, if_neg htype, add_zero]

/-! ### Mismatches -/

/-- The mismatches of the leading candidates. -/
def attached (input : ReconciliationAssemblyInput) : List ReconciliationMismatch :=
  input.rankings.flatMap fun ranking =>
    (ranking.rankedCandidates.head?.map MatchCandidate.mismatches).getD []

/-- The identifiers drawn for the mismatches of duplicates and of insufficient evidence. -/
def drawnIds (rt : Runtime) (n : ℕ) (input : ReconciliationAssemblyInput) : List String :=
  (List.range (input.duplicates.length +
    (input.evidenceResults.filter fun r => ¬ r.isSufficient).length)).map fun i => rt.uuid4 (n + i)

/-- Identifiers tell apart the mismatches of the list, and those of the leading candidates; one of
both has one identifier, and none has one that assembly draws. -/
structure DistinctIds (rt : Runtime) (n : ℕ) (input : ReconciliationAssemblyInput) : Prop where
  listed : (input.mismatches.map ReconciliationMismatch.id).Nodup
  attached : ((attached input).map ReconciliationMismatch.id).Nodup
  same : ∀ m ∈ input.mismatches, ∀ m' ∈ ReconciliationAssembler.attached input,
    m'.id = m.id → m' = m
  fresh : ∀ m ∈ input.mismatches, m.id ∉ drawnIds rt n input

/-- How many of the outcomes hold the mismatch. -/
def holders (m : ReconciliationMismatch) (outcomes : List ReconciliationOutcome) : ℕ :=
  outcomes.countP fun o => m ∈ o.mismatches

theorem holders_append (m : ReconciliationMismatch) (outcomes outcomes' : List ReconciliationOutcome) :
    holders m (outcomes ++ outcomes') = holders m outcomes + holders m outcomes' :=
  List.countP_append

theorem holders_eq_zero {m : ReconciliationMismatch} {outcomes : List ReconciliationOutcome}
    (h : ∀ o ∈ outcomes, m ∉ o.mismatches) : holders m outcomes = 0 := by
  unfold holders
  rw [List.countP_eq_zero]
  simpa using h

/-- Outcomes that share no mismatch hold each at most once. -/
theorem holders_le_one {outcomes : List ReconciliationOutcome}
    (h : (outcomes.flatMap ReconciliationOutcome.mismatches).Nodup) (m : ReconciliationMismatch) :
    holders m outcomes ≤ 1 := by
  induction outcomes with
  | nil => exact Nat.zero_le _
  | cons o outcomes ih =>
    rw [List.flatMap_cons, List.nodup_append] at h
    obtain ⟨-, hrest, hdisjoint⟩ := h
    by_cases hm : m ∈ o.mismatches
    · have hzero : holders m outcomes = 0 := by
        apply holders_eq_zero
        intro o' ho' hm'
        exact hdisjoint m hm m (List.mem_flatMap.mpr ⟨o', ho', hm'⟩) rfl
      have hcons : holders m (o :: outcomes) = holders m outcomes + 1 :=
        List.countP_cons_of_pos (by simpa using hm)
      omega
    · have hcons : holders m (o :: outcomes) = holders m outcomes :=
        List.countP_cons_of_neg (by simpa using hm)
      exact hcons.trans_le (ih hrest)

/-- An outcome added for a mismatch shows that one only. -/
theorem addMismatch_held {m a : ReconciliationMismatch} {outcomes : List ReconciliationOutcome}
    (ha : a.id = m.id → a = m)
    (hheld : ∀ o ∈ outcomes, ∀ m' ∈ o.mismatches, m'.id = m.id → m' = m) :
    ∀ o ∈ addMismatch outcomes a, ∀ m' ∈ o.mismatches, m'.id = m.id → m' = m := by
  intro o ho
  unfold addMismatch at ho
  split at ho
  · exact hheld o ho
  · rcases List.mem_append.mp ho with ho | ho
    · exact hheld o ho
    · obtain rfl := List.mem_singleton.mp ho
      intro m' hm' hid
      obtain rfl := List.mem_singleton.mp hm'
      exact ha hid

theorem holders_mismatchOutcome (m a : ReconciliationMismatch) :
    holders m [mismatchOutcome a] = if a = m then 1 else 0 := by
  unfold holders
  simp [mismatchOutcome, eq_comm]

/-- A mismatch that is not yet shown is given an outcome, one that is shown keeps its only one. -/
theorem holders_addMismatch {m : ReconciliationMismatch} {outcomes : List ReconciliationOutcome}
    (hone : holders m outcomes ≤ 1)
    (hheld : ∀ o ∈ outcomes, ∀ m' ∈ o.mismatches, m'.id = m.id → m' = m)
    (a : ReconciliationMismatch) :
    holders m (addMismatch outcomes a) = if a = m then 1 else holders m outcomes := by
  unfold addMismatch
  by_cases halready : alreadyInOutcome outcomes a
  · rw [if_pos halready]
    split
    next heq =>
      subst heq
      obtain ⟨o, ho, m', hm', hid⟩ := alreadyInOutcome_iff.mp halready
      obtain rfl := hheld o ho m' hm' hid
      have hpos : 0 < holders m' outcomes :=
        List.countP_pos_iff.mpr ⟨o, ho, by simpa using hm'⟩
      omega
    next => rfl
  · rw [if_neg halready, holders_append, holders_mismatchOutcome]
    split
    next heq =>
      subst heq
      have hzero : holders a outcomes = 0 := by
        apply holders_eq_zero
        intro o ho hm
        exact halready (alreadyInOutcome_iff.mpr ⟨o, ho, a, hm, rfl⟩)
      rw [hzero]
    next => rfl

/-- Whether a mismatch of the list stands in an outcome already, or is given one of its own, it has
one in the end. -/
theorem holders_foldl_addMismatch {m : ReconciliationMismatch}
    {mismatches : List ReconciliationMismatch} {outcomes : List ReconciliationOutcome}
    (hone : holders m outcomes ≤ 1)
    (hheld : ∀ o ∈ outcomes, ∀ m' ∈ o.mismatches, m'.id = m.id → m' = m)
    (hlisted : ∀ m' ∈ mismatches, m'.id = m.id → m' = m) :
    holders m (mismatches.foldl addMismatch outcomes) =
      if m ∈ mismatches then 1 else holders m outcomes := by
  induction mismatches generalizing outcomes with
  | nil => rfl
  | cons a mismatches ih =>
    obtain ⟨ha, hrest⟩ := List.forall_mem_cons.mp hlisted
    have hadd := holders_addMismatch hone hheld a
    have hone' : holders m (addMismatch outcomes a) ≤ 1 := by
      rw [hadd]
      split
      · exact le_rfl
      · exact hone
    rw [List.foldl_cons, ih hone' (addMismatch_held ha hheld) hrest, hadd]
    by_cases heq : a = m
    · simp [heq]
    · simp [heq, Ne.symm heq]

/-! ### Outcomes by type -/

/-- The leading candidate of a ranking, if its score is positive. -/
def positiveTop (ranking : CandidateRanking) : Option MatchCandidate :=
  ranking.rankedCandidates.head?.filter fun top => 0 < top.score

def tallied (matchThreshold : ℚ) (top : MatchCandidate) : ReconciliationOutcome :=
  pairOutcome (if matchThreshold ≤ top.score then .fullyReconciled else .candidateMatch) top

def ofTypes (types : List ReconciliationOutcomeType) (outcomes : List ReconciliationOutcome) :
    List ReconciliationOutcome := outcomes.filter fun o => o.outcomeType ∈ types

theorem ofTypes_append (types : List ReconciliationOutcomeType)
    (outcomes outcomes' : List ReconciliationOutcome) :
    ofTypes types (outcomes ++ outcomes') = ofTypes types outcomes ++ ofTypes types outcomes' :=
  List.filter_append _ _

theorem ofTypes_self {types : List ReconciliationOutcomeType}
    {outcomes : List ReconciliationOutcome} (h : ∀ o ∈ outcomes, o.outcomeType ∈ types) :
    ofTypes types outcomes = outcomes := by
  unfold ofTypes
  rw [List.filter_eq_self]
  simpa using h

theorem ofTypes_nil {types : List ReconciliationOutcomeType}
    {outcomes : List ReconciliationOutcome} (h : ∀ o ∈ outcomes, o.outcomeType ∉ types) :
    ofTypes types outcomes = [] := by
  unfold ofTypes
  rw [List.filter_eq_nil_iff]
  simpa using h

/-- With a positive threshold the rankings with a positive best score have an outcome each. -/
theorem rankingOutcome_tallied {matchThreshold : ℚ} (hpos : 0 < matchThreshold)
    (ranking : CandidateRanking) :
    rankingOutcome matchThreshold ranking = (positiveTop ranking).map (tallied matchThreshold) := by
  unfold rankingOutcome positiveTop
  cases ranking.rankedCandidates.head? with
  | none => rfl
  | some top =>
    rw [Option.bind_some]
    unfold topOutcome
    by_cases hfull : matchThreshold ≤ top.score
    · simp [tallied, hfull, hpos.trans_le hfull]
    · by_cases hscore : 0 < top.score
      · simp [tallied, hfull, hscore]
      · simp [hfull, hscore, not_lt.mp hscore]

/-- What an assembly accounts for: each ranking with a positive best score, each duplicate set, each
gap of an incomplete coverage, each object with insufficient evidence and each mismatch once. -/
structure AccountsFor (matchThreshold : ℚ) (input : ReconciliationAssemblyInput)
    (outcomes : List ReconciliationOutcome) : Prop where
  pairs : ofTypes [.fullyReconciled, .candidateMatch] outcomes =
    (input.rankings.filterMap positiveTop).map (tallied matchThreshold)
  duplicates : (ofTypes [.duplicateDetected] outcomes).map
      (fun o => (o.sourceObjectId, o.duplicateTargetIds)) =
    input.duplicates.map fun dupSet => (some dupSet.sourceObjectId, dupSet.duplicateTargetIds)
  gaps : (ofTypes [.coverageGap] outcomes).map ReconciliationOutcome.coverageGap =
    if input.coverageResult.isFullyCovered then [] else input.coverageResult.gaps.map some
  evidence : (ofTypes [.insufficientEvidence] outcomes).map ReconciliationOutcome.sourceObjectId =
    (input.evidenceResults.filter fun r => ¬ r.isSufficient).map fun r => some r.objectId
  mismatches : ∀ m ∈ input.mismatches, holders m outcomes = 1
  others : ∀ o ∈ ofTypes [.mismatchDetected, .disputed] outcomes,
    ∃ m ∈ input.mismatches, o = mismatchOutcome m

section Account
variable {rt : Runtime} {matchThreshold : ℚ} {n : ℕ} {input : ReconciliationAssemblyInput}

theorem tallied_type (top : MatchCandidate) : (tallied matchThreshold top).outcomeType ∈
    [ReconciliationOutcomeType.fullyReconciled, .candidateMatch] := by
  unfold tallied pairOutcome
  split <;> simp

theorem rankingOutcomes_tallied (hpos : 0 < matchThreshold) :
    input.rankings.filterMap (rankingOutcome matchThreshold) =
      (input.rankings.filterMap positiveTop).map (tallied matchThreshold) := by
  rw [List.map_filterMap]
  exact List.filterMap_congr fun ranking _ => rankingOutcome_tallied hpos ranking

/-- The outcomes of the rankings show what their leading candidates show. -/
theorem tallied_mismatches (rankings : List CandidateRanking) :
    ((rankings.filterMap positiveTop).flatMap MatchCandidate.mismatches).Sublist
      (rankings.flatMap fun ranking =>
        (ranking.rankedCandidates.head?.map MatchCandidate.mismatches).getD []) := by
  induction rankings with
  | nil => exact List.Sublist.refl _
  | cons ranking rankings ih =>
    rw [List.flatMap_cons]
    cases htop : positiveTop ranking with
    | none =>
      rw [List.filterMap_cons_none htop]
      exact ih.trans (List.sublist_append_right _ _)
    | some top =>
      rw [List.filterMap_cons_some htop, List.flatMap_cons,
        (Option.filter_eq_some_iff.mp htop).1]
      exact (List.Sublist.refl _).append ih

variable (rt n input) in
def duplicateOutcomes : List ReconciliationOutcome :=
  input.duplicates.mapIdx fun i dupSet => duplicateOutcome dupSet (rt.uuid4 (n + i))

variable (input) in
def gapOutcomes : List ReconciliationOutcome :=
  if ¬ input.coverageResult.isFullyCovered then input.coverageResult.gaps.map gapOutcome else []

variable (rt n input) in
def evidenceOutcomes : List ReconciliationOutcome :=
  (input.evidenceResults.filter fun r => ¬ r.isSufficient).mapIdx fun i r =>
    evidenceOutcome r (rt.uuid4 (n + input.duplicates.length + i))

theorem firstOutcomes_tallied (hpos : 0 < matchThreshold) :
    firstOutcomes rt matchThreshold n input =
      (input.rankings.filterMap positiveTop).map (tallied matchThreshold) ++
        duplicateOutcomes rt n input ++ gapOutcomes input ++ evidenceOutcomes rt n input := by
  rw [← rankingOutcomes_tallied hpos]
  rfl

/-- What does not depend on the drawn identifiers. -/
private theorem map_mapIdx_const {α β γ : Type} {f : ℕ → α → β} {g : β → γ} {k : α → γ}
    (h : ∀ i a, g (f i a) = k a) (l : List α) : (l.mapIdx f).map g = l.map k := by
  apply List.ext_getElem
  · simp
  · intro i hi hi'
    simp [h]

/-! The types of these outcomes. -/

theorem duplicateOutcomes_type {o : ReconciliationOutcome} (h : o ∈ duplicateOutcomes rt n input) :
    o.outcomeType = .duplicateDetected := by
  obtain ⟨i, hi, rfl⟩ := List.mem_mapIdx.mp h
  rfl

theorem gapOutcomes_type {o : ReconciliationOutcome} (h : o ∈ gapOutcomes input) :
    o.outcomeType = .coverageGap ∧ o.mismatches = [] := by
  unfold gapOutcomes at h
  split at h
  · obtain ⟨gap, -, rfl⟩ := List.mem_map.mp h
    exact ⟨rfl, rfl⟩
  · exact absurd h List.not_mem_nil

theorem evidenceOutcomes_type {o : ReconciliationOutcome} (h : o ∈ evidenceOutcomes rt n input) :
    o.outcomeType = .insufficientEvidence := by
  obtain ⟨i, hi, rfl⟩ := List.mem_mapIdx.mp h
  rfl

/-- Those of some types, among all outcomes. -/
theorem ofTypes_assembled (types : List ReconciliationOutcomeType) (tops : List MatchCandidate)
    (added : List ReconciliationMismatch) :
    ofTypes types (tops.map (tallied matchThreshold) ++ duplicateOutcomes rt n input ++
        gapOutcomes input ++ evidenceOutcomes rt n input ++ added.map mismatchOutcome) =
      ofTypes types (tops.map (tallied matchThreshold)) ++
        (if .duplicateDetected ∈ types then duplicateOutcomes rt n input else []) ++
        (if .coverageGap ∈ types then gapOutcomes input else []) ++
        (if .insufficientEvidence ∈ types then evidenceOutcomes rt n input else []) ++
        (if .mismatchDetected ∈ types then added.map mismatchOutcome else []) := by
  have hpart {t : ReconciliationOutcomeType} {outcomes : List ReconciliationOutcome}
      (h : ∀ o ∈ outcomes, o.outcomeType = t) :
      ofTypes types outcomes = if t ∈ types then outcomes else [] := by
    split
    next ht => exact ofTypes_self fun o ho => (h o ho).symm ▸ ht
    next ht => exact ofTypes_nil fun o ho => (h o ho).symm ▸ ht
  have hadded : ∀ o ∈ added.map mismatchOutcome, o.outcomeType = .mismatchDetected := by
    intro o ho
    obtain ⟨m, -, rfl⟩ := List.mem_map.mp ho
    rfl
  rw [ofTypes_append, ofTypes_append, ofTypes_append, ofTypes_append,
    hpart fun o => duplicateOutcomes_type, hpart fun o ho => (gapOutcomes_type ho).1,
    hpart fun o => evidenceOutcomes_type, hpart hadded]

theorem ofTypes_tallied_nil {types : List ReconciliationOutcomeType} (tops : List MatchCandidate)
    (hfull : .fullyReconciled ∉ types) (hmatch : .candidateMatch ∉ types) :
    ofTypes types (tops.map (tallied matchThreshold)) = [] := by
  apply ofTypes_nil
  intro o ho
  obtain ⟨top, -, rfl⟩ := List.mem_map.mp ho
  unfold tallied pairOutcome
  split
  · exact hfull
  · exact hmatch

/-- A mismatch of the list stands in at most one of the first outcomes, under no other name. -/
theorem holders_firstOutcomes (hpos : 0 < matchThreshold) (h : DistinctIds rt n input)
    {m : ReconciliationMismatch} (hm : m ∈ input.mismatches) :
    holders m (firstOutcomes rt matchThreshold n input) ≤ 1 ∧
      ∀ o ∈ firstOutcomes rt matchThreshold n input, ∀ m' ∈ o.mismatches,
        m'.id = m.id → m' = m := by
  have hsub := tallied_mismatches input.rankings
  have hflat : ((input.rankings.filterMap positiveTop).map (tallied matchThreshold)).flatMap
      ReconciliationOutcome.mismatches =
        (input.rankings.filterMap positiveTop).flatMap MatchCandidate.mismatches := by
    rw [List.flatMap_map]
    rfl
  have hduplicates : ∀ o ∈ duplicateOutcomes rt n input, ∀ m' ∈ o.mismatches, m'.id ≠ m.id := by
    intro o ho m' hm' hid
    obtain ⟨i, hi, rfl⟩ := List.mem_mapIdx.mp ho
    obtain rfl := List.mem_singleton.mp hm'
    exact h.fresh m hm (List.mem_map.mpr ⟨i, List.mem_range.mpr (by omega), hid⟩)
  have hevidence : ∀ o ∈ evidenceOutcomes rt n input, ∀ m' ∈ o.mismatches, m'.id ≠ m.id := by
    intro o ho m' hm' hid
    obtain ⟨i, hi, rfl⟩ := List.mem_mapIdx.mp ho
    obtain rfl := List.mem_singleton.mp hm'
    refine h.fresh m hm (List.mem_map.mpr ⟨input.duplicates.length + i,
      List.mem_range.mpr (by omega), ?_⟩)
    rw [← Nat.add_assoc]
    exact hid
  have hgaps : ∀ o ∈ gapOutcomes input, ∀ m' ∈ o.mismatches, m'.id ≠ m.id := by
    intro o ho m' hm'
    rw [(gapOutcomes_type ho).2] at hm'
    exact absurd hm' List.not_mem_nil
  have hnone {outcomes : List ReconciliationOutcome}
      (hne : ∀ o ∈ outcomes, ∀ m' ∈ o.mismatches, m'.id ≠ m.id) : holders m outcomes = 0 :=
    holders_eq_zero fun o ho hmem => hne o ho m hmem rfl
  rw [firstOutcomes_tallied hpos]
  constructor
  · rw [holders_append, holders_append, holders_append, hnone hduplicates, hnone hgaps,
      hnone hevidence]
    apply holders_le_one
    rw [hflat]
    exact hsub.nodup (h.attached.of_map _)
  · intro o ho m' hm' hid
    rcases List.mem_append.mp ho with ho | ho
    · rcases List.mem_append.mp ho with ho | ho
      · rcases List.mem_append.mp ho with ho | ho
        · have hmem : m' ∈ (input.rankings.filterMap positiveTop).flatMap
              MatchCandidate.mismatches := by
            rw [← hflat]
            exact List.mem_flatMap.mpr ⟨o, ho, hm'⟩
          exact h.same m hm m' (hsub.subset hmem) hid
        · exact absurd hid (hduplicates o ho m' hm')
      · exact absurd hid (hgaps o ho m' hm')
    · exact absurd hid (hevidence o ho m' hm')

theorem assemble_accountsFor (hpos : 0 < matchThreshold) (h : DistinctIds rt n input) :
    AccountsFor matchThreshold input (assemble rt matchThreshold n input) := by
  obtain ⟨added, hsub, hfold⟩ := foldl_addMismatch_sublist input.mismatches
    (firstOutcomes rt matchThreshold n input)
  have hassemble : assemble rt matchThreshold n input =
      (input.rankings.filterMap positiveTop).map (tallied matchThreshold) ++
        duplicateOutcomes rt n input ++ gapOutcomes input ++ evidenceOutcomes rt n input ++
          added.map mismatchOutcome := by
    rw [← firstOutcomes_tallied hpos]
    exact hfold
  constructor
  case mismatches =>
    intro m hm
    obtain ⟨hone, hheld⟩ := holders_firstOutcomes hpos h hm
    have hholders := holders_foldl_addMismatch hone hheld fun m' hm' hid =>
      List.inj_on_of_nodup_map h.listed hm' hm hid
    rw [if_pos hm] at hholders
    exact hholders
  all_goals rw [hassemble, ofTypes_assembled]
  case pairs =>
    rw [ofTypes_self fun o ho => ?_]
    · simp
    · obtain ⟨top, -, rfl⟩ := List.mem_map.mp ho
      exact tallied_type top
  case duplicates =>
    rw [ofTypes_tallied_nil _ (by decide) (by decide)]
    simp only [List.mem_singleton, reduceCtorEq, if_true, if_false, List.nil_append,
      List.append_nil]
    unfold duplicateOutcomes
    exact map_mapIdx_const (by intros; rfl) _
  case gaps =>
    rw [ofTypes_tallied_nil _ (by decide) (by decide)]
    unfold gapOutcomes
    by_cases hfull : input.coverageResult.isFullyCovered <;> simp [hfull, gapOutcome]
  case evidence =>
    rw [ofTypes_tallied_nil _ (by decide) (by decide)]
    simp only [List.mem_singleton, reduceCtorEq, if_true, if_false, List.nil_append,
      List.append_nil]
    unfold evidenceOutcomes
    exact map_mapIdx_const (by intros; rfl) _
  case others =>
    rw [ofTypes_tallied_nil _ (by decide) (by decide)]
    intro o ho
    simp only [List.mem_cons, reduceCtorEq, List.not_mem_nil, or_self, if_false, List.nil_append,
      or_false, if_true, List.append_nil, List.mem_map] at ho
    obtain ⟨m, hm, rfl⟩ := ho
    exact ⟨m, hsub.subset hm, rfl⟩

end Account
end ReconciliationAssembler

/-! ### Summaries and cases -/

/-- The totals of the summary are those of the outcomes. -/
structure ReconciliationSummary.AgreesWith (summary : ReconciliationSummary)
    (outcomes : List ReconciliationOutcome) : Prop where
  reconciled : summary.totalMatches = ReconciliationAssembler.countOf .fullyReconciled outcomes
  mismatches : summary.totalMismatches = (outcomes.map fun o => o.mismatches.length).sum
  duplicates : summary.totalDuplicates =
    ReconciliationAssembler.countOf .duplicateDetected outcomes
  gaps : summary.totalCoverageGaps = ReconciliationAssembler.countOf .coverageGap outcomes
  evidence : summary.totalInsufficientEvidence =
    ReconciliationAssembler.countOf .insufficientEvidence outcomes
  counts : ∀ t : ReconciliationOutcomeType, summary.outcomeCounts.getD t.value 0 =
    ReconciliationAssembler.countOf t outcomes

theorem ReconciliationAssembler.summarize_agrees (input : ReconciliationAssemblyInput)
    (outcomes : List ReconciliationOutcome) (tenantId : String) (planes : List PlaneType)
    (domains : List String) :
    (summarize input outcomes tenantId planes domains).AgreesWith outcomes where
  reconciled := rfl
  mismatches := rfl
  duplicates := rfl
  gaps := rfl
  evidence := rfl
  counts t := (outcomeCounts_getD t outcomes Dict.empty).trans (Nat.zero_add _)

/-- One case for each outcome but the full reconciliations without mismatches, in their order. -/
structure ReconciliationExecutionResult.CasesFollow (result : ReconciliationExecutionResult) :
    Prop where
  summary : result.summary.AgreesWith result.outcomes
  cases : result.cases.map ReconciliationCase.outcome =
    result.outcomes.filter fun o => ¬ (o.outcomeType = .fullyReconciled ∧ o.mismatches = [])
  total : result.summary.totalCasesCreated = result.cases.length

theorem ReconciliationOrchestrator.reconcile_casesFollow (rt : Runtime) (ops : ValueOps)
    (o : ReconciliationOrchestrator) (n : ℕ) (request : ReconciliationRequest) (d : GraphData) :
    (o.reconcile rt ops n request d).CasesFollow where
  summary :=
    let agrees := ReconciliationAssembler.summarize_agrees (o.assemblyInput rt ops n request d)
      (o.outcomes rt ops n request d) request.tenantId request.scope.planes request.scope.domains
    ⟨rfl, rfl, rfl, rfl, rfl, agrees.counts⟩
  cases := by
    show ((o.cases rt ops n request d)).map ReconciliationCase.outcome = _
    unfold ReconciliationOrchestrator.cases
    rw [List.map_map]
    exact List.map_id _
  total := rfl

namespace ReconciliationOrchestrator

section Distinct
variable {rt : Runtime} {ops : ValueOps} {o : ReconciliationOrchestrator} {n : ℕ}
  {request : ReconciliationRequest} {d : GraphData}

/-- The leading candidates of the rankings of a run. -/
theorem rankings_tops : (o.rankings rt ops n d).filterMap (fun r => r.rankedCandidates.head?) =
    (DuplicateDetector.bySource (o.scoredCandidates rt ops n d)).keys.filterMap fun s =>
      (ranked MatchCandidate.score ((o.scoredCandidates rt ops n d).filter fun c =>
        c.sourceObjectId = s)).head? := by
  unfold rankings DuplicateDetector.buildRankings DuplicateDetector.bySource
  rw [entries_groups, List.filterMap_map, List.filterMap_map]
  rfl

theorem rankings_tops_nodup :
    ((o.rankings rt ops n d).filterMap fun r => r.rankedCandidates.head?).Nodup := by
  rw [rankings_tops]
  refine List.Nodup.filterMap ?_ (Dict.nodup _)
  intro s s' c hc hc'
  have hs := (List.mem_filter.mp (head?_ranked.mp hc).mem).2
  have hs' := (List.mem_filter.mp (head?_ranked.mp hc').mem).2
  simp only [decide_eq_true_eq] at hs hs'
  exact hs.symm.trans hs'

theorem rankings_tops_subset :
    ((o.rankings rt ops n d).filterMap fun r => r.rankedCandidates.head?) ⊆
      o.scoredCandidates rt ops n d := by
  rw [rankings_tops]
  intro c hc
  obtain ⟨s, -, hhead⟩ := List.mem_filterMap.mp hc
  exact List.mem_of_mem_filter (head?_ranked.mp hhead).mem

theorem attached_eq (input : ReconciliationAssemblyInput) :
    ReconciliationAssembler.attached input =
      (input.rankings.filterMap fun r => r.rankedCandidates.head?).flatMap
        MatchCandidate.mismatches := by
  unfold ReconciliationAssembler.attached
  induction input.rankings with
  | nil => rfl
  | cons ranking rankings ih =>
    rw [List.flatMap_cons, List.filterMap_cons, ih]
    cases ranking.rankedCandidates.head? <;> rfl

/-- A run whose draws are distinct assembles mismatches with distinct identifiers. -/
theorem DrawsDistinct.distinctIds (h : o.DrawsDistinct rt ops n request d) :
    ReconciliationAssembler.DistinctIds rt (o.assemblyDraw rt ops n request d)
      (o.assemblyInput rt ops n request d) := by
  obtain ⟨hn, hextra, hlast⟩ := o.draws_le rt ops n request d
  have hsub : (ReconciliationAssembler.attached (o.assemblyInput rt ops n request d)).Subperm
      ((o.scoredCandidates rt ops n d).flatMap MatchCandidate.mismatches) := by
    rw [attached_eq]
    obtain ⟨tops, hperm, hsub⟩ : ((o.rankings rt ops n d).filterMap fun r =>
        r.rankedCandidates.head?).Subperm (o.scoredCandidates rt ops n d) :=
      rankings_tops_nodup.subperm rankings_tops_subset
    exact ⟨_, hperm.flatMap_right _, hsub.flatMap _⟩
  constructor
  case listed => exact h.extra_nodup
  case attached =>
    obtain ⟨l, hperm, hsub⟩ := hsub
    refine (hperm.map ReconciliationMismatch.id).nodup_iff.mp
      ((hsub.map ReconciliationMismatch.id).nodup ?_)
    rw [scoredCandidates, CandidateScorer.scoreAll_ids]
    refine List.Nodup.map_on ?_ List.nodup_range'
    intro i hi j hj heq
    obtain ⟨hi, hi'⟩ := List.mem_range'_1.mp hi
    obtain ⟨hj, hj'⟩ := List.mem_range'_1.mp hj
    have hbound : o.extraDraw rt ops n d ≤ o.lastDraw rt ops n request d := hextra.trans hlast
    exact h ⟨hi, lt_of_lt_of_le hi' hbound⟩ ⟨hj, lt_of_lt_of_le hj' hbound⟩ heq
  case same =>
    intro m hm m' hm' hid
    obtain ⟨c, hc, hmem⟩ := List.mem_flatMap.mp (hsub.subset hm')
    obtain ⟨j, hj, hj', hmid⟩ := candidate_draw hc hmem
    obtain ⟨i, hi, hi', hmid'⟩ := extra_draw hm
    exact absurd (hmid.symm.trans (hid.trans hmid'))
      (h.ne hj (lt_of_lt_of_le hj' hi) (lt_of_lt_of_le hi' hlast))
  case fresh =>
    intro m hm hdrawn
    obtain ⟨i, hi, hi', hmid⟩ := extra_draw hm
    obtain ⟨j, hj, hmid'⟩ := List.mem_map.mp hdrawn
    have hevidence : (o.assemblyInput rt ops n request d).evidenceResults = [] :=
      EvidenceSufficiencyEvaluator.getInsufficient_nil _
    have hlt : j < (o.assemblyInput rt ops n request d).duplicates.length := by
      simpa [hevidence] using hj
    have hlt : o.assemblyDraw rt ops n request d + j < o.lastDraw rt ops n request d :=
      Nat.add_lt_add_left hlt _
    exact h.ne (hn.trans hi) (by omega) hlt (hmid.symm.trans hmid'.symm)

/-- The outcomes of a run account for what it has assembled. -/
theorem outcomes_accountFor (hpos : 0 < o.matchThreshold)
    (h : o.DrawsDistinct rt ops n request d) :
    ReconciliationAssembler.AccountsFor o.matchThreshold (o.assemblyInput rt ops n request d)
      (o.outcomes rt ops n request d) :=
  ReconciliationAssembler.assemble_accountsFor hpos h.distinctIds

end Distinct
end ReconciliationOrchestrator

namespace ReconciliationAssembler

/-- With a positive threshold and distinct identifiers, an assembly accounts for its input and its
summary for the outcomes. With enough fuel a run ends with the outcomes of such an assembly, and makes
a case of each outcome that needs one. -/
theorem assemble_accounts (rt : Runtime) {matchThreshold : ℚ} (hpos : 0 < matchThreshold) (n : ℕ)
    (input : ReconciliationAssemblyInput) (h : DistinctIds rt n input) (tenantId : String)
    (planes : List PlaneType) (domains : List String) :
    AccountsFor matchThreshold input (assemble rt matchThreshold n input) ∧
      (ReconciliationOutcomeType.all.map fun t =>
          countOf t (assemble rt matchThreshold n input)).sum =
        (assemble rt matchThreshold n input).length ∧
      (summarize input (assemble rt matchThreshold n input) tenantId planes domains).AgreesWith
        (assemble rt matchThreshold n input) ∧
      ∀ (ops : ValueOps) (o : ReconciliationOrchestrator) (m : ℕ) (request : ReconciliationRequest)
        (fuel : ℕ),
        request.target.graphSliceRootIds.length + o.graph.repo.objects.keys.length < fuel →
        ∃ d result,
          ReconciliationOrchestrator.fetchGraphData fuel o.graph.repo request = some d ∧
          o.execute rt ops m request fuel = some result ∧
          result.outcomes = assemble rt o.matchThreshold (o.assemblyDraw rt ops m request d)
            (o.assemblyInput rt ops m request d) ∧
          (0 < o.matchThreshold → o.DrawsDistinct rt ops m request d →
            AccountsFor o.matchThreshold (o.assemblyInput rt ops m request d) result.outcomes) ∧
          result.CasesFollow := by
  refine ⟨assemble_accountsFor hpos h, sum_countOf _, summarize_agrees input _ tenantId planes
    domains, ?_⟩
  intro ops o m request fuel hfuel
  obtain ⟨d, hfetch⟩ := ReconciliationOrchestrator.fetchGraphData_returns hfuel
  exact ⟨d, o.reconcile rt ops m request d, hfetch,
    ReconciliationOrchestrator.execute_of_fetch rt ops m hfetch, rfl,
    fun hthreshold hdraws => o.outcomes_accountFor hthreshold hdraws,
    o.reconcile_casesFollow rt ops m request d⟩

/-- A bill and a report whose costs differ. -/
def costMismatch (id : String) : ReconciliationMismatch where
  category := .costConflict
  sourceObjectId := some "bill"
  targetObjectId := some "report"
  id := id

/-- A weak match, a second source without one, duplicates, a gap, an object without evidence, and
two mismatches of which the match shows the first. -/
def mixedInput : ReconciliationAssemblyInput where
  candidates := []
  rankings :=
    [{ sourceObjectId := "bill"
       rankedCandidates := [{
         sourceObjectId := "bill"
         targetObjectId := "report"
         sourcePlane := .commercial
         targetPlane := .field
         score := 1 / 2
         mismatches := [costMismatch "first"] }]
       topScore := 1 / 2
       isAmbiguous := false
       ambiguityGap := 0 },
     { sourceObjectId := "rate"
       rankedCandidates := []
       topScore := 0
       isAmbiguous := false
       ambiguityGap := 0 }]
  duplicates := [{ sourceObjectId := "bill", duplicateTargetIds := ["report", "visit"], scores := [] }]
  coverageResult :=
    { gaps := [{
        plane := .field
        expectedObjectKind := "work_order"
        expectedCount := 1
        actualCount := 0
        missingCount := 1
        description := "no work order" }]
      isFullyCovered := false }
  evidenceResults :=
    [{ objectId := "rate", isSufficient := false, missingEvidenceTypes := ["invoice"] }]
  mismatches := [costMismatch "first", costMismatch "second"]

theorem mixedInput_distinctIds : DistinctIds .reference 0 mixedInput where
  listed := by decide
  attached := by decide
  same := by decide
  fresh := by decide +kernel

theorem assemble_accounts_mixed :
    AccountsFor (7 / 10) mixedInput (assemble .reference (7 / 10) 0 mixedInput) ∧
      (ReconciliationOutcomeType.all.map fun t =>
          countOf t (assemble .reference (7 / 10) 0 mixedInput)).sum =
        (assemble .reference (7 / 10) 0 mixedInput).length ∧
      (summarize mixedInput (assemble .reference (7 / 10) 0 mixedInput) "north" [] []).AgreesWith
        (assemble .reference (7 / 10) 0 mixedInput) ∧
      ∀ (ops : ValueOps) (o : ReconciliationOrchestrator) (m : ℕ) (request : ReconciliationRequest)
        (fuel : ℕ),
        request.target.graphSliceRootIds.length + o.graph.repo.objects.keys.length < fuel →
        ∃ d result,
          ReconciliationOrchestrator.fetchGraphData fuel o.graph.repo request = some d ∧
          o.execute .reference ops m request fuel = some result ∧
          result.outcomes = assemble .reference o.matchThreshold
            (o.assemblyDraw .reference ops m request d)
            (o.assemblyInput .reference ops m request d) ∧
          (0 < o.matchThreshold → o.DrawsDistinct .reference ops m request d →
            AccountsFor o.matchThreshold (o.assemblyInput .reference ops m request d)
              result.outcomes) ∧
          result.CasesFollow :=
  assemble_accounts .reference (by norm_num) 0 mixedInput mixedInput_distinctIds "north" [] []

end ReconciliationAssembler
end ControlFabric.Fabric.Reconciliation
