import ControlFabric.Lib.Ranking
import ControlFabric.Lib.Run
import ControlFabric.Severity.Engine

/-! The ranking of a batch. Scores follow the factors, urgency follows the scores, and each input
has its result; but a repeated case is told by a digest over parts that are joined with a colon, so
that other parts with the same text in between are taken for it. -/
namespace ControlFabric.Severity
open Lib Py Method SeverityEngine

/-! ### Order -/

def RouteCategory.urgent : RouteCategory → ℕ
  | mustBlock => 3
  | requiresReview => 2
  | monitor => 1
  | suppress => 0

def OperatorUrgency.urgent : OperatorUrgency → ℕ
  | immediate => 3
  | sameDay => 2
  | thisWeek => 1
  | backlog => 0

/-- Each factor of the one input is at most that of the other. -/
structure Below (uc : Casing) (inp inp' : SeverityInput) : Prop where
  financialImpact : inp.financialImpact ≤ inp'.financialImpact
  affectedObjects : inp.affectedObjects ≤ inp'.affectedObjects
  severityRaw : level uc inp.severityRaw ≤ level uc inp'.severityRaw
  ruleCriticality : level uc inp.ruleCriticality ≤ level uc inp'.ruleCriticality

/-- Of these cases, one with a higher score is not less urgent. -/
def UrgencyFollows (s s' : ScoredCase) : Prop :=
  s.compositeScore ≤ s'.compositeScore →
    s.route.urgent ≤ s'.route.urgent ∧ s.urgency.urgent ≤ s'.urgency.urgent

section Order
variable {uc : Casing} {inp inp' : SeverityInput}

theorem financialFactor_mono (h : inp.financialImpact ≤ inp'.financialImpact) :
    financialFactor inp ≤ financialFactor inp' := by
  by_cases hpos : 0 < inp.financialImpact
  · rw [financialFactor, financialFactor, if_pos hpos, if_pos (hpos.trans_le h)]
    gcongr
  · rw [financialFactor, if_neg hpos]
    exact (financialFactor_mem inp').1

theorem objectsFactor_mono (h : inp.affectedObjects ≤ inp'.affectedObjects) :
    objectsFactor inp ≤ objectsFactor inp' := by
  unfold objectsFactor
  gcongr

theorem compositeScore_mono (h : Below uc inp inp') (weights : List SeverityWeight) :
    compositeScore uc inp weights ≤ compositeScore uc inp' weights := by
  have hraw := mul_le_mul_of_nonneg_right h.severityRaw (weightOf_nonneg weights "severity_raw")
  have hfinancial := mul_le_mul_of_nonneg_right (financialFactor_mono h.financialImpact)
    (weightOf_nonneg weights "financial_impact")
  have hobjects := mul_le_mul_of_nonneg_right (objectsFactor_mono h.affectedObjects)
    (weightOf_nonneg weights "affected_objects")
  have hrule := mul_le_mul_of_nonneg_right h.ruleCriticality
    (weightOf_nonneg weights "rule_criticality")
  apply Py.roundDigits_mono
  rw [composite_eq, composite_eq, reach, reach]
  linarith

theorem routeOf_urgent_mono {score score' : ℚ} (h : score ≤ score') :
    (routeOf score).urgent ≤ (routeOf score').urgent := by
  unfold routeOf
  split_ifs <;> first | decide | linarith

theorem urgencyOf_urgent_mono {score score' : ℚ} (h : score ≤ score') :
    (urgencyOf score).urgent ≤ (urgencyOf score').urgent := by
  unfold urgencyOf
  split_ifs <;> first | decide | linarith

/-- Route and urgency are those of the score. -/
structure ScoredCase.Routed (s : ScoredCase) : Prop where
  route : s.route = routeOf s.compositeScore
  urgency : s.urgency = urgencyOf s.compositeScore

theorem ScoredCase.Routed.urgencyFollows {s s' : ScoredCase} (h : s.Routed) (h' : s'.Routed) :
    UrgencyFollows s s' := by
  intro hle
  rw [h.route, h'.route, h.urgency, h'.urgency]
  exact ⟨routeOf_urgent_mono hle, urgencyOf_urgent_mono hle⟩

end Order

/-! ### Duplicates -/

section Duplicates
variable {κ : Type} (key : SeverityInput → κ)

/-- The input is marked, and an earlier marked one has the same key. -/
def Repeats (earlier : List SeverityInput) (inp : SeverityInput) : Prop :=
  inp.isDuplicate ∧ ∃ other ∈ earlier, other.isDuplicate ∧ key other = key inp

instance [DecidableEq κ] (earlier : List SeverityInput) (inp : SeverityInput) :
    Decidable (Repeats key earlier inp) := inferInstanceAs (Decidable (_ ∧ _))

/-- What makes two marked inputs the same. -/
def kind (inp : SeverityInput) : String × String × String :=
  (inp.caseType, inp.domainPack, inp.severityRaw)

variable (rt : Runtime)

/-- The input has the digest of an earlier marked one, but the kind of none. -/
def Mistaken (earlier : List SeverityInput) (inp : SeverityInput) : Prop :=
  Repeats (digest rt) earlier inp ∧ ¬ Repeats kind earlier inp

variable {rt}

theorem digest_eq {inp other : SeverityInput} (h : kind other = kind inp) :
    digest rt other = digest rt inp := by
  obtain ⟨htype, hrest⟩ := Prod.mk.inj h
  obtain ⟨hpack, hseverity⟩ := Prod.mk.inj hrest
  rw [digest, digest, htype, hpack, hseverity]

theorem Repeats.of_kind {earlier : List SeverityInput} {inp : SeverityInput}
    (h : Repeats kind earlier inp) : Repeats (digest rt) earlier inp := by
  obtain ⟨hmarked, other, hother, hmarked', hkind⟩ := h
  exact ⟨hmarked, other, hother, hmarked', digest_eq hkind⟩

end Duplicates

/-- The result of a duplicate. -/
def ScoredCase.IsSuppressed (s : ScoredCase) : Prop := s.scoringFactors = [("suppressed", 1)]

instance (s : ScoredCase) : Decidable s.IsSuppressed := inferInstanceAs (Decidable (_ = _))

/-- The results can be put in the order of the inputs, so that each is of the case of its input, and
suppressed exactly where the input repeats the kind of an earlier one. -/
def Accounted (earlier inputs : List SeverityInput) (results : List ScoredCase) : Prop :=
  ∃ each : List ScoredCase, each.Perm results ∧
    List.Forall₂ (fun p s => s.caseId = p.2.caseId ∧ (s.IsSuppressed ↔ Repeats kind p.1 p.2))
      (withEarlier earlier inputs) each

/-- One result for each input, from the highest score down, numbered from one. -/
structure Ranked (inputs : List SeverityInput) (results : List ScoredCase) : Prop where
  caseIds : (results.map ScoredCase.caseId).Perm (inputs.map SeverityInput.caseId)
  ordered : results.Pairwise fun s s' => s'.compositeScore ≤ s.compositeScore
  ranks : results.map ScoredCase.rank = List.range' 1 inputs.length
  urgency : ∀ s ∈ results, ∀ s' ∈ results, UrgencyFollows s s'

/-! ### Runs -/

def SeverityCall.batch : SeverityCall → List SeverityInput
  | score _ => []
  | scoreBatch inputs => inputs

/-- The inputs of all batches, in order. -/
def batched (calls : List SeverityCall) : List SeverityInput := calls.flatMap SeverityCall.batch

section Runs
variable {rt : Runtime} {uc : Casing} {inp : SeverityInput} {w : World SeverityEngine}
  {weights : List SeverityWeight} {history : List SeverityInput}

/-- The engine has its weights, and the digests of the marked inputs it was given. -/
structure Standing (rt : Runtime) (weights : List SeverityWeight) (history : List SeverityInput)
    (w : World SeverityEngine) : Prop where
  weights : w.self.weights = weights
  seen : ∀ d, d ∈ w.self.seenHashes ↔ ∃ other ∈ history, other.isDuplicate ∧ digest rt other = d

theorem Standing.run_isSuppressed (h : Standing rt weights history w) (inp : SeverityInput) :
    ∃ v, (isSuppressed rt inp).run w = .ok (decide (Repeats (digest rt) history inp)) v ∧
      Standing rt weights (history ++ [inp]) v := by
  obtain ⟨hweights, hseen⟩ := h
  unfold isSuppressed
  cases hmarked : inp.isDuplicate with
  | false => exact ⟨w, by simp [Repeats, hmarked], hweights, by simp [hseen, hmarked]⟩
  | true =>
    have hrepeats : Repeats (digest rt) history inp ↔ digest rt inp ∈ w.self.seenHashes := by
      rw [hseen, Repeats, and_iff_right hmarked]
    by_cases hold : digest rt inp ∈ w.self.seenHashes
    · refine ⟨w, by simp [isSeen, hrepeats, hold], hweights, fun d => ?_⟩
      simp only [hseen, List.mem_append, List.mem_singleton, or_and_right, exists_or,
        exists_eq_left, hmarked, true_and]
      refine ⟨Or.inl, Or.rec id ?_⟩
      rintro rfl
      exact (hseen _).mp hold
    · let v : World SeverityEngine :=
        { w with self := { w.self with seenHashes := w.self.seenHashes ++ [digest rt inp] } }
      refine ⟨v, by simp [isSeen, hrepeats, hold, v], hweights, fun d => ?_⟩
      simp only [v, hseen, List.mem_append, List.mem_singleton, or_and_right, exists_or,
        exists_eq_left, hmarked, true_and]
      exact or_congr_right eq_comm

theorem Standing.of_eq {w' : World SeverityEngine} (h : Standing rt weights history w)
    (hweights : w'.self.weights = w.self.weights) (hseen : w'.self.seenHashes = w.self.seenHashes) :
    Standing rt weights history w' := by
  refine ⟨hweights.trans h.weights, fun d => ?_⟩
  rw [hseen, h.seen]

/-- The result for an input after these: still without a rank. -/
structure ResultOf (rt : Runtime) (p : List SeverityInput × SeverityInput) (s : ScoredCase) :
    Prop where
  caseId : s.caseId = p.2.caseId
  suppressed : s.IsSuppressed ↔ Repeats (digest rt) p.1 p.2
  routed : s.Routed

theorem Standing.run_scoreOne (h : Standing rt weights history w) (hinp : Scorable uc inp weights) :
    ∃ s v, (scoreOne rt uc inp).run w = .ok s v ∧ ResultOf rt (history, inp) s ∧
      Standing rt weights (history ++ [inp]) v := by
  obtain ⟨v, hrun, hv⟩ := h.run_isSuppressed inp
  by_cases hrepeats : Repeats (digest rt) history inp
  · refine ⟨suppressed inp (rt.now v.env.draws), ⟨v.self, v.env.tick 1⟩, ?_,
      ⟨rfl, iff_of_true rfl hrepeats, ?_⟩, hv.of_eq rfl rfl⟩
    · rw [scoreOne, EStateM.run_bind, hrun]
      simp [hrepeats, Env.tick]
    · constructor <;> norm_num [suppressed, routeOf, urgencyOf]
  · obtain rfl := hv.weights
    obtain ⟨clusters, hscore⟩ := score_ok rt hinp
    refine ⟨scored uc inp v.self.weights (rt.now v.env.draws) hinp,
      ⟨{ v.self with clusters := clusters }, v.env.tick 1⟩, ?_,
      ⟨rfl, iff_of_false ?_ hrepeats, rfl, rfl⟩, hv.of_eq rfl rfl⟩
    · rw [scoreOne, EStateM.run_bind, hrun]
      simpa [hrepeats] using hscore
    · simp [ScoredCase.IsSuppressed, scored, factors]

theorem Standing.run_scoreEach {inputs : List SeverityInput} (h : Standing rt weights history w)
    (hinputs : ∀ inp ∈ inputs, Scorable uc inp weights) :
    ∃ each v, (scoreEach rt uc inputs).run w = .ok each v ∧
      List.Forall₂ (ResultOf rt) (withEarlier history inputs) each ∧
      Standing rt weights (history ++ inputs) v := by
  induction inputs generalizing history w with
  | nil => exact ⟨[], w, rfl, .nil, by rwa [List.append_nil]⟩
  | cons inp inputs ih =>
    obtain ⟨hinp, hinputs⟩ := List.forall_mem_cons.mp hinputs
    obtain ⟨s, v, hone, hresult, hv⟩ := h.run_scoreOne hinp
    obtain ⟨each, u, heach, hresults, hu⟩ := ih hv hinputs
    refine ⟨s :: each, u, ?_, .cons hresult hresults, by simpa using hu⟩
    simp [scoreEach, hone, heach]

/-! ### Batches -/

theorem ResultOf.rank {p : List SeverityInput × SeverityInput} {s : ScoredCase}
    (h : ResultOf rt p s) (rank : ℕ) : ResultOf rt p { s with rank := rank } :=
  ⟨h.caseId, h.suppressed, h.routed.route, h.routed.urgency⟩

section Numbered
variable (cases : List ScoredCase)

theorem numbered_forall₂ :
    List.Forall₂ (fun s s' => ∃ rank, s' = { s with rank := rank }) cases (numbered cases) := by
  rw [List.forall₂_iff_get]
  refine ⟨List.length_mapIdx.symm, fun i h _ => ⟨i + 1, ?_⟩⟩
  simp [numbered]

theorem map_compositeScore_numbered :
    (numbered cases).map ScoredCase.compositeScore = cases.map ScoredCase.compositeScore := by
  apply List.ext_getElem <;> simp [numbered]

theorem map_rank_numbered :
    (numbered cases).map ScoredCase.rank = List.range' 1 cases.length := by
  apply List.ext_getElem
  · simp [numbered]
  · intro i _ _
    simp [numbered, Nat.add_comm]

theorem numbered_ordered : (numbered (ranked ScoredCase.compositeScore cases)).Pairwise
    fun s s' => s'.compositeScore ≤ s.compositeScore := by
  have hordered := ranked_pairwise ScoredCase.compositeScore cases
  rw [← List.pairwise_map (f := ScoredCase.compositeScore) (R := fun a b => b ≤ a)] at hordered ⊢
  rwa [map_compositeScore_numbered]

end Numbered

/-- A batch of scorable inputs returns the results of its inputs, ordered and numbered. -/
theorem Standing.run_scoreBatch (h : Standing rt weights history w) {inputs : List SeverityInput}
    (hinputs : ∀ inp ∈ inputs, Scorable uc inp weights) :
    ∃ results v each, (scoreBatch rt uc inputs).run w = .ok results v ∧
      Standing rt weights (history ++ inputs) v ∧ each.Perm results ∧
      List.Forall₂ (ResultOf rt) (withEarlier history inputs) each ∧
      (results.Pairwise fun s s' => s'.compositeScore ≤ s.compositeScore) ∧
      results.map ScoredCase.rank = List.range' 1 inputs.length := by
  obtain ⟨found, v, hrun, hresults, hv⟩ := h.run_scoreEach hinputs
  have hranked := ranked_perm ScoredCase.compositeScore found
  obtain ⟨each, heach, hperm⟩ := exists_perm_of_forall₂ hranked.symm (numbered_forall₂ _)
  refine ⟨_, v, each, by simp [scoreBatch, hrun], hv, hperm, ?_, numbered_ordered found, ?_⟩
  · refine forall₂_comp ?_ hresults heach
    rintro p s _ hresult ⟨rank, rfl⟩
    exact hresult.rank rank
  · have hlength : found.length = inputs.length := by
      rw [← hresults.length_eq, ← List.length_map Prod.snd, map_snd_withEarlier]
    rw [map_rank_numbered, hranked.length_eq, hlength]

section Results
variable {inputs : List SeverityInput} {each results : List ScoredCase}
  (hresults : List.Forall₂ (ResultOf rt) (withEarlier history inputs) each)
  (hperm : each.Perm results)
include hresults hperm

theorem caseIds_perm : (results.map ScoredCase.caseId).Perm (inputs.map SeverityInput.caseId) := by
  have hids : List.Forall₂ (fun (p : List SeverityInput × SeverityInput) (s : ScoredCase) =>
      s.caseId = p.2.caseId) (withEarlier history inputs) each := hresults.imp fun _ _ h => h.caseId
  have hsame : each.map ScoredCase.caseId = inputs.map SeverityInput.caseId := by
    rw [← map_snd_withEarlier history inputs, List.map_map, eq_comm, ← List.forall₂_eq_eq_eq,
      List.forall₂_map_left_iff, List.forall₂_map_right_iff]
    exact hids.imp fun _ _ h => h.symm
  rw [← hsame]
  exact (hperm.map _).symm

theorem results_urgency : ∀ s ∈ results, ∀ s' ∈ results, UrgencyFollows s s' := by
  have hrouted : ∀ s ∈ each, s.Routed := forall_mem_of_forall₂ (fun _ _ h => h.routed) hresults
  intro s hs s' hs'
  exact (hrouted s (hperm.mem_iff.mpr hs)).urgencyFollows (hrouted s' (hperm.mem_iff.mpr hs'))

/-- The results account for the inputs unless one of these is mistaken for another: suppressed are
as many as have a known digest, and those are no more than repeat a kind. -/
theorem accounted_iff : Accounted history inputs results ↔
    ∀ p ∈ withEarlier history inputs, ¬ Mistaken rt p.1 p.2 := by
  constructor
  · rintro ⟨other, hother, hkinds⟩ p hp ⟨hdigest, hkind⟩
    have hrepeats := countP_of_forall₂ (hkinds.imp fun _ _ h => h.2)
    have hknown := countP_of_forall₂ (hresults.imp fun _ _ h => h.suppressed)
    have hcount := hrepeats.trans (((hother.trans hperm.symm).countP_eq _).trans hknown.symm)
    exact hkind ((countP_eq_iff fun _ _ => Repeats.of_kind).mp hcount p hp hdigest)
  · intro hnone
    refine ⟨each, hperm, ((List.forall₂_and_left _ _).mpr ⟨hnone, hresults⟩).imp ?_⟩
    rintro p s ⟨hp, hresult⟩
    refine ⟨hresult.caseId, hresult.suppressed.trans ⟨fun hdigest => ?_, Repeats.of_kind⟩⟩
    by_contra hkind
    exact hp ⟨hdigest, hkind⟩

end Results

/-- No batch with objects that are not fewer than none is refused, and each leaves its digests. -/
theorem standing_run (rt : Runtime) (uc : Casing) (env : Env)
    {given : Option (List SeverityWeight)}
    (hweights : ((new given).weights.map SeverityWeight.weight).sum ≤ 1)
    {calls : List SeverityCall} (hobjects : ∀ inp ∈ batched calls, 0 ≤ inp.affectedObjects) :
    Standing rt (new given).weights (batched calls)
      (run (severityStep rt uc) ⟨new given, env⟩ calls) := by
  induction calls using List.reverseRecOn with
  | nil => exact ⟨rfl, fun d => by simp [new, batched, run]⟩
  | append_singleton calls call ih =>
    have hbatched : batched (calls ++ [call]) = batched calls ++ call.batch := by simp [batched]
    rw [hbatched, List.forall_mem_append] at hobjects
    have hstanding := ih hobjects.1
    rw [run_concat, hbatched]
    cases call with
    | score inp =>
      obtain ⟨clusters, hafter⟩ := score_after rt uc inp
        (run (severityStep rt uc) ⟨new given, env⟩ calls)
      rw [severityStep, SeverityCall.perform, after_discard, hafter, SeverityCall.batch,
        List.append_nil]
      exact hstanding.of_eq rfl rfl
    | scoreBatch inputs =>
      have hscorable : ∀ inp ∈ inputs, Scorable uc inp (new given).weights :=
        fun inp hinp => Scorable.of_sum_le hweights (hobjects.2 inp hinp)
      obtain ⟨_, v, _, hrun, hv, -⟩ := hstanding.run_scoreBatch hscorable
      rw [severityStep, SeverityCall.perform, after_discard, after_ok hrun]
      exact hv

end Runs

/-- Scores of the engine follow the factors, and urgency follows the scores. -/
structure Orderly (rt : Runtime) (uc : Casing) (w : World SeverityEngine) : Prop where
  monotone : ∀ inp inp', 0 ≤ inp.affectedObjects → Below uc inp inp' →
    ∃ s v s' v', (score rt uc inp).run w = .ok s v ∧ (score rt uc inp').run w = .ok s' v' ∧
      s.compositeScore ≤ s'.compositeScore
  urgency : ∀ inp inp' s v s' v', (score rt uc inp).run w = .ok s v →
    (score rt uc inp').run w = .ok s' v' → UrgencyFollows s s'

theorem orderly (rt : Runtime) (uc : Casing) {w : World SeverityEngine}
    (hweights : (w.self.weights.map SeverityWeight.weight).sum ≤ 1) : Orderly rt uc w := by
  constructor
  · intro inp inp' hobjects hbelow
    have hrange : Scorable uc inp w.self.weights := Scorable.of_sum_le hweights hobjects
    have hrange' : Scorable uc inp' w.self.weights :=
      Scorable.of_sum_le hweights (hobjects.trans hbelow.affectedObjects)
    obtain ⟨_, hscore⟩ := score_ok rt hrange
    obtain ⟨_, hscore'⟩ := score_ok rt hrange'
    exact ⟨_, _, _, _, hscore, hscore', compositeScore_mono hbelow w.self.weights⟩
  · intro inp inp' s v s' v' h h'
    obtain ⟨hrange, rfl⟩ := score_returns rt h
    obtain ⟨hrange', rfl⟩ := score_returns rt h'
    exact ScoredCase.Routed.urgencyFollows ⟨rfl, rfl⟩ ⟨rfl, rfl⟩

/-- With weights of at most one together, after every history of scores and batches, scores are
orderly and the next batch is ranked; it suppresses what repeats an earlier case exactly when none
of its inputs is mistaken for another. -/
theorem scoreBatch_ranks_iff (rt : Runtime) (uc : Casing) (env : Env)
    (given : Option (List SeverityWeight))
    (hweights : ((new given).weights.map SeverityWeight.weight).sum ≤ 1)
    (calls : List SeverityCall) (inputs : List SeverityInput)
    (hobjects : ∀ inp ∈ batched calls ++ inputs, 0 ≤ inp.affectedObjects) :
    let w := run (severityStep rt uc) ⟨new given, env⟩ calls
    Orderly rt uc w ∧ ∃ results v, (scoreBatch rt uc inputs).run w = .ok results v ∧
      Ranked inputs results ∧
      (Accounted (batched calls) inputs results ↔
        ∀ p ∈ withEarlier (batched calls) inputs, ¬ Mistaken rt p.1 p.2) := by
  intro w
  obtain ⟨hbefore, hnow⟩ := List.forall_mem_append.mp hobjects
  have hstanding := standing_run rt uc env hweights hbefore
  have hscorable : ∀ inp ∈ inputs, Scorable uc inp (new given).weights :=
    fun inp hinp => Scorable.of_sum_le hweights (hnow inp hinp)
  obtain ⟨results, v, each, hrun, -, hperm, hresults, hordered, hranks⟩ :=
    hstanding.run_scoreBatch hscorable
  refine ⟨orderly rt uc (hstanding.weights ▸ hweights), results, v, hrun, ?_,
    accounted_iff hresults hperm⟩
  exact ⟨caseIds_perm hresults hperm, hordered, hranks, results_urgency hresults hperm⟩

/-- A case that is marked as a duplicate. -/
def markedCase (caseId caseType domainPack : String) : SeverityInput where
  caseId := caseId
  caseType := caseType
  domainPack := domainPack
  isDuplicate := true

/-- Two cases of one kind, in two batches. -/
def drift : SeverityInput := markedCase "case-1" "drift" "telco"

def driftAgain : SeverityInput := markedCase "case-2" "drift" "telco"

theorem scoreBatch_ranks_iff_drift :
    let w := run (severityStep .reference .ascii) ⟨new none, .initial "north"⟩ [.scoreBatch [drift]]
    Orderly .reference .ascii w ∧ ∃ results v,
      (scoreBatch .reference .ascii [driftAgain]).run w = .ok results v ∧
        Ranked [driftAgain] results ∧
        (Accounted (batched [.scoreBatch [drift]]) [driftAgain] results ↔
          ∀ p ∈ withEarlier (batched [.scoreBatch [drift]]) [driftAgain],
            ¬ Mistaken .reference p.1 p.2) :=
  scoreBatch_ranks_iff .reference .ascii (.initial "north") none (by norm_num [new, defaultWeights])
    [.scoreBatch [drift]] [driftAgain] (by decide)

/-- A colon in the case type, and one in the domain pack, make one key of two kinds. -/
def colonInType : SeverityInput := markedCase "case-1" "drift:north" "telco"

def colonInPack : SeverityInput := markedCase "case-2" "drift" "north:telco"

theorem colon_mistaken (rt : Runtime) : Mistaken rt [colonInType] colonInPack := by
  have hkey : "drift:north" ++ ":" ++ "telco" ++ ":" ++ "medium" =
      "drift" ++ ":" ++ "north:telco" ++ ":" ++ "medium" := by decide
  refine ⟨⟨rfl, colonInType, List.mem_singleton_self _, rfl, ?_⟩, by decide⟩
  exact congrArg (fun text => String.ofList ((rt.sha256 text).toList.take 16)) hkey

theorem other_kind_suppressed :
    ¬ ∀ (rt : Runtime) (uc : Casing) (env : Env) (given : Option (List SeverityWeight)),
      ((new given).weights.map SeverityWeight.weight).sum ≤ 1 →
      ∀ (calls : List SeverityCall) (inputs : List SeverityInput),
      (∀ inp ∈ batched calls ++ inputs, 0 ≤ inp.affectedObjects) →
      let w := run (severityStep rt uc) ⟨new given, env⟩ calls
      Orderly rt uc w ∧ ∃ results v, (scoreBatch rt uc inputs).run w = .ok results v ∧
        Ranked inputs results ∧ Accounted (batched calls) inputs results := by
  intro h
  have hweights : ((new none).weights.map SeverityWeight.weight).sum ≤ 1 := by
    norm_num [new, defaultWeights]
  have hstanding : Standing .reference (new none).weights (batched [])
      (run (severityStep .reference .ascii) ⟨new none, .initial "north"⟩ []) :=
    standing_run _ _ _ hweights (by decide)
  have hscorable : ∀ inp ∈ [colonInType, colonInPack], Scorable .ascii inp (new none).weights := by
    intro inp hinp
    exact Scorable.of_sum_le hweights ((by decide : ∀ inp ∈ [colonInType, colonInPack],
      0 ≤ inp.affectedObjects) inp hinp)
  obtain ⟨-, results, v, hrun, -, haccounted⟩ := h .reference .ascii (.initial "north") none hweights
    [] [colonInType, colonInPack] (by decide)
  obtain ⟨results', v', each, hrun', -, hperm, hresults, -⟩ := hstanding.run_scoreBatch hscorable
  have hsame : results = results' := by
    have hreturned := hrun.symm.trans hrun'
    injection hreturned
  subst hsame
  have hnone := (accounted_iff hresults hperm).mp haccounted
  exact hnone ([colonInType], colonInPack) (by simp [withEarlier, batched]) (colon_mistaken .reference)

end ControlFabric.Severity
