import ControlFabric.Lib.Reorder
import ControlFabric.Wave1.Marked

/-! How often a pair is compared: once for each link and direction that joins it or, where no pair
is linked, once for each key it shares. Nothing tells pairs seen before from new ones. -/
namespace ControlFabric.Fabric.Wave1
open Lib Py Method

section Spec
variable (repo : InMemoryGraphRepository) (tenantId : String) (sourcePlane targetPlane : PlaneType)
  (domain : String)

/-- The pairs that a reconciliation compares, in its order. -/
def comparedPairs : List (ControlObject × ControlObject) :=
  findCrossPlanePairs (repo.listObjects tenantId (some sourcePlane) (some domain) none none)
    (repo.listObjects tenantId (some targetPlane) (some domain) none none)
    (repo.getAllLinks tenantId)

/-- The link leads from one of the objects to the other, across planes. -/
def Joins (src tgt : ControlObject) (link : ControlLink) : Prop :=
  link.isCrossPlane ∧ link.sourceId = src.id ∧ link.targetId = tgt.id

instance (src tgt : ControlObject) (link : ControlLink) : Decidable (Joins src tgt link) :=
  inferInstanceAs (Decidable (_ ∧ _))

/-- How many links join the two objects, one way or the other. -/
def linkCount (src tgt : ControlObject) : ℕ :=
  (repo.getAllLinks tenantId).countP (fun link => Joins src tgt link) +
    (repo.getAllLinks tenantId).countP fun link => Joins tgt src link

/-- How many correlation keys the two objects have in common. -/
def keyCount (src tgt : ControlObject) : ℕ :=
  src.correlationKeys.countP fun key =>
    (tgt.correlationKeys.find? fun p => p.1 = key.1).map Prod.snd = some key.2

/-- No two of the objects are joined twice by links nor, where no two are linked, by keys. -/
structure JoinedOnce : Prop where
  links : ∀ src tgt, Selected repo tenantId domain sourcePlane src →
    Selected repo tenantId domain targetPlane tgt → linkCount repo tenantId src tgt ≤ 1
  keys : (∀ src tgt, Selected repo tenantId domain sourcePlane src →
      Selected repo tenantId domain targetPlane tgt → ¬ Linked repo tenantId src tgt) →
    ∀ src tgt, Selected repo tenantId domain sourcePlane src →
      Selected repo tenantId domain targetPlane tgt → keyCount src tgt ≤ 1

end Spec

/-- What the rule reports of the pair, where it returns. -/
def ReconciliationRule.reports (rule : ReconciliationRule) (src tgt : ControlObject) :
    List Mismatch := (rule.evaluate src tgt).toOption.getD []

/-- What a mismatch adds to the total. -/
def Mismatch.amount (m : Mismatch) : ℚ :=
  match m.financialImpact with
  | .bool b => if b then 1 else 0
  | .int n => n
  | .float q => q
  | _ => 0

def ReconciliationScore.countOf (score : ReconciliationScore) : MismatchSeverity → ℕ
  | .critical => score.criticalCount
  | .high => score.highCount
  | .medium => score.mediumCount
  | .low => score.lowCount
  | .info => score.infoCount

section Reported
variable (rules : List ReconciliationRule) (pairs : List (ControlObject × ControlObject))

/-- The sum of a measure of what each rule reports of each pair. -/
def overReports {M : Type} [AddMonoid M] (μ : List Mismatch → M) : M :=
  (pairs.map fun pair => (rules.map fun rule => μ (rule.reports pair.1 pair.2)).sum).sum

/-- The bundle holds what each rule reports of each of the pairs, and the figures add it up. -/
structure Reports (result : ReconciliationResult) : Prop where
  mismatches : result.evidenceBundle.mismatches =
    pairs.flatMap fun pair => rules.flatMap fun rule => rule.reports pair.1 pair.2
  mismatchCount : result.score.mismatchCount = overReports rules pairs List.length
  countOf : ∀ severity, result.score.countOf severity =
    overReports rules pairs (List.countP fun m => m.severity = severity)
  financialImpactTotal : result.score.financialImpactTotal =
    roundDigits (overReports rules pairs fun ms => (ms.map Mismatch.amount).sum) 2

end Reported

/-! ### How often a pair is listed -/

section Counts
variable {sourceObjects targetObjects : List ControlObject} {src tgt : ControlObject}

theorem nodup_pairOf (sourceId targetId : String) :
    (pairOf sourceObjects targetObjects sourceId targetId).Nodup := by
  unfold pairOf
  split
  · exact List.nodup_singleton _
  · exact List.nodup_nil

variable [DecidableEq ControlObject] (hsources : (sourceObjects.map ControlObject.id).Nodup)
  (htargets : (targetObjects.map ControlObject.id).Nodup) (hsrc : src ∈ sourceObjects)
  (htgt : tgt ∈ targetObjects)
include hsources htargets hsrc htgt

/-- A link lists the pair once for each way it joins it. -/
theorem count_linkPairs (links : List ControlLink) :
    (links.flatMap (linkPairs sourceObjects targetObjects)).count (src, tgt) =
      links.countP (fun link => Joins src tgt link) +
        links.countP fun link => Joins tgt src link := by
  have hpair (sourceId targetId : String) :
      (pairOf sourceObjects targetObjects sourceId targetId).count (src, tgt) =
        if src.id = sourceId ∧ tgt.id = targetId then 1 else 0 := by
    rw [(nodup_pairOf sourceId targetId).count]
    simp only [mem_pairOf (keyed_of_nodup hsources) (keyed_of_nodup htargets), hsrc, htgt, true_and]
  induction links with
  | nil => rfl
  | cons link links ih =>
    rw [List.flatMap_cons, List.count_append, ih, List.countP_cons, List.countP_cons]
    have hlink : (linkPairs sourceObjects targetObjects link).count (src, tgt) =
        (if Joins src tgt link then 1 else 0) + if Joins tgt src link then 1 else 0 := by
      unfold linkPairs Joins
      by_cases hcross : link.isCrossPlane
      · rw [if_neg (not_not.mpr hcross), List.count_append, hpair, hpair]
        simp only [hcross, true_and, eq_comm (a := src.id), eq_comm (a := tgt.id),
          and_comm (a := link.targetId = src.id)]
      · simp [hcross]
    rw [hlink]
    simp only [decide_eq_true_iff]
    omega

/-- The keys list the pair once for each they have in common. -/
theorem count_correlationPairs :
    (correlationPairs sourceObjects targetObjects).count (src, tgt) = keyCount src tgt := by
  have htgtOnce : targetObjects.Nodup := htargets.of_map _
  have hinjective : Function.Injective fun t : ControlObject => (src, t) :=
    fun _ _ h => (Prod.mk.inj h).2
  unfold correlationPairs keyCount
  rw [count_flatMap_of_nodup (hsources.of_map _) hsrc]
  · refine count_flatMap_eq_countP fun key _ => ?_
    rw [((htgtOnce.filter _).map hinjective).count]
    refine if_congr ?_ rfl rfl
    rw [List.mem_map_of_injective hinjective, List.mem_filter]
    exact and_iff_right htgt
  · intro obj _ hne hmem
    obtain ⟨key, -, hmem⟩ := List.mem_flatMap.mp hmem
    obtain ⟨t, -, ht⟩ := List.mem_map.mp hmem
    exact hne (Prod.mk.inj ht).1

omit hsrc htgt hsources htargets

/-- Pairs of listed objects are different when none of them is listed twice. -/
theorem nodup_pairs_iff {pairs : List (ControlObject × ControlObject)}
    (hpairs : ∀ pair ∈ pairs, pair.1 ∈ sourceObjects ∧ pair.2 ∈ targetObjects) :
    pairs.Nodup ↔ ∀ src ∈ sourceObjects, ∀ tgt ∈ targetObjects, pairs.count (src, tgt) ≤ 1 := by
  rw [List.nodup_iff_count_le_one]
  constructor
  · exact fun h src _ tgt _ => h (src, tgt)
  · rintro h ⟨src, tgt⟩
    by_cases hmem : (src, tgt) ∈ pairs
    · exact h src (hpairs _ hmem).1 tgt (hpairs _ hmem).2
    · rw [List.count_eq_zero.mpr hmem]
      exact Nat.zero_le 1

include hsources htargets

/-- The pairs are different when no pair is listed twice by links nor, where links list none, by
keys. -/
theorem nodup_findCrossPlanePairs_iff (links : List ControlLink) :
    (findCrossPlanePairs sourceObjects targetObjects links).Nodup ↔
      (∀ src ∈ sourceObjects, ∀ tgt ∈ targetObjects,
        links.countP (fun link => Joins src tgt link) +
          links.countP (fun link => Joins tgt src link) ≤ 1) ∧
      ((∀ src ∈ sourceObjects, ∀ tgt ∈ targetObjects,
          links.countP (fun link => Joins src tgt link) +
            links.countP (fun link => Joins tgt src link) = 0) →
        ∀ src ∈ sourceObjects, ∀ tgt ∈ targetObjects, keyCount src tgt ≤ 1) := by
  have hlinked : ∀ pair ∈ links.flatMap (linkPairs sourceObjects targetObjects),
      pair.1 ∈ sourceObjects ∧ pair.2 ∈ targetObjects := by
    intro pair hpair
    obtain ⟨link, -, hpair⟩ := List.mem_flatMap.mp hpair
    exact ((mem_linkPairs (keyed_of_nodup hsources) (keyed_of_nodup htargets)).mp hpair).1
  unfold findCrossPlanePairs
  dsimp only
  split
  next hnone =>
    have hcount (src) (hsrc : src ∈ sourceObjects) (tgt) (htgt : tgt ∈ targetObjects) :
        links.countP (fun link => Joins src tgt link) +
          links.countP (fun link => Joins tgt src link) = 0 := by
      rw [← count_linkPairs hsources htargets hsrc htgt, hnone, List.count_nil]
    rw [nodup_pairs_iff fun pair hpair => (mem_correlationPairs.mp hpair).1]
    constructor
    · refine fun h => ⟨fun src hsrc tgt htgt => (hcount src hsrc tgt htgt).le.trans zero_le_one,
        fun _ src hsrc tgt htgt => ?_⟩
      rw [← count_correlationPairs hsources htargets hsrc htgt]
      exact h src hsrc tgt htgt
    · intro h src hsrc tgt htgt
      rw [count_correlationPairs hsources htargets hsrc htgt]
      exact h.2 hcount src hsrc tgt htgt
  next hsome =>
    rw [nodup_pairs_iff hlinked]
    constructor
    · refine fun h => ⟨fun src hsrc tgt htgt => ?_, fun hzero => ?_⟩
      · rw [← count_linkPairs hsources htargets hsrc htgt]
        exact h src hsrc tgt htgt
      · obtain ⟨⟨src, tgt⟩, hpair⟩ := List.exists_mem_of_ne_nil _ hsome
        obtain ⟨hsrc, htgt⟩ := hlinked _ hpair
        have hlisted := List.count_pos_iff.mpr hpair
        rw [count_linkPairs hsources htargets hsrc htgt, hzero src hsrc tgt htgt] at hlisted
        exact absurd hlisted (lt_irrefl 0)
    · intro h src hsrc tgt htgt
      rw [count_linkPairs hsources htargets hsrc htgt]
      exact h.1 src hsrc tgt htgt

end Counts

variable {repo : InMemoryGraphRepository} {rules : List ReconciliationRule} {tenantId : String}
  {sourcePlane targetPlane : PlaneType} {domain : String}

theorem linkCount_eq_zero {src tgt : ControlObject} :
    linkCount repo tenantId src tgt = 0 ↔ ¬ Linked repo tenantId src tgt := by
  unfold linkCount Linked
  rw [Nat.add_eq_zero_iff, List.countP_eq_zero, List.countP_eq_zero]
  simp only [decide_eq_true_iff]
  constructor
  · rintro ⟨hforth, hback⟩ ⟨link, hlink, hcross, ⟨hsource, htarget⟩ | ⟨htarget, hsource⟩⟩
    · exact hforth link hlink ⟨hcross, hsource, htarget⟩
    · exact hback link hlink ⟨hcross, hsource, htarget⟩
  · intro h
    refine ⟨fun link hlink hjoins => h ⟨link, hlink, hjoins.1, Or.inl hjoins.2⟩,
      fun link hlink hjoins => h ⟨link, hlink, hjoins.1, Or.inr hjoins.2.symm⟩⟩

theorem nodup_comparedPairs_iff (hfiled : repo.Filed) :
    (comparedPairs repo tenantId sourcePlane targetPlane domain).Nodup ↔
      JoinedOnce repo tenantId sourcePlane targetPlane domain := by
  classical
  unfold comparedPairs
  rw [nodup_findCrossPlanePairs_iff (nodup_listObjects_ids hfiled sourcePlane)
    (nodup_listObjects_ids hfiled targetPlane)]
  simp only [mem_listObjects hfiled]
  constructor
  · rintro ⟨hlinks, hkeys⟩
    refine ⟨fun src tgt hsrc htgt => hlinks src hsrc tgt htgt,
      fun hnone src tgt hsrc htgt => hkeys (fun src hsrc tgt htgt => ?_) src hsrc tgt htgt⟩
    exact linkCount_eq_zero.mpr (hnone src tgt hsrc htgt)
  · intro h
    refine ⟨fun src hsrc tgt htgt => h.links src tgt hsrc htgt,
      fun hzero src hsrc tgt htgt => h.keys (fun src tgt hsrc htgt => ?_) src tgt hsrc htgt⟩
    exact linkCount_eq_zero.mp (hzero src hsrc tgt htgt)

/-! ### What is reported -/

section Sums
variable {pairs : List (ControlObject × ControlObject)}

theorem additive_flatMap {α β M : Type} [AddMonoid M] {μ : List β → M} (hnil : μ [] = 0)
    (happend : ∀ a b, μ (a ++ b) = μ a + μ b) (f : α → List β) (l : List α) :
    μ (l.flatMap f) = (l.map fun a => μ (f a)).sum := by
  induction l with
  | nil => exact hnil
  | cons a l ih => rw [List.flatMap_cons, happend, ih, List.map_cons, List.sum_cons]

theorem additive_reports {M : Type} [AddMonoid M] {μ : List Mismatch → M} (hnil : μ [] = 0)
    (happend : ∀ a b, μ (a ++ b) = μ a + μ b) (rules : List ReconciliationRule)
    (pairs : List (ControlObject × ControlObject)) :
    μ (pairs.flatMap fun pair => rules.flatMap fun rule => rule.reports pair.1 pair.2) =
      overReports rules pairs μ := by
  rw [additive_flatMap hnil happend]
  simp only [additive_flatMap hnil happend, overReports]

theorem ReconciliationEngine.reconcilePair_reports {src tgt : ControlObject}
    {found : List Mismatch} (h : reconcilePair rules src tgt = .ok found) :
    found = rules.flatMap fun rule => rule.reports src tgt := by
  induction rules generalizing found with
  | nil => exact (Except.ok.inj h).symm
  | cons rule rules ih =>
    rw [reconcilePair] at h
    cases hrule : rule.evaluate src tgt with
    | error e =>
      rw [hrule] at h
      cases h
    | ok ms =>
      cases hrules : reconcilePair rules src tgt with
      | error e =>
        rw [hrule, hrules] at h
        cases h
      | ok others =>
        rw [hrule, hrules] at h
        obtain rfl : ms ++ others = found := Except.ok.inj h
        rw [List.flatMap_cons, ← ih hrules, ReconciliationRule.reports, hrule]
        rfl

theorem ReconciliationEngine.reconcilePairs_reports {found : List Mismatch}
    (h : reconcilePairs rules pairs = .ok found) :
    found = pairs.flatMap fun pair => rules.flatMap fun rule => rule.reports pair.1 pair.2 := by
  induction pairs generalizing found with
  | nil => exact (Except.ok.inj h).symm
  | cons pair pairs ih =>
    rw [reconcilePairs] at h
    cases hpair : reconcilePair rules pair.1 pair.2 with
    | error e =>
      rw [hpair] at h
      cases h
    | ok ms =>
      cases hpairs : reconcilePairs rules pairs with
      | error e =>
        rw [hpair, hpairs] at h
        cases h
      | ok others =>
        rw [hpair, hpairs] at h
        obtain rfl : ms ++ others = found := Except.ok.inj h
        rw [List.flatMap_cons, ← ih hpairs, ← reconcilePair_reports hpair]

theorem financialTotal_cons {m : Mismatch} (hnumeric : Numeric m.financialImpact) (total : ℚ)
    (mismatches : List Mismatch) :
    financialTotal total (m :: mismatches) = financialTotal (total + m.amount) mismatches := by
  revert hnumeric
  rw [financialTotal, Mismatch.amount]
  cases m.financialImpact with
  | bool b => exact fun _ => rfl
  | int n => exact fun _ => rfl
  | float q => exact fun _ => rfl
  | _ => exact False.elim

theorem financialTotal_eq {mismatches : List Mismatch} {start total : ℚ}
    (h : financialTotal start mismatches = .ok total) :
    total = start + (mismatches.map Mismatch.amount).sum := by
  induction mismatches generalizing start with
  | nil =>
    rw [List.map_nil, List.sum_nil, add_zero]
    exact (Except.ok.inj h).symm
  | cons m mismatches ih =>
    have hnumeric := (financialTotal_ok start).mp ⟨total, h⟩ m List.mem_cons_self
    rw [financialTotal_cons hnumeric] at h
    rw [ih h, List.map_cons, List.sum_cons, add_assoc]

theorem roundDigits_zero (digits : ℕ) : roundDigits 0 digits = 0 := by
  have hfloor : (0 : ℚ).floor = 0 := rfl
  simp [roundDigits, roundHalfEven, hfloor]

theorem scoreMismatches_eq {mismatches : List Mismatch} {score : ReconciliationScore}
    (h : scoreMismatches mismatches = .ok score) :
    score.mismatchCount = mismatches.length ∧
      (∀ severity, score.countOf severity =
        mismatches.countP fun m => m.severity = severity) ∧
      score.financialImpactTotal = roundDigits (mismatches.map Mismatch.amount).sum 2 := by
  unfold scoreMismatches at h
  split at h
  next hnone =>
    obtain rfl := Except.ok.inj h
    subst hnone
    refine ⟨rfl, fun severity => ?_, (roundDigits_zero 2).symm⟩
    cases severity <;> rfl
  next =>
    cases htotal : financialTotal 0 mismatches with
    | error e =>
      rw [htotal] at h
      cases h
    | ok total =>
      rw [htotal] at h
      obtain rfl := Except.ok.inj h
      have hsum := financialTotal_eq htotal
      rw [zero_add] at hsum
      refine ⟨rfl, fun severity => ?_, by rw [hsum]⟩
      cases severity <;> rfl

end Sums

section Reconcile
variable {rt : Runtime} {engine : ReconciliationEngine} {env : Env}

theorem overReports_bundle {pairs : List (ControlObject × ControlObject)}
    {result : ReconciliationResult}
    (hpairs : ReconciliationEngine.reconcilePairs rules pairs =
      .ok result.evidenceBundle.mismatches)
    (hscore : scoreMismatches result.evidenceBundle.mismatches = .ok result.score) :
    Reports rules pairs result := by
  have hmismatches := ReconciliationEngine.reconcilePairs_reports hpairs
  obtain ⟨hcount, hseverity, htotal⟩ := scoreMismatches_eq hscore
  rw [hmismatches] at hcount hseverity htotal
  refine ⟨hmismatches, ?_, fun severity => ?_, ?_⟩
  · rw [hcount, additive_reports rfl (fun _ _ => List.length_append)]
  · rw [hseverity, additive_reports rfl (fun _ _ => List.countP_append)]
  · rw [htotal, additive_reports (μ := fun ms : List Mismatch => (ms.map Mismatch.amount).sum) rfl
      (fun a b => by rw [List.map_append, List.sum_append])]

/-- What a reconciliation that returns has compared and scored. -/
theorem reconcileCrossPlane_reports {result : ReconciliationResult}
    {w' : World ReconciliationEngine}
    (h : (ReconciliationEngine.reconcileCrossPlane rt tenantId sourcePlane targetPlane domain).run
      ⟨engine, env⟩ = .ok result w') :
    Reports engine.rules
      (comparedPairs engine.graph.repo tenantId sourcePlane targetPlane domain) result := by
  unfold ReconciliationEngine.reconcileCrossPlane at h
  obtain ⟨_, _, hself, h⟩ := bind_ok.mp h
  obtain ⟨rfl, rfl⟩ := EStateM.Result.ok.inj hself
  obtain ⟨mismatches, _, hlifted, h⟩ := bind_ok.mp h
  obtain ⟨hpairs, rfl⟩ := lift_ok.mp hlifted
  obtain ⟨score, _, hlifted, h⟩ := bind_ok.mp h
  obtain ⟨hscore, rfl⟩ := lift_ok.mp hlifted
  obtain ⟨n, _, -, h⟩ := bind_ok.mp h
  obtain ⟨_, _, -, h⟩ := bind_ok.mp h
  obtain ⟨rfl, -⟩ := EStateM.Result.ok.inj h
  exact overReports_bundle hpairs hscore

end Reconcile

/-- On every graph the pairs of a reconciliation are different, and each rule's mismatches of each
compared pair are reported and counted once, exactly when no two objects are joined twice. -/
theorem reconcile_pairs_once_iff (rt : Runtime) (graph : GraphService) (ops : List RepositoryOp)
    (rules : List ReconciliationRule) (env : Env) (tenantId : String)
    (sourcePlane targetPlane : PlaneType) (domain : String) :
    let repo := repositoryOf ops
    ((comparedPairs repo tenantId sourcePlane targetPlane domain).Nodup ∧
      ∀ result w', (ReconciliationEngine.reconcileCrossPlane rt tenantId sourcePlane targetPlane
          domain).run ⟨⟨{ graph with repo := repo }, rules⟩, env⟩ = .ok result w' →
        ∃ pairs : List (ControlObject × ControlObject), pairs.Nodup ∧
          (∀ src tgt, (src, tgt) ∈ pairs ↔
            Compared repo tenantId sourcePlane targetPlane domain src tgt) ∧
          Reports rules pairs result) ↔
      JoinedOnce repo tenantId sourcePlane targetPlane domain := by
  intro repo
  have hfiled : repo.Filed := InMemoryGraphRepository.filed_repositoryOf ops
  rw [← nodup_comparedPairs_iff hfiled]
  refine and_iff_left_of_imp fun hnodup result w' hrun => ?_
  exact ⟨_, hnodup, fun src tgt => mem_findCrossPlanePairs hfiled, reconcileCrossPlane_reports hrun⟩

def obligationUnmetRule : ReconciliationRule where
  ruleId := "obligation_unmet"
  evaluate source target :=
    match Json.field source.payload "obligation_status" with
    | some (.str "unmet") => .ok
      [{ category := .obligationUnmet
         severity := .high
         sourceObjectId := source.id
         targetObjectId := target.id
         sourcePlane := source.plane
         targetPlane := target.plane
         description := s!"Obligation '{source.label}' is unmet with no " ++
           s!"fulfillment from '{target.label}'"
         ruleId := some "obligation_unmet" }]
    | _ => .ok []

/-- An unmet duty and a visit, joined by two links. -/
def dutyTwice : List RepositoryOp :=
  let link (id : String) (linkType : ControlLinkType) : ControlLink :=
    { plainLink id "duty" "visit" linkType with
      sourcePlane := some .commercial
      targetPlane := some .field }
  [.storeObject { plainObject "duty" "north" .commercial with
      payload := [("obligation_status", .str "unmet")] },
    .storeObject (plainObject "visit" "north" .field),
    .storeLink (link "l1" .impacts), .storeLink (link "l2" .derivesFrom)]

/-- The one unmet obligation is compared, reported and counted twice. -/
theorem reconcile_counts_twice :
    let graph : GraphService := .new ⟨none⟩ (fun _ _ => ⟨true, 0, 0⟩) []
    let engine : ReconciliationEngine :=
      ⟨{ graph with repo := repositoryOf dutyTwice }, [obligationUnmetRule]⟩
    ¬ (comparedPairs engine.graph.repo "north" .commercial .field "grid").Nodup ∧
      ∃ result w', (ReconciliationEngine.reconcileCrossPlane .reference "north" .commercial .field
          "grid").run ⟨engine, .initial "north"⟩ = .ok result w' ∧
        result.evidenceBundle.mismatches.length = 2 ∧ result.score.mismatchCount = 2 ∧
        result.score.highCount = 2 := by
  intro graph engine
  let pair : ControlObject × ControlObject :=
    ({ plainObject "duty" "north" .commercial with
      payload := [("obligation_status", .str "unmet")] }, plainObject "visit" "north" .field)
  have hpairs : comparedPairs engine.graph.repo "north" .commercial .field "grid" =
      [pair, pair] := rfl
  constructor
  · rw [hpairs]
    simp
  · exact ⟨_, _, rfl, rfl, rfl, rfl⟩

end ControlFabric.Fabric.Wave1
