import ControlFabric.Metering.Billing
import ControlFabric.CrossPlane.Engine
import ControlFabric.Exceptions.Manager

/-! The health score of a tenant. The cases, the gate and the exceptions that it looks at are made
anew for each score and hold nothing; what is left is the metered usage, which only grows as long as no
negative quantity is recorded. -/
namespace ControlFabric.Metering
open Lib Py CrossPlane
open Exceptions (ExceptionManager)
open Fabric.Reconciliation (ValueOps)

structure HealthScoreComponent where
  name : String
  score : ℚ
  maxPoints : ℚ
  detail : String
  status : String

structure TenantHealthScore where
  tenantId : String
  overallScore : ℚ
  grade : String
  riskLevel : String
  components : List HealthScoreComponent
  recommendations : List String
  previousScore : Option ℚ
  scoreDelta7d : Option ℚ

def TenantHealthScore.trend (score : TenantHealthScore) : String :=
  match score.scoreDelta7d with
  | none => "unknown"
  | some delta => if 5 < delta then "improving" else if delta < -5 then "declining" else "stable"

/-- The scorer with the metering engine that it looks at. -/
structure CustomerHealthScorer where
  history : Dict String (List ℚ)
  meteringEngine : MeteringEngine

namespace CustomerHealthScorer

def start : CustomerHealthScorer := ⟨Dict.empty, .new⟩

def gradeThresholds : List (ℚ × String) := [(90, "A"), (75, "B"), (60, "C"), (40, "D"), (0, "F")]

def riskThresholds : List (ℚ × String) := [(70, "healthy"), (50, "at_risk"), (0, "churn_risk")]

/-- The first label whose threshold is reached; no score is below the last one. -/
def labelOf (thresholds : List (ℚ × String)) (total : ℚ) : String :=
  ((thresholds.find? fun t => t.1 ≤ total).map Prod.snd).getD ""

section Components
variable (ops : ValueOps) (engine : MeteringEngine) (tenantId : String)

def scoreUserEngagement : HealthScoreComponent :=
  let totalActions := (engine.countersOf tenantId).values.sum
  let gateSubs := engine.getUsage tenantId "gate_submission"
  let reconRuns := engine.getUsage tenantId "reconciliation_run"
  let (score, detail) : ℚ × String :=
    if 20 ≤ gateSubs ∨ 5 ≤ reconRuns then
      (20, s!"High engagement: {gateSubs} gate submissions, {reconRuns} reconciliation runs")
    else if 5 ≤ gateSubs ∨ 2 ≤ reconRuns then
      (14, s!"Moderate engagement: {gateSubs} submissions, {reconRuns} runs")
    else if 0 < totalActions then (8, s!"Low engagement: {totalActions} total platform actions")
    else (3, "No platform activity recorded yet")
  { name := "User engagement"
    score := score
    maxPoints := 20
    detail := detail
    status := if 14 ≤ score then "healthy" else if 8 ≤ score then "warning" else "critical" }

def scoreCaseResolution (e : CrossPlaneReconciliationEngine) : HealthScoreComponent :=
  let openCases := e.getOpenCases
  let criticalOpen := openCases.filter fun c => c.severity = .critical
  let (score, detail) : ℚ × String :=
    if openCases = [] then (25, "No open cases — all governance issues resolved")
    else if criticalOpen = [] ∧ openCases.length < 5 then
      (20, s!"{openCases.length} open cases, none critical — actively managed")
    else if criticalOpen = [] then
      (15, s!"{openCases.length} open cases — no critical issues, review backlog")
    else if criticalOpen.length ≤ 2 then
      (10, s!"{criticalOpen.length} critical cases open — needs immediate attention")
    else (4, s!"{criticalOpen.length} critical cases open — governance posture at risk")
  { name := "Case resolution"
    score := score
    maxPoints := 25
    detail := detail
    status := if 20 ≤ score then "healthy" else if 12 ≤ score then "warning" else "critical" }

/-- The rates are quotients of counts, which rounding moves over no bound. -/
def scoreEvidenceCompleteness (gate : PlatformActionReleaseGate) : HealthScoreComponent :=
  let total := gate.auditLog.length
  let dispatched := gate.auditLog.countP fun r => r.status = .dispatched
  let passRate : ℚ := dispatched / total
  let percent := roundHalfEven (ops.round (passRate * 100))
  let (score, detail, status) : ℚ × String × String :=
    if total = 0 then (10, "No gate submissions yet — platform not yet in active use", "warning")
    else if 85 / 100 ≤ passRate then
      (20, s!"{percent}% of submissions have complete evidence chains", "healthy")
    else if 65 / 100 ≤ passRate then
      (14, s!"{percent}% pass rate — review evidence requirements", "warning")
    else (7, s!"Only {percent}% pass rate — evidence model may be misconfigured", "critical")
  { name := "Evidence completeness"
    score := score
    maxPoints := 20
    detail := detail
    status := status }

def scoreOverrideFrequency (mgr : ExceptionManager) : HealthScoreComponent :=
  let total := mgr.requests.keys.length
  let gateSubs := ((engine.countersOf tenantId).get? "gate_submission").getD 1
  let overrideRate : ℚ := total / max gateSubs 1
  let percent := ops.str (.float (roundDigits (ops.round (overrideRate * 100)) 1))
  let (score, detail, status) : ℚ × String × String :=
    if overrideRate < 2 / 100 then
      (15, s!"Excellent: override rate {percent}% — policies well-calibrated", "healthy")
    else if overrideRate < 5 / 100 then
      (11, s!"Good: override rate {percent}% — minor tuning may help", "healthy")
    else if overrideRate < 10 / 100 then
      (7, s!"Elevated: override rate {percent}% — review policy strictness", "warning")
    else (3, s!"High override rate {percent}% — policies may be too restrictive", "critical")
  { name := "Override frequency"
    score := score
    maxPoints := 15
    detail := detail
    status := status }

/-- The number of types of which something has been metered. -/
def featuresUsed : ℕ := (engine.countersOf tenantId).values.countP fun count => 0 < count

def scoreUsageDepth : HealthScoreComponent :=
  let features := featuresUsed engine tenantId
  let (score, detail, status) : ℚ × String × String :=
    if 7 ≤ features then
      (20, s!"{features}/10 platform capabilities in active use — deep adoption", "healthy")
    else if 4 ≤ features then
      (14, s!"{features}/10 capabilities used — good initial adoption", "healthy")
    else if 2 ≤ features then
      (8, s!"{features}/10 capabilities used — room to expand usage", "warning")
    else (3, "Minimal platform features in use — onboarding may need support", "critical")
  { name := "Usage depth"
    score := score
    maxPoints := 20
    detail := detail
    status := status }

def components : List HealthScoreComponent :=
  [scoreUserEngagement engine tenantId, scoreCaseResolution (.new ControlGraphStore.new none),
    scoreEvidenceCompleteness ops (.new none none),
    scoreOverrideFrequency ops engine tenantId (.new none), scoreUsageDepth engine tenantId]

def total : ℚ := ((components ops engine tenantId).map HealthScoreComponent.score).sum

/-- What is recommended for a critical component. -/
def recommendation (name : String) : Option String :=
  [("Case resolution", "Assign owners to all open CRITICAL cases immediately" ++
      " — use the Case Queue bulk assign feature"),
    ("Evidence completeness", "Review evidence requirements" ++
      " — POST /defaults/apply to reset to platform defaults"),
    ("User engagement", "Schedule a platform walkthrough with the team" ++
      " — share the 9-step journey guide"),
    ("Override frequency", "Review and relax overly restrictive policies" ++
      " — use POST /policies/\x7bid\x7d/simulate before publishing changes"),
    ("Usage depth",
      "Expand to additional platform capabilities — install a second domain pack")].lookup name

def generateRecommendations (components : List HealthScoreComponent) (total : ℚ) : List String :=
  let recs :=
    (components.filter fun c => c.status = "critical").filterMap (recommendation ·.name) ++
    if total < 60 then
      ["Consider scheduling a CSM call to review platform configuration and usage patterns"]
    else []
  if recs = [] then
    ["Platform health is good — focus on expanding governance" ++
      " coverage to additional teams or environments"]
  else recs

end Components

variable (ops : ValueOps)

/-- The scores kept of a tenant, with one more and the oldest of more than 90 dropped. -/
def remember (history : List ℚ) (total : ℚ) : List ℚ :=
  if 90 < (history ++ [total]).length then (history ++ [total]).tail else history ++ [total]

def scoreTenant (tenantId : String) (s : CustomerHealthScorer) :
    TenantHealthScore × CustomerHealthScorer :=
  let engine := s.meteringEngine.lookUp tenantId
  let components := components ops engine tenantId
  let total := total ops engine tenantId
  let history := s.history.getD tenantId []
  let prev7d := if 7 ≤ history.length then history[history.length - 7]? else none
  let score : TenantHealthScore := {
    tenantId := tenantId
    overallScore := roundDigits total 1
    grade := labelOf gradeThresholds total
    riskLevel := labelOf riskThresholds total
    components := components
    recommendations := generateRecommendations components total
    previousScore := history.getLast?
    scoreDelta7d := (prev7d.filter fun p => p ≠ 0).map fun p => roundDigits (total - p) 1 }
  (score, ⟨s.history.set tenantId (remember history total), engine⟩)

def scoreNext (done : List TenantHealthScore × CustomerHealthScorer) (tenantId : String) :
    List TenantHealthScore × CustomerHealthScorer :=
  let (score, s) := scoreTenant ops tenantId done.2
  (done.1 ++ [score], s)

def scoreAllTenants (s : CustomerHealthScorer) : List TenantHealthScore × CustomerHealthScorer :=
  let tenants := s.meteringEngine.counters.keys
  (if tenants = [] then ["default"] else tenants).foldl (scoreNext ops) ([], s)

def getAtRiskTenants (s : CustomerHealthScorer) : List TenantHealthScore × CustomerHealthScorer :=
  let (scores, s) := scoreAllTenants ops s
  (scores.filter fun score => score.riskLevel ≠ "healthy", s)

end CustomerHealthScorer

/-- A call at the scorer, or of `record` at the metering engine. -/
inductive HealthCall where
  | record (event : MeterEvent)
  | scoreTenant (tenantId : String)
  | scoreAllTenants
  | getAtRiskTenants

open CustomerHealthScorer in
def healthStep (ops : ValueOps) (call : HealthCall) (s : CustomerHealthScorer) :
    CustomerHealthScorer :=
  match call with
  | .record event => { s with meteringEngine := s.meteringEngine.record event }
  | .scoreTenant tenantId => (scoreTenant ops tenantId s).2
  | .scoreAllTenants => (scoreAllTenants ops s).2
  | .getAtRiskTenants => (getAtRiskTenants ops s).2

/-- The call meters no negative quantity for the tenant. -/
def HealthCall.Counts (tenantId : String) : HealthCall → Prop
  | .record event => event.tenantId = tenantId → 0 ≤ event.quantity
  | _ => True

/-! ### Usage grows -/

open CustomerHealthScorer

namespace MeteringEngine
variable {tenantId : String}

/-- Nothing that has been metered for the tenant is lost. -/
structure Grows (tenantId : String) (engine engine' : MeteringEngine) : Prop where
  usage : ∀ eventType, engine.getUsage tenantId eventType ≤ engine'.getUsage tenantId eventType
  actions : (engine.countersOf tenantId).values.sum ≤ (engine'.countersOf tenantId).values.sum
  features : featuresUsed engine tenantId ≤ featuresUsed engine' tenantId

theorem Grows.refl (engine : MeteringEngine) : Grows tenantId engine engine :=
  ⟨fun _ => le_rfl, le_rfl, le_rfl⟩

theorem Grows.trans {engine engine' engine'' : MeteringEngine} (h : Grows tenantId engine engine')
    (h' : Grows tenantId engine' engine'') : Grows tenantId engine engine'' where
  usage := fun e => (h.usage e).trans (h'.usage e)
  actions := h.actions.trans h'.actions
  features := h.features.trans h'.features

theorem countersOf_record (engine : MeteringEngine) (event : MeterEvent) (tenantId : String) :
    (engine.record event).countersOf tenantId =
      if tenantId = event.tenantId then (engine.countersOf event.tenantId).set event.eventType
        (engine.getUsage event.tenantId event.eventType + event.quantity)
      else engine.countersOf tenantId := by
  unfold countersOf record
  rw [Dict.get?_set]
  split <;> rfl

theorem countersOf_lookUp (engine : MeteringEngine) (id tenantId : String) :
    (engine.lookUp id).countersOf tenantId = engine.countersOf tenantId := by
  unfold countersOf lookUp
  rw [Dict.get?_set]
  split
  next heq => simp [heq, countersOf]
  next => rfl

theorem grows_lookUp (engine : MeteringEngine) (id : String) :
    Grows tenantId engine (engine.lookUp id) where
  usage := fun _ => (getUsage_lookUp ..).ge
  actions := by rw [countersOf_lookUp]
  features := by rw [featuresUsed, featuresUsed, countersOf_lookUp]

theorem lookUp_grows (engine : MeteringEngine) (id : String) :
    Grows tenantId (engine.lookUp id) engine where
  usage := fun _ => (getUsage_lookUp ..).le
  actions := by rw [countersOf_lookUp]
  features := by rw [featuresUsed, featuresUsed, countersOf_lookUp]

theorem grows_record (engine : MeteringEngine) {event : MeterEvent}
    (hcounts : event.tenantId = tenantId → 0 ≤ event.quantity) :
    Grows tenantId engine (engine.record event) where
  usage := by
    intro eventType
    rw [getUsage_record]
    split_ifs with hsame
    · exact le_add_of_nonneg_right (hcounts hsame.1)
    · exact (add_zero _).ge
  actions := by
    rw [countersOf_record]
    split_ifs with heq
    · subst heq
      have hquantity := hcounts rfl
      have hsum := Dict.sum_values_set (engine.countersOf event.tenantId) event.eventType
        (engine.getUsage event.tenantId event.eventType + event.quantity)
      have hold : (engine.countersOf event.tenantId).getD event.eventType 0 =
          engine.getUsage event.tenantId event.eventType := rfl
      omega
    · exact le_rfl
  features := by
    unfold featuresUsed
    rw [countersOf_record]
    split_ifs with heq
    · subst heq
      have hquantity := hcounts rfl
      cases hget : (engine.countersOf event.tenantId).get? event.eventType with
      | none =>
        rw [Dict.values_set_new (Dict.get?_eq_none.mp hget), List.countP_append]
        exact Nat.le_add_right _ _
      | some old =>
        have hcount := Dict.countP_values_set hget (fun count => decide (0 < count))
          (engine.getUsage event.tenantId event.eventType + event.quantity)
        have hold : engine.getUsage event.tenantId event.eventType = old := by
          rw [getUsage, hget]
          rfl
        have hle : [old].countP (fun count => decide (0 < count)) ≤
            [old + event.quantity].countP fun count => decide (0 < count) := by
          simp only [List.countP_singleton, decide_eq_true_eq]
          split_ifs <;> omega
        rw [hold] at hcount ⊢
        omega
    · exact le_rfl

end MeteringEngine

namespace CustomerHealthScorer
open MeteringEngine
variable {ops : ValueOps} {engine engine' : MeteringEngine} {tenantId : String}

theorem engagement_mono (h : Grows tenantId engine engine') :
    (scoreUserEngagement engine tenantId).score ≤ (scoreUserEngagement engine' tenantId).score := by
  have hsubmissions := h.usage "gate_submission"
  have hruns := h.usage "reconciliation_run"
  have hactions := h.actions
  unfold scoreUserEngagement
  dsimp only
  split_ifs <;> first | omega | norm_num

theorem depth_mono (h : Grows tenantId engine engine') :
    (scoreUsageDepth engine tenantId).score ≤ (scoreUsageDepth engine' tenantId).score := by
  have hfeatures := h.features
  unfold scoreUsageDepth
  dsimp only
  split_ifs <;> first | omega | norm_num

/-- What is made anew for a score makes up fifty points of it. -/
theorem total_eq (ops : ValueOps) (engine : MeteringEngine) (tenantId : String) :
    total ops engine tenantId = 50 + (scoreUserEngagement engine tenantId).score +
      (scoreUsageDepth engine tenantId).score := by
  have hcases : (scoreCaseResolution (.new ControlGraphStore.new none)).score = 25 := rfl
  have hevidence : (scoreEvidenceCompleteness ops (.new none none)).score = 10 := rfl
  have hoverride : (scoreOverrideFrequency ops engine tenantId (.new none)).score = 15 := by
    have hnone : (ExceptionManager.new none).requests.keys.length = 0 := rfl
    simp [scoreOverrideFrequency, hnone]
  simp only [total, components, List.map_cons, List.map_nil, List.sum_cons, List.sum_nil, hcases,
    hevidence, hoverride]
  ring

theorem engagement_range (engine : MeteringEngine) (tenantId : String) :
    ∃ n : ℕ, 3 ≤ n ∧ n ≤ 20 ∧ (scoreUserEngagement engine tenantId).score = n := by
  unfold scoreUserEngagement
  dsimp only
  split_ifs
  · exact ⟨20, by simp⟩
  · exact ⟨14, by simp⟩
  · exact ⟨8, by simp⟩
  · exact ⟨3, by simp⟩

theorem depth_range (engine : MeteringEngine) (tenantId : String) :
    ∃ n : ℕ, 3 ≤ n ∧ n ≤ 20 ∧ (scoreUsageDepth engine tenantId).score = n := by
  unfold scoreUsageDepth
  dsimp only
  split_ifs
  · exact ⟨20, by simp⟩
  · exact ⟨14, by simp⟩
  · exact ⟨8, by simp⟩
  · exact ⟨3, by simp⟩

theorem total_range (ops : ValueOps) (engine : MeteringEngine) (tenantId : String) :
    ∃ n : ℕ, 56 ≤ n ∧ n ≤ 90 ∧ total ops engine tenantId = n := by
  obtain ⟨a, ha, ha', hengagement⟩ := engagement_range engine tenantId
  obtain ⟨b, hb, hb', hdepth⟩ := depth_range engine tenantId
  refine ⟨50 + a + b, by omega, by omega, ?_⟩
  rw [total_eq, hengagement, hdepth]
  push_cast
  rfl

theorem total_ge (ops : ValueOps) (engine : MeteringEngine) (tenantId : String) :
    56 ≤ total ops engine tenantId := by
  obtain ⟨n, hn, -, htotal⟩ := total_range ops engine tenantId
  rw [htotal]
  exact_mod_cast hn

theorem total_mono (ops : ValueOps) (h : Grows tenantId engine engine') :
    total ops engine tenantId ≤ total ops engine' tenantId := by
  rw [total_eq, total_eq]
  have hengagement := engagement_mono h
  have hdepth := depth_mono h
  linarith

theorem total_lookUp (ops : ValueOps) (engine : MeteringEngine) (id tenantId : String) :
    total ops (engine.lookUp id) tenantId = total ops engine tenantId :=
  le_antisymm (total_mono ops (lookUp_grows engine id)) (total_mono ops (grows_lookUp engine id))

/-! ### Kept scores -/

variable {s : CustomerHealthScorer}

/-- The scores kept of the tenant never fall, and none is more than the tenant scores now. -/
structure Rising (ops : ValueOps) (tenantId : String) (s : CustomerHealthScorer) : Prop where
  sorted : (s.history.getD tenantId []).Pairwise (· ≤ ·)
  bounded : ∀ kept ∈ s.history.getD tenantId [], kept ≤ total ops s.meteringEngine tenantId

theorem remember_sublist (history : List ℚ) (total : ℚ) :
    (remember history total).Sublist (history ++ [total]) := by
  unfold remember
  split_ifs
  · exact List.tail_sublist _
  · exact List.Sublist.refl _

theorem Rising.record (h : Rising ops tenantId s) {event : MeterEvent}
    (hcounts : event.tenantId = tenantId → 0 ≤ event.quantity) :
    Rising ops tenantId { s with meteringEngine := s.meteringEngine.record event } where
  sorted := h.sorted
  bounded := fun kept hkept =>
    (h.bounded kept hkept).trans (total_mono ops (grows_record _ hcounts))

theorem Rising.scoreTenant (h : Rising ops tenantId s) (id : String) :
    Rising ops tenantId (scoreTenant ops id s).2 := by
  by_cases hid : tenantId = id
  · subst hid
    have hhistory : (CustomerHealthScorer.scoreTenant ops tenantId s).2.history.getD tenantId [] =
        remember (s.history.getD tenantId []) (total ops s.meteringEngine tenantId) := by
      show (s.history.set tenantId _).getD tenantId [] = _
      rw [Dict.getD_set, if_pos rfl, total_lookUp]
    constructor
    · rw [hhistory]
      refine List.Pairwise.sublist (remember_sublist _ _) ?_
      rw [List.pairwise_append]
      refine ⟨h.sorted, List.pairwise_singleton _ _, fun kept hold now hnow => ?_⟩
      rw [List.mem_singleton.mp hnow]
      exact h.bounded kept hold
    · rw [hhistory]
      intro kept hmem
      show kept ≤ total ops (s.meteringEngine.lookUp tenantId) tenantId
      rw [total_lookUp]
      rcases List.mem_append.mp ((remember_sublist _ _).subset hmem) with hold | hnew
      · exact h.bounded kept hold
      · exact (List.mem_singleton.mp hnew).le
  · have hhistory : (CustomerHealthScorer.scoreTenant ops id s).2.history.getD tenantId [] =
        s.history.getD tenantId [] := by
      show (s.history.set id _).getD tenantId [] = _
      rw [Dict.getD_set, if_neg hid]
    constructor
    · rw [hhistory]
      exact h.sorted
    · rw [hhistory]
      intro kept hmem
      show kept ≤ total ops (s.meteringEngine.lookUp id) tenantId
      rw [total_lookUp]
      exact h.bounded kept hmem

/-- These tenants are scored one after the other. -/
def scoreEach (ops : ValueOps) (ids : List String) (s : CustomerHealthScorer) :
    CustomerHealthScorer :=
  ids.foldl (fun s id => (CustomerHealthScorer.scoreTenant ops id s).2) s

theorem foldl_scoreNext (ops : ValueOps) (ids : List String)
    (done : List TenantHealthScore × CustomerHealthScorer) :
    (ids.foldl (scoreNext ops) done).2 = scoreEach ops ids done.2 := by
  induction ids generalizing done with
  | nil => rfl
  | cons id ids ih => exact ih _

theorem Rising.scoreEach (h : Rising ops tenantId s) (ids : List String) :
    Rising ops tenantId (scoreEach ops ids s) := by
  induction ids generalizing s with
  | nil => exact h
  | cons id ids ih => exact ih (h.scoreTenant id)

theorem grows_scoreEach (ops : ValueOps) (ids : List String) (s : CustomerHealthScorer) :
    Grows tenantId s.meteringEngine
      (CustomerHealthScorer.scoreEach ops ids s).meteringEngine := by
  induction ids generalizing s with
  | nil => exact .refl _
  | cons id ids ih =>
    have hrest := ih (CustomerHealthScorer.scoreTenant ops id s).2
    exact (grows_lookUp s.meteringEngine id).trans hrest

/-- What a call makes of the scorer: something metered, or tenants scored. -/
inductive Effect (ops : ValueOps) (call : HealthCall) (s s' : CustomerHealthScorer) : Prop
  | metered (event : MeterEvent) (hcall : call = .record event)
      (hs' : s' = { s with meteringEngine := s.meteringEngine.record event })
  | scored (ids : List String) (hs' : s' = CustomerHealthScorer.scoreEach ops ids s)

theorem health_effect (ops : ValueOps) (call : HealthCall) (s : CustomerHealthScorer) :
    Effect ops call s (healthStep ops call s) := by
  have hall : ∃ ids, (scoreAllTenants ops s).2 = CustomerHealthScorer.scoreEach ops ids s :=
    ⟨_, foldl_scoreNext ops _ ([], s)⟩
  cases call with
  | record event => exact .metered event rfl rfl
  | scoreTenant tenantId => exact .scored [tenantId] rfl
  | scoreAllTenants =>
    obtain ⟨ids, hids⟩ := hall
    exact .scored ids hids
  | getAtRiskTenants =>
    obtain ⟨ids, hids⟩ := hall
    exact .scored ids hids

theorem Rising.step (h : Rising ops tenantId s) {call : HealthCall}
    (hcounts : call.Counts tenantId) : Rising ops tenantId (healthStep ops call s) := by
  cases health_effect ops call s with
  | metered event hcall hs' =>
    subst hcall
    rw [hs']
    exact h.record hcounts
  | scored ids hs' =>
    rw [hs']
    exact h.scoreEach ids

theorem grows_step (ops : ValueOps) {call : HealthCall} (hcounts : call.Counts tenantId)
    (s : CustomerHealthScorer) :
    Grows tenantId s.meteringEngine (healthStep ops call s).meteringEngine := by
  cases health_effect ops call s with
  | metered event hcall hs' =>
    subst hcall
    rw [hs']
    exact grows_record _ hcounts
  | scored ids hs' =>
    rw [hs']
    exact grows_scoreEach ops ids s

/-! ### Every run -/

/-- The score of a tenant after these calls, and after later ones: fifty points and those of its usage,
so that it never has one of the lowest labels. As long as no negative quantity is metered for the
tenant it never declines and never falls. -/
structure HealthRises (ops : ValueOps) (tenantId : String) (calls later : List HealthCall)
    (s s' : CustomerHealthScorer) (score : TenantHealthScore) : Prop where
  exact : score.overallScore = 50 + (scoreUserEngagement s.meteringEngine tenantId).score +
    (scoreUsageDepth s.meteringEngine tenantId).score
  grade : score.grade ≠ "F"
  risk : score.riskLevel ≠ "churn_risk"
  trend : (∀ call ∈ calls, call.Counts tenantId) → score.trend ≠ "declining"
  previous : (∀ call ∈ calls, call.Counts tenantId) →
    ∀ kept ∈ score.previousScore, kept ≤ score.overallScore
  later : (∀ call ∈ later, call.Counts tenantId) →
    score.overallScore ≤ (CustomerHealthScorer.scoreTenant ops tenantId s').1.overallScore

theorem grade_ne {total : ℚ} (h : 56 ≤ total) : labelOf gradeThresholds total ≠ "F" := by
  have hreached : (40 : ℚ) ≤ total := by linarith
  unfold labelOf gradeThresholds
  simp only [List.find?_cons, decide_eq_true hreached]
  split
  · decide
  split
  · decide
  split <;> decide

theorem riskLevel_ne {total : ℚ} (h : 56 ≤ total) :
    labelOf riskThresholds total ≠ "churn_risk" := by
  have hreached : (50 : ℚ) ≤ total := by linarith
  unfold labelOf riskThresholds
  simp only [List.find?_cons, decide_eq_true hreached]
  split <;> decide

theorem overallScore_eq (ops : ValueOps) (tenantId : String) (s : CustomerHealthScorer) :
    (CustomerHealthScorer.scoreTenant ops tenantId s).1.overallScore =
      total ops s.meteringEngine tenantId := by
  obtain ⟨n, -, -, htotal⟩ := total_range ops s.meteringEngine tenantId
  show roundDigits (total ops (s.meteringEngine.lookUp tenantId) tenantId) 1 = _
  rw [total_lookUp, htotal]
  exact_mod_cast roundDigits_intCast n

theorem trend_ne {score : TenantHealthScore} (h : ∀ delta ∈ score.scoreDelta7d, 0 ≤ delta) :
    score.trend ≠ "declining" := by
  unfold TenantHealthScore.trend
  cases hdelta : score.scoreDelta7d with
  | none => simp
  | some delta =>
    have hnonneg : 0 ≤ delta := h delta hdelta
    dsimp only
    split_ifs with hup hdown
    · simp
    · linarith
    · simp

theorem Rising.delta_nonneg (h : Rising ops tenantId s) :
    ∀ delta ∈ (CustomerHealthScorer.scoreTenant ops tenantId s).1.scoreDelta7d, 0 ≤ delta := by
  intro delta hdelta
  obtain ⟨old, hold, rfl⟩ := Option.map_eq_some_iff.mp hdelta
  have hprev := (Option.filter_eq_some_iff.mp hold).1
  split_ifs at hprev
  have hkept := h.bounded old (List.mem_of_getElem? hprev)
  have hdiff : 0 ≤ total ops (s.meteringEngine.lookUp tenantId) tenantId - old := by
    rw [total_lookUp]
    linarith
  exact roundDigits_zero.ge.trans (roundDigits_mono hdiff)

theorem rising_run (ops : ValueOps) {calls : List HealthCall}
    (hcounts : ∀ call ∈ calls, call.Counts tenantId) :
    Rising ops tenantId (run (healthStep ops) start calls) := by
  refine run_invariant (I := Rising ops tenantId) (healthStep ops)
    (fun call hcall _ h => h.step (hcounts call hcall)) ?_
  exact ⟨List.Pairwise.nil, fun kept hkept => absurd hkept List.not_mem_nil⟩

theorem grows_run (ops : ValueOps) {calls : List HealthCall}
    (hcounts : ∀ call ∈ calls, call.Counts tenantId) (s : CustomerHealthScorer) :
    Grows tenantId s.meteringEngine (run (healthStep ops) s calls).meteringEngine :=
  run_invariant (I := fun s' => Grows tenantId s.meteringEngine s'.meteringEngine) (healthStep ops)
    (fun call hcall s' h => h.trans (grows_step ops (hcounts call hcall) s')) (.refl _)

/-- In every run of metering and scoring, from the start. -/
theorem health_never_falls (ops : ValueOps) (calls later : List HealthCall) (tenantId : String) :
    let s := run (healthStep ops) start calls
    HealthRises ops tenantId calls later s (run (healthStep ops) start (calls ++ later))
      (CustomerHealthScorer.scoreTenant ops tenantId s).1 := by
  intro s
  exact {
    exact := by rw [overallScore_eq, total_eq]
    grade := grade_ne (total_ge ops (s.meteringEngine.lookUp tenantId) tenantId)
    risk := riskLevel_ne (total_ge ops (s.meteringEngine.lookUp tenantId) tenantId)
    trend := fun hcounts => trend_ne (rising_run ops hcounts).delta_nonneg
    previous := by
      intro hcounts kept hkept
      rw [overallScore_eq]
      exact (rising_run ops hcounts).bounded kept (List.mem_of_getLast? hkept)
    later := by
      intro hcounts
      rw [overallScore_eq, overallScore_eq, run_append]
      exact total_mono ops (grows_run ops hcounts s) }

end CustomerHealthScorer

end ControlFabric.Metering
