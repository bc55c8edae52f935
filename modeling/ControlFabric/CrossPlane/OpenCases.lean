import ControlFabric.CrossPlane.Findings

/-! The open cases of a finding: one for each run that found it, less the resolved ones. -/
namespace ControlFabric.CrossPlane
open Lib Method

namespace CrossPlaneReconciliationEngine

/-- An open case of the finding. -/
def isOpenOn (f : Finding) (c : ReconciliationCase) : Bool := c.status = .open && c.finding = f

def openCount (f : Finding) (e : CrossPlaneReconciliationEngine) : ℕ :=
  e.cases.values.countP (isOpenOn f)

/-- How often the call reports the finding. -/
def finds (rt : Runtime) (f : Finding) (op : CrossPlaneOp)
    (w : World CrossPlaneReconciliationEngine) : ℕ :=
  match op with
  | .run => ((newCases rt w).map ReconciliationCase.finding).count f
  | _ => 0

/-- How many open cases of the finding the call resolves. -/
def closes (rt : Runtime) (f : Finding) (op : CrossPlaneOp)
    (w : World CrossPlaneReconciliationEngine) : ℕ :=
  match op with
  | .resolve caseId .. =>
    if (op.call rt).returns w then (w.self.cases.get? caseId).toList.countP (isOpenOn f) else 0
  | _ => 0

end CrossPlaneReconciliationEngine

open CrossPlaneReconciliationEngine

variable {rt : Runtime} {w : World CrossPlaneReconciliationEngine}

theorem openCount_step (f : Finding) (op : CrossPlaneOp) (hindexed : w.self.graph.Indexed)
    (hdrawn : CasesDrawn rt w)
    (huuid : Set.InjOn rt.uuid4 (Set.Iio (crossPlaneStep rt op w).env.draws)) :
    openCount f (crossPlaneStep rt op w).self + closes rt f op w =
      openCount f w.self + finds rt f op w := by
  cases op with
  | graph op =>
    rw [(crossPlaneStep_graph rt op hindexed).2]
    rfl
  | run =>
    obtain ⟨hdraws, hself⟩ := crossPlaneStep_run rt w
    rw [hdraws] at huuid
    obtain ⟨hnew, hnodup⟩ := newCases_fresh hdrawn huuid
    have hvalues : (crossPlaneStep rt .run w).self.cases.values =
        w.self.cases.values ++ newCases rt w := by
      rw [hself, foldl_commitCase_cases, Dict.values_foldl_set hnew hnodup]
    have hopen : (newCases rt w).countP (isOpenOn f) =
        ((newCases rt w).map ReconciliationCase.finding).count f := by
      rw [List.count, List.countP_map]
      apply List.countP_congr
      intro c hc
      have hstatus := (detect_stamped rt w.self.graph w.self.rules w.env.draws).isOpen c hc
      simp [isOpenOn, hstatus]
    simp only [openCount, closes, finds, hvalues, List.countP_append, hopen, Nat.add_zero]
  | resolve caseId resolvedBy resolutionNote releaseGate =>
    rcases (crossPlaneStep_resolve rt w caseId resolvedBy resolutionNote releaseGate).2 with
      ⟨c, n, hresolves, hreturns, hself⟩ | ⟨hreturns, hself⟩
    · have hclosed : isOpenOn f (resolvedCase c resolutionNote (rt.now n)) = false := by
        simp [isOpenOn, resolvedCase]
      have hcount := Dict.countP_values_set hresolves.1 (isOpenOn f)
        (resolvedCase c resolutionNote (rt.now n))
      simp only [openCount, closes, finds, hself, withCase, hreturns, if_true, hresolves.1,
        Option.toList_some]
      simpa [hclosed] using hcount
    · simp [closes, finds, hreturns, hself]

variable (rt) in
theorem crossPlaneRun_draws_le (ops : List CrossPlaneOp) (hindexed : w.self.graph.Indexed) :
    w.env.draws ≤ (crossPlaneRun rt w ops).env.draws := by
  induction ops generalizing w with
  | nil => exact le_rfl
  | cons op ops ih =>
    exact (crossPlaneStep_draws_le rt op hindexed).trans
      (ih (crossPlaneStep_indexed rt op hindexed))

/-- What a run needs of the state it starts in. -/
structure Ready (rt : Runtime) (w : World CrossPlaneReconciliationEngine)
    (ops : List CrossPlaneOp) : Prop where
  indexed : w.self.graph.Indexed
  drawn : CasesDrawn rt w
  uuid4 : Set.InjOn rt.uuid4 (Set.Iio (crossPlaneRun rt w ops).env.draws)

theorem Ready.step {op : CrossPlaneOp} {ops : List CrossPlaneOp} (h : Ready rt w (op :: ops)) :
    Ready rt (crossPlaneStep rt op w) ops :=
  ⟨crossPlaneStep_indexed rt op h.indexed, crossPlaneStep_drawn rt op h.indexed h.drawn, h.uuid4⟩

theorem Ready.uuid4_step {op : CrossPlaneOp} {ops : List CrossPlaneOp}
    (h : Ready rt w (op :: ops)) :
    Set.InjOn rt.uuid4 (Set.Iio (crossPlaneStep rt op w).env.draws) :=
  h.uuid4.mono (Set.Iio_subset_Iio (crossPlaneRun_draws_le rt ops h.step.indexed))

theorem Ready.openCount {ops : List CrossPlaneOp} (h : Ready rt w ops) (f : Finding) :
    openCount f (crossPlaneRun rt w ops).self + total (crossPlaneStep rt) (closes rt f) w ops =
      openCount f w.self + total (crossPlaneStep rt) (finds rt f) w ops :=
  balance_run (crossPlaneStep rt) (fun _ _ _ => Ready.step)
    (m := fun w => CrossPlaneReconciliationEngine.openCount f w.self)
    (fun _ op _ hw => openCount_step f op hw.indexed hw.drawn hw.uuid4_step) h

/-- Under rules with different identifiers a call reports a finding at most once. -/
theorem Ready.finds_le_one {ops : List CrossPlaneOp} (h : Ready rt w ops)
    (hrules : RulesDistinct w.self.rules) (f : Finding) :
    Conforms (crossPlaneStep rt) (fun op w => finds rt f op w ≤ 1) w ops := by
  induction ops generalizing w with
  | nil => trivial
  | cons op ops ih =>
    refine ⟨?_, ih h.step (by rwa [crossPlaneStep_rules rt op h.indexed])⟩
    cases op with
    | run => exact List.nodup_iff_count_le_one.mp (newCases_nodup h.indexed hrules) f
    | graph op => exact Nat.zero_le 1
    | resolve caseId resolvedBy resolutionNote releaseGate => exact Nat.zero_le 1

def CrossPlaneOp.isRun : CrossPlaneOp → Bool
  | run => true
  | _ => false

def CrossPlaneOp.isGraph : CrossPlaneOp → Bool
  | graph _ => true
  | _ => false

variable (rt w) in
theorem crossPlaneStep_graph_eq {op : CrossPlaneOp} (hop : op.isGraph = false) :
    (crossPlaneStep rt op w).self.graph = w.self.graph := by
  cases op with
  | graph op => simp [CrossPlaneOp.isGraph] at hop
  | run => rw [(crossPlaneStep_run rt w).2, foldl_commitCase_graph]
  | resolve caseId resolvedBy resolutionNote releaseGate =>
    rcases (crossPlaneStep_resolve rt w caseId resolvedBy resolutionNote releaseGate).2 with
      ⟨c, n, -, -, hself⟩ | ⟨-, hself⟩
    · rw [hself]
      rfl
    · rw [hself]

/-- On an unchanged graph whose edges stay valid or invalid, every run reports the same findings. -/
theorem Ready.total_finds {ops : List CrossPlaneOp} (h : Ready rt w ops) {t : DateTime}
    (hops : ∀ op ∈ ops, op.isGraph = false)
    (hread : EvaluatedAt rt w.self.graph w.env.draws (crossPlaneRun rt w ops).env.draws t)
    (f : Finding) : total (crossPlaneStep rt) (finds rt f) w ops =
      ops.countP CrossPlaneOp.isRun * (findings w.self.graph t w.self.rules).count f := by
  induction ops generalizing w with
  | nil => simp [total]
  | cons op ops ih =>
    have hgraph := crossPlaneStep_graph_eq rt w (hops op List.mem_cons_self)
    have hrules := crossPlaneStep_rules rt op h.indexed
    have hle := crossPlaneStep_draws_le rt op h.indexed
    have hlast := crossPlaneRun_draws_le rt ops h.step.indexed
    have hrest := ih h.step (fun o ho => hops o (List.mem_cons_of_mem _ ho))
      (by rw [hgraph]; exact hread.mono hle le_rfl)
    rw [hgraph, hrules] at hrest
    have hfirst : finds rt f op w =
        [op].countP CrossPlaneOp.isRun * (findings w.self.graph t w.self.rules).count f := by
      cases op with
      | run =>
        rw [(crossPlaneStep_run rt w).1] at hlast
        have hcases := detect_findings w.self.rules (hread.mono le_rfl hlast)
        simp only [finds, newCases, hcases]
        simp [CrossPlaneOp.isRun]
      | graph op => simp [finds, CrossPlaneOp.isRun]
      | resolve caseId resolvedBy resolutionNote releaseGate => simp [finds, CrossPlaneOp.isRun]
    rw [total, hfirst, hrest, ← Nat.add_mul, ← List.countP_append, List.singleton_append]

/-- An engine on a graph built by some calls. -/
def onGraph (rt : Runtime) (env : Env) (graphOps : List GraphOp)
    (rules : Option (List ReconciliationRule)) : World CrossPlaneReconciliationEngine :=
  let graph := graphRun rt ⟨.new, env⟩ graphOps
  ⟨.new graph.self rules, graph.env⟩

theorem onGraph_ready {env : Env} {graphOps : List GraphOp}
    {rules : Option (List ReconciliationRule)} {ops : List CrossPlaneOp}
    (huuid : Set.InjOn rt.uuid4
      (Set.Iio (crossPlaneRun rt (onGraph rt env graphOps rules) ops).env.draws)) :
    Ready rt (onGraph rt env graphOps rules) ops where
  indexed := (graphRun_indexed rt env graphOps).1
  drawn id hid := by simp [onGraph, CrossPlaneReconciliationEngine.new] at hid
  uuid4 := huuid

/-- Every run commits what it finds whatever cases are open already: over any calls the open cases
of a finding and the resolved ones are as many as the reports of it. A run reports it at most once
when the enabled rules have different identifiers, and on an unchanged graph every run reports the
same. -/
theorem crossPlaneRun_openCases (env : Env) (graphOps : List GraphOp)
    (rules : Option (List ReconciliationRule)) (ops : List CrossPlaneOp)
    (huuid : Set.InjOn rt.uuid4
      (Set.Iio (crossPlaneRun rt (onGraph rt env graphOps rules) ops).env.draws)) (f : Finding) :
    let start := onGraph rt env graphOps rules
    let final := crossPlaneRun rt start ops
    openCount f final.self + total (crossPlaneStep rt) (closes rt f) start ops =
        total (crossPlaneStep rt) (finds rt f) start ops ∧
      (RulesDistinct start.self.rules →
        Conforms (crossPlaneStep rt) (fun op w => finds rt f op w ≤ 1) start ops) ∧
      ∀ t, (∀ op ∈ ops, op.isGraph = false) →
        EvaluatedAt rt start.self.graph start.env.draws final.env.draws t →
        total (crossPlaneStep rt) (finds rt f) start ops =
          ops.countP CrossPlaneOp.isRun *
            (findings start.self.graph t start.self.rules).count f := by
  intro start final
  have hready := onGraph_ready huuid
  refine ⟨?_, fun hrules => hready.finds_le_one hrules f, fun t hops hread =>
    hready.total_finds hops hread f⟩
  have hbalance := hready.openCount f
  have hnone : openCount f start.self = 0 := rfl
  rwa [hnone, Nat.zero_add] at hbalance

/-- Two runs over a graph that holds one active policy and nothing else. -/
def policyRuns : List CrossPlaneOp := [.run, .run]

def activePolicy (rt : Runtime) : ControlObject := { draftPolicy rt with state := .active }

def policyGraph (rt : Runtime) : List GraphOp := [.addObject (activePolicy rt)]

def policyEngine : World CrossPlaneReconciliationEngine :=
  onGraph .reference (Env.initial "acme") (policyGraph .reference) none

theorem policyRuns_uuid4 : Set.InjOn Runtime.reference.uuid4
    (Set.Iio (crossPlaneRun .reference policyEngine policyRuns).env.draws) := by
  have hdraws : (crossPlaneRun .reference policyEngine policyRuns).env.draws = 6 := rfl
  rw [hdraws]
  exact Runtime.reference_uuid4.mono (Set.Iio_subset_Iio (by decide))

theorem crossPlaneRun_openCases_policy :
    let f := Finding.orphan (activePolicy .reference)
    openCount f (crossPlaneRun .reference policyEngine policyRuns).self +
        total (crossPlaneStep .reference) (closes .reference f) policyEngine policyRuns =
      total (crossPlaneStep .reference) (finds .reference f) policyEngine policyRuns :=
  (crossPlaneRun_openCases (Env.initial "acme") (policyGraph .reference) none policyRuns
    policyRuns_uuid4 _).1

/-- The second run on the unchanged graph adds a second open case of the same finding. -/
theorem crossPlaneRun_repeats : openCount (Finding.orphan (activePolicy .reference))
    (crossPlaneRun .reference policyEngine policyRuns).self = 2 := by
  decide

end ControlFabric.CrossPlane
