import ControlFabric.CrossPlane.Engine
import ControlFabric.Graph.Traverse

/-! What one call on the reconciliation engine does to its cases, over runs in which the graph
changes too. -/
namespace ControlFabric.CrossPlane
open Lib Method

inductive CrossPlaneOp where
  | graph (op : GraphOp)
  | run
  | resolve (caseId resolvedBy resolutionNote : String)
      (releaseGate : Option PlatformActionReleaseGate)

open CrossPlaneReconciliationEngine

def CrossPlaneOp.call (rt : Runtime) : CrossPlaneOp → Method CrossPlaneReconciliationEngine Unit
  | graph op =>
    on CrossPlaneReconciliationEngine.graph (fun g e => { e with graph := g }) (op.call rt)
  | run => do
    let _ ← runFullReconciliation rt
    return
  | resolve caseId resolvedBy resolutionNote releaseGate => do
    let _ ← Governed.callWith releaseGate
      (markCaseResolved rt caseId resolvedBy resolutionNote)
    return

/-- One call, after which the caller goes on whether it returned or raised. -/
def crossPlaneStep (rt : Runtime) (op : CrossPlaneOp) (w : World CrossPlaneReconciliationEngine) :
    World CrossPlaneReconciliationEngine := (op.call rt).after w

def crossPlaneRun (rt : Runtime) (w : World CrossPlaneReconciliationEngine)
    (ops : List CrossPlaneOp) : World CrossPlaneReconciliationEngine :=
  Lib.run (crossPlaneStep rt) w ops

namespace CrossPlaneReconciliationEngine

/-- The cases a run started in this state commits and returns. -/
def newCases (rt : Runtime) (w : World CrossPlaneReconciliationEngine) : List ReconciliationCase :=
  ((detect rt w.self.graph w.self.rules).run w.env.draws).1

/-- The draw after the last one of a run started in this state. -/
def lastDraw (rt : Runtime) (w : World CrossPlaneReconciliationEngine) : ℕ :=
  ((detect rt w.self.graph w.self.rules).run w.env.draws).2

variable (rt : Runtime) {w : World CrossPlaneReconciliationEngine}

section Runs
variable (g : ControlGraphStore) (n : ℕ)

theorem run_evaluateSource (rule : ReconciliationRule) (obj : ControlObject) :
    (evaluateSource rt g rule obj).run n =
      if obj.isActive then
        if (g.getOutboundEdges obj.objectId (some [rule.requiredRelationship]) (rt.now n)).any
          (leadsToTarget g rule) then ([], n + 1)
        else ([gapCase rt (n + 1) rule obj], n + 2)
      else ([], n) := by
  by_cases h : obj.isActive
  · simp only [evaluateSource, h, not_true, if_false, if_true, Drawing.run_bind, Drawing.run_draw,
      ↓Drawing.run_ite, Drawing.run_pure]
    rfl
  · simp [evaluateSource, h]

/-- The two objects of an edge on which a conflict is reported. -/
def conflictParties (edge : ControlEdge) : Option (ControlObject × ControlObject) :=
  match g.nodes.get? edge.sourceObjectId, g.nodes.get? edge.targetObjectId with
  | some source, some target =>
    if edge.relationshipType ∈ conflictRels ∧ edge.isActive ∧ source.isActive ∧ target.isActive
    then some (source, target) else none
  | _, _ => none

theorem run_detectConflict (entry : String × ControlEdge) :
    (detectConflict rt g entry).run n = match conflictParties g entry.2 with
      | some (source, target) =>
        ([conflictCase rt n entry.1 entry.2 source target], n + 1)
      | none => ([], n) := by
  unfold conflictParties
  cases hsource : g.nodes.get? entry.2.sourceObjectId with
  | none => simp [detectConflict, hsource]
  | some source =>
    cases htarget : g.nodes.get? entry.2.targetObjectId with
    | none => simp [detectConflict, hsource, htarget]
    | some target =>
      by_cases hrel : entry.2.relationshipType ∈ conflictRels <;>
        by_cases hedge : entry.2.isActive <;> by_cases hactive : source.isActive <;>
          by_cases hactive' : target.isActive <;>
            simp [detectConflict, hsource, htarget, hrel, hedge, hactive, hactive']

theorem run_detectOrphan (obj : ControlObject) :
    (detectOrphan rt g obj).run n =
      if g.getOutboundEdges obj.objectId none (rt.now n) = [] then
        if g.getInboundEdges obj.objectId none (rt.now (n + 1)) = [] then
          ([orphanCase rt (n + 2) obj], n + 3)
        else ([], n + 2)
      else ([], n + 1) := by
  by_cases hout : g.getOutboundEdges obj.objectId none (rt.now n) = [] <;>
    by_cases hin : g.getInboundEdges obj.objectId none (rt.now (n + 1)) = [] <;>
      simp [detectOrphan, hout, hin]

end Runs

section Stamps
variable {rt}

/-- Open cases, identified by increasing draws from `n` on, before `m`. -/
structure Stamped (rt : Runtime) (n m : ℕ) (cases : List ReconciliationCase) : Prop where
  le : n ≤ m
  isOpen : ∀ c ∈ cases, c.status = .open
  drawn : ∃ draws : List ℕ, draws.Pairwise (· < ·) ∧ (∀ j ∈ draws, n ≤ j ∧ j < m) ∧
    cases.map ReconciliationCase.caseId = draws.map rt.uuid4

theorem Stamped.nil {n m : ℕ} (h : n ≤ m) : Stamped rt n m [] := ⟨h, by simp, [], by simp⟩

theorem Stamped.one {n m k : ℕ} {c : ReconciliationCase} (hn : n ≤ k) (hk : k < m)
    (hopen : c.status = .open) (hid : c.caseId = rt.uuid4 k) : Stamped rt n m [c] :=
  ⟨by omega, by simpa using hopen, [k], by simp, by simp [hn, hk], by simp [hid]⟩

theorem Stamped.append {n m k : ℕ} {cases rest : List ReconciliationCase}
    (h : Stamped rt n m cases) (h' : Stamped rt m k rest) : Stamped rt n k (cases ++ rest) := by
  obtain ⟨hnm, hopen, draws, hsorted, hrange, hids⟩ := h
  obtain ⟨hmk, hopen', draws', hsorted', hrange', hids'⟩ := h'
  refine ⟨hnm.trans hmk, ?_, draws ++ draws', ?_, ?_, by simp [hids, hids']⟩
  · intro c hc
    rcases List.mem_append.mp hc with hc | hc
    · exact hopen c hc
    · exact hopen' c hc
  · refine List.pairwise_append.mpr ⟨hsorted, hsorted', fun i hi j hj => ?_⟩
    exact lt_of_lt_of_le (hrange i hi).2 (hrange' j hj).1
  · intro j hj
    rcases List.mem_append.mp hj with hj | hj
    · exact ⟨(hrange j hj).1, lt_of_lt_of_le (hrange j hj).2 hmk⟩
    · exact ⟨hnm.trans (hrange' j hj).1, (hrange' j hj).2⟩

theorem evaluateSource_stamped (rt : Runtime) (g : ControlGraphStore) (rule : ReconciliationRule)
    (obj : ControlObject) (n : ℕ) : Stamped rt n ((evaluateSource rt g rule obj).run n).2
      ((evaluateSource rt g rule obj).run n).1 := by
  rw [run_evaluateSource]
  split
  · split
    · exact Stamped.nil (Nat.le_succ n)
    · exact Stamped.one (Nat.le_succ n) (Nat.lt_succ_self _) rfl rfl
  · exact Stamped.nil le_rfl

theorem detectConflict_stamped (rt : Runtime) (g : ControlGraphStore)
    (entry : String × ControlEdge) (n : ℕ) :
    Stamped rt n ((detectConflict rt g entry).run n).2 ((detectConflict rt g entry).run n).1 := by
  rw [run_detectConflict]
  split
  · exact Stamped.one le_rfl (Nat.lt_succ_self _) rfl rfl
  · exact Stamped.nil le_rfl

theorem detectOrphan_stamped (rt : Runtime) (g : ControlGraphStore) (obj : ControlObject) (n : ℕ) :
    Stamped rt n ((detectOrphan rt g obj).run n).2 ((detectOrphan rt g obj).run n).1 := by
  rw [run_detectOrphan]
  split
  · split
    · exact Stamped.one (show n ≤ n + 2 by omega) (Nat.lt_succ_self _) rfl rfl
    · exact Stamped.nil (by omega)
  · exact Stamped.nil (Nat.le_succ n)

theorem collect_stamped {α : Type} {body : α → Drawing (List ReconciliationCase)}
    (hbody : ∀ item n, Stamped rt n ((body item).run n).2 ((body item).run n).1) (items : List α)
    (n : ℕ) : Stamped rt n ((Drawing.collect body items).run n).2
      ((Drawing.collect body items).run n).1 :=
  Drawing.collect_rule (fun _ => Stamped.nil le_rfl)
    (fun _ _ _ _ _ hfound hrest => hfound.append hrest) (fun item _ => hbody item) n

theorem evaluateEnabled_stamped (rt : Runtime) (g : ControlGraphStore)
    (rule : ReconciliationRule) (n : ℕ) :
    Stamped rt n ((evaluateEnabled rt g rule).run n).2 ((evaluateEnabled rt g rule).run n).1 := by
  unfold evaluateEnabled
  split
  · exact collect_stamped (evaluateSource_stamped rt g rule) _ n
  · exact Stamped.nil le_rfl

theorem evaluateRules_stamped (rt : Runtime) (g : ControlGraphStore)
    (rules : List ReconciliationRule) (n : ℕ) :
    Stamped rt n ((evaluateRules rt g rules).run n).2 ((evaluateRules rt g rules).run n).1 :=
  collect_stamped (evaluateEnabled_stamped rt g) rules n

theorem detectConflicts_stamped (rt : Runtime) (g : ControlGraphStore) (n : ℕ) :
    Stamped rt n ((detectConflicts rt g).run n).2 ((detectConflicts rt g).run n).1 :=
  collect_stamped (detectConflict_stamped rt g) _ n

theorem detectOrphans_stamped (rt : Runtime) (g : ControlGraphStore) (n : ℕ) :
    Stamped rt n ((detectOrphans rt g).run n).2 ((detectOrphans rt g).run n).1 :=
  collect_stamped (detectOrphan_stamped rt g) _ n

/-- The three detectors one after the other. -/
theorem run_detect (rt : Runtime) (g : ControlGraphStore) (rules : List ReconciliationRule) (n : ℕ) :
    ∃ m k, n ≤ m ∧ m ≤ k ∧ k ≤ ((detect rt g rules).run n).2 ∧
      ((evaluateRules rt g rules).run n).2 = m ∧ ((detectConflicts rt g).run m).2 = k ∧
      ((detectOrphans rt g).run k).2 = ((detect rt g rules).run n).2 ∧
      ((detect rt g rules).run n).1 = ((evaluateRules rt g rules).run n).1 ++
        ((detectConflicts rt g).run m).1 ++ ((detectOrphans rt g).run k).1 :=
  ⟨_, _, (evaluateRules_stamped rt g rules n).le, (detectConflicts_stamped rt g _).le,
    (detectOrphans_stamped rt g _).le, rfl, rfl, rfl, rfl⟩

theorem detect_stamped (rt : Runtime) (g : ControlGraphStore) (rules : List ReconciliationRule)
    (n : ℕ) :
    Stamped rt n ((detect rt g rules).run n).2 ((detect rt g rules).run n).1 := by
  obtain ⟨m, k, -, -, -, hm, hk, hlast, hcases⟩ := run_detect rt g rules n
  rw [hcases, ← hlast]
  have hgaps := evaluateRules_stamped rt g rules n
  have hconflicts := detectConflicts_stamped rt g m
  rw [hm] at hgaps
  rw [hk] at hconflicts
  exact (hgaps.append hconflicts).append (detectOrphans_stamped rt g k)

end Stamps

section Commit
variable (cases : List ReconciliationCase) (e : CrossPlaneReconciliationEngine)

@[simp] theorem foldl_commitCase_graph :
    (cases.foldl (fun e c => commitCase c e) e).graph = e.graph := by
  induction cases generalizing e with
  | nil => rfl
  | cons c cases ih => exact ih _

@[simp] theorem foldl_commitCase_rules :
    (cases.foldl (fun e c => commitCase c e) e).rules = e.rules := by
  induction cases generalizing e with
  | nil => rfl
  | cons c cases ih => exact ih _

@[simp] theorem foldl_commitCase_cases :
    (cases.foldl (fun e c => commitCase c e) e).cases =
      cases.foldl (fun d c => d.set c.caseId c) e.cases := by
  induction cases generalizing e with
  | nil => rfl
  | cons c cases ih => exact ih _

end Commit

@[simp] theorem run_record {σ : Type} (eventType : String) (quantity : ℤ) (w : World σ) :
    (record eventType quantity).run w = .ok () { w with
      env := { w.env with
        metered := w.env.metered ++ [⟨eventType, w.env.tenant, quantity⟩] } } := rfl

theorem run_runFullReconciliation (rt : Runtime) (w : World CrossPlaneReconciliationEngine) :
    ∃ metered, (runFullReconciliation rt).run w = .ok (newCases rt w)
      ⟨(newCases rt w).foldl (fun e c => commitCase c e) w.self,
        { w.env with draws := lastDraw rt w, metered := metered }⟩ := by
  by_cases h : ((detect rt w.self.graph w.self.rules).run w.env.draws).1 = []
  · exact ⟨_, by simp [runFullReconciliation, h, newCases, lastDraw]; rfl⟩
  · exact ⟨_, by simp [runFullReconciliation, h, newCases, lastDraw]; rfl⟩

/-- The engine with a case put under an identifier. -/
def withCase (e : CrossPlaneReconciliationEngine) (caseId : String) (c : ReconciliationCase) :
    CrossPlaneReconciliationEngine := { e with cases := e.cases.set caseId c }

/-- The resolution goes through: the case exists and the gate, if there is one, admits it. -/
def Resolves (e : CrossPlaneReconciliationEngine) (caseId resolvedBy resolutionNote : String)
    (releaseGate : Option PlatformActionReleaseGate) (c : ReconciliationCase) : Prop :=
  e.cases.get? caseId = some c ∧
    Governed.Admits releaseGate (resolutionSubmission c caseId resolvedBy resolutionNote)

theorem run_markCaseResolved (rt : Runtime) (caseId resolvedBy resolutionNote : String)
    (releaseGate : Option PlatformActionReleaseGate) (w : World CrossPlaneReconciliationEngine) :
    let m := Governed.callWith releaseGate (markCaseResolved rt caseId resolvedBy resolutionNote)
    (∃ c env n, Resolves w.self caseId resolvedBy resolutionNote releaseGate c ∧
        w.env.Within 10 env ∧ m.run w = .ok (resolvedCase c resolutionNote (rt.now n))
          ⟨w.self.withCase caseId (resolvedCase c resolutionNote (rt.now n)), env⟩) ∨
      (∀ c, ¬ Resolves w.self caseId resolvedBy resolutionNote releaseGate c) ∧
        ∃ e env, w.env.Within 10 env ∧ m.run w = .error e ⟨w.self, env⟩ := by
  intro m
  cases hget : w.self.cases.get? caseId with
  | none =>
    have hrun : m.run w = .error (.valueError s!"Case {caseId} not found.") w := by
      simp [m, Governed.run_callWith, markCaseResolved, hget]
    exact Or.inr ⟨fun c h => by simp [h.1] at hget, _, w.env, Env.Within.refl 10 w.env, hrun⟩
  | some c =>
    let s := resolutionSubmission c caseId resolvedBy resolutionNote
    let commit := commitResolution rt c caseId resolutionNote
    have hcommit : m.run w = (Governed.callWith releaseGate
        (Governed.governed rt s (resolutionBlocked caseId) commit)).run w :=
      Governed.run_callWith_congr (by
        simp only [markCaseResolved, EStateM.run_bind, run_self, hget, s, commit])
    have hexec : s.executor = none := rfl
    rcases Governed.run_callWith_governed rt (resolutionBlocked caseId) commit w.self w.env hexec
      releaseGate with ⟨hadmits, env, hwithin, hrun⟩ | ⟨hadmits, e, env, hwithin, hrun⟩
    · refine Or.inl ⟨c, env.tick 1, env.draws, ⟨hget, hadmits⟩,
        hwithin.trans (env.within_tick 1) (by omega), ?_⟩
      rw [hcommit, hrun]
      rfl
    · refine Or.inr ⟨fun c' h => ?_, e, env, hwithin.mono (by omega), hcommit.trans hrun⟩
      obtain rfl := Option.some.inj (hget.symm.trans h.1)
      exact hadmits h.2

/-- The cases are stored under identifiers drawn before. -/
def CasesDrawn (rt : Runtime) (w : World CrossPlaneReconciliationEngine) : Prop :=
  ∀ id ∈ w.self.cases, id ∈ rt.drawn w.env

/-- New identifiers are none of those in the store, and pairwise different. -/
theorem newCases_fresh {rt : Runtime} {w : World CrossPlaneReconciliationEngine}
    (hdrawn : CasesDrawn rt w) (huuid : Set.InjOn rt.uuid4 (Set.Iio (lastDraw rt w))) :
    (∀ c ∈ newCases rt w, c.caseId ∉ w.self.cases) ∧
      ((newCases rt w).map ReconciliationCase.caseId).Nodup := by
  obtain ⟨hle, -, draws, hsorted, hrange, hids⟩ :=
    detect_stamped rt w.self.graph w.self.rules w.env.draws
  constructor
  · intro c hc hmem
    have hid : c.caseId ∈ draws.map rt.uuid4 := hids ▸ List.mem_map_of_mem hc
    obtain ⟨j, hj, hjid⟩ := List.mem_map.mp hid
    obtain ⟨i, hi, hiid⟩ := hdrawn c.caseId hmem
    have hlt : i < w.env.draws := hi
    have hji := huuid (hrange j hj).2 (lt_of_lt_of_le hlt hle) (hjid.trans hiid.symm)
    have hbound := (hrange j hj).1
    omega
  · have hnodup : (draws.map rt.uuid4).Nodup := by
      rw [List.nodup_map_iff_inj_on hsorted.nodup]
      intro i hi j hj h
      exact huuid (hrange i hi).2 (hrange j hj).2 h
    rw [newCases, hids]
    exact hnodup

end CrossPlaneReconciliationEngine

section Step
variable (rt : Runtime) {w : World CrossPlaneReconciliationEngine}

/-- A graph call changes the graph only. -/
theorem crossPlaneStep_graph (op : GraphOp) (hindexed : w.self.graph.Indexed) :
    w.env.draws ≤ (crossPlaneStep rt (.graph op) w).env.draws ∧
      (crossPlaneStep rt (.graph op) w).self =
        { w.self with graph := (graphStep rt op ⟨w.self.graph, w.env⟩).self } := by
  have hwithin := graphStep_within rt op (w := ⟨w.self.graph, w.env⟩) hindexed
  simp only [crossPlaneStep, CrossPlaneOp.call, after_on]
  exact ⟨hwithin.le, rfl⟩

variable (w) in
/-- A run commits what it finds. -/
theorem crossPlaneStep_run :
    (crossPlaneStep rt .run w).env.draws = lastDraw rt w ∧
      (crossPlaneStep rt .run w).self = (newCases rt w).foldl (fun e c => commitCase c e) w.self := by
  obtain ⟨metered, hrun⟩ := run_runFullReconciliation rt w
  have hafter : crossPlaneStep rt .run w = (runFullReconciliation rt).after w := by
    simp only [crossPlaneStep, CrossPlaneOp.call, ← map_eq_pure_bind, after_map]
  rw [hafter, after_ok hrun]
  exact ⟨rfl, rfl⟩

variable (w) in
/-- A resolution closes its case or raises and changes nothing. -/
theorem crossPlaneStep_resolve (caseId resolvedBy resolutionNote : String)
    (releaseGate : Option PlatformActionReleaseGate) :
    let op := CrossPlaneOp.resolve caseId resolvedBy resolutionNote releaseGate
    w.env.draws ≤ (crossPlaneStep rt op w).env.draws ∧
      ((∃ c n, Resolves w.self caseId resolvedBy resolutionNote releaseGate c ∧
          (op.call rt).returns w = true ∧ (crossPlaneStep rt op w).self =
            w.self.withCase caseId (resolvedCase c resolutionNote (rt.now n))) ∨
        (op.call rt).returns w = false ∧ (crossPlaneStep rt op w).self = w.self) := by
  intro op
  have hcall : (op.call rt).run w = ((fun _ => ()) <$> Governed.callWith releaseGate
      (markCaseResolved rt caseId resolvedBy resolutionNote)).run w := by
    rw [map_eq_pure_bind]
    rfl
  rw [run_map] at hcall
  rcases run_markCaseResolved rt caseId resolvedBy resolutionNote releaseGate w with
    ⟨c, env, n, hresolves, hwithin, hrun⟩ | ⟨-, e, env, hwithin, hrun⟩
  · rw [hrun] at hcall
    rw [crossPlaneStep, after_ok hcall]
    exact ⟨hwithin.le, Or.inl ⟨c, n, hresolves, by simp [returns, hcall], rfl⟩⟩
  · rw [hrun] at hcall
    rw [crossPlaneStep, after_error hcall]
    exact ⟨hwithin.le, Or.inr ⟨by simp [returns, hcall], rfl⟩⟩

theorem crossPlaneStep_draws_le (op : CrossPlaneOp) (hindexed : w.self.graph.Indexed) :
    w.env.draws ≤ (crossPlaneStep rt op w).env.draws := by
  cases op with
  | graph op => exact (crossPlaneStep_graph rt op hindexed).1
  | run =>
    rw [(crossPlaneStep_run rt w).1]
    exact (detect_stamped rt w.self.graph w.self.rules w.env.draws).le
  | resolve caseId resolvedBy resolutionNote releaseGate =>
    exact (crossPlaneStep_resolve rt w caseId resolvedBy resolutionNote releaseGate).1

theorem crossPlaneStep_indexed (op : CrossPlaneOp) (hindexed : w.self.graph.Indexed) :
    (crossPlaneStep rt op w).self.graph.Indexed := by
  cases op with
  | graph op =>
    rw [(crossPlaneStep_graph rt op hindexed).2]
    exact graphStep_indexed rt op hindexed
  | run =>
    rw [(crossPlaneStep_run rt w).2, foldl_commitCase_graph]
    exact hindexed
  | resolve caseId resolvedBy resolutionNote releaseGate =>
    rcases (crossPlaneStep_resolve rt w caseId resolvedBy resolutionNote releaseGate).2 with
      ⟨c, n, -, -, hself⟩ | ⟨-, hself⟩
    · rw [hself]
      exact hindexed
    · rw [hself]
      exact hindexed

theorem crossPlaneStep_rules (op : CrossPlaneOp) (hindexed : w.self.graph.Indexed) :
    (crossPlaneStep rt op w).self.rules = w.self.rules := by
  cases op with
  | graph op => rw [(crossPlaneStep_graph rt op hindexed).2]
  | run => rw [(crossPlaneStep_run rt w).2, foldl_commitCase_rules]
  | resolve caseId resolvedBy resolutionNote releaseGate =>
    rcases (crossPlaneStep_resolve rt w caseId resolvedBy resolutionNote releaseGate).2 with
      ⟨c, n, -, -, hself⟩ | ⟨-, hself⟩
    · rw [hself]
      rfl
    · rw [hself]

/-- Identifiers drawn before stay drawn, and a run stores new ones from its own draws. -/
theorem crossPlaneStep_drawn (op : CrossPlaneOp) (hindexed : w.self.graph.Indexed)
    (hdrawn : CasesDrawn rt w) : CasesDrawn rt (crossPlaneStep rt op w) := by
  have hmono : rt.drawn w.env ⊆ rt.drawn (crossPlaneStep rt op w).env :=
    Set.image_mono (Set.Iio_subset_Iio (crossPlaneStep_draws_le rt op hindexed))
  intro id hid
  cases op with
  | graph op =>
    rw [(crossPlaneStep_graph rt op hindexed).2] at hid
    exact hmono (hdrawn id hid)
  | run =>
    rw [(crossPlaneStep_run rt w).2, foldl_commitCase_cases, Dict.mem_foldl_set] at hid
    rcases hid with hid | hid
    · exact hmono (hdrawn id hid)
    · obtain ⟨-, -, draws, -, hrange, hids⟩ :=
        detect_stamped rt w.self.graph w.self.rules w.env.draws
      rw [newCases, hids] at hid
      obtain ⟨j, hj, rfl⟩ := List.mem_map.mp hid
      refine ⟨j, ?_, rfl⟩
      rw [Set.mem_Iio, (crossPlaneStep_run rt w).1]
      exact (hrange j hj).2
  | resolve caseId resolvedBy resolutionNote releaseGate =>
    rcases (crossPlaneStep_resolve rt w caseId resolvedBy resolutionNote releaseGate).2 with
      ⟨c, n, hresolves, -, hself⟩ | ⟨-, hself⟩
    · rw [hself, withCase, Dict.mem_set] at hid
      rcases hid with rfl | hid
      · exact hmono (hdrawn _ (Dict.mem_of_get? hresolves.1))
      · exact hmono (hdrawn id hid)
    · rw [hself] at hid
      exact hmono (hdrawn id hid)

end Step
end ControlFabric.CrossPlane
