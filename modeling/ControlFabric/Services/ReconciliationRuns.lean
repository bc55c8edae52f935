import ControlFabric.Services.ReconciliationEngine
import ControlFabric.Lib.Run

/-! The runs the reconciliation engine keeps: a report stays what was detected when the run was
made, but for what was decided about its conflicts since, and the summary adds the reports up. -/
namespace ControlFabric.Services
open Lib
open Fabric.Reconciliation (ValueOps)

/-- A call of the engine or of the fabric it looks at. -/
inductive ReconcileCall where
  | registerObject (tenantId : String) (create : FabricObjectCreate)
  | updateObjectStatus (objectId : String) (status : ControlObjectStatus)
  | linkObjects (tenantId : String) (create : FabricLinkCreate)
  | runReconciliation (request : ReconciliationRunRequest)
  | resolveConflict (conflictId : String) (resolution : ConflictResolution) (detail : Option String)

section Steps
variable (rt : Runtime) (ops : ValueOps)

open ReconciliationEngine in
def reconcileStep (call : ReconcileCall) (w : World ReconciliationEngine) :
    World ReconciliationEngine :=
  match call with
  | .registerObject tenantId create =>
    ⟨{ w.self with fabric := w.self.fabric.registerObject rt tenantId create w.env.draws },
      w.env.tick 2⟩
  | .updateObjectStatus objectId status =>
    ⟨{ w.self with fabric := w.self.fabric.updateObjectStatus rt objectId status w.env.draws },
      w.env.tick (if objectId ∈ w.self.fabric.objects then 1 else 0)⟩
  | .linkObjects tenantId create =>
    ⟨{ w.self with fabric := w.self.fabric.linkObjects rt tenantId create w.env.draws },
      w.env.tick 2⟩
  | .runReconciliation request =>
    ⟨w.self.runReconciliation rt ops request w.env.draws,
      w.env.tick (runDraws ops w.self.fabric request)⟩
  | .resolveConflict conflictId resolution detail =>
    ⟨w.self.resolveConflict conflictId resolution detail, w.env⟩

/-- What is decided about a conflict. -/
abbrev Decided := ConflictResolution × Option String

/-- What a call decides, and about which conflict. -/
def ReconcileCall.decision : ReconcileCall → Option (String × Decided)
  | .resolveConflict conflictId resolution detail => some (conflictId, resolution, detail)
  | _ => none

def decisions (calls : List ReconcileCall) : List (String × Decided) :=
  calls.filterMap ReconcileCall.decision

/-- A conflict after what has been decided. -/
def Conflict.settle (decided : List (String × Decided)) (c : Conflict) : Conflict :=
  match latest decided c.id with
  | none => c
  | some (resolution, detail) => { c with resolution := resolution, resolutionDetail := detail }

@[simp] theorem settle_nil (c : Conflict) : c.settle [] = c := rfl

@[simp] theorem settle_id (decided : List (String × Decided)) (c : Conflict) :
    (c.settle decided).id = c.id := by
  unfold Conflict.settle
  split <;> rfl

@[simp] theorem settle_runId (decided : List (String × Decided)) (c : Conflict) :
    (c.settle decided).runId = c.runId := by
  unfold Conflict.settle
  split <;> rfl

theorem settle_concat (decided : List (String × Decided)) (id : String) (r : Decided)
    (c : Conflict) : c.settle (decided ++ [(id, r)]) =
      if id = c.id then { c.settle decided with resolution := r.1, resolutionDetail := r.2 }
      else c.settle decided := by
  unfold Conflict.settle
  rw [latest_concat]
  by_cases h : id = c.id
  · rw [if_pos h, if_pos h]
    cases latest decided c.id <;> rfl
  · rw [if_neg h, if_neg h]

/-! ### Conflicts of a run -/

theorem mem_makeConflicts (runId : String) {found : List Finding} {n : ℕ} {c : Conflict}
    (h : c ∈ ReconciliationEngine.makeConflicts rt runId found n) : c.runId = runId ∧
      ∃ k, n ≤ k ∧ k < n + 2 * found.length ∧ c.id = rt.uuid4 k := by
  induction found generalizing n with
  | nil => cases h
  | cons finding rest ih =>
    rw [List.length_cons]
    rcases List.mem_cons.mp h with rfl | h
    · exact ⟨rfl, n, le_rfl, by omega, rfl⟩
    · obtain ⟨hrun, k, hk, hlt, hid⟩ := ih h
      exact ⟨hrun, k, by omega, by omega, hid⟩

variable {rt} in
theorem nodup_makeConflicts (runId : String) {found : List Finding} {n m : ℕ}
    (huuid : Set.InjOn rt.uuid4 (Set.Iio m)) (hm : n + 2 * found.length ≤ m) :
    ((ReconciliationEngine.makeConflicts rt runId found n).map Conflict.id).Nodup := by
  induction found generalizing n with
  | nil => exact List.nodup_nil
  | cons finding rest ih =>
    rw [List.length_cons] at hm
    rw [ReconciliationEngine.makeConflicts, List.map_cons, List.nodup_cons]
    refine ⟨fun hmem => ?_, ih (by omega)⟩
    obtain ⟨c, hc, hid⟩ := List.mem_map.mp hmem
    obtain ⟨-, k, hk, hlt, hid'⟩ := mem_makeConflicts rt runId hc
    have hsame : k = n := huuid (Set.mem_Iio.mpr (by omega)) (Set.mem_Iio.mpr (by omega))
      (hid'.symm.trans hid)
    omega

theorem map_makeConflicts (runId : String) (found : List Finding) (n : ℕ) :
    (ReconciliationEngine.makeConflicts rt runId found n).map Conflict.toFinding = found := by
  induction found generalizing n with
  | nil => rfl
  | cons finding rest ih =>
    rw [ReconciliationEngine.makeConflicts, List.map_cons, ih]
    rfl

end Steps

/-! ### What a call does -/

variable {rt : Runtime} {ops : ValueOps}

inductive ReconcileEffect (rt : Runtime) (ops : ValueOps) (w w' : World ReconciliationEngine) :
    Option (String × Decided) → Prop where
  | aside (hdraws : w.env.draws ≤ w'.env.draws) (hruns : w'.self.runs = w.self.runs)
      (hconflicts : w'.self.conflicts = w.self.conflicts) : ReconcileEffect rt ops w w' none
  | ran (request : ReconciliationRunRequest)
      (hself : w'.self = w.self.runReconciliation rt ops request w.env.draws)
      (hdraws : w'.env.draws =
        w.env.draws + ReconciliationEngine.runDraws ops w.self.fabric request) :
      ReconcileEffect rt ops w w' none
  | resolved (id : String) (r : Decided) (hdraws : w'.env.draws = w.env.draws)
      (hruns : w'.self.runs = w.self.runs)
      (hconflicts : w'.self.conflicts = match w.self.conflicts.get? id with
        | none => w.self.conflicts
        | some c => w.self.conflicts.set id { c with resolution := r.1, resolutionDetail := r.2 }) :
      ReconcileEffect rt ops w w' (some (id, r))

variable (rt ops) in
theorem reconcile_effect (call : ReconcileCall) (w : World ReconciliationEngine) :
    ReconcileEffect rt ops w (reconcileStep rt ops call w) call.decision := by
  cases call with
  | registerObject tenantId create => exact .aside (Nat.le_add_right _ 2) rfl rfl
  | updateObjectStatus objectId status => exact .aside (Nat.le_add_right _ _) rfl rfl
  | linkObjects tenantId create => exact .aside (Nat.le_add_right _ 2) rfl rfl
  | runReconciliation request => exact .ran request rfl rfl
  | resolveConflict conflictId resolution detail =>
    refine .resolved conflictId (resolution, detail) rfl ?_ ?_
    · simp only [reconcileStep, ReconciliationEngine.resolveConflict]
      cases w.self.conflicts.get? conflictId <;> rfl
    · simp only [reconcileStep, ReconciliationEngine.resolveConflict]
      cases w.self.conflicts.get? conflictId <;> rfl

/-- Conflicts and runs are stored under their own identifiers. -/
structure Stored (s : ReconciliationEngine) : Prop where
  conflict : ∀ id c, s.conflicts.get? id = some c → c.id = id
  run : ∀ id r, s.runs.get? id = some r → r.id = id

/-- Assigning to a present key of a dictionary filed by `key` changes the one value there. -/
theorem values_set_filed {ν : Type} {key : ν → String} {d : Dict String ν} {k : String} {old : ν}
    (hfiled : ∀ id v, d.get? id = some v → key v = id) (hold : d.get? k = some old) (v : ν) :
    (d.set k v).values = d.values.map fun u => if key u = k then v else u := by
  obtain ⟨before, after, hentries, hset⟩ := Dict.entries_set_split hold
  have hkey : ∀ e ∈ d.entries, key e.2 = e.1 := fun e he => hfiled e.1 e.2 (Dict.get?_eq_some.mpr he)
  have hnodup := d.nodup
  rw [hentries, List.map_append, List.map_cons, List.nodup_middle] at hnodup
  have hnot := (List.nodup_cons.mp hnodup).1
  rw [List.mem_append, not_or] at hnot
  have hkeep : ∀ l : List (String × ν), (∀ e ∈ l, e ∈ d.entries) → k ∉ l.map Prod.fst →
      (l.map Prod.snd).map (fun u => if key u = k then v else u) = l.map Prod.snd := by
    intro l hl hk
    rw [List.map_map]
    refine List.map_congr_left fun e he => ?_
    have hne : key e.2 ≠ k := by
      rw [hkey e (hl e he)]
      rintro rfl
      exact hk (List.mem_map_of_mem he)
    exact if_neg hne
  have hhere : key old = k := hfiled k old hold
  rw [Dict.values, Dict.values, hset, hentries, List.map_append, List.map_append, List.map_append,
    List.map_cons, List.map_cons, List.map_cons, hkeep before (by rw [hentries]; simp +contextual) hnot.1,
    hkeep after (by rw [hentries]; simp +contextual) hnot.2, if_pos hhere]

/-- Identifiers of runs and of conflicts. -/
def Noted (w : World ReconciliationEngine) (id : String) : Prop :=
  id ∈ w.self.runs ∨ id ∈ w.self.conflicts

theorem mem_conflicts_run {s : ReconciliationEngine} {request : ReconciliationRunRequest} {n : ℕ}
    {id : String} (h : id ∈ (s.runReconciliation rt ops request n).conflicts) : id ∈ s.conflicts ∨
      ∃ k, n ≤ k ∧ k < n + ReconciliationEngine.runDraws ops s.fabric request ∧ id = rt.uuid4 k := by
  rcases Dict.mem_foldl_set.mp h with hold | hnew
  · exact Or.inl hold
  · obtain ⟨c, hc, rfl⟩ := List.mem_map.mp hnew
    obtain ⟨-, k, hk, hlt, hid⟩ := mem_makeConflicts rt _ hc
    refine Or.inr ⟨k, by omega, ?_, hid⟩
    unfold ReconciliationEngine.runDraws
    omega

theorem reconcile_names (rt : Runtime) (ops : ValueOps) :
    Names (reconcileStep rt ops) (fun w => w.env.draws) rt.uuid4 Noted where
  draws_le := by
    intro call w
    have heffect := reconcile_effect rt ops call w
    generalize call.decision = d at heffect
    cases heffect with
    | aside hdraws => exact hdraws
    | ran request _ hdraws => omega
    | resolved _ _ hdraws => omega
  drawn := by
    intro call w id hmem
    have heffect := reconcile_effect rt ops call w
    generalize call.decision = d at heffect
    cases heffect with
    | aside _ hruns hconflicts =>
      rw [Noted, hruns, hconflicts] at hmem
      exact Or.inl hmem
    | ran request hself hdraws =>
      rw [Noted, hself] at hmem
      rcases hmem with hrun | hconflict
      · rcases Dict.mem_set.mp hrun with rfl | hrun
        · refine Or.inr ⟨w.env.draws + 1, by omega, ?_, rfl⟩
          unfold ReconciliationEngine.runDraws at hdraws
          omega
        · exact Or.inl (Or.inl hrun)
      · rcases mem_conflicts_run hconflict with hconflict | ⟨k, hk, hlt, hid⟩
        · exact Or.inl (Or.inr hconflict)
        · exact Or.inr ⟨k, hk, by omega, hid⟩
    | resolved id' r _ hruns hconflicts =>
      rw [Noted, hruns, hconflicts] at hmem
      rcases hmem with hrun | hconflict
      · exact Or.inl (Or.inl hrun)
      · cases hget : w.self.conflicts.get? id' with
        | none =>
          rw [hget] at hconflict
          exact Or.inl (Or.inr hconflict)
        | some c =>
          rw [hget] at hconflict
          rcases Dict.mem_set.mp hconflict with rfl | hconflict
          · exact Or.inl (Or.inr (Dict.mem_of_get? hget))
          · exact Or.inl (Or.inr hconflict)

/-- A run adds its conflicts behind all others. -/
theorem values_run {w : World ReconciliationEngine} {call : ReconcileCall} {calls : List ReconcileCall}
    (hfresh : Fresh (reconcileStep rt ops) (fun w => w.env.draws) rt.uuid4 Noted w (call :: calls))
    (request : ReconciliationRunRequest) (hdraws : (reconcileStep rt ops call w).env.draws =
      w.env.draws + ReconciliationEngine.runDraws ops w.self.fabric request) :
    (w.self.runReconciliation rt ops request w.env.draws).conflicts.values =
      w.self.conflicts.values ++
        (ReconciliationEngine.report rt ops w.self.fabric request w.env.draws).conflicts := by
  have hlater : (reconcileStep rt ops call w).env.draws ≤
      (run (reconcileStep rt ops) w (call :: calls)).env.draws :=
    (reconcile_names rt ops).draws_run_le (reconcileStep rt ops call w) calls
  unfold ReconciliationEngine.runDraws at hdraws
  refine Dict.values_foldl_set (fun c hc hmem => ?_) ?_
  · obtain ⟨-, k, hk, hlt, hid⟩ := mem_makeConflicts rt _ hc
    refine (reconcile_names rt ops).not_has hfresh (n := k) (by omega) (by omega) (Or.inr ?_)
    rw [← hid]
    exact hmem
  · exact nodup_makeConflicts _ hfresh.distinct (by omega)

theorem Stored.step {call : ReconcileCall} {w : World ReconciliationEngine} (h : Stored w.self) :
    Stored (reconcileStep rt ops call w).self := by
  have heffect := reconcile_effect rt ops call w
  generalize call.decision = d at heffect
  cases heffect with
  | aside _ hruns hconflicts =>
    exact ⟨by rw [hconflicts]; exact h.conflict, by rw [hruns]; exact h.run⟩
  | ran request hself =>
    rw [hself]
    refine ⟨fun id c hget => ?_, fun id r hget => ?_⟩
    · rcases Dict.get?_foldl_set hget with ⟨-, hid⟩ | hold
      · exact hid
      · exact h.conflict id c hold
    · rw [ReconciliationEngine.runReconciliation, Dict.get?_set] at hget
      split at hget
      next heq =>
        obtain rfl := Option.some.inj hget
        exact heq.symm
      next => exact h.run id r hget
  | resolved id r _ hruns hconflicts =>
    refine ⟨fun id' c hget => ?_, by rw [hruns]; exact h.run⟩
    rw [hconflicts] at hget
    cases hold : w.self.conflicts.get? id with
    | none =>
      rw [hold] at hget
      exact h.conflict id' c hget
    | some old =>
      rw [hold] at hget
      dsimp only at hget
      rw [Dict.get?_set] at hget
      split at hget
      next heq =>
        obtain rfl := Option.some.inj hget
        rw [heq]
        exact h.conflict id old hold
      next => exact h.conflict id' c hget

/-! ### Reports over a run -/

/-- The report of a run, after what has been decided. -/
structure Reported (s : ReconciliationEngine) (r : ReconciliationRun) (made : List Conflict)
    (decided : List (String × Decided)) : Prop where
  run : s.runs.get? r.id = some r
  conflicts : s.conflicts.values.filter (fun c => c.runId = r.id) = made.map (Conflict.settle decided)

theorem Reported.step {call : ReconcileCall} {calls : List ReconcileCall}
    {w : World ReconciliationEngine} {r : ReconciliationRun} {made : List Conflict}
    {decided : List (String × Decided)}
    (hfresh : Fresh (reconcileStep rt ops) (fun w => w.env.draws) rt.uuid4 Noted w (call :: calls))
    (hstored : Stored w.self) (h : Reported w.self r made decided) :
    Reported (reconcileStep rt ops call w).self r made (decided ++ call.decision.toList) := by
  have hvalues := values_run hfresh
  have hnew : ∀ n, w.env.draws ≤ n → n < (reconcileStep rt ops call w).env.draws →
      ¬ Noted w (rt.uuid4 n) := fun n hle hlt => (reconcile_names rt ops).not_has hfresh hle hlt
  have heffect := reconcile_effect rt ops call w
  revert hvalues hnew heffect
  generalize call.decision = d
  generalize reconcileStep rt ops call w = w'
  intro hvalues hnew heffect
  cases heffect with
  | aside _ hruns hconflicts =>
    rw [Option.toList_none, List.append_nil]
    exact ⟨by rw [hruns]; exact h.run, by rw [hconflicts]; exact h.conflicts⟩
  | ran request hself hdraws =>
    rw [Option.toList_none, List.append_nil, hself]
    have hdraw : w.env.draws + 1 < w'.env.draws := by
      unfold ReconciliationEngine.runDraws at hdraws
      omega
    have hother : rt.uuid4 (w.env.draws + 1) ≠ r.id := fun heq =>
      hnew _ (by omega) hdraw (Or.inl (heq ▸ Dict.mem_of_get? h.run))
    refine ⟨(Dict.get?_set_of_ne hother.symm _ _).trans h.run, ?_⟩
    rw [hvalues request hdraws, List.filter_append, h.conflicts]
    have hnone : (ReconciliationEngine.report rt ops w.self.fabric request
        w.env.draws).conflicts.filter (fun c => c.runId = r.id) = [] := by
      rw [List.filter_eq_nil_iff]
      intro c hc
      rw [(mem_makeConflicts rt _ hc).1]
      simpa using hother
    rw [hnone, List.append_nil]
  | resolved id decision _ hruns hconflicts =>
    rw [Option.toList_some]
    refine ⟨by rw [hruns]; exact h.run, ?_⟩
    have hmade : made.map (Conflict.settle (decided ++ [(id, decision)])) =
        (made.map (Conflict.settle decided)).map fun c => if c.id = id then
          { c with resolution := decision.1, resolutionDetail := decision.2 } else c := by
      rw [List.map_map]
      refine List.map_congr_left fun c _ => ?_
      rw [settle_concat, Function.comp_apply]
      simp only [settle_id, eq_comm]
    rw [hmade, ← h.conflicts, hconflicts]
    cases hget : w.self.conflicts.get? id with
    | none =>
      have hkeep : ∀ c ∈ w.self.conflicts.values.filter (fun c => c.runId = r.id), c.id ≠ id := by
        intro c hc heq
        obtain ⟨key, hkey⟩ := Dict.mem_values.mp (List.mem_of_mem_filter hc)
        rw [← hstored.conflict key c hkey, heq, hget] at hkey
        cases hkey
      symm
      refine (List.map_congr_left fun c hc => ?_).trans (List.map_id _)
      rw [if_neg (hkeep c hc), id_eq]
    | some old =>
      dsimp only
      rw [values_set_filed hstored.conflict hget, List.filter_map]
      have hsame : ∀ c ∈ w.self.conflicts.values, (decide (Conflict.runId (if c.id = id then
          { old with resolution := decision.1, resolutionDetail := decision.2 } else c) = r.id)) =
          decide (c.runId = r.id) := by
        intro c hc
        by_cases heq : c.id = id
        · obtain ⟨key, hkey⟩ := Dict.mem_values.mp hc
          rw [← hstored.conflict key c hkey, heq, hget] at hkey
          obtain rfl := Option.some.inj hkey
          rw [if_pos heq]
        · rw [if_neg heq]
      rw [List.filter_congr (q := fun c => decide (c.runId = r.id)) hsame]
      refine List.map_congr_left fun c hc => ?_
      by_cases heq : c.id = id
      · obtain ⟨key, hkey⟩ := Dict.mem_values.mp (List.mem_of_mem_filter hc)
        rw [← hstored.conflict key c hkey, heq, hget] at hkey
        obtain rfl := Option.some.inj hkey
        rw [if_pos heq]
      · rw [if_neg heq, if_neg heq]

theorem Reported.run_later {calls : List ReconcileCall} {w : World ReconciliationEngine}
    {r : ReconciliationRun} {made : List Conflict} {decided : List (String × Decided)}
    (hfresh : Fresh (reconcileStep rt ops) (fun w => w.env.draws) rt.uuid4 Noted w calls)
    (hstored : Stored w.self) (h : Reported w.self r made decided) :
    Reported (Lib.run (reconcileStep rt ops) w calls).self r made (decided ++ decisions calls) := by
  induction calls generalizing w decided with
  | nil => rwa [decisions, List.filterMap_nil, List.append_nil]
  | cons call calls ih =>
    have hnext := ih ((reconcile_names rt ops).fresh_step hfresh) hstored.step (h.step hfresh hstored)
    have hdecisions : decisions (call :: calls) = call.decision.toList ++ decisions calls := by
      unfold decisions
      cases hd : call.decision with
      | none => rw [List.filterMap_cons_none hd]; rfl
      | some d => rw [List.filterMap_cons_some hd]; rfl
    rw [hdecisions, ← List.append_assoc]
    exact hnext

theorem stored_new : Stored ReconciliationEngine.new :=
  ⟨fun _ _ h => (by cases h), fun _ _ h => (by cases h)⟩

theorem stored_run (rt : Runtime) (ops : ValueOps) (env : Env) (calls : List ReconcileCall) :
    Stored (run (reconcileStep rt ops) ⟨ReconciliationEngine.new, env⟩ calls).self :=
  run_invariant (I := fun w => Stored w.self) (reconcileStep rt ops) (fun _ _ _ h => h.step) stored_new

theorem fresh_new {env : Env} {calls : List ReconcileCall} (huuid : Set.InjOn rt.uuid4 (Set.Iio
    (run (reconcileStep rt ops) ⟨ReconciliationEngine.new, env⟩ calls).env.draws)) :
    Fresh (reconcileStep rt ops) (fun w => w.env.draws) rt.uuid4 Noted
      ⟨ReconciliationEngine.new, env⟩ calls :=
  ⟨huuid, fun id hid => (by rcases hid with hid | hid <;> exact absurd hid (Dict.not_mem_empty id))⟩

/-- The run made at a call is reported. -/
theorem reported_made {w : World ReconciliationEngine} {request : ReconciliationRunRequest}
    {calls : List ReconcileCall} (hfresh : Fresh (reconcileStep rt ops) (fun w => w.env.draws) rt.uuid4
      Noted w (.runReconciliation request :: calls))
    (hrunIds : ∀ c ∈ w.self.conflicts.values, c.runId ∈ w.self.runs) :
    Reported (reconcileStep rt ops (.runReconciliation request) w).self
      (ReconciliationEngine.report rt ops w.self.fabric request w.env.draws).run
      (ReconciliationEngine.report rt ops w.self.fabric request w.env.draws).conflicts [] := by
  refine ⟨Dict.get?_set_self _ _ _, ?_⟩
  have hvalues := values_run hfresh request rfl
  have hdraw : w.env.draws + 1 <
      (reconcileStep rt ops (.runReconciliation request) w).env.draws := by
    show _ < w.env.draws + ReconciliationEngine.runDraws ops w.self.fabric request
    unfold ReconciliationEngine.runDraws
    omega
  have hnew := (reconcile_names rt ops).not_has hfresh (n := w.env.draws + 1) (by omega) hdraw
  have hfirst : w.self.conflicts.values.filter (fun c => c.runId =
      (ReconciliationEngine.report rt ops w.self.fabric request w.env.draws).run.id) = [] := by
    rw [List.filter_eq_nil_iff]
    intro c hc heq
    have hsame : c.runId = rt.uuid4 (w.env.draws + 1) := of_decide_eq_true heq
    exact hnew (Or.inl (hsame ▸ hrunIds c hc))
  have hall : (ReconciliationEngine.report rt ops w.self.fabric request w.env.draws).conflicts.filter
      (fun c => c.runId =
        (ReconciliationEngine.report rt ops w.self.fabric request w.env.draws).run.id) =
      (ReconciliationEngine.report rt ops w.self.fabric request w.env.draws).conflicts := by
    rw [List.filter_eq_self]
    intro c hc
    exact decide_eq_true (mem_makeConflicts rt _ hc).1
  show (w.self.runReconciliation rt ops request w.env.draws).conflicts.values.filter _ = _
  rw [hvalues, List.filter_append, hfirst, hall, List.nil_append]
  exact (List.map_id _).symm

/-- Every conflict stored is one of a run stored. -/
def RunIdsKnown (s : ReconciliationEngine) : Prop := ∀ c ∈ s.conflicts.values, c.runId ∈ s.runs

theorem RunIdsKnown.step {call : ReconcileCall} {w : World ReconciliationEngine}
    (h : RunIdsKnown w.self) : RunIdsKnown (reconcileStep rt ops call w).self := by
  intro c hc
  obtain ⟨id, hget⟩ := Dict.mem_values.mp hc
  have heffect := reconcile_effect rt ops call w
  generalize call.decision = d at heffect
  cases heffect with
  | aside _ hruns hconflicts =>
    rw [hconflicts] at hget
    rw [hruns]
    exact h c (Dict.mem_values.mpr ⟨id, hget⟩)
  | ran request hself =>
    rw [hself] at hget ⊢
    rcases Dict.get?_foldl_set hget with ⟨hnew, -⟩ | hold
    · exact Dict.mem_set.mpr (Or.inl (mem_makeConflicts rt _ hnew).1)
    · exact Dict.mem_set.mpr (Or.inr (h c (Dict.mem_values.mpr ⟨id, hold⟩)))
  | resolved id' r _ hruns hconflicts =>
    rw [hruns]
    rw [hconflicts] at hget
    cases hold : w.self.conflicts.get? id' with
    | none =>
      rw [hold] at hget
      exact h c (Dict.mem_values.mpr ⟨id, hget⟩)
    | some old =>
      rw [hold] at hget
      dsimp only at hget
      rw [Dict.get?_set] at hget
      split at hget
      next =>
        obtain rfl := Option.some.inj hget
        exact h old (Dict.mem_values.mpr ⟨id', hold⟩)
      next => exact h c (Dict.mem_values.mpr ⟨id, hget⟩)

theorem runIdsKnown_run (rt : Runtime) (ops : ValueOps) (env : Env) (calls : List ReconcileCall) :
    RunIdsKnown (run (reconcileStep rt ops) ⟨ReconciliationEngine.new, env⟩ calls).self :=
  run_invariant (I := fun w => RunIdsKnown w.self) (reconcileStep rt ops) (fun _ _ _ h => h.step)
    fun _ hc => absurd hc List.not_mem_nil

/-- A reconciliation run made in any state of a run of calls reports for ever after what was found
in the fabric at that time, in the same order and with the same counts, each conflict with the last
thing decided about it, and with nothing decided as unresolved. -/
theorem reports_stand (rt : Runtime) (ops : ValueOps) (env : Env) (before : List ReconcileCall)
    (request : ReconciliationRunRequest) (after : List ReconcileCall) (huuid : Set.InjOn rt.uuid4
      (Set.Iio (run (reconcileStep rt ops) ⟨ReconciliationEngine.new, env⟩
        (before ++ .runReconciliation request :: after)).env.draws)) :
    let w := run (reconcileStep rt ops) ⟨ReconciliationEngine.new, env⟩ before
    let w' := run (reconcileStep rt ops) ⟨ReconciliationEngine.new, env⟩
      (before ++ .runReconciliation request :: after)
    let response := ReconciliationEngine.report rt ops w.self.fabric request w.env.draws
    w'.self.getRun response.run.id =
        some ⟨response.run, response.conflicts.map (Conflict.settle (decisions after))⟩ ∧
      response.conflicts.map Conflict.toFinding =
        ReconciliationEngine.findings ops w.self.fabric request := by
  intro w w' response
  have hfresh := resource_run (reconcileStep rt ops)
    (fun _ _ _ h => (reconcile_names rt ops).fresh_step h) (fresh_new huuid)
  have hstored := stored_run rt ops env before
  have hmade := reported_made hfresh (runIdsKnown_run rt ops env before)
  have hlater := hmade.run_later ((reconcile_names rt ops).fresh_step hfresh) hstored.step
  rw [List.nil_append] at hlater
  have hw' : w' = run (reconcileStep rt ops)
      (reconcileStep rt ops (.runReconciliation request) w) after := by
    show run _ _ _ = _
    rw [run_append, run_cons]
  rw [← hw'] at hlater
  refine ⟨?_, map_makeConflicts rt _ _ _⟩
  rw [ReconciliationEngine.getRun, hlater.run, Option.map_some, hlater.conflicts]

/-- A clause and the order that depends on it, reconciled, once the clause is retired reconciled
again, with a decision about the conflict found then. -/
def retiredClause : List ReconcileCall :=
  let rt := Runtime.reference
  [.registerObject "acme" ⟨"clause", .commercial, "telco", "SLA", none, [], none, none, none,
      ⟨1, Share.one_mem⟩, [], []⟩,
    .registerObject "acme" ⟨"dispatch_order", .field, "telco", "WO-1", none, [], none, none, none,
      ⟨1, Share.one_mem⟩, [], []⟩,
    .linkObjects "acme" ⟨rt.uuid4 2, rt.uuid4 0, .dependsOn, ⟨1, Share.one_mem⟩, [], []⟩,
    .updateObjectStatus (rt.uuid4 0) .retired]

/-- The conflicts are decided about, one of them twice, and another run is made between. -/
def decidedTwice : List ReconcileCall :=
  let rt := Runtime.reference
  [.resolveConflict (rt.uuid4 9) .deferred none, .runReconciliation { tenantId := "acme" },
    .resolveConflict (rt.uuid4 9) .autoResolved (some "clause renewed")]

theorem reports_stand_retiredClause :
    let w := run (reconcileStep .reference .exact) ⟨ReconciliationEngine.new, .initial "acme"⟩
      retiredClause
    let w' := run (reconcileStep .reference .exact) ⟨ReconciliationEngine.new, .initial "acme"⟩
      (retiredClause ++ .runReconciliation { tenantId := "acme" } :: decidedTwice)
    let response := ReconciliationEngine.report .reference .exact w.self.fabric
      { tenantId := "acme" } w.env.draws
    w'.self.getRun response.run.id =
        some ⟨response.run, response.conflicts.map (Conflict.settle (decisions decidedTwice))⟩ ∧
      response.conflicts.map Conflict.toFinding =
        ReconciliationEngine.findings .exact w.self.fabric { tenantId := "acme" } := by
  apply reports_stand
  apply Runtime.reference_uuid4.mono
  apply Set.Iio_subset_Iio
  decide +kernel

/-! ### The summary -/

/-- A stored run counts the conflicts stored for it. -/
structure Counted (s : ReconciliationEngine) (r : ReconciliationRun) (found : List Finding) : Prop where
  stored : (s.conflicts.values.filter fun c => c.runId = r.id).map Conflict.toFinding = found
  total : r.totalConflicts = found.length
  byType : r.conflictsByType = Dict.tally (fun c => c.conflictType.value) found
  bySeverity : r.conflictsBySeverity = Dict.tally (fun c => c.severity.value) found

def AllCounted (s : ReconciliationEngine) : Prop :=
  ∀ id r, s.runs.get? id = some r → ∃ found, Counted s r found

@[simp] theorem settle_toFinding (decided : List (String × Decided)) (c : Conflict) :
    (c.settle decided).toFinding = c.toFinding := by
  unfold Conflict.settle
  split <;> rfl

theorem AllCounted.step {call : ReconcileCall} {calls : List ReconcileCall}
    {w : World ReconciliationEngine}
    (hfresh : Fresh (reconcileStep rt ops) (fun w => w.env.draws) rt.uuid4 Noted w (call :: calls))
    (hstored : Stored w.self) (hknown : RunIdsKnown w.self) (h : AllCounted w.self) :
    AllCounted (reconcileStep rt ops call w).self := by
  intro id r hget
  by_cases hold : w.self.runs.get? id = some r
  · -- A run that was there: what is done since settles its conflicts, and settling keeps the findings.
    obtain ⟨found, hfound, htotal, htype, hseverity⟩ := h id r hold
    have hid := hstored.run id r hold
    have hreported : Reported w.self r (w.self.conflicts.values.filter fun c => c.runId = r.id) [] :=
      ⟨hid.symm ▸ hold, (List.map_id _).symm⟩
    refine ⟨found, ?_, htotal, htype, hseverity⟩
    rw [(hreported.step hfresh hstored).conflicts, List.map_map, ← hfound]
    exact List.map_congr_left fun c _ => settle_toFinding _ c
  · cases call with
    | runReconciliation request =>
      have hmade := reported_made hfresh hknown
      simp only [reconcileStep, ReconciliationEngine.runReconciliation, Dict.get?_set] at hget
      split at hget
      next =>
        obtain rfl := Option.some.inj hget
        refine ⟨ReconciliationEngine.findings ops w.self.fabric request, ?_, rfl, rfl, rfl⟩
        rw [hmade.conflicts, List.map_map]
        exact (List.map_congr_left fun c _ => settle_toFinding _ c).trans (map_makeConflicts rt _ _ _)
      next => exact absurd hget hold
    | registerObject | updateObjectStatus | linkObjects => exact absurd hget hold
    | resolveConflict conflictId resolution detail =>
      have hruns : (reconcileStep rt ops (.resolveConflict conflictId resolution detail) w).self.runs =
          w.self.runs := by
        simp only [reconcileStep, ReconciliationEngine.resolveConflict]
        cases w.self.conflicts.get? conflictId <;> rfl
      rw [hruns] at hget
      exact absurd hget hold

theorem allCounted_run {env : Env} {calls : List ReconcileCall} (huuid : Set.InjOn rt.uuid4 (Set.Iio
    (run (reconcileStep rt ops) ⟨ReconciliationEngine.new, env⟩ calls).env.draws)) :
    AllCounted (run (reconcileStep rt ops) ⟨ReconciliationEngine.new, env⟩ calls).self := by
  let I (w : World ReconciliationEngine) (calls : List ReconcileCall) : Prop :=
    (Stored w.self ∧ RunIdsKnown w.self ∧ AllCounted w.self) ∧
      Fresh (reconcileStep rt ops) (fun w => w.env.draws) rt.uuid4 Noted w calls
  have hstep : ∀ w call calls, I w (call :: calls) → I (reconcileStep rt ops call w) calls := by
    rintro w call calls ⟨⟨hstored, hknown, hcounted⟩, hfresh⟩
    exact ⟨⟨hstored.step, hknown.step, hcounted.step hfresh hstored hknown⟩,
      (reconcile_names rt ops).fresh_step hfresh⟩
  have hstart : I ⟨ReconciliationEngine.new, env⟩ (calls ++ []) := by
    rw [List.append_nil]
    exact ⟨⟨stored_new, fun _ hc => absurd hc List.not_mem_nil, fun _ _ hget => (by cases hget)⟩,
      fresh_new huuid⟩
  exact (resource_run (reconcileStep rt ops) hstep hstart).1.2.2

/-- The summary of a tenant adds up the reports of its runs. A run does not count its conflicts by pair
of planes: there the conflicts recorded for it are counted. -/
structure SumsUp (ops : ValueOps) (s : ReconciliationEngine) (runs : List ReconciliationRun)
    (summary : ReconciliationSummary) : Prop where
  count : summary.totalRuns = runs.length
  total : summary.totalConflicts = (runs.map ReconciliationRun.totalConflicts).sum
  byType : ∀ t, summary.conflictsByType.getD t 0 = (runs.map fun r => r.conflictsByType.getD t 0).sum
  bySeverity : ∀ t, summary.conflictsBySeverity.getD t 0 =
    (runs.map fun r => r.conflictsBySeverity.getD t 0).sum
  byPlanePair : ∀ pair, summary.conflictsByPlanePair.getD pair 0 = (runs.map fun r =>
    s.conflicts.values.countP fun c => c.runId = r.id ∧ ReconciliationEngine.planePair c = pair).sum
  pairs : summary.conflictsByPlanePair.values.sum = summary.totalConflicts
  average : summary.avgConflictsPerRun = if summary.totalRuns = 0 then 0 else
    ops.round ((summary.totalConflicts : ℚ) / summary.totalRuns)

/-- Counting the conflicts of several runs is counting those of each. -/
theorem countP_runs (s : ReconciliationEngine) {runs : List ReconciliationRun}
    (hnodup : (runs.map ReconciliationRun.id).Nodup) (p : Conflict → Bool) :
    (s.conflicts.values.filter fun c => c.runId ∈ runs.map ReconciliationRun.id).countP p =
      (runs.map fun r => (s.conflicts.values.filter fun c => c.runId = r.id).countP p).sum := by
  have hgroup := (flatMap_filter_perm Conflict.runId s.conflicts.values hnodup).countP_eq p
  rw [← hgroup, List.countP_flatMap, List.map_map]
  rfl

/-- In every run of calls the summary of each tenant adds up what its reconciliation runs
reported. -/
theorem summary_sumsUp (rt : Runtime) (ops : ValueOps) (env : Env) (calls : List ReconcileCall)
    (tenantId : String) (huuid : Set.InjOn rt.uuid4 (Set.Iio
      (run (reconcileStep rt ops) ⟨ReconciliationEngine.new, env⟩ calls).env.draws)) :
    let s := (run (reconcileStep rt ops) ⟨ReconciliationEngine.new, env⟩ calls).self
    SumsUp ops s (s.runs.values.filter fun r => r.tenantId = tenantId)
      (s.getSummary ops tenantId) := by
  intro s
  have hstored : Stored s := stored_run rt ops env calls
  have hcounted : AllCounted s := allCounted_run huuid
  have hnodup : ((s.runs.values.filter fun r => r.tenantId = tenantId).map
      ReconciliationRun.id).Nodup := by
    have hkeys : s.runs.values.map ReconciliationRun.id = s.runs.keys := by
      unfold Dict.values Dict.keys
      rw [List.map_map]
      exact List.map_congr_left fun e he => hstored.run e.1 e.2 (Dict.get?_eq_some.mpr he)
    refine List.Nodup.sublist (List.Sublist.map _ List.filter_sublist) ?_
    rw [hkeys]
    exact s.runs.nodup
  generalize hruns : (s.runs.values.filter fun r => r.tenantId = tenantId) = runs at hnodup
  have hcount : ∀ r ∈ runs, ∃ found, Counted s r found := by
    intro r hr
    rw [← hruns] at hr
    obtain ⟨id, hget⟩ := Dict.mem_values.mp (List.mem_of_mem_filter hr)
    exact hcounted id r hget
  have hsum : ∀ (p : Finding → Bool) (f : ReconciliationRun → ℕ),
      (∀ r ∈ runs, ∀ found, Counted s r found → found.countP p = f r) →
      (s.conflicts.values.filter fun c => c.runId ∈ runs.map ReconciliationRun.id).countP
        (fun c => p c.toFinding) = (runs.map f).sum := by
    intro p f hf
    rw [countP_runs s hnodup]
    congr 1
    refine List.map_congr_left fun r hr => ?_
    obtain ⟨found, hfound⟩ := hcount r hr
    rw [← hf r hr found hfound, ← hfound.stored, List.countP_map]
    rfl
  have htotal : (s.getSummary ops tenantId).totalConflicts =
      (runs.map ReconciliationRun.totalConflicts).sum := by
    have h := hsum (fun _ => true) ReconciliationRun.totalConflicts fun r _ found hfound => by
      rw [hfound.total, List.countP_true]
    rw [List.countP_true] at h
    simp only [ReconciliationEngine.getSummary, hruns]
    exact h
  constructor
  · simp only [ReconciliationEngine.getSummary, hruns]
  · exact htotal
  · intro t
    simp only [ReconciliationEngine.getSummary, hruns, Dict.getD_tally]
    refine hsum (fun c => c.conflictType.value = t) _ fun r _ found hfound => ?_
    rw [hfound.byType, Dict.getD_tally]
  · intro t
    simp only [ReconciliationEngine.getSummary, hruns, Dict.getD_tally]
    refine hsum (fun c => c.severity.value = t) _ fun r _ found hfound => ?_
    rw [hfound.bySeverity, Dict.getD_tally]
  · intro pair
    simp only [ReconciliationEngine.getSummary, hruns, Dict.getD_tally]
    rw [countP_runs s hnodup]
    congr 1
    refine List.map_congr_left fun r _ => ?_
    rw [List.countP_filter]
    exact List.countP_congr fun c _ => by simp [and_comm]
  · exact Dict.sum_values_tally _ _
  · simp only [ReconciliationEngine.getSummary, hruns, List.length_eq_zero_iff]

theorem summary_sumsUp_retiredClause :
    let s := (run (reconcileStep .reference .exact) ⟨ReconciliationEngine.new, .initial "acme"⟩
      (retiredClause ++ .runReconciliation { tenantId := "acme" } :: decidedTwice)).self
    SumsUp .exact s (s.runs.values.filter fun r => r.tenantId = "acme")
      (s.getSummary .exact "acme") := by
  apply summary_sumsUp
  apply Runtime.reference_uuid4.mono
  apply Set.Iio_subset_Iio
  decide +kernel

end ControlFabric.Services
