import ControlFabric.CrossPlane.Validity

/-! The case store and its index by object, over any calls: the index names exactly the cases that
affect an object, and a stored case changes only when it is resolved. -/
namespace ControlFabric
open Lib Method

section Appended
variable {index : Dict String (List String)} {value : String} {keys : List String}

theorem mem_foldl_appendTo (c v : String) :
    v ∈ (keys.foldl (fun index key => appendTo index key value) index).getD c [] ↔
      v ∈ index.getD c [] ∨ v = value ∧ c ∈ keys := by
  induction keys generalizing index with
  | nil => simp
  | cons key keys ih =>
    rw [List.foldl_cons, ih, mem_appendTo, List.mem_cons, or_assoc, ← and_or_left]

theorem nodup_foldl_appendTo (h : ∀ c, (index.getD c []).Nodup)
    (hnew : ∀ c, value ∉ index.getD c []) (hkeys : keys.Nodup) (c : String) :
    ((keys.foldl (fun index key => appendTo index key value) index).getD c []).Nodup := by
  have hfold (index : Dict String (List String)) (h : ∀ c, (index.getD c []).Nodup)
      (hnew : ∀ c ∈ keys, value ∉ index.getD c []) :
      ((keys.foldl (fun index key => appendTo index key value) index).getD c []).Nodup := by
    induction keys generalizing index with
    | nil => exact h c
    | cons key keys ih =>
      obtain ⟨hkey, hkeys⟩ := List.nodup_cons.mp hkeys
      refine ih hkeys _ (nodup_appendTo h (hnew key List.mem_cons_self)) fun c hc hmem => ?_
      rcases (mem_appendTo c value).mp hmem with hold | ⟨-, rfl⟩
      · exact hnew c (List.mem_cons_of_mem _ hc) hold
      · exact hkey hc
  exact hfold index h fun c _ => hnew c

end Appended

namespace CrossPlane
open CrossPlaneReconciliationEngine

/-- Each case is stored under its identifier, and the index lists under an object the identifiers of
the stored cases that affect it, each once. -/
structure CaseStore (e : CrossPlaneReconciliationEngine) : Prop where
  keyed : ∀ id c, e.cases.get? id = some c → c.caseId = id
  nodup : ∀ o, (e.caseIndexByObject.getD o []).Nodup
  mem_index : ∀ o id, id ∈ e.caseIndexByObject.getD o [] ↔
    ∃ c, e.cases.get? id = some c ∧ o ∈ c.affectedObjectIds

/-- `get_cases_for_object` returns the stored cases that affect the object, each once. -/
def CasesForExact (e : CrossPlaneReconciliationEngine) (objectId : String) : Prop :=
  (e.getCasesForObject objectId).Nodup ∧
    ∀ c, c ∈ e.getCasesForObject objectId ↔ c ∈ e.cases.values ∧ objectId ∈ c.affectedObjectIds

/-- The same case, apart from its status, the time of its resolution and its description. -/
def SameCase (c c' : ReconciliationCase) : Prop :=
  c' = { c with
    status := c'.status
    resolvedAt := c'.resolvedAt
    description := c'.description }

/-- No case disappears, and no resolved one is opened again. -/
def Later (e e' : CrossPlaneReconciliationEngine) : Prop :=
  ∀ id c, e.cases.get? id = some c → ∃ c', e'.cases.get? id = some c' ∧ SameCase c c' ∧
    (c.status = .resolved → c'.status = .resolved)

/-- What a call may do to the stored cases: a resolution that raises does nothing, one that returns
replaces its case by a resolved one, and any other call leaves the stored cases alone. -/
def KeepsCases (rt : Runtime) (op : CrossPlaneOp) (w : World CrossPlaneReconciliationEngine) :
    Prop :=
  let cases := w.self.cases
  let cases' := (crossPlaneStep rt op w).self.cases
  match op with
  | .resolve caseId .. =>
    ((op.call rt).returns w = false → cases' = cases) ∧
      ((op.call rt).returns w = true → ∃ c c', cases.get? caseId = some c ∧
        cases' = cases.set caseId c' ∧ SameCase c c' ∧ c'.status = .resolved)
  | _ => ∀ id c, cases.get? id = some c → cases'.get? id = some c

section Relations
variable {e e' e'' : CrossPlaneReconciliationEngine}

theorem SameCase.trans {c c' c'' : ReconciliationCase} (h : SameCase c c') (h' : SameCase c' c'') :
    SameCase c c'' := by
  unfold SameCase at h h' ⊢
  rw [h'.trans (congrArg (fun d : ReconciliationCase => { d with
    status := c''.status
    resolvedAt := c''.resolvedAt
    description := c''.description }) h)]

theorem SameCase.affectedObjectIds_eq {c c' : ReconciliationCase} (h : SameCase c c') :
    c'.affectedObjectIds = c.affectedObjectIds := by
  rw [h]

theorem SameCase.caseId_eq {c c' : ReconciliationCase} (h : SameCase c c') :
    c'.caseId = c.caseId := by
  rw [h]

theorem Later.of_kept (h : ∀ id c, e.cases.get? id = some c → e'.cases.get? id = some c) :
    Later e e' := fun id c hget => ⟨c, h id c hget, rfl, fun hresolved => hresolved⟩

theorem Later.trans (h : Later e e') (h' : Later e' e'') : Later e e'' := by
  intro id c hget
  obtain ⟨c', hget', hsame, hresolved⟩ := h id c hget
  obtain ⟨c'', hget'', hsame', hresolved'⟩ := h' id c' hget'
  exact ⟨c'', hget'', hsame.trans hsame', hresolved' ∘ hresolved⟩

theorem KeepsCases.later {rt : Runtime} {op : CrossPlaneOp}
    {w : World CrossPlaneReconciliationEngine} (h : KeepsCases rt op w) :
    Later w.self (crossPlaneStep rt op w).self := by
  cases op with
  | graph op => exact Later.of_kept h
  | run => exact Later.of_kept h
  | resolve caseId resolvedBy resolutionNote releaseGate =>
    obtain ⟨hraised, hreturned⟩ := h
    cases hreturns :
        ((CrossPlaneOp.resolve caseId resolvedBy resolutionNote releaseGate).call rt).returns w with
    | false => exact Later.of_kept fun id c hget => by rw [hraised hreturns]; exact hget
    | true =>
      obtain ⟨old, new, hold, hcases, hsame, hresolved⟩ := hreturned hreturns
      intro id c hget
      rw [hcases, Dict.get?_set]
      by_cases hid : id = caseId
      · obtain rfl := Option.some.inj (hold.symm.trans (hid ▸ hget))
        exact ⟨new, if_pos hid, hsame, fun _ => hresolved⟩
      · exact ⟨c, by rw [if_neg hid, hget], rfl, fun hstatus => hstatus⟩

end Relations

namespace CaseStore
variable {e e' : CrossPlaneReconciliationEngine}

theorem casesForExact (h : CaseStore e) (objectId : String) : CasesForExact e objectId := by
  have hlisted (c : ReconciliationCase) : c ∈ e.getCasesForObject objectId ↔
      ∃ id ∈ e.caseIndexByObject.getD objectId [], e.cases.get? id = some c := by
    rw [getCasesForObject, List.mem_filterMap]
  constructor
  · refine (h.nodup objectId).filterMap fun id id' c hget hget' => ?_
    rw [← h.keyed id c hget, ← h.keyed id' c hget']
  · intro c
    rw [hlisted, Dict.mem_values]
    constructor
    · rintro ⟨id, hid, hget⟩
      obtain ⟨c', hget', haffects⟩ := (h.mem_index objectId id).mp hid
      obtain rfl := Option.some.inj (hget.symm.trans hget')
      exact ⟨⟨id, hget⟩, haffects⟩
    · rintro ⟨⟨id, hget⟩, haffects⟩
      exact ⟨id, (h.mem_index objectId id).mpr ⟨c, hget, haffects⟩, hget⟩

theorem congr (h : CaseStore e) (hcases : e'.cases = e.cases)
    (hindex : e'.caseIndexByObject = e.caseIndexByObject) : CaseStore e' where
  keyed := by rw [hcases]; exact h.keyed
  nodup := by rw [hindex]; exact h.nodup
  mem_index := by rw [hcases, hindex]; exact h.mem_index

/-- A new case that names each object it affects once. -/
theorem commitCase (h : CaseStore e) {c : ReconciliationCase} (hnew : c.caseId ∉ e.cases)
    (haffected : c.affectedObjectIds.Nodup) : CaseStore (commitCase c e) where
  keyed id d hget := by
    rw [CrossPlaneReconciliationEngine.commitCase, Dict.get?_set] at hget
    split at hget
    next hid => rw [hid, ← Option.some.inj hget]
    next => exact h.keyed id d hget
  nodup o := by
    refine nodup_foldl_appendTo h.nodup (fun o hlisted => ?_) haffected o
    obtain ⟨d, hget, -⟩ := (h.mem_index o c.caseId).mp hlisted
    exact hnew (Dict.mem_of_get? hget)
  mem_index o id := by
    rw [CrossPlaneReconciliationEngine.commitCase, mem_foldl_appendTo, h.mem_index, Dict.get?_set]
    by_cases hid : id = c.caseId
    · subst hid
      have hnone : e.cases.get? c.caseId = none := Dict.get?_eq_none.mpr hnew
      simp [hnone]
    · simp [hid]

/-- A stored case replaced by one that differs in nothing the index reads. -/
theorem withCase (h : CaseStore e) {caseId : String} {c c' : ReconciliationCase}
    (hget : e.cases.get? caseId = some c) (hsame : SameCase c c') :
    CaseStore (e.withCase caseId c') where
  keyed id d hget' := by
    rw [CrossPlaneReconciliationEngine.withCase, Dict.get?_set] at hget'
    split at hget'
    next hid => rw [← Option.some.inj hget', hsame.caseId_eq, h.keyed caseId c hget, hid]
    next => exact h.keyed id d hget'
  nodup := h.nodup
  mem_index o id := by
    rw [CrossPlaneReconciliationEngine.withCase, h.mem_index, Dict.get?_set]
    by_cases hid : id = caseId
    · simp [hid, hget, hsame.affectedObjectIds_eq]
    · simp [hid]

/-- New cases, committed one after the other, join the store and leave the stored ones alone. -/
theorem commitCases (h : CaseStore e) {cases : List ReconciliationCase}
    (hnew : ∀ c ∈ cases, c.caseId ∉ e.cases)
    (hdistinct : (cases.map ReconciliationCase.caseId).Nodup)
    (haffected : ∀ c ∈ cases, c.affectedObjectIds.Nodup) :
    let e' := cases.foldl (fun e c => CrossPlaneReconciliationEngine.commitCase c e) e
    CaseStore e' ∧ ∀ id c, e.cases.get? id = some c → e'.cases.get? id = some c := by
  intro e'
  induction cases generalizing e with
  | nil => exact ⟨h, fun _ _ hget => hget⟩
  | cons c cases ih =>
    obtain ⟨hfirst, hdistinct⟩ := List.nodup_cons.mp hdistinct
    have hc := hnew c List.mem_cons_self
    have hrest : ∀ d ∈ cases, d.caseId ∉ (CrossPlaneReconciliationEngine.commitCase c e).cases := by
      intro d hd hmem
      rcases Dict.mem_set.mp hmem with heq | hmem
      · exact hfirst (heq ▸ List.mem_map_of_mem hd)
      · exact hnew d (List.mem_cons_of_mem _ hd) hmem
    obtain ⟨hstore, hkept⟩ := ih (h.commitCase hc (haffected c List.mem_cons_self)) hrest hdistinct
      fun d hd => haffected d (List.mem_cons_of_mem _ hd)
    refine ⟨hstore, fun id d hget => hkept id d ?_⟩
    have hid : id ≠ c.caseId := fun heq => hc (heq ▸ Dict.mem_of_get? hget)
    rw [CrossPlaneReconciliationEngine.commitCase, Dict.get?_set_of_ne hid, hget]

end CaseStore

/-! ### What a run of the detectors reports -/

section Affected
variable {rt : Runtime} {g : ControlGraphStore}

/-- On a graph without loops a case names each object it affects once. -/
theorem detect_affected_nodup (hindexed : g.Indexed) (hintegrity : g.Integrity)
    (rules : List ReconciliationRule) (n : ℕ) :
    ∀ c ∈ ((detect rt g rules).run n).1, c.affectedObjectIds.Nodup := by
  have hspec : ∀ f ∈ candidateFindings g rules, f.affectedObjectIds.Nodup := by
    intro f hf
    rw [candidateFindings, List.mem_append, List.mem_append] at hf
    rcases hf with (hgap | hconflict) | horphan
    · obtain ⟨rule, -, hrule⟩ := List.mem_flatMap.mp hgap
      unfold gapCandidates at hrule
      split at hrule
      · obtain ⟨obj, -, rfl⟩ := List.mem_map.mp hrule
        exact List.nodup_singleton obj.objectId
      · exact absurd hrule List.not_mem_nil
    · obtain ⟨entry, hentry, hparties⟩ := List.mem_flatMap.mp hconflict
      obtain ⟨source, target, hboth, rfl⟩ := mem_edgeFindings_iff.mp hparties
      obtain ⟨hsource, htarget⟩ := conflictParties_eq_some hboth
      have hloop := hintegrity.no_loop entry.1 entry.2 (Dict.get?_eq_some.mpr hentry)
      rw [← hindexed.keyed _ source hsource, ← hindexed.keyed _ target htarget] at hloop
      exact List.nodup_cons.mpr ⟨fun hmem => hloop (List.mem_singleton.mp hmem),
        List.nodup_singleton target.objectId⟩
    · obtain ⟨obj, -, rfl⟩ := List.mem_map.mp horphan
      exact List.nodup_singleton obj.objectId
  intro c hc
  exact hspec c.finding ((detect_sublist rt g rules n).subset (List.mem_map_of_mem hc))

end Affected

section Run
variable {rt : Runtime} {w : World CrossPlaneReconciliationEngine}

theorem crossPlaneStep_integrity (op : CrossPlaneOp) (hindexed : w.self.graph.Indexed)
    (hintegrity : w.self.graph.Integrity) : (crossPlaneStep rt op w).self.graph.Integrity := by
  cases hop : op.isGraph with
  | false =>
    rw [crossPlaneStep_graph_eq rt w hop]
    exact hintegrity
  | true =>
    cases op with
    | graph op =>
      rw [(crossPlaneStep_graph rt op hindexed).2]
      exact (graphStep_integrity rt op hindexed hintegrity).1
    | run => exact absurd hop (by decide)
    | resolve => exact absurd hop (by simp [CrossPlaneOp.isGraph])

/-- A call keeps the store and its index, and does to the stored cases what it may. -/
theorem caseStore_step (op : CrossPlaneOp) (hindexed : w.self.graph.Indexed)
    (hintegrity : w.self.graph.Integrity) (hdrawn : CasesDrawn rt w)
    (huuid : Set.InjOn rt.uuid4 (Set.Iio (crossPlaneStep rt op w).env.draws))
    (h : CaseStore w.self) :
    CaseStore (crossPlaneStep rt op w).self ∧ KeepsCases rt op w := by
  cases op with
  | graph op =>
    have hself := (crossPlaneStep_graph rt op hindexed).2
    refine ⟨h.congr (by rw [hself]) (by rw [hself]), fun id c hget => ?_⟩
    rw [hself]
    exact hget
  | run =>
    obtain ⟨hdraws, hself⟩ := crossPlaneStep_run rt w
    obtain ⟨hnew, hdistinct⟩ := newCases_fresh hdrawn (hdraws ▸ huuid)
    have hcommitted := h.commitCases hnew hdistinct
      (detect_affected_nodup hindexed hintegrity w.self.rules w.env.draws)
    rw [← hself] at hcommitted
    exact hcommitted
  | resolve caseId resolvedBy resolutionNote releaseGate =>
    rcases (crossPlaneStep_resolve rt w caseId resolvedBy resolutionNote releaseGate).2 with
      ⟨c, n, hresolves, hreturns, hself⟩ | ⟨hreturns, hself⟩
    · have hsame : SameCase c (resolvedCase c resolutionNote (rt.now n)) := rfl
      refine ⟨hself ▸ h.withCase hresolves.1 hsame, fun hraised => ?_, fun _ => ?_⟩
      · exact absurd (hreturns.symm.trans hraised) (by decide)
      · exact ⟨c, _, hresolves.1, by rw [hself]; rfl, hsame, rfl⟩
    · refine ⟨hself ▸ h, fun _ => by rw [hself], fun hreturned => ?_⟩
      exact absurd (hreturns.symm.trans hreturned) (by decide)

/-- What the calls still to come need of a state. -/
structure Consistent (rt : Runtime) (w : World CrossPlaneReconciliationEngine)
    (ops : List CrossPlaneOp) : Prop where
  ready : Ready rt w ops
  integrity : w.self.graph.Integrity
  store : CaseStore w.self

theorem Consistent.next {op : CrossPlaneOp} {ops : List CrossPlaneOp}
    (h : Consistent rt w (op :: ops)) :
    Consistent rt (crossPlaneStep rt op w) ops ∧ KeepsCases rt op w := by
  have hstep := caseStore_step op h.ready.indexed h.integrity h.ready.drawn h.ready.uuid4_step
    h.store
  exact ⟨⟨h.ready.step, crossPlaneStep_integrity op h.ready.indexed h.integrity, hstep.1⟩, hstep.2⟩

theorem Consistent.after {ops ops' : List CrossPlaneOp} (h : Consistent rt w (ops ++ ops')) :
    Consistent rt (crossPlaneRun rt w ops) ops' :=
  resource_run (crossPlaneStep rt) (fun _ _ _ hw => hw.next.1) h

theorem Consistent.later {ops : List CrossPlaneOp} (h : Consistent rt w ops) :
    Later w.self (crossPlaneRun rt w ops).self := by
  induction ops generalizing w with
  | nil => exact Later.of_kept fun _ _ hget => hget
  | cons op ops ih => exact h.next.2.later.trans (ih h.next.1)

/-- After any calls on a growing graph the cases found for an object are the stored ones that affect
it; a call does to the stored cases only what it may, and none disappears or is opened again. -/
theorem crossPlaneRun_caseStore (env : Env) (graphOps : List GraphOp)
    (rules : Option (List ReconciliationRule)) (ops : List CrossPlaneOp)
    (huuid : Set.InjOn rt.uuid4
      (Set.Iio (crossPlaneRun rt (onGraph rt env graphOps rules) ops).env.draws)) :
    let start := onGraph rt env graphOps rules
    let final := crossPlaneRun rt start ops
    (∀ objectId, CasesForExact final.self objectId) ∧
      Conforms (crossPlaneStep rt) (KeepsCases rt) start ops ∧
      ∀ before after, ops = before ++ after →
        Later (crossPlaneRun rt start before).self final.self := by
  intro start final
  have hstart : Consistent rt start ops :=
    { ready := onGraph_ready huuid
      integrity := (graphRun_indexed rt env graphOps).2
      store :=
        { keyed := fun id c hget => by simp [start, onGraph, new] at hget
          nodup := fun o => List.nodup_nil
          mem_index := fun o id => by simp [start, onGraph, new] } }
  refine ⟨?_, ?_, ?_⟩
  · have hfinal : Consistent rt final [] := Consistent.after (by rwa [List.append_nil])
    exact hfinal.store.casesForExact
  · rw [conforms_iff_split]
    rintro before op after rfl
    exact hstart.after.next.2
  · rintro before after rfl
    have hlater := hstart.after.later
    rwa [crossPlaneRun, crossPlaneRun, ← run_append] at hlater

theorem crossPlaneRun_caseStore_policy :
    let final := crossPlaneRun .reference policyEngine policyRuns
    (∀ objectId, CasesForExact final.self objectId) ∧
      Conforms (crossPlaneStep .reference) (KeepsCases .reference) policyEngine policyRuns ∧
      ∀ before after, policyRuns = before ++ after →
        Later (crossPlaneRun .reference policyEngine before).self final.self :=
  crossPlaneRun_caseStore (Env.initial "acme") (policyGraph .reference) none policyRuns
    policyRuns_uuid4

end Run
end CrossPlane
end ControlFabric
