import ControlFabric.Margin.Diagnosis

/-! Contradictions between work orders and incidents. Every work order is compared with the first
incident, linked or not: when this comes to the same as comparing it with what it is linked to. -/
namespace ControlFabric.Margin
open Lib Ingress ContradictionDetector

section Statuses
variable {ip : Interpreter} {wo wo' inc inc' : JsonDict} {c : CrossPlaneConflict}

/-- Completed work and an active incident, or open work and a resolved one. -/
def StatusesContradict (woStatus incState : String) : Prop :=
  woStatus = "completed" ∧ incState ∈ ["new", "investigating", "in_progress"] ∨
    incState ∈ ["resolved", "closed"] ∧ woStatus ∈ ["pending", "in_progress", "assigned"]

def Contradicts (ip : Interpreter) (wo inc : JsonDict) : Prop :=
  StatusesContradict (textField ip wo "status") (textField ip inc "state")

theorem mem_completionConflicts : c ∈ completionConflicts ip wo inc ↔
    (textField ip wo "status" = "completed" ∧
        textField ip inc "state" ∈ ["new", "investigating", "in_progress"]) ∧
      c = activeIncidentConflict (textField ip wo "status") (textField ip inc "state") ∨
    (textField ip inc "state" ∈ ["resolved", "closed"] ∧
        textField ip wo "status" ∈ ["pending", "in_progress", "assigned"]) ∧
      c = openWorkConflict (textField ip wo "status") (textField ip inc "state") := by
  unfold completionConflicts
  simp only [List.mem_append, List.mem_ite_nil_right, List.mem_singleton]

theorem contradicts_of_mem (h : c ∈ completionConflicts ip wo inc) :
    Contradicts ip wo inc ∧ c.field = "completion_vs_incident" := by
  rcases mem_completionConflicts.mp h with ⟨hboth, rfl⟩ | ⟨hboth, rfl⟩
  · exact ⟨Or.inl hboth, rfl⟩
  · exact ⟨Or.inr hboth, rfl⟩

theorem exists_conflict (h : Contradicts ip wo inc) : ∃ c, c ∈ completionConflicts ip wo inc := by
  rcases h with hboth | hboth
  · exact ⟨_, mem_completionConflicts.mpr (Or.inl ⟨hboth, rfl⟩)⟩
  · exact ⟨_, mem_completionConflicts.mpr (Or.inr ⟨hboth, rfl⟩)⟩

/-- A conflict names the status and the state that it is about. -/
theorem statuses_of_mem (h : c ∈ completionConflicts ip wo inc)
    (h' : c ∈ completionConflicts ip wo' inc') :
    textField ip wo "status" = textField ip wo' "status" ∧
      textField ip inc "state" = textField ip inc' "state" := by
  have htext : ∀ {label s t : String}, label ++ s = label ++ t → s = t :=
    fun heq => String.append_right_inj _ |>.mp heq
  rcases mem_completionConflicts.mp h with ⟨-, rfl⟩ | ⟨-, rfl⟩
  · rcases mem_completionConflicts.mp h' with ⟨-, heq⟩ | ⟨-, heq⟩
    · obtain ⟨-, -, hstatus, -, hstate, -⟩ := CrossPlaneConflict.mk.inj heq
      exact ⟨htext hstatus, htext hstate⟩
    · exact absurd (congrArg CrossPlaneConflict.severity heq)
        (by simp [activeIncidentConflict, openWorkConflict])
  · rcases mem_completionConflicts.mp h' with ⟨-, heq⟩ | ⟨-, heq⟩
    · exact absurd (congrArg CrossPlaneConflict.severity heq)
        (by simp [activeIncidentConflict, openWorkConflict])
    · obtain ⟨-, -, hstate, -, hstatus, -⟩ := CrossPlaneConflict.mk.inj heq
      exact ⟨htext hstatus, htext hstate⟩

theorem completionConflicts_congr (ip : Interpreter) (wo : JsonDict)
    (h : textField ip inc "state" = textField ip inc' "state") :
    completionConflicts ip wo inc = completionConflicts ip wo inc' := by
  unfold completionConflicts
  rw [h]

theorem completionConflicts_eq_nil (h : ¬ Contradicts ip wo inc) :
    completionConflicts ip wo inc = [] := by
  apply List.eq_nil_iff_forall_not_mem.mpr
  intro c hc
  exact h (contradicts_of_mem hc).1

/-! ### The detector -/

theorem completionConflicts_nil : completionConflicts ip wo [] = [] := by
  apply completionConflicts_eq_nil
  intro h
  have hstate : textField ip [] "state" = "" := rfl
  unfold Contradicts StatusesContradict at h
  rw [hstate] at h
  simp at h

@[simp] theorem incidentConflicts_some (ip : Interpreter) (wo inc : JsonDict) :
    incidentConflicts ip wo (some inc) = completionConflicts ip wo inc := by
  cases inc with
  | nil => exact completionConflicts_nil.symm
  | cons p d => rfl

section Fields
variable {contractData : ContractData}

theorem field_scopeConflicts {boundary : JsonDict} {conflicts : List CrossPlaneConflict}
    (h : scopeConflicts ip wo boundary = .ok conflicts) (hc : c ∈ conflicts) : c.field = "scope" := by
  unfold scopeConflicts at h
  obtain ⟨items, -, h⟩ := bind_eq_ok_iff.mp h
  obtain ⟨activities, -, h⟩ := bind_eq_ok_iff.mp h
  dsimp only at h
  split at h
  · obtain rfl := Except.ok.inj h
    rw [List.mem_singleton.mp hc]
  · split at h
    · obtain rfl := Except.ok.inj h
      rw [List.mem_singleton.mp hc]
    · obtain rfl := Except.ok.inj h
      cases hc

theorem field_rateConflicts (hc : c ∈ rateConflicts ip contractData wo) : c.field = "rate" := by
  unfold rateConflicts at hc
  dsimp only at hc
  split at hc
  · obtain ⟨rc, -, hrc⟩ := List.mem_filterMap.mp hc
    unfold rateConflict at hrc
    dsimp only at hrc
    split at hrc
    · rw [← Option.some.inj hrc]
    · cases hrc
  · cases hc

theorem field_approvalConflicts (hc : c ∈ approvalConflicts contractData wo) :
    c.field = "approval" := by
  unfold approvalConflicts at hc
  split at hc
  · rw [List.mem_singleton.mp hc]
  · cases hc

theorem field_slaConflicts (hc : c ∈ slaConflicts contractData) : c.field = "sla_penalty" := by
  unfold slaConflicts at hc
  split at hc
  · rw [List.mem_singleton.mp hc]
  · cases hc

/-- The detector puts what the comparison adds between conflicts of other fields, which do not
depend on the incident. -/
theorem detect_eq_ok {incident : Option JsonDict} {conflicts : List CrossPlaneConflict}
    (h : detect ip contractData wo incident = .ok conflicts) :
    ∃ before after, (∀ c ∈ before ++ after, c.field ≠ "completion_vs_incident") ∧
      conflicts = before ++ incidentConflicts ip wo incident ++ after ∧
      ∀ incident', detect ip contractData wo incident' =
        .ok (before ++ incidentConflicts ip wo incident' ++ after) := by
  unfold detect at h
  obtain ⟨scope, hscope, h⟩ := bind_eq_ok_iff.mp h
  obtain rfl := Except.ok.inj h
  let after := rateConflicts ip contractData wo ++ (approvalConflicts contractData wo ++
    slaConflicts contractData)
  refine ⟨scope.flatten, after, ?_, by simp [after], fun incident' => ?_⟩
  · intro c hc
    simp only [after, List.mem_append, List.mem_flatten] at hc
    rcases hc with ⟨l, hl, hc⟩ | hc | hc | hc
    · obtain ⟨boundary, -, hboundary⟩ := mem_mapM hscope hl
      simp [field_scopeConflicts hboundary hc]
    · simp [field_rateConflicts hc]
    · simp [field_approvalConflicts hc]
    · simp [field_slaConflicts hc]
  · unfold detect
    rw [hscope, ok_bind]
    simp [after]

/-- The conflict about the incident is reported exactly if the statuses contradict. -/
theorem reported_iff {conflicts : List CrossPlaneConflict}
    (h : detect ip contractData wo (some inc) = .ok conflicts) :
    (∃ c ∈ conflicts, c.field = "completion_vs_incident") ↔ Contradicts ip wo inc := by
  obtain ⟨before, after, hother, rfl, -⟩ := detect_eq_ok h
  rw [incidentConflicts_some]
  constructor
  · rintro ⟨c, hc, hfield⟩
    simp only [List.mem_append] at hc hother
    rcases hc with (hc | hc) | hc
    · exact absurd hfield (hother c (Or.inl hc))
    · exact (contradicts_of_mem hc).1
    · exact absurd hfield (hother c (Or.inr hc))
  · intro hcontradicts
    obtain ⟨c, hc⟩ := exists_conflict hcontradicts
    refine ⟨c, ?_, (contradicts_of_mem hc).2⟩
    exact List.mem_append_left _ (List.mem_append_right _ hc)

/-- Comparing the work orders with another incident exchanges what the comparisons add. -/
theorem detect_swap {workOrders : List JsonDict} {incident : Option JsonDict}
    {ds : List (List CrossPlaneConflict)}
    (h : workOrders.mapM (fun wo => detect ip contractData wo incident) = .ok ds)
    (incident' : Option JsonDict) :
    ∃ ds', workOrders.mapM (fun wo => detect ip contractData wo incident') = .ok ds' ∧
      (ds.flatten ++ workOrders.flatMap fun wo => incidentConflicts ip wo incident').Perm
        (ds'.flatten ++ workOrders.flatMap fun wo => incidentConflicts ip wo incident) := by
  induction workOrders generalizing ds with
  | nil =>
    obtain rfl := Except.ok.inj h
    exact ⟨[], rfl, .refl _⟩
  | cons wo workOrders ih =>
    rw [List.mapM_cons] at h
    obtain ⟨d, hd, h⟩ := bind_eq_ok_iff.mp h
    obtain ⟨rest, hrest, h⟩ := bind_eq_ok_iff.mp h
    obtain rfl := Except.ok.inj h
    obtain ⟨before, after, -, rfl, hother⟩ := detect_eq_ok hd
    obtain ⟨rest', hrest', hperm⟩ := ih hrest
    refine ⟨(before ++ incidentConflicts ip wo incident' ++ after) :: rest', ?_, ?_⟩
    · rw [List.mapM_cons, hother, ok_bind, hrest', ok_bind, pure_eq_ok]
    · rw [List.perm_iff_count] at hperm ⊢
      intro c
      have hcount := hperm c
      simp only [List.flatten_cons, List.flatMap_cons, List.count_append] at hcount ⊢
      omega

end Fields
end Statuses
namespace MarginDiagnosisReconciler

/-- The linker links the two. -/
def Linked (ip : Interpreter) (wo inc : JsonDict) : Prop :=
  ∃ link, WorkOrderIncidentLinker.linkOf ip wo inc = .ok (some link)

/-- The two have been compared, and the conflict found is among those of the diagnosis. -/
def Reported (ip : Interpreter) (input : Input) (d : Diagnosis) (wo inc : JsonDict) : Prop :=
  wo ∈ input.workOrders ∧ primaryIncident input.incidents = some inc ∧
    ∃ conflicts, detect ip (buildContractData ip input.contractObjects) wo (some inc) =
        .ok conflicts ∧
      ∃ c ∈ conflicts, c.field = "completion_vs_incident" ∧ c ∈ d.allConflicts

/-- Contradictions are reported for linked pairs only, and for all of them, and the order of the
incidents shows neither in the conflicts nor in the verdict. -/
structure FollowsLinks (ip : Interpreter) (input : Input) (d : Diagnosis) : Prop where
  sound : ∀ wo inc, Reported ip input d wo inc → Linked ip wo inc
  complete : ∀ wo ∈ input.workOrders, ∀ inc ∈ input.incidents, Linked ip wo inc →
    Contradicts ip wo inc → Reported ip input d wo inc
  reordered : ∀ incidents', input.incidents.Perm incidents' →
    ∃ d', reconcile ip { input with incidents := incidents' } = .ok d' ∧
      d.allConflicts.Perm d'.allConflicts ∧ d'.verdict = d.verdict

/-- Each work order whose status contradicts the state of some incident is linked to the first
incident and to no other, and all incidents have the same state. -/
def FirstIsLinked (ip : Interpreter) (input : Input) : Prop :=
  ∀ wo ∈ input.workOrders, (∃ inc ∈ input.incidents, Contradicts ip wo inc) →
    ∃ primary, primaryIncident input.incidents = some primary ∧ Linked ip wo primary ∧
      ∀ inc ∈ input.incidents, textField ip inc "state" = textField ip primary "state" ∧
        (Linked ip wo inc → inc = primary)

section Runs
variable {ip : Interpreter} {input : Input} {d : Diagnosis}

theorem link_perm {wo : JsonDict} {incidents incidents' : List JsonDict}
    (hperm : incidents.Perm incidents') {links : List CrossPlaneLink}
    (h : WorkOrderIncidentLinker.link ip wo incidents = .ok links) :
    ∃ links', WorkOrderIncidentLinker.link ip wo incidents' = .ok links' := by
  unfold WorkOrderIncidentLinker.link at h ⊢
  obtain ⟨found, hfound, -⟩ := bind_eq_ok_iff.mp h
  obtain ⟨found', hfound', -⟩ := mapM_of_perm hperm hfound
  exact ⟨found'.reduceOption, by rw [hfound']; rfl⟩

theorem determineVerdict_perm (leakage : List MarginLeakageReconciler.LeakageTrigger)
    {conflicts conflicts' : List CrossPlaneConflict} (h : conflicts.Perm conflicts')
    (sla : List CrossPlaneConflict) :
    determineVerdict leakage conflicts sla = determineVerdict leakage conflicts' sla := by
  have hempty : conflicts.isEmpty = conflicts'.isEmpty := by
    rw [Bool.eq_iff_iff, List.isEmpty_iff, List.isEmpty_iff]
    constructor
    · rintro rfl
      exact h.nil_eq.symm
    · rintro rfl
      exact h.eq_nil
  have hany : (conflicts.any fun c => grave c.severity) = conflicts'.any fun c => grave c.severity := by
    rw [Bool.eq_iff_iff, List.any_eq_true, List.any_eq_true]
    simp only [h.mem_iff]
  unfold determineVerdict
  rw [hempty, hany]

/-- With the incidents in another order the diagnosis returns as well, and its conflicts are the
same exactly if those that the comparisons add are. -/
theorem Steps.reordered (s : Steps ip input) {incidents' : List JsonDict}
    (hperm : input.incidents.Perm incidents') :
    ∃ s' : Steps ip { input with incidents := incidents' },
      (s.diagnosis.allConflicts.Perm s'.diagnosis.allConflicts →
        s'.diagnosis.verdict = s.diagnosis.verdict) ∧
      (s.diagnosis.allConflicts.Perm s'.diagnosis.allConflicts ↔
        (input.workOrders.flatMap fun wo =>
            incidentConflicts ip wo (primaryIncident input.incidents)).Perm
          (input.workOrders.flatMap fun wo => incidentConflicts ip wo (primaryIncident incidents'))) := by
  obtain ⟨links', hlinks'⟩ : ∃ links', input.workOrders.mapM
      (fun wo => WorkOrderIncidentLinker.link ip wo incidents') = .ok links' := by
    apply mapM_returns
    intro wo hwo
    obtain ⟨links, -, hlinks⟩ := returns_of_mapM s.links_eq hwo
    exact link_perm hperm hlinks
  obtain ⟨contradictions', hcontradictions', hswap⟩ :=
    detect_swap s.contradictions_eq (primaryIncident incidents')
  refine ⟨⟨links', s.billing, s.sla, s.leakage, contradictions', hlinks', s.billing_eq, s.sla_eq,
    s.leakage_eq, hcontradictions'⟩, ?_, ?_⟩
  · intro hconflicts
    exact (determineVerdict_perm _ hconflicts _).symm
  · simp only [Steps.diagnosis, List.perm_append_left_iff]
    rw [List.perm_iff_count] at hswap ⊢
    rw [List.perm_iff_count]
    simp only [List.count_append] at hswap
    constructor
    · intro h c
      have hc := hswap c
      have hsame := h c
      omega
    · intro h c
      have hc := hswap c
      have hsame := h c
      omega

/-- What is reported of a work order. -/
theorem Steps.reported_iff (s : Steps ip input) {wo inc : JsonDict} :
    Reported ip input s.diagnosis wo inc ↔
      wo ∈ input.workOrders ∧ primaryIncident input.incidents = some inc ∧ Contradicts ip wo inc := by
  constructor
  · rintro ⟨hwo, hprimary, conflicts, hdetect, c, hc, hfield, -⟩
    exact ⟨hwo, hprimary, (Margin.reported_iff hdetect).mp ⟨c, hc, hfield⟩⟩
  · rintro ⟨hwo, hprimary, hcontradicts⟩
    obtain ⟨conflicts, hmem, hdetect⟩ := returns_of_mapM s.contradictions_eq hwo
    rw [hprimary] at hdetect
    obtain ⟨c, hc, hfield⟩ := (Margin.reported_iff hdetect).mpr hcontradicts
    refine ⟨hwo, hprimary, conflicts, hdetect, c, hc, hfield, ?_⟩
    exact List.mem_append_right _ (List.mem_flatten.mpr ⟨conflicts, hmem, hc⟩)

theorem exists_first {incidents : List JsonDict} {inc : JsonDict} (h : inc ∈ incidents) :
    ∃ incidents', incidents.Perm incidents' ∧ primaryIncident incidents' = some inc := by
  obtain ⟨before, after, rfl⟩ := List.append_of_mem h
  exact ⟨inc :: (before ++ after), List.perm_middle, rfl⟩

theorem primary_mem {incidents : List JsonDict} {primary : JsonDict}
    (h : primaryIncident incidents = some primary) : primary ∈ incidents :=
  List.mem_of_mem_head? h

/-- If the order does not show, a work order that contradicts one incident finds the state of that
one in the first. -/
theorem FollowsLinks.same_state (s : Steps ip input) (h : FollowsLinks ip input s.diagnosis)
    {primary : JsonDict} (hprimary : primaryIncident input.incidents = some primary) {inc : JsonDict}
    (hinc : inc ∈ input.incidents) {wo : JsonDict} (hwo : wo ∈ input.workOrders)
    (hcontradicts : Contradicts ip wo inc ∨ Contradicts ip wo primary) :
    textField ip inc "state" = textField ip primary "state" := by
  obtain ⟨incidents', hperm, hfirst⟩ := exists_first hinc
  obtain ⟨s', -, hiff⟩ := s.reordered hperm
  obtain ⟨d', hd', hconflicts, -⟩ := h.reordered incidents' hperm
  have hsame : d' = s'.diagnosis := by
    have hs' := reconcile_eq_ok_iff.mpr ⟨s', rfl⟩
    exact Except.ok.inj (hd'.symm.trans hs')
  rw [hsame, hiff, hprimary, hfirst] at hconflicts
  simp only [incidentConflicts_some] at hconflicts
  rcases hcontradicts with hcontradicts | hcontradicts
  · obtain ⟨c, hc⟩ := exists_conflict hcontradicts
    have hmem := hconflicts.mem_iff.mpr (List.mem_flatMap.mpr ⟨wo, hwo, hc⟩)
    obtain ⟨wo', -, hc'⟩ := List.mem_flatMap.mp hmem
    exact (statuses_of_mem hc hc').2
  · obtain ⟨c, hc⟩ := exists_conflict hcontradicts
    have hmem := hconflicts.mem_iff.mp (List.mem_flatMap.mpr ⟨wo, hwo, hc⟩)
    obtain ⟨wo', -, hc'⟩ := List.mem_flatMap.mp hmem
    exact (statuses_of_mem hc hc').2.symm

theorem FollowsLinks.firstIsLinked (s : Steps ip input) (h : FollowsLinks ip input s.diagnosis) :
    FirstIsLinked ip input := by
  rintro wo hwo ⟨inc, hinc, hcontradicts⟩
  obtain ⟨primary, hprimary⟩ : ∃ primary, primaryIncident input.incidents = some primary := by
    cases hincidents : input.incidents with
    | nil => simp [hincidents] at hinc
    | cons primary rest => exact ⟨primary, rfl⟩
  have hstate := FollowsLinks.same_state s h hprimary hinc hwo (Or.inl hcontradicts)
  have hfirst : Contradicts ip wo primary := by
    unfold Contradicts at hcontradicts ⊢
    rwa [← hstate]
  refine ⟨primary, hprimary, ?_, fun inc' hinc' => ⟨?_, fun hlinked => ?_⟩⟩
  · exact h.sound wo primary (s.reported_iff.mpr ⟨hwo, hprimary, hfirst⟩)
  · exact FollowsLinks.same_state s h hprimary hinc' hwo (Or.inr hfirst)
  · have hstate' := FollowsLinks.same_state s h hprimary hinc' hwo (Or.inr hfirst)
    have hcontradicts' : Contradicts ip wo inc' := by
      unfold Contradicts at hfirst ⊢
      rwa [hstate']
    have hreported := h.complete wo hwo inc' hinc' hlinked hcontradicts'
    obtain ⟨-, hprimary', -⟩ := s.reported_iff.mp hreported
    exact Option.some.inj (hprimary'.symm.trans hprimary)

/-- Then any incident may come first. -/
theorem FirstIsLinked.incidentConflicts_eq (h : FirstIsLinked ip input) {incidents' : List JsonDict}
    (hperm : input.incidents.Perm incidents') {wo : JsonDict} (hwo : wo ∈ input.workOrders) :
    incidentConflicts ip wo (primaryIncident input.incidents) =
      incidentConflicts ip wo (primaryIncident incidents') := by
  have hequal : ∀ inc ∈ input.incidents, ∀ inc' ∈ input.incidents,
      completionConflicts ip wo inc = completionConflicts ip wo inc' := by
    intro inc hinc inc' hinc'
    by_cases hcontradicts : ∃ inc ∈ input.incidents, Contradicts ip wo inc
    · obtain ⟨primary, -, -, hall⟩ := h wo hwo hcontradicts
      apply completionConflicts_congr
      rw [(hall inc hinc).1, (hall inc' hinc').1]
    · rw [completionConflicts_eq_nil fun hc => hcontradicts ⟨inc, hinc, hc⟩,
        completionConflicts_eq_nil fun hc => hcontradicts ⟨inc', hinc', hc⟩]
  cases hfirst : primaryIncident input.incidents with
  | none =>
    have hnil : input.incidents = [] := List.head?_eq_none_iff.mp hfirst
    rw [hnil] at hperm
    rw [hperm.nil_eq.symm]
    rfl
  | some primary =>
    cases hfirst' : primaryIncident incidents' with
    | none =>
      have hnil : incidents' = [] := List.head?_eq_none_iff.mp hfirst'
      have hmem := hperm.mem_iff.mp (primary_mem hfirst)
      simp [hnil] at hmem
    | some primary' =>
      rw [incidentConflicts_some, incidentConflicts_some]
      exact hequal primary (primary_mem hfirst) primary'
        (hperm.mem_iff.mpr (primary_mem hfirst'))

theorem FirstIsLinked.followsLinks (s : Steps ip input) (h : FirstIsLinked ip input) :
    FollowsLinks ip input s.diagnosis := by
  constructor
  · intro wo inc hreported
    obtain ⟨hwo, hprimary, hcontradicts⟩ := s.reported_iff.mp hreported
    obtain ⟨primary, hprimary', hlinked, -⟩ := h wo hwo ⟨inc, primary_mem hprimary, hcontradicts⟩
    obtain rfl := Option.some.inj (hprimary.symm.trans hprimary')
    exact hlinked
  · intro wo hwo inc hinc hlinked hcontradicts
    obtain ⟨primary, hprimary, -, hall⟩ := h wo hwo ⟨inc, hinc, hcontradicts⟩
    obtain rfl := (hall inc hinc).2 hlinked
    exact s.reported_iff.mpr ⟨hwo, hprimary, hcontradicts⟩
  · intro incidents' hperm
    obtain ⟨s', hverdict, hiff⟩ := s.reordered hperm
    have hsame : ∀ wo ∈ input.workOrders, incidentConflicts ip wo (primaryIncident input.incidents) =
        incidentConflicts ip wo (primaryIncident incidents') := fun wo hwo =>
      h.incidentConflicts_eq hperm hwo
    have hconflicts := hiff.mpr (by rw [List.flatMap_congr hsame])
    exact ⟨s'.diagnosis, reconcile_eq_ok_iff.mpr ⟨s', rfl⟩, hconflicts, hverdict hconflicts⟩

end Runs

/-- The contradictions of a diagnosis follow the links exactly if each work order that contradicts
some incident is linked to the first one and to no other, and all incidents have the same state. -/
theorem follows_links_iff {ip : Interpreter} {input : Input} {d : Diagnosis}
    (h : reconcile ip input = .ok d) : FollowsLinks ip input d ↔ FirstIsLinked ip input := by
  obtain ⟨s, rfl⟩ := reconcile_eq_ok_iff.mp h
  constructor
  · intro hfollows
    exact FollowsLinks.firstIsLinked s hfollows
  · intro hfirst
    exact hfirst.followsLinks s

/-- Completed work on the site of an incident that is not resolved. -/
def sameSite : Input where
  workOrders := [[("status", .str "completed"), ("site_id", .str "S1"),
    ("description", .str "splice fibre")]]
  incidents := [[("state", .str "new"), ("site_id", .str "S1"),
    ("affected_services", .arr [.str "fibre"])]]

theorem follows_links_iff_sameSite : ∃ d, reconcile .ascii sameSite = .ok d ∧
    (FollowsLinks .ascii sameSite d ↔ FirstIsLinked .ascii sameSite) := by
  obtain ⟨d, hd⟩ := returns_of_isOk (x := reconcile .ascii sameSite) (by decide +kernel)
  exact ⟨d, hd, follows_links_iff hd⟩

/-- Completed work, and an incident that has nothing to do with it. -/
def unrelated : Input where
  workOrders := [[("status", .str "completed")]]
  incidents := [[("state", .str "new")]]

theorem unrelated_incident_reported : ¬ ∀ (ip : Interpreter) (input : Input) (d : Diagnosis),
    reconcile ip input = .ok d → FollowsLinks ip input d := by
  intro h
  obtain ⟨d, hd⟩ := returns_of_isOk (x := reconcile .ascii unrelated) (by decide +kernel)
  obtain ⟨s, rfl⟩ := reconcile_eq_ok_iff.mp hd
  have hreported := s.reported_iff.mpr
    ⟨List.mem_singleton_self _, rfl, Or.inl ⟨by decide +kernel, by decide +kernel⟩⟩
  obtain ⟨link, hlink⟩ := (h .ascii unrelated _ hd).sound _ _ hreported
  have hnone : WorkOrderIncidentLinker.linkOf .ascii [("status", .str "completed")]
      [("state", .str "new")] = .ok none := by
    with_unfolding_all rfl
  rw [hnone] at hlink
  cases hlink

end MarginDiagnosisReconciler
end ControlFabric.Margin
