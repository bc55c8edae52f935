import ControlFabric.Lib.Reorder
import ControlFabric.Margin.Reconciler

/-! What the reconciliation of a contract, a work order and its incidents comes to: the joins by
name between links and records are undone, and the order of the records does not matter. -/
namespace ControlFabric.Margin
open Lib Ingress

/-! ### The work order and its incidents -/

namespace WorkOrderIncidentLinker

def incidentId (ip : Interpreter) (inc : JsonDict) : String := textField ip inc "incident_id"

/-- The link between the two, if the linker finds one. -/
def linkTo (ip : Interpreter) (wo inc : JsonDict) : Option CrossPlaneLink :=
  (linkOf ip wo inc).toOption.join

/-- The incidents that are linked to the work order. -/
def linkedTo (ip : Interpreter) (wo : JsonDict) (incidents : List JsonDict) : List JsonDict :=
  incidents.filter fun inc => (linkTo ip wo inc).isSome

/-- All incidents have names, and different ones. -/
structure Identified (ip : Interpreter) (incidents : List JsonDict) : Prop where
  named : ∀ inc ∈ incidents, incidentId ip inc ≠ ""
  apart : (incidents.map (incidentId ip)).Nodup

section Linked
variable {ip : Interpreter} {isoformat : ℤ → String} {wo inc : JsonDict}
  {incidents : List JsonDict} {link : CrossPlaneLink} {c : CrossPlaneConflict}

theorem linkOf_eq_some (h : linkOf ip wo inc = .ok (some link)) :
    link.targetId = incidentId ip inc ∧ link.linkType = "work_order_to_incident" := by
  unfold linkOf at h
  obtain ⟨services, -, h⟩ := bind_eq_ok_iff.mp h
  obtain ⟨names, -, h⟩ := bind_eq_ok_iff.mp h
  dsimp only at h
  rcases ite_eq_iff.mp h with ⟨-, h⟩ | ⟨-, h⟩
  · cases h
  · obtain rfl := Option.some.inj (Except.ok.inj h)
    exact ⟨rfl, rfl⟩

theorem linkTo_eq_some : linkTo ip wo inc = some link ↔ linkOf ip wo inc = .ok (some link) := by
  unfold linkTo
  cases linkOf ip wo inc with
  | error e => simp [Except.toOption]
  | ok found => simp [Except.toOption]

theorem Identified.of_perm {incidents' : List JsonDict} (h : Identified ip incidents)
    (hperm : incidents.Perm incidents') : Identified ip incidents' where
  named inc hinc := h.named inc (hperm.mem_iff.mpr hinc)
  apart := (hperm.map (incidentId ip)).nodup_iff.mp h.apart

/-- A record with a name is found under it. -/
theorem get?_incidentMap (h : Identified ip incidents) (hinc : inc ∈ incidents) :
    (incidentMap ip incidents).get? (incidentId ip inc) = some inc := by
  unfold incidentMap
  have hall : (incidents.filter fun inc => textField ip inc "incident_id" ≠ "") = incidents :=
    List.filter_eq_self.mpr fun other hother => decide_eq_true (h.named other hother)
  rw [hall]
  have hkey : incidentId ip inc ∈ incidents.foldl (fun d inc => d.set (incidentId ip inc) inc)
      (Dict.empty : Dict String JsonDict) :=
    Dict.mem_foldl_set.mpr (Or.inr (List.mem_map_of_mem hinc))
  obtain ⟨found, hfound⟩ := Dict.mem_iff_get?.mp hkey
  rcases Dict.get?_foldl_set hfound with ⟨hmem, hid⟩ | hempty
  · obtain rfl := List.inj_on_of_nodup_map h.apart hmem hinc hid
    exact hfound
  · cases hempty

/-- The conflicts of a link are those with the incident it was made for. -/
theorem detectConflicts_eq (isoformat : ℤ → String) (h : Identified ip incidents) (wo : JsonDict) :
    detectConflicts ip isoformat wo (incidents.filterMap (linkTo ip wo)) incidents =
      (linkedTo ip wo incidents).flatMap (conflictsWith ip isoformat wo) := by
  refine flatMap_filterMap_eq fun inc hinc link hlink => ?_
  obtain ⟨htarget, htype⟩ := linkOf_eq_some (linkTo_eq_some.mp hlink)
  have hnonempty : ¬ inc.isEmpty := by
    intro hempty
    obtain rfl := List.isEmpty_iff.mp hempty
    exact h.named [] hinc rfl
  rw [if_neg (not_not.mpr htype), htarget, get?_incidentMap h hinc]
  exact if_neg hnonempty

/-! ### Timing -/

/-- The incident was created after the work was to end and no later than it was to start. -/
def AfterEndBeforeStart (ip : Interpreter) (wo inc : JsonDict) : Prop :=
  ∃ start ∈ woStart ip wo, ∃ finish ∈ woEnd ip wo, ∃ created ∈ incCreated ip inc,
    finish < created ∧ created ≤ start

theorem mem_timingConflicts : c ∈ timingConflicts ip isoformat wo inc ↔
    ∃ start ∈ woStart ip wo, ∃ created ∈ incCreated ip inc,
      start < created ∧ 48 < hours (created - start) ∧ c = lateConflict isoformat start created ∨
      created ≤ start ∧ ∃ finish ∈ woEnd ip wo, finish < created ∧
        c = postCompletionConflict isoformat finish created := by
  unfold timingConflicts
  cases hstart : woStart ip wo with
  | none => simp
  | some start =>
    cases hcreated : incCreated ip inc with
    | none => simp
    | some created =>
      by_cases hlt : start < created
      · simp [hlt, hlt.not_ge]
      · cases hfinish : woEnd ip wo with
        | none => simp [hlt]
        | some finish => simp [hlt, not_lt.mp hlt]

theorem severity_of_mem (hc : c ∈ conflictsWith ip isoformat wo inc)
    (hnot : c ∉ timingConflicts ip isoformat wo inc) : c.severity = "warning" := by
  unfold conflictsWith at hc
  rcases List.mem_append.mp hc with hc | hpriority
  · rcases List.mem_append.mp hc with htiming | howner
    · exact absurd htiming hnot
    · unfold ownershipConflicts at howner
      obtain ⟨-, hc⟩ := List.mem_ite_nil_right.mp howner
      rw [List.mem_singleton.mp hc]
  · unfold priorityConflicts at hpriority
    obtain ⟨-, hc⟩ := List.mem_ite_nil_right.mp hpriority
    rw [List.mem_singleton.mp hc]

/-- An error is a fault after the work was to end, and is seen only where the work was to start
after that. -/
theorem exists_error_iff : (∃ c ∈ conflictsWith ip isoformat wo inc, c.severity = "error") ↔
    AfterEndBeforeStart ip wo inc := by
  constructor
  · rintro ⟨c, hc, herror⟩
    by_cases htiming : c ∈ timingConflicts ip isoformat wo inc
    · obtain ⟨start, hstart, created, hcreated, hcase⟩ := mem_timingConflicts.mp htiming
      rcases hcase with ⟨-, -, rfl⟩ | ⟨hle, finish, hfinish, hlt, rfl⟩
      · simp [lateConflict] at herror
      · exact ⟨start, hstart, finish, hfinish, created, hcreated, hlt, hle⟩
    · rw [severity_of_mem hc htiming] at herror
      simp at herror
  · rintro ⟨start, hstart, finish, hfinish, created, hcreated, hlt, hle⟩
    refine ⟨postCompletionConflict isoformat finish created, ?_, rfl⟩
    apply List.mem_append_left
    apply List.mem_append_left
    exact mem_timingConflicts.mpr
      ⟨start, hstart, created, hcreated, Or.inr ⟨hle, finish, hfinish, hlt, rfl⟩⟩

end Linked
end WorkOrderIncidentLinker

/-! ### The contract and the work order -/

namespace ContractWorkOrderLinker

/-- The links of an object for which the linker returns. -/
def linksFrom (ip : Interpreter) (wo obj : JsonDict) : List PlaneLink :=
  (rateLink ip wo obj).toList ++ (obligationLink ip wo obj).toList ++
    (scopeLink ip wo obj).toOption.join.toList

/-- The name under which an object is linked as an obligation. -/
def linkName (ip : Interpreter) (obj : JsonDict) : String :=
  orElse (objectId ip obj) (firstChars 60 (textField ip obj "description"))

section Linked
variable {ip : Interpreter} {wo obj : JsonDict} {objects : List JsonDict} {links : List PlaneLink}
  {l : PlaneLink}

theorem rateLink_type (h : rateLink ip wo obj = some l) : l.linkType = "rate_card_to_activity" := by
  unfold rateLink at h
  obtain ⟨-, h⟩ := Option.ite_none_right_eq_some.mp h
  rw [← Option.some.inj h]

theorem obligationLink_eq (h : obligationLink ip wo obj = some l) :
    isObligation ip obj ∧ l.linkType = "obligation_to_work_order" ∧
      l.sourceId = linkName ip obj := by
  unfold obligationLink at h
  obtain ⟨hkind, h⟩ := Option.ite_none_right_eq_some.mp h
  rw [← Option.some.inj h]
  exact ⟨hkind.1, rfl, rfl⟩

theorem scopeLink_type (h : scopeLink ip wo obj = .ok (some l)) :
    l.linkType = "scope_boundary_to_work_order" := by
  unfold scopeLink at h
  rcases ite_eq_iff.mp h with ⟨-, h⟩ | ⟨-, h⟩
  · cases h
  · obtain ⟨activities, -, h⟩ := bind_eq_ok_iff.mp h
    dsimp only at h
    rcases ite_eq_iff.mp h with ⟨-, h⟩ | ⟨-, h⟩
    · cases h
    · rw [← Option.some.inj (Except.ok.inj h)]

theorem linksOf_eq_ok (h : linksOf ip wo obj = .ok links) : links = linksFrom ip wo obj := by
  unfold linksOf at h
  obtain ⟨scope, hscope, h⟩ := bind_eq_ok_iff.mp h
  rw [← Except.ok.inj h, linksFrom, hscope]
  rfl

theorem flatten_linksOf {found : List (List PlaneLink)}
    (h : objects.mapM (linksOf ip wo) = .ok found) :
    found.flatten = objects.flatMap (linksFrom ip wo) := by
  rw [flatten_of_mapM h]
  refine List.flatMap_congr fun obj hobj => ?_
  obtain ⟨links, -, hlinks⟩ := returns_of_mapM h hobj
  rw [hlinks, ← linksOf_eq_ok hlinks]
  rfl

theorem mem_linksFrom : l ∈ linksFrom ip wo obj ↔ rateLink ip wo obj = some l ∨
    obligationLink ip wo obj = some l ∨ scopeLink ip wo obj = .ok (some l) := by
  unfold linksFrom
  rw [List.mem_append, List.mem_append, Option.mem_toList, Option.mem_toList, Option.mem_toList,
    or_assoc]
  cases scopeLink ip wo obj <;> simp [Except.toOption]

/-- Which names are found linked. -/
theorem mem_linkedObligationIds {id : String} :
    id ∈ linkedObligationIds (objects.flatMap (linksFrom ip wo)) ↔
      ∃ obj ∈ objects, (obligationLink ip wo obj).isSome ∧ linkName ip obj = id := by
  unfold linkedObligationIds
  simp only [List.mem_map, List.mem_filter, List.mem_flatMap, decide_eq_true_eq]
  constructor
  · rintro ⟨l, ⟨⟨obj, hobj, hl⟩, htype⟩, rfl⟩
    rcases mem_linksFrom.mp hl with hrate | hobligation | hscope
    · simp [rateLink_type hrate] at htype
    · exact ⟨obj, hobj, by simp [hobligation], (obligationLink_eq hobligation).2.2.symm⟩
    · simp [scopeLink_type hscope] at htype
  · rintro ⟨obj, hobj, hsome, rfl⟩
    obtain ⟨l, hl⟩ := Option.isSome_iff_exists.mp hsome
    obtain ⟨-, htype, hname⟩ := obligationLink_eq hl
    exact ⟨l, ⟨⟨obj, hobj, mem_linksFrom.mpr (Or.inr (Or.inl hl))⟩, htype⟩, hname⟩

/-- Rates are compared for the objects linked by their activity. -/
theorem filterMap_rateConflict :
    (objects.flatMap (linksFrom ip wo)).filterMap (rateConflict ip wo) =
      objects.filterMap fun obj => (rateLink ip wo obj).bind (rateConflict ip wo) := by
  rw [List.filterMap_flatMap, List.filterMap_eq_flatMap_toList]
  refine List.flatMap_congr fun obj _ => ?_
  have hothers : ∀ l ∈ (obligationLink ip wo obj).toList ++
      (scopeLink ip wo obj).toOption.join.toList, rateConflict ip wo l = none := by
    intro l hl
    have htype : l.linkType ≠ "rate_card_to_activity" := by
      rcases List.mem_append.mp hl with hobligation | hscope
      · rw [(obligationLink_eq (Option.mem_toList.mp hobligation)).2.1]
        decide
      · cases hlink : scopeLink ip wo obj with
        | error e => simp [hlink, Except.toOption] at hscope
        | ok found =>
          rw [hlink] at hscope
          obtain rfl : found = some l := Option.mem_toList.mp hscope
          rw [scopeLink_type hlink]
          decide
    exact if_neg fun h => htype h.1
  unfold linksFrom
  rw [List.append_assoc, List.filterMap_append, List.filterMap_eq_nil_iff.mpr hothers,
    List.append_nil]
  cases rateLink ip wo obj with
  | none => rfl
  | some l => cases hconflict : rateConflict ip wo l <;> simp [hconflict]

end Linked
end ContractWorkOrderLinker

namespace CrossPlaneReconciler
open ContractWorkOrderLinker WorkOrderIncidentLinker

/-- Each obligation is linked under the name it is looked up by, and nothing else is linked as an
obligation under it. -/
structure ObligationsNamed (ip : Interpreter) (contractData : ContractPlane) : Prop where
  one_name : ∀ o ∈ contractData.obligations,
    linkName ip (withType "obligation" o) = obligationId ip o
  apart : ∀ o ∈ contractData.obligations, ∀ obj ∈ collectContractObjects contractData,
    isObligation ip obj → linkName ip obj = obligationId ip o → obj = withType "obligation" o

/-- The obligations that the linker does not link. -/
def unlinked (ip : Interpreter) (wo : JsonDict) (obligations : List JsonDict) : List JsonDict :=
  obligations.filter fun o => (obligationLink ip wo (withType "obligation" o)).isNone

/-- The links are those of each object, and the conflicts those of each record: of rates linked, of
boundaries, and of obligations not linked. -/
structure ContractReconciled (ip : Interpreter) (contractData : ContractPlane) (wo : JsonDict)
    (r : Reconciliation) : Prop where
  links : r.links = (collectContractObjects contractData).flatMap (linksFrom ip wo)
  conflicts : r.conflicts =
    ((collectContractObjects contractData).filterMap fun obj =>
        (rateLink ip wo obj).bind (rateConflict ip wo)) ++
      (contractData.scopeBoundaries.filterMap fun boundary =>
        (scopeConflict ip wo boundary).toOption.join) ++
      (unlinked ip wo contractData.obligations).filterMap (coverageConflict ip wo [])

/-- The links are those to each incident, and the conflicts those with each incident linked; an
error is among them only for an incident after the end and before the start of the work. -/
structure IncidentsReconciled (ip : Interpreter) (isoformat : ℤ → String) (wo : JsonDict)
    (incidents : List JsonDict) (r : Reconciliation) : Prop where
  links : r.links = (incidents.filterMap (linkTo ip wo)).map CrossPlaneLink.modelDump
  conflicts : r.conflicts = (linkedTo ip wo incidents).flatMap (conflictsWith ip isoformat wo)
  error_iff : (∃ c ∈ r.conflicts, c.severity = "error") ↔
    ∃ inc ∈ linkedTo ip wo incidents, AfterEndBeforeStart ip wo inc

section Exact
variable {ip : Interpreter} {isoformat : ℤ → String} {contractData : ContractPlane}
  {wo : JsonDict} {incidentData : IncidentPlane} {r : Reconciliation}

theorem mem_collect_obligation {o : JsonDict} (ho : o ∈ contractData.obligations) :
    withType "obligation" o ∈ collectContractObjects contractData := by
  unfold collectContractObjects
  simp only [List.mem_append, List.mem_map]
  exact Or.inl (Or.inl (Or.inr ⟨o, ho, rfl⟩))

/-- Whether an obligation counts as covered is whether it is linked itself. -/
theorem obligationId_mem_iff (h : ObligationsNamed ip contractData) {o : JsonDict}
    (ho : o ∈ contractData.obligations) :
    obligationId ip o ∈ linkedObligationIds
        ((collectContractObjects contractData).flatMap (linksFrom ip wo)) ↔
      (obligationLink ip wo (withType "obligation" o)).isSome := by
  rw [mem_linkedObligationIds]
  constructor
  · rintro ⟨obj, hobj, hsome, hname⟩
    obtain ⟨l, hl⟩ := Option.isSome_iff_exists.mp hsome
    rwa [h.apart o ho obj hobj (obligationLink_eq hl).1 hname] at hsome
  · exact fun hsome => ⟨_, mem_collect_obligation ho, hsome, h.one_name o ho⟩

theorem coverageConflict_of_mem {ids : List String} {o : JsonDict} (h : obligationId ip o ∈ ids) :
    coverageConflict ip wo ids o = none := if_neg fun hall => hall.2.1 h

theorem coverageConflict_of_not_mem {ids : List String} {o : JsonDict}
    (h : obligationId ip o ∉ ids) : coverageConflict ip wo ids o = coverageConflict ip wo [] o := by
  unfold coverageConflict
  simp only [h, not_false_eq_true, List.not_mem_nil]

theorem filterMap_coverageConflict (h : ObligationsNamed ip contractData) :
    contractData.obligations.filterMap (coverageConflict ip wo (linkedObligationIds
        ((collectContractObjects contractData).flatMap (linksFrom ip wo)))) =
      (unlinked ip wo contractData.obligations).filterMap (coverageConflict ip wo []) := by
  unfold unlinked
  rw [List.filterMap_filter]
  refine List.filterMap_congr fun o ho => ?_
  by_cases hlinked : (obligationLink ip wo (withType "obligation" o)).isSome
  · have hnot : ¬ (obligationLink ip wo (withType "obligation" o)).isNone := by
      rw [Option.isNone_iff_eq_none, ← Option.not_isSome_iff_eq_none, not_not]
      exact hlinked
    rw [coverageConflict_of_mem ((obligationId_mem_iff h ho).mpr hlinked), if_neg hnot]
  · rw [coverageConflict_of_not_mem fun hmem => hlinked ((obligationId_mem_iff h ho).mp hmem),
      if_pos (by simpa using hlinked)]

/-- The steps of a reconciliation of the contract that returns. -/
theorem reconcileContract_eq_ok : reconcileContractToWorkOrder ip contractData wo = .ok r ↔
    ∃ found scope, (collectContractObjects contractData).mapM (linksOf ip wo) = .ok found ∧
      contractData.scopeBoundaries.mapM (scopeConflict ip wo) = .ok scope ∧
      r = {
        links := found.flatten
        conflicts := found.flatten.filterMap (rateConflict ip wo) ++ scope.reduceOption ++
          contractData.obligations.filterMap
            (coverageConflict ip wo (linkedObligationIds found.flatten))
        evidence := MarginEvidenceAssembler.assemble ip (collectContractObjects contractData) [wo]
          contractData.leakageTriggers } := by
  unfold reconcileContractToWorkOrder ContractWorkOrderLinker.link
    ContractWorkOrderLinker.detectConflicts
  simp only [bind_eq_ok_iff, pure_eq_ok, Except.ok.injEq]
  constructor
  · rintro ⟨_, ⟨found, hfound, rfl⟩, _, ⟨scope, hscope, rfl⟩, rfl⟩
    exact ⟨found, scope, hfound, hscope, rfl⟩
  · rintro ⟨found, scope, hfound, hscope, rfl⟩
    exact ⟨_, ⟨found, hfound, rfl⟩, _, ⟨scope, hscope, rfl⟩, rfl⟩

theorem contract_reconciled (h : reconcileContractToWorkOrder ip contractData wo = .ok r)
    (hnamed : ObligationsNamed ip contractData) : ContractReconciled ip contractData wo r := by
  obtain ⟨found, scope, hfound, hscope, rfl⟩ := reconcileContract_eq_ok.mp h
  have hlinks := flatten_linksOf hfound
  refine ⟨hlinks, ?_⟩
  dsimp only
  rw [hlinks, filterMap_rateConflict, reduceOption_of_mapM hscope,
    filterMap_coverageConflict hnamed]

theorem reconcileIncidents_eq_ok :
    reconcileWorkOrderToIncident ip isoformat wo incidentData = .ok r ↔
      ∃ found, incidentData.all.mapM (linkOf ip wo) = .ok found ∧
      r = {
        links := (incidentData.all.filterMap (linkTo ip wo)).map CrossPlaneLink.modelDump
        conflicts := WorkOrderIncidentLinker.detectConflicts ip isoformat wo
          (incidentData.all.filterMap (linkTo ip wo)) incidentData.all
        evidence := OpsEvidenceAssembler.assemble ip (incidentData.all.headD [])
          incidentData.serviceStates incidentData.escalation incidentData.nextAction } := by
  unfold reconcileWorkOrderToIncident WorkOrderIncidentLinker.link
  simp only [bind_eq_ok_iff, pure_eq_ok, Except.ok.injEq]
  constructor
  · rintro ⟨_, ⟨found, hfound, rfl⟩, rfl⟩
    have hreduce : found.reduceOption = incidentData.all.filterMap (linkTo ip wo) :=
      reduceOption_of_mapM hfound
    exact ⟨found, hfound, by rw [hreduce]⟩
  · rintro ⟨found, hfound, rfl⟩
    have hreduce : found.reduceOption = incidentData.all.filterMap (linkTo ip wo) :=
      reduceOption_of_mapM hfound
    exact ⟨_, ⟨found, hfound, rfl⟩, by rw [hreduce]⟩

theorem incidents_reconciled (h : reconcileWorkOrderToIncident ip isoformat wo incidentData = .ok r)
    (hid : Identified ip incidentData.all) :
    IncidentsReconciled ip isoformat wo incidentData.all r := by
  obtain ⟨found, -, rfl⟩ := reconcileIncidents_eq_ok.mp h
  have hconflicts := detectConflicts_eq isoformat hid wo
  refine ⟨rfl, hconflicts, ?_⟩
  dsimp only
  rw [hconflicts]
  constructor
  · rintro ⟨c, hc, herror⟩
    obtain ⟨inc, hinc, hc⟩ := List.mem_flatMap.mp hc
    exact ⟨inc, hinc, exists_error_iff.mp ⟨c, hc, herror⟩⟩
  · rintro ⟨inc, hinc, hafter⟩
    obtain ⟨c, hc, herror⟩ := exists_error_iff.mpr hafter
    exact ⟨c, List.mem_flatMap.mpr ⟨inc, hinc, hc⟩, herror⟩

end Exact

/-! ### Evidence -/

section Evidence
variable {ip : Interpreter}
  {objects objects' history triggers triggers' services services' : List JsonDict}
  {incident incident' escalation nextAction : JsonDict}

theorem domainsOf_of_perm {items items' : List EvidenceItem}
    (h : (items.map EvidenceItem.domain).Perm (items'.map EvidenceItem.domain)) :
    domainsOf items = domainsOf items' := Py.sorted_eq_iff.mpr h.dedup

/-- The same but for the order of the items. -/
structure SameEvidence (b b' : EvidenceBundle) : Prop where
  domain : (b.evidenceItems.map EvidenceItem.domain).Perm (b'.evidenceItems.map EvidenceItem.domain)
  domains : b.domains = b'.domains
  total : b.totalItems = b'.totalItems
  confidence : b.confidence = b'.confidence

theorem marginConfidence_perm {items items' : List EvidenceItem} (h : items.Perm items')
    (htriggers : triggers.Perm triggers') :
    MarginEvidenceAssembler.computeConfidence items triggers =
      MarginEvidenceAssembler.computeConfidence items' triggers' := by
  have hcount := (h.map EvidenceItem.domain).dedup.length_eq
  unfold MarginEvidenceAssembler.computeConfidence
  simp only [eq_nil_iff_of_perm h, eq_nil_iff_of_perm htriggers, hcount, h.any_eq, ne_eq]

theorem marginEvidence_perm (hobjects : objects.Perm objects')
    (htriggers : triggers.Perm triggers') :
    SameEvidence (MarginEvidenceAssembler.assemble ip objects history triggers)
      (MarginEvidenceAssembler.assemble ip objects' history triggers') := by
  have hitems := ((hobjects.map (MarginEvidenceAssembler.contractItem ip)).append_right
    (history.map (workOrderItem ip))).append
      (htriggers.map (MarginEvidenceAssembler.triggerItem ip))
  have hdomain := hitems.map EvidenceItem.domain
  refine ⟨hdomain, domainsOf_of_perm hdomain, hitems.length_eq, ?_⟩
  simp only [MarginEvidenceAssembler.assemble]
  rw [marginConfidence_perm hitems htriggers]

theorem opsEvidence_perm (hservices : services.Perm services') :
    SameEvidence (OpsEvidenceAssembler.assemble ip incident services escalation nextAction)
      (OpsEvidenceAssembler.assemble ip incident' services' escalation nextAction) where
  domain := by
    simp only [OpsEvidenceAssembler.assemble, List.map_append, List.map_cons, List.map_map,
      OpsEvidenceAssembler.incidentItem]
    exact (((hservices.map _).cons _).append_right _).append_right _
  domains := rfl
  total := by
    simp only [OpsEvidenceAssembler.assemble, List.length_append, List.length_cons,
      List.length_map, hservices.length_eq]
  confidence := by
    simp only [OpsEvidenceAssembler.assemble, OpsEvidenceAssembler.computeConfidence,
      eq_nil_iff_of_perm hservices, ne_eq]

theorem aggregate_same {b b' c c' : EvidenceBundle} (h : SameEvidence b b')
    (h' : SameEvidence c c') : SameEvidence (aggregate b c) (aggregate b' c') := by
  have hdomain : ((b.evidenceItems ++ c.evidenceItems).map EvidenceItem.domain).Perm
      ((b'.evidenceItems ++ c'.evidenceItems).map EvidenceItem.domain) := by
    rw [List.map_append, List.map_append]
    exact h.domain.append h'.domain
  refine ⟨hdomain, domainsOf_of_perm hdomain, ?_, ?_⟩
  · have hlength := hdomain.length_eq
    rwa [List.length_map, List.length_map] at hlength
  · simp only [aggregate, h.confidence, h'.confidence]

/-- What lies between some thousandths and one still does so when rounded to thousandths. -/
theorem round_mem {q low : ℚ} {k : ℤ} (hlow : low = k / 10 ^ 3) (h : q ∈ Set.Icc low 1) :
    Py.roundDigits q 3 ∈ Set.Icc low 1 := by
  have hone : (1 : ℚ) = (1000 : ℤ) / 10 ^ 3 := by norm_num
  rw [hlow, hone] at h ⊢
  exact Py.roundDigits_mem 3 h

theorem marginConfidence_mem (ip : Interpreter) (objects : List JsonDict) (wo : JsonDict)
    (triggers : List JsonDict) :
    (MarginEvidenceAssembler.assemble ip objects [wo] triggers).confidence ∈
      Set.Icc (2 / 5 : ℚ) 1 := by
  set items := objects.map (MarginEvidenceAssembler.contractItem ip) ++
    [wo].map (workOrderItem ip) ++
    triggers.map (MarginEvidenceAssembler.triggerItem ip) with hitems
  have hmem : workOrderItem ip wo ∈ items := by simp [hitems]
  have hwork : items.any fun item => item.domain = domainUtilitiesField :=
    List.any_eq_true.mpr ⟨_, hmem, decide_eq_true rfl⟩
  have hcount : (1 : ℚ) ≤ (items.map EvidenceItem.domain).dedup.length := by
    exact_mod_cast List.length_pos_of_mem (List.mem_dedup.mpr (List.mem_map_of_mem hmem))
  have hshare : (1 / 2 : ℚ) ≤ min (((items.map EvidenceItem.domain).dedup.length : ℚ) / 2) 1 := by
    refine le_min ?_ ?_ <;> linarith
  have hscore : MarginEvidenceAssembler.computeConfidence items triggers ∈
      Set.Icc (2 / 5 : ℚ) 1 := by
    unfold MarginEvidenceAssembler.computeConfidence
    rw [if_neg (List.ne_nil_of_mem hmem)]
    dsimp only
    rw [if_pos hwork]
    refine ⟨le_min ?_ (by norm_num), min_le_right _ _⟩
    split_ifs <;> linarith
  exact round_mem (k := 400) (by norm_num) hscore

theorem opsConfidence_mem (ip : Interpreter) (incident : JsonDict) (services : List JsonDict)
    (escalation nextAction : JsonDict) :
    (OpsEvidenceAssembler.assemble ip incident services escalation nextAction).confidence ∈
      Set.Icc (3 / 10 : ℚ) 1 := by
  have hscore : OpsEvidenceAssembler.computeConfidence services escalation nextAction ∈
      Set.Icc (3 / 10 : ℚ) 1 := by
    unfold OpsEvidenceAssembler.computeConfidence
    refine ⟨le_min ?_ (by norm_num), min_le_right _ _⟩
    split_ifs <;> norm_num
  exact round_mem (k := 300) (by norm_num) hscore

/-- Both bundles have some confidence, so that the mean is over both. -/
theorem aggregateConfidence_mem {b b' : EvidenceBundle} (h : b.confidence ∈ Set.Icc (2 / 5 : ℚ) 1)
    (h' : b'.confidence ∈ Set.Icc (3 / 10 : ℚ) 1) :
    (aggregate b b').confidence ∈ Set.Icc (7 / 20 : ℚ) 1 := by
  obtain ⟨hlow, hhigh⟩ := h
  obtain ⟨hlow', hhigh'⟩ := h'
  have hmean : meanConfidence [b.confidence, b'.confidence] =
      (b.confidence + b'.confidence) / 2 := by
    have hpos : 0 < b.confidence := by linarith
    have hpos' : 0 < b'.confidence := by linarith
    simp [meanConfidence, hpos, hpos']
  have hscore : meanConfidence [b.confidence, b'.confidence] ∈ Set.Icc (7 / 20 : ℚ) 1 := by
    rw [hmean]
    constructor <;> linarith
  exact round_mem (k := 350) (by norm_num) hscore

end Evidence

/-! ### The full reconciliation -/

/-- What is found is found for each pair by itself, and is all there is. -/
structure FullyReconciled (ip : Interpreter) (isoformat : ℤ → String) (contractData : ContractPlane)
    (wo : JsonDict) (incidentData : IncidentPlane) (r : FullReconciliation) : Prop where
  contract : ContractReconciled ip contractData wo r.contractToWo
  incidents : IncidentsReconciled ip isoformat wo incidentData.all r.woToIncident
  links : r.allLinks = r.contractToWo.links ++ r.woToIncident.links
  conflicts : r.allConflicts = r.contractToWo.conflicts ++ r.woToIncident.conflicts
  confidence : r.aggregateEvidence.confidence ∈ Set.Icc (7 / 20 : ℚ) 1

/-- The same records in another order. -/
structure ContractReordered (contractData contractData' : ContractPlane) : Prop where
  rateCard : contractData.rateCard.Perm contractData'.rateCard
  obligations : contractData.obligations.Perm contractData'.obligations
  scopeBoundaries : contractData.scopeBoundaries.Perm contractData'.scopeBoundaries
  controlObjects : contractData.controlObjects.Perm contractData'.controlObjects
  leakageTriggers : contractData.leakageTriggers.Perm contractData'.leakageTriggers

structure IncidentsReordered (incidentData incidentData' : IncidentPlane) : Prop where
  all : incidentData.all.Perm incidentData'.all
  serviceStates : incidentData.serviceStates.Perm incidentData'.serviceStates
  escalation : incidentData.escalation = incidentData'.escalation
  nextAction : incidentData.nextAction = incidentData'.nextAction

/-- The same but for the order, and for which incident stands in the evidence. -/
structure SameReconciliation (r r' : Reconciliation) : Prop where
  links : r.links.Perm r'.links
  conflicts : r.conflicts.Perm r'.conflicts
  evidence : SameEvidence r.evidence r'.evidence

structure SameFullReconciliation (r r' : FullReconciliation) : Prop where
  links : r.allLinks.Perm r'.allLinks
  conflicts : r.allConflicts.Perm r'.allConflicts
  evidence : SameEvidence r.aggregateEvidence r'.aggregateEvidence

section Full
variable {ip : Interpreter} {isoformat : ℤ → String} {contractData contractData' : ContractPlane}
  {wo : JsonDict} {incidentData incidentData' : IncidentPlane} {r : Reconciliation}

theorem collect_perm (h : ContractReordered contractData contractData') :
    (collectContractObjects contractData).Perm (collectContractObjects contractData') :=
  (((h.rateCard.map _).append (h.obligations.map _)).append (h.scopeBoundaries.map _)).append
    h.controlObjects

theorem contract_reordered (hr : reconcileContractToWorkOrder ip contractData wo = .ok r)
    (h : ContractReordered contractData contractData') :
    ∃ r', reconcileContractToWorkOrder ip contractData' wo = .ok r' ∧ SameReconciliation r r' := by
  obtain ⟨found, scope, hfound, hscope, rfl⟩ := reconcileContract_eq_ok.mp hr
  obtain ⟨found', hfound', hlinks⟩ := mapM_of_perm (collect_perm h) hfound
  obtain ⟨scope', hscope', hboundaries⟩ := mapM_of_perm h.scopeBoundaries hscope
  refine ⟨_, reconcileContract_eq_ok.mpr ⟨found', scope', hfound', hscope', rfl⟩, ?_⟩
  have hids : ∀ id,
      id ∈ linkedObligationIds found.flatten ↔ id ∈ linkedObligationIds found'.flatten :=
    fun id => ((hlinks.flatten.filter _).map _).mem_iff
  have hcoverage : coverageConflict ip wo (linkedObligationIds found.flatten) =
      coverageConflict ip wo (linkedObligationIds found'.flatten) := by
    funext o
    unfold coverageConflict
    simp only [hids]
  refine ⟨hlinks.flatten, ?_, marginEvidence_perm (collect_perm h) h.leakageTriggers⟩
  dsimp only
  rw [hcoverage]
  exact ((hlinks.flatten.filterMap _).append (hboundaries.filterMap _)).append
    (h.obligations.filterMap _)

theorem incidents_reordered (hr : reconcileWorkOrderToIncident ip isoformat wo incidentData = .ok r)
    (hid : Identified ip incidentData.all) (h : IncidentsReordered incidentData incidentData') :
    ∃ r', reconcileWorkOrderToIncident ip isoformat wo incidentData' = .ok r' ∧
      SameReconciliation r r' := by
  obtain ⟨found, hfound, rfl⟩ := reconcileIncidents_eq_ok.mp hr
  obtain ⟨found', hfound', -⟩ := mapM_of_perm h.all hfound
  refine ⟨_, reconcileIncidents_eq_ok.mpr ⟨found', hfound', rfl⟩, ?_⟩
  refine ⟨(h.all.filterMap _).map _, ?_, ?_⟩
  · dsimp only
    rw [detectConflicts_eq isoformat hid, detectConflicts_eq isoformat (hid.of_perm h.all)]
    exact (h.all.filter _).flatMap_right _
  · dsimp only
    rw [h.escalation, h.nextAction]
    exact opsEvidence_perm h.serviceStates

theorem fullReconciliation_eq_ok {r : FullReconciliation} :
    fullReconciliation ip isoformat contractData wo incidentData = .ok r ↔
      ∃ contract incidents, reconcileContractToWorkOrder ip contractData wo = .ok contract ∧
        reconcileWorkOrderToIncident ip isoformat wo incidentData = .ok incidents ∧
        r = {
          allLinks := contract.links ++ incidents.links
          allConflicts := contract.conflicts ++ incidents.conflicts
          aggregateEvidence := aggregate contract.evidence incidents.evidence
          contractToWo := contract
          woToIncident := incidents } := by
  unfold fullReconciliation
  simp only [bind_eq_ok_iff, pure_eq_ok, Except.ok.injEq]
  constructor
  · rintro ⟨contract, hcontract, incidents, hincidents, rfl⟩
    exact ⟨contract, incidents, hcontract, hincidents, rfl⟩
  · rintro ⟨contract, incidents, hcontract, hincidents, rfl⟩
    exact ⟨contract, hcontract, incidents, hincidents, rfl⟩

/-- Every link and every conflict of a full reconciliation is one of a pair of records, and none is
missed or made twice, if the records go by names. -/
theorem full_reconciliation_exact {r : FullReconciliation}
    (h : fullReconciliation ip isoformat contractData wo incidentData = .ok r)
    (hnamed : ObligationsNamed ip contractData) (hid : Identified ip incidentData.all) :
    FullyReconciled ip isoformat contractData wo incidentData r := by
  obtain ⟨contract, incidents, hcontract, hincidents, rfl⟩ := fullReconciliation_eq_ok.mp h
  refine ⟨contract_reconciled hcontract hnamed, incidents_reconciled hincidents hid, rfl, rfl, ?_⟩
  obtain ⟨found, scope, -, -, rfl⟩ := reconcileContract_eq_ok.mp hcontract
  obtain ⟨found, -, rfl⟩ := reconcileIncidents_eq_ok.mp hincidents
  exact aggregateConfidence_mem (marginConfidence_mem ..) (opsConfidence_mem ..)

/-- A contract with a rate and two obligations. -/
def meterContract : ContractPlane where
  rateCard := [[("activity", .str "replace meter"), ("rate", .int 100)]]
  obligations := [[("clause_id", .str "C1"), ("description", .str "replace meter")],
    [("clause_id", .str "C2"), ("description", .str "keep records")]]

def meterOrder : JsonDict :=
  [("work_order_id", .str "W1"), ("description", .str "replace meter"), ("rate", .int 120),
    ("site_id", .str "S1"), ("assigned_to", .str "ann")]

def meterIncidents : IncidentPlane where
  incidents := some [
    [("incident_id", .str "I1"), ("site_id", .str "S1"), ("description", .str "replace meter"),
      ("assigned_to", .str "bob")],
    [("incident_id", .str "I2"), ("site_id", .str "S2"), ("description", .str "no supply")]]

theorem full_reconciliation_exact_meter :
    ∃ r, fullReconciliation .ascii (fun _ => "") meterContract meterOrder meterIncidents = .ok r ∧
      FullyReconciled .ascii (fun _ => "") meterContract meterOrder meterIncidents r := by
  obtain ⟨r, hr⟩ := returns_of_isOk (show (fullReconciliation .ascii (fun _ => "") meterContract
    meterOrder meterIncidents).isOk = true by decide +kernel)
  refine ⟨r, hr, full_reconciliation_exact hr ⟨by decide +kernel, ?_⟩
    ⟨by decide +kernel, by decide +kernel⟩⟩
  intro o ho obj hobj hkind hname
  simp only [meterContract, List.mem_cons, List.not_mem_nil, or_false] at ho
  simp only [collectContractObjects, meterContract, List.map_cons, List.map_nil, List.cons_append,
    List.nil_append, List.mem_cons, List.append_nil, List.not_mem_nil, or_false] at hobj
  rcases hobj with rfl | rfl | rfl
  · exact absurd hkind (by decide +kernel)
  · rcases ho with rfl | rfl
    · rfl
    · exact absurd hname (by decide +kernel)
  · rcases ho with rfl | rfl
    · exact absurd hname (by decide +kernel)
    · rfl

/-- The order of the records makes no difference but to the order of what is found and to which
incident stands in the evidence. -/
theorem full_reconciliation_reordered {r : FullReconciliation}
    (h : fullReconciliation ip isoformat contractData wo incidentData = .ok r)
    (hid : Identified ip incidentData.all)
    (hcontract : ContractReordered contractData contractData')
    (hincidents : IncidentsReordered incidentData incidentData') :
    ∃ r', fullReconciliation ip isoformat contractData' wo incidentData' = .ok r' ∧
      SameFullReconciliation r r' := by
  obtain ⟨contract, incidents, hc, hi, rfl⟩ := fullReconciliation_eq_ok.mp h
  obtain ⟨contract', hc', hsame⟩ := contract_reordered hc hcontract
  obtain ⟨incidents', hi', hsame'⟩ := incidents_reordered hi hid hincidents
  refine ⟨_, fullReconciliation_eq_ok.mpr ⟨contract', incidents', hc', hi', rfl⟩, ?_⟩
  exact ⟨hsame.links.append hsame'.links, hsame.conflicts.append hsame'.conflicts,
    aggregate_same hsame.evidence hsame'.evidence⟩

/-- The same incidents, the last one first. -/
def meterIncidentsReversed : IncidentPlane where
  incidents := some meterIncidents.all.reverse

theorem full_reconciliation_reordered_meter :
    ∃ r r',
      fullReconciliation .ascii (fun _ => "") meterContract meterOrder meterIncidents = .ok r ∧
      fullReconciliation .ascii (fun _ => "") meterContract meterOrder meterIncidentsReversed =
        .ok r' ∧ SameFullReconciliation r r' := by
  obtain ⟨r, hr⟩ := returns_of_isOk (show (fullReconciliation .ascii (fun _ => "") meterContract
    meterOrder meterIncidents).isOk = true by decide +kernel)
  obtain ⟨r', hr', hsame⟩ := full_reconciliation_reordered hr ⟨by decide +kernel, by decide +kernel⟩
    (⟨.rfl, .rfl, .rfl, .rfl, .rfl⟩ : ContractReordered meterContract meterContract)
    (⟨meterIncidents.all.reverse_perm.symm, .rfl, rfl, rfl⟩ :
      IncidentsReordered meterIncidents meterIncidentsReversed)
  exact ⟨r, r', hr, hr', hsame⟩

end Full
end CrossPlaneReconciler
end ControlFabric.Margin
