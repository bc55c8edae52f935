import ControlFabric.Fabric.Consistency
import ControlFabric.Fabric.Reachable

/-! The check of one plane agrees with the check of its tenant exactly when no link of the tenant
leaves the plane: the other end of such a link is stored, and yet reported as missing. -/
namespace ControlFabric.Fabric
open Lib Py Method

/-! ### No object contradicts itself -/

def NoSelfContradiction (s : GraphService) : Prop :=
  ∀ id link, s.repo.links.get? id = some link → link.linkType = .contradicts →
    link.sourceId ≠ link.targetId

theorem GraphPolicyEngine.ends_ne_of_validateLink {engine : GraphPolicyEngine}
    {create : ControlLinkCreate} {source target : ControlObject}
    (h : engine.validateLink create source target = []) : create.sourceId ≠ create.targetId := by
  intro heq
  unfold validateLink at h
  rw [if_pos heq] at h
  cases h

theorem NoSelfContradiction.storeLink {s : GraphService} (h : NoSelfContradiction s)
    {link : ControlLink} (hlink : link.linkType = .contradicts → link.sourceId ≠ link.targetId) :
    NoSelfContradiction (GraphService.storeLink link s) := by
  intro id link' hget
  rw [GraphService.storeLink_links, Dict.get?_set] at hget
  split at hget
  next =>
    obtain rfl := Option.some.inj hget
    exact hlink
  next => exact h id link' hget

theorem Effect.noSelfContradiction {fresh : Set String} {uc : Unicode} {s s' : GraphService}
    {op : GraphServiceOp} {raised : Bool} (heffect : Effect fresh uc s op raised s')
    (h : NoSelfContradiction s) : NoSelfContradiction s' := by
  cases heffect with
  | linked _ _ haccepted hlinked =>
    apply h.storeLink
    intro _
    rw [hlinked.sourceId, hlinked.targetId]
    exact GraphPolicyEngine.ends_ne_of_validateLink haccepted
  | @superseded _ original' newObj _ _ _ event _ _ _ _ hsuperseded _ =>
    have hkept : NoSelfContradiction (GraphService.storeObject newObj
        ((GraphService.storeObject original' s).logged [event])) := h
    apply hkept.storeLink
    intro hcontradicts
    rw [hsuperseded.linkType] at hcontradicts
    cases hcontradicts
  | _ => exact h

theorem noSelfContradiction_serviceRun (rt : Runtime) (uc : Unicode) (policy : GraphPolicyEngine)
    (checker : GraphConsistencyChecker) (listeners : List FabricAuditListener) (env : Env)
    (ops : List GraphServiceOp) :
    NoSelfContradiction (serviceRun rt uc ⟨.new policy checker listeners, env⟩ ops).self := by
  let w : World GraphService := ⟨.new policy checker listeners, env⟩
  have hnew : w.self.repo.Keyed ∧ NoSelfContradiction w.self := by
    constructor
    · intro id obj hget
      cases hget
    · intro id link hget
      cases hget
  have hrun : (serviceRun rt uc w ops).self.repo.Keyed ∧
      NoSelfContradiction (serviceRun rt uc w ops).self := by
    refine run_invariant (I := fun w => w.self.repo.Keyed ∧ NoSelfContradiction w.self)
      (serviceStep rt uc) (fun op _ w h => ?_) hnew
    obtain ⟨_, _, _, _, hleads, heffect⟩ := outcome_call rt uc h.1 op
    have hstep : (serviceStep rt uc op w).self = _ := congrArg World.self hleads.self_after
    exact ⟨keyed_serviceStep h.1 op, hstep ▸ heffect.noSelfContradiction h.2⟩
  exact hrun.2

namespace GraphConsistencyChecker
variable {objects : List ControlObject} {links : List ControlLink} {link : ControlLink}
  {issue : ConsistencyIssue}

/-! ### The issues of a check -/

/-- The issue is no error, and not about a dangling end. -/
structure Mild (issue : ConsistencyIssue) : Prop where
  severity : issue.severity ≠ .error ∧ issue.severity ≠ .critical
  issueType : issue.issueType ≠ .danglingLinkSource ∧ issue.issueType ≠ .danglingLinkTarget

theorem mem_keys_contradictions {pair : List String} (h : pair ∈ contradictions links) :
    ∃ link ∈ links, link.linkType = .contradicts ∧ pair = endPair link := by
  induction links using List.reverseRecOn with
  | nil => cases h
  | append_singleton links last ih =>
    unfold contradictions at h
    rw [List.foldl_concat] at h
    split at h
    next htype =>
      rcases Dict.mem_set.mp h with rfl | hold
      · exact ⟨last, by simp, htype, rfl⟩
      · obtain ⟨link, hlink, hrest⟩ := ih hold
        exact ⟨link, List.mem_append_left _ hlink, hrest⟩
    next =>
      obtain ⟨link, hlink, hrest⟩ := ih h
      exact ⟨link, List.mem_append_left _ hlink, hrest⟩

theorem contradictionDetected_ok (count : ℕ) (h : link.sourceId ≠ link.targetId) :
    ∃ issue, contradictionDetected (endPair link, count) = .ok issue ∧ Mild issue := by
  unfold endPair
  rw [if_neg h]
  split
  · exact ⟨_, rfl, ⟨by simp, by simp⟩⟩
  · exact ⟨_, rfl, ⟨by simp, by simp⟩⟩

theorem mapM_contradictionDetected (entries : List (List String × ℕ))
    (h : ∀ entry ∈ entries, ∃ link : ControlLink, link.sourceId ≠ link.targetId ∧
      entry.1 = endPair link) :
    ∃ issues, entries.mapM contradictionDetected = .ok issues ∧ ∀ issue ∈ issues, Mild issue := by
  induction entries with
  | nil => exact ⟨[], rfl, fun issue hissue => absurd hissue List.not_mem_nil⟩
  | cons entry entries ih =>
    obtain ⟨pair, count⟩ := entry
    obtain ⟨link, hne, hpair⟩ := h _ List.mem_cons_self
    obtain rfl : pair = endPair link := hpair
    obtain ⟨issue, hissue, hmild⟩ := contradictionDetected_ok count hne
    obtain ⟨issues, hissues, hall⟩ := ih fun e he => h e (List.mem_cons_of_mem _ he)
    refine ⟨issue :: issues, by rw [List.mapM_cons, hissue, hissues]; rfl, ?_⟩
    exact List.forall_mem_cons.mpr ⟨hmild, hall⟩

theorem missingExpectedLink_mild {obj : ControlObject}
    (h : missingExpectedLink links obj = some issue) : Mild issue := by
  unfold missingExpectedLink at h
  split at h
  · obtain rfl := Option.some.inj h
    exact ⟨by simp, by simp⟩
  · cases h

theorem orphanedObject_mild {obj : ControlObject} (h : orphanedObject links obj = some issue) :
    Mild issue := by
  unfold orphanedObject at h
  split at h
  · cases h
  · obtain rfl := Option.some.inj h
    exact ⟨by simp, by simp⟩

theorem staleReferences_mild {obj : ControlObject} (h : issue ∈ staleReferences objects links obj) :
    Mild issue := by
  unfold staleReferences at h
  split at h
  · obtain ⟨link, -, hsome⟩ := List.mem_filterMap.mp h
    obtain ⟨src, -, rfl⟩ := Option.map_eq_some_iff.mp hsome
    exact ⟨by simp, by simp⟩
  · cases h

theorem isolatedPlanes_mild (h : issue ∈ isolatedPlanes objects links) : Mild issue := by
  unfold isolatedPlanes at h
  split at h
  · obtain ⟨plane, -, hsome⟩ := List.mem_filterMap.mp h
    unfold isolatedPlane at hsome
    dsimp only at hsome
    split at hsome
    · obtain rfl := Option.some.inj hsome
      exact ⟨by simp, by simp⟩
    · cases hsome
  · cases h

/-- What a dangling link is reported as. -/
theorem mem_danglingLink {objIds : List String} (h : issue ∈ danglingLink objIds link) :
    issue.severity = .error ∧ issue.linkId = some link.id ∧
      (issue.issueType = .danglingLinkSource ∧ link.sourceId ∉ objIds ∨
        issue.issueType = .danglingLinkTarget ∧ link.targetId ∉ objIds) := by
  unfold danglingLink at h
  rcases List.mem_append.mp h with h | h
  · split at h
    next hsource =>
      obtain rfl := List.mem_singleton.mp h
      exact ⟨rfl, rfl, Or.inl ⟨rfl, hsource⟩⟩
    next => cases h
  · split at h
    next htarget =>
      obtain rfl := List.mem_singleton.mp h
      exact ⟨rfl, rfl, Or.inr ⟨rfl, htarget⟩⟩
    next => cases h

theorem exists_dangling_source {objIds : List String} (h : link.sourceId ∉ objIds) :
    ∃ issue ∈ danglingLink objIds link,
      issue.linkId = some link.id ∧ issue.issueType = .danglingLinkSource := by
  unfold danglingLink
  rw [if_pos h]
  exact ⟨_, List.mem_append_left _ (List.mem_singleton_self _), rfl, rfl⟩

theorem exists_dangling_target {objIds : List String} (h : link.targetId ∉ objIds) :
    ∃ issue ∈ danglingLink objIds link,
      issue.linkId = some link.id ∧ issue.issueType = .danglingLinkTarget := by
  unfold danglingLink
  rw [if_pos h]
  exact ⟨_, List.mem_append_right _ (List.mem_singleton_self _), rfl, rfl⟩

/-- A check of links that contradict no object itself returns; besides the dangling ends it finds
nothing that is an error. -/
theorem check_ok (objects : List ControlObject)
    (h : ∀ link ∈ links, link.linkType = .contradicts → link.sourceId ≠ link.targetId) :
    ∃ findings others, check objects links = .ok findings ∧
      findings.issues = links.flatMap (danglingLink (objects.map ControlObject.id)) ++ others ∧
      (∀ issue ∈ others, Mild issue) ∧
      findings.isConsistent =
        findings.issues.all fun i => i.severity ≠ .error ∧ i.severity ≠ .critical := by
  obtain ⟨contradicting, hmapM, hmild⟩ :=
    mapM_contradictionDetected (contradictions links).entries fun entry hentry => by
      obtain ⟨link, hlink, htype, hpair⟩ := mem_keys_contradictions
        (Dict.mem_iff_keys.mpr (List.mem_map_of_mem hentry))
      exact ⟨link, h link hlink htype, hpair⟩
  have hcheck : check objects links = (do
      let contradicting ← (contradictions links).entries.mapM contradictionDetected
      let issues := links.flatMap (danglingLink (objects.map ControlObject.id)) ++ contradicting ++
        objects.filterMap (missingExpectedLink links) ++
        objects.filterMap (orphanedObject links) ++
        objects.flatMap (staleReferences objects links) ++ isolatedPlanes objects links
      return {
        totalObjects := objects.length
        totalLinks := links.length
        issues := issues
        isConsistent := issues.all fun i => i.severity ≠ .error ∧ i.severity ≠ .critical }) := rfl
  rw [hcheck, hmapM]
  refine ⟨_, contradicting ++ objects.filterMap (missingExpectedLink links) ++
    objects.filterMap (orphanedObject links) ++
    objects.flatMap (staleReferences objects links) ++ isolatedPlanes objects links, rfl,
    by simp only [List.append_assoc], ?_, rfl⟩
  simp only [List.forall_mem_append]
  refine ⟨⟨⟨⟨hmild, ?_⟩, ?_⟩, ?_⟩, fun issue hissue => isolatedPlanes_mild hissue⟩
  · intro issue hissue
    obtain ⟨obj, -, hsome⟩ := List.mem_filterMap.mp hissue
    exact missingExpectedLink_mild hsome
  · intro issue hissue
    obtain ⟨obj, -, hsome⟩ := List.mem_filterMap.mp hissue
    exact orphanedObject_mild hsome
  · intro issue hissue
    obtain ⟨obj, -, hstale⟩ := List.mem_flatMap.mp hissue
    exact staleReferences_mild hstale

end GraphConsistencyChecker

/-! ### One plane of a tenant -/

namespace InMemoryGraphRepository
variable (repo : InMemoryGraphRepository) (tenantId : String) (plane : PlaneType)

/-- The object is stored, and one of the tenant in the plane. -/
def Inside (id : String) : Prop :=
  ∃ obj, repo.objects.get? id = some obj ∧ obj.tenantId = tenantId ∧ obj.plane = plane

/-- No link of the tenant joins an object inside to a stored one outside. -/
def PlaneClosed : Prop :=
  ∀ link ∈ repo.links.values, link.tenantId = tenantId →
    repo.Inside tenantId plane link.sourceId ∨ repo.Inside tenantId plane link.targetId →
      (link.sourceId ∈ repo.objects → repo.Inside tenantId plane link.sourceId) ∧
        (link.targetId ∈ repo.objects → repo.Inside tenantId plane link.targetId)

variable {repo tenantId plane}

theorem mem_checkedObjects_ids (hkeyed : repo.Keyed) {id : String} :
    id ∈ (repo.checkedObjects tenantId (some plane)).map ControlObject.id ↔
      repo.Inside tenantId plane id := by
  simp only [List.mem_map, checkedObjects, listObjects, List.mem_filter, decide_eq_true_eq,
    Option.mem_some_iff, forall_eq', Option.not_mem_none, IsEmpty.forall_iff, implies_true, and_true]
  constructor
  · rintro ⟨obj, ⟨hmem, htenant, hplane⟩, rfl⟩
    obtain ⟨id, hget⟩ := Dict.mem_values.mp hmem
    rw [hkeyed id obj hget]
    exact ⟨obj, hget, htenant, hplane⟩
  · rintro ⟨obj, hget, htenant, hplane⟩
    exact ⟨obj, ⟨Dict.mem_values.mpr ⟨id, hget⟩, htenant, hplane⟩, hkeyed id obj hget⟩

theorem mem_checkedLinks (hkeyed : repo.Keyed) {link : ControlLink} :
    link ∈ repo.checkedLinks tenantId (some plane) ↔
      link ∈ repo.links.values ∧ link.tenantId = tenantId ∧
        (repo.Inside tenantId plane link.sourceId ∨ repo.Inside tenantId plane link.targetId) := by
  unfold checkedLinks
  simp only [Option.isSome_some, if_true, List.mem_filter, getAllLinks, decide_eq_true_eq,
    mem_checkedObjects_ids hkeyed, and_assoc]

theorem checkedLinks_stored {link : ControlLink} {plane : Option PlaneType}
    (h : link ∈ repo.checkedLinks tenantId plane) : link ∈ repo.links.values := by
  unfold checkedLinks at h
  split at h
  · exact (List.mem_filter.mp (List.mem_filter.mp h).1).1
  · exact (List.mem_filter.mp h).1

end InMemoryGraphRepository

namespace ConsistencyFindings

/-- Only an end that is absent from the repository is reported as dangling. -/
def DanglingAbsent (repo : InMemoryGraphRepository) (findings : ConsistencyFindings) : Prop :=
  ∀ issue ∈ findings.issues, ∀ id ∈ issue.linkId, ∀ link ∈ repo.links.get? id,
    (issue.issueType = .danglingLinkSource → link.sourceId ∉ repo.objects) ∧
      (issue.issueType = .danglingLinkTarget → link.targetId ∉ repo.objects)

end ConsistencyFindings

/-- Both checks return; the check of the plane reports only absent ends as dangling, and finds the
plane consistent if the check of the tenant does. -/
def PlaneCheckAgrees (rt : Runtime) (w : World GraphService) (tenantId : String) (plane : PlaneType) :
    Prop :=
  ∃ full part w₁ w₂,
    (GraphService.consistencyFindings rt tenantId none).run w = .ok full w₁ ∧
    (GraphService.consistencyFindings rt tenantId (some plane)).run w = .ok part w₂ ∧
    part.DanglingAbsent w.self.repo ∧ (full.isConsistent → part.isConsistent)

section Agreement
variable {rt : Runtime} {w : World GraphService} {tenantId : String} {plane : PlaneType}

variable (rt) in
/-- A check that the checker survives returns its findings unless a listener objects. -/
theorem run_consistencyFindings {plane : Option PlaneType} {findings : ConsistencyFindings}
    (hcheck : GraphConsistencyChecker.check (w.self.repo.checkedObjects tenantId plane)
      (w.self.repo.checkedLinks tenantId plane) = .ok findings) :
    (w.self.audit.objection = none ∧
      ∃ v, (GraphService.consistencyFindings rt tenantId plane).run w = .ok findings v) ∨
    w.self.audit.objection ≠ none ∧
      ∃ e v, (GraphService.consistencyFindings rt tenantId plane).run w = .error e v := by
  obtain ⟨event, hevent, -⟩ := graphConsistencyChecked_about rt tenantId findings.isConsistent
    findings.errorCount findings.warningCount "system"
  unfold GraphService.consistencyFindings
  rw [EStateM.run_bind, run_self]
  dsimp only
  rw [EStateM.run_bind, hcheck, run_lift_ok]
  dsimp only
  rw [EStateM.run_bind, hevent]
  rcases leads_hook rt event w with ⟨hnone, hrun⟩ | ⟨hsome, e, hrun⟩
  · rw [hrun]
    exact Or.inl ⟨hnone, _, rfl⟩
  · rw [hrun]
    exact Or.inr ⟨hsome, e, _, rfl⟩

theorem checkedLinks_ne (h : NoSelfContradiction w.self) (tenantId : String)
    (plane : Option PlaneType) :
    ∀ link ∈ w.self.repo.checkedLinks tenantId plane, link.linkType = .contradicts →
      link.sourceId ≠ link.targetId := by
  intro link hlink
  obtain ⟨id, hget⟩ := Dict.mem_values.mp (InMemoryGraphRepository.checkedLinks_stored hlink)
  exact h id link hget

open GraphConsistencyChecker InMemoryGraphRepository in
theorem planeCheckAgrees_iff {ids : Set String} (hknown : Known ids w.self)
    (hself : NoSelfContradiction w.self) :
    PlaneCheckAgrees rt w tenantId plane ↔
      w.self.audit.objection = none ∧ w.self.repo.PlaneClosed tenantId plane := by
  obtain ⟨full, -, hfull, -⟩ := check_ok (w.self.repo.checkedObjects tenantId none)
    (checkedLinks_ne hself tenantId none)
  obtain ⟨part, others, hpart, hissues, hmild, hconsistent⟩ :=
    check_ok (w.self.repo.checkedObjects tenantId (some plane))
      (checkedLinks_ne hself tenantId (some plane))
  have hends (link : ControlLink) (hlink : link ∈ w.self.repo.links.values) :
      link.sourceId ∈ w.self.repo.objects ∧ link.targetId ∈ w.self.repo.objects := by
    obtain ⟨id, hget⟩ := Dict.mem_values.mp hlink
    exact hknown.ends id link hget
  constructor
  · rintro ⟨_, found, _, _, -, hrun, habsent, -⟩
    rcases run_consistencyFindings rt hpart with ⟨hnone, v, hrun'⟩ | ⟨-, e, v, hrun'⟩
    · rw [hrun'] at hrun
      cases hrun
      refine ⟨hnone, fun link hlink htenant hinside => ?_⟩
      have hchecked := (mem_checkedLinks hknown.keyed).mpr ⟨hlink, htenant, hinside⟩
      obtain ⟨id, hget⟩ := Dict.mem_values.mp hlink
      have hid : w.self.repo.links.get? link.id = some link :=
        (hknown.link id link hget).1 ▸ hget
      have hmem {issue : ConsistencyIssue} (h : issue ∈ danglingLink
          ((w.self.repo.checkedObjects tenantId (some plane)).map ControlObject.id) link) :
          issue ∈ part.issues := by
        rw [hissues]
        exact List.mem_append_left _ (List.mem_flatMap.mpr ⟨link, hchecked, h⟩)
      constructor
      · intro hstored
        by_contra hout
        obtain ⟨issue, hissue, hlinkId, htype⟩ := exists_dangling_source
          (fun h => hout ((mem_checkedObjects_ids hknown.keyed).mp h))
        exact (habsent issue (hmem hissue) link.id hlinkId link hid).1 htype hstored
      · intro hstored
        by_contra hout
        obtain ⟨issue, hissue, hlinkId, htype⟩ := exists_dangling_target
          (fun h => hout ((mem_checkedObjects_ids hknown.keyed).mp h))
        exact (habsent issue (hmem hissue) link.id hlinkId link hid).2 htype hstored
    · rw [hrun'] at hrun
      cases hrun
  · rintro ⟨hnone, hclosed⟩
    have hnoDangling : part.issues = others := by
      rw [hissues, List.flatMap_eq_nil_iff.mpr, List.nil_append]
      intro link hchecked
      obtain ⟨hlink, htenant, hinside⟩ := (mem_checkedLinks hknown.keyed).mp hchecked
      obtain ⟨hsource, htarget⟩ := hclosed link hlink htenant hinside
      obtain ⟨hsourceStored, htargetStored⟩ := hends link hlink
      refine List.eq_nil_iff_forall_not_mem.mpr fun issue hissue => ?_
      obtain ⟨-, -, ⟨-, hout⟩ | ⟨-, hout⟩⟩ := mem_danglingLink hissue
      · exact hout ((mem_checkedObjects_ids hknown.keyed).mpr (hsource hsourceStored))
      · exact hout ((mem_checkedObjects_ids hknown.keyed).mpr (htarget htargetStored))
    rcases run_consistencyFindings rt hfull with ⟨-, v, hrunFull⟩ | ⟨hsome, -⟩
    · rcases run_consistencyFindings rt hpart with ⟨-, v', hrunPart⟩ | ⟨hsome, -⟩
      · refine ⟨full, part, v, v', hrunFull, hrunPart, ?_, fun _ => ?_⟩
        · intro issue hissue id _ link _
          have h := (hmild issue (hnoDangling ▸ hissue)).issueType
          exact ⟨fun htype => absurd htype h.1, fun htype => absurd htype h.2⟩
        · rw [hconsistent, hnoDangling, List.all_eq_true]
          intro issue hissue
          exact decide_eq_true (hmild issue hissue).severity
      · exact absurd hnone hsome
    · exact absurd hnone hsome

end Agreement

/-- In every state that a service reaches, the check of a plane agrees with the check of its tenant
exactly when no listener objects to the event and no link of the tenant leaves the plane. -/
theorem plane_check_agrees_iff (rt : Runtime) (uc : Unicode) (policy : GraphPolicyEngine)
    (listeners : List FabricAuditListener) (env : Env) (ops : List GraphServiceOp)
    (tenantId : String) (plane : PlaneType) :
    let w := serviceRun rt uc
      ⟨.new policy GraphConsistencyChecker.builtIn listeners, env⟩ ops
    PlaneCheckAgrees rt w tenantId plane ↔
      w.self.audit.objection = none ∧ w.self.repo.PlaneClosed tenantId plane :=
  planeCheckAgrees_iff
    (known_serviceRun rt uc policy GraphConsistencyChecker.builtIn listeners env ops)
    (noSelfContradiction_serviceRun rt uc policy GraphConsistencyChecker.builtIn listeners env ops)

/-- A work order of the field plane with a link to one of the commercial plane. -/
def linkedAcross : List GraphServiceOp :=
  [.createObject "north" (.workOrder .commercial) "ada" true,
    .createObject "north" (.workOrder .field) "ada" true,
    .createLink "north"
      { sourceId := "00000000-0000-4000-8000-000000000005"
        targetId := "00000000-0000-4000-8000-000000000000"
        linkType := .derivesFrom }]

/-- The commercial end of the link is reported as not found when the field plane is checked. -/
theorem not_plane_check_agrees : ¬ ∀ (rt : Runtime) (uc : Unicode) (policy : GraphPolicyEngine)
    (listeners : List FabricAuditListener) (env : Env) (ops : List GraphServiceOp)
    (tenantId : String) (plane : PlaneType),
    PlaneCheckAgrees rt
      (serviceRun rt uc ⟨.new policy GraphConsistencyChecker.builtIn listeners, env⟩ ops)
      tenantId plane := by
  intro hall
  have hagrees := hall .reference .ascii ⟨none⟩ [] (.initial "north") linkedAcross "north" .field
  obtain ⟨-, hclosed⟩ := (planeCheckAgrees_iff
    (known_serviceRun .reference .ascii ⟨none⟩ GraphConsistencyChecker.builtIn []
      (.initial "north") linkedAcross)
    (noSelfContradiction_serviceRun .reference .ascii ⟨none⟩ GraphConsistencyChecker.builtIn []
      (.initial "north") linkedAcross)).mp hagrees
  let repo := (serviceRun .reference .ascii ⟨.new ⟨none⟩ GraphConsistencyChecker.builtIn [],
    .initial "north"⟩ linkedAcross).self.repo
  have hlinks : repo.links.values.map (fun l => (l.tenantId, l.sourceId, l.targetId)) =
      [("north", "00000000-0000-4000-8000-000000000005",
        "00000000-0000-4000-8000-000000000000")] := by decide +kernel
  have hsource : (repo.objects.get? "00000000-0000-4000-8000-000000000005").map
      (fun o => (o.tenantId, o.plane)) = some ("north", .field) := by decide +kernel
  have htarget : (repo.objects.get? "00000000-0000-4000-8000-000000000000").map
      (fun o => (o.tenantId, o.plane)) = some ("north", .commercial) := by decide +kernel
  obtain ⟨link, hlink, hends⟩ := List.mem_map.mp (hlinks ▸ List.mem_singleton_self _)
  obtain ⟨htenant, hends⟩ := Prod.mk.inj hends
  obtain ⟨hsourceId, htargetId⟩ := Prod.mk.inj hends
  obtain ⟨source, hsource, hfield⟩ := Option.map_eq_some_iff.mp hsource
  obtain ⟨htenant', hplane'⟩ := Prod.mk.inj hfield
  obtain ⟨target, htarget, hcommercial⟩ := Option.map_eq_some_iff.mp htarget
  have hinside : repo.Inside "north" .field link.sourceId :=
    ⟨source, hsourceId ▸ hsource, htenant', hplane'⟩
  obtain ⟨found, hfound, -, hplane⟩ := (hclosed link hlink htenant (Or.inl hinside)).2
    (htargetId ▸ Dict.mem_of_get? htarget)
  have hsame : some target = some found := by
    rw [← htarget, ← hfound, htargetId]
  obtain rfl := Option.some.inj hsame
  rw [(Prod.mk.inj hcommercial).2] at hplane
  cases hplane

end ControlFabric.Fabric
