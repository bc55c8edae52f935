import ControlFabric.Fabric.Reachable

/-! Every stored link was accepted by the link policy of its time exactly when no object is
superseded by one that the policy does not let succeed it. -/
namespace ControlFabric.Fabric
open Lib Py Method ControlObject

/-- The request that a link answers. -/
def ControlLink.request (link : ControlLink) : ControlLinkCreate where
  sourceId := link.sourceId
  targetId := link.targetId
  linkType := link.linkType
  weight := link.weight
  confidence := link.confidence
  evidence := link.evidence
  metadata := link.metadata

namespace GraphPolicyEngine
variable {engine : GraphPolicyEngine} {create create' : ControlLinkCreate}
  {source source' target target' : ControlObject}

/-- The verdict depends on the type of the link, and on what no method of an object assigns. -/
theorem validateLink_congr (engine : GraphPolicyEngine) (hsourceId : create'.sourceId = create.sourceId)
    (htargetId : create'.targetId = create.targetId) (hlinkType : create'.linkType = create.linkType)
    (hsource : source.SameIdentity source') (htarget : target.SameIdentity target') :
    engine.validateLink create' source' target' = engine.validateLink create source target := by
  have hpolicy : policyViolations create' source' target' =
      policyViolations create source target := by
    funext policy
    unfold policyViolations
    rw [hlinkType, hsource.plane, htarget.plane]
  unfold validateLink
  rw [hpolicy, hsourceId, htargetId, hlinkType, hsource.objectType, htarget.objectType,
    hsource.plane, htarget.plane, hsource.objectKind, htarget.objectKind]

/-- The update may succeed the object: it has the same type and plane, and no policy registered for
the two kinds stands against it. -/
def MaySupersede (engine : GraphPolicyEngine) (update : ControlObjectCreate) (obj : ControlObject) :
    Prop :=
  update.objectType = obj.objectType ∧ update.plane = obj.plane ∧
    ∀ registry ∈ engine.registry, update.objectKind ≠ "" → obj.objectKind ≠ "" →
      ∀ p ∈ registry.getLinkPolicies update.objectKind obj.objectKind,
        .supercedes ∈ p.allowedLinkTypes ∧ p.requiredCrossPlane = false

theorem policyViolations_eq_nil_iff {policy : LinkPolicySpec} (hplane : source.plane = target.plane) :
    policyViolations create source target policy = [] ↔
      create.linkType ∈ policy.allowedLinkTypes ∧ policy.requiredCrossPlane = false := by
  unfold policyViolations
  simp [hplane]

/-- A link of supersession is accepted exactly when its source may succeed its target. -/
theorem validateLink_supercedes_iff {update : ControlObjectCreate}
    (hlinkType : create.linkType = .supercedes) (hne : create.sourceId ≠ create.targetId)
    (hnew : update.Successor target source) :
    engine.validateLink create source target = [] ↔ engine.MaySupersede update target := by
  unfold validateLink MaySupersede
  rw [if_neg hne, hlinkType, hnew.objectType, hnew.plane, hnew.objectKind]
  by_cases htype : update.objectType = target.objectType
  · by_cases hplane : update.plane = target.plane
    · have hsame : source.plane = target.plane := hnew.plane.trans hplane
      cases hregistry : engine.registry with
      | none => simp [htype, hplane]
      | some registry =>
        simp only [htype, hplane, ne_eq, not_true_eq_false, and_false, ite_false, reduceCtorEq,
          false_and, List.append_nil, List.nil_append, true_and, Option.mem_some_iff, forall_eq']
        split
        next hkinds =>
          simp only [List.flatMap_eq_nil_iff, policyViolations_eq_nil_iff hsame, hlinkType]
          exact ⟨fun h _ _ => h, fun h => h hkinds.1 hkinds.2⟩
        next hkinds => exact iff_of_true rfl fun h h' => absurd ⟨h, h'⟩ hkinds
    · simp [hplane]
  · simp [htype]

end GraphPolicyEngine

/-- The policy accepts the link for the objects that are stored at its ends. -/
def AcceptedBy (engine : GraphPolicyEngine) (s : GraphService) (link : ControlLink) : Prop :=
  ∃ source target, s.repo.objects.get? link.sourceId = some source ∧
    s.repo.objects.get? link.targetId = some target ∧
    engine.validateLink link.request source target = []

theorem acceptedBy_iff_validateLink {engine : GraphPolicyEngine} {s : GraphService}
    {link : ControlLink} {source target : ControlObject}
    (hsource : s.repo.objects.get? link.sourceId = some source)
    (htarget : s.repo.objects.get? link.targetId = some target) :
    AcceptedBy engine s link ↔ engine.validateLink link.request source target = [] := by
  constructor
  · rintro ⟨source', target', hsource', htarget', haccepted⟩
    obtain rfl := Option.some.inj (hsource.symm.trans hsource')
    obtain rfl := Option.some.inj (htarget.symm.trans htarget')
    exact haccepted
  · exact fun haccepted => ⟨source, target, hsource, htarget, haccepted⟩

/-- An object is superseded only by one that the policy lets succeed it. -/
def GraphServiceOp.Lawful (uc : Unicode) (s : GraphService) : GraphServiceOp → Prop
  | supersedeObject objectId update _ => ∀ obj ∈ s.repo.objects.get? objectId,
      update.Buildable uc → .superseded ∈ obj.state.validStateTransitions →
        s.audit.objection = none → s.policy.MaySupersede update obj
  | _ => True

section Effects
variable {ids fresh : Set String} {uc : Unicode} {s s' : GraphService} {op : GraphServiceOp}
  {raised : Bool}

/-- The verdict on a stored link stays the same. -/
theorem Effect.acceptedBy_iff (heffect : Effect fresh uc s op raised s') (h : Known ids s)
    (hdisjoint : Disjoint ids fresh) {id : String} {link : ControlLink}
    (hlink : s.repo.links.get? id = some link) (engine : GraphPolicyEngine) :
    AcceptedBy engine s' link ↔ AcceptedBy engine s link := by
  obtain ⟨hsource, htarget⟩ := h.ends id link hlink
  obtain ⟨source, hsource⟩ := Dict.mem_iff_get?.mp hsource
  obtain ⟨target, htarget⟩ := Dict.mem_iff_get?.mp htarget
  obtain ⟨source', hsource', hsourceSame⟩ := heffect.keeps_object h hdisjoint hsource
  obtain ⟨target', htarget', htargetSame⟩ := heffect.keeps_object h hdisjoint htarget
  rw [acceptedBy_iff_validateLink hsource htarget, acceptedBy_iff_validateLink hsource' htarget',
    GraphPolicyEngine.validateLink_congr engine rfl rfl rfl hsourceSame htargetSame]

variable (s') in
/-- The link to a new version is accepted exactly when the update may succeed the original. -/
theorem Superseded.acceptedBy_iff {update : ControlObjectCreate}
    {original original' newObj : ControlObject} {link : ControlLink}
    (hsuperseded : Superseded fresh update original original' newObj link)
    (hne : newObj.id ≠ original.id) (engine : GraphPolicyEngine)
    (hobjects : s'.repo.objects =
      (s.repo.objects.set original'.id original').set newObj.id newObj) :
    AcceptedBy engine s' link ↔ engine.MaySupersede update original := by
  have hsource : s'.repo.objects.get? link.sourceId = some newObj := by
    rw [hobjects, hsuperseded.sourceId, Dict.get?_set_self]
  have htarget : s'.repo.objects.get? link.targetId = some original' := by
    rw [hobjects, hsuperseded.targetId, Dict.get?_set_of_ne hne.symm, hsuperseded.becomes.id,
      Dict.get?_set_self]
  have hends : link.request.sourceId ≠ link.request.targetId := by
    show link.sourceId ≠ link.targetId
    rwa [hsuperseded.sourceId, hsuperseded.targetId]
  rw [acceptedBy_iff_validateLink hsource htarget, GraphPolicyEngine.validateLink_congr engine rfl
    rfl rfl (SameIdentity.refl newObj) hsuperseded.becomes.toSameIdentity]
  exact GraphPolicyEngine.validateLink_supercedes_iff hsuperseded.linkType hends
    hsuperseded.successor

/-- What a call links is accepted exactly when the call is lawful. -/
theorem Effect.lawful_iff (heffect : Effect fresh uc s op raised s') (h : Known ids s)
    (hdisjoint : Disjoint ids fresh) :
    (∀ b : String × ControlLink, ¬ s.repo.links.get? b.1 = some b.2 →
      s'.repo.links.get? b.1 = some b.2 → AcceptedBy s.policy s' b.2) ↔ op.Lawful uc s := by
  have hsame {links : Dict String ControlLink} (b : String × ControlLink)
      (hnew : ¬ links.get? b.1 = some b.2) (hb : links.get? b.1 = some b.2) :
      AcceptedBy s.policy s' b.2 := absurd hb hnew
  have hborn {link : ControlLink} (b : String × ControlLink)
      (hnew : ¬ s.repo.links.get? b.1 = some b.2)
      (hb : (s.repo.links.set link.id link).get? b.1 = some b.2) : b.2 = link := by
    rw [Dict.get?_set] at hb
    split at hb
    next => exact (Option.some.inj hb).symm
    next => exact absurd hb hnew
  cases heffect with
  | @rejected op _ hrejected =>
    apply iff_of_true hsame
    cases op with
    | supersedeObject _ _ _ => exact fun obj hobj hbuild => absurd hbuild (hrejected obj hobj)
    | _ => trivial
  | checked _ _ => exact iff_of_true hsame trivial
  | registered => exact iff_of_true hsame trivial
  | created _ _ => exact iff_of_true hsame trivial
  | unborn _ _ => exact iff_of_true hsame trivial
  | @changed op _ _ _ _ hmoves _ _ _ =>
    apply iff_of_true hsame
    cases op with
    | supersedeObject _ _ _ => exact hmoves.elim
    | _ => trivial
  | @changedSilently op _ _ _ hmoves _ =>
    apply iff_of_true hsame
    cases op with
    | supersedeObject _ _ _ => exact hmoves.elim
    | _ => trivial
  | referred _ hstored hinvalid _ _ =>
    exact iff_of_true hsame ((Dict.forall_get?_of_some hstored).mpr fun _ hvalid =>
      absurd hvalid hinvalid)
  | interrupted _ hstored _ hobjection _ _ _ =>
    exact iff_of_true hsame ((Dict.forall_get?_of_some hstored).mpr fun _ _ hnone =>
      absurd hnone hobjection)
  | @superseded original original' newObj update actor link event hbuild hstored hvalid hobjection
      hsuperseded _ =>
    have hne := h.ne_fresh hdisjoint (Dict.mem_of_get? hstored) hsuperseded.id
    have hmay := hsuperseded.acceptedBy_iff (GraphService.storeLink link
      (GraphService.storeObject newObj ((GraphService.storeObject original' s).logged [event])))
      hne.symm s.policy rfl
    have hlawful : GraphServiceOp.Lawful uc s (.supersedeObject original.id update actor) ↔
        s.policy.MaySupersede update original := by
      refine Iff.trans (Dict.forall_get?_of_some hstored) ?_
      exact ⟨fun hop => hop hbuild hvalid hobjection, fun hop _ _ _ => hop⟩
    rw [hlawful, ← hmay]
    constructor
    · intro hall
      have hlink : s.repo.links.get? link.id ≠ some link := fun hget =>
        h.link_ne_fresh hdisjoint (Dict.mem_of_get? hget) hsuperseded.link_id rfl
      exact hall (link.id, link) hlink (Dict.get?_set_self _ _ _)
    · intro haccepted b hnew hb
      obtain rfl := hborn b hnew hb
      exact haccepted
  | @linked _ create source target link _ hsource htarget haccepted hlinked =>
    apply iff_of_true _ trivial
    intro b hnew hb
    obtain rfl := hborn b hnew hb
    have hverdict : s.policy.validateLink b.2.request source target =
        s.policy.validateLink create source target :=
      GraphPolicyEngine.validateLink_congr s.policy hlinked.sourceId hlinked.targetId
        hlinked.linkType (SameIdentity.refl source) (SameIdentity.refl target)
    refine ⟨source, target, ?_, ?_, hverdict.trans haccepted⟩
    · rw [hlinked.sourceId]
      exact hsource
    · rw [hlinked.targetId]
      exact htarget

end Effects

/-- Each stored link was created by a call, and the policy of that time accepts it for the objects
that are stored at its ends now. -/
def LinksLawful (rt : Runtime) (uc : Unicode) (w : World GraphService) (ops : List GraphServiceOp) :
    Prop :=
  ∀ link : String × ControlLink,
    (serviceRun rt uc w ops).self.repo.links.get? link.1 = some link.2 →
      ∃ before op after, ops = before ++ op :: after ∧
        ¬ (serviceRun rt uc w before).self.repo.links.get? link.1 = some link.2 ∧
        (serviceRun rt uc w (before ++ [op])).self.repo.links.get? link.1 = some link.2 ∧
        AcceptedBy (serviceRun rt uc w before).self.policy (serviceRun rt uc w ops).self link.2

theorem Undrawn.linksLawful_iff {rt : Runtime} (uc : Unicode) {ops : List GraphServiceOp}
    {w : World GraphService} (hw : Undrawn rt w ops)
    (hnone : ∀ link : String × ControlLink, ¬ w.self.repo.links.get? link.1 = some link.2) :
    (∀ pre, pre <+: ops → LinksLawful rt uc w pre) ↔
      Conforms (serviceStep rt uc) (fun op w => op.Lawful uc w.self) w ops := by
  apply (born_iff_conforms (serviceStep rt uc) (I := Undrawn rt) (fun _ _ _ hw => hw.step uc)
    (fun w (link : String × ControlLink) => w.self.repo.links.get? link.1 = some link.2)
    (fun w w' link => AcceptedBy w.self.policy w'.self link.2) _ _ hw hnone).trans
  · apply conforms_congr (serviceStep rt uc) (I := Undrawn rt) (fun _ _ _ hw => hw.step uc) _ hw
    intro w op ops hw
    obtain ⟨k, -, raised, s, -, hstep, hdisjoint, heffect⟩ := hw.effect uc
    rw [hstep]
    exact heffect.lawful_iff hw.known hdisjoint
  · intro w op ops hw link hlink
    obtain ⟨k, -, raised, s, -, hstep, hdisjoint, heffect⟩ := hw.effect uc
    rw [hstep]
    exact heffect.keeps_link hw.known hdisjoint hlink
  · intro w op ops hw link hlink w₀
    obtain ⟨k, -, raised, s, -, hstep, hdisjoint, heffect⟩ := hw.effect uc
    rw [hstep]
    exact heffect.acceptedBy_iff hw.known hdisjoint hlink w₀.self.policy

/-- In every state that a run of a new service goes through each stored link was accepted by the
policy of its time exactly when every object is superseded by one that may succeed it. -/
theorem serviceRun_linksLawful_iff {rt : Runtime} (uc : Unicode) (policy : GraphPolicyEngine)
    (checker : GraphConsistencyChecker) (listeners : List FabricAuditListener) (env : Env)
    {ops : List GraphServiceOp} (huuid : Set.InjOn rt.uuid4 (Set.Iio (env.draws + 7 * ops.length))) :
    (∀ pre, pre <+: ops → LinksLawful rt uc ⟨.new policy checker listeners, env⟩ pre) ↔
      Conforms (serviceStep rt uc) (fun op w => op.Lawful uc w.self)
        ⟨.new policy checker listeners, env⟩ ops :=
  (undrawn_new policy checker listeners huuid).linksLawful_iff uc fun link =>
    GraphService.new_links policy checker listeners link.1 link.2

theorem serviceRun_linksLawful_iff_superseded :
    (∀ pre, pre <+: supersededOrder →
        LinksLawful .reference .ascii
          ⟨.new ⟨none⟩ (fun _ _ => ⟨true, 0, 0⟩) [], .initial "t"⟩ pre) ↔
      Conforms (serviceStep .reference .ascii) (fun op w => op.Lawful .ascii w.self)
        ⟨.new ⟨none⟩ (fun _ _ => ⟨true, 0, 0⟩) [], .initial "t"⟩
        supersededOrder :=
  serviceRun_linksLawful_iff .ascii ⟨none⟩ (fun _ _ => ⟨true, 0, 0⟩) [] (.initial "t")
    (Runtime.reference_uuid4.mono (Set.Iio_subset_Iio (by decide)))

/-- An object may be superseded by one of another plane. -/
theorem serviceRun_supersede_crosses_planes :
    ¬ ∀ (rt : Runtime) (uc : Unicode) (policy : GraphPolicyEngine)
        (checker : GraphConsistencyChecker) (listeners : List FabricAuditListener) (env : Env)
        (ops : List GraphServiceOp),
      Set.InjOn rt.uuid4 (Set.Iio (env.draws + 7 * ops.length)) →
        LinksLawful rt uc ⟨.new policy checker listeners, env⟩ ops := by
  intro h
  have huuid : Set.InjOn Runtime.reference.uuid4 (Set.Iio (0 + 7 * 2)) :=
    Runtime.reference_uuid4.mono (Set.Iio_subset_Iio (by decide))
  obtain ⟨obj, events, -, -, -, -, hplane, hactive, -, hstep⟩ :=
    serviceStep_createObject _ (w := ⟨.new ⟨none⟩ (fun _ _ => ⟨true, 0, 0⟩) [], .initial "t"⟩)
      (ControlObjectCreate.workOrder_buildable .field) rfl "t" "ada" true
  let ops : List GraphServiceOp := [.createObject "t" (.workOrder .field) "ada" true,
    .supersedeObject obj.id (.workOrder .service) "ada"]
  have hlawful : ∀ pre, pre <+: ops → LinksLawful .reference .ascii
      ⟨.new ⟨none⟩ (fun _ _ => ⟨true, 0, 0⟩) [], .initial "t"⟩ pre := by
    intro pre hpre
    apply h
    apply huuid.mono
    apply Set.Iio_subset_Iio
    have hlength := hpre.length_le
    show 0 + 7 * pre.length ≤ 0 + 7 * ops.length
    omega
  obtain ⟨-, hop, -⟩ := ((undrawn_new _ _ _ huuid).linksLawful_iff .ascii fun link =>
    GraphService.new_links _ _ _ link.1 link.2).mp hlawful
  rw [hstep] at hop
  have hvalid : ControlState.superseded ∈ obj.state.validStateTransitions := by
    rw [hactive]
    decide
  obtain ⟨-, hsame, -⟩ := hop obj (Dict.get?_set_self _ _ _)
    (ControlObjectCreate.workOrder_buildable .service) hvalid rfl
  rw [hplane] at hsame
  cases hsame

end ControlFabric.Fabric
